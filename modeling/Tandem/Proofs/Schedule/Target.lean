import Mathlib.Algebra.Ring.Int.Defs
import Mathlib.Algebra.Ring.Nat
import Tandem.Proofs.Schedule.Interleaving

set_option autoImplicit false

/-!
Where a step leads. The program counter wraps at 64 bits, and an offset can be any value
that a register holds. `target` is where an instruction leads when nothing wraps. Starting
inside the program, the target is less than one turn of the counter away from it on either
side, so a target outside the program is still outside after wrapping, and the counter
cannot come round to the program again.
-/

namespace Tandem

namespace Channel

theorem receive?_eq_none_iff (ch : Channel) : ch.receive? = none ↔ ch.length = 0 := by
  rw [← length_queued, List.length_eq_zero_iff]
  exact ⟨queued_of_receive?_eq_none, receive?_of_queued_eq_nil⟩

end Channel

namespace Program

variable {p : Program} {t : Int}

/-- Numbers that a counter of 64 bits and the size of a program can reach from
inside the program. -/
def IsWithinReach (p : Program) (t : Int) : Prop := -2 ^ 63 ≤ t ∧ t < 2 ^ 63 + p.size

theorem toInt_ofInt_of_inside (small : p.size < 2 ^ 63) (inside : 0 ≤ t ∧ t ≤ p.size) :
    (Int64.ofInt t).toInt = t := by
  apply Int64.toInt_ofInt_of_le
  · omega
  · omega

theorem contains_ofInt_iff (small : p.size < 2 ^ 63) (reach : p.IsWithinReach t) :
    p.contains (Int64.ofInt t) = true ↔ 0 ≤ t ∧ t < p.size := by
  obtain ⟨low, high⟩ := reach
  rw [contains_iff]
  by_cases exact : t < 2 ^ 63
  · rw [Int64.toInt_ofInt_of_le low exact]
  · -- beyond the largest value the counter goes on at the smallest, which is below every program
    have wrapped : (Int64.ofInt t).toInt = t - 2 ^ 64 := by
      have size : (Int64.size : Int) = 2 ^ 64 := rfl
      rw [Int64.toInt_ofInt, Int.bmod_def, size]
      omega
    rw [wrapped]
    omega

end Program

namespace Instance

/-- The number of the instruction to which an instruction leads, where numbers do not wrap. -/
def target (c : Instance) (ins : Instruction) : Int :=
  match ins.op with
  | .rcv => if c.inbox.length = 0 then c.pc.toInt else c.pc.toInt + 1
  | .jgz =>
      if 0 < ins.a.resolve c.registers then c.pc.toInt + (ins.b.resolve c.registers).toInt
      else c.pc.toInt + 1
  | _ => c.pc.toInt + 1

theorem pc_perform (c : Instance) {ins : Instruction}
    (assigned : ∀ code, ins.op ≠ .unassigned code) :
    (c.perform ins).1.pc = Int64.ofInt (c.target ins) := by
  have next : Int64.ofInt (c.pc.toInt + 1) = c.pc + 1 := by
    rw [Int64.ofInt_add, Int64.ofInt_toInt]
    rfl
  unfold perform target
  cases operation : ins.op with
  | unassigned code => exact absurd operation (assigned code)
  | rcv =>
      cases received : c.inbox.receive? with
      | none => simp [proceed, c.inbox.receive?_eq_none_iff.mp received]
      | some taken =>
          have filled : c.inbox.length ≠ 0 := by
            intro empty
            rw [c.inbox.receive?_eq_none_iff.mpr empty] at received
            contradiction
          simp [store, filled, next]
  | jgz =>
      by_cases taken : 0 < ins.a.resolve c.registers
      · simp [proceed, taken, Int64.ofInt_add]
      · simp [proceed, taken, next]
  | _ => exact next.symm

theorem isWithinReach_target {p : Program} {c : Instance} (inside : p.contains c.pc = true)
    (ins : Instruction) : p.IsWithinReach (c.target ins) := by
  have range := (p.contains_iff c.pc).mp inside
  have low := c.pc.le_toInt
  have high := c.pc.toInt_lt
  have offsetLow := (ins.b.resolve c.registers).le_toInt
  have offsetHigh := (ins.b.resolve c.registers).toInt_lt
  unfold target Program.IsWithinReach
  cases ins.op with
  | rcv => split <;> omega
  | jgz => split <;> omega
  | _ =>
      simp only
      omega

/-- A step that carries out an instruction goes to its target, wrapped, and stops there unless it is
inside the program. -/
theorem advance_target {p : Program} {c : Instance} {ins : Instruction}
    (running : c.isRunning = true) (fetched : p.fetch? c.pc = some ins)
    (faultless : c.fault? ins = none) :
    (c.advance p).1.pc = Int64.ofInt (c.target ins) ∧
      (c.advance p).1.terminated = !p.contains (Int64.ofInt (c.target ins)) := by
  have alive := (c.isRunning_iff.mp running).1
  have arrives := c.pc_perform (not_unassigned_of_fault? faultless)
  rw [advance_of_fetch? running fetched]
  simp [alive, arrives]

end Instance

namespace Pair

/-- Whoever the partner is, and be it the side itself, it does not change the core
that a step has led to. -/
theorem core_get_advance (program : Program) (p : Pair) (s partner : Side) :
    ((p.advance program s partner).get s).core = ((p.get s).advance program).1.core := by
  have own : (p.set s ((p.get s).advance program).1).get s = ((p.get s).advance program).1 :=
    get_modify_self p s _
  rw [advance, act_eq]
  cases ((p.get s).advance program).2 with
  | none => exact congrArg Instance.core own
  | some value =>
      rcases partner.eq_or_eq_other s with equality | equality
      · subst equality
        rw [get_deliver_self, own]
        rfl
      · subst equality
        rw [get_deliver_other, own]

/-- A step of a side that runs at an instruction without a fault succeeds, and
takes it to its target. -/
theorem step_target {program : Program} (small : program.size < 2 ^ 63) {p : Pair} {s : Side}
    {ins : Instruction} (running : (p.get s).isRunning = true)
    (fetched : program.fetch? (p.get s).pc = some ins) (faultless : (p.get s).fault? ins = none)
    (partner : Side) :
    ∃ next, p.step program s partner = .ok next ∧
      (next.get s).pc = Int64.ofInt ((p.get s).target ins) ∧
      ((next.get s).terminated = true ↔
        ¬ (0 ≤ (p.get s).target ins ∧ (p.get s).target ins < program.size)) := by
  have noFault : (p.get s).stepFault? program = none := by
    simp [Instance.stepFault?, running, fetched, faultless]
  obtain ⟨arrives, stops⟩ := Instance.advance_target running fetched faultless
  have reach := Instance.isWithinReach_target (Program.contains_of_fetch? fetched) ins
  have sameCore := core_get_advance program p s partner
  refine ⟨p.advance program s partner, ?_, ?_, ?_⟩
  · simp only [step, noFault]
  · exact (congrArg Instance.Core.pc sameCore).trans arrives
  · have sameEnd : ((p.advance program s partner).get s).terminated = _ :=
      (congrArg Instance.Core.terminated sameCore).trans stops
    rw [sameEnd, ← Program.contains_ofInt_iff small reach]
    simp

/-- In a program of less than 2^63 instructions, a step that does not fail takes a side that
runs inside the program to the target of its instruction, wrapped at 64 bits. The side
terminates exactly if the target as it would be without wrapping is outside the program;
otherwise it is at that target. -/
theorem wrapping_never_reenters (program : Program) (small : program.size < 2 ^ 63) (p next : Pair)
    (s partner : Side) (running : (p.get s).isRunning = true)
    (inside : 0 ≤ (p.get s).pc.toInt ∧ (p.get s).pc.toInt < program.size)
    (stepped : p.step program s partner = .ok next) :
    ∃ ins, program.fetch? (p.get s).pc = some ins ∧
      let target := (p.get s).target ins
      (next.get s).pc = Int64.ofInt target ∧
      ((next.get s).terminated = true ↔ ¬ (0 ≤ target ∧ target < program.size)) ∧
      (0 ≤ target ∧ target < program.size → (next.get s).pc.toInt = target) := by
  obtain ⟨ins, fetched⟩ : ∃ ins, program.fetch? (p.get s).pc = some ins := by
    rw [← Option.isSome_iff_exists, Program.isSome_fetch?]
    exact (program.contains_iff (p.get s).pc).mpr inside
  have faultless : (p.get s).fault? ins = none := by
    cases failing : (p.get s).fault? ins with
    | none => rfl
    | some fault => simp [step, Instance.stepFault?, running, fetched, failing] at stepped
  obtain ⟨found, reached, arrives, stops⟩ := step_target small running fetched faultless partner
  obtain rfl : next = found := Except.ok.inj (stepped.symm.trans reached)
  refine ⟨ins, fetched, arrives, stops, ?_⟩
  rintro ⟨low, high⟩
  rw [arrives]
  exact Program.toInt_ofInt_of_inside small ⟨low, Int.le_of_lt high⟩

/-- Two instructions, of which the second jumps by the largest offset that there is. -/
def farJump : Program :=
  .ofInstructions [.rcv ⟨97⟩, .jgz (.ofLiteral 1) (.ofLiteral Int64.maxValue)]

theorem wrapping_never_reenters_farJump :
    let p := Pair.new.modify .zero fun c => { c with pc := 1 }
    farJump.size < 2 ^ 63 ∧ (p.get .zero).isRunning = true ∧
      ∃ ins next, farJump.fetch? 1 = some ins ∧ p.step farJump .zero .one = .ok next ∧
        (p.get .zero).target ins = 2 ^ 63 ∧ (next.get .zero).pc = Int64.ofInt (2 ^ 63) ∧
        (next.get .zero).pc = Int64.minValue ∧ (next.get .zero).terminated = true := by
  intro p
  have small : farJump.size < 2 ^ 63 := by decide
  have stepped : ∃ next, p.step farJump .zero .one = .ok next := ⟨_, rfl⟩
  obtain ⟨next, stepped⟩ := stepped
  obtain ⟨ins, fetched, arrives, stops, _⟩ :=
    wrapping_never_reenters farJump small p next .zero .one rfl (by decide) stepped
  have jumps : farJump.fetch? 1 = some (.jgz (.ofLiteral 1) (.ofLiteral Int64.maxValue)) := by
    decide
  obtain rfl := Option.some.inj (fetched.symm.trans jumps)
  have far : (p.get .zero).target (.jgz (.ofLiteral 1) (.ofLiteral Int64.maxValue)) = 2 ^ 63 := by
    decide
  rw [far] at arrives stops
  exact ⟨small, rfl, _, next, jumps, stepped, far, arrives, arrives.trans (by decide),
    stops.mpr (by decide)⟩

end Pair

end Tandem

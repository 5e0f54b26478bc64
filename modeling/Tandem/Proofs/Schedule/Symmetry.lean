import Tandem.Proofs.Machine.Registers
import Tandem.Proofs.Schedule.Forgetting
import Tandem.Proofs.Schedule.Halting
import Tandem.Proofs.Schedule.Independence

set_option autoImplicit false

/-!
Programs that do not look at the id of their instance. The two sides differ in nothing but their id,
the register that holds it, and what is built around their inboxes. `nameless` forgets all three,
which a program that never names the register cannot tell. After a reset both sides are then the
same, so the pair is also the pair with its sides exchanged.

The scheduler does not treat its sides alike, and they are different along the way. But an exchange
of sides is only another order of the same steps, and by schedule independence all orders end alike.
-/

namespace Tandem

/-- No instruction of the program uses the register. -/
def Program.Ignores (p : Program) (r : RegisterName) : Prop :=
  ∀ ins ∈ p.instructions, r ∉ ins.registers

theorem Program.Ignores.not_mem_of_fetch? {p : Program} {r : RegisterName} {pc : Int64}
    {ins : Instruction} (ignores : p.Ignores r) (fetched : p.fetch? pc = some ins) :
    r ∉ ins.registers := by
  apply ignores
  obtain ⟨line, found, rfl⟩ := Option.map_eq_some_iff.mp fetched
  simp only [line?] at found
  split at found
  next =>
    have listed : line ∈ p.code := Array.mem_of_getElem? found
    exact List.mem_map.mpr ⟨line, listed.val, rfl⟩
  next => contradiction

namespace Instance

/-- The instance without its id, and with its inbox taken out of all that is around it. -/
def nameless (c : Instance) : Instance :=
  { c with id := 0, registers := c.registers.set .pid 0, inbox := .queue c.inbox.base }

theorem nameless_reset (p : Program) (c : Instance) :
    (c.reset.checkBounds p).nameless = (new 0).checkBounds p := by
  rw [checkBounds_eq, checkBounds_eq]
  simp only [nameless, reset, new, RegisterFile.set_set, Channel.base_rewind]
  rfl

@[simp]
theorem nameless_checkBounds (p : Program) (c : Instance) :
    (c.checkBounds p).nameless = c.nameless.checkBounds p := by
  rw [checkBounds_eq, checkBounds_eq]
  rfl

@[simp]
theorem nameless_deliver {c : Instance} (ready : c.inbox.IsReady) (value : Int64) :
    (c.deliver value).nameless = c.nameless.deliver value := by
  simp only [nameless, deliver, ready.base_send, Channel.send]

@[simp]
theorem nameless_store (c : Instance) {r : RegisterName} (other : r ≠ .pid) (value : Int64) :
    (c.store r value).nameless = c.nameless.store r value := by
  simp only [nameless, store, RegisterFile.set_comm _ other]

@[simp]
theorem resolve_nameless (c : Instance) {v : Operand} (unnamed : RegisterName.pid ∉ v.registers) :
    v.resolve c.nameless.registers = v.resolve c.registers :=
  Operand.resolve_set_of_not_mem unnamed c.registers 0

section Unnamed

variable {ins : Instruction} (unnamed : RegisterName.pid ∉ ins.registers) (c : Instance)
include unnamed

@[simp]
theorem fault?_nameless : c.nameless.fault? ins = c.fault? ins := by
  unfold fault?
  cases operation : ins.op with
  | mod =>
      simp only [Instruction.registers, operation, List.mem_cons, not_or] at unnamed
      simp [unnamed.2]
  | _ => rfl

@[simp]
theorem perform_nameless :
    c.nameless.perform ins = ((c.perform ins).1.nameless, (c.perform ins).2) := by
  have elsewhere : ∀ r, r ≠ .pid → c.nameless.registers.get r = c.registers.get r :=
    fun r other => RegisterFile.get_set_of_ne c.registers (Ne.symm other) 0
  unfold perform
  cases operation : ins.op with
  | set | add | mul | mod =>
      simp only [Instruction.registers, operation, List.mem_cons, not_or] at unnamed
      have other : ins.register ≠ .pid := Ne.symm unnamed.1
      simp only [resolve_nameless c unnamed.2, elsewhere _ other, nameless_store c other]
  | snd =>
      simp only [Instruction.registers, operation] at unnamed
      simp only [resolve_nameless c unnamed]
      rfl
  | rcv =>
      simp only [Instruction.registers, operation, List.mem_singleton] at unnamed
      have received : c.nameless.inbox.receive? =
          c.inbox.receive?.map fun taken => (taken.1, .queue taken.2.base) := by
        simp only [nameless, Channel.receive?, Channel.receive?_base, Option.map_map]
        rfl
      simp only [received]
      cases c.inbox.receive? with
      | none => rfl
      | some taken =>
          have stored := nameless_store c (Ne.symm unnamed) taken.1
          have registers := congrArg Instance.registers stored
          simp only [nameless, store] at registers
          simp only [Option.map_some, nameless, store, registers]
  | jgz =>
      simp only [Instruction.registers, operation, List.mem_append, not_or] at unnamed
      simp only [resolve_nameless c unnamed.1, resolve_nameless c unnamed.2]
      rfl
  | unassigned code => rfl

end Unnamed

variable {p : Program} (ignores : p.Ignores .pid) (c : Instance)
include ignores

@[simp]
theorem stepFault?_nameless : c.nameless.stepFault? p = c.stepFault? p := by
  unfold stepFault?
  rw [show c.nameless.isRunning = c.isRunning from rfl, show c.nameless.pc = c.pc from rfl]
  cases fetched : p.fetch? c.pc with
  | none => rfl
  | some ins =>
      simp only [Option.bind_some]
      simp [ignores.not_mem_of_fetch? fetched]

@[simp]
theorem advance_nameless :
    c.nameless.advance p = ((c.advance p).1.nameless, (c.advance p).2) := by
  unfold advance
  rw [show c.nameless.isRunning = c.isRunning from rfl, show c.nameless.pc = c.pc from rfl]
  by_cases running : c.isRunning = true
  · rw [if_pos running, if_pos running]
    cases fetched : p.fetch? c.pc with
    | none => simp
    | some ins =>
        simp [ignores.not_mem_of_fetch? fetched]
  · rw [if_neg running, if_neg running]

end Instance

namespace Pair

/-- Without their ids the sides play the same interleaving. -/
theorem interleave_nameless {program : Program} (ignores : program.Ignores .pid) {p final : Pair}
    {schedule : List Side} (coherent : p.IsCoherent program)
    (played : p.interleave program schedule = .ok final) :
    (p.forget Instance.nameless).interleave program schedule =
      .ok (final.forget Instance.nameless) := by
  induction schedule generalizing p with
  | nil =>
      cases played
      rfl
  | cons s rest inductionHypothesis =>
      rw [interleave_cons] at played ⊢
      rw [get_forget, Instance.stepFault?_nameless ignores]
      cases failing : (p.get s).stepFault? program with
      | some fault => simp [failing] at played
      | none =>
          rw [failing] at played
          have sameFault : ((p.forget Instance.nameless).get s).stepFault? program = none := by
            simpa [ignores] using failing
          have sameStep : (p.forget Instance.nameless).attempt program s =
              (p.attempt program s).forget Instance.nameless := by
            rw [attempt_of_no_fault sameFault, attempt_of_no_fault failing]
            symm
            apply forget_advance
            · intro value
              rfl
            · exact Instance.advance_nameless ignores (p.get s)
            · intro value
              exact Instance.nameless_deliver (coherent s.other).ready value
          simp only
          rw [sameStep]
          exact inductionHypothesis (coherent.attempt s) played

/-- A pair with equal sides can play every interleaving with its sides exchanged. -/
theorem interleave_map_other {program : Program} {p final : Pair} {schedule : List Side}
    (same : p.swap = p) (played : p.interleave program schedule = .ok final) :
    p.interleave program (schedule.map Side.other) = .ok final.swap := by
  have exchanged := interleave_swap program p schedule
  rw [same, played] at exchanged
  cases otherPlayed : p.interleave program (schedule.map Side.other) with
  | error fault => simp [otherPlayed, Except.map] at exchanged
  | ok reached =>
      rw [otherPlayed] at exchanged
      have reachedSwap : final = reached.swap := Except.ok.inj exchanged
      rw [reachedSwap, swap_swap]

@[simp]
theorem isRunning_forget_nameless (p : Pair) :
    (p.forget Instance.nameless).isRunning = p.isRunning := rfl

@[simp]
theorem isRunning_swap (p : Pair) : p.swap.isRunning = p.isRunning := Bool.or_comm _ _

end Pair

namespace Duo

/-- Without their ids, both sides of a duo that has halted are left with the same outcome. -/
theorem outcome_nameless_eq {d final : Duo} {moves : Nat} (ignores : d.program.Ignores .pid)
    (returned : d.reset.run moves = some (final, .ok ())) :
    final.pair.zero.nameless.outcome = final.pair.one.nameless.outcome := by
  have played := (interleave_run returned).2
  have stopped := isRunning_of_run returned
  have twins : d.reset.pair.forget Instance.nameless =
      ⟨(Instance.new 0).checkBounds d.program, (Instance.new 0).checkBounds d.program,
        #[]⟩ := by
    simp only [Pair.forget, reset, Pair.map, Instance.nameless_reset]
  have coherent : (d.reset.pair.forget Instance.nameless).IsCoherent d.program := by
    rw [twins]
    intro s
    cases s <;> exact Instance.isCoherent_reset d.program (.new 0)
  -- the run and its exchange start from one pair and have both stopped, so they end alike
  have anonymous := Pair.interleave_nameless ignores d.isCoherent_reset played
  have exchanged := Pair.interleave_map_other (by rw [twins]; rfl) anonymous
  have equality := Pair.outcome_eq_of_stopped coherent anonymous
    ((Pair.isRunning_forget_nameless _).trans stopped) exchanged
    ((Pair.isRunning_swap _).trans ((Pair.isRunning_forget_nameless _).trans stopped)) .zero
  exact equality

/-- If no instruction uses the register with the id, a run that halts leaves both sides alike,
but for that register. -/
theorem sides_end_alike (d final : Duo) (moves : Nat) (ignores : d.program.Ignores .pid)
    (returned : d.reset.run moves = some (final, .ok ())) :
    let zero := final.pair.get .zero
    let one := final.pair.get .one
    zero.pc = one.pc ∧ zero.sent = one.sent ∧ zero.received = one.received ∧
      zero.terminated = one.terminated ∧ zero.blocked = one.blocked ∧
      zero.inbox.queued = one.inbox.queued ∧
      (∀ r, r ≠ .pid → zero.registers.get r = one.registers.get r) ∧
      final.halt ≠ .stalled := by
  intro zero one
  have same := outcome_nameless_eq ignores returned
  simp only [Instance.outcome, Instance.Outcome.mk.injEq] at same
  obtain ⟨registers, pc, terminated, blocked, sent, received, queued⟩ := same
  refine ⟨pc, sent, received, terminated, blocked, queued, ?_, ?_⟩
  · intro r other
    -- the cells of the two files are equal although the files are not
    have sameCell := congrArg (fun rf => RegisterFile.get rf r) registers
    simp only [Instance.nameless] at sameCell
    rw [RegisterFile.get_set_of_ne _ (Ne.symm other),
      RegisterFile.get_set_of_ne _ (Ne.symm other)] at sameCell
    exact sameCell
  · intro stalled
    have stopped := isRunning_of_run returned
    obtain ⟨s, left, stays⟩ := (halt_of_stopped stopped).2.2.2.mp stalled
    have agree : (final.pair.get s).terminated = (final.pair.get s.other).terminated := by
      cases s with
      | zero => exact terminated
      | one => exact terminated.symm
    rw [left, stays] at agree
    contradiction

/-- Each side sends 5, sends what it gets three times over, and then waits for a value too many. -/
def echo : Duo :=
  { Duo.new with
    program := .ofInstructions
      [.snd (.ofLiteral 5), .rcv ⟨97⟩, .mul ⟨97⟩ (.ofLiteral 3),
        .snd (.ofRegister ⟨97⟩), .rcv ⟨98⟩, .rcv ⟨99⟩] }

theorem sides_end_alike_echo :
    ∃ final, echo.program.Ignores .pid ∧ echo.reset.run 40 = some (final, .ok ()) ∧
      final.halt = .deadlock ∧ final.cycles = 2 ∧
      final.pair.zero.registers.get ⟨98⟩ = 15 ∧ final.pair.one.registers.get ⟨98⟩ = 15 ∧
      ∀ r, r ≠ .pid →
        (final.pair.get .zero).registers.get r = (final.pair.get .one).registers.get r := by
  have ignores : echo.program.Ignores .pid := by
    unfold Program.Ignores
    decide
  have ran : ∃ final, echo.reset.run 40 = some (final, .ok ()) ∧ final.halt = .deadlock ∧
      final.cycles = 2 ∧ final.pair.zero.registers.get ⟨98⟩ = 15 :=
        ⟨_, rfl, rfl, rfl, rfl⟩
  obtain ⟨final, returned, deadlock, two, fifteen⟩ := ran
  obtain ⟨_, _, _, _, _, _, alike, _⟩ := sides_end_alike echo final 40 ignores returned
  have other : (⟨98⟩ : RegisterName) ≠ .pid := by decide
  exact ⟨final, ignores, returned, deadlock, two, fifteen, (alike _ other).symm.trans fifteen,
    alike⟩

end Duo

end Tandem

import Mathlib.Algebra.Ring.Int.Defs
import Mathlib.Algebra.Ring.Nat
import Tandem.Proofs.Machine.Registers
import Tandem.Proofs.Schedule.Interleaving

set_option autoImplicit false

/-!
What an instruction does, and that it does nothing else. The rules are about integers of any size,
of which a register keeps as much as 64 bits hold, and about registers one by one. `Effect` gives
both instances after an instruction field by field: the fields that a rule does not name are those
from before, and operands are always read in the registers from before.
-/

namespace Tandem

/-! ### Numbers in 64 bits -/

/-- The result is in the signed 64-bit range, and a multiple of 2^64 away from the number. -/
structure IsWrapped (n result : Int) : Prop where
  low : -2 ^ 63 ≤ result
  high : result < 2 ^ 63
  congruent : 2 ^ 64 ∣ n - result

/-- The result is the remainder of a division that rounds towards zero. -/
structure IsRemainder (dividend divisor result : Int) : Prop where
  exact : ∃ quotient, result = dividend - divisor * quotient
  small : result.natAbs < divisor.natAbs
  sign : result = 0 ∨ result.sign = dividend.sign

/-- What an operation stores, given what its register and its operand hold. -/
def Op.Yields : Op → (held operand result : Int) → Prop
  | .set, _, operand, result => IsWrapped operand result
  | .add, held, operand, result => IsWrapped (held + operand) result
  | .mul, held, operand, result => IsWrapped (held * operand) result
  | .mod, held, operand, result => IsRemainder held operand result
  | _, _, _, _ => False

theorem isWrapped_toInt {n : Int} {value : Int64} (reduced : value.toInt = n.bmod (2 ^ 64)) :
    IsWrapped n value.toInt where
  low := value.le_toInt
  high := value.toInt_lt
  congruent := by
    rw [reduced]
    exact Int.dvd_self_sub_bmod

theorem isRemainder_toInt (x : Int64) {y : Int64} (nonzero : y ≠ 0) :
    IsRemainder x.toInt y.toInt (x % y).toInt where
  exact := ⟨x.toInt.tdiv y.toInt, by rw [Int64.toInt_mod, Int.tmod_def]⟩
  small := by
    have positive : 0 < y.toInt.natAbs := by
      apply Int.natAbs_pos.mpr
      intro zero
      exact nonzero (Int64.toInt_inj.mp zero)
    rw [Int64.toInt_mod, Int.natAbs_tmod]
    exact Nat.mod_lt _ positive
  sign := by
    have sign := Int.sign_tmod x.toInt y.toInt
    rw [Int64.toInt_mod]
    by_cases divides : y.toInt ∣ x.toInt
    · rw [if_pos divides] at sign
      exact .inl (Int.sign_eq_zero_iff_zero.mp sign)
    · rw [if_neg divides] at sign
      exact .inr sign

/-! ### Registers -/

/-- The register takes the value if it is one of `a` to `z`, and all others keep theirs. -/
def RegisterFile.Stores (before : RegisterFile) (r : RegisterName) (value : Int64)
    (after : RegisterFile) : Prop :=
  ∀ other, after.get other =
    if other = r ∧ 97 ≤ r.byte ∧ r.byte ≤ 122 then value else before.get other

theorem RegisterFile.stores_set (rf : RegisterFile) (r : RegisterName) (value : Int64) :
    rf.Stores r value (rf.set r value) := by
  intro other
  simp only [← r.isStored_iff]
  by_cases same : other = r
  · subst same
    cases stored : other.isStored with
    | true => simp [get_set_self rf stored]
    | false => simp [set_of_not_isStored rf stored]
  · simp [same, get_set_of_ne rf (Ne.symm same)]

/-! ### Inboxes -/

namespace Channel

@[simp]
theorem taps_send (ch : Channel) (value : Int64) :
    (ch.send value).taps = ch.taps.map (·.record value) := by
  induction ch with
  | absent => rfl
  | queue q => rfl
  | veiled inner inductionHypothesis => exact inductionHypothesis
  | tapped tap inner inductionHypothesis => simp [send, taps, inductionHypothesis]

theorem taps_of_receive? {ch next : Channel} {value : Int64}
    (received : ch.receive? = some (value, next)) :
    next.taps = ch.taps := by
  induction ch generalizing value next with
  | absent => contradiction
  | queue q =>
      obtain ⟨_, _, same⟩ := Option.map_eq_some_iff.mp received
      cases same
      rfl
  | veiled inner inductionHypothesis =>
      obtain ⟨taken, given, same⟩ := Option.map_eq_some_iff.mp received
      cases same
      have kept := inductionHypothesis given
      exact kept
  | tapped tap inner inductionHypothesis =>
      obtain ⟨taken, given, same⟩ := Option.map_eq_some_iff.mp received
      cases same
      exact congrArg (· ++ [tap]) (inductionHypothesis given)

end Channel

/-! ### One instruction -/

namespace Instance

/-- What an instruction makes of the instance that executes it and of its partner. -/
inductive Effect (ins : Instruction) (c partner : Instance) : Instance → Instance → Prop where
  | compute {value : Int64} {registers : RegisterFile} :
      ins.op.Yields (c.registers.get ins.register).toInt (ins.a.resolve c.registers).toInt
        value.toInt →
      c.registers.Stores ins.register value registers →
      Effect ins c partner { c with registers, pc := c.pc + 1, ticks := c.ticks + 1 } partner
  | send {inbox : Channel} :
      ins.op = .snd →
      inbox.queued = partner.inbox.queued ++ [ins.a.resolve c.registers] →
      inbox.taps = partner.inbox.taps.map (·.record (ins.a.resolve c.registers)) →
      Effect ins c partner { c with pc := c.pc + 1, ticks := c.ticks + 1, sent := c.sent + 1 }
        { partner with inbox, blocked := false }
  | receive {value : Int64} {inbox : Channel} {registers : RegisterFile} :
      ins.op = .rcv → c.inbox.queued = value :: inbox.queued → inbox.taps = c.inbox.taps →
      c.registers.Stores ins.register value registers →
      Effect ins c partner
        { c with
          registers, inbox, pc := c.pc + 1, ticks := c.ticks + 1, blocked := false,
          received := c.received + 1 }
        partner
  | wait :
      ins.op = .rcv → c.inbox.queued = [] →
      Effect ins c partner { c with ticks := c.ticks + 1, blocked := true } partner
  | jump :
      ins.op = .jgz →
      Effect ins c partner
        { c with
          pc := c.pc + if 0 < ins.a.resolve c.registers then ins.b.resolve c.registers else 1
          ticks := c.ticks + 1 }
        partner

/-- The partner after an instruction, which may have sent it a value. -/
def handed (partner : Instance) : Option Int64 → Instance
  | none => partner
  | some value => partner.deliver value

variable {ins : Instruction} {c : Instance}

theorem fault?_eq_none_iff :
    c.fault? ins = none ↔
      (∀ code, ins.op ≠ .unassigned code) ∧
        (ins.op = .mod → ins.a.resolve c.registers ≠ 0) := by
  unfold fault?
  cases ins.op <;> simp

theorem effect_store (partner : Instance) {value : Int64}
    (yields : ins.op.Yields (c.registers.get ins.register).toInt (ins.a.resolve c.registers).toInt
      value.toInt) :
    Effect ins c partner (c.store ins.register value) partner :=
  .compute yields (c.registers.stores_set ins.register value)

theorem effect_perform_rcv (partner : Instance) (receives : ins.op = .rcv) :
    Effect ins c partner (c.perform ins).1 (partner.handed (c.perform ins).2) := by
  cases received : c.inbox.receive? with
  | none =>
      rw [perform_of_nothing_received receives received]
      exact .wait receives (Channel.queued_of_receive?_eq_none received)
  | some taken =>
      rw [perform_of_received receives received]
      exact .receive receives (Channel.queued_of_receive? received)
        (Channel.taps_of_receive? received) (c.registers.stores_set ins.register taken.1)

theorem effect_perform {partner : Instance} (faultless : c.fault? ins = none)
    (ready : partner.inbox.IsReady) :
    Effect ins c partner (c.perform ins).1 (partner.handed (c.perform ins).2) := by
  obtain ⟨op, register, a, b⟩ := ins
  cases op with
  | set =>
      apply effect_store partner
      exact isWrapped_toInt (Int64.toInt_bmod _).symm
  | add =>
      apply effect_store partner
      exact isWrapped_toInt (Int64.toInt_add _ _)
  | mul =>
      apply effect_store partner
      exact isWrapped_toInt (Int64.toInt_mul _ _)
  | mod =>
      have nonzero : a.resolve c.registers ≠ 0 := (fault?_eq_none_iff.mp faultless).2 rfl
      apply effect_store partner
      exact isRemainder_toInt _ nonzero
  | snd => exact .send rfl (ready.queued_send _) (partner.inbox.taps_send _)
  | rcv => exact effect_perform_rcv partner rfl
  | jgz => exact .jump rfl
  | unassigned code => contradiction

end Instance

namespace Pair

theorem execute_eq_ok_iff {p next : Pair} {s partner : Side} {ins : Instruction} :
    p.execute s partner ins = .ok next ↔
      (p.get s).fault? ins = none ∧ p.act s partner (·.perform ins) = next := by
  unfold execute
  cases (p.get s).fault? ins <;> simp

/-- An instruction succeeds if its operation is assigned and it does not divide by zero. It then has
its effect on the two sides, and no other. Only a value that is sent can be written down. -/
theorem instructions_have_only_their_effect (p : Pair) (s : Side) (ins : Instruction)
    (ready : ∀ side, (p.get side).inbox.IsReady) :
    ((∃ next, p.execute s s.other ins = .ok next) ↔
      (∀ code, ins.op ≠ .unassigned code) ∧
        (ins.op = .mod → ins.a.resolve (p.get s).registers ≠ 0)) ∧
    ∀ next, p.execute s s.other ins = .ok next →
      Instance.Effect ins (p.get s) (p.get s.other) (next.get s) (next.get s.other) ∧
        (ins.op ≠ .snd → next.trace = p.trace) := by
  constructor
  · simp only [execute_eq_ok_iff, exists_and_left, exists_eq', and_true]
    exact Instance.fault?_eq_none_iff
  · intro next executed
    obtain ⟨faultless, rfl⟩ := execute_eq_ok_iff.mp executed
    constructor
    · rw [get_act_self, get_act_other]
      exact Instance.effect_perform faultless (ready s.other)
    · intro silent
      rw [act_eq, Instance.perform_snd, if_neg silent]
      cases s <;> rfl

/-- Side zero holds the smallest number and minus one. -/
def extremes : Pair :=
  Pair.new.modify .zero fun c =>
    { c with registers := (c.registers.set ⟨97⟩ Int64.minValue).set ⟨98⟩ (-1) }

/-- The quotient of the smallest number by minus one has no place in 64 bits, but
the remainder does. -/
theorem instructions_have_only_their_effect_extremes :
    (∀ side, (extremes.get side).inbox.IsReady) ∧
      ∃ next, extremes.execute .zero .one (.mod ⟨97⟩ (.ofRegister ⟨98⟩)) = .ok next ∧
        (next.get .zero).registers.get ⟨97⟩ = 0 ∧
        Instance.Effect (.mod ⟨97⟩ (.ofRegister ⟨98⟩)) (extremes.get .zero)
          (extremes.get .one) (next.get .zero) (next.get .one) := by
  have ready : ∀ side, (extremes.get side).inbox.IsReady := by
    intro side
    cases side with
    | zero => exact Queue.isValid_empty
    | one => exact Queue.isValid_empty
  have executed : ∃ next, extremes.execute .zero .one (.mod ⟨97⟩ (.ofRegister ⟨98⟩)) =
      .ok next ∧ (next.get .zero).registers.get ⟨97⟩ = 0 := ⟨_, rfl, by decide⟩
  obtain ⟨next, executed, zero⟩ := executed
  have effects := (instructions_have_only_their_effect extremes .zero _ ready).2 next executed
  exact ⟨ready, next, executed, zero, effects.1⟩

end Pair

end Tandem

import Tandem.Machine.Instance
import Tandem.Proofs.Channel.Contents

set_option autoImplicit false

/-!
One step of one instance. `sends?` and `takes?` name the value that a step sends and the value that
it takes from the inbox, and `core` is what waiting does not change. A step depends on the inbox
through the value that it takes, and on nothing but the core otherwise.
-/

namespace Tandem

namespace Program

theorem contains_iff (p : Program) (pc : Int64) :
    p.contains pc = true ↔ 0 ≤ pc.toInt ∧ pc.toInt < p.size := by
  simp only [contains, Bool.and_eq_true, decide_eq_true_eq]

@[simp]
theorem isSome_fetch? (p : Program) (pc : Int64) : (p.fetch? pc).isSome = p.contains pc := by
  cases inside : p.contains pc with
  | false => simp [fetch?, line?, inside]
  | true =>
      have bound : pc.toInt.toNat < p.code.size := by
        have range := (p.contains_iff pc).mp inside
        rw [size] at range
        omega
      simp only [fetch?, line?, inside, if_true, Array.getElem?_eq_getElem bound]
      rfl

theorem contains_of_fetch? {p : Program} {pc : Int64} {ins : Instruction}
    (fetched : p.fetch? pc = some ins) : p.contains pc = true := by
  rw [← isSome_fetch?, fetched]
  rfl

end Program

namespace Instance

/-- The value that the next step sends to the partner, if any. -/
def sends? (p : Program) (c : Instance) : Option Int64 :=
  match p.fetch? c.pc with
  | some ins => if c.isRunning ∧ ins.op = .snd then some (ins.a.resolve c.registers) else none
  | none => none

/-- The value that the next step takes from the inbox, if any. -/
def takes? (p : Program) (c : Instance) : Option Int64 :=
  match p.fetch? c.pc with
  | some ins => if c.isRunning ∧ ins.op = .rcv then c.inbox.receive?.map (·.1) else none
  | none => none

/-- The instance stands at an instruction that takes a value. -/
def AtReceive (p : Program) (c : Instance) : Prop :=
  ∃ ins, p.fetch? c.pc = some ins ∧ ins.op = .rcv

/-- The instance needs a value to go on, and none is queued. -/
def IsStarved (p : Program) (c : Instance) : Prop := c.AtReceive p ∧ c.inbox.queued = []

/-- The instance stands at a `rcv` and has a value to take. -/
def IsFed (p : Program) (c : Instance) : Prop := c.AtReceive p ∧ c.inbox.queued ≠ []

/-- What an instance has achieved, whatever it waits for or has not read yet. -/
structure Core where
  registers : RegisterFile
  pc : Int64
  terminated : Bool
  sent : UInt64
  received : UInt64
  deriving DecidableEq

def core (c : Instance) : Core := ⟨c.registers, c.pc, c.terminated, c.sent, c.received⟩

theorem checkBounds_eq (p : Program) (c : Instance) :
    c.checkBounds p =
      { c with
        terminated := c.terminated || !p.contains c.pc
        blocked := c.blocked && p.contains c.pc } := by
  cases inside : p.contains c.pc <;> simp [checkBounds, inside]

section CheckBounds

variable (p : Program) (c : Instance)

@[simp]
theorem id_checkBounds : (c.checkBounds p).id = c.id := by
  rw [checkBounds_eq]

@[simp]
theorem pc_checkBounds : (c.checkBounds p).pc = c.pc := by
  rw [checkBounds_eq]

@[simp]
theorem registers_checkBounds : (c.checkBounds p).registers = c.registers := by
  rw [checkBounds_eq]

@[simp]
theorem inbox_checkBounds : (c.checkBounds p).inbox = c.inbox := by
  rw [checkBounds_eq]

@[simp]
theorem sent_checkBounds : (c.checkBounds p).sent = c.sent := by
  rw [checkBounds_eq]

@[simp]
theorem received_checkBounds : (c.checkBounds p).received = c.received := by
  rw [checkBounds_eq]

@[simp]
theorem ticks_checkBounds : (c.checkBounds p).ticks = c.ticks := by
  rw [checkBounds_eq]

@[simp]
theorem terminated_checkBounds :
    (c.checkBounds p).terminated = (c.terminated || !p.contains c.pc) := by
  rw [checkBounds_eq]

@[simp]
theorem blocked_checkBounds : (c.checkBounds p).blocked = (c.blocked && p.contains c.pc) := by
  rw [checkBounds_eq]

end CheckBounds

section Reset

variable (c : Instance)

@[simp]
theorem pc_reset : c.reset.pc = 0 := rfl

@[simp]
theorem inbox_reset : c.reset.inbox = c.inbox.rewind := rfl

@[simp]
theorem terminated_reset : c.reset.terminated = false := rfl

@[simp]
theorem blocked_reset : c.reset.blocked = false := rfl

@[simp]
theorem sent_reset : c.reset.sent = 0 := rfl

@[simp]
theorem received_reset : c.reset.received = 0 := rfl

@[simp]
theorem ticks_reset : c.reset.ticks = 0 := rfl

end Reset

@[simp]
theorem advance_of_stopped (p : Program) {c : Instance} (stopped : c.isRunning = false) :
    c.advance p = (c, none) := by
  simp [advance, stopped]

theorem advance_of_fetch? {p : Program} {c : Instance} {ins : Instruction}
    (running : c.isRunning = true) (fetched : p.fetch? c.pc = some ins) :
    c.advance p = ((c.perform ins).1.checkBounds p, (c.perform ins).2) := by
  simp [advance, running, fetched]

/-! ### Carrying out one instruction -/

theorem not_unassigned_of_fault? {c : Instance} {ins : Instruction}
    (faultless : c.fault? ins = none) (code : Int) : ins.op ≠ .unassigned code := by
  intro operation
  simp [fault?, operation] at faultless

@[simp]
theorem perform_snd (c : Instance) (ins : Instruction) :
    (c.perform ins).2 = if ins.op = .snd then some (ins.a.resolve c.registers) else none := by
  unfold perform
  cases ins.op with
  | rcv => cases c.inbox.receive? <;> rfl
  | _ => rfl

@[simp]
theorem perform_sent (c : Instance) (ins : Instruction) :
    (c.perform ins).1.sent = if ins.op = .snd then c.sent + 1 else c.sent := by
  unfold perform
  cases ins.op with
  | rcv => cases c.inbox.receive? <;> rfl
  | _ => rfl

@[simp]
theorem perform_terminated (c : Instance) (ins : Instruction) :
    (c.perform ins).1.terminated = c.terminated := by
  unfold perform
  cases ins.op with
  | rcv => cases c.inbox.receive? <;> rfl
  | _ => rfl

/-- Only a `rcv` looks at the inbox, starts or ends a wait, or counts a received value. -/
theorem perform_of_op_ne_rcv (c : Instance) {ins : Instruction} (other : ins.op ≠ .rcv) :
    (c.perform ins).1.inbox = c.inbox ∧ (c.perform ins).1.blocked = c.blocked ∧
      (c.perform ins).1.received = c.received := by
  unfold perform
  cases operation : ins.op with
  | rcv => exact absurd operation other
  | _ => exact ⟨rfl, rfl, rfl⟩

theorem perform_of_nothing_received {c : Instance} {ins : Instruction}
    (receives : ins.op = .rcv) (nothing : c.inbox.receive? = none) :
    c.perform ins = ({ c.proceed c.pc with blocked := true }, none) := by
  simp [perform, receives, nothing]

theorem perform_of_received {c : Instance} {ins : Instruction} {value : Int64} {inbox : Channel}
    (receives : ins.op = .rcv) (received : c.inbox.receive? = some (value, inbox)) :
    c.perform ins = ({ c.store ins.register value with
      inbox, blocked := false, received := c.received + 1 }, none) := by
  simp [perform, receives, received]

/-! ### Effects of a step -/

theorem sends?_of_fetch? {p : Program} {c : Instance} {ins : Instruction}
    (running : c.isRunning = true) (fetched : p.fetch? c.pc = some ins) :
    c.sends? p = if ins.op = .snd then some (ins.a.resolve c.registers) else none := by
  simp [sends?, running, fetched]

theorem takes?_of_fetch? {p : Program} {c : Instance} {ins : Instruction}
    (running : c.isRunning = true) (fetched : p.fetch? c.pc = some ins) :
    c.takes? p = if ins.op = .rcv then c.inbox.receive?.map (·.1) else none := by
  simp [takes?, running, fetched]

@[simp]
theorem sends?_of_stopped (p : Program) {c : Instance} (stopped : c.isRunning = false) :
    c.sends? p = none := by
  cases fetched : p.fetch? c.pc <;> simp [sends?, stopped, fetched]

@[simp]
theorem takes?_of_stopped (p : Program) {c : Instance} (stopped : c.isRunning = false) :
    c.takes? p = none := by
  cases fetched : p.fetch? c.pc <;> simp [takes?, stopped, fetched]

theorem takes?_of_not_atReceive {p : Program} {c : Instance} (elsewhere : ¬ c.AtReceive p) :
    c.takes? p = none := by
  cases fetched : p.fetch? c.pc with
  | none => simp [takes?, fetched]
  | some ins =>
      have other : ins.op ≠ .rcv := fun receives => elsewhere ⟨ins, fetched, receives⟩
      simp [takes?, fetched, other]

theorem advance_of_fetch?_eq_none {p : Program} {c : Instance}
    (running : c.isRunning = true) (outside : p.fetch? c.pc = none) :
    c.advance p = (c.checkBounds p, none) := by
  simp [advance, running, outside]

/-- A step carries out an instruction, or it changes the flags at most. -/
theorem advance_cases (p : Program) (c : Instance) :
    (c.sends? p = none ∧ c.takes? p = none ∧
      ∃ terminated blocked, c.advance p = ({ c with terminated, blocked }, none)) ∨
    ∃ ins, c.isRunning = true ∧ p.fetch? c.pc = some ins := by
  cases running : c.isRunning with
  | false =>
      exact .inl ⟨sends?_of_stopped p running, takes?_of_stopped p running,
        c.terminated, c.blocked, advance_of_stopped p running⟩
  | true =>
      cases fetched : p.fetch? c.pc with
      | none =>
          have idle := advance_of_fetch?_eq_none running fetched
          rw [checkBounds_eq] at idle
          exact .inl ⟨by simp [sends?, fetched], by simp [takes?, fetched], _, _, idle⟩
      | some ins => exact .inr ⟨ins, rfl, rfl⟩

@[simp]
theorem snd_advance (p : Program) (c : Instance) : (c.advance p).2 = c.sends? p := by
  rcases c.advance_cases p with ⟨noneSent, _, _, _, idle⟩ | ⟨ins, running, fetched⟩
  · rw [idle, noneSent]
  · rw [advance_of_fetch? running fetched, sends?_of_fetch? running fetched]
    exact perform_snd c ins

@[simp]
theorem sent_advance (p : Program) (c : Instance) :
    (c.advance p).1.sent = c.sent + UInt64.ofNat (c.sends? p).toList.length := by
  rcases c.advance_cases p with ⟨noneSent, _, _, _, idle⟩ | ⟨ins, running, fetched⟩
  · simp [idle, noneSent]
  · rw [advance_of_fetch? running fetched, sends?_of_fetch? running fetched]
    by_cases sends : ins.op = .snd <;> simp [sends]

@[simp]
theorem received_advance (p : Program) (c : Instance) :
    (c.advance p).1.received = c.received + UInt64.ofNat (c.takes? p).toList.length := by
  rcases c.advance_cases p with ⟨_, noneTaken, _, _, idle⟩ | ⟨ins, running, fetched⟩
  · simp [idle, noneTaken]
  · rw [advance_of_fetch? running fetched, takes?_of_fetch? running fetched]
    by_cases receives : ins.op = .rcv
    · cases received : c.inbox.receive? with
      | none => simp [perform_of_nothing_received receives received, proceed]
      | some taken => simp [perform_of_received receives received, receives]
    · simp [perform_of_op_ne_rcv c receives, receives]

/-- Out of a ready inbox a step takes the front value or nothing, and the inbox stays ready. -/
theorem inbox_advance (p : Program) {c : Instance} (ready : c.inbox.IsReady) :
    (c.advance p).1.inbox.IsReady ∧
      c.inbox.queued = (c.takes? p).toList ++ (c.advance p).1.inbox.queued := by
  rcases c.advance_cases p with ⟨_, noneTaken, _, _, idle⟩ | ⟨ins, running, fetched⟩
  · rw [idle, noneTaken]
    exact ⟨ready, rfl⟩
  · rw [advance_of_fetch? running fetched, takes?_of_fetch? running fetched]
    simp only [inbox_checkBounds]
    by_cases receives : ins.op = .rcv
    · rw [if_pos receives]
      cases holds : c.inbox.queued with
      | nil =>
          have nothing := Channel.receive?_of_queued_eq_nil holds
          rw [perform_of_nothing_received receives nothing, nothing]
          exact ⟨ready, holds.symm⟩
      | cons value rest =>
          obtain ⟨next, received, nextReady, nextHolds⟩ :=
            ready.receive?_of_queued_eq_cons holds
          rw [perform_of_received receives received, received]
          exact ⟨nextReady, by simp [nextHolds]⟩
    · rw [if_neg receives, (perform_of_op_ne_rcv c receives).1]
      exact ⟨ready, rfl⟩

/-- A starved instance waits: its step exchanges nothing, cannot fail and keeps the core. -/
theorem advance_of_starved {p : Program} {c : Instance} (starved : c.IsStarved p) :
    (c.advance p).1.core = c.core ∧ c.sends? p = none ∧ c.takes? p = none ∧
      c.stepFault? p = none := by
  obtain ⟨⟨ins, fetched, receives⟩, nothingQueued⟩ := starved
  have nothing := Channel.receive?_of_queued_eq_nil nothingQueued
  cases running : c.isRunning with
  | false =>
      rw [advance_of_stopped p running, sends?_of_stopped p running, takes?_of_stopped p running]
      exact ⟨rfl, rfl, rfl, by simp [stepFault?, running]⟩
  | true =>
      rw [sends?_of_fetch? running fetched, takes?_of_fetch? running fetched,
        advance_of_fetch? running fetched, perform_of_nothing_received receives nothing]
      refine ⟨?_, by simp [receives], by simp [nothing], ?_⟩
      · have inside := Program.contains_of_fetch? fetched
        simp [core, proceed, inside]
      · simp [stepFault?, running, fetched, fault?, receives]

/-- A step of a running instance that is fed cannot fail, and takes the first
value that is queued. -/
theorem IsFed.step {p : Program} {c : Instance} (fed : c.IsFed p) (ready : c.inbox.IsReady)
    (running : c.isRunning = true) :
    ∃ ins value rest, p.fetch? c.pc = some ins ∧ ins.op = .rcv ∧
      c.inbox.queued = value :: rest ∧ c.stepFault? p = none ∧ c.takes? p = some value ∧
      (c.advance p).1.registers = c.registers.set ins.register value ∧
      (c.advance p).1.received = c.received + 1 ∧ (c.advance p).1.blocked = false ∧
      (c.advance p).1.inbox.queued = rest := by
  obtain ⟨⟨ins, fetched, receives⟩, nonempty⟩ := fed
  obtain ⟨value, rest, holds⟩ := List.exists_cons_of_ne_nil nonempty
  obtain ⟨next, received, _, nextHolds⟩ := ready.receive?_of_queued_eq_cons holds
  refine ⟨ins, value, rest, fetched, receives, holds, ?_, ?_, ?_⟩
  · simp [stepFault?, running, fetched, fault?, receives]
  · rw [takes?_of_fetch? running fetched, if_pos receives, received]
    rfl
  · rw [advance_of_fetch? running fetched, perform_of_received receives received]
    simpa [store] using nextHolds

/-! ### What a step depends on -/

theorem core_checkBounds_congr (p : Program) {c other : Instance} (same : c.core = other.core) :
    (c.checkBounds p).core = (other.checkBounds p).core := by
  simp only [core, Core.mk.injEq] at same
  simp [core, same]

theorem core_perform_congr {c other : Instance} (ins : Instruction) (same : c.core = other.core)
    (sameInput : ins.op = .rcv → c.inbox.receive?.map (·.1) = other.inbox.receive?.map (·.1)) :
    (c.perform ins).1.core = (other.perform ins).1.core := by
  simp only [core, Core.mk.injEq] at same
  obtain ⟨registers, pc, terminated, sent, received⟩ := same
  by_cases receives : ins.op = .rcv
  · have input := sameInput receives
    cases taken : c.inbox.receive? with
    | none =>
        have nothing : other.inbox.receive? = none := by simpa [taken] using input.symm
        rw [perform_of_nothing_received receives taken,
          perform_of_nothing_received receives nothing]
        simp [core, proceed, registers, pc, terminated, sent, received]
    | some front =>
        obtain ⟨value, inbox⟩ := front
        cases otherTaken : other.inbox.receive? with
        | none => simp [taken, otherTaken] at input
        | some otherFront =>
            have sameValue : value = otherFront.1 := by simpa [taken, otherTaken] using input
            rw [perform_of_received receives taken, perform_of_received receives otherTaken]
            simp [core, store, registers, pc, terminated, sent, received, sameValue]
  · cases operation : ins.op with
    | rcv => exact absurd operation receives
    | _ =>
        simp [core, perform, operation, store, proceed, registers, pc, terminated, sent, received]

/-- Two running instances with the same core that take the same value go on with the same core. -/
theorem core_advance_congr (p : Program) {c other : Instance} (same : c.core = other.core)
    (running : c.isRunning = true) (otherRunning : other.isRunning = true)
    (sameInput : c.takes? p = other.takes? p) :
    (c.advance p).1.core = (other.advance p).1.core := by
  have samePc : c.pc = other.pc := congrArg Core.pc same
  cases fetched : p.fetch? c.pc with
  | none =>
      have otherFetched : p.fetch? other.pc = none := samePc ▸ fetched
      rw [advance_of_fetch?_eq_none running fetched,
        advance_of_fetch?_eq_none otherRunning otherFetched]
      exact core_checkBounds_congr p same
  | some ins =>
      have otherFetched : p.fetch? other.pc = some ins := samePc ▸ fetched
      rw [takes?_of_fetch? running fetched, takes?_of_fetch? otherRunning otherFetched] at sameInput
      rw [advance_of_fetch? running fetched, advance_of_fetch? otherRunning otherFetched]
      apply core_checkBounds_congr p
      apply core_perform_congr ins same
      intro receives
      simpa [receives] using sameInput

theorem sends?_congr (p : Program) {c other : Instance} (same : c.core = other.core)
    (sameStatus : c.isRunning = other.isRunning) : c.sends? p = other.sends? p := by
  have samePc : c.pc = other.pc := congrArg Core.pc same
  have sameRegisters : c.registers = other.registers := congrArg Core.registers same
  simp only [sends?, samePc, sameRegisters, sameStatus]

theorem stepFault?_congr (p : Program) {c other : Instance} (same : c.core = other.core)
    (sameStatus : c.isRunning = other.isRunning) : c.stepFault? p = other.stepFault? p := by
  have samePc : c.pc = other.pc := congrArg Core.pc same
  have sameRegisters : c.registers = other.registers := congrArg Core.registers same
  have sameFaults : c.fault? = other.fault? := by
    funext ins
    simp only [fault?, sameRegisters]
  simp only [stepFault?, samePc, sameFaults, sameStatus]

end Instance

end Tandem

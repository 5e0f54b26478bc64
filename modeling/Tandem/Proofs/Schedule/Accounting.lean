import Tandem.Proofs.Schedule.Conservation
import Tandem.Proofs.Schedule.Transcript

set_option autoImplicit false

/-!
The counters agree. The scheduler counts the steps that it lets the sides make, and each side counts
the instructions that it carries out; a side could stop without carrying out anything only if it ran
outside the program, and a coherent side never does. A step exchanges at most one value, so a side
has made at least as many steps as it has sent and taken values.
-/

namespace Tandem

namespace Instance

/-- Every operation but an unassigned one is counted when it is carried out. -/
theorem ticks_perform (c : Instance) {ins : Instruction}
    (assigned : ∀ code, ins.op ≠ .unassigned code) :
    (c.perform ins).1.ticks = c.ticks + 1 := by
  unfold perform
  cases operation : ins.op with
  | unassigned code => exact absurd operation (assigned code)
  | rcv => cases c.inbox.receive? <;> rfl
  | _ => rfl

/-- A coherent instance that runs carries out an instruction in each step that does not fail. -/
theorem IsCoherent.ticks_advance {p : Program} {c : Instance} (coherent : c.IsCoherent p)
    (running : c.isRunning = true) (faultless : c.stepFault? p = none) :
    (c.advance p).1.ticks = c.ticks + 1 := by
  obtain ⟨ins, fetched⟩ := coherent.exists_fetch?_of_running running
  have noFault : c.fault? ins = none := by simpa [stepFault?, running, fetched] using faultless
  rw [advance_of_fetch? running fetched, ticks_checkBounds]
  exact c.ticks_perform (not_unassigned_of_fault? noFault)

/-- A step that exchanges a value is counted, and it exchanges one value only. -/
theorem exchanges_le_ticks (p : Program) (c : Instance) :
    c.ticks + (c.sends? p).toList.length + (c.takes? p).toList.length ≤
      (c.advance p).1.ticks := by
  rcases c.advance_cases p with ⟨noneSent, noneTaken, _, _, idle⟩ | ⟨ins, running, fetched⟩
  · simp [idle, noneSent, noneTaken]
  · rw [advance_of_fetch? running fetched, sends?_of_fetch? running fetched,
      takes?_of_fetch? running fetched, ticks_checkBounds]
    by_cases unassigned : ∃ code, ins.op = .unassigned code
    · obtain ⟨code, operation⟩ := unassigned
      simp [perform, operation]
    · rw [c.ticks_perform (not_exists.mp unassigned)]
      cases operation : ins.op with
      | rcv => cases c.inbox.receive? <;> simp
      | _ => simp

end Instance

namespace Pair

theorem exchanges_attempt_le_ticks (program : Program) (p : Pair) (s turn : Side) :
    (p.get s).ticks + (if turn = s then ((p.get s).sends? program).toList else []).length +
        (if turn = s then ((p.get s).takes? program).toList else []).length ≤
      ((p.attempt program turn).get s).ticks := by
  rcases turn.eq_or_eq_other s with equality | equality
  · subst s
    rw [get_attempt_self, if_pos rfl, if_pos rfl]
    cases failing : (p.get turn).stepFault? program with
    | some fault => simp [Instance.silent_of_fault failing]
    | none => exact Instance.exchanges_le_ticks program (p.get turn)
  · subst s
    rw [get_attempt_other, if_neg (Side.ne_other turn), if_neg (Side.ne_other turn)]
    cases (p.get turn).sends? program with
    | none => exact Nat.le_refl _
    | some value => exact Nat.le_refl _

theorem exchanges_attempts_le_ticks (program : Program) (p : Pair) (s : Side)
    (schedule : List Side) :
    (p.get s).ticks + (p.sentBy program s schedule).length +
      (p.takenBy program s schedule).length ≤ ((p.attempts program schedule).get s).ticks := by
  induction schedule generalizing p with
  | nil => exact Nat.le_refl _
  | cons turn rest inductionHypothesis =>
      have now := exchanges_attempt_le_ticks program p s turn
      have later := inductionHypothesis (p.attempt program turn)
      simp only [sentBy, takenBy] at later
      simp only [sentBy, takenBy, exchanged, List.length_append]
      have whole : (p.attempts program (turn :: rest)) =
          (p.attempt program turn).attempts program rest := rfl
      rw [whole]
      omega

end Pair

namespace Duo

/-- Both sides are coherent, and together they have carried out as many instructions as the
scheduler has counted steps. -/
structure IsAccounted (d : Duo) : Prop where
  coherent : d.pair.IsCoherent d.program
  steps_eq : d.steps = (d.pair.get .zero).ticks + (d.pair.get .one).ticks

theorem stepFault?_of_error?_eq_none {d : Duo} {s : Side} (noError : d.error? s = none) :
    (d.pair.get s).stepFault? d.program = none := by
  unfold error? at noError
  split at noError
  next => contradiction
  next => exact Option.map_eq_none_iff.mp noError

theorem ticks_advance {d : Duo} {s : Side} (coherent : (d.pair.get s).IsCoherent d.program)
    (running : (d.pair.get s).isRunning = true) (noError : d.error? s = none) :
    ((d.advance s).pair.get s).ticks = (d.pair.get s).ticks + 1 ∧
      ((d.advance s).pair.get s.other).ticks = (d.pair.get s.other).ticks := by
  constructor
  · have own := Pair.get_advance_self d.program d.pair s
    simp only [advance, own]
    exact coherent.ticks_advance running (stepFault?_of_error?_eq_none noError)
  · have others := Pair.get_advance_other d.program d.pair s
    simp only [advance, others]
    cases (d.pair.get s).sends? d.program with
    | none => rfl
    | some value => rfl

theorem isKept_isAccounted : IsKept IsAccounted where
  cycle accounted := ⟨accounted.coherent, accounted.steps_eq⟩
  step := by
    intro d s running noError accounted
    have faultless := stepFault?_of_error?_eq_none noError
    obtain ⟨own, others⟩ := ticks_advance (accounted.coherent s) running noError
    refine ⟨?_, ?_⟩
    · have stepped := accounted.coherent.attempt s
      rw [Pair.attempt_of_no_fault faultless] at stepped
      exact stepped
    · have before := accounted.steps_eq
      change d.steps + 1 = _
      cases s with
      | zero =>
          simp only [Side.other] at others
          omega
      | one =>
          simp only [Side.other] at others
          omega

theorem isAccounted_reset (d : Duo) : d.reset.IsAccounted where
  coherent := d.isCoherent_reset
  steps_eq := by
    simp only [get_reset, Instance.ticks_checkBounds]
    rfl

/-- The step limit is positive and has not been passed. -/
def IsWithin (limit : Int) (d : Duo) : Prop :=
  d.stepLimit = limit ∧ 0 < limit ∧ d.steps ≤ limit

theorem isKept_isWithin (limit : Int) : IsKept (IsWithin limit) where
  cycle within := within
  step := by
    rintro d s running noError ⟨same, positive, within⟩
    refine ⟨same, positive, ?_⟩
    have below : ¬ limit ≤ d.steps := by
      intro reached
      have atLimit : d.isAtLimit = true := by
        simp [isAtLimit, same, positive, reached]
      simp [error?, atLimit] at noError
    change ((d.steps + 1 : Nat) : Int) ≤ limit
    omega

/-- Whatever calls were made since a reset, and whatever they answered, the scheduler has counted
the steps of both sides, and each side has made a step for every value that it sent or took. Under a
step limit that stays as it is, there are no more steps than it allows. -/
theorem steps_accounted_for (d : Duo) :
    (∀ (schedule : List Side) (e : Duo), d.reset.Calls schedule e →
      e.steps = (e.pair.get .zero).ticks + (e.pair.get .one).ticks ∧
      ∀ s, (e.pair.get s).sent.toNat + (e.pair.get s).received.toNat ≤ (e.pair.get s).ticks ∧
        (e.pair.get s).sent = UInt64.ofNat (d.reset.pair.sentBy d.program s schedule).length ∧
        (e.pair.get s).received =
          UInt64.ofNat (d.reset.pair.takenBy d.program s schedule).length ∧
        (d.reset.pair.sentBy d.program s schedule).length +
          (d.reset.pair.takenBy d.program s schedule).length ≤ (e.pair.get s).ticks) ∧
    (0 < d.stepLimit → d.reset.steps ≤ d.stepLimit ∧
      ∀ calls : List Call, ∀ entry ∈ d.reset.transcript calls,
        entry.2.steps ≤ d.stepLimit) := by
  constructor
  · intro schedule e calls
    have accounted : e.IsAccounted :=
      isKept_isAccounted.calls (fun _ _ holds => ⟨holds.coherent, holds.steps_eq⟩) calls
        d.isAccounted_reset
    have reached : d.reset.pair.attempts d.program schedule = e.pair :=
      Pair.attempts_of_interleave calls.interleave.2
    refine ⟨accounted.steps_eq, ?_⟩
    intro s
    rw [← reached]
    have sent := d.sent_after_reset s schedule
    have received := d.received_after_reset s schedule
    have bound := Pair.exchanges_attempts_le_ticks d.program d.reset.pair s schedule
    refine ⟨?_, sent, received, by omega⟩
    -- a counter that has gone round shows less than the number of values
    have sentLe := Nat.mod_le (d.reset.pair.sentBy d.program s schedule).length (2 ^ 64)
    have receivedLe := Nat.mod_le (d.reset.pair.takenBy d.program s schedule).length (2 ^ 64)
    rw [sent, received, UInt64.toNat_ofNat', UInt64.toNat_ofNat']
    omega
  · intro positive
    have start : d.reset.IsWithin d.stepLimit := ⟨rfl, positive, Int.le_of_lt positive⟩
    refine ⟨start.2.2, ?_⟩
    intro calls entry listed
    exact ((isKept_isWithin d.stepLimit).transcript calls start entry listed).2.2

/-- The handshake, cut off at its fourth step. -/
def limitedHandshake : Duo := { handshake with stepLimit := 4 }

/-- By then side zero has sent two values and waits for one. -/
theorem steps_accounted_for_handshake :
    ∃ schedule e, limitedHandshake.reset.Calls schedule e ∧
      e.steps = 4 ∧ e.steps = (e.pair.get .zero).ticks + (e.pair.get .one).ticks ∧
      (limitedHandshake.reset.pair.sentBy handshake.program .zero schedule).length = 2 ∧
      2 ≤ (e.pair.get .zero).ticks ∧
      0 < limitedHandshake.stepLimit ∧
      ∀ entry ∈ limitedHandshake.reset.transcript [.run 40, .tick 40],
        entry.2.steps ≤ limitedHandshake.stepLimit := by
  have cutOff : ∃ e error, limitedHandshake.reset.run 40 = some (e, .error error) ∧
      e.steps = 4 :=
    ⟨_, _, rfl, rfl⟩
  obtain ⟨e, error, returned, four⟩ := cutOff
  have calls := Calls.start.run 40 returned
  obtain ⟨counted, exchanged⟩ := limitedHandshake.steps_accounted_for.1 _ e calls
  have sent : (limitedHandshake.reset.pair.sentBy limitedHandshake.program .zero
      ([] ++ limitedHandshake.reset.runSteppers 40)).length = 2 := by decide
  obtain ⟨_, _, _, bound⟩ := exchanged .zero
  rw [sent] at bound
  have limited : 0 < limitedHandshake.stepLimit := by decide
  exact ⟨_, e, calls, four, counted, sent, Nat.le_trans (Nat.le_add_right 2 _) bound, limited,
    (limitedHandshake.steps_accounted_for.2 limited).2 [.run 40, .tick 40]⟩

end Duo

end Tandem

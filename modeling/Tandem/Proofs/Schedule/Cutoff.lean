import Tandem.Proofs.Schedule.Calls

set_option autoImplicit false

/-!
The step limit as a cut-off. `Leads` follows a play move by move for as long as it goes on. A play
with a limit makes the same moves as the play without one until the limit is reached, and then it
fails where the other would take its next step. Between two steps there are only a few changes of
turns, so every play comes to its end or to any given number of steps.
-/

namespace Tandem

namespace Duo

/-- A run returns, however many moves beyond those that it needs are allowed. -/
def Returns (d final : Duo) (outcome : Except RuntimeError Unit) : Prop :=
  ∃ least, ∀ moves, least ≤ moves → d.run moves = some (final, outcome)

def withLimit (d : Duo) (n : Int) : Duo := { d with stepLimit := n }

theorem isAtLimit_iff (d : Duo) :
    d.isAtLimit = true ↔ 0 < d.stepLimit ∧ d.stepLimit ≤ d.steps := by
  simp [isAtLimit]

end Duo

namespace Play

/-- The play goes on from one state to the other. The list names the sides that step meanwhile. -/
inductive Leads (p : Play) : List Side → Play → Prop where
  | start : Leads p [] p
  | move {schedule : List Side} {q : Play} :
      Leads p schedule q → q.verdict? = none → Leads p (schedule ++ q.stepper?.toList) q.advance

def withLimit (p : Play) (n : Int) : Play := { p with duo := p.duo.withLimit n }

/-- Whether an execution that ends after the given number of steps does so under a limit, too. To
fail, it needs one step more. -/
def EndsWithin (limit steps : Nat) : Except RuntimeError Unit → Prop
  | .ok _ => steps ≤ limit
  | .error _ => steps < limit

/-! ### Following a play -/

theorem Leads.cons {p q : Play} {schedule : List Side} (goesOn : p.verdict? = none)
    (leads : p.advance.Leads schedule q) : p.Leads (p.stepper?.toList ++ schedule) q := by
  induction leads with
  | start => simpa using Leads.start.move goesOn
  | move _ stillGoesOn inductionHypothesis =>
      rw [← List.append_assoc]
      exact inductionHypothesis.move stillGoesOn

theorem Leads.trans {p q r : Play} {first second : List Side} (leads : p.Leads first q)
    (continued : q.Leads second r) : p.Leads (first ++ second) r := by
  induction continued with
  | start => simpa using leads
  | move _ goesOn inductionHypothesis =>
      rw [← List.append_assoc]
      exact inductionHypothesis.move goesOn

/-- Bounded moves from the start come to the same end as fewer moves from where it leads. -/
theorem Leads.exists_moves {p q : Play} {schedule : List Side} (leads : p.Leads schedule q) :
    ∃ least, ∀ moves, finish (least + moves) p = finish moves q ∧
      steppers hasEnded (least + moves) p = schedule ++ steppers hasEnded moves q := by
  induction leads with
  | start => exact ⟨0, fun moves => by simp⟩
  | @move _ middle _ goesOn inductionHypothesis =>
      obtain ⟨least, same⟩ := inductionHypothesis
      refine ⟨least + 1, fun moves => ?_⟩
      obtain ⟨sameEnd, sameSteppers⟩ := same (moves + 1)
      rw [Nat.add_right_comm, Nat.add_assoc, sameEnd, sameSteppers]
      simp [finish, steppers, hasEnded, goesOn]

theorem Leads.exists_finish {p q : Play} {schedule : List Side}
    {outcome : Except RuntimeError Unit} (leads : p.Leads schedule q)
    (ended : q.verdict? = some outcome) :
    ∃ least, ∀ moves, least ≤ moves →
      finish moves p = some (q.duo, outcome) ∧ steppers hasEnded moves p = schedule := by
  obtain ⟨before, same⟩ := leads.exists_moves
  refine ⟨before + 1, fun moves enough => ?_⟩
  obtain ⟨spare, rfl⟩ := Nat.exists_eq_add_of_le enough
  obtain ⟨sameEnd, sameSteppers⟩ := same (1 + spare)
  rw [Nat.add_assoc, sameEnd, sameSteppers, Nat.add_comm 1 spare]
  simp [finish, steppers, hasEnded, ended]

/-- Whatever the rule by which a play stops, the moves up to there are moves of a play that goes
on. -/
theorem leads_of_stop {stops : Play → Bool} (quiet : ∀ q, stops q = false → q.verdict? = none)
    {moves : Nat} {p q : Play} (ended : endOf? stops moves p = some q) :
    p.Leads (steppers stops moves p) q := by
  induction moves generalizing p with
  | zero => simp [endOf?] at ended
  | succ moves inductionHypothesis =>
      cases stopped : stops p with
      | true =>
          simp only [endOf?, stopped, if_true, Option.some.injEq] at ended
          subst q
          simp only [steppers, stopped, if_true]
          exact .start
      | false =>
          simp only [endOf?, stopped, Bool.false_eq_true, if_false] at ended
          simp only [steppers, stopped, Bool.false_eq_true, if_false]
          exact .cons (quiet p stopped) (inductionHypothesis ended)

theorem leads_of_endOf? {moves : Nat} {p q : Play} (ended : endOf? hasEnded moves p = some q) :
    p.Leads (steppers hasEnded moves p) q :=
  leads_of_stop (fun _ goesOn => verdict?_of_not_hasEnded goesOn) ended

@[simp]
theorem steps_advance (p : Play) :
    p.advance.duo.steps = p.duo.steps + p.stepper?.toList.length := by
  obtain ⟨duo, turn⟩ := p
  cases turn with
  | none => rfl
  | some s =>
      cases running : (duo.pair.get s).isRunning <;> simp [advance, stepper?, running, Duo.advance]

theorem Leads.steps_eq {p q : Play} {schedule : List Side} (leads : p.Leads schedule q) :
    q.duo.steps = p.duo.steps + schedule.length := by
  induction leads with
  | start => rfl
  | move _ _ inductionHypothesis =>
      rw [steps_advance, inductionHypothesis, List.length_append, Nat.add_assoc]

@[simp]
theorem stepLimit_advance (p : Play) : p.advance.duo.stepLimit = p.duo.stepLimit := by
  obtain ⟨duo, turn⟩ := p
  cases turn with
  | none => rfl
  | some s => cases running : (duo.pair.get s).isRunning <;> simp [advance, running, Duo.advance]

theorem Leads.stepLimit_eq {p q : Play} {schedule : List Side} (leads : p.Leads schedule q) :
    q.duo.stepLimit = p.duo.stepLimit := by
  induction leads with
  | start => rfl
  | move _ _ inductionHypothesis => rw [stepLimit_advance, inductionHypothesis]

theorem Leads.program_eq {p q : Play} {schedule : List Side} (leads : p.Leads schedule q) :
    q.duo.program = p.duo.program := by
  induction leads with
  | start => rfl
  | move _ _ inductionHypothesis => rw [program_advance, inductionHypothesis]

/-! ### Every play comes to a step or to its end -/

theorem turn_of_stepper? {p : Play} {s : Side} (steps : p.stepper? = some s) :
    p.turn = some s ∧ (p.duo.pair.get s).isRunning = true := by
  obtain ⟨duo, turn⟩ := p
  cases turn with
  | none => simp [stepper?] at steps
  | some side =>
      cases running : (duo.pair.get side).isRunning with
      | false => simp [stepper?, running] at steps
      | true =>
          simp only [stepper?, running, if_true, Option.some.injEq] at steps
          subst side
          exact ⟨rfl, running⟩

/-- Without a step, the play comes to its end or to where a side is about to step. -/
def ComesToStep (p : Play) : Prop :=
  ∃ q, p.Leads [] q ∧ (q.verdict? = some (.ok ()) ∨ ∃ s, q.stepper? = some s)

theorem ComesToStep.of_advance {p : Play} (goesOn : p.verdict? = none) (idle : p.stepper? = none)
    (comes : p.advance.ComesToStep) : p.ComesToStep := by
  obtain ⟨q, leads, reached⟩ := comes
  have whole := leads.cons goesOn
  rw [idle] at whole
  exact ⟨q, whole, reached⟩

theorem comesToStep_of_running {duo : Duo} {s : Side}
    (running : (duo.pair.get s).isRunning = true) :
    ComesToStep ⟨duo, some s⟩ :=
  ⟨_, .start, .inr ⟨s, by simp [stepper?, running]⟩⟩

theorem comesToStep_of_stopped {duo : Duo} {s : Side} {next : Option Side}
    (stopped : (duo.pair.get s).isRunning = false)
    (changes : advance ⟨duo, some s⟩ = ⟨duo, next⟩) (comes : ComesToStep ⟨duo, next⟩) :
    ComesToStep ⟨duo, some s⟩ := by
  apply ComesToStep.of_advance
  · simp [verdict?, stopped]
  · simp [stepper?, stopped]
  · rw [changes]
    exact comes

theorem comesToStep_between_cycles (duo : Duo) : ComesToStep ⟨duo, none⟩ := by
  cases running : duo.isRunning with
  | false => exact ⟨_, .start, .inl (by simp [verdict?, running])⟩
  | true =>
      apply ComesToStep.of_advance
      · simp [verdict?, running]
      · rfl
      · cases zeroRunning : (duo.pair.get .zero).isRunning with
        | true => exact comesToStep_of_running zeroRunning
        | false =>
            have oneRunning : (duo.pair.get .one).isRunning = true := by
              rw [Duo.isRunning, Pair.isRunning, Bool.or_eq_true] at running
              exact running.resolve_left (Bool.eq_false_iff.mp zeroRunning)
            exact comesToStep_of_stopped zeroRunning (by simp [advance, zeroRunning])
              (comesToStep_of_running oneRunning)

theorem comesToStep (p : Play) : p.ComesToStep := by
  obtain ⟨duo, turn⟩ := p
  have fromOne : ComesToStep ⟨duo, some .one⟩ := by
    cases running : (duo.pair.get .one).isRunning with
    | true => exact comesToStep_of_running running
    | false =>
        exact comesToStep_of_stopped running (by simp [advance, running])
          (comesToStep_between_cycles duo)
  cases turn with
  | none => exact comesToStep_between_cycles duo
  | some s =>
      cases s with
      | one => exact fromOne
      | zero =>
          cases running : (duo.pair.get .zero).isRunning with
          | true => exact comesToStep_of_running running
          | false => exact comesToStep_of_stopped running (by simp [advance, running]) fromOne

/-- A play ends within a limit, or it comes to where a side is about to go beyond it. -/
theorem exists_end_or_cutoff (p : Play) (limit : Nat) :
    (∃ schedule q outcome, p.Leads schedule q ∧ q.verdict? = some outcome ∧
      EndsWithin limit schedule.length outcome) ∨
    ∃ schedule q s, p.Leads schedule q ∧ schedule.length = limit ∧ q.stepper? = some s := by
  induction limit generalizing p with
  | zero =>
      obtain ⟨q, leads, halted | ⟨s, steps⟩⟩ := p.comesToStep
      · exact .inl ⟨[], q, _, leads, halted, Nat.le_refl 0⟩
      · exact .inr ⟨[], q, s, leads, rfl, steps⟩
  | succ limit inductionHypothesis =>
      obtain ⟨q, leads, halted | ⟨s, steps⟩⟩ := p.comesToStep
      · exact .inl ⟨[], q, _, leads, halted, Nat.zero_le _⟩
      · cases verdict : q.verdict? with
        | some outcome =>
            obtain ⟨error, rfl⟩ := exists_error_of_verdict? (turn_of_stepper? steps).1 verdict
            exact .inl ⟨[], q, _, leads, verdict, Nat.succ_pos _⟩
        | none =>
            have stepped : p.Leads [s] q.advance := by
              have moved := leads.move verdict
              rw [steps] at moved
              exact moved
            rcases inductionHypothesis q.advance with
              ⟨schedule, final, outcome, continued, ended, within⟩ |
              ⟨schedule, final, next, continued, full, nextSteps⟩
            · refine .inl ⟨_, final, outcome, stepped.trans continued, ended, ?_⟩
              cases outcome with
              | ok _ => exact Nat.succ_le_succ within
              | error _ => exact Nat.succ_lt_succ within
            · exact .inr ⟨_, final, next, stepped.trans continued, congrArg Nat.succ full,
                nextSteps⟩

/-! ### A play under a limit -/

@[simp]
theorem advance_withLimit (p : Play) (n : Int) :
    (p.withLimit n).advance = p.advance.withLimit n := by
  obtain ⟨duo, turn⟩ := p
  cases turn with
  | none => rfl
  | some s =>
      cases running : (duo.pair.get s).isRunning <;>
        simp [advance, withLimit, Duo.withLimit, Duo.advance, running]

@[simp]
theorem stepper?_withLimit (p : Play) (n : Int) : (p.withLimit n).stepper? = p.stepper? := rfl

theorem verdict?_withLimit_of_idle {p : Play} (n : Int) (idle : p.stepper? = none) :
    (p.withLimit n).verdict? = p.verdict? := by
  obtain ⟨duo, turn⟩ := p
  cases turn with
  | none => rfl
  | some s =>
      have stopped : (duo.pair.get s).isRunning = false := by simpa [stepper?] using idle
      simp [verdict?, withLimit, Duo.withLimit, stopped]

/-- Below the limit, a step is the same as without one. -/
theorem verdict?_withLimit_of_below {p : Play} {n : Nat} (free : p.duo.stepLimit = 0)
    (below : p.duo.steps < n) : (p.withLimit n).verdict? = p.verdict? := by
  obtain ⟨duo, turn⟩ := p
  cases turn with
  | none => rfl
  | some s =>
      have notAtLimit : (duo.withLimit n).isAtLimit = false := by
        rw [Bool.eq_false_iff, Ne, Duo.isAtLimit_iff]
        rintro ⟨_, reached⟩
        exact absurd (Int.ofNat_le.mp reached) (Nat.not_le_of_lt below)
      have unlimited : duo.isAtLimit = false := by
        rw [Bool.eq_false_iff, Ne, Duo.isAtLimit_iff]
        rintro ⟨limited, _⟩
        exact absurd free (Int.ne_of_gt limited)
      have sameError : (duo.withLimit n).error? s = duo.error? s := by
        simp only [Duo.error?, notAtLimit, unlimited, Bool.false_eq_true, if_false]
        rfl
      simp only [verdict?, withLimit, sameError]
      rfl

/-- The error of a side that is about to step when the limit has been reached. -/
def limitError (p : Play) (s : Side) : RuntimeError :=
  ⟨s, (p.duo.pair.get s).pc, p.duo.program.lineNo (p.duo.pair.get s).pc, .stepLimit⟩

theorem verdict?_withLimit_of_reached {p : Play} {n : Nat} {s : Side} (positive : 0 < n)
    (steps : p.stepper? = some s) (reached : p.duo.steps = n) :
    (p.withLimit n).verdict? = some (.error (p.limitError s)) := by
  obtain ⟨onTurn, running⟩ := turn_of_stepper? steps
  have atLimit : (p.duo.withLimit n).isAtLimit = true :=
    (Duo.isAtLimit_iff _).mpr ⟨Int.natCast_pos.mpr positive,
      Int.ofNat_le.mpr (Nat.le_of_eq reached.symm)⟩
  have stillRunning : ((p.duo.withLimit n).pair.get s).isRunning = true := running
  simp only [verdict?, withLimit, onTurn, stillRunning, if_true, Duo.error?, atLimit,
    Option.map_some]
  rfl

/-- As long as a free play stays within the limit, the limited one makes the same moves. -/
theorem Leads.withLimit {p q : Play} {schedule : List Side} {n : Nat} (leads : p.Leads schedule q)
    (free : p.duo.stepLimit = 0) (within : p.duo.steps + schedule.length ≤ n) :
    (p.withLimit n).Leads schedule (q.withLimit n) := by
  induction leads with
  | start => exact .start
  | @move schedule middle before goesOn inductionHypothesis =>
      rw [List.length_append] at within
      have limited := inductionHypothesis (by omega)
      have sameVerdict : (middle.withLimit n).verdict? = middle.verdict? := by
        cases steps : middle.stepper? with
        | none => exact verdict?_withLimit_of_idle n steps
        | some s =>
            apply verdict?_withLimit_of_below (before.stepLimit_eq.trans free)
            rw [before.steps_eq]
            simp only [steps, Option.toList_some, List.length_singleton] at within
            omega
      have moved := limited.move (sameVerdict.trans goesOn)
      rw [advance_withLimit, stepper?_withLimit] at moved
      exact moved

/-- A free play that ends within the limit has the same end under the limit. -/
theorem Leads.verdict?_withLimit {p q : Play} {schedule : List Side} {n : Nat}
    {outcome : Except RuntimeError Unit} (leads : p.Leads schedule q) (free : p.duo.stepLimit = 0)
    (ended : q.verdict? = some outcome)
    (within : EndsWithin n (p.duo.steps + schedule.length) outcome) :
    (q.withLimit n).verdict? = some outcome := by
  rw [← ended]
  cases outcome with
  | error error =>
      apply verdict?_withLimit_of_below (leads.stepLimit_eq.trans free)
      rw [leads.steps_eq]
      exact within
  | ok =>
      -- a play that has halted is between two cycles, where no side steps
      apply verdict?_withLimit_of_idle
      cases steps : q.stepper? with
      | none => rfl
      | some s =>
          obtain ⟨error, equality⟩ := exists_error_of_verdict? (turn_of_stepper? steps).1 ended
          contradiction

end Play

namespace Duo

theorem returns_of_leads {d : Duo} {q : Play} {schedule : List Side}
    {outcome : Except RuntimeError Unit} (leads : Play.Leads ⟨d, none⟩ schedule q)
    (ended : q.verdict? = some outcome) : d.Returns q.duo outcome := by
  obtain ⟨least, finished⟩ := leads.exists_finish ended
  exact ⟨least, fun moves enough => (finished moves enough).1⟩

/-- All runs that return have the same result and make the same steps. -/
theorem run_unique {d : Duo} {moves otherMoves : Nat}
    {result otherResult : Duo × Except RuntimeError Unit} (returned : d.run moves = some result)
    (otherReturned : d.run otherMoves = some otherResult) :
    result = otherResult ∧ d.runSteppers moves = d.runSteppers otherMoves := by
  have settled : ∀ {m r}, d.run m = some r →
      ∃ least, ∀ n, least ≤ n → d.run n = some r ∧ d.runSteppers n = d.runSteppers m := by
    rintro m ⟨final, outcome⟩ ran
    obtain ⟨q, ended, rfl, verdict⟩ := Play.finish_eq_some_iff.mp ran
    exact (Play.leads_of_endOf? ended).exists_finish verdict
  obtain ⟨least, same⟩ := settled returned
  obtain ⟨otherLeast, otherSame⟩ := settled otherReturned
  obtain ⟨firstResult, firstSteppers⟩ := same (max least otherLeast) (Nat.le_max_left _ _)
  obtain ⟨secondResult, secondSteppers⟩ :=
    otherSame (max least otherLeast) (Nat.le_max_right _ _)
  exact ⟨Option.some.inj (firstResult.symm.trans secondResult),
    firstSteppers.symm.trans secondSteppers⟩

/-- An execution without a limit that ends within `n` steps ends in the same way under that
limit. -/
theorem returns_withLimit {d : Duo} {n : Nat} {q : Play} {schedule : List Side}
    {outcome : Except RuntimeError Unit}
    (leads : Play.Leads ⟨d.reset.withLimit 0, none⟩ schedule q)
    (ended : q.verdict? = some outcome) (within : Play.EndsWithin n schedule.length outcome) :
    (d.reset.withLimit n).Returns (q.duo.withLimit n) outcome := by
  have counted : (d.reset.withLimit 0).steps + schedule.length = schedule.length := Nat.zero_add _
  have sameMoves : Play.Leads ⟨d.reset.withLimit n, none⟩ schedule (q.withLimit n) := by
    apply leads.withLimit rfl
    rw [counted]
    cases outcome with
    | ok _ => exact within
    | error _ => exact Nat.le_of_lt within
  have sameEnd : (q.withLimit n).verdict? = some outcome := by
    apply leads.verdict?_withLimit rfl ended
    rw [counted]
    exact within
  exact returns_of_leads sameMoves sameEnd

/-- A run with a step limit `n` from a reset duo always returns. If the run without a limit halts
after at most `n` steps, or fails after fewer, the limited run gives the same result in the same
state. Otherwise it fails with the limit's error after `n` steps, in the state in which the run
without a limit is about to take its next step, and names the side that is about to take it and
where that side stands. -/
theorem step_limit_cuts_off (d : Duo) (n : Nat) (positive : 0 < n) :
    let free := d.reset.withLimit 0
    let limited := d.reset.withLimit n
    (∃ final outcome, limited.Returns final outcome) ∧
    (∀ moves final outcome, free.run moves = some (final, outcome) →
      Play.EndsWithin n (free.runSteppers moves).length outcome →
      limited.Returns (final.withLimit n) outcome) ∧
    ((∀ moves final outcome, free.run moves = some (final, outcome) →
        ¬ Play.EndsWithin n (free.runSteppers moves).length outcome) →
      ∃ schedule q s, Play.Leads ⟨free, none⟩ schedule q ∧ schedule.length = n ∧
        q.stepper? = some s ∧ q.duo.steps = n ∧
        limited.Returns (q.duo.withLimit n)
          (.error ⟨s, (q.duo.pair.get s).pc, d.program.lineNo (q.duo.pair.get s).pc,
            .stepLimit⟩)) := by
  intro free limited
  have cutOff : ∀ schedule q s, Play.Leads ⟨free, none⟩ schedule q → schedule.length = n →
      q.stepper? = some s →
      q.duo.steps = n ∧ limited.Returns (q.duo.withLimit n) (.error (q.limitError s)) := by
    intro schedule q s leads full steps
    have counted : q.duo.steps = n := by
      rw [leads.steps_eq, full]
      exact Nat.zero_add n
    have within : free.steps + schedule.length ≤ n := by
      rw [full]
      exact Nat.le_of_eq (Nat.zero_add n)
    exact ⟨counted, returns_of_leads (leads.withLimit rfl within)
      (Play.verdict?_withLimit_of_reached positive steps counted)⟩
  refine ⟨?_, ?_, ?_⟩
  · rcases Play.exists_end_or_cutoff ⟨free, none⟩ n with
      ⟨schedule, q, outcome, leads, ended, within⟩ | ⟨schedule, q, s, leads, full, steps⟩
    · exact ⟨_, _, returns_withLimit leads ended within⟩
    · exact ⟨_, _, (cutOff schedule q s leads full steps).2⟩
  · intro moves final outcome returned within
    obtain ⟨q, ended, rfl, verdict⟩ := Play.finish_eq_some_iff.mp returned
    exact returns_withLimit (Play.leads_of_endOf? ended) verdict within
  · intro late
    rcases Play.exists_end_or_cutoff ⟨free, none⟩ n with
      ⟨schedule, q, outcome, leads, ended, within⟩ | ⟨schedule, q, s, leads, full, steps⟩
    · obtain ⟨least, finished⟩ := leads.exists_finish ended
      obtain ⟨returned, sameSteppers⟩ := finished least (Nat.le_refl _)
      have notWithin := late least q.duo outcome returned
      rw [show free.runSteppers least = schedule from sameSteppers] at notWithin
      exact absurd within notWithin
    · obtain ⟨counted, returned⟩ := cutOff schedule q s leads full steps
      have sameProgram : q.duo.program = d.program := leads.program_eq
      refine ⟨schedule, q, s, leads, full, steps, counted, ?_⟩
      rw [← sameProgram]
      exact returned

/-- The exchange takes ten steps: a limit of ten does not show, and one of nine does. -/
theorem step_limit_cuts_off_handshake :
    (∃ final, (handshake.reset.withLimit 10).Returns final (.ok ()) ∧ final.halt = .stalled) ∧
    ∃ final error, (handshake.reset.withLimit 9).Returns final (.error error) ∧
      error.cause = .stepLimit ∧ final.steps = 9 := by
  have ran : ∃ final, (handshake.reset.withLimit 0).run 40 = some (final, .ok ()) ∧
      final.halt = .stalled := ⟨_, rfl, rfl⟩
  have tenSteps : ((handshake.reset.withLimit 0).runSteppers 40).length = 10 := rfl
  obtain ⟨final, returned, stalled⟩ := ran
  constructor
  · have within :
        Play.EndsWithin 10 ((handshake.reset.withLimit 0).runSteppers 40).length (.ok ()) :=
      Nat.le_of_eq tenSteps
    exact ⟨_, (step_limit_cuts_off handshake 10 (by decide)).2.1 40 final _ returned within,
      stalled⟩
  · obtain ⟨schedule, q, s, leads, full, steps, counted, cutOff⟩ :=
      (step_limit_cuts_off handshake 9 (by decide)).2.2 (by
        intro moves other outcome otherReturned within
        obtain ⟨sameResult, sameSteppers⟩ := run_unique returned otherReturned
        obtain ⟨rfl, rfl⟩ := Prod.mk.inj sameResult
        rw [← sameSteppers, tenSteps] at within
        exact absurd within (Nat.not_succ_le_self 9))
    exact ⟨_, _, cutOff, rfl, counted⟩

end Duo

end Tandem

import Tandem.Proofs.Schedule.Coherence

set_option autoImplicit false

/-!
Calls of the scheduler. A play goes on move by move until it has ended, or until its cycle has:
`endOf?` is where it stops and `steppers` names the sides that have stepped by then. The results of
`tick` and `run` are read off that last play.

`Calls` relates a duo to what any number of calls makes of it. Whatever the calls, their steps are
an interleaving in which no step fails.
-/

namespace Tandem

namespace Play

/-- The side that steps in the next move, if any. -/
def stepper? (p : Play) : Option Side :=
  match p.turn with
  | some s => if (p.duo.pair.get s).isRunning then some s else none
  | none => none

/-- The sides that step, in order, until the play stops or the moves run out. -/
def steppers (stops : Play → Bool) : Nat → Play → List Side
  | 0, _ => []
  | moves + 1, p =>
      if stops p then [] else p.stepper?.toList ++ steppers stops moves p.advance

/-- The play at which it stops, unless the moves run out before. -/
def endOf? (stops : Play → Bool) : Nat → Play → Option Play
  | 0, _ => none
  | moves + 1, p => if stops p then some p else endOf? stops moves p.advance

def hasEnded (p : Play) : Bool := p.verdict?.isSome

def hasEndedCycle (p : Play) : Bool := p.turn.isNone || p.hasEnded

theorem verdict?_of_not_hasEnded {p : Play} (goesOn : p.hasEnded = false) : p.verdict? = none := by
  simpa [hasEnded] using goesOn

theorem verdict?_of_not_hasEndedCycle {p : Play} (goesOn : p.hasEndedCycle = false) :
    p.verdict? = none := by
  simp only [hasEndedCycle, Bool.or_eq_false_iff] at goesOn
  exact verdict?_of_not_hasEnded goesOn.2

/-! ### One move -/

@[simp]
theorem program_advance (p : Play) : p.advance.duo.program = p.duo.program := by
  obtain ⟨duo, turn⟩ := p
  cases turn with
  | none => rfl
  | some s =>
      simp only [advance]
      split <;> rfl

/-- A move of a play that goes on is a step that does not fail, or leaves both sides alone. -/
theorem interleave_stepper? {p : Play} (goesOn : p.verdict? = none) :
    p.duo.pair.interleave p.duo.program p.stepper?.toList = .ok p.advance.duo.pair := by
  obtain ⟨duo, turn⟩ := p
  cases turn with
  | none => rfl
  | some s =>
      cases running : (duo.pair.get s).isRunning with
      | false =>
          simp only [stepper?, advance, running, Bool.false_eq_true, if_false]
          exact Pair.interleave_nil _ _
      | true =>
          have noError : duo.error? s = none := by simpa [verdict?, running] using goesOn
          have faultless : (duo.pair.get s).stepFault? duo.program = none := by
            simp only [Duo.error?] at noError
            split at noError
            next => contradiction
            next => simpa using noError
          simp only [stepper?, advance, running, if_true, Option.toList,
            Pair.interleave_cons, faultless, Pair.attempt_of_no_fault faultless]
          rfl

/-! ### All moves -/

theorem interleave_steppers {stops : Play → Bool}
    (quiet : ∀ q, stops q = false → q.verdict? = none)
    {moves : Nat} {p q : Play} (ended : endOf? stops moves p = some q) :
    q.duo.program = p.duo.program ∧
      p.duo.pair.interleave p.duo.program (steppers stops moves p) = .ok q.duo.pair := by
  induction moves generalizing p with
  | zero => simp [endOf?] at ended
  | succ moves inductionHypothesis =>
      cases stopped : stops p with
      | true =>
          simp only [endOf?, stopped, if_true, Option.some.injEq] at ended
          subst q
          refine ⟨rfl, ?_⟩
          simp only [steppers, stopped, if_true]
          exact Pair.interleave_nil _ _
      | false =>
          simp only [endOf?, stopped, Bool.false_eq_true, if_false] at ended
          obtain ⟨sameProgram, played⟩ := inductionHypothesis ended
          rw [program_advance] at sameProgram played
          refine ⟨sameProgram, ?_⟩
          simp only [steppers, stopped, Bool.false_eq_true, if_false]
          exact Pair.interleave_trans (interleave_stepper? (quiet p stopped)) played

theorem finish_eq_some_iff {moves : Nat} {p : Play} {d : Duo} {outcome : Except RuntimeError Unit} :
    finish moves p = some (d, outcome) ↔
      ∃ q, endOf? hasEnded moves p = some q ∧ q.duo = d ∧ q.verdict? = some outcome := by
  induction moves generalizing p with
  | zero => simp [finish, endOf?]
  | succ moves inductionHypothesis =>
      cases ended : p.verdict? with
      | some verdict => simp [finish, endOf?, hasEnded, ended]
      | none => simpa [finish, endOf?, hasEnded, ended] using inductionHypothesis

theorem exists_error_of_verdict? {p : Play} {s : Side} {outcome : Except RuntimeError Unit}
    (onTurn : p.turn = some s) (ended : p.verdict? = some outcome) :
    ∃ error, outcome = .error error := by
  simp only [verdict?, onTurn] at ended
  split at ended
  next =>
    obtain ⟨error, _, equality⟩ := Option.map_eq_some_iff.mp ended
    exact ⟨error, equality.symm⟩
  next => contradiction

theorem finishCycle_eq_some {moves : Nat} {p : Play} {d : Duo} {answer : Except RuntimeError Bool}
    (finished : finishCycle moves p = some (d, answer)) :
    ∃ q, endOf? hasEndedCycle moves p = some q ∧ q.duo = d ∧
      (q.turn = none ∧ answer = .ok (!d.isRunning) ∨
        ∃ error, q.verdict? = some (.error error) ∧ answer = .error error) := by
  induction moves generalizing p with
  | zero => simp [finishCycle] at finished
  | succ moves inductionHypothesis =>
      cases onTurn : p.turn with
      | none =>
          simp only [finishCycle, onTurn, Option.some.injEq, Prod.mk.injEq] at finished
          obtain ⟨rfl, rfl⟩ := finished
          exact ⟨p, by simp [endOf?, hasEndedCycle, onTurn], rfl, .inl ⟨onTurn, rfl⟩⟩
      | some s =>
          cases ended : p.verdict? with
          | none =>
              simp only [finishCycle, onTurn, ended] at finished
              simpa [endOf?, hasEndedCycle, hasEnded, onTurn, ended] using
                inductionHypothesis finished
          | some outcome =>
              simp only [finishCycle, onTurn, ended, Option.some.injEq, Prod.mk.injEq] at finished
              obtain ⟨error, rfl⟩ := exists_error_of_verdict? onTurn ended
              obtain ⟨rfl, rfl⟩ := finished
              exact ⟨p, by simp [endOf?, hasEndedCycle, hasEnded, ended], rfl,
                .inr ⟨error, ended, rfl⟩⟩

end Play

namespace Duo

/-- The sides that step in a cycle, in order. -/
def tickSteppers (moves : Nat) (d : Duo) : List Side :=
  if d.isRunning then
    Play.steppers Play.hasEndedCycle moves ⟨{ d with cycles := d.cycles + 1 }, some .zero⟩
  else []

/-- The sides that step in a run, in order. -/
def runSteppers (moves : Nat) (d : Duo) : List Side :=
  Play.steppers Play.hasEnded moves ⟨d, none⟩

/-- Calls that return lead from one duo to another, with new step limits in between as the caller
likes. The list names the sides that step meanwhile. -/
inductive Calls (d : Duo) : List Side → Duo → Prop where
  | start : Calls d [] d
  | tick {schedule : List Side} {e f : Duo} {answer : Except RuntimeError Bool} (moves : Nat) :
      Calls d schedule e → e.tick moves = some (f, answer) →
      Calls d (schedule ++ e.tickSteppers moves) f
  | run {schedule : List Side} {e f : Duo} {outcome : Except RuntimeError Unit} (moves : Nat) :
      Calls d schedule e → e.run moves = some (f, outcome) →
      Calls d (schedule ++ e.runSteppers moves) f
  | limit {schedule : List Side} {e : Duo} (n : Int) :
      Calls d schedule e → Calls d schedule { e with stepLimit := n }

theorem tick_of_stopped (moves : Nat) {d : Duo} (stopped : d.isRunning = false) :
    d.tick moves = some (d, .ok true) := by
  simp [tick, stopped]

theorem run_of_stopped (moves : Nat) {d : Duo} (stopped : d.isRunning = false) :
    d.run (moves + 1) = some (d, .ok ()) := by
  simp [run, Play.finish, Play.verdict?, stopped]

theorem isRunning_of_tick {moves : Nat} {d e : Duo} {halted : Bool}
    (returned : d.tick moves = some (e, .ok halted)) : halted = !e.isRunning := by
  cases running : d.isRunning with
  | false =>
      rw [tick_of_stopped moves running] at returned
      cases returned
      simp [running]
  | true =>
      simp only [tick, running, if_true] at returned
      rcases Play.finishCycle_eq_some returned
        with ⟨q, _, _, ⟨_, answer⟩ | ⟨error, _, answer⟩⟩
      · exact Except.ok.inj answer
      · contradiction

theorem isRunning_of_run {moves : Nat} {d e : Duo} (returned : d.run moves = some (e, .ok ())) :
    e.isRunning = false := by
  obtain ⟨q, _, rfl, verdict⟩ := Play.finish_eq_some_iff.mp returned
  cases onTurn : q.turn with
  | none =>
      cases running : q.duo.isRunning with
      | false => rfl
      | true => simp [Play.verdict?, onTurn, running] at verdict
  | some s =>
      obtain ⟨error, equality⟩ := Play.exists_error_of_verdict? onTurn verdict
      contradiction

theorem interleave_tick {moves : Nat} {d e : Duo} {answer : Except RuntimeError Bool}
    (returned : d.tick moves = some (e, answer)) :
    e.program = d.program ∧
      d.pair.interleave d.program (d.tickSteppers moves) = .ok e.pair := by
  cases running : d.isRunning with
  | false =>
      rw [tick_of_stopped moves running] at returned
      cases returned
      simp only [tickSteppers, running, Bool.false_eq_true, if_false]
      exact ⟨trivial, Pair.interleave_nil _ _⟩
  | true =>
      simp only [tick, running, if_true] at returned
      obtain ⟨q, ended, rfl, _⟩ := Play.finishCycle_eq_some returned
      simp only [tickSteppers, running, if_true]
      exact Play.interleave_steppers
        (fun _ goesOn => Play.verdict?_of_not_hasEndedCycle goesOn) ended

theorem interleave_run {moves : Nat} {d e : Duo} {outcome : Except RuntimeError Unit}
    (returned : d.run moves = some (e, outcome)) :
    e.program = d.program ∧
      d.pair.interleave d.program (d.runSteppers moves) = .ok e.pair := by
  obtain ⟨q, ended, rfl, _⟩ := Play.finish_eq_some_iff.mp returned
  exact Play.interleave_steppers (fun _ goesOn => Play.verdict?_of_not_hasEnded goesOn) ended

/-- The steps that calls make, in their order, are an interleaving without failures. -/
theorem Calls.interleave {d e : Duo} {schedule : List Side} (calls : d.Calls schedule e) :
    e.program = d.program ∧ d.pair.interleave d.program schedule = .ok e.pair := by
  induction calls with
  | start => exact ⟨rfl, Pair.interleave_nil _ _⟩
  | tick moves _ returned inductionHypothesis =>
      obtain ⟨sameProgram, played⟩ := inductionHypothesis
      obtain ⟨keptProgram, continued⟩ := interleave_tick returned
      rw [sameProgram] at keptProgram continued
      exact ⟨keptProgram, Pair.interleave_trans played continued⟩
  | run moves _ returned inductionHypothesis =>
      obtain ⟨sameProgram, played⟩ := inductionHypothesis
      obtain ⟨keptProgram, continued⟩ := interleave_run returned
      rw [sameProgram] at keptProgram continued
      exact ⟨keptProgram, Pair.interleave_trans played continued⟩
  | limit n _ inductionHypothesis => exact inductionHypothesis

/-- The duos that one comes to after a reset: by step calls of the sides, by calls of the scheduler
that return, with an error or without, and by new step limits, in any order. -/
inductive AfterReset (d : Duo) : Duo → Prop where
  | reset : AfterReset d d.reset
  | step {e : Duo} (s : Side) :
      AfterReset d e → AfterReset d { e with pair := e.pair.attempt e.program s }
  | tick {e f : Duo} {answer : Except RuntimeError Bool} (moves : Nat) :
      AfterReset d e → e.tick moves = some (f, answer) → AfterReset d f
  | run {e f : Duo} {outcome : Except RuntimeError Unit} (moves : Nat) :
      AfterReset d e → e.run moves = some (f, outcome) → AfterReset d f
  | limit {e : Duo} (n : Int) : AfterReset d e → AfterReset d { e with stepLimit := n }

/-- Whatever was called, it has come down to step calls. -/
theorem AfterReset.exists_schedule {d e : Duo} (after : d.AfterReset e) :
    e.program = d.program ∧ ∃ schedule, d.reset.pair.attempts d.program schedule = e.pair := by
  have later : ∀ {p q : Pair} {steps : List Side}, p.interleave d.program steps = .ok q →
      (∃ schedule, d.reset.pair.attempts d.program schedule = p) →
      ∃ schedule, d.reset.pair.attempts d.program schedule = q := by
    rintro p q steps played ⟨schedule, rfl⟩
    refine ⟨schedule ++ steps, ?_⟩
    rw [Pair.attempts_append, Pair.attempts_of_interleave played]
  induction after with
  | reset => exact ⟨rfl, [], rfl⟩
  | step s _ inductionHypothesis =>
      obtain ⟨sameProgram, schedule, reached⟩ := inductionHypothesis
      refine ⟨sameProgram, schedule ++ [s], ?_⟩
      rw [Pair.attempts_concat, reached, sameProgram]
  | tick moves _ returned inductionHypothesis =>
      obtain ⟨sameProgram, reached⟩ := inductionHypothesis
      obtain ⟨keptProgram, played⟩ := interleave_tick returned
      rw [sameProgram] at keptProgram played
      exact ⟨keptProgram, later played reached⟩
  | run moves _ returned inductionHypothesis =>
      obtain ⟨sameProgram, reached⟩ := inductionHypothesis
      obtain ⟨keptProgram, played⟩ := interleave_run returned
      rw [sameProgram] at keptProgram played
      exact ⟨keptProgram, later played reached⟩
  | limit n _ inductionHypothesis => exact inductionHypothesis

theorem AfterReset.isCoherent {d e : Duo} (after : d.AfterReset e) :
    e.pair.IsCoherent d.program := by
  obtain ⟨_, schedule, reached⟩ := after.exists_schedule
  rw [← reached]
  exact d.isCoherent_reset.attempts schedule

/-- Each side sends its id, side zero also 7, and then each takes two values. Side zero waits for
its second one for ever. -/
def handshake : Duo :=
  { Duo.new with
    program := .ofInstructions
      [.snd (.ofRegister .pid), .jgz (.ofRegister .pid) (.ofLiteral 2), .snd (.ofLiteral 7),
        .rcv ⟨97⟩, .rcv ⟨98⟩] }

end Duo

end Tandem

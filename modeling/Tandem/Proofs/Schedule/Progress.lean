import Tandem.Proofs.Schedule.Conservation

set_option autoImplicit false

/-!
The progress of a side along an interleaving: its core, with the values that it has sent and taken.
Steps of the partner do not change it, nor do steps in which the side waits. Where two interleavings
of one start agree in the progress of a side, its next step leads to the same progress in both,
unless it waits in one of them for a value that the other has already brought.
-/

namespace Tandem

namespace Pair

structure Progress where
  core : Instance.Core
  sent : List Int64
  taken : List Int64
  deriving DecidableEq

def progress (program : Program) (p : Pair) (s : Side) (schedule : List Side) : Progress :=
  ⟨((p.attempts program schedule).get s).core, p.sentBy program s schedule,
    p.takenBy program s schedule⟩

theorem progress_concat_other (program : Program) (p : Pair) (s : Side) (schedule : List Side) :
    p.progress program s (schedule ++ [s.other]) = p.progress program s schedule := by
  have sameCore : ((p.attempts program (schedule ++ [s.other])).get s).core =
      ((p.attempts program schedule).get s).core := by
    have partner := get_attempt_other program (p.attempts program schedule) s.other
    rw [Side.other_other] at partner
    rw [attempts_concat, partner]
    cases ((p.attempts program schedule).get s.other).sends? program <;> rfl
  simp only [progress, sameCore, sentBy, takenBy, exchanged_append, exchanged_singleton,
    Side.other_ne, if_false, List.append_nil]

section Steps

variable {program : Program} {p : Pair} {s : Side} {schedule other : List Side}

/-- The progress after a step that does not fail. -/
theorem progress_concat_self
    (faultless : ((p.attempts program schedule).get s).stepFault? program = none) :
    p.progress program s (schedule ++ [s]) =
      let c := (p.attempts program schedule).get s
      ⟨(c.advance program).1.core, p.sentBy program s schedule ++ (c.sends? program).toList,
        p.takenBy program s schedule ++ (c.takes? program).toList⟩ := by
  simp only [progress, attempts_concat, attempt_of_no_fault faultless, get_advance_self, sentBy,
    takenBy, exchanged_append, exchanged_singleton, if_true]

theorem progress_concat_of_stopped
    (stopped : ((p.attempts program schedule).get s).isRunning = false) :
    p.progress program s (schedule ++ [s]) = p.progress program s schedule := by
  have faultless : ((p.attempts program schedule).get s).stepFault? program = none := by
    simp [Instance.stepFault?, stopped]
  rw [progress_concat_self faultless]
  simp [progress, Instance.advance_of_stopped program stopped,
    Instance.sends?_of_stopped program stopped, Instance.takes?_of_stopped program stopped]

theorem progress_concat_of_starved
    (starved : ((p.attempts program schedule).get s).IsStarved program) :
    p.progress program s (schedule ++ [s]) = p.progress program s schedule := by
  obtain ⟨sameCore, noneSent, noneTaken, faultless⟩ := Instance.advance_of_starved starved
  rw [progress_concat_self faultless]
  simp [progress, sameCore, noneSent, noneTaken]

/-- A step that makes progress is not one of a side that has stopped or waits. -/
theorem running_and_fed_of_moved
    (moved : p.progress program s (schedule ++ [s]) ≠ p.progress program s schedule) :
    ((p.attempts program schedule).get s).isRunning = true ∧
      ¬ ((p.attempts program schedule).get s).IsStarved program := by
  constructor
  · cases running : ((p.attempts program schedule).get s).isRunning with
    | true => rfl
    | false => exact absurd (progress_concat_of_stopped running) moved
  · intro starved
    exact moved (progress_concat_of_starved starved)

theorem progress_concat_congr
    (same : p.progress program s schedule = p.progress program s other)
    (running : ((p.attempts program schedule).get s).isRunning = true)
    (otherRunning : ((p.attempts program other).get s).isRunning = true)
    (faultless : ((p.attempts program schedule).get s).stepFault? program = none)
    (sameInput : ((p.attempts program schedule).get s).takes? program =
      ((p.attempts program other).get s).takes? program) :
    p.progress program s (schedule ++ [s]) = p.progress program s (other ++ [s]) := by
  have sameCore : ((p.attempts program schedule).get s).core =
      ((p.attempts program other).get s).core := congrArg Progress.core same
  have sameSent : p.sentBy program s schedule = p.sentBy program s other :=
    congrArg Progress.sent same
  have sameTaken : p.takenBy program s schedule = p.takenBy program s other :=
    congrArg Progress.taken same
  have sameStatus : ((p.attempts program schedule).get s).isRunning =
      ((p.attempts program other).get s).isRunning := running.trans otherRunning.symm
  have otherFaultless : ((p.attempts program other).get s).stepFault? program = none := by
    rw [← Instance.stepFault?_congr program sameCore sameStatus]
    exact faultless
  rw [progress_concat_self faultless, progress_concat_self otherFaultless]
  simp only [sameSent, sameTaken, sameInput, Instance.sends?_congr program sameCore sameStatus,
    Instance.core_advance_congr program sameCore running otherRunning sameInput]

end Steps

/-- From any point of an interleaving on, a side either makes no more progress, or takes a step that
makes some after steps that make none. -/
theorem progress_append_or_exists_step (program : Program) (p : Pair) (s : Side)
    (before after : List Side) :
    p.progress program s (before ++ after) = p.progress program s before ∨
      ∃ middle rest, before ++ after = middle ++ s :: rest ∧
        p.progress program s middle = p.progress program s before ∧
        p.progress program s (middle ++ [s]) ≠ p.progress program s middle := by
  induction after generalizing before with
  | nil => exact .inl (by rw [List.append_nil])
  | cons turn rest inductionHypothesis =>
      by_cases same : p.progress program s (before ++ [turn]) = p.progress program s before
      · have later := inductionHypothesis (before ++ [turn])
        rw [same, List.append_assoc, List.singleton_append] at later
        exact later
      · rcases s.eq_or_eq_other turn with equality | equality
        · subst turn
          exact .inr ⟨before, rest, rfl, rfl, same⟩
        · subst turn
          exact absurd (progress_concat_other program p s before) same

theorem isPrefix_sentBy (program : Program) (p : Pair) (s : Side) {before schedule : List Side}
    (earlier : before <+: schedule) :
    p.sentBy program s before <+: p.sentBy program s schedule := by
  obtain ⟨after, rfl⟩ := earlier
  simp only [sentBy, exchanged_append]
  exact List.prefix_append _ _

end Pair

end Tandem

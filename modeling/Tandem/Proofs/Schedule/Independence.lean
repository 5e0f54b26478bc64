import Mathlib.Data.List.Induction
import Tandem.Proofs.Schedule.Progress

set_option autoImplicit false

/-!
Schedule independence. Two steps of different sides do not commute when one waits for what the other
sends, so the argument follows the progress of each side instead: if one interleaving stops, then in
every other one each side only ever makes progress that it also makes in the first. Hence none
fails, and those that stop end alike.
-/

namespace Tandem

namespace Pair

section Comparison

variable {program : Program} {p : Pair} {s : Side} {schedule other : List Side}

/-- The values that a side has taken and those that wait for it are the beginning of all that its
partner sends in an interleaving that sends as much. -/
theorem isPrefix_taken_append_queued (coherent : p.IsCoherent program)
    (sentBefore : p.sentBy program s.other schedule <+: p.sentBy program s.other other) :
    p.takenBy program s schedule ++ ((p.attempts program schedule).get s).inbox.queued <+:
      (p.get s).inbox.queued ++ p.sentBy program s.other other := by
  have law := coherent.queued_append_sentBy s.other schedule
  rw [Side.other_other] at law
  rw [← law]
  exact (List.prefix_append_right_inj _).mpr sentBefore

/-- Where a side has stopped, the same progress in another interleaving means that it is stopped or
starved there too, if its partner has not sent more. -/
theorem isStarved_of_stopped (coherent : p.IsCoherent program)
    (same : p.progress program s schedule = p.progress program s other)
    (running : ((p.attempts program schedule).get s).isRunning = true)
    (stopped : ((p.attempts program other).get s).isRunning = false)
    (sentBefore : p.sentBy program s.other schedule <+: p.sentBy program s.other other) :
    ((p.attempts program schedule).get s).IsStarved program := by
  have sameCore : ((p.attempts program schedule).get s).core =
      ((p.attempts program other).get s).core := congrArg Progress.core same
  have samePc : ((p.attempts program schedule).get s).pc =
      ((p.attempts program other).get s).pc := congrArg Instance.Core.pc sameCore
  have alive : ((p.attempts program other).get s).terminated = false := by
    have sameFlag := congrArg Instance.Core.terminated sameCore
    exact sameFlag.symm.trans ((Instance.isRunning_iff _).mp running).1
  have blocked : ((p.attempts program other).get s).blocked = true := by
    rcases Instance.terminated_or_blocked_of_stopped stopped with terminated | blocked
    · rw [alive] at terminated
      contradiction
    · exact blocked
  obtain ⟨atReceive, nothingQueued⟩ := (coherent.attempts other s).starved blocked
  have sameTaken : p.takenBy program s schedule = p.takenBy program s other :=
    congrArg Progress.taken same
  refine ⟨?_, ?_⟩
  · rw [Instance.AtReceive, samePc]
    exact atReceive
  · -- all that the partner sends in the other interleaving has been taken there
    have law := coherent.queued_append_sentBy s.other other
    rw [Side.other_other, nothingQueued] at law
    have ahead := isPrefix_taken_append_queued coherent sentBefore
    rw [law, sameTaken, List.prefix_append_right_inj] at ahead
    exact List.prefix_nil.mp ahead

/-- Two interleavings whose partners have sent parts of the same values offer the same next
value. -/
theorem takes?_eq_of_not_starved (coherent : p.IsCoherent program)
    (same : p.progress program s schedule = p.progress program s other)
    (running : ((p.attempts program schedule).get s).isRunning = true)
    (otherRunning : ((p.attempts program other).get s).isRunning = true)
    (fed : ¬ ((p.attempts program schedule).get s).IsStarved program)
    (otherFed : ¬ ((p.attempts program other).get s).IsStarved program)
    {whole : List Side}
    (sentBefore : p.sentBy program s.other schedule <+: p.sentBy program s.other whole)
    (otherSentBefore : p.sentBy program s.other other <+: p.sentBy program s.other whole) :
    ((p.attempts program schedule).get s).takes? program =
      ((p.attempts program other).get s).takes? program := by
  have samePc : ((p.attempts program schedule).get s).pc =
      ((p.attempts program other).get s).pc :=
    congrArg Instance.Core.pc (congrArg Progress.core same)
  have sameTaken : p.takenBy program s schedule = p.takenBy program s other :=
    congrArg Progress.taken same
  obtain ⟨ins, fetched⟩ := (coherent.attempts schedule s).exists_fetch?_of_running running
  have otherFetched := samePc ▸ fetched
  rw [Instance.takes?_of_fetch? running fetched,
    Instance.takes?_of_fetch? otherRunning otherFetched]
  by_cases receives : ins.op = .rcv
  · rw [if_pos receives, if_pos receives, (coherent.attempts schedule s).ready.map_fst_receive?,
      (coherent.attempts other s).ready.map_fst_receive?]
    have ahead := isPrefix_taken_append_queued coherent sentBefore
    have otherAhead := isPrefix_taken_append_queued coherent otherSentBefore
    rw [← sameTaken] at otherAhead
    cases holds : ((p.attempts program schedule).get s).inbox.queued with
    | nil => exact absurd ⟨⟨ins, fetched, receives⟩, holds⟩ fed
    | cons value rest =>
        cases otherHolds : ((p.attempts program other).get s).inbox.queued with
        | nil => exact absurd ⟨⟨ins, otherFetched, receives⟩, otherHolds⟩ otherFed
        | cons otherValue otherRest =>
            -- both values follow the taken ones in all that the partner sends
            rw [holds] at ahead
            rw [otherHolds] at otherAhead
            obtain ⟨tail, whole⟩ := ahead
            obtain ⟨otherTail, otherWhole⟩ := otherAhead
            have values := whole.trans otherWhole.symm
            simp only [List.append_assoc, List.append_cancel_left_eq, List.cons_append,
              List.cons.injEq] at values
            rw [values.1]
            rfl
  · rw [if_neg receives, if_neg receives]

/-- Where the progress is the same and the side is fed, it repeats a step that makes progress in an
interleaving that does not fail. -/
theorem progress_concat_eq_of_moved (coherent : p.IsCoherent program) {middle rest : List Side}
    {final : Pair} (played : p.interleave program (middle ++ s :: rest) = .ok final)
    (moved : p.progress program s (middle ++ [s]) ≠ p.progress program s middle)
    (same : p.progress program s schedule = p.progress program s middle)
    (running : ((p.attempts program schedule).get s).isRunning = true)
    (fed : ¬ ((p.attempts program schedule).get s).IsStarved program)
    (sentBefore : p.sentBy program s.other schedule <+:
      p.sentBy program s.other (middle ++ s :: rest)) :
    ((p.attempts program schedule).get s).stepFault? program = none ∧
      p.progress program s (schedule ++ [s]) = p.progress program s (middle ++ [s]) := by
  obtain ⟨middleRunning, middleFed⟩ := running_and_fed_of_moved moved
  have faultless : ((p.attempts program schedule).get s).stepFault? program = none := by
    rw [Instance.stepFault?_congr program (congrArg Progress.core same)
      (running.trans middleRunning.symm)]
    exact stepFault?_of_interleave played
  have sameInput := takes?_eq_of_not_starved coherent same running middleRunning fed middleFed
    sentBefore (isPrefix_sentBy program p s.other (List.prefix_append _ _))
  exact ⟨faultless, progress_concat_congr same running middleRunning faultless sameInput⟩

end Comparison

/-- Some beginning of the schedule brings the side to this progress. -/
def Passes (program : Program) (p : Pair) (s : Side) (schedule : List Side) (progress : Progress) :
    Prop :=
  ∃ before, before <+: schedule ∧ p.progress program s before = progress

section Following

variable {program : Program} {p final : Pair} {whole : List Side}

theorem Passes.isPrefix_sentBy {s : Side} {schedule : List Side}
    (passes : p.Passes program s whole (p.progress program s schedule)) :
    p.sentBy program s schedule <+: p.sentBy program s whole := by
  obtain ⟨before, earlier, same⟩ := passes
  have sameSent : p.sentBy program s before = p.sentBy program s schedule :=
    congrArg Progress.sent same
  rw [← sameSent]
  exact Pair.isPrefix_sentBy program p s earlier

/-- One step: while both sides follow an interleaving that stops, no step fails, and the side that
steps still follows it. -/
theorem Passes.concat (coherent : p.IsCoherent program)
    (played : p.interleave program whole = .ok final) (stopped : final.isRunning = false)
    {schedule : List Side}
    (passes : ∀ s, p.Passes program s whole (p.progress program s schedule)) (turn : Side) :
    ((p.attempts program schedule).get turn).stepFault? program = none ∧
      p.Passes program turn whole (p.progress program turn (schedule ++ [turn])) := by
  have wait : ((p.attempts program schedule).get turn).IsStarved program →
      ((p.attempts program schedule).get turn).stepFault? program = none ∧
        p.Passes program turn whole (p.progress program turn (schedule ++ [turn])) := by
    intro starved
    rw [progress_concat_of_starved starved]
    exact ⟨(Instance.advance_of_starved starved).2.2.2, passes turn⟩
  cases running : ((p.attempts program schedule).get turn).isRunning with
  | false =>
      rw [progress_concat_of_stopped running]
      exact ⟨by simp [Instance.stepFault?, running], passes turn⟩
  | true =>
      obtain ⟨before, ⟨after, rfl⟩, same⟩ := passes turn
      rcases progress_append_or_exists_step program p turn before after with
        unchanged | ⟨middle, rest, split, sameMiddle, moved⟩
      · apply wait
        have finalStopped :
            ((p.attempts program (before ++ after)).get turn).isRunning = false := by
          rw [attempts_of_interleave played]
          exact (isRunning_eq_false_iff final).mp stopped turn
        exact isStarved_of_stopped coherent (same.symm.trans unchanged.symm) running finalStopped
          (passes turn.other).isPrefix_sentBy
      · by_cases starved : ((p.attempts program schedule).get turn).IsStarved program
        · exact wait starved
        · have ahead := (passes turn.other).isPrefix_sentBy
          rw [split] at played ahead
          obtain ⟨faultless, repeated⟩ := progress_concat_eq_of_moved coherent played moved
            (same.symm.trans sameMiddle.symm) running starved ahead
          exact ⟨faultless, middle ++ [turn], ⟨rest, by simp [split]⟩, repeated.symm⟩

/-- All steps: every interleaving follows one that stops, and does not fail. -/
theorem exists_interleave_and_passes (coherent : p.IsCoherent program)
    (played : p.interleave program whole = .ok final) (stopped : final.isRunning = false)
    (schedule : List Side) :
    (∃ reached, p.interleave program schedule = .ok reached) ∧
      ∀ s, p.Passes program s whole (p.progress program s schedule) := by
  induction schedule using List.reverseRecOn with
  | nil => exact ⟨⟨p, interleave_nil program p⟩, fun s => ⟨[], List.nil_prefix, rfl⟩⟩
  | append_singleton schedule turn inductionHypothesis =>
      obtain ⟨⟨reached, playedSoFar⟩, passes⟩ := inductionHypothesis
      obtain ⟨faultless, passesOn⟩ := Passes.concat coherent played stopped passes turn
      rw [attempts_of_interleave playedSoFar] at faultless
      refine ⟨⟨_, interleave_concat playedSoFar faultless⟩, ?_⟩
      intro s
      rcases turn.eq_or_eq_other s with equality | equality
      · subst s
        exact passesOn
      · subst s
        have unmoved := progress_concat_other program p turn.other schedule
        rw [Side.other_other] at unmoved
        rw [unmoved]
        exact passes turn.other

end Following

theorem progress_eq_of_stopped {program : Program} {p first second : Pair}
    {schedule other : List Side} (coherent : p.IsCoherent program)
    (played : p.interleave program schedule = .ok first) (stopped : first.isRunning = false)
    (otherPlayed : p.interleave program other = .ok second)
    (otherStopped : second.isRunning = false) (s : Side) :
    p.progress program s schedule = p.progress program s other := by
  rcases (exists_interleave_and_passes coherent played stopped other).2 s with
    ⟨before, ⟨after, rfl⟩, same⟩
  rcases progress_append_or_exists_step program p s before after with
    unchanged | ⟨middle, rest, split, sameMiddle, moved⟩
  · exact unchanged.trans same
  · -- the second interleaving has stopped where the first goes on, which needs a value not sent
    have partner := (exists_interleave_and_passes coherent otherPlayed otherStopped
      (before ++ after)).2 s.other
    have middleEarlier : middle <+: before ++ after := ⟨s :: rest, split.symm⟩
    have secondStopped : ((p.attempts program other).get s).isRunning = false := by
      rw [attempts_of_interleave otherPlayed]
      exact (isRunning_eq_false_iff second).mp otherStopped s
    obtain ⟨running, fed⟩ := running_and_fed_of_moved moved
    have starved := isStarved_of_stopped coherent (sameMiddle.trans same) running secondStopped
      ((Pair.isPrefix_sentBy program p s.other middleEarlier).trans partner.isPrefix_sentBy)
    exact absurd starved fed

end Pair

/-- What is left of an instance when a duo has stopped, waiting and its cost apart. -/
structure Instance.Outcome where
  registers : RegisterFile
  pc : Int64
  terminated : Bool
  blocked : Bool
  sent : UInt64
  received : UInt64
  queued : List Int64
  deriving DecidableEq

def Instance.outcome (c : Instance) : Outcome :=
  ⟨c.registers, c.pc, c.terminated, c.blocked, c.sent, c.received, c.inbox.queued⟩

theorem Instance.IsCoherent.blocked_of_stopped {p : Program} {c : Instance}
    (coherent : c.IsCoherent p) (stopped : c.isRunning = false) : c.blocked = !c.terminated := by
  cases blocked : c.blocked with
  | true => simp [coherent.not_terminated_of_starved (coherent.starved blocked)]
  | false => simpa [isRunning, blocked] using stopped.symm

theorem Pair.outcome_eq_of_stopped {program : Program} {p first second : Pair}
    {schedule other : List Side} (coherent : p.IsCoherent program)
    (played : p.interleave program schedule = .ok first) (stopped : first.isRunning = false)
    (otherPlayed : p.interleave program other = .ok second)
    (otherStopped : second.isRunning = false) (s : Side) :
    (first.get s).outcome = (second.get s).outcome := by
  have same := progress_eq_of_stopped coherent played stopped otherPlayed otherStopped
  have law := coherent.queued_append_sentBy s.other schedule
  have otherLaw := coherent.queued_append_sentBy s.other other
  have firstCoherent := coherent.attempts schedule s
  have secondCoherent := coherent.attempts other s
  have sameCore := congrArg Progress.core (same s)
  have sameTaken : p.takenBy program s schedule = p.takenBy program s other :=
    congrArg Progress.taken (same s)
  have sameSent : p.sentBy program s.other schedule = p.sentBy program s.other other :=
    congrArg Progress.sent (same s.other)
  simp only [progress, attempts_of_interleave played, attempts_of_interleave otherPlayed,
    Instance.core, Instance.Core.mk.injEq] at sameCore
  rw [attempts_of_interleave played, Side.other_other] at law
  rw [attempts_of_interleave otherPlayed, Side.other_other] at otherLaw
  rw [attempts_of_interleave played] at firstCoherent
  rw [attempts_of_interleave otherPlayed] at secondCoherent
  obtain ⟨registers, pc, terminated, sent, received⟩ := sameCore
  have queued : (first.get s).inbox.queued = (second.get s).inbox.queued := by
    rw [sameSent, otherLaw, sameTaken] at law
    exact (List.append_cancel_left law).symm
  have blocked : (first.get s).blocked = (second.get s).blocked := by
    rw [firstCoherent.blocked_of_stopped ((isRunning_eq_false_iff first).mp stopped s),
      secondCoherent.blocked_of_stopped ((isRunning_eq_false_iff second).mp otherStopped s),
      terminated]
  simp only [Instance.outcome, registers, pc, terminated, blocked, sent, received, queued]

/-! ### The opposite order -/

/-- The pair with its sides exchanged: what the scheduler does to it, it does in
the opposite order. -/
def Pair.swap (p : Pair) : Pair := ⟨p.one, p.zero, p.trace⟩

def Duo.swap (d : Duo) : Duo := { d with pair := d.pair.swap }

namespace Pair

@[simp]
theorem swap_swap (p : Pair) : p.swap.swap = p := rfl

@[simp]
theorem get_swap (p : Pair) (s : Side) : p.swap.get s = p.get s.other := by
  cases s <;> rfl

@[simp]
theorem modify_swap (p : Pair) (s : Side) (f : Instance → Instance) :
    p.swap.modify s f = (p.modify s.other f).swap := by
  cases s <;> rfl

@[simp]
theorem record_swap (p : Pair) (written : Text) :
    p.swap.record written = (p.record written).swap := by
  unfold record
  split <;> rfl

@[simp]
theorem deliver_swap (p : Pair) (s : Side) (value : Int64) :
    p.swap.deliver s value = (p.deliver s.other value).swap := by
  rw [deliver, deliver, get_swap, record_swap, modify_swap]

@[simp]
theorem advance_swap (program : Program) (p : Pair) (s : Side) :
    p.swap.advance program s s.other = (p.advance program s.other s).swap := by
  simp only [advance, act_eq, get_swap, set, modify_swap, deliver_swap, Side.other_other]
  split <;> rfl

@[simp]
theorem attempt_swap (program : Program) (p : Pair) (s : Side) :
    p.swap.attempt program s = (p.attempt program s.other).swap := by
  simp only [attempt, step, get_swap, Side.other_other, advance_swap]
  cases (p.get s.other).stepFault? program <;> rfl

@[simp]
theorem interleave_swap (program : Program) (p : Pair) (schedule : List Side) :
    p.swap.interleave program schedule =
      (p.interleave program (schedule.map Side.other)).map swap := by
  induction schedule generalizing p with
  | nil => rfl
  | cons s rest inductionHypothesis =>
      rw [interleave_cons, List.map_cons, interleave_cons, get_swap]
      cases (p.get s.other).stepFault? program with
      | some fault => rfl
      | none =>
          simp only
          rw [attempt_swap, inductionHypothesis]

end Pair

/-- If some order of the step calls ends, without a failure, with both sides stopped, then no order
ever fails, and all that end with both sides stopped end with the same outcome on both. Calls of the
scheduler in their own or in the opposite order, with step limits or without, are such orders. -/
theorem Duo.outcome_independent_of_schedule (d : Duo) :
    (∀ (schedule : List Side) (final : Pair),
      d.reset.pair.interleave d.program schedule = .ok final → final.isRunning = false →
      ∀ other : List Side, ∃ reached, d.reset.pair.interleave d.program other = .ok reached ∧
        (reached.isRunning = false → ∀ s, (reached.get s).outcome = (final.get s).outcome)) ∧
    (∀ (schedule : List Side) (e : Duo), d.reset.Calls schedule e →
      d.reset.pair.interleave d.program schedule = .ok e.pair) ∧
    (∀ (schedule : List Side) (e : Duo), d.reset.swap.Calls schedule e →
      d.reset.pair.interleave d.program (schedule.map Side.other) = .ok e.pair.swap) := by
  refine ⟨?_, fun schedule e calls => calls.interleave.2, ?_⟩
  · intro schedule final played stopped other
    rcases (Pair.exists_interleave_and_passes d.isCoherent_reset played stopped other).1 with
      ⟨reached, otherPlayed⟩
    refine ⟨reached, otherPlayed, ?_⟩
    intro otherStopped s
    exact Pair.outcome_eq_of_stopped d.isCoherent_reset otherPlayed otherStopped played stopped s
  · intro schedule e calls
    have exchanged : d.reset.pair.swap.interleave d.program schedule = .ok e.pair :=
      calls.interleave.2
    rw [Pair.interleave_swap] at exchanged
    cases played : d.reset.pair.interleave d.program (schedule.map Side.other) with
    | error fault => simp [played, Except.map] at exchanged
    | ok reached =>
        rw [played] at exchanged
        have same : reached.swap = e.pair := Except.ok.inj exchanged
        rw [← same, Pair.swap_swap]

/-- Whichever side goes first, and although each then waits at another moment. -/
theorem Duo.outcome_independent_of_schedule_handshake :
    ∃ final reached,
      handshake.reset.pair.interleave handshake.program
          [.zero, .zero, .zero, .zero, .one, .one, .one, .one, .zero, .zero] = .ok final ∧
      handshake.reset.pair.interleave handshake.program
          [.one, .one, .one, .zero, .zero, .zero, .zero, .zero, .one, .one] = .ok reached ∧
      final.isRunning = false ∧ reached.isRunning = false ∧
      ∀ s, (reached.get s).outcome = (final.get s).outcome := by
  have zeroFirst : ∃ final, handshake.reset.pair.interleave handshake.program
      [.zero, .zero, .zero, .zero, .one, .one, .one, .one, .zero, .zero] = .ok final ∧
        final.isRunning = false := ⟨_, rfl, rfl⟩
  have oneFirst : ∃ reached, handshake.reset.pair.interleave handshake.program
      [.one, .one, .one, .zero, .zero, .zero, .zero, .zero, .one, .one] = .ok reached ∧
        reached.isRunning = false := ⟨_, rfl, rfl⟩
  obtain ⟨final, played, stopped⟩ := zeroFirst
  obtain ⟨reached, otherPlayed, otherStopped⟩ := oneFirst
  rcases handshake.outcome_independent_of_schedule.1 _ final played stopped
    [.one, .one, .one, .zero, .zero, .zero, .zero, .zero, .one, .one]
      with ⟨found, foundPlayed, same⟩
  have equality : reached = found := Except.ok.inj (otherPlayed.symm.trans foundPlayed)
  subst found
  exact ⟨final, reached, played, otherPlayed, stopped, otherStopped, same otherStopped⟩

end Tandem

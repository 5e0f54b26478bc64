import Tandem.Proofs.Machine.Coherence
import Tandem.Schedule.Pair

set_option autoImplicit false

/-!
Interleavings: step calls of the two sides in any order. `attempt` is what one call leaves behind
and `attempts` what a sequence of calls does, whether they fail or not; `interleave` ends at the
first failure. `sentBy` and `takenBy` list the values that a side sends and takes along the way.

A step of one side changes that side by `Instance.advance` and its partner by at most one
`Instance.deliver`, so what these two keep holds all along every interleaving.
-/

namespace Tandem

namespace Side

@[simp]
theorem other_other (s : Side) : s.other.other = s := by
  cases s <;> rfl

@[simp]
theorem other_ne (s : Side) : s.other ≠ s := by
  cases s <;> decide

@[simp]
theorem ne_other (s : Side) : s ≠ s.other := by
  cases s <;> decide

theorem eq_or_eq_other (s t : Side) : t = s ∨ t = s.other := by
  cases s <;> cases t <;> simp [other]

theorem forall_iff {P : Side → Prop} : (∀ s, P s) ↔ P .zero ∧ P .one := by
  constructor
  · intro all
    exact ⟨all .zero, all .one⟩
  · rintro ⟨zero, one⟩ s
    cases s with
    | zero => exact zero
    | one => exact one

theorem exists_iff {P : Side → Prop} : (∃ s, P s) ↔ P .zero ∨ P .one := by
  constructor
  · rintro ⟨s, holds⟩
    cases s with
    | zero => exact .inl holds
    | one => exact .inr holds
  · rintro (holds | holds)
    · exact ⟨.zero, holds⟩
    · exact ⟨.one, holds⟩

end Side

namespace Pair

/-- What a step call leaves behind. A failing step changes nothing. -/
def attempt (program : Program) (p : Pair) (s : Side) : Pair :=
  match p.step program s s.other with
  | .ok next => next
  | .error _ => p

/-- Step calls in the given order, failing ones included. -/
def attempts (program : Program) (p : Pair) (schedule : List Side) : Pair :=
  schedule.foldl (attempt program) p

/-- Step calls in the given order, up to the first that fails. -/
def interleave (program : Program) (p : Pair) (schedule : List Side) : Except Fault Pair :=
  schedule.foldlM (fun p s => p.step program s s.other) p

/-- The values that the step calls of one side exchange, as `event` tells them before each step. -/
def exchanged (program : Program) (event : Instance → Option Int64) (s : Side) :
    Pair → List Side → List Int64
  | _, [] => []
  | p, turn :: rest =>
      (if turn = s then (event (p.get s)).toList else []) ++
        exchanged program event s (p.attempt program turn) rest

/-- The values that a side sends, in order. -/
def sentBy (program : Program) (p : Pair) (s : Side) (schedule : List Side) : List Int64 :=
  exchanged program (Instance.sends? program) s p schedule

/-- The values that a side takes from its inbox, in order. -/
def takenBy (program : Program) (p : Pair) (s : Side) (schedule : List Side) : List Int64 :=
  exchanged program (Instance.takes? program) s p schedule

theorem isRunning_eq_false_iff (p : Pair) :
    p.isRunning = false ↔ ∀ s, (p.get s).isRunning = false := by
  rw [isRunning, Bool.or_eq_false_iff, Side.forall_iff]
  rfl

/-! ### One step -/

@[simp]
theorem get_modify_self (p : Pair) (s : Side) (f : Instance → Instance) :
    (p.modify s f).get s = f (p.get s) := by
  cases s <;> rfl

@[simp]
theorem get_modify_other (p : Pair) (s : Side) (f : Instance → Instance) :
    (p.modify s f).get s.other = p.get s.other := by
  cases s <;> rfl

@[simp]
theorem get_record (p : Pair) (written : Text) (s : Side) :
    (p.record written).get s = p.get s := by
  unfold record
  split
  · rfl
  · cases s <;> rfl

@[simp]
theorem get_deliver_self (p : Pair) (s : Side) (value : Int64) :
    (p.deliver s value).get s = (p.get s).deliver value := by
  rw [deliver, get_modify_self, get_record]

@[simp]
theorem get_deliver_other (p : Pair) (s : Side) (value : Int64) :
    (p.deliver s value).get s.other = p.get s.other := by
  rw [deliver, get_modify_other, get_record]

theorem act_eq (p : Pair) (s partner : Side) (turn : Instance → Instance × Option Int64) :
    p.act s partner turn =
      match (turn (p.get s)).2 with
      | none => p.set s (turn (p.get s)).1
      | some value => (p.set s (turn (p.get s)).1).deliver partner value := by
  cases s <;> rfl

@[simp]
theorem get_act_self (p : Pair) (s : Side) (turn : Instance → Instance × Option Int64) :
    (p.act s s.other turn).get s = (turn (p.get s)).1 := by
  rw [act_eq]
  split
  next => exact get_modify_self p s _
  next value _ =>
    have kept := get_deliver_other (p.set s (turn (p.get s)).1) s.other value
    rw [Side.other_other] at kept
    rw [kept]
    exact get_modify_self p s _

theorem get_act_other (p : Pair) (s : Side) (turn : Instance → Instance × Option Int64) :
    (p.act s s.other turn).get s.other =
      match (turn (p.get s)).2 with
      | none => p.get s.other
      | some value => (p.get s.other).deliver value := by
  rw [act_eq]
  cases (turn (p.get s)).2 with
  | none => exact get_modify_other p s _
  | some value =>
      rw [get_deliver_self]
      exact congrArg (Instance.deliver value) (get_modify_other p s _)

@[simp]
theorem get_advance_self (program : Program) (p : Pair) (s : Side) :
    (p.advance program s s.other).get s = ((p.get s).advance program).1 :=
  get_act_self p s _

theorem get_advance_other (program : Program) (p : Pair) (s : Side) :
    (p.advance program s s.other).get s.other =
      match (p.get s).sends? program with
      | none => p.get s.other
      | some value => (p.get s.other).deliver value := by
  rw [← Instance.snd_advance]
  exact get_act_other p s _

theorem attempt_of_fault {program : Program} {p : Pair} {s : Side} {fault : Fault}
    (failing : (p.get s).stepFault? program = some fault) : p.attempt program s = p := by
  simp [attempt, step, failing]

theorem attempt_of_no_fault {program : Program} {p : Pair} {s : Side}
    (faultless : (p.get s).stepFault? program = none) :
    p.attempt program s = p.advance program s s.other := by
  simp [attempt, step, faultless]

theorem get_attempt_self (program : Program) (p : Pair) (s : Side) :
    (p.attempt program s).get s =
      match (p.get s).stepFault? program with
      | some _ => p.get s
      | none => ((p.get s).advance program).1 := by
  cases failing : (p.get s).stepFault? program with
  | some fault => rw [attempt_of_fault failing]
  | none => rw [attempt_of_no_fault failing, get_advance_self]

/-- A property of single instances that steps and deliveries keep is kept by every step call. -/
theorem forall_get_attempt {program : Program} {P : Instance → Prop}
    (advances : ∀ c, P c → P (c.advance program).1)
    (delivers : ∀ c value, P c → P (c.deliver value))
    {p : Pair} (holds : ∀ t, P (p.get t)) (s t : Side) : P ((p.attempt program s).get t) := by
  cases failing : (p.get s).stepFault? program with
  | some fault =>
      rw [attempt_of_fault failing]
      exact holds t
  | none =>
      rw [attempt_of_no_fault failing]
      rcases s.eq_or_eq_other t with equality | equality
      · subst t
        simpa using advances _ (holds s)
      · subst t
        rw [get_advance_other]
        cases (p.get s).sends? program with
        | none => exact holds s.other
        | some value => exact delivers _ value (holds s.other)

/-! ### Sequences of step calls -/

@[simp]
theorem attempts_nil (program : Program) (p : Pair) : p.attempts program [] = p := rfl

@[simp]
theorem attempts_concat (program : Program) (p : Pair) (schedule : List Side) (s : Side) :
    p.attempts program (schedule ++ [s]) = (p.attempts program schedule).attempt program s := by
  simp [attempts]

theorem attempts_append (program : Program) (p : Pair) (first second : List Side) :
    p.attempts program (first ++ second) = (p.attempts program first).attempts program second :=
  List.foldl_append

@[simp]
theorem exchanged_append (program : Program) (event : Instance → Option Int64) (s : Side)
    (p : Pair) (first second : List Side) :
    exchanged program event s p (first ++ second) =
      exchanged program event s p first ++
        exchanged program event s (p.attempts program first) second := by
  induction first generalizing p with
  | nil => rfl
  | cons turn rest inductionHypothesis =>
      simp only [List.cons_append, exchanged, inductionHypothesis, List.append_assoc]
      rfl

@[simp]
theorem exchanged_singleton (program : Program) (event : Instance → Option Int64) (s : Side)
    (p : Pair) (turn : Side) :
    exchanged program event s p [turn] = if turn = s then (event (p.get s)).toList else [] := by
  simp [exchanged]

@[simp]
theorem interleave_nil (program : Program) (p : Pair) : p.interleave program [] = .ok p := rfl

theorem interleave_cons (program : Program) (p : Pair) (s : Side) (rest : List Side) :
    p.interleave program (s :: rest) =
      match (p.get s).stepFault? program with
      | some fault => .error fault
      | none => (p.attempt program s).interleave program rest := by
  cases failing : (p.get s).stepFault? program with
  | some fault => simp [interleave, step, failing, bind, Except.bind]
  | none => simp [interleave, step, attempt, failing, bind, Except.bind]

theorem attempts_of_interleave {program : Program} {p q : Pair} {schedule : List Side}
    (played : p.interleave program schedule = .ok q) : p.attempts program schedule = q := by
  induction schedule generalizing p with
  | nil => exact Except.ok.inj played
  | cons s rest inductionHypothesis =>
      rw [interleave_cons] at played
      cases failing : (p.get s).stepFault? program with
      | some fault => simp [failing] at played
      | none =>
          rw [failing] at played
          exact inductionHypothesis played

theorem interleave_append (program : Program) (p : Pair) (first second : List Side) :
    p.interleave program (first ++ second) =
      (p.interleave program first).bind fun middle => middle.interleave program second := by
  simp only [interleave, List.foldlM_append]
  rfl

theorem interleave_trans {program : Program} {p q final : Pair} {first second : List Side}
    (played : p.interleave program first = .ok q)
    (continued : q.interleave program second = .ok final) :
    p.interleave program (first ++ second) = .ok final := by
  rw [interleave_append, played]
  exact continued

theorem interleave_concat {program : Program} {p q : Pair} {schedule : List Side} {s : Side}
    (played : p.interleave program schedule = .ok q)
    (faultless : (q.get s).stepFault? program = none) :
    p.interleave program (schedule ++ [s]) = .ok (q.attempt program s) := by
  apply interleave_trans played
  rw [interleave_cons, faultless]
  rfl

/-- Inside an interleaving that does not fail, every step succeeds. -/
theorem stepFault?_of_interleave {program : Program} {p q : Pair} {before after : List Side}
    {s : Side} (played : p.interleave program (before ++ s :: after) = .ok q) :
    ((p.attempts program before).get s).stepFault? program = none := by
  rw [interleave_append] at played
  cases start : p.interleave program before with
  | error fault => simp [start, Except.bind] at played
  | ok middle =>
      rw [attempts_of_interleave start]
      rw [start] at played
      change middle.interleave program (s :: after) = _ at played
      rw [interleave_cons] at played
      cases failing : (middle.get s).stepFault? program with
      | none => rfl
      | some fault => simp [failing] at played

end Pair

end Tandem

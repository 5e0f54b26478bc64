import Tandem.Proofs.Schedule.Calls

set_option autoImplicit false

/-!
What a caller sees of the scheduler. `transcript` makes calls one after the other and notes the
answer to each and the duo after it; it ends at the first call that does not return.

Between two answers the scheduler counts cycles and lets running sides step as long as nothing is
wrong with the step. A property of duos that these two keep, `IsKept`, goes through every call,
whatever the call answers.
-/

namespace Tandem

/-- A call of the scheduler, with the number of moves that it may make. -/
inductive Call where
  | tick (moves : Nat)
  | run (moves : Nat)

namespace Duo

/-- The duo after a call, and what the call tells: whether the duo has halted, or an error. A run
that ends without an error has halted. -/
def answer? (d : Duo) : Call → Option (Duo × Except RuntimeError Bool)
  | .tick moves => d.tick moves
  | .run moves => (d.run moves).map fun returned => (returned.1, returned.2.map fun _ => true)

def transcript (d : Duo) : List Call → List (Except RuntimeError Bool × Duo)
  | [] => []
  | call :: rest =>
      match d.answer? call with
      | none => []
      | some (e, answer) => (answer, e) :: e.transcript rest

/-- The scheduler keeps a property of duos. -/
structure IsKept (P : Duo → Prop) : Prop where
  cycle {d : Duo} : P d → P { d with cycles := d.cycles + 1 }
  step {d : Duo} {s : Side} :
    (d.pair.get s).isRunning = true → d.error? s = none → P d → P (d.advance s)

end Duo

namespace Duo.IsKept

variable {P : Duo → Prop}

theorem move (kept : IsKept P) {p : Play} (goesOn : p.verdict? = none) (holds : P p.duo) :
    P p.advance.duo := by
  obtain ⟨duo, turn⟩ := p
  cases turn with
  | none => exact kept.cycle holds
  | some s =>
      simp only [Play.verdict?] at goesOn
      simp only [Play.advance]
      by_cases running : (duo.pair.get s).isRunning = true
      · rw [if_pos running, Option.map_eq_none_iff] at goesOn
        rw [if_pos running]
        exact kept.step running goesOn holds
      · rw [if_neg running]
        exact holds

theorem moves (kept : IsKept P) {stops : Play → Bool}
    (quiet : ∀ q, stops q = false → q.verdict? = none) {moves : Nat} {p q : Play}
    (ended : Play.endOf? stops moves p = some q) (holds : P p.duo) : P q.duo := by
  induction moves generalizing p with
  | zero => contradiction
  | succ moves inductionHypothesis =>
      unfold Play.endOf? at ended
      by_cases stopped : stops p = true
      · rw [if_pos stopped] at ended
        cases ended
        exact holds
      · rw [if_neg stopped] at ended
        apply inductionHypothesis ended
        apply kept.move _ holds
        exact quiet p (Bool.eq_false_iff.mpr stopped)

theorem tick (kept : IsKept P) {moves : Nat} {d e : Duo} {answer : Except RuntimeError Bool}
    (returned : d.tick moves = some (e, answer)) (holds : P d) : P e := by
  unfold Duo.tick at returned
  split at returned
  next =>
    obtain ⟨q, ended, rfl, _⟩ := Play.finishCycle_eq_some returned
    apply kept.moves _ ended (kept.cycle holds)
    intro p goesOn
    exact Play.verdict?_of_not_hasEndedCycle goesOn
  next =>
    cases returned
    exact holds

theorem run (kept : IsKept P) {moves : Nat} {d e : Duo} {outcome : Except RuntimeError Unit}
    (returned : d.run moves = some (e, outcome)) (holds : P d) : P e := by
  obtain ⟨q, ended, rfl, _⟩ := Play.finish_eq_some_iff.mp returned
  apply kept.moves _ ended holds
  intro p goesOn
  exact Play.verdict?_of_not_hasEnded goesOn

theorem answer? (kept : IsKept P) {call : Call} {d e : Duo} {answer : Except RuntimeError Bool}
    (returned : d.answer? call = some (e, answer)) (holds : P d) : P e := by
  cases call with
  | tick moves => exact kept.tick returned holds
  | run moves =>
      obtain ⟨⟨f, outcome⟩, ran, same⟩ := Option.map_eq_some_iff.mp returned
      cases same
      exact kept.run ran holds

theorem transcript (kept : IsKept P) {d : Duo} (calls : List Call) (holds : P d) :
    ∀ entry ∈ d.transcript calls, P entry.2 := by
  induction calls generalizing d with
  | nil =>
      intro entry listed
      contradiction
  | cons call rest inductionHypothesis =>
      unfold Duo.transcript
      split
      next =>
        intro entry listed
        contradiction
      next e answer returned =>
        have after : P e := kept.answer? returned holds
        intro entry listed
        rcases List.mem_cons.mp listed with rfl | later
        · exact after
        · exact inductionHypothesis after entry later

/-- A property that does not depend on the step limit is also kept where callers change the
limit. -/
theorem calls (kept : IsKept P) (unlimited : ∀ d n, P d → P { d with stepLimit := n })
    {d e : Duo} {schedule : List Side} (calls : d.Calls schedule e) (holds : P d) : P e := by
  induction calls with
  | start => exact holds
  | tick moves _ returned inductionHypothesis => exact kept.tick returned inductionHypothesis
  | run moves _ returned inductionHypothesis => exact kept.run returned inductionHypothesis
  | limit n _ inductionHypothesis => exact unlimited _ n inductionHypothesis

end Duo.IsKept

end Tandem

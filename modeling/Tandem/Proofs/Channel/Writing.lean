import Tandem.Channel.Writer

set_option autoImplicit false

/-!
What writers take. A writer takes some texts whole, one after another, as long as none of the
writes fails; each write counts, and adds to the output what was taken of its text.
-/

namespace Tandem

namespace WriteResult

@[simp]
theorem part_whole (text : Text) : whole.part text = text := rfl

@[simp]
theorem part_failed (taken : Nat) (error : WriteError) (text : Text) :
    (failed taken error).part text = text.take taken := rfl

@[simp]
theorem error?_whole : whole.error? = none := rfl

@[simp]
theorem error?_failed (taken : Nat) (error : WriteError) :
    (failed taken error).error? = some error := rfl

end WriteResult

namespace Writer

variable {w after : Writer} {text : Text} {texts : List Text}

@[simp]
theorem output_new : new.output = [] := rfl

@[simp]
theorem writes_write (w : Writer) (text : Text) : (w.write text).1.writes = w.writes + 1 := by
  simp [write, writes]

@[simp]
theorem output_write (w : Writer) (text : Text) :
    (w.write text).1.output = w.output ++ (w.result text).part text := by
  simp [write, output, Text.concat]

/-- The texts are taken whole, one after another, which leaves the writer `after`. -/
inductive TakesAll : Writer → List Text → Writer → Prop where
  | nil (w : Writer) : TakesAll w [] w
  | cons {w after : Writer} {text : Text} {rest : List Text} :
      w.result text = .whole → TakesAll (w.write text).1 rest after →
      TakesAll w (text :: rest) after

namespace TakesAll

theorem writes (takes : w.TakesAll texts after) : after.writes = w.writes + texts.length := by
  induction takes with
  | nil w => rfl
  | cons whole _ inductionHypothesis =>
      rw [inductionHypothesis, writes_write, List.length_cons]
      omega

theorem output (takes : w.TakesAll texts after) : after.output = w.output ++ Text.concat texts := by
  induction takes with
  | nil w => simp [Text.concat]
  | cons whole _ inductionHypothesis =>
      rw [inductionHypothesis, output_write, whole]
      simp [Text.concat]

/-- One text more. -/
theorem append_singleton (takes : w.TakesAll texts after) (whole : after.result text = .whole) :
    w.TakesAll (texts ++ [text]) (after.write text).1 := by
  induction takes with
  | nil w => exact .cons whole (.nil _)
  | cons first _ inductionHypothesis => exact .cons first (inductionHypothesis whole)

theorem writeAll_eq (takes : w.TakesAll texts after) : w.writeAll texts = (after, none) := by
  induction takes with
  | nil w => rfl
  | cons whole _ inductionHypothesis =>
      rw [writeAll, write, whole]
      rw [write, whole] at inductionHypothesis
      exact inductionHypothesis

end TakesAll

/-- A writer that never fails takes any texts. -/
theorem exists_takesAll (w : Writer) (works : ∀ log text, w.answer log text = .whole)
    (texts : List Text) : ∃ after, w.TakesAll texts after := by
  induction texts generalizing w with
  | nil => exact ⟨w, .nil w⟩
  | cons text rest inductionHypothesis =>
      obtain ⟨after, takes⟩ := inductionHypothesis (w.write text).1 works
      exact ⟨after, .cons (works w.log text) takes⟩

end Writer

end Tandem

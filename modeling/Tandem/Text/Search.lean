import Tandem.Text.Basic

set_option autoImplicit false

/-!
Looking for a text inside another one. Occurrences are taken from the left, or the last one
alone, and do not overlap.
-/

namespace Tandem.Text

/-- Walks to the first occurrence; `i` bytes have been passed. -/
def indexOf?.loop (needle : Text) (i : Nat) : Text → Option Nat
  | [] => if needle.isEmpty then some i else none
  | b :: rest => if startsWith (b :: rest) needle then some i else loop needle (i + 1) rest

/-- Where the first occurrence of a text starts. -/
def indexOf? (needle t : Text) : Option Nat := indexOf?.loop needle 0 t

def occurs (needle t : Text) : Bool := (indexOf? needle t).isSome

/-- Where the last occurrence of a text starts. -/
def lastIndexOf? (needle t : Text) : Option Nat :=
  (indexOf? needle.reverse t.reverse).map fun i => t.length - i - needle.length

/-- What stands before and after the first occurrence of a separator. -/
def cutAt? (separator t : Text) : Option (Text × Text) :=
  (indexOf? separator t).map fun i => (t.take i, t.drop (i + separator.length))

/-- What stands before and after the last occurrence of a separator. -/
def cutAtLast? (separator t : Text) : Option (Text × Text) :=
  (lastIndexOf? separator t).map fun i => (t.take i, t.drop (i + separator.length))

/-- Splits at up to `cuts` occurrences of a separator, from the left. -/
def splitAt (separator : Text) : (cuts : Nat) → Text → List Text
  | 0, t => [t]
  | cuts + 1, t =>
      match cutAt? separator t with
      | some (before, after) => before :: splitAt separator cuts after
      | none => [t]

end Tandem.Text

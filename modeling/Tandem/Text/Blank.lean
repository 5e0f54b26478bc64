import Tandem.Text.Utf8

set_option autoImplicit false

/-!
White space, as in the Unicode property, in UTF-8. No blank character's bytes occur inside another
character, so a text is scanned byte by byte: `blankLength` tells how long a blank character stands
at its start.
-/

namespace Tandem.Text

/-- The length of the blank character at the start of a text, 0 if there is none. -/
def blankLength : Text → Nat
  | [] => 0
  | a :: rest =>
      if (9 ≤ a && a ≤ 13) || a = 32 then 1
      else match a, rest with
        | 0xC2, b :: _ => if b = 0x85 || b = 0xA0 then 2 else 0
        | 0xE1, b :: c :: _ => if b = 0x9A && c = 0x80 then 3 else 0
        | 0xE2, b :: c :: _ =>
            if b = 0x80 && ((0x80 ≤ c && c ≤ 0x8A) || c = 0xA8 || c = 0xA9 || c = 0xAF) then 3
            else if b = 0x81 && c = 0x9F then 3 else 0
        | 0xE3, b :: c :: _ => if b = 0x80 && c = 0x80 then 3 else 0
        | _, _ => 0

def trimStart (t : Text) : Text :=
  match t with
  | [] => []
  | b :: rest =>
      match blankLength (b :: rest) with
      | 0 => b :: rest
      | n + 1 => trimStart (rest.drop n)
  termination_by t.length
  decreasing_by simp only [List.length_drop, List.length_cons]; omega

/-- Counts the bytes before the blanks at the end; of the `seen` bytes in front, the first `kept`
reach up to the last one that is not blank. -/
def contentLength.loop (seen kept : Nat) (t : Text) : Nat :=
  match t with
  | [] => kept
  | b :: rest =>
      match blankLength (b :: rest) with
      | 0 => loop (seen + 1) (seen + 1) rest
      | n + 1 => loop (seen + 1 + n) kept (rest.drop n)
  termination_by t.length
  decreasing_by all_goals (simp only [List.length_drop, List.length_cons]; omega)

def trimEnd (t : Text) : Text := t.take (contentLength.loop 0 0 t)

def trim (t : Text) : Text := trimEnd (trimStart t)

/-- Splits at blanks; `word` holds the bytes, last first, of the word being read. -/
def words.loop (word : Text) (t : Text) : List Text :=
  match t with
  | [] => if word.isEmpty then [] else [word.reverse]
  | b :: rest =>
      match blankLength (b :: rest) with
      | 0 => loop (b :: word) rest
      | n + 1 =>
          if word.isEmpty then loop [] (rest.drop n) else word.reverse :: loop [] (rest.drop n)
  termination_by t.length
  decreasing_by all_goals (simp only [List.length_drop, List.length_cons]; omega)

/-- The maximal runs without blanks, in order. -/
def words (t : Text) : List Text := words.loop [] t

end Tandem.Text

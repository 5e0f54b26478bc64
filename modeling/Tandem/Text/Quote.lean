import Tandem.Text.Utf8
import Tandem.Text.Visible

set_option autoImplicit false

/-!
Texts in double quotes, in one line of visible characters. A backslash starts an escape: a
letter for the common control characters, or the code of a character, or the code of a byte that
belongs to no character.
-/

namespace Tandem.Text

/-- Digits of a number in a base up to 16, of at least the given width. -/
def inBase (base width n : Nat) : Text :=
  let digits : Text := (Nat.toDigits base n).map fun c => c.toNat.toUInt8
  List.replicate (width - digits.length) 48 ++ digits

def letterEscapes : List (Nat × UInt8) :=
  [(34, 34), (92, 92), (7, 97), (8, 98), (12, 102), (10, 110), (13, 114), (9, 116), (11, 118)]

/-- One character inside the quotes. -/
def quoteCharacter (c : Nat) : Text :=
  match letterEscapes.lookup c with
  | some b => [92, b]
  | none =>
      if isVisible c then ofCodePoint c
      else if c < 128 then 92 :: 120 :: inBase 16 2 c
      else if c < 0x10000 then 92 :: 117 :: inBase 16 4 c
      else 92 :: 85 :: inBase 16 8 c

def quote.loop : (fuel : Nat) → Text → Text
  | 0, _ => []
  | _, [] => []
  | fuel + 1, b :: rest =>
      match wellFormed? (b :: rest) with
      | some (c, n) => quoteCharacter c ++ loop fuel ((b :: rest).drop n)
      | none => 92 :: 120 :: inBase 16 2 b.toNat ++ loop fuel rest

def quote (t : Text) : Text := 34 :: quote.loop t.length t ++ [34]

end Tandem.Text

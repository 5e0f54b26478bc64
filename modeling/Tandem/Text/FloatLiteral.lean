import Tandem.Text.Numeral

set_option autoImplicit false

/-!
Floats as texts: decimal digits with an optional point and an optional exponent of ten, hexadecimal
digits after `0x` with an exponent of two, or the name of a float that is not finite. Underscores
may stand between digits, or after the mark. A number beyond all floats has no value.
-/

namespace Tandem.FloatLiteral

/-- The double nearest to `m * 2 ^ e`, unless it is beyond all doubles. -/
def ofBinary? (m : Nat) (e : Int) : Option Float :=
  let magnitude : Int := m.log2 + e
  if m = 0 then some 0
  else if 1024 < magnitude then none
  else if magnitude < -1100 then some 0
  else
    let x := if 0 ≤ e then Float.ofNat (m * Nat.pow 2 e.toNat)
      else Float.ofScientific (m * Nat.pow 5 e.natAbs) true e.natAbs
    if x.isInf then none else some x

/-- Whether every underscore has a digit, or the mark, before it and a digit after it; `last` is the
byte before the text. -/
def underscoresOk (isDigit : UInt8 → Bool) : (last : UInt8) → Text → Bool
  | last, [] => last ≠ 95
  | last, b :: rest =>
      (if b = 95 then isDigit last else last ≠ 95 || isDigit b) && underscoresOk isDigit b rest

/-- The exponent after its letter: an optional sign and digits, the first of them no underscore. -/
def exponent? (t : Text) : Option Int := do
  let (sign, digits) := Numeral.splitSign t
  if !digits.head?.any Text.isDigit then none
  let n ← Numeral.natural? 10 (digits.filter (· ≠ 95))
  pure (if sign = [Numeral.minusSign] then -(n : Int) else n)

/-- A number in base 10 or 16, without sign and mark. -/
def unsigned? (base : Nat) (t : Text) : Option Float := do
  let isDigit (b : UInt8) : Bool := (Numeral.digitValue? b).any (· < base)
  let number := t.takeWhile fun b => isDigit b || b = 95 || b = 46
  let letter : UInt8 := if base = 16 then 112 else 101
  let exponent ← match t.drop number.length with
    | [] => if base = 16 then none else some 0
    | b :: rest => if b = letter || b = letter - 32 then exponent? rest else none
  let (whole, fraction) :=
    (Text.cut 46 (number.filter (· ≠ 95))).getD (number.filter (· ≠ 95), [])
  let mantissa ← Numeral.natural? base (whole ++ fraction)
  if t.contains 95 && !underscoresOk isDigit (if base = 16 then 48 else 0) t then none
  if base = 16 then ofBinary? mantissa (exponent - 4 * fraction.length)
  else Numeral.float? mantissa (exponent - fraction.length)

private def endless : List String := ["inf", "infinity"]

def parse? (t : Text) : Option Float :=
  let (sign, rest) := Numeral.splitSign t
  let signed (x : Float) : Float := if sign = [Numeral.minusSign] then -x else x
  let name := Text.lower rest
  if endless.any (Text.ofString · = name) then some (signed (1.0 / 0.0))
  else if name = Text.ofString "nan" then some (0.0 / 0.0)
  else
    let (base, digits) := Numeral.splitBase rest
    (unsigned? base digits).map signed

end Tandem.FloatLiteral

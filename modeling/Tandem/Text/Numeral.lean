import Tandem.Text.Basic

set_option autoImplicit false

/-!
Number words. A word is read in base 10, or in base 16 after `0x`, with one optional sign in front;
leading zeros never change the base. Values are limited to signed 64 bits.
-/

namespace Tandem.Numeral

def minusSign : UInt8 := 45

def plusSign : UInt8 := 43

def isSign (b : UInt8) : Bool := b = minusSign || b = plusSign

/-- The value of a digit or letter of either case, from 0 to 35. -/
def digitValue? (b : UInt8) : Option Nat :=
  if Text.isDigit b then some (b.toNat - 48)
  else if Text.isLower b then some (b.toNat - 87)
  else if Text.isUpper b then some (b.toNat - 55)
  else none

/-- The number that digits of a base denote; `none` if the text is empty or holds anything else. -/
def natural? (base : Nat) (t : Text) : Option Nat :=
  if t.isEmpty then none
  else t.foldlM (fun n b => do
    let d ← digitValue? b
    if d < base then pure (n * base + d) else none) 0

/-- An optional sign and digits. -/
def integer? (base : Nat) : Text → Option Int
  | [] => none
  | b :: rest =>
      if b = minusSign then (natural? base rest).map fun n => -(n : Int)
      else if b = plusSign then (natural? base rest).map fun n => (n : Int)
      else (natural? base (b :: rest)).map fun n => (n : Int)

def int64OfInt? (n : Int) : Option Int64 :=
  if Int64.minValue.toInt ≤ n ∧ n ≤ Int64.maxValue.toInt then some (Int64.ofInt n) else none

/-- The sign in front of a word, if any, and what follows it. -/
def splitSign : Text → Text × Text
  | [] => ([], [])
  | b :: rest => if isSign b then ([b], rest) else ([], b :: rest)

/-- The base that a word without its sign is written in, and its digits. -/
def splitBase : Text → Nat × Text
  | 48 :: x :: d :: rest =>
      if x = 120 || x = 88 then (16, d :: rest) else (10, 48 :: x :: d :: rest)
  | t => (10, t)

/-- The value of a number word. The sign is put back in front of the digits before they are read,
so a word may have its sign before or after `0x`, but not both. -/
def value? (word : Text) : Option Int64 :=
  let (sign, rest) := splitSign word
  let (base, digits) := splitBase rest
  (integer? base (sign ++ digits)).bind int64OfInt?

/-- A word starts like a number if a digit comes first, or directly after one sign. -/
def startsNumber (word : Text) : Bool :=
  match (splitSign word).2 with
  | [] => false
  | b :: _ => Text.isDigit b

/-- The double nearest to `mantissa * 10 ^ exponent`, unless it is beyond all doubles. -/
def float? (mantissa : Nat) (exponent : Int) : Option Float :=
  let digits : Int := (Text.ofNat mantissa).length
  if mantissa = 0 then some 0
  else if 400 < digits + exponent then none
  else if digits + exponent < -400 then some 0
  else
    let x := Float.ofScientific mantissa (exponent < 0) exponent.natAbs
    if x.isInf then none else some x

end Tandem.Numeral

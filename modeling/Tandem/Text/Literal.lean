import Tandem.Text.Numeral

set_option autoImplicit false

/-!
Integer literals: an optional sign, an optional mark for the base (`0x`, `0o`, `0b`, or a mere `0`
for octal), and digits. Underscores may stand between digits, or after the mark.
-/

namespace Tandem.Literal

inductive Failure where
  | malformed
  | outOfRange
  deriving DecidableEq

/-- The base of an unsigned literal, and its digits. -/
def splitMark (t : Text) : Nat × Text :=
  match t with
  | 48 :: m :: d :: rest =>
      if m = 98 || m = 66 then (2, d :: rest)
      else if m = 111 || m = 79 then (8, d :: rest)
      else if m = 120 || m = 88 then (16, d :: rest)
      else (8, m :: d :: rest)
  | 48 :: rest => (8, rest)
  | _ => (10, t)

/-- Reads digits into `n`, until there is none or the number is beyond 64 bits. -/
def digits (base : Nat) (n : Nat) : Text → Except Failure Nat
  | [] => .ok n
  | b :: rest =>
      if b = 95 then digits base n rest
      else match Numeral.digitValue? b with
        | none => .error .malformed
        | some d =>
            if base ≤ d then .error .malformed
            else if UInt64.size ≤ n * base + d then .error .outOfRange
            else digits base (n * base + d) rest

/-- Whether every underscore of an unsigned literal has a digit, or the mark, before it and a digit
after it. -/
def underscoresOk (t : Text) : Bool :=
  let (marked, rest) : Bool × Text := match t with
    | 48 :: m :: rest =>
        if m = 98 || m = 66 || m = 111 || m = 79 || m = 120 || m = 88 then (true, rest)
        else (false, t)
    | _ => (false, t)
  let step (last : Bool × Bool) (b : UInt8) : Bool × Bool :=
    (last.1 && (b ≠ 95 || last.2), b ≠ 95)
  let (ok, digit) := rest.foldl step (true, marked)
  ok && digit

/-- The value of a literal, as a signed number of 64 bits. -/
def parse (t : Text) : Except Failure Int64 := do
  let (sign, unsigned) := Numeral.splitSign t
  if unsigned.isEmpty then .error .malformed
  let (base, rest) := splitMark unsigned
  let n ← digits base 0 rest
  if unsigned.contains 95 && !underscoresOk unsigned then .error .malformed
  let value : Int := if sign = [45] then -(n : Int) else n
  match Numeral.int64OfInt? value with
  | some n => .ok n
  | none => .error .outOfRange

end Tandem.Literal

import Tandem.Text.Numeral
import Tandem.Text.Search

set_option autoImplicit false

/-!
Numbers and moments in TOML. Underscores may stand between digits, and no number starts with a zero
that has no use. A moment is a date, a time of day, or both with an optional distance from universal
time.
-/

namespace Tandem.Toml

private def isHexDigit (b : UInt8) : Bool := (Numeral.digitValue? b).any (· < 16)

/-! ### Numbers -/

/-- Whether every underscore follows a digit and the text ends with one. -/
def underscoresOk (t : Text) : Bool :=
  let step (last : Bool × Bool) (b : UInt8) : Bool × Bool :=
    (last.1 && (b ≠ 95 || last.2), isHexDigit b)
  let (ok, digit) := t.foldl step (true, false)
  ok && digit

/-- Whether a number starts with a zero that is not the whole of it, nor marks its base. -/
def hasLeadingZero (t : Text) : Bool :=
  match t with
  | 48 :: b :: _ => !(b = 98 || b = 111 || b = 120)
  | s :: 48 :: _ :: _ => s = 45 || s = 43
  | _ => false

private def withoutUnderscores (t : Text) : Text := t.filter (· ≠ 95)

/-- An integer of 64 bits, signed or with a mark for its base. -/
def integer? (t : Text) : Option Int64 :=
  if !underscoresOk t || hasLeadingZero t then none
  else
    let digits := withoutUnderscores t
    let value := match digits with
      | 48 :: 98 :: rest => (Numeral.natural? 2 rest).map fun n => (n : Int)
      | 48 :: 111 :: rest => (Numeral.natural? 8 rest).map fun n => (n : Int)
      | 48 :: 120 :: rest => (Numeral.natural? 16 rest).map fun n => (n : Int)
      | _ => Numeral.integer? 10 digits
    value.bind Numeral.int64OfInt?

/-- The parts of a number between points and exponent marks. -/
private def floatParts (t : Text) : List Text :=
  (t.splitBy fun a b => isMark a = isMark b).filter fun part => !part.any isMark
where
  isMark (b : UInt8) : Bool := b = 46 || b = 101 || b = 69

/-- A decimal fraction, an exponent, or both, after digits with an optional sign. -/
def float? (t : Text) : Option Float :=
  let parts := floatParts t
  if !parts.all underscoresOk || (parts.head?.any hasLeadingZero) then none
  else do
    let (sign, rest) := Numeral.splitSign (withoutUnderscores t)
    let number := rest.takeWhile fun b => b ≠ 101 && b ≠ 69
    let exponent ← match rest.drop number.length with
      | [] => some 0
      | _ :: digits => Numeral.integer? 10 digits
    let (whole, fraction) ← match Text.cut 46 number with
      | some (_, []) => none
      | some (whole, fraction) => some (whole, fraction)
      | none => some (number, [])
    if whole.isEmpty then none
    let mantissa ← Numeral.natural? 10 (whole ++ fraction)
    let x ← Numeral.float? mantissa (exponent - fraction.length)
    pure (if sign = [45] then -x else x)

/-! ### Moments -/

/-- A number of exactly the given width. -/
private def fixedDigits? (width : Nat) (t : Text) : Option (Nat × Text) :=
  let digits := t.take width
  if digits.length = width && digits.all Text.isDigit then
    (Numeral.natural? 10 digits).map (·, t.drop width)
  else none

private def expect? (b : UInt8) : Text → Option Text
  | c :: rest => if c = b then some rest else none
  | [] => none

def isLeapYear (year : Nat) : Bool := year % 4 = 0 && (year % 100 ≠ 0 || year % 400 = 0)

def daysIn (year month : Nat) : Nat :=
  if month = 2 then if isLeapYear year then 29 else 28
  else if month = 4 || month = 6 || month = 9 || month = 11 then 30
  else 31

/-- Reads a date of the calendar, as `2006-01-02`. -/
private def date? (t : Text) : Option Text := do
  let (year, t) ← fixedDigits? 4 t
  let (month, t) ← fixedDigits? 2 (← expect? 45 t)
  let (day, t) ← fixedDigits? 2 (← expect? 45 t)
  if 1 ≤ month && month ≤ 12 && 1 ≤ day && day ≤ daysIn year month then some t else none

/-- Reads a time of day, as `15:04:05`, with an optional fraction of the second. -/
private def time? (t : Text) : Option Text := do
  let (hour, t) ← fixedDigits? 2 t
  let (minute, t) ← fixedDigits? 2 (← expect? 58 t)
  let (second, t) ← fixedDigits? 2 (← expect? 58 t)
  if !(hour < 24 && minute < 60 && second < 60) then none
  match t with
  | 46 :: rest =>
      let rest' := rest.dropWhile Text.isDigit
      if rest'.length < rest.length then some rest' else none
  | _ => some t

/-- Reads a distance from universal time, as `Z` or `+07:00`. -/
private def zone? (t : Text) : Option Text :=
  match t with
  | 90 :: rest => some rest
  | s :: rest => do
      if !Numeral.isSign s then none
      let (hours, t) ← fixedDigits? 2 rest
      let (minutes, t) ← fixedDigits? 2 (← expect? 58 t)
      if hours ≤ 24 && minutes ≤ 60 then some t else none
  | [] => none

/-- Whether a text is a moment. The letters may be small, and a blank may stand for the `T`. -/
def isMoment (t : Text) : Bool :=
  let t := t.map fun b => if b = 122 then 90 else if b = 116 || b = 32 then 84 else b
  match date? t with
  | some [] => true
  | some (84 :: rest) =>
      match time? rest with
      | some [] => true
      | some rest => zone? rest = some []
      | none => false
  | some _ => false
  | none => time? t = some []

end Tandem.Toml

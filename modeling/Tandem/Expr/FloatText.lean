import Tandem.Expr.Number
import Tandem.Text.Basic

set_option autoImplicit false

/-!
Decimal texts of floats: with the fewest digits that read back as the same float (`shortest`), and
with a fixed number of places, where a half goes to the even neighbour.
-/

namespace Tandem.Expr.FloatText

/-- Digits `d`, as a number, and the exponent of ten that it is multiplied with. -/
structure Digits where
  number : Nat
  exponent : Int

/-- `n / d` to the nearest integer, a half to the even one. -/
def roundDiv (n d : Nat) : Nat :=
  let q := n / d
  let r := n % d
  if 2 * r < d then q else if d < 2 * r then q + 1 else q + q % 2

/-- The fraction `m * 2 ^ e` times `10 ^ k`, as numerator and denominator. -/
def scaled (m : Nat) (e k : Int) : Nat × Nat :=
  (m * Nat.pow 2 e.toNat * Nat.pow 10 k.toNat, Nat.pow 2 (-e).toNat * Nat.pow 10 (-k).toNat)

/-- The least `k` such that `m * 2 ^ e < 10 ^ k`, found from an estimate that is too small. -/
def magnitude (m : Nat) (e : Int) : Int :=
  let estimate : Int := Int.fdiv (((m.log2 : Int) + e) * 30103) 100000 - 1
  let isBelow (k : Int) : Bool := let (n, d) := scaled m e (-k); n < d
  ((List.range 6).map fun (i : Nat) => estimate + i).find? isBelow |>.getD (estimate + 6)

/-- Whether `number * 10 ^ exponent` is rounded to `m * 2 ^ e`: it lies between the midpoints to the
neighbouring floats, or is one of these while `m` is even. -/
def readsBack (m : Nat) (e : Int) (d : Digits) : Bool :=
  let isPower := m = Nat.pow 2 52 && -1074 < e
  let low := if isPower then 4 * m - 1 else 4 * m - 2
  let high := 4 * m + 2
  -- Compare `4 * number * 10 ^ exponent` with `low * 2 ^ e` and `high * 2 ^ e`.
  let (n, nd) := scaled (4 * d.number) 0 d.exponent
  let (l, ld) := scaled low e 0
  let (h, hd) := scaled high e 0
  if m % 2 = 0 then l * nd ≤ n * ld && n * hd ≤ h * nd else l * nd < n * ld && n * hd < h * nd

/-- The numbers of `count` digits next to `m * 2 ^ e`, as a quotient to be rounded. -/
def quotient (m : Nat) (e : Int) (count : Nat) : Nat × Nat × Int :=
  let exponent := magnitude m e - count
  let (n, d) := scaled m e (-exponent)
  (n, d, exponent)

/-- The nearest number of `count` digits. -/
def rounded (m : Nat) (e : Int) (count : Nat) : Digits :=
  let (n, d, exponent) := quotient m e count
  ⟨roundDiv n d, exponent⟩

/-- The nearest of the numbers of `count` digits that read back. Only the two next
to `m * 2 ^ e` can. -/
def readable? (m : Nat) (e : Int) (count : Nat) : Option Digits :=
  let (n, d, exponent) := quotient m e count
  let candidates :=
    [roundDiv n d, n / d, n / d + 1].map fun number => (⟨number, exponent⟩ : Digits)
  candidates.find? (readsBack m e)

/-- Drops zeros at the end of the digits. -/
def trimZeros : (fuel : Nat) → Digits → Digits
  | 0, d => d
  | fuel + 1, d =>
      if d.number ≠ 0 && d.number % 10 = 0 then trimZeros fuel ⟨d.number / 10, d.exponent + 1⟩
      else d

/-- The fewest digits that read back as `m * 2 ^ e`, for `m` above zero. -/
def shortest (m : Nat) (e : Int) : Digits :=
  trimZeros 20 (((List.range 17).findSome? fun i => readable? m e (i + 1)).getD (rounded m e 17))

/-- One digit, a point and the other digits, and an exponent of at least two digits. -/
def scientific (digits : Text) (exponent : Int) (mark : UInt8) : Text :=
  let fraction := digits.drop 1
  digits.take 1 ++ (if fraction.isEmpty then [] else 46 :: fraction) ++
    mark :: (if exponent < 0 then 45 else 43) :: Text.ofNatPadded 2 exponent.natAbs

/-- Digits with the point after the first `point` of them. -/
def positional (digits : Text) (point : Int) : Text :=
  if point ≤ 0 then 48 :: 46 :: List.replicate (-point).toNat 48 ++ digits
  else
    let whole := digits.take point.toNat
    let fraction := digits.drop point.toNat
    whole ++ List.replicate (point.toNat - whole.length) 48 ++
      (if fraction.isEmpty then [] else 46 :: fraction)

/-- A float with the fewest digits: positional from 0.0001 up to below a million, else with an
exponent. A point or an exponent always shows that it is a float. -/
def general (mark : UInt8) (m : Nat) (e : Int) : Text :=
  if m = 0 then Text.ofString "0.0"
  else
    let d := shortest m e
    let digits := Text.ofNat d.number
    let point := d.exponent + digits.length
    let text := if point - 1 < -4 || 6 ≤ point - 1 then scientific digits (point - 1) mark
      else positional digits point
    if text.contains 46 || text.contains mark then text else text ++ Text.ofString ".0"

/-- Six places after the point. -/
def fixed (m : Nat) (e : Int) : Text :=
  let (n, d) := scaled m e 6
  let number := roundDiv n d
  Text.ofNat (number / 1000000) ++ 46 :: Text.ofNatPadded 6 (number % 1000000)

/-- One digit before the point, six after it, and an exponent. -/
def exponential (mark : UInt8) (m : Nat) (e : Int) : Text :=
  if m = 0 then scientific (List.replicate 7 48) 0 mark
  else
    let d := rounded m e 7
    let digits := Text.ofNat d.number
    scientific (digits.take 7) (d.exponent + digits.length - 1) mark

/-- The text of a float under a conversion letter: `e`, `f` or `g`, the first and the last in either
case. An upper `F` is no conversion and stands for itself. -/
def render (conversion : UInt8) (x : Float) : Text :=
  match Number.finite? x with
  | none => if x.isNaN then Text.ofString "nan" else if x < 0 then Text.ofString "-inf"
      else Text.ofString "+inf"
  | some (m, e) =>
      if conversion = 70 then "%F" else
      let sign : Text := if Nat.pow 2 63 ≤ x.toBits.toNat then [45] else []
      let n := m.natAbs
      sign ++ match conversion with
        | 101 => exponential 101 n e
        | 69 => exponential 69 n e
        | 102 => fixed n e
        | 71 => general 69 n e
        | _ => general 101 n e

end Tandem.Expr.FloatText

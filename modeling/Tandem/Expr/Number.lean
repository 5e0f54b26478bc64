set_option autoImplicit false

/-!
Integers and floats together. They compare by their exact values; a float that is not a number comes
after all others.
-/

namespace Tandem.Expr.Number

/-- A finite float as `m * 2 ^ e`. -/
def finite? (x : Float) : Option (Int × Int) :=
  let bits : Nat := x.toBits.toNat
  let exponent : Nat := bits / Nat.pow 2 52 % 2048
  let fraction : Nat := bits % Nat.pow 2 52
  if exponent = 2047 then none
  else
    let m : Int := if exponent = 0 then (fraction : Int) else (fraction + Nat.pow 2 52 : Nat)
    let e : Int := if exponent = 0 then -1074 else (exponent : Int) - 1075
    some (if Nat.pow 2 63 ≤ bits then -m else m, e)

/-- Compares `n` with `m * 2 ^ e`. -/
def compareScaled (n m e : Int) : Ordering :=
  if 0 ≤ e then compare n (m * Nat.pow 2 e.toNat) else compare (n * Nat.pow 2 (-e).toNat) m

def compareIntFloat (n : Int) (x : Float) : Ordering :=
  match finite? x with
  | some (m, e) => compareScaled n m e
  | none => if x < 0 then .gt else .lt

def compareFloat (x y : Float) : Ordering :=
  if x > y then .gt
  else if x < y then .lt
  else if x == y then .eq
  else if x == x then .lt
  else if y == y then .gt
  else .eq

/-- The integer part of a finite float. -/
def truncate? (x : Float) : Option Int :=
  (finite? x).map fun (m, e) =>
    if 0 ≤ e then m * Nat.pow 2 e.toNat else m.tdiv (Nat.pow 2 (-e).toNat)

/-- The float nearest to an integer, unless it is beyond all floats. -/
def floatOfInt? (n : Int) : Option Float :=
  let x := Float.ofInt n
  if x.isInf then none else some x

/-- The remainder of `x` by `y` that is nearer to zero than `y` and has the sign of `x`, which is
always a float. -/
def remainder (x y : Float) : Float :=
  match finite? x, finite? y with
  | some (a, e), some (b, f) =>
      let g := min e f
      let a := a * Nat.pow 2 (e - g).toNat
      let b := b * Nat.pow 2 (f - g).toNat
      let r := Float.scaleB (Float.ofNat (Int.tmod a b).natAbs) g
      if b = 0 then 0.0 / 0.0
      else if Nat.pow 2 63 ≤ x.toBits.toNat then -r else r
  | some _, none => if y.isNaN then y else x
  | none, _ => 0.0 / 0.0

/-- The remainder of `x` by `y`, moved once by `y` if their signs differ. -/
def floatMod (x y : Float) : Float :=
  let r := remainder x y
  if (x < 0) != (y < 0) && r != 0 then r + y else r

/-- Applies an operation to the two's complement forms of integers, of sufficient width. -/
def bitwise (f : {w : Nat} → BitVec w → BitVec w → BitVec w) (a b : Int) : Int :=
  let width := max a.natAbs.log2 b.natAbs.log2 + 2
  (f (BitVec.ofInt width a) (BitVec.ofInt width b)).toInt

end Tandem.Expr.Number

set_option autoImplicit false

/-!
Ranges of integers: from a start, by a step, up to a stop that is left out. All arithmetic is
that of 64 bits and wraps around, so a range that is too long for it counts as one of negative
length, which has no items.
-/

namespace Tandem.Expr

structure Range where
  start : Int64
  stop : Int64
  step : Int64

namespace Range

def length (r : Range) : Int64 :=
  if 0 < r.step then
    if r.start < r.stop then (r.stop - 1 - r.start) / r.step + 1 else 0
  else if r.stop < r.start then (r.start - 1 - r.stop) / -r.step + 1 else 0

/-- The number of items. -/
def count (r : Range) : Nat := r.length.toInt.toNat

def item (r : Range) (i : Int64) : Int := (r.start + i * r.step).toInt

/-- Whether an integer of 32 bits is one of the items. -/
def contains (r : Range) (n : Int) : Bool :=
  let distance := Int64.ofInt n - r.start
  let i := distance / r.step
  distance % r.step == 0 && 0 ≤ i && i < r.length

/-- The items from one position to another, by a step. -/
def slice (r : Range) (low high step : Int64) : Range :=
  ⟨r.start + r.step * low, r.start + r.step * high, r.step * step⟩

/-- Two ranges are equal if they have the same items. -/
def equal (a b : Range) : Bool :=
  a.length == b.length &&
    (a.length == 0 || a.start == b.start && (a.length == 1 || a.step == b.step))

end Range

end Tandem.Expr

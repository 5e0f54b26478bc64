import Tandem.Expr.Compare
import Tandem.Text.Search
import Tandem.Text.Utf8

set_option autoImplicit false

/-!
Values that have items: how many there are, which one stands where, and which a slice selects. The
items of a range are not all made in advance, so a range may be longer than anything that is stored.
-/

namespace Tandem.Expr

/-- The items that a loop goes through. -/
structure Items where
  count : Nat
  item : Nat → Value

namespace Items

def ofArray (items : Array Value) : Items := ⟨items.size, fun i => items[i]?.getD .none⟩

def toList (items : Items) : List Value := (List.range items.count).map items.item

def toArray (items : Items) : Array Value := (Array.range items.count).map items.item

/-- The first item with a property, from the `i`-th on. -/
def search (items : Items) (p : Value → Bool) : (left : Nat) → (i : Nat) → Option Value
  | 0, _ => none
  | left + 1, i => if p (items.item i) then some (items.item i) else search items p left (i + 1)

def any (items : Items) (p : Value → Bool) : Bool := (items.search p items.count 0).isSome

def all (items : Items) (p : Value → Bool) : Bool := !items.any fun x => !p x

end Items

namespace Value

/-- What stands in a view of a string. -/
def viewed (t : Text) : View → List Value
  | .bytes => t.map fun b => .str [b]
  | .byteNumbers | .ofBytes => t.map fun b => .int b.toNat
  | .characters => (Text.characters t).map fun c => .str (Text.ofCodePoint c)
  | .characterNumbers => (Text.characters t).map fun (c : Nat) => .int c

/-- The items that a loop over a value goes through. Strings have none. -/
def items? (s : Store) : Value → Option Items
  | .tuple items => some (.ofArray items.toArray)
  | .range r => some ⟨r.count, fun i => .int (r.item (Int64.ofNat i))⟩
  | .view v t => some (.ofArray (viewed t v).toArray)
  | .list place => some (.ofArray (s.list place))
  | .dict place => some (.ofArray (s.dict place).keys.toArray)
  | _ => Option.none

/-- The length of a value; of a view of characters it is not known. -/
def length? (s : Store) : Value → Option Int
  | .str t | .bytes t => some t.length
  | .tuple items => some items.length
  | .range r => some r.length.toInt
  | .view .bytes t | .view .byteNumbers t => some t.length
  | .list place => some (s.list place).size
  | .dict place => some (s.dict place).size
  | _ => Option.none

/-- The position that an index stands for among `length` items; a negative index counts from the
end. -/
def position? (length : Int) (i : Value) : Option Int := do
  let n ← smallInt? i
  let n := if n < 0 then n + length else n
  if 0 ≤ n && n < length then some n else Option.none

/-- The item of a sequence at an index. -/
def at? {α : Type} (items : List α) (i : Value) : Option α :=
  (position? items.length i).bind fun n => items[n.toNat]?

def index? (s : Store) (x i : Value) : Option Value :=
  match x with
  | .dict place => ((s.dict place).find? i).join
  | .str t => (at? t i).map fun b => .str [b]
  | .bytes t => (at? t i).map fun b => .bytes [b]
  | .tuple items => at? items i
  | .range r => (position? r.length.toInt i).map fun n => .int (r.item (Int64.ofInt n))
  | .view .bytes t => (at? t i).map fun b => .str [b]
  | .view .byteNumbers t => (at? t i).map fun b => .int b.toNat
  | .list place =>
      let items := s.list place
      (position? items.size i).bind fun n => items[n.toNat]?
  | _ => Option.none

/-- An end of a slice of `n` items; `missing` is the one that is left out. -/
def bound? (n missing : Int) : Value → Option Int
  | .none => some missing
  | i => (smallInt? i).map fun i => if i < 0 then i + n else i

/-- The start and the end, from 0 to `n`, of a part of `n` items; the end may be before the
start. -/
def part? (n : Int) (low high : Value) : Option (Int × Int) := do
  let clamp (i : Int) : Int := if i < 0 then 0 else if n < i then n else i
  let start ← bound? n 0 low
  let stop ← bound? n n high
  pure (clamp start, clamp stop)

/-- The start, the end and the step of a slice of `n` items. -/
def slice? (n : Int) (low high step : Value) : Option (Int × Int × Int) := do
  let step ← match step with
    | .none => some 1
    | i => smallInt? i
  if step = 0 then Option.none
  else if 0 < step then
    let (start, stop) ← part? n low high
    some (start, max start stop, step)
  else
    let start := min (← bound? n (n - 1) low) (n - 1)
    let stop := max (← bound? n (-1) high) (-1)
    some (max start stop, stop, step)

/-- The number of items of a slice. -/
def sliceLength (start stop step : Int) : Nat :=
  if 0 < step then ((stop - start + step - 1) / step).toNat
  else ((start - stop - step - 1) / -step).toNat

/-- The items of a slice. -/
def sliced {α : Type} (items : Array α) : Int × Int × Int → Array α
  | (start, stop, step) =>
      (Array.range (sliceLength start stop step)).filterMap fun (i : Nat) =>
        items[(start + i * step).toNat]?

def slice (x low high step : Value) : EvalM Value := do
  let s ← get
  match x with
  | .str t => return .str (sliced t.toArray (← slice? t.length low high step)).toList
  | .bytes t => return .bytes (sliced t.toArray (← slice? t.length low high step)).toList
  | .tuple items =>
      return .tuple (sliced items.toArray (← slice? items.length low high step)).toList
  | .list place =>
      let items := s.list place
      EvalM.newList (sliced items (← slice? items.size low high step))
  | .range r =>
      let (start, stop, step) ← slice? r.length.toInt low high step
      return .range (r.slice (Int64.ofInt start) (Int64.ofInt stop) (Int64.ofInt step))
  | _ => failure

/-- An integer, or a finite float without its fraction. -/
def toInt? : Value → Option Int
  | .int n => some n
  | .float x => Number.truncate? x
  | _ => Option.none

/-- Whether a value is among others; none if some comparison fails before it is found. -/
def occursIn? (s : Store) (x : Value) : List Value → Option Bool
  | [] => some false
  | y :: rest => do if ← equal? s y x then pure true else occursIn? s x rest

/-- Whether a value is in another one. -/
def isIn? (s : Store) (x : Value) : Value → Option Bool
  | .tuple items => occursIn? s x items
  | .list place => occursIn? s x (s.list place).toList
  | .dict place => some (((s.dict place).find? x).join).isSome
  | .str t => x.text?.map fun needle => Text.occurs needle t
  | .bytes t =>
      match x with
      | .bytes needle => some (Text.occurs needle t)
      | .int n => if 0 ≤ n && n < 256 then some (t.contains n.toNat.toUInt8) else Option.none
      | _ => Option.none
  | .range r => x.toInt?.map fun n => (smallInt? (.int n)).any r.contains
  | _ => Option.none

end Value

end Tandem.Expr

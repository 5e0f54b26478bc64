import Tandem.Expr.Method
import Tandem.Text.FloatLiteral

set_option autoImplicit false

/-!
Functions that every expression can use. Those that take a function to compare items by get the
means to call it, and a loop goes through the items meanwhile.
-/

namespace Tandem.Expr.Builtin

/-! ### Numbers from texts -/

/-- The base that the digits of an unsigned number are in, and the digits: a mark such as `0x`
counts if it goes with the asked base, or if the base is 0. -/
def basedDigits (base : Nat) (t : Text) : Option (Nat × Text) :=
  let marked : Option Nat := match t with
    | 48 :: m :: _ :: _ =>
        if m = 111 || m = 79 then some 8
        else if m = 120 || m = 88 then some 16
        else if m = 98 || m = 66 then some 2 else none
    | _ => none
  match marked with
  | some b => if base = 0 || base = b then some (b, t.drop 2) else some (base, t)
  | none =>
      if base ≠ 0 then some (base, t)
      else if 1 < t.length && t.head? = some 48 then
        if t.all (· = 48) then some (10, t) else none
      else some (10, t)

/-- An integer in a base from 2 to 36, or 0 where the text tells its base. -/
def parseInt? (t : Text) (base : Int) : Option Int :=
  if base ≠ 0 && (base < 2 || 36 < base) then none
  else
    let (sign, digits) := Numeral.splitSign t
    (basedDigits base.toNat digits).bind fun (base, digits) =>
      (Numeral.natural? base digits).map fun n => if sign = [45] then -(n : Int) else n

/-! ### Results -/

/-- The sum of the characters with powers of 31, as a signed number of 32 bits. -/
def textHash (t : Text) : Int :=
  ((Text.characters t).foldl (fun (h : UInt32) (c : Nat) => h * 31 + c.toUInt32) 0).toInt32.toInt

private def abs? : Value → Option Value
  | .int n => some (.int n.natAbs)
  | .float x => some (.float x.abs)
  | _ => none

private def byte? : Value → Option UInt8
  | .int n => if 0 ≤ n && n < 256 then some n.toNat.toUInt8 else none
  | _ => none

private def toBytes? (s : Store) : Value → Option Value
  | .bytes t => some (.bytes t)
  | .str t => some (.bytes (Text.scrub t))
  | x => do
      let items ← x.items? s
      return .bytes (← items.toList.mapM byte?)

private def toFloat? : List Value → Option Value
  | [] => some (.float 0)
  | .bool b :: _ => some (.float (if b then 1 else 0))
  | .int n :: _ => (Number.floatOfInt? n).map .float
  | .float x :: _ => some (.float x)
  | .str t :: _ => (FloatLiteral.parse? t).map .float
  | _ => none

private def toInt? : List (Option Value) → Option Value
  | [some (.str t), base] => do
      let base ← match base with
        | some n => n.smallInt?
        | none => some 10
      return .int (← parseInt? t base)
  | [some (.bool b), none] => some (.int (if b then 1 else 0))
  | [some x, none] => x.toInt?.map .int
  | _ => none

private def hashOf? : Value → Option Value
  | .str t => some (.int (textHash t))
  | .bytes t => some (.int (bytesHash t).toNat)
  | _ => none

private def ordinal? : Value → Option Value
  | .str t =>
      match Text.next? t with
      | some (c, n) => if n = t.length then some (.int c) else none
      | none => none
  | .bytes [b] => some (.int b.toNat)
  | _ => none

private def range? : List Int64 → Option Value
  | [stop] => some (.range ⟨0, stop, 1⟩)
  | [start, stop] => some (.range ⟨start, stop, 1⟩)
  | [start, stop, step] => if step = 0 then none else some (.range ⟨start, stop, step⟩)
  | _ => none

/-- The separator of a list of arguments, if there is one, is a text. -/
private def separated? (a : Arguments) : Option Unit := do
  let values ← ({ a with plain := [] } : Arguments).byName? ["sep"] 0
  match values with
  | [some x] => x.text?.map fun _ => ()
  | _ => some ()

/-- The rows of a list of columns: as many as the shortest of them has. -/
private def zipped (columns : List Items) : List Value :=
  let count := ((columns.map Items.count).min?).getD 0
  (List.range count).map fun i => .tuple (columns.map fun column => column.item i)

private def numbered (start : Int64) (items : List Value) : List Value :=
  items.zipIdx.map fun (x, i) => .tuple [.int (start + Int64.ofNat i).toInt, x]

/-- The function on values that a builtin stands for, where it gives no new list or table and calls
nothing. -/
def result? (s : Store) (b : Builtin) (a : Arguments) : Option Value :=
  let itemsOf : Option Items := a.one?.bind (Value.items? s)
  match b with
  | .abs => a.one?.bind abs?
  | .all => itemsOf.map fun items => .bool (items.all (Value.isTrue s))
  | .any => itemsOf.map fun items => .bool (items.any (Value.isTrue s))
  | .bool => (a.only? 0 1).map fun values => .bool (values.any (Value.isTrue s))
  | .bytes => a.one?.bind (toBytes? s)
  | .chr => do return .str (← Value.codePoint? (← (← a.one?).smallInt?))
  | .float => (a.only? 0 1).bind toFloat?
  | .hasattr => do
      let [x, name] ← a.only? 2 2 | none
      return .bool (x.hasMethod (← name.text?))
  | .hash => a.one?.bind hashOf?
  | .int => (a.byName? ["x", "base"] 1).bind toInt?
  | .len => do
      let n ← (← a.one?).length? s
      if n < 0 then none else some (.int n)
  | .ord => a.one?.bind ordinal?
  | .print => (separated? a).map fun _ => .none
  | .range => do range? (← (← a.only? 1 3).mapM Value.count?)
  | .repr => a.one?.map fun x => .str (x.repr s)
  | .str => do
      match ← a.one? with
      | .bytes t => some (.str (Text.scrub t))
      | x => some (.str (x.text s))
  | .tuple => do
      match ← a.only? 0 1 with
      | [] => some (.tuple [])
      | x :: _ => do return .tuple (← x.items? s).toList
  | .type => a.one?.map fun x => .str (Text.ofString x.typeName)
  | _ => none

/-- The items of the list that a builtin makes. -/
def newItems? (s : Store) (b : Builtin) (a : Arguments) : Option (List Value) :=
  match b with
  | .dir => a.one?.map fun x => x.methodNames.map fun name => .str (Text.ofString name)
  | .enumerate => do
      let values ← a.only? 1 2
      let items ← (← values.head?).items? s
      let start ← match values[1]? with
        | some n => n.count?
        | none => some 0
      some (numbered start items.toList)
  | .list => do
      match ← a.only? 0 1 with
      | [] => some []
      | x :: _ => do return (← x.items? s).toList
  | .reversed => do return (← (← a.one?).items? s).toList.reverse
  | .zip => do
      if !a.named.isEmpty then none
      some (zipped (← a.plain.mapM (Value.items? s)))
  | _ => none

/-! ### Order by a key -/

/-- What an item is ordered by: what a function makes of it, or the item itself. -/
def keyOf (call : Value → Arguments → EvalM Value) (key : Option Value) (x : Value) :
    EvalM Value :=
  match key with
  | none => pure x
  | some f => call f ⟨[x], []⟩

/-- The first of the items with the least key, or with the greatest. -/
def extreme (greatest : Bool) (keyOf : Value → EvalM Value) : List Value → EvalM Value
  | [] => failure
  | first :: rest => do
      let (best, _) ← rest.foldlM (fun (best, bestKey) x => do
        let key ← keyOf x
        let order ← Value.order? (← get) key bestKey
        let isBetter := if greatest then order.isGT else order.isLT
        pure (if isBetter then (x, key) else (best, bestKey))) (first, ← keyOf first)
      pure best

/-- Orders items by their keys; items with equal keys keep their order. If some keys cannot be
compared, then two such keys come to stand side by side, or two in the wrong order. -/
def ordered? (s : Store) (reverse : Bool) (entries : List (Value × Value)) : Option (List Value) :=
  let wrong : Ordering := if reverse then .lt else .gt
  let arranged := entries.mergeSort fun x y => Value.order? s x.1 y.1 ≠ some wrong
  let isArranged := (arranged.zip arranged.tail).all fun (x, y) =>
    (Value.order? s x.1 y.1).any (· ≠ wrong)
  if isArranged then some (arranged.map (·.2)) else none

/-- What to choose from and the key function of a call of `max` or `min`. -/
private def choice? (a : Arguments) : Option (Value × Option Value) := do
  let x ← match a.plain with
    | [] => none
    | [x] => some x
    | xs => some (.tuple xs)
  let key ← (← ({ a with plain := [] } : Arguments).byName? ["key"] 0).head?
  if key.all Value.isCallable then some (x, key) else none

/-- What to sort, the key function and the direction of a call of `sorted`. -/
private def sorting? (a : Arguments) : Option (Value × Option Value × Bool) := do
  let [some x, key, reverse] ← a.byName? ["iterable", "key", "reverse"] 1 | none
  let reverse ← match reverse with
    | some r => r.truth?
    | none => some false
  if key.all Value.isCallable then some (x, key, reverse) else none

/-! ### Application -/

/-- Applies a builtin, where `call` calls a value. -/
def apply (call : Value → Arguments → EvalM Value) (b : Builtin) (a : Arguments) :
    EvalM Value := do
  let s ← get
  match b with
  | .dict =>
      let d ← EvalM.newDict .empty
      let .dict place := d | failure
      DictMethod.update place a
      pure d
  | .dir | .enumerate | .list | .reversed | .zip =>
      EvalM.newList (← newItems? s b a).toArray
  | .fail => failure
  | .getattr =>
      let x :: name :: missing ← a.only? 2 3 | failure
      let name ← name.text?
      if x.hasMethod name then x.takeMethod name else missing.head?
  | .max | .min =>
      let (x, key) ← choice? a
      let items ← x.items? s
      EvalM.looping x (extreme (b = .max) (keyOf call key) items.toList)
  | .sorted =>
      let (x, key, reverse) ← sorting? a
      let items ← x.items? s
      let entries ← EvalM.looping x <|
        items.toList.mapM fun x => do pure (← keyOf call key x, x)
      EvalM.newList (← ordered? (← get) reverse entries).toArray
  | _ => result? s b a

end Tandem.Expr.Builtin

import Tandem.Expr.Operator
import Tandem.Expr.StringMethod

set_option autoImplicit false

/-!
Methods of values. Those of lists and tables may change what they belong to, which fails while a
loop is going through it.
-/

namespace Tandem.Expr

/-! ### Lists -/

namespace ListMethod

/-- Where an item stands that equals a value. -/
private def position? (s : Store) (x : Value) : (i : Nat) → List Value → Option (Option Nat)
  | _, [] => some none
  | i, y :: rest => do
      if ← Value.equal? s y x then pure (some i) else position? s x (i + 1) rest

/-- The methods, on the place of a list. They take no named arguments. -/
def every : List (String × (Nat → List Value → EvalM Value)) :=
  [("append", fun place arguments => do
      let [x] := arguments | failure
      EvalM.changeList place (·.push x)
      pure .none),
    ("clear", fun place arguments => do
      let [] := arguments | failure
      EvalM.changeList place fun _ => #[]
      pure .none),
    ("extend", fun place arguments => do
      let [x] := arguments | failure
      let items ← x.items? (← get)
      EvalM.changeList place (· ++ items.toArray)
      pure .none),
    ("index", fun place arguments => do
      let x :: ends := arguments | failure
      if 2 < ends.length then failure
      let s ← get
      let items := s.list place
      let (start, stop) ← Value.part? items.size (ends[0]?.getD .none) (ends[1]?.getD .none)
      let inside := (items.extract start.toNat stop.toNat).toList
      let some i ← position? s x start.toNat inside | failure
      pure (.int i)),
    ("insert", fun place arguments => do
      let [i, x] := arguments | failure
      let i ← i.count?
      EvalM.changeList place fun items =>
        let i := if i < 0 then i.toInt + items.size else i.toInt
        items.insertIdxIfInBounds (min i.toNat items.size) x
      pure .none),
    ("pop", fun place arguments => do
      let items := (← get).list place
      let i ← match arguments with
        | [] => pure ((items.size : Int) - 1)
        | [i] => do pure (← i.count?).toInt
        | _ => failure
      let i := if i < 0 then i + items.size else i
      if i < 0 then failure
      let some x := items[i.toNat]? | failure
      EvalM.changeList place (·.eraseIdxIfInBounds i.toNat)
      pure x),
    ("remove", fun place arguments => do
      let [x] := arguments | failure
      let s ← get
      let some i ← position? s x 0 (s.list place).toList | failure
      EvalM.changeList place (·.eraseIdxIfInBounds i)
      pure .none)]

end ListMethod

/-! ### Tables -/

namespace DictMethod

/-- The two items of a pair. -/
private def pair? (s : Store) (x : Value) : Option (Value × Value) := do
  let items ← x.items? s
  let n ← x.length? s
  if n = 2 then some (items.item 0, items.item 1) else none

/-- Puts pairs into a table. A loop goes through each pair until all are in, so none of them may
be the table itself. -/
private def putPairs (place : Nat) (pairs : List Value) : EvalM Unit := do
  for x in pairs do
    let (key, value) ← pair? (← get) x
    EvalM.countLoops (· + 1) x
    EvalM.putKey place key value
  for x in pairs do
    EvalM.countLoops (· - 1) x

/-- Extends a table: by the entries of a table or by pairs, and then by named entries, of which no
two have the same name. -/
def update (place : Nat) (a : Arguments) : EvalM Unit := do
  let s ← get
  match a.plain with
  | [] => pure ()
  | [.dict other] =>
      for (key, value) in (s.dict other).entries do
        EvalM.putKey place key value
  | [x] =>
      let items ← x.items? s
      putPairs place items.toList
  | _ => failure
  for (name, value) in a.named do
    EvalM.putKey place (.str name) value
  let names := a.named.map (·.1)
  if names.eraseDups.length ≠ names.length then failure

private def table (place : Nat) : EvalM Dict := return (← get).dict place

/-- A method that takes a key and what to give, or to put in, if the key is missing. -/
private def keyed (f : Nat → Value → Option Value → EvalM Value) (place : Nat)
    (a : Arguments) : EvalM Value := do
  let arguments ← a.only? 1 2
  f place (← arguments.head?) arguments[1]?

/-- A method that takes nothing. -/
private def bare (f : Nat → EvalM Value) (place : Nat) (a : Arguments) : EvalM Value := do
  let _ ← a.only? 0 0
  f place

/-- The methods, on the place of a table. -/
def every : List (String × (Nat → Arguments → EvalM Value)) :=
  [("clear", bare fun place => do
      EvalM.changeDict place Dict.clear
      pure .none),
    ("get", keyed fun place key missing => do
      return (← (← table place).find? key).getD (missing.getD .none)),
    ("items", bare fun place => do
      let pairs := (← table place).entries.map fun (key, value) => Value.tuple [key, value]
      EvalM.newList pairs.toArray),
    ("keys", bare fun place => do EvalM.newList (← table place).keys.toArray),
    ("pop", keyed fun place key missing => do
      let found ← EvalM.takeKey place key
      found.or missing),
    ("popitem", bare fun place => do
      let (key, value) ← (← table place).entries.head?
      let _ ← EvalM.takeKey place key
      pure (.tuple [key, value])),
    ("setdefault", keyed fun place key missing => do
      match ← (← table place).find? key with
      | some value => pure value
      | none =>
          let value := missing.getD .none
          EvalM.putKey place key value
          pure value),
    ("update", fun place a => do
      update place a
      pure .none),
    ("values", bare fun place => do
      EvalM.newList ((← table place).entries.map (·.2)).toArray)]

end DictMethod

/-! ### Look-up -/

namespace Value

/-- The names of the methods of a value, in order. -/
def methodNames : Value → List String
  | .str _ => StringMethod.every.map (·.1)
  | .bytes _ => ["elems"]
  | .list _ => ListMethod.every.map (·.1)
  | .dict _ => DictMethod.every.map (·.1)
  | _ => []

def hasMethod (x : Value) (name : Text) : Bool := x.methodNames.any (Text.ofString · = name)

private def methodOf? {α : Type} (methods : List (String × α)) (name : Text) : Option α :=
  (methods.find? fun m => Text.ofString m.1 = name).map (·.2)

/-- Takes a method from a value. -/
def takeMethod (x : Value) (name : Text) : EvalM Value :=
  if x.hasMethod name then EvalM.newMethod x name else failure

def callMethod (receiver : Value) (name : Text) (a : Arguments) : EvalM Value := do
  match receiver with
  | .str t => (← methodOf? StringMethod.every name) t a
  | .bytes t =>
      let _ ← a.only? 0 0
      pure (.view .ofBytes t)
  | .list place =>
      if a.named.isEmpty then (← methodOf? ListMethod.every name) place a.plain else failure
  | .dict place => (← methodOf? DictMethod.every name) place a
  | _ => failure

end Value

end Tandem.Expr

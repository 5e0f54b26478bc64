import Tandem.Expr.Store

set_option autoImplicit false

/-!
Truth, equality and order of values. Lists, tuples and tables are compared by what they hold, as
deep as `Value.nestingLimit`; asking for more is an error, and so is asking for the order of
values that have none.
-/

namespace Tandem.Expr.Value

def isTrue (s : Store) : Value → Bool
  | .none => false
  | .bool b => b
  | .int n => n ≠ 0
  | .float x => x != 0
  | .str t | .bytes t => !t.isEmpty
  | .tuple items => !items.isEmpty
  | .range r => 0 < r.length
  | .list place => !(s.list place).isEmpty
  | .dict place => (s.dict place).size ≠ 0
  | _ => true

/-- Whether the entries of a table are in another one, with values that are equal. -/
def entriesEqual? (equal? : Value → Value → Option Bool) (other : Dict) :
    List (Value × Value) → Option Bool
  | [] => some true
  | (key, value) :: rest =>
      match other.find? key with
      | some (some value') => do
          if ← equal? value value' then entriesEqual? equal? other rest else pure false
      | _ => some false

def equalTo? (s : Store) : (depth : Nat) → Value → Value → Option Bool
  | 0, _, _ => Option.none
  | depth + 1, x, y =>
      let itemsEqual (xs ys : List Value) : Option Bool :=
        if xs.length = ys.length then allEqual? (equalTo? s depth) xs ys else some false
      match x, y with
      | .tuple xs, .tuple ys => itemsEqual xs ys
      | .list a, .list b => itemsEqual (s.list a).toList (s.list b).toList
      | .dict a, .dict b =>
          let (a, b) := (s.dict a, s.dict b)
          if a.size = b.size then entriesEqual? (equalTo? s depth) b a.entries else some false
      | _, _ => some (simplyEqual x y)

def equal? (s : Store) (x y : Value) : Option Bool := equalTo? s nestingLimit x y

/-- The order of two lists by their first items that differ. -/
def orderItems? (equal? : Value → Value → Option Bool)
    (order? : Value → Value → Option Ordering) :
    List Value → List Value → Option Ordering
  | x :: xs, y :: ys => do
      if ← equal? x y then orderItems? equal? order? xs ys else order? x y
  | xs, ys => some (compare xs.length ys.length)

def orderText (a b : Text) : Ordering := if a = b then .eq else if Text.le a b then .lt else .gt

def orderTo? (s : Store) : (depth : Nat) → Value → Value → Option Ordering
  | 0, _, _ => Option.none
  | depth + 1, x, y =>
      let orderItems := orderItems? (equalTo? s depth) (orderTo? s depth)
      match x, y with
      | .bool a, .bool b => some (compare a.toNat b.toNat)
      | .int a, .int b => some (compare a b)
      | .float a, .float b => some (Number.compareFloat a b)
      | .int a, .float b => some (Number.compareIntFloat a b)
      | .float a, .int b => some (Number.compareIntFloat b a).swap
      | .str a, .str b | .bytes a, .bytes b => some (orderText a b)
      | .tuple xs, .tuple ys => orderItems xs ys
      | .list a, .list b => orderItems (s.list a).toList (s.list b).toList
      | _, _ => Option.none

def order? (s : Store) (x y : Value) : Option Ordering := orderTo? s nestingLimit x y

end Tandem.Expr.Value

import Tandem.Expr.Template

set_option autoImplicit false

/-!
Operators on values. An operator that does not apply to its operands fails.

Division of integers goes to the floor, and the remainder has the sign of the divisor. Integers are
turned into floats only if a float is near.
-/

namespace Tandem.Expr.Value

/-- The operands as floats, unless both are integers. -/
def floats? : Value → Value → Option (Float × Float)
  | .float x, .float y => some (x, y)
  | .int a, .float y => (Number.floatOfInt? a).map (·, y)
  | .float x, .int b => (Number.floatOfInt? b).map (x, ·)
  | _, _ => Option.none

/-- Operands of a division of floats: the divisor is not zero. -/
def quotients? (x y : Value) : Option (Float × Float) :=
  (floats? x y).filter fun (_, b) => b != 0

/-- The most items that a repetition may have. -/
def repetitionLimit : Nat := Nat.pow 2 30

/-- A sequence a number of times over. -/
def repeated? {α : Type} (items : List α) (count : Int) : Option (List α) :=
  if items.isEmpty then some []
  else do
    let n ← smallInt? (.int count)
    if repetitionLimit ≤ items.length * n.toNat then Option.none
    else some (List.replicate n.toNat items).flatten

def add (x y : Value) : EvalM Value := do
  match x, y with
  | .int a, .int b => pure (.int (a + b))
  | .str a, .str b => pure (.str (a ++ b))
  | .tuple a, .tuple b => pure (.tuple (a ++ b))
  | .list a, .list b =>
      let s ← get
      EvalM.newList (s.list a ++ s.list b)
  | x, y =>
      let (a, b) ← floats? x y
      pure (.float (a + b))

def sub? : Value → Value → Option Value
  | .int a, .int b => some (.int (a - b))
  | x, y => (floats? x y).map fun (a, b) => .float (a - b)

def mul (x y : Value) : EvalM Value := do
  match x, y with
  | .int a, .int b => pure (.int (a * b))
  | .str t, .int n | .int n, .str t => return .str (← repeated? t n)
  | .bytes t, .int n | .int n, .bytes t => return .bytes (← repeated? t n)
  | .tuple items, .int n | .int n, .tuple items => return .tuple (← repeated? items n)
  | .list place, .int n | .int n, .list place =>
      let items := (← get).list place
      EvalM.newList (← repeated? items.toList n).toArray
  | x, y =>
      let (a, b) ← floats? x y
      pure (.float (a * b))

def div? : Value → Value → Option Value
  | .int a, .int b => do
      let x ← Number.floatOfInt? a
      let y ← Number.floatOfInt? b
      if y == 0 then Option.none else some (.float (x / y))
  | x, y => (quotients? x y).map fun (a, b) => .float (a / b)

def floorDiv? : Value → Value → Option Value
  | .int a, .int b => if b = 0 then Option.none else some (.int (Int.fdiv a b))
  | x, y => (quotients? x y).map fun (a, b) => .float (a / b).floor

/-- The remainder of a division, or the text of a template that is filled in. -/
def mod? (s : Store) : Value → Value → Option Value
  | .int a, .int b => if b = 0 then Option.none else some (.int (Int.fmod a b))
  | .str t, y => (interpolate? s t y).map .str
  | x, y => (quotients? x y).map fun (a, b) => .float (Number.floatMod a b)

def bits? (f : {w : Nat} → BitVec w → BitVec w → BitVec w) : Value → Value → Option Value
  | .int a, .int b => some (.int (Number.bitwise f a b))
  | _, _ => Option.none

def bitOr (x y : Value) : EvalM Value := do
  match x, y with
  | .dict a, .dict b =>
      let s ← get
      EvalM.newDict ((s.dict a).union (s.dict b))
  | x, y => bits? BitVec.or x y

/-- A number of bits to shift by. -/
def shift? (y : Value) : Option Nat := do
  let n ← smallInt? y
  if 0 ≤ n then some n.toNat else Option.none

/-- Integers are shifted to the left by less than this. -/
def shiftLimit : Nat := 512

def shiftLeft? (x y : Value) : Option Value :=
  match x, shift? y with
  | .int a, some n => if n < shiftLimit then some (.int (a * Nat.pow 2 n)) else Option.none
  | _, _ => Option.none

def shiftRight? (x y : Value) : Option Value :=
  match x, shift? y with
  | .int a, some n => some (.int (a >>> n))
  | _, _ => Option.none

def binary (op : BinaryOp) (x y : Value) : EvalM Value := do
  let s ← get
  let ordered (p : Ordering → Bool) : Option Value := (order? s x y).map fun o => .bool (p o)
  match op with
  | .add => add x y
  | .sub => sub? x y
  | .mul => mul x y
  | .div => div? x y
  | .floorDiv => floorDiv? x y
  | .mod => mod? s x y
  | .bitAnd => bits? BitVec.and x y
  | .bitOr => bitOr x y
  | .bitXor => bits? BitVec.xor x y
  | .shiftLeft => shiftLeft? x y
  | .shiftRight => shiftRight? x y
  | .equal => (equal? s x y).map .bool
  | .notEqual => (equal? s x y).map fun b => .bool (!b)
  | .less => ordered Ordering.isLT
  | .greater => ordered Ordering.isGT
  | .lessEqual => ordered Ordering.isLE
  | .greaterEqual => ordered Ordering.isGE
  | .isIn => (isIn? s x y).map .bool
  | .isNotIn => (isIn? s x y).map fun b => .bool (!b)

/-- The operator of an assignment. A list is extended and a table is joined where it is stored. -/
def augmented (op : BinaryOp) (x y : Value) : EvalM Value := do
  let s ← get
  match op, x, y, y.items? s with
  | .add, .list place, _, some items =>
      EvalM.changeList place (· ++ items.toArray)
      pure x
  | .bitOr, .dict a, .dict b, _ =>
      EvalM.changeDict a (·.insertAll (s.dict b).entries)
      pure x
  | _, _, _, _ => binary op x y

def unary? : UnaryOp → Value → Option Value
  | .plus, .int n => some (.int n)
  | .plus, .float x => some (.float x)
  | .minus, .int n => some (.int (-n))
  | .minus, .float x => some (.float (-x))
  | .invert, .int n => some (.int (-n - 1))
  | _, _ => Option.none

end Tandem.Expr.Value

import Tandem.Expr.Number
import Tandem.Expr.Value

set_option autoImplicit false

/-!
Values as keys of tables. A value that can change cannot be a key. Values are compared with a limit
on how deep they are nested: below `nestingLimit` tuples in one another nothing is compared, and
asking for it is an error. Only keys with the same hash are compared.
-/

namespace Tandem.Expr

/-- Multiplies with a prime after every byte. -/
def bytesHash (t : Text) : UInt32 :=
  t.foldl (fun h b => (h ^^^ b.toUInt32) * 16777619) 2166136261

def intHash (n : Int) : UInt32 :=
  let low := if (Value.smallInt? (.int n)).isSome then n else n.natAbs
  12582917 * UInt32.ofInt (low + 3)

namespace Value

mutual

/-- A number that equal keys share; a value that cannot be a key has none. -/
def hash? : Value → Option UInt32
  | .none => some 0
  | .bool b => some b.toUInt32
  | .int n => some (intHash n)
  | .float x => some (((Number.truncate? x).map intHash).getD 1618033)
  | .str t | .bytes t => some (bytesHash t)
  | .tuple items => (hashes? items).map fun hashes =>
      let step (state : UInt32 × UInt32) (hash : UInt32) : UInt32 × UInt32 :=
        (state.1 ^^^ hash * state.2, state.2 + 82520 + 2 * hashes.length.toUInt32)
      (hashes.foldl step (0x345678, 1000003)).1
  | .function place => some place.toUInt32
  | .builtin b => some (bytesHash b.name)
  | .method number _ _ => some number.toUInt32
  | _ => Option.none

def hashes? : List Value → Option (List UInt32)
  | [] => some []
  | x :: rest => do
      let h ← hash? x
      let hs ← hashes? rest
      pure (h :: hs)

end

/-- Equality of values that are not lists, tuples or tables. -/
def simplyEqual : Value → Value → Bool
  | .none, .none => true
  | .bool a, .bool b => a == b
  | .int a, .int b => a == b
  | .float a, .float b => Number.compareFloat a b == .eq
  | .int a, .float b => Number.compareIntFloat a b == .eq
  | .float a, .int b => Number.compareIntFloat b a == .eq
  | .str a, .str b | .bytes a, .bytes b => a == b
  | .range a, .range b => a.equal b
  | .view v a, .view w b => v == w && a == b
  | .function a, .function b => a == b
  | .builtin a, .builtin b => a == b
  | .method a _ _, .method b _ _ => a == b
  | _, _ => false

/-- Compares lists of the same length item by item, up to the first difference. -/
def allEqual? (equal? : Value → Value → Option Bool) : List Value → List Value → Option Bool
  | [], [] => some true
  | x :: xs, y :: ys => do
      if ← equal? x y then allEqual? equal? xs ys else pure false
  | _, _ => some false

/-- How deep values may be nested to be compared. -/
def nestingLimit : Nat := 10

/-- Equality of keys; none if they are nested too deep. -/
def keysEqual? : (depth : Nat) → Value → Value → Option Bool
  | 0, _, _ => Option.none
  | depth + 1, .tuple xs, .tuple ys =>
      if xs.length = ys.length then allEqual? (keysEqual? depth) xs ys else some false
  | _ + 1, x, y => some (simplyEqual x y)

end Value

end Tandem.Expr

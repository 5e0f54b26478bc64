import Std.Data.HashMap
import Tandem.Expr.Key

set_option autoImplicit false

/-!
Tables, in the order in which their keys were put in. A key that is put in again keeps its place,
and one that is taken out and put in again comes last.

Looking for a key fails if it cannot be a key, or if it is nested too deep to be compared with one
that has the same hash.
-/

namespace Tandem.Expr

structure Dict where
  /-- The entries in order; those that were taken out are `none`. -/
  slots : Array (Option (Value × Value))
  /-- Where the keys of each hash stand. -/
  places : Std.HashMap UInt32 (List Nat)
  size : Nat
  /-- Whether nothing was ever put in. Then any value can be looked for to take it out. -/
  isFresh : Bool

namespace Dict

def empty : Dict := ⟨#[], {}, 0, true⟩

def entries (d : Dict) : List (Value × Value) := d.slots.toList.filterMap id

def keys (d : Dict) : List Value := d.entries.map (·.1)

/-- The hash of a key, and where it stands. -/
def slot? (d : Dict) (key : Value) : Option (UInt32 × Option Nat) := do
  let hash ← key.hash?
  let place ← (d.places.getD hash []).findM? fun i =>
    match d.slots[i]? with
    | some (some (other, _)) => Value.keysEqual? Value.nestingLimit key other
    | _ => some false
  pure (hash, place)

/-- The value of a key. -/
def find? (d : Dict) (key : Value) : Option (Option Value) :=
  (d.slot? key).map fun (_, place) => do
    let (_, value) ← (← d.slots[← place]?)
    pure value

/-- Sets the value of a key, in its old place or at the end. -/
def put (d : Dict) (slot : UInt32 × Option Nat) (key value : Value) : Dict :=
  match d, slot with
  | ⟨slots, places, size, isFresh⟩, (_, some i) =>
      ⟨slots.modify i fun entry => entry.map fun (key, _) => (key, value),
        places, size, isFresh⟩
  | ⟨slots, places, size, _⟩, (hash, none) =>
      let i := slots.size
      ⟨slots.push (some (key, value)), places.alter hash fun is => some (i :: is.getD []),
        size + 1, false⟩

def insert? (d : Dict) (key value : Value) : Option Dict :=
  match d.slot? key with
  | some slot => some (d.put slot key value)
  | none => none

/-- Where a key stands that is to be taken out. -/
def victim? (d : Dict) (key : Value) : Option (Option Nat) :=
  if d.isFresh then some none else (d.slot? key).map (·.2)

/-- Takes out what stands somewhere. -/
def eraseAt (d : Dict) (place : Option Nat) : Dict :=
  match d, place with
  | ⟨slots, places, size, isFresh⟩, some i =>
      ⟨slots.setIfInBounds i none, places, size - 1, isFresh⟩
  | d, none => d

/-- Takes everything out. -/
def clear (d : Dict) : Dict := { empty with isFresh := d.isFresh }

/-- Puts entries in, up to the first that cannot be. -/
def insertAll (d : Dict) : List (Value × Value) → Dict
  | [] => d
  | (key, value) :: rest =>
      match d.insert? key value with
      | some d => d.insertAll rest
      | none => d

/-- The entries of a table and of another one, which wins. -/
def union (a b : Dict) : Dict :=
  { (empty.insertAll a.entries).insertAll b.entries with isFresh := false }

end Dict

end Tandem.Expr

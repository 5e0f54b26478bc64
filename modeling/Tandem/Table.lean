import Tandem.Text.Basic

set_option autoImplicit false

/-!
Tables from texts to values, with at most one value for a key. `toSorted` lists the entries by key.
-/

namespace Tandem

abbrev Table (α : Type) := List (Text × α)

namespace Table

variable {α : Type}

def empty : Table α := []

def find? (t : Table α) (key : Text) : Option α := t.lookup key

def contains (t : Table α) (key : Text) : Bool := (t.find? key).isSome

/-- Sets the value of a key, in place of the one it had. -/
def insert (t : Table α) (key : Text) (value : α) : Table α :=
  (key, value) :: t.filter fun entry => entry.1 != key

/-- Stores the entries in order, so the last value given for a key stays. -/
def insertAll (t : Table α) (entries : List (Text × α)) : Table α :=
  entries.foldl (fun t entry => t.insert entry.1 entry.2) t

def ofEntries (entries : List (Text × α)) : Table α := insertAll empty entries

def toSorted (t : Table α) : List (Text × α) := t.mergeSort fun a b => Text.le a.1 b.1

end Table

end Tandem

import Tandem.Table

set_option autoImplicit false

/-!
Values of a TOML document. Tables that are written as elements of an array under a header of their
own are told apart from those in an array value.
-/

namespace Tandem.Toml

inductive Value where
  | text (t : Text)
  | integer (n : Int64)
  | float (x : Float)
  | boolean (b : Bool)
  | moment (t : Text)
  | array (items : List Value)
  | table (entries : List (Text × Value))
  /-- The tables of an array of tables, the last one first. -/
  | tables (items : List (List (Text × Value)))

abbrev Entries := List (Text × Value)

namespace Value

/-- The table that a value is, which for an array of tables is its last one. -/
def asTable? : Value → Option Entries
  | .table entries => some entries
  | .tables (last :: _) => some last
  | _ => none

/-- Puts another table in the place of the one that a value is. -/
def withTable (entries : Entries) : Value → Value
  | .tables (_ :: others) => .tables (entries :: others)
  | _ => .table entries

end Value

namespace Entries

/-- Sets the value of a key. -/
def put (entries : Entries) (key : Text) (value : Value) : Entries :=
  if entries.any fun entry => entry.1 = key then
    entries.map fun entry => if entry.1 = key then (key, value) else entry
  else entries ++ [(key, value)]

/-- The table at the end of a path. -/
def descend? : Entries → List Text → Option Entries
  | entries, [] => some entries
  | entries, key :: rest => do
      let inner ← (← entries.lookup key).asTable?
      descend? inner rest

/-- Changes the table at the end of a path. -/
def modifyAt? (f : Entries → Option Entries) : Entries → List Text → Option Entries
  | entries, [] => f entries
  | entries, key :: rest => do
      let value ← entries.lookup key
      let inner ← modifyAt? f (← value.asTable?) rest
      some (put entries key (value.withTable inner))

end Entries

end Tandem.Toml

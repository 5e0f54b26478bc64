import Tandem.Expr.Dict
import Tandem.Expr.Term

set_option autoImplicit false

/-!
What values refer to while a script runs: lists, tables and functions by the places where they are
stored, and variables in frames, one for the script and one for every activation of a function. The
variables of a comprehension live in the frame that it runs in.

Running a script is a computation on the store that may fail.
-/

namespace Tandem.Expr

/-- Something that can be changed, unless loops are going through it. -/
structure Shared (α : Type) where
  content : α
  /-- How many loops are going through it. -/
  loops : Nat

def Shared.map {α : Type} (f : α → α) (x : Shared α) : Shared α := ⟨f x.content, x.loops⟩

/-- The variables of one frame: the number of the function or comprehension that binds them, their
names and their values. -/
abbrev Frame := List ((Nat × Text) × Value)

/-- The names that one function or comprehension binds, in one activation. -/
structure Group where
  frame : Nat
  number : Nat
  names : List Text

/-- A function: what it was defined as, the values of its defaults, and the variables around it. -/
structure Closure where
  number : Nat
  name : Text
  parameters : List Parameter
  defaults : List (Text × Value)
  names : List Text
  body : List Statement
  groups : List Group

structure Store where
  lists : Array (Shared (Array Value))
  dicts : Array (Shared Dict)
  functions : Array Closure
  frames : Array Frame
  /-- The variables of the script. -/
  globals : List (Text × Value)
  /-- How many methods have been taken from values. -/
  methods : Nat

namespace Store

def initial : Store := ⟨#[], #[], #[], #[[]], [], 0⟩

def list (s : Store) (place : Nat) : Array Value := (s.lists[place]?.map (·.content)).getD #[]

def dict (s : Store) (place : Nat) : Dict := (s.dicts[place]?.map (·.content)).getD .empty

end Store

/-- Sets the value of a key in a list of entries, in its old place or at the end. -/
def putEntry {κ ν : Type} [BEq κ] (key : κ) (value : ν) : List (κ × ν) → List (κ × ν)
  | [] => [(key, value)]
  | entry :: rest =>
      if entry.1 == key then (key, value) :: rest else entry :: putEntry key value rest

abbrev EvalM := StateT Store Option

namespace EvalM

def newList (items : Array Value) : EvalM Value := do
  let place := (← get).lists.size
  modify fun s => { s with lists := s.lists.push ⟨items, 0⟩ }
  pure (.list place)

def newDict (d : Dict) : EvalM Value := do
  let place := (← get).dicts.size
  modify fun s => { s with dicts := s.dicts.push ⟨d, 0⟩ }
  pure (.dict place)

def newFunction (f : Closure) : EvalM Value := do
  let place := (← get).functions.size
  modify fun s => { s with functions := s.functions.push f }
  pure (.function place)

def newMethod (receiver : Value) (name : Text) : EvalM Value := do
  let number := (← get).methods
  modify fun s => { s with methods := s.methods + 1 }
  pure (.method number receiver name)

def newFrame (frame : Frame) : EvalM Nat := do
  let place := (← get).frames.size
  modify fun s => { s with frames := s.frames.push frame }
  pure place

/-- Changes a list, unless a loop is going through it. -/
def changeList (place : Nat) (f : Array Value → Array Value) : EvalM Unit := do
  if (← get).lists[place]?.any (·.loops ≠ 0) then failure
  modify fun s => { s with lists := s.lists.modify place (Shared.map f) }

/-- Changes a table, unless a loop is going through it. -/
def changeDict (place : Nat) (f : Dict → Dict) : EvalM Unit := do
  if (← get).dicts[place]?.any (·.loops ≠ 0) then failure
  modify fun s => { s with dicts := s.dicts.modify place (Shared.map f) }

/-- Sets the value of a key of a table. -/
def putKey (place : Nat) (key value : Value) : EvalM Unit := do
  let slot ← ((← get).dict place).slot? key
  changeDict place (·.put slot key value)

/-- Takes a key out of a table, and gives its value if it was there. -/
def takeKey (place : Nat) (key : Value) : EvalM (Option Value) := do
  let d := (← get).dict place
  let victim ← d.victim? key
  let value := victim.bind fun i => (d.slots[i]?.join).map (·.2)
  changeDict place (·.eraseAt victim)
  pure value

/-- Notes that a loop goes through a value, or that it does so no longer. -/
def countLoops (f : Nat → Nat) : Value → EvalM Unit
  | .list place => modify fun s =>
      { s with lists := s.lists.modify place fun x => { x with loops := f x.loops } }
  | .dict place => modify fun s =>
      { s with dicts := s.dicts.modify place fun x => { x with loops := f x.loops } }
  | _ => pure ()

/-- Runs a computation while a loop goes through a value. -/
def looping {α : Type} (x : Value) (run : EvalM α) : EvalM α := do
  countLoops (· + 1) x
  let result ← run
  countLoops (· - 1) x
  pure result

end EvalM

end Tandem.Expr

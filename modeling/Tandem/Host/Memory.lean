import Tandem.Host.Basic
import Tandem.Path

set_option autoImplicit false

/-!
A host in memory: files by their absolute names, and what has been printed. A directory exists if it
leads to a file or to the working directory.
-/

namespace Tandem

/-- The components of an absolute file name, without `.` and `..`. -/
abbrev Location := List Text

structure Memory where
  workingDirectory : Location
  files : List (Location × Text)
  input : Text
  output : Text
  errors : Text

namespace Memory

/-- What a name leads to. -/
inductive Node where
  | file (content : Text)
  | directory
  | nothing
  deriving DecidableEq

def node (s : Memory) (location : Location) : Node :=
  match s.files.lookup location with
  | some content => .file content
  | none =>
      if location.isPrefixOf s.workingDirectory ||
          s.files.any (fun entry => location.isPrefixOf entry.1) then .directory
      else .nothing

/-- The longest name of a component, and of a file with its directories. -/
def componentLimit : Nat := 255

def nameLimit : Nat := 4096

/-- Follows components from a location. All but the last must lead to directories. -/
def walk (s : Memory) (location : Location) : List Text → Except FileError.Reason Location
  | [] => .ok location
  | c :: rest =>
      match s.node location with
      | .file _ => .error .notADirectory
      | .nothing =>
          -- A slash at the end asks for a directory.
          .error (if (c :: rest).all List.isEmpty then .isADirectory else .missing)
      | .directory =>
          if componentLimit < c.length then .error .nameTooLong
          else if c = [] ∨ c = Path.here then walk s location rest
          else if c = Path.up then walk s location.dropLast rest
          else walk s (location ++ [c]) rest

/-- The location that a name stands for. -/
def locate (s : Memory) (name : Text) : Except FileError.Reason Location :=
  if name.isEmpty then .error .missing
  else if name.contains 0 then .error .invalidName
  else if nameLimit ≤ name.length then .error .nameTooLong
  else s.walk (if Path.isAbsolute name then [] else s.workingDirectory) (Path.components name)

def contentOf (s : Memory) (name : Text) : Except FileError Text :=
  match s.locate name with
  | .error .isADirectory => .error ⟨.opening, name, .missing⟩
  | .error reason => .error ⟨.opening, name, reason⟩
  | .ok location =>
      match s.node location with
      | .file content => .ok content
      | .directory => .error ⟨.reading, name, .isADirectory⟩
      | .nothing => .error ⟨.opening, name, .missing⟩

def write (s : Memory) (location : Location) (content : Text) : Memory :=
  { s with files := (location, content) :: s.files.filter fun entry => entry.1 ≠ location }

def create (s : Memory) (name : Text) : Except FileError Memory :=
  match s.locate name with
  | .error reason => .error ⟨.opening, name, reason⟩
  | .ok location =>
      match s.node location with
      | .directory => .error ⟨.opening, name, .isADirectory⟩
      | _ => .ok (s.write location [])

def append (s : Memory) (name content : Text) : Memory :=
  match s.locate name with
  | .error _ => s
  | .ok location =>
      match s.node location with
      | .file old => s.write location (old ++ content)
      | _ => s

def host : Host (StateM Memory) where
  workingDirectory := do
    let s ← get
    return Path.render true s.workingDirectory
  readFile name := do
    let s ← get
    return s.contentOf name
  readInput := modifyGet fun s => (s.input, { s with input := [] })
  create name := modifyGet fun s =>
    match s.create name with
    | .ok s => (.ok (), s)
    | .error e => (.error e, s)
  append name content := modify fun s => s.append name content
  print text := modify fun s => { s with output := s.output ++ text }
  complain text := modify fun s => { s with errors := s.errors ++ text }

end Memory

end Tandem

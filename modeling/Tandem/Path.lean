import Tandem.Text.Basic

set_option autoImplicit false

/-!
File names. A name is a list of components with slashes between them; it is absolute if it starts
with a slash. The normal form of a name has no empty component, no `.`, and no `..` that could
cancel the component before it; at the root, `..` stays at the root.
-/

namespace Tandem.Path

def slash : UInt8 := 47

/-- The component that stands for the directory it is in. -/
def here : Text := [46]

/-- The component that stands for the directory above. -/
def up : Text := [46, 46]

def isAbsolute (name : Text) : Bool := name.head? = some slash

/-- What stands between the slashes, empty components included. -/
def components : Text → List Text
  | [] => [[]]
  | b :: rest =>
      if b = slash then [] :: components rest
      else match components rest with
        | [] => [[b]]
        | first :: others => (b :: first) :: others

/-- Adds a component to a normal list of components, which is kept last first. -/
def push (absolute : Bool) (done : List Text) (c : Text) : List Text :=
  if c = [] ∨ c = here then done
  else if c = up then
    match done with
    | [] => if absolute then [] else [up]
    | last :: before => if last = up then up :: last :: before else before
  else c :: done

/-- The components of the normal form. -/
def normalize (absolute : Bool) (cs : List Text) : List Text :=
  (cs.foldl (push absolute) []).reverse

/-- The name with the given components. -/
def render (absolute : Bool) (cs : List Text) : Text :=
  if absolute then slash :: Text.join [slash] cs
  else if cs.isEmpty then here else Text.join [slash] cs

/-- The normal form of a name; that of the empty name is `.`. -/
def clean (name : Text) : Text :=
  render (isAbsolute name) (normalize (isAbsolute name) (components name))

/-- A name inside a directory, in normal form. -/
def join (directory name : Text) : Text := clean (directory ++ slash :: name)

/-- The directory that a name is in. -/
def directory (name : Text) : Text :=
  clean (name.reverse.dropWhile (· ≠ slash)).reverse

end Tandem.Path

import Tandem.Expr.Argument
import Tandem.Expr.Term

set_option autoImplicit false

/-!
How the arguments of a call are bound to the parameters of a function. Every parameter
gets one value: by position, by name, or its default; arguments that are left need a
parameter that takes them.
-/

namespace Tandem.Expr

/-- The parameters before a star, after it, and the names of those that take what is left. -/
structure Signature where
  plain : List Text
  onlyNamed : List Text
  rest : Option Text
  restNamed : Option Text
  hasStar : Bool

/-- Values for parameters, and the arguments by name that are left. -/
structure Binding where
  values : List (Text × Value)
  unknown : List (Text × Value)

namespace Signature

def of (parameters : List Parameter) : Signature :=
  parameters.foldl (fun s p => match p with
    | .one name =>
        if s.hasStar then { s with onlyNamed := s.onlyNamed ++ [name] }
        else { s with plain := s.plain ++ [name] }
    | .onlyNamed => { s with hasStar := true }
    | .rest name => { s with rest := some name, hasStar := true }
    | .restNamed name => { s with restNamed := some name }) ⟨[], [], none, none, false⟩

def bind? (s : Signature) (defaults : List (Text × Value)) (a : Arguments) : Option Binding := do
  let positional := s.plain.zip a.plain
  let extra := a.plain.drop s.plain.length
  if !extra.isEmpty && s.rest.isNone then none
  let names := s.plain ++ s.onlyNamed
  let (known, unknown) := a.named.partition fun entry => names.contains entry.1
  if !unknown.isEmpty && s.restNamed.isNone then none
  let given := positional.map (·.1) ++ a.named.map (·.1)
  if given.eraseDups.length ≠ given.length then none
  let bound := positional ++ known
  let missing := names.filter fun name => !(bound.map (·.1)).contains name
  let filled ← missing.mapM fun name => (defaults.lookup name).map fun value => (name, value)
  let rest := s.rest.toList.map fun name => (name, Value.tuple extra)
  pure ⟨bound ++ filled ++ rest, unknown⟩

end Signature

end Tandem.Expr

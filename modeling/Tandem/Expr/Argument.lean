import Tandem.Expr.Value

set_option autoImplicit false

/-!
Arguments of a call and how functions of the language take them: by position alone, or by position
and by name.
-/

namespace Tandem.Expr

structure Arguments where
  plain : List Value
  named : List (Text × Value)

namespace Arguments

/-- The arguments if none is named and their number is within bounds. -/
def only? (a : Arguments) (least most : Nat) : Option (List Value) :=
  if a.named.isEmpty && least ≤ a.plain.length && a.plain.length ≤ most then some a.plain
  else none

/-- The one argument. -/
def one? (a : Arguments) : Option Value := (a.only? 1 1).bind List.head?

/-- The arguments for parameters with the given names, in their order; those that are left out, and
only the first `required` may not be, are `none`. -/
def byName? (a : Arguments) (names : List Text) (required : Nat) :
    Option (List (Option Value)) := do
  if names.length < a.plain.length then none
  let taken := names.take a.plain.length
  let given := a.named.map (·.1)
  if given.any fun t => taken.contains t || !names.contains t then none
  if given.eraseDups.length ≠ given.length then none
  let values := a.plain.map some ++ (names.drop a.plain.length).map (a.named.lookup ·)
  if (values.take required).any Option.isNone then none
  pure values

end Arguments

end Tandem.Expr

import Tandem.Text.Basic

set_option autoImplicit false

/-!
Terms and statements of the expression language. Every function and every comprehension carries a
number: no two functions of a script have the same one, and no two comprehensions.
-/

namespace Tandem.Expr

inductive UnaryOp where
  | plus
  | minus
  | invert
  deriving DecidableEq

inductive BinaryOp where
  | add
  | sub
  | mul
  | div
  | floorDiv
  | mod
  | bitAnd
  | bitOr
  | bitXor
  | shiftLeft
  | shiftRight
  | equal
  | notEqual
  | less
  | greater
  | lessEqual
  | greaterEqual
  | isIn
  | isNotIn
  deriving DecidableEq

/-- How an argument is passed: by position, by name, or as the items of a list or the entries of a
table. -/
inductive Passing where
  | plain
  | named (name : Text)
  | items
  | entries
  deriving DecidableEq

/-- A parameter takes one argument, or all that are left: by position or by name. The parameters
after `onlyNamed` or `rest` take arguments by name alone. -/
inductive Parameter where
  | one (name : Text)
  | onlyNamed
  | rest (name : Text)
  | restNamed (name : Text)
  deriving DecidableEq

mutual

inductive Term where
  | int (n : Int)
  | float (x : Float)
  | str (t : Text)
  | bytes (t : Text)
  | name (t : Text)
  | paren (x : Term)
  | list (items : List Term)
  | tuple (items : List Term)
  | dict (entries : List (Term × Term))
  | unary (op : UnaryOp) (x : Term)
  | binary (op : BinaryOp) (x y : Term)
  | negation (x : Term)
  | conjunction (x y : Term)
  | disjunction (x y : Term)
  | conditional (test yes no : Term)
  | index (x i : Term)
  | slice (x : Term) (low high step : Option Term)
  | attribute (x : Term) (name : Text)
  | call (f : Term) (arguments : List (Passing × Term))
  /-- A function; a parameter may have a default value. -/
  | function (number : Nat) (name : Text) (parameters : List (Parameter × Option Term))
      (body : List Statement)
  | listOf (number : Nat) (item : Term) (clauses : List Clause)
  | dictOf (number : Nat) (key value : Term) (clauses : List Clause)

inductive Clause where
  | each (target source : Term)
  | only (condition : Term)

inductive Statement where
  | pass
  | breakLoop
  | nextRound
  | give (value : Option Term)
  | term (x : Term)
  | assign (target value : Term)
  /-- An assignment that is joined with an operator. -/
  | augment (op : BinaryOp) (target value : Term)
  | branch (test : Term) (yes no : List Statement)
  | each (target source : Term) (body : List Statement)
  | repeatWhile (test : Term) (body : List Statement)
  /-- Takes names of another script, each under a name of this one. -/
  | load (names : List (Text × Text))

end

/-- A term without the parentheses around it. -/
def Term.bare : Term → Term
  | .paren x => x.bare
  | x => x

/-- The bytes of a byte string, or of a sum that starts with byte strings and goes on with them:
such a sum is a byte string by itself. -/
def Term.bytes? : Term → Option Text
  | .bytes t => some t
  | .paren x => x.bytes?
  | .binary .add x y =>
      match y.bare with
      | .bytes b => x.bytes?.map (· ++ b)
      | _ => none
  | _ => none

end Tandem.Expr

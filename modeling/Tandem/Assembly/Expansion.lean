import Tandem.Assembly.Error
import Tandem.Table

set_option autoImplicit false

/-!
Expressions inside a line. `$(` opens one, and the last `)` before the next `$`, or before the end
of the line, closes it; a `$(` without such a `)` is plain text. Every expression is replaced by the
decimal digits of its value.

How an expression is evaluated is left open: an `Evaluator` gets the equates that are numbers.
-/

namespace Tandem.Assembly

abbrev Evaluator := Table Int64 → Text → Except Expr.Failure Int64

inductive Piece where
  | plain (t : Text)
  | expression (t : Text)
  deriving DecidableEq

/-- What stands before and after the last closing parenthesis. -/
def splitLastParen (t : Text) : Option (Text × Text) :=
  match t.reverse.dropWhile (· ≠ 41) with
  | [] => none
  | _ :: before => some (before.reverse, (t.reverse.takeWhile (· ≠ 41)).reverse)

/-- Looks for the next `$(`; `before` holds the bytes in front of it, last first. -/
def splitOpening.loop (before : Text) : Text → Text × Option Text
  | [] => (before.reverse, none)
  | b :: rest =>
      if b = 36 ∧ rest.head? = some 40 then (before.reverse, some rest.tail)
      else loop (b :: before) rest

/-- The plain text up to the next `$(`, and what follows it. -/
def splitOpening (t : Text) : Text × Option Text := splitOpening.loop [] t

/-- Splits a line into plain texts and expressions; `size` bounds its length. -/
def pieces.loop : (size : Nat) → Text → List Piece
  | 0, _ => []
  | size + 1, line =>
      match splitOpening line with
      | (before, none) => [.plain before]
      | (before, some rest) =>
          let body := rest.takeWhile (· ≠ 36)
          let others := rest.drop body.length
          match splitLastParen body with
          | some (expression, after) =>
              .plain before :: .expression expression :: loop size (after ++ others)
          | none => .plain (before ++ 36 :: 40 :: body) :: loop size others

def pieces (line : Text) : List Piece := pieces.loop (line.length + 1) line

/-- Replaces the expressions from left to right; the first failure is the result. -/
def splice (evaluate : Text → Except Expr.Failure Int64) : List Piece → Except Cause Text
  | [] => .ok []
  | .plain t :: rest => (splice evaluate rest).map (t ++ ·)
  | .expression t :: rest =>
      match evaluate t with
      | .error failure => .error (.expression t failure)
      | .ok value => (splice evaluate rest).map (Text.decimal value.toInt ++ ·)

def expand (evaluate : Text → Except Expr.Failure Int64) (line : Text) : Except Cause Text :=
  splice evaluate (pieces line)

end Tandem.Assembly

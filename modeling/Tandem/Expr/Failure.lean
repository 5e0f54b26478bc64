import Tandem.Message

set_option autoImplicit false

/-!
Why an expression has no value that a program can use.
-/

namespace Tandem.Expr

inductive Failure where
  /-- The text is no expression. -/
  | malformed
  /-- The expression uses a name that has no meaning, or binds names wrongly. -/
  | unbound
  /-- The evaluation failed. -/
  | failed
  /-- The value is not an integer of 64 bits. -/
  | notAnInteger
  deriving DecidableEq

def Failure.message (expression : Text) : Failure → Text
  | .malformed => Message.format "$(%v) is malformed" [.text expression]
  | .unbound => Message.format "$(%v) uses an undefined name" [.text expression]
  | .failed => Message.format "$(%v) cannot be evaluated" [.text expression]
  | .notAnInteger => Message.format "$(%v) is not a valid expression" [.text expression]

end Tandem.Expr

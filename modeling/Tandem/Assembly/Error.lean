import Tandem.Expr.Failure

set_option autoImplicit false

/-!
What can be wrong with a source text. A `SyntaxError` locates its cause: for a missing label this is
the instruction that uses it, with its words, and for a line that cannot be read it is the line
before.
-/

namespace Tandem.Assembly

inductive Cause where
  | equateSyntax
  | equateDuplicate
  | labelDuplicate
  | labelInvalid
  | extraArguments
  | mnemonicMissing
  | mnemonicInvalid
  | valueMissing
  | registerInvalid
  | labelMissing (label : Text)
  | notANumber (word : Text)
  | notAValue (word : Text)
  | expression (text : Text) (failure : Expr.Failure)
  | lineTooLong
  /-- The source could not be read, for the reason given. -/
  | unreadable (reason : Text)
  deriving DecidableEq

def Cause.message : Cause → Text
  | .equateSyntax => ".equ syntax"
  | .equateDuplicate => ".equ duplicated"
  | .labelDuplicate => "label duplicated"
  | .labelInvalid => "label invalid"
  | .extraArguments => "excessive arguments"
  | .mnemonicMissing => "opcode missing"
  | .mnemonicInvalid => "opcode invalid"
  | .valueMissing => "value missing"
  | .registerInvalid => "register invalid"
  | .labelMissing label => Message.format "label %v missing" [.text label]
  | .notANumber word => Message.format "'%v' is not a number" [.text word]
  | .notAValue word => Message.format "'%v' is not a value or register" [.text word]
  | .expression text failure => failure.message text
  | .lineTooLong => "bufio.Scanner: token too long"
  | .unreadable reason => reason

structure SyntaxError where
  lineNo : Nat
  line : Text
  cause : Cause
  deriving DecidableEq

def SyntaxError.message (e : SyntaxError) : Text :=
  Message.format "line %d '%v' %v" [.integer e.lineNo, .text e.line, .text e.cause.message]

end Tandem.Assembly

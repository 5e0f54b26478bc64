import Tandem.Text.Basic

set_option autoImplicit false

/-!
Messages for people. A template is filled in from left to right: `%d`, `%v` and `%s` take the next
argument, `%%` is a percent sign. Integers are written with a comma before every third digit
counted from the right; texts go in as they are.
-/

namespace Tandem

inductive Message.Argument where
  | integer (n : Int)
  | text (t : Text)

namespace Message

/-- Puts a comma before every third digit; the digits come last first, and so does the result. -/
def groupReversed : Text → Text
  | a :: b :: c :: d :: rest => a :: b :: c :: 44 :: groupReversed (d :: rest)
  | t => t

def grouped (n : Int) : Text :=
  let digits := (groupReversed (Text.ofNat n.natAbs).reverse).reverse
  if n < 0 then 45 :: digits else digits

def Argument.render : Argument → Text
  | .integer n => grouped n
  | .text t => t

def format : Text → List Argument → Text
  | 37 :: b :: rest, arguments =>
      if b = 37 then 37 :: format rest arguments
      else match arguments with
        | a :: others => a.render ++ format rest others
        | [] => 37 :: b :: format rest []
  | b :: rest, arguments => b :: format rest arguments
  | [], _ => []

end Message

end Tandem

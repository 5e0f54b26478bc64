import Tandem.Machine.Instruction
import Tandem.Message

set_option autoImplicit false

/-!
Faults: why an instruction cannot be executed.
-/

namespace Tandem

inductive Fault.Reason where
  | unassigned
  | moduloByZero
  deriving DecidableEq

structure Fault where
  instruction : Instruction
  reason : Fault.Reason
  deriving DecidableEq

namespace Fault

/-- The instruction, and below it what is wrong, one cause to a line. -/
def message (f : Fault) : Text :=
  let head := Message.format "bad instruction '%v'" [.text f.instruction.text]
  match f.reason with
  | .unassigned => head ++ 10 :: Text.ofString "opcode invalid"
  | .moduloByZero => head ++ 10 :: Text.ofString "second operand\nmodulo by zero"

end Fault

end Tandem

import Tandem.Machine.Register

set_option autoImplicit false

/-!
Instructions. There are seven operations; an instruction word may also carry an operation number
that is assigned to none, and such an instruction can be stored and listed but not executed.

An operand word has a mode, a register field and a literal field, and its mode selects the field
that counts: mode 1 the register, every other mode the literal.
-/

namespace Tandem

inductive Op where
  | snd
  | rcv
  | set
  | add
  | mul
  | mod
  | jgz
  | unassigned (code : Int)
  deriving DecidableEq

namespace Op

def ofCode (code : Int) : Op :=
  if code = 0 then .snd
  else if code = 1 then .rcv
  else if code = 2 then .set
  else if code = 3 then .add
  else if code = 4 then .mul
  else if code = 5 then .mod
  else if code = 6 then .jgz
  else .unassigned code

def code : Op → Int
  | .snd => 0
  | .rcv => 1
  | .set => 2
  | .add => 3
  | .mul => 4
  | .mod => 5
  | .jgz => 6
  | .unassigned n => n

def text : Op → Text
  | .snd => "snd"
  | .rcv => "rcv"
  | .set => "set"
  | .add => "add"
  | .mul => "mul"
  | .mod => "mod"
  | .jgz => "jgz"
  | .unassigned n => Text.ofString "Op(" ++ Text.decimal n ++ Text.ofString ")"

end Op

structure Operand where
  mode : Int := 0
  register : RegisterName := ⟨0⟩
  literal : Int64 := 0
  deriving DecidableEq

namespace Operand

def registerMode : Int := 1

def ofLiteral (n : Int64) : Operand := ⟨0, ⟨0⟩, n⟩

def ofRegister (r : RegisterName) : Operand := ⟨registerMode, r, 0⟩

def isRegister (v : Operand) : Bool := v.mode = registerMode

/-- The value of an operand in the given registers. -/
def resolve (v : Operand) (rf : RegisterFile) : Int64 :=
  if v.isRegister then rf.get v.register else v.literal

def text (v : Operand) : Text :=
  if v.isRegister then v.register.text else Text.decimal v.literal.toInt

end Operand

structure Instruction where
  op : Op := .snd
  register : RegisterName := ⟨0⟩
  a : Operand := {}
  b : Operand := {}
  deriving DecidableEq

namespace Instruction

/-- Sends a value to the partner. -/
def snd (v : Operand) : Instruction := { op := .snd, a := v }

/-- Takes a value from the inbox into a register, or blocks. -/
def rcv (r : RegisterName) : Instruction := { op := .rcv, register := r }

def set (r : RegisterName) (v : Operand) : Instruction := { op := .set, register := r, a := v }

def add (r : RegisterName) (v : Operand) : Instruction := { op := .add, register := r, a := v }

def mul (r : RegisterName) (v : Operand) : Instruction := { op := .mul, register := r, a := v }

/-- Replaces a register by its remainder, which has the sign of the dividend. -/
def mod (r : RegisterName) (v : Operand) : Instruction := { op := .mod, register := r, a := v }

/-- Jumps by an offset if the tested value is above zero. -/
def jgz (test offset : Operand) : Instruction := { op := .jgz, a := test, b := offset }

/-- An instruction in assembler syntax: the operation, then the operands that it uses. -/
def text (ins : Instruction) : Text :=
  match ins.op with
  | .snd => ins.op.text ++ 32 :: ins.a.text
  | .rcv => ins.op.text ++ 32 :: ins.register.text
  | .set | .add | .mul | .mod => ins.op.text ++ 32 :: ins.register.text ++ 32 :: ins.a.text
  | .jgz => ins.op.text ++ 32 :: ins.a.text ++ 32 :: ins.b.text
  | .unassigned _ => ins.op.text

end Instruction

end Tandem

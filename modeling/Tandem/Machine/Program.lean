import Tandem.Machine.Instruction

set_option autoImplicit false

/-!
Programs: a sequence of instructions, each with the source line that it came from (0 if none), its
words, and the labels that its operands were linked to.
-/

namespace Tandem

structure CodeLine where
  instruction : Instruction
  lineNo : Nat := 0
  words : List Text := []
  linkA : Option Text := none
  linkB : Option Text := none
  deriving DecidableEq

/-- The labels of the operands, the first one first. -/
def CodeLine.links (line : CodeLine) : List Text := line.linkA.toList ++ line.linkB.toList

structure Program where
  code : Array CodeLine
  deriving DecidableEq

namespace Program

def empty : Program := ⟨#[]⟩

def ofInstructions (instructions : List Instruction) : Program :=
  ⟨(instructions.map fun ins => { instruction := ins }).toArray⟩

def size (p : Program) : Nat := p.code.size

/-- Whether a program counter addresses an instruction. -/
def contains (p : Program) (pc : Int64) : Bool := 0 ≤ pc.toInt && pc.toInt < p.size

def line? (p : Program) (pc : Int64) : Option CodeLine :=
  if p.contains pc then p.code[pc.toInt.toNat]? else none

def fetch? (p : Program) (pc : Int64) : Option Instruction := (p.line? pc).map (·.instruction)

/-- The source line of the instruction at a program counter, 0 outside the program. -/
def lineNo (p : Program) (pc : Int64) : Nat := ((p.line? pc).map (·.lineNo)).getD 0

def instructions (p : Program) : List Instruction := p.code.toList.map (·.instruction)

end Program

end Tandem

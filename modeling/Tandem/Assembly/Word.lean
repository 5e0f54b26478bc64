import Tandem.Assembly.Error
import Tandem.Machine.Program
import Tandem.Text.Numeral

set_option autoImplicit false

/-!
Words of an assembler line: labels, registers, operands, mnemonics, and the whole instruction that
they form.
-/

namespace Tandem.Assembly

def isLabelStart (b : UInt8) : Bool := Text.isLetter b || b = 95

def isLabelByte (b : UInt8) : Bool := isLabelStart b || Text.isDigit b || b = 46

/-- A label is a letter or underscore, followed by letters, digits, underscores and dots. -/
def isLabel : Text → Bool
  | [] => false
  | b :: rest => isLabelStart b && rest.all isLabelByte

/-- A register is written as one byte that neither starts a number nor marks a label. -/
def registerOf (word : Text) : Except Cause RegisterName :=
  match word with
  | [b] => if Numeral.startsNumber word || b = 64 then .error .registerInvalid else .ok ⟨b⟩
  | _ => .error .registerInvalid

/-- An operand, or a label that stands for the distance to it. -/
def operandOf (word : Text) : Except Cause (Operand × Option Text) :=
  match word with
  | 64 :: label => if isLabel label then .ok (.ofLiteral 0, some label) else .error .labelInvalid
  | _ =>
      if Numeral.startsNumber word then
        match Numeral.value? word with
        | some n => .ok (.ofLiteral n, none)
        | none => .error (.notANumber word)
      else match word with
        | [b] => .ok (.ofRegister ⟨b⟩, none)
        | _ => .error (.notAValue word)

/-- The operation of a mnemonic, in any letter case. -/
def mnemonic? (word : Text) : Option Op :=
  let word := Text.lower word
  [Op.snd, .rcv, .set, .add, .mul, .mod, .jgz].find? fun op => op.text = word

def arity : Op → Nat
  | .snd | .rcv => 1
  | _ => 2

/-- The operand words of an operation, read in order; the first wrong one gives the error. -/
def decode (op : Op) (operands : List Text) :
    Except Cause (Instruction × Option Text × Option Text) :=
  match op, operands with
  | .rcv, [x] => do
      let r ← registerOf x
      pure ({ op, register := r }, none, none)
  | .snd, [x] => do
      let (a, link) ← operandOf x
      pure ({ op, a }, link, none)
  | .jgz, [x, y] => do
      let (a, linkA) ← operandOf x
      let (b, linkB) ← operandOf y
      pure ({ op, a, b }, linkA, linkB)
  | _, [x, y] => do
      let r ← registerOf x
      let (a, link) ← operandOf y
      pure ({ op, register := r, a }, link, none)
  | _, _ => .error .valueMissing

/-- The code line of a mnemonic with its operands. -/
def codeLine (lineNo : Nat) (mnemonic : Text) (operands : List Text) : Except Cause CodeLine :=
  match mnemonic? mnemonic with
  | none =>
      .error <|
        if Text.startsWith mnemonic [46] || Numeral.startsNumber mnemonic then .mnemonicMissing
        else .mnemonicInvalid
  | some op =>
      if operands.length < arity op then .error .valueMissing
      else if arity op < operands.length then .error .extraArguments
      else do
        let (instruction, linkA, linkB) ← decode op operands
        pure { instruction, lineNo, words := mnemonic :: operands, linkA, linkB }

end Tandem.Assembly

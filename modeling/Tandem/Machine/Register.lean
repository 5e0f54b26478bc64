import Tandem.Text.Basic

set_option autoImplicit false

/-!
Registers. Any byte names a register, but only `a` to `z` have storage: the others read as zero and
writes to them are dropped. A dump lists the registers that are not zero.
-/

namespace Tandem

structure RegisterName where
  byte : UInt8
  deriving DecidableEq, Inhabited

namespace RegisterName

def count : Nat := 26

/-- The register that holds the id of its instance after a reset. -/
def pid : RegisterName := ⟨112⟩

/-- The storage cell of a register, if it has one. -/
def cell? (r : RegisterName) : Option (Fin 26) :=
  if h : 97 ≤ r.byte.toNat ∧ r.byte.toNat ≤ 122 then some ⟨r.byte.toNat - 97, by omega⟩
  else none

def isStored (r : RegisterName) : Bool := r.cell?.isSome

def ofCell (i : Fin 26) : RegisterName := ⟨(97 + i.val).toUInt8⟩

/-- A register is written as the character whose code point is its byte. -/
def text (r : RegisterName) : Text := Text.ofCodePoint r.byte.toNat

end RegisterName

structure RegisterFile where
  cells : Vector Int64 26
  deriving DecidableEq

namespace RegisterFile

def zero : RegisterFile := ⟨Vector.replicate 26 0⟩

def get (rf : RegisterFile) (r : RegisterName) : Int64 :=
  match r.cell? with
  | some i => rf.cells[i]
  | none => 0

def set (rf : RegisterFile) (r : RegisterName) (value : Int64) : RegisterFile :=
  match r.cell? with
  | some i => ⟨rf.cells.set i.val value⟩
  | none => rf

/-- All stored registers in order, with their values. -/
def entries (rf : RegisterFile) : List (RegisterName × Int64) :=
  (List.finRange 26).map fun i => (RegisterName.ofCell i, rf.cells[i])

/-- The word for a register and its value, as in `a=1`. -/
def entryText (entry : RegisterName × Int64) : Text :=
  entry.1.text ++ 61 :: Text.decimal entry.2.toInt

/-- Adds the word for a register to a dump, after a space unless it is the first one. A register
that is zero has no word. -/
def addEntry (dump : Text) (entry : RegisterName × Int64) : Text :=
  if entry.2 = 0 then dump
  else if dump.isEmpty then entryText entry
  else dump ++ 32 :: entryText entry

/-- The registers that are not zero, as in `a=1 p=1`. -/
def text (rf : RegisterFile) : Text := rf.entries.foldl addEntry []

end RegisterFile

end Tandem

import Tandem.Machine.Instruction

set_option autoImplicit false

/-!
Registers and the instructions that use them. Different registers have different cells, so
storing in one leaves the others as they are; and an operand that does not name a register
does not depend on it.
-/

namespace Tandem

def Operand.registers (v : Operand) : List RegisterName :=
  if v.isRegister then [v.register] else []

/-- The registers that an instruction uses. -/
def Instruction.registers (ins : Instruction) : List RegisterName :=
  match ins.op with
  | .snd => ins.a.registers
  | .rcv => [ins.register]
  | .set | .add | .mul | .mod => ins.register :: ins.a.registers
  | .jgz => ins.a.registers ++ ins.b.registers
  | .unassigned _ => []

theorem RegisterName.val_of_cell? {r : RegisterName} {i : Fin 26} (stored : r.cell? = some i) :
    r.byte.toNat = 97 + i.val := by
  unfold cell? at stored
  split at stored
  next range =>
    cases stored
    simp only
    omega
  next => contradiction

theorem RegisterName.eq_of_cell? {r s : RegisterName} {i : Fin 26} (stored : r.cell? = some i)
    (alsoStored : s.cell? = some i) : r = s := by
  obtain ⟨byte⟩ := r
  obtain ⟨otherByte⟩ := s
  have sameNumber : byte.toNat = otherByte.toNat :=
    (val_of_cell? stored).trans (val_of_cell? alsoStored).symm
  rw [UInt8.toNat_inj.mp sameNumber]

theorem RegisterName.val_ne_of_cell? {r s : RegisterName} {i j : Fin 26} (different : r ≠ s)
    (stored : r.cell? = some i) (alsoStored : s.cell? = some j) : i.val ≠ j.val := by
  intro same
  apply different
  rw [Fin.ext same] at stored
  exact eq_of_cell? stored alsoStored

theorem RegisterName.isStored_iff (r : RegisterName) :
    r.isStored = true ↔ 97 ≤ r.byte ∧ r.byte ≤ 122 := by
  have bounds :
      (97 ≤ r.byte ∧ r.byte ≤ 122) ↔ 97 ≤ r.byte.toNat ∧ r.byte.toNat ≤ 122 := by
    rw [UInt8.le_iff_toNat_le, UInt8.le_iff_toNat_le]
    rfl
  rw [bounds, isStored, cell?]
  split
  next inside => simp [inside]
  next outside => simp [outside]

namespace RegisterFile

variable (rf : RegisterFile) {r s : RegisterName}

@[simp]
theorem get_set_self (stored : r.isStored = true) (value : Int64) :
    (rf.set r value).get r = value := by
  obtain ⟨i, found⟩ := Option.isSome_iff_exists.mp stored
  simp [set, get, found]

@[simp]
theorem set_of_not_isStored (dropped : r.isStored = false) (value : Int64) :
    rf.set r value = rf := by
  have none : r.cell? = none := by simpa [RegisterName.isStored] using dropped
  simp [set, none]

@[simp]
theorem get_set_of_ne (different : r ≠ s) (value : Int64) :
    (rf.set r value).get s = rf.get s := by
  unfold set get
  cases stored : r.cell? with
  | none => rfl
  | some i =>
      cases alsoStored : s.cell? with
      | none => rfl
      | some j =>
          exact Vector.getElem_set_ne i.isLt j.isLt
            (RegisterName.val_ne_of_cell? different stored alsoStored)

@[simp]
theorem set_set (r : RegisterName) (first second : Int64) :
    (rf.set r first).set r second = rf.set r second := by
  unfold set
  cases r.cell? with
  | none => rfl
  | some i => exact congrArg RegisterFile.mk (Vector.set_set first i.isLt)

theorem set_comm (different : r ≠ s) (first second : Int64) :
    (rf.set r first).set s second = (rf.set s second).set r first := by
  unfold set
  cases stored : r.cell? with
  | none => rfl
  | some i =>
      cases alsoStored : s.cell? with
      | none => rfl
      | some j =>
          exact congrArg RegisterFile.mk (Vector.set_comm first second
            (RegisterName.val_ne_of_cell? different stored alsoStored))

end RegisterFile

theorem Operand.resolve_set_of_not_mem {v : Operand} {r : RegisterName} (unused : r ∉ v.registers)
    (rf : RegisterFile) (value : Int64) : v.resolve (rf.set r value) = v.resolve rf := by
  unfold resolve
  by_cases named : v.isRegister = true
  · rw [if_pos named, if_pos named]
    apply RegisterFile.get_set_of_ne
    intro same
    apply unused
    simp [registers, named, same]
  · rw [if_neg named, if_neg named]

end Tandem

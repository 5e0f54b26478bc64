import Tandem.Proofs.Assembly.Layout
import Tandem.Proofs.Text.Blank
import Tandem.Proofs.Text.Decimal

set_option autoImplicit false

/-!
How instructions are written. The text of an instruction is a row of words that the assembler takes
as they are: no comment or expression starts in one, and none is an equate. They spell a statement
without labels, whose instruction is the one that was written.
-/

namespace Tandem

/-- A register with a name that cannot be taken for anything else. -/
def RegisterName.IsPlain (r : RegisterName) : Prop :=
  Text.IsSolid r.byte ∧ Text.isDigit r.byte = false ∧ r.byte ≠ 64 ∧ r.byte ≠ 59

inductive Operand.IsPlain : Operand → Prop where
  | literal (n : Int64) : IsPlain (.ofLiteral n)
  | register {r : RegisterName} : r.IsPlain → IsPlain (.ofRegister r)

inductive Instruction.IsPlain : Instruction → Prop where
  | snd {v : Operand} : v.IsPlain → IsPlain (.snd v)
  | rcv {r : RegisterName} : r.IsPlain → IsPlain (.rcv r)
  | set {r : RegisterName} {v : Operand} : r.IsPlain → v.IsPlain → IsPlain (.set r v)
  | add {r : RegisterName} {v : Operand} : r.IsPlain → v.IsPlain → IsPlain (.add r v)
  | mul {r : RegisterName} {v : Operand} : r.IsPlain → v.IsPlain → IsPlain (.mul r v)
  | mod {r : RegisterName} {v : Operand} : r.IsPlain → v.IsPlain → IsPlain (.mod r v)
  | jgz {test offset : Operand} : test.IsPlain → offset.IsPlain → IsPlain (.jgz test offset)

namespace Assembly

/-- An expression may start in the text. -/
def HasOpening (t : Text) : Prop := ∃ before after, t = before ++ 36 :: 40 :: after

/-- A word that stands for itself. -/
structure IsWord (word : Text) : Prop where
  nonempty : word ≠ []
  solid : ∀ b ∈ word, Text.IsSolid b
  noComment : 59 ∉ word
  noOpening : ¬ HasOpening word
  noEquate : word ≠ lineNumberName
  short : word.length ≤ 20

/-! ### Words -/

theorem not_hasOpening_of_not_mem {t : Text} (noDollar : 36 ∉ t) : ¬ HasOpening t := by
  rintro ⟨before, after, rfl⟩
  exact noDollar (by simp)

theorem isWord_mnemonic {op : Op} (assigned : op ∈ assignedOps) :
    IsWord op.text := by
  have noDollar : ∀ op ∈ assignedOps, 36 ∉ op.text := by decide
  refine ⟨?_, ?_, ?_, not_hasOpening_of_not_mem (noDollar op assigned), ?_, ?_⟩
  all_goals
    revert assigned op
    decide +kernel

theorem text_of_ascii {r : RegisterName} (ascii : r.byte < 128) : r.text = [r.byte] := by
  have all : ∀ n : Fin 128, Text.ofCodePoint n = [n.val.toUInt8] := by decide +kernel
  have same : r.byte.toNat.toUInt8 = r.byte := by simp
  rw [RegisterName.text, all ⟨r.byte.toNat, UInt8.lt_iff_toNat_lt.mp ascii⟩, same]

theorem isWord_register {r : RegisterName} (plain : r.IsPlain) : IsWord r.text := by
  obtain ⟨solid, _, _, notComment⟩ := plain
  rw [text_of_ascii solid.1]
  refine ⟨by simp, by simpa using solid, by simpa using Ne.symm notComment, ?_, ?_, by simp⟩
  · rintro ⟨before, after, split⟩
    have length := congrArg List.length split
    simp at length
    omega
  · intro same
    have length : 1 = lineNumberName.length := congrArg List.length same
    exact absurd length (by decide)

theorem mem_decimal {n : Int} {b : UInt8} (listed : b ∈ Text.decimal n) :
    b = 45 ∨ Text.isDigit b = true := by
  unfold Text.decimal at listed
  split at listed
  · rcases List.mem_cons.mp listed with sign | digit
    · exact .inl sign
    · exact .inr (Text.isDigit_of_mem_ofNat _ b digit)
  · exact .inr (Text.isDigit_of_mem_ofNat _ b listed)

theorem isSolid_of_isDigit {b : UInt8} (digit : Text.isDigit b = true) : Text.IsSolid b := by
  simp only [Text.isDigit, Bool.and_eq_true, decide_eq_true_eq] at digit
  unfold Text.IsSolid
  grind

theorem length_decimal_le (n : Int64) : (Text.decimal n.toInt).length ≤ 20 := by
  have lower := Int64.le_toInt n
  have upper := Int64.toInt_lt n
  have bounded : n.toInt.natAbs < Nat.pow 10 (18 + 1) := by
    have power : Nat.pow 10 (18 + 1) = 10000000000000000000 := by decide
    omega
  have digits := Text.length_ofNat_le bounded
  unfold Text.decimal
  split
  · rw [List.length_cons]
    omega
  · omega

theorem isWord_decimal (n : Int64) : IsWord (Text.decimal n.toInt) where
  nonempty := by
    unfold Text.decimal
    split
    · simp
    · exact Text.ofNat_ne_nil _
  solid := by
    intro b listed
    rcases mem_decimal listed with rfl | digit
    · decide
    · exact isSolid_of_isDigit digit
  noComment := fun listed => absurd (mem_decimal listed) (by decide)
  noOpening := not_hasOpening_of_not_mem fun listed => absurd (mem_decimal listed) (by decide)
  noEquate := by
    intro same
    have letter : 76 ∈ Text.decimal n.toInt := by
      rw [same]
      decide
    exact absurd (mem_decimal letter) (by decide)
  short := length_decimal_le n

theorem namesRegister_text {r : RegisterName} (plain : r.IsPlain) : NamesRegister r.text r := by
  obtain ⟨solid, notDigit, notLabel, _⟩ := plain
  exact ⟨text_of_ascii solid.1, notDigit, notLabel⟩

theorem denotes_decimal (n : Int64) : Denotes (Text.decimal n.toInt) (.literal n) :=
  .literal (Numeral.startsNumber_decimal n.toInt) (Numeral.value?_decimal n)

theorem exists_denotes_text {v : Operand} (plain : v.IsPlain) :
    ∃ value, Denotes v.text value ∧ value.label? = none ∧
      ∀ distance, value.operand distance = v := by
  cases plain with
  | literal n => exact ⟨.literal n, denotes_decimal n, rfl, fun _ => rfl⟩
  | @register r plain =>
      exact ⟨.register r, .register (namesRegister_text plain), rfl, fun _ => rfl⟩

theorem isWord_operand {v : Operand} (plain : v.IsPlain) : IsWord v.text := by
  cases plain with
  | literal n => exact isWord_decimal n
  | register plain => exact isWord_register plain

/-! ### Instructions -/

/-- An entry that an instruction is written as. -/
structure Entry.Writes (e : Entry) (ins : Instruction) : Prop where
  text : ins.text = Text.join [32] e.words
  words : ∀ word ∈ e.words, IsWord word
  few : e.words.length ≤ 3
  mnemonic : ∃ op ∈ assignedOps, e.words.head? = some op.text
  spells : Spells e.words e.statement
  labels : e.statement.labels = []
  instruction : ∀ distance, e.statement.instruction distance = ins

theorem exists_writes_update (u : Update) {r : RegisterName} {v : Operand} (plain : r.IsPlain)
    (plainValue : v.IsPlain) : ∃ e : Entry, e.Writes { op := u.op, register := r, a := v } := by
  obtain ⟨value, denotes, noLabel, operand⟩ := exists_denotes_text plainValue
  have assigned : u.op ∈ assignedOps := by cases u <;> decide
  have lowered : Text.lower u.op.text = u.op.text := by cases u <;> decide
  refine ⟨⟨[u.op.text, r.text, v.text], .update u r value⟩, ?_, ?_, Nat.le_refl 3,
    ⟨u.op, assigned, rfl⟩, .update lowered (namesRegister_text plain) denotes, ?_, ?_⟩
  · cases u <;> simp [Instruction.text, Update.op, Text.join]
  · simpa using ⟨isWord_mnemonic assigned, isWord_register plain, isWord_operand plainValue⟩
  · simp [Statement.labels, Statement.arguments, noLabel]
  · intro distance
    rw [Statement.instruction, operand]

theorem exists_writes {ins : Instruction} (plain : ins.IsPlain) : ∃ e : Entry, e.Writes ins := by
  cases plain with
  | @snd v plain =>
      obtain ⟨value, denotes, noLabel, operand⟩ := exists_denotes_text plain
      have assigned : Op.snd ∈ assignedOps := by decide
      refine ⟨⟨[Op.snd.text, v.text], .snd value⟩, ?_, ?_, by simp, ⟨.snd, assigned, rfl⟩,
        .snd (by decide) denotes, ?_, ?_⟩
      · simp [Instruction.text, Instruction.snd, Text.join]
      · simpa using ⟨isWord_mnemonic assigned, isWord_operand plain⟩
      · simp [Statement.labels, Statement.arguments, noLabel]
      · intro distance
        rw [Statement.instruction, operand]
  | @rcv r plain =>
      have assigned : Op.rcv ∈ assignedOps := by decide
      refine ⟨⟨[Op.rcv.text, r.text], .rcv r⟩, ?_, ?_, by simp, ⟨.rcv, assigned, rfl⟩,
        .rcv (by decide) (namesRegister_text plain), rfl, fun _ => rfl⟩
      · simp [Instruction.text, Instruction.rcv, Text.join]
      · simpa using ⟨isWord_mnemonic assigned, isWord_register plain⟩
  | set plain plainValue => exact exists_writes_update .set plain plainValue
  | add plain plainValue => exact exists_writes_update .add plain plainValue
  | mul plain plainValue => exact exists_writes_update .mul plain plainValue
  | mod plain plainValue => exact exists_writes_update .mod plain plainValue
  | @jgz test offset plainTest plainOffset =>
      obtain ⟨first, denotesFirst, noLabelFirst, operandFirst⟩ := exists_denotes_text plainTest
      obtain ⟨second, denotesSecond, noLabelSecond, operandSecond⟩ :=
        exists_denotes_text plainOffset
      have assigned : Op.jgz ∈ assignedOps := by decide
      refine ⟨⟨[Op.jgz.text, test.text, offset.text], .jgz first second⟩, ?_, ?_,
        Nat.le_refl 3, ⟨.jgz, assigned, rfl⟩, .jgz (by decide) denotesFirst denotesSecond, ?_,
        ?_⟩
      · simp [Instruction.text, Instruction.jgz, Text.join]
      · simpa using ⟨isWord_mnemonic assigned, isWord_operand plainTest,
          isWord_operand plainOffset⟩
      · simp [Statement.labels, Statement.arguments, noLabelFirst, noLabelSecond]
      · intro distance
        rw [Statement.instruction, operandFirst, operandSecond]

end Assembly

end Tandem

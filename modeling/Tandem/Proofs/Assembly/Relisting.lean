import Tandem.Proofs.Assembly.Listing
import Tandem.Proofs.Machine.Registers
import Tandem.Proofs.Text.Utf8

set_option autoImplicit false

/-!
Which assembled programs can be assembled again from their listings. A register is one byte,
and a listing shows it as the character with that number. Below 128 this is the byte itself,
and the listing is read back. From 128 on it is two bytes, which name no register. A source in
UTF-8 has no such register.
-/

namespace Tandem

namespace Assembly

/-- A program that is read back from its listing. -/
def Relists (evaluator : Evaluator) (p : Program) : Prop :=
  ∃ q, (assemble evaluator [] p.listingText).program = .ok q ∧ q.instructions = p.instructions

/-! ### The registers of a statement -/

theorem namesRegister_of_denotes {word : Text} {value : Argument} (denotes : Denotes word value)
    {distance : Text → Int64} {r : RegisterName}
    (used : r ∈ (value.operand distance).registers) :
    NamesRegister word r := by
  cases denotes with
  | literal _ _ => contradiction
  | register named =>
      have same := List.mem_singleton.mp used
      subst same
      exact named
  | label _ => contradiction

theorem exists_word_of_register {words : List Text} {statement : Statement}
    (spells : Spells words statement) {distance : Text → Int64} {r : RegisterName}
    (used : r ∈ (statement.instruction distance).registers) :
    ∃ word ∈ words, NamesRegister word r := by
  cases spells with
  | @snd _ x _ _ denotes => exact ⟨x, by simp, namesRegister_of_denotes denotes used⟩
  | @rcv _ x _ _ named =>
      have same := List.mem_singleton.mp used
      subst same
      exact ⟨x, by simp, named⟩
  | @update _ x y u target value _ named denotes =>
      have either : r = target ∨ r ∈ (value.operand distance).registers := by
        cases u <;> exact List.mem_cons.mp used
      rcases either with rfl | inValue
      · exact ⟨x, by simp, named⟩
      · exact ⟨y, by simp, namesRegister_of_denotes denotes inValue⟩
  | @jgz _ x y _ _ _ test offset =>
      rcases List.mem_append.mp used with inTest | inOffset
      · exact ⟨x, by simp, namesRegister_of_denotes test inTest⟩
      · exact ⟨y, by simp, namesRegister_of_denotes offset inOffset⟩

theorem isPlain_operand {value : Argument} {distance : Text → Int64}
    (plain : ∀ r ∈ (value.operand distance).registers, r.IsPlain) :
    (value.operand distance).IsPlain := by
  cases value with
  | literal n => exact .literal n
  | register r => exact .register (plain r (List.mem_singleton.mpr rfl))
  | label name => exact .literal _

theorem isPlain_instruction {statement : Statement} {distance : Text → Int64}
    (plain : ∀ r ∈ (statement.instruction distance).registers, r.IsPlain) :
    (statement.instruction distance).IsPlain := by
  cases statement with
  | snd value => exact .snd (isPlain_operand plain)
  | rcv r => exact .rcv (plain r (List.mem_singleton.mpr rfl))
  | update u r value =>
      cases u
      all_goals
        obtain ⟨plainTarget, plainValue⟩ := List.forall_mem_cons.mp plain
        constructor
        · exact plainTarget
        · exact isPlain_operand plainValue
  | jgz test offset =>
      obtain ⟨plainTest, plainOffset⟩ := List.forall_mem_append.mp plain
      exact .jgz (isPlain_operand plainTest) (isPlain_operand plainOffset)

/-! ### The words that are kept

What a line leaves behind are words of its own, words of equates above it and its number. So
what holds of the words of all lines and of all numerals holds of every word that an
instruction is made of. -/

section

variable {P : Text → Prop}

def Line.Keeps (P : Text → Prop) : Line → Prop
  | .equate _ word => P word
  | .code _ none => True
  | .code _ (some entry) =>
      (∀ word ∈ entry.words, P word) ∧ Spells entry.words entry.statement

theorem holds_substitute {scope : Table Text} (inScope : ∀ entry ∈ scope, P entry.2)
    {word : Text} (holds : P word) : P (substitute scope word) := by
  unfold substitute
  cases found : scope.find? word with
  | none => exact holds
  | some replacement => exact inScope _ (Table.mem_of_find? found)

theorem keeps_of_reads {scope : Table Text} (inScope : ∀ entry ∈ scope, P entry.2)
    {words : List Text} (holds : ∀ word ∈ words, P word) {line : Line}
    (reads : Reads scope words line) : line.Keeps P := by
  cases reads with
  | equate _ _ _ => exact holds _ (by simp)
  | labels _ => trivial
  | @instruction labels first rest _ _ _ _ spells =>
      refine ⟨?_, spells⟩
      intro word listed
      obtain ⟨written, inLine, rfl⟩ := List.mem_map.mp listed
      exact holds_substitute inScope (holds written (List.mem_append_right _ inLine))

theorem holds_scopeAfter (numerals : ∀ n, P (Text.ofNat n)) {above : List Line}
    (kept : ∀ line ∈ above, line.Keeps P) : ∀ entry ∈ scopeAfter [] above, P entry.2 := by
  intro entry listed
  rcases List.mem_cons.mp listed with rfl | inEquates
  · exact numerals _
  · have inLines : entry ∈ above.filterMap Line.equate? := by
      simpa [equatesOf, Table.ofEntries, Table.insertAll, Table.empty] using inEquates
    obtain ⟨line, isAbove, equates⟩ := List.mem_filterMap.mp inLines
    cases line with
    | equate name word =>
        cases equates
        exact kept _ isAbove
    | code _ _ => contradiction

/-- The words of a source line, whatever its expressions have for values. -/
def HoldsIn (P : Text → Prop) (text : Text) : Prop :=
  ∀ evaluate expanded, Expanded evaluate (text.takeWhile (· ≠ 59)) expanded →
    ∀ word ∈ Text.words expanded, P word

theorem keeps_of_readsAll (numerals : ∀ n, P (Text.ofNat n)) {evaluator : Evaluator}
    {above lines : List Line} {texts : List Text} (reads : ReadsAll evaluator [] above texts lines)
    (holds : ∀ text ∈ texts, HoldsIn P text) (kept : ∀ line ∈ above, line.Keeps P) :
    ∀ line ∈ lines, line.Keeps P := by
  induction reads with
  | nil => simp
  | @cons above lines line text texts readsText _ inductionHypothesis =>
      obtain ⟨holdsHere, holdsBelow⟩ := List.forall_mem_cons.mp holds
      obtain ⟨expanded, expansion, reads⟩ := readsText
      have keptHere : line.Keeps P :=
        keeps_of_reads (holds_scopeAfter numerals kept) (holdsHere _ expanded expansion) reads
      refine List.forall_mem_cons.mpr ⟨keptHere, inductionHypothesis holdsBelow ?_⟩
      exact List.forall_mem_append.mpr ⟨kept, by simpa using keptHere⟩


end

/-! ### The code of a program -/

theorem length_read_loop_le (line : Text) (size : Nat) (t : Text) :
    (Source.read.loop line size t).lines.length ≤ t.length + min size 1 := by
  induction t generalizing line size with
  | nil =>
      unfold Source.read.loop
      split
      · exact Nat.zero_le _
      · split
        · exact Nat.zero_le _
        · simp only [List.length_cons, List.length_nil]
          omega
  | cons b rest inductionHypothesis =>
      unfold Source.read.loop
      split
      · split
        · exact Nat.zero_le _
        · have below := inductionHypothesis [] 0
          simp only [List.length_cons]
          omega
      · have below := inductionHypothesis (b :: line) (size + 1)
        simp only [List.length_cons]
        omega

theorem length_readsAll {evaluator : Evaluator} {above lines : List Line} {texts : List Text}
    (reads : ReadsAll evaluator [] above texts lines) : lines.length = texts.length := by
  induction reads with
  | nil => rfl
  | cons _ _ inductionHypothesis => simp [inductionHypothesis]

theorem length_entriesOf_le (lines : List Line) : (entriesOf lines).length ≤ lines.length := by
  have shorter := List.length_filterMap_le
    (fun line : Line × Nat => line.1.instruction?.map fun entry => (entry, line.2))
      (lines.zipIdx 1)
  rw [List.length_zipIdx] at shorter
  exact shorter

section

variable {evaluator : Evaluator} {source : Text} {p : Program}

theorem size_le_length (assembled : (assemble evaluator [] source).program = .ok p) :
    p.size ≤ source.length ∧ ∀ line ∈ p.code.toList, line.lineNo ≤ source.length := by
  obtain ⟨lines, reads, _, _, rfl, _⟩ := exists_layout assembled
  have few : lines.length ≤ source.length := by
    rw [length_readsAll reads]
    exact length_read_loop_le [] 0 source
  constructor
  · have fewer := length_entriesOf_le lines
    simp only [Program.size, programOf, List.size_toArray, List.length_map, List.length_zipIdx]
    omega
  · intro line listed
    obtain ⟨entry, number, distance, inEntries, rfl⟩ := exists_entry_of_codeLine listed
    exact Nat.le_trans (exists_line_of_entry inEntries).1 few

theorem isPlain_of_registers (assembled : (assemble evaluator [] source).program = .ok p) :
    ∀ line ∈ p.code.toList, (∀ r ∈ line.instruction.registers, r.IsPlain) →
      line.instruction.IsPlain := by
  intro line listed plain
  obtain ⟨lines, _, _, _, rfl, _⟩ := exists_layout assembled
  obtain ⟨entry, number, distance, _, rfl⟩ := exists_entry_of_codeLine listed
  exact isPlain_instruction plain

/-- A register is the only byte of some word that is kept. -/
theorem holds_register {P : Text → Prop} (numerals : ∀ n, P (Text.ofNat n))
    (holds : ∀ text ∈ (Source.read source).lines, HoldsIn P text)
    (assembled : (assemble evaluator [] source).program = .ok p) :
    ∀ line ∈ p.code.toList, ∀ r ∈ line.instruction.registers,
      P [r.byte] ∧ Text.isDigit r.byte = false ∧ r.byte ≠ 64 := by
  intro line listed r used
  obtain ⟨lines, reads, _, _, rfl, _⟩ := exists_layout assembled
  obtain ⟨entry, number, distance, inEntries, rfl⟩ := exists_entry_of_codeLine listed
  obtain ⟨_, source, inLines, instructs⟩ := exists_line_of_entry inEntries
  have kept := keeps_of_readsAll numerals reads holds (by simp) source inLines
  cases source with
  | equate _ _ => contradiction
  | code labels entry? =>
      cases instructs
      obtain ⟨holdsWords, spells⟩ := kept
      obtain ⟨word, inEntry, named⟩ := exists_word_of_register spells used
      obtain ⟨rfl, admitted⟩ := named
      exact ⟨holdsWords _ inEntry, admitted⟩

end

/-! ### Registers below 128 -/

/-- A byte that neither ends a word nor starts a comment. -/
def IsInside (b : UInt8) : Prop := b ≠ 59 ∧ ¬ (9 ≤ b ∧ b ≤ 13) ∧ b ≠ 32

theorem mem_of_expanded {evaluate : Text → Except Expr.Failure Int64} {t result : Text}
    (expanded : Expanded evaluate t result) {b : UInt8} (listed : b ∈ result) :
    b ∈ t ∨ b = 45 ∨ Text.isDigit b = true := by
  induction expanded with
  | plain _ => exact .inl listed
  | replaced first _ _ inductionHypothesis =>
      rw [first.occurs.1]
      simp only [List.mem_append, List.mem_cons] at listed ⊢
      rcases listed with (inBefore | inValue) | inRest
      · exact .inl (.inl inBefore)
      · exact .inr (mem_decimal inValue)
      · rcases inductionHypothesis inRest with inAfter | inValue
        · exact .inl (by simp [inAfter])
        · exact .inr inValue

theorem isInside_of_isDigit {b : UInt8} (digit : Text.isDigit b = true) : IsInside b := by
  obtain ⟨_, notBlank, notSpace⟩ := isSolid_of_isDigit digit
  refine ⟨?_, notBlank, notSpace⟩
  rintro rfl
  contradiction

theorem holdsIn_isInside (text : Text) : HoldsIn (fun word => ∀ b ∈ word, IsInside b) text := by
  intro evaluate expanded expansion word listed b inWord
  obtain ⟨inText, notBlank, notSpace⟩ := Text.mem_words listed inWord
  refine ⟨?_, notBlank, notSpace⟩
  rintro rfl
  rcases mem_of_expanded expansion inText with inCode | value
  · have kept := List.all_eq_true.mp List.all_takeWhile _ inCode
    contradiction
  · exact absurd value (by decide)

theorem isPlain_of_ascii {evaluator : Evaluator} {source : Text} {p : Program}
    (assembled : (assemble evaluator [] source).program = .ok p)
    (ascii : ∀ ins ∈ p.instructions, ∀ r ∈ ins.registers, r.byte < 128) :
    ∀ line ∈ p.code.toList, line.instruction.IsPlain := by
  have numerals : ∀ n, ∀ b ∈ Text.ofNat n, IsInside b := fun n b listed =>
    isInside_of_isDigit (Text.isDigit_of_mem_ofNat n b listed)
  have registers := holds_register numerals (fun text _ => holdsIn_isInside text) assembled
  intro line listed
  apply isPlain_of_registers assembled line listed
  intro r used
  obtain ⟨inside, notDigit, notLabel⟩ := registers line listed r used
  obtain ⟨notComment, solid⟩ := inside r.byte (by simp)
  have small := ascii _ (List.mem_map.mpr ⟨line, listed, rfl⟩) r used
  exact ⟨⟨small, solid⟩, notDigit, notLabel, notComment⟩

theorem relists_of_isPlain (evaluator : Evaluator) {p : Program}
    (plain : ∀ line ∈ p.code.toList, line.instruction.IsPlain)
    (size : p.size ≤ Int64.maxValue.toInt)
    (numbers : ∀ line ∈ p.code.toList, line.lineNo ≤ Int64.maxValue.toInt) :
    Relists evaluator p := by
  obtain ⟨written, code, writes⟩ := exists_entries plain
  have sizeWritten : written.length = p.size := by
    rw [Program.size, ← Array.length_toList, code, List.length_map]
  refine ⟨programOf (written.map plainLine), ?_, ?_⟩
  · rw [Program.listingText, listing_eq code]
    apply assemble_bodies writes (by omega)
    intro pair listed
    apply numbers
    rw [code]
    exact List.mem_map.mpr ⟨pair, listed, rfl⟩
  · rw [instructions_programOf_plainLines writes, Program.instructions, code, List.map_map]
    rfl

/-! ### Sources in UTF-8 -/

theorem isUnicode_dropReturn {line : Text} (unicode : Text.IsUnicode line) :
    Text.IsUnicode (Source.dropReturn line) := by
  unfold Source.dropReturn
  split
  next returned =>
    obtain ⟨front, rfl⟩ := List.getLast?_eq_some_iff.mp returned
    rw [List.dropLast_concat]
    exact (Text.isUnicode_split (by decide) unicode).1
  next => exact unicode

theorem isUnicode_read_loop {t line : Text} (unicode : Text.IsUnicode (line.reverse ++ t))
    (size : Nat) :
    ∀ text ∈ (Source.read.loop line size t).lines, Text.IsUnicode text := by
  induction t generalizing line size with
  | nil =>
      rw [List.append_nil] at unicode
      unfold Source.read.loop
      split
      · simp
      · split
        · simp
        · simpa using isUnicode_dropReturn unicode
  | cons b rest inductionHypothesis =>
      unfold Source.read.loop
      split
      next newline =>
        subst newline
        obtain ⟨unicodeLine, unicodeRest⟩ := Text.isUnicode_split (by decide) unicode
        split
        · simp
        · exact List.forall_mem_cons.mpr
            ⟨isUnicode_dropReturn unicodeLine, @inductionHypothesis [] unicodeRest 0⟩
      next =>
        apply inductionHypothesis
        simpa using unicode

theorem isUnicode_takeWhile {t : Text} (unicode : Text.IsUnicode t) :
    Text.IsUnicode (t.takeWhile (· ≠ 59)) := by
  have whole := List.takeWhile_append_dropWhile (p := fun b : UInt8 => decide (b ≠ 59)) (l := t)
  cases rest : t.dropWhile (· ≠ 59) with
  | nil =>
      rw [rest, List.append_nil] at whole
      rw [whole]
      exact unicode
  | cons b after =>
      have comment : b = 59 := by
        have stopped := List.head?_dropWhile_not (fun b : UInt8 => decide (b ≠ 59)) t
        rw [rest] at stopped
        simpa using stopped
      rw [← whole, rest, comment] at unicode
      exact (Text.isUnicode_split (by decide) unicode).1

theorem isUnicode_ofNat (n : Nat) : Text.IsUnicode (Text.ofNat n) :=
  Text.isUnicode_ascii fun b listed => (isSolid_of_isDigit (Text.isDigit_of_mem_ofNat n b listed)).1

theorem isUnicode_decimal (n : Int) : Text.IsUnicode (Text.decimal n) := by
  apply Text.isUnicode_ascii
  intro b listed
  rcases mem_decimal listed with rfl | digit
  · decide
  · exact (isSolid_of_isDigit digit).1

theorem isUnicode_of_expanded {evaluate : Text → Except Expr.Failure Int64} {t result : Text}
    (expanded : Expanded evaluate t result) (unicode : Text.IsUnicode t) :
    Text.IsUnicode result := by
  induction expanded with
  | plain _ => exact unicode
  | @replaced t before body after _ value first _ _ inductionHypothesis =>
      rw [first.occurs.1] at unicode
      obtain ⟨unicodeBefore, unicodeRest⟩ := Text.isUnicode_split (by decide) unicode
      have unicodeAfter := (@Text.isUnicode_split (40 :: body) after 41 (by decide) unicodeRest).2
      have unicodeValue := Text.isUnicode_append unicodeBefore (isUnicode_decimal value.toInt)
      exact Text.isUnicode_append unicodeValue (inductionHypothesis unicodeAfter)

theorem ascii_of_isUnicode {evaluator : Evaluator} {source : Text} {p : Program}
    (assembled : (assemble evaluator [] source).program = .ok p) (unicode : Text.IsUnicode source) :
    ∀ ins ∈ p.instructions, ∀ r ∈ ins.registers, r.byte < 128 := by
  have holds : ∀ text ∈ (Source.read source).lines, HoldsIn Text.IsUnicode text := by
    intro text listed evaluate expanded expansion
    have unicodeText := @isUnicode_read_loop source [] unicode 0 text listed
    have unicodeCode := isUnicode_of_expanded expansion (isUnicode_takeWhile unicodeText)
    exact Text.isUnicode_words unicodeCode
  have registers := holds_register isUnicode_ofNat holds assembled
  intro ins listed r used
  obtain ⟨line, inCode, rfl⟩ := List.mem_map.mp listed
  exact Text.ascii_of_isUnicode_singleton (registers line inCode r used).1

/-! ### Listings are in UTF-8 -/

theorem isUnicode_operand (v : Operand) : Text.IsUnicode v.text := by
  unfold Operand.text
  split
  · exact Text.isUnicode_ofCodePoint _
  · exact isUnicode_decimal _

theorem isUnicode_op (op : Op) : Text.IsUnicode op.text := by
  cases op with
  | unassigned n =>
      have opened := Text.isUnicode_append (Text.isUnicode_ofString "Op(") (isUnicode_decimal n)
      exact Text.isUnicode_append opened (Text.isUnicode_ofString ")")
  | _ => exact Text.isUnicode_ofString _

theorem isUnicode_two {s t : Text} (first : Text.IsUnicode s) (second : Text.IsUnicode t) :
    Text.IsUnicode (s ++ 32 :: t) :=
  Text.isUnicode_append first (Text.isUnicode_cons (by decide) second)

theorem isUnicode_instruction (ins : Instruction) : Text.IsUnicode ins.text := by
  have target : Text.IsUnicode (ins.op.text ++ 32 :: ins.register.text) :=
    isUnicode_two (isUnicode_op _) (Text.isUnicode_ofCodePoint _)
  have first : Text.IsUnicode (ins.op.text ++ 32 :: ins.a.text) :=
    isUnicode_two (isUnicode_op _) (isUnicode_operand _)
  unfold Instruction.text
  split
  · exact first
  · exact target
  iterate 4 exact isUnicode_two target (isUnicode_operand _)
  · exact isUnicode_two first (isUnicode_operand _)
  · exact isUnicode_op _

theorem isUnicode_listingText (p : Program) : Text.IsUnicode p.listingText := by
  apply Text.isUnicode_concat
  intro t listed
  obtain ⟨⟨line, pc⟩, _, rfl⟩ := List.mem_map.mp listed
  have text : Text.IsUnicode (Program.padTo 16 line.instruction.text) :=
    Text.isUnicode_append (isUnicode_instruction _) (Text.isUnicode_replicate _ (by decide))
  have position : Text.IsUnicode (Text.ofNatPadded 3 pc) :=
    Text.isUnicode_append (Text.isUnicode_replicate _ (by decide)) (isUnicode_ofNat pc)
  have number : Text.IsUnicode (if line.lineNo = 0 then []
      else Text.ofString " line " ++ Text.ofNat line.lineNo) := by
    split
    · exact Text.isUnicode_nil
    · exact Text.isUnicode_append (Text.isUnicode_ofString _) (isUnicode_ofNat _)
  have newline : Text.IsUnicode [10] := Text.isUnicode_cons (by decide) Text.isUnicode_nil
  have front :=
    Text.isUnicode_append (Text.isUnicode_append text (Text.isUnicode_ofString "; ")) position
  exact Text.isUnicode_append (Text.isUnicode_append front number) newline

/-! ### Reading listings back -/

theorem ascii_of_relists {evaluator : Evaluator} {p : Program} (relists : Relists evaluator p) :
    ∀ ins ∈ p.instructions, ∀ r ∈ ins.registers, r.byte < 128 := by
  obtain ⟨q, assembled, same⟩ := relists
  rw [← same]
  exact ascii_of_isUnicode assembled (isUnicode_listingText p)

theorem relists_of_ascii (again : Evaluator) {evaluator : Evaluator} {source : Text} {p : Program}
    (size : source.length ≤ Int64.maxValue.toInt)
    (assembled : (assemble evaluator [] source).program = .ok p)
    (ascii : ∀ ins ∈ p.instructions, ∀ r ∈ ins.registers, r.byte < 128) :
    Relists again p := by
  obtain ⟨few, numbers⟩ := size_le_length assembled
  apply relists_of_isPlain again (isPlain_of_ascii assembled ascii) (by omega)
  intro line listed
  have number := numbers line listed
  omega

/-- A text has at most as many bytes as a machine integer can count. -/
theorem relists_iff_ascii (evaluator again : Evaluator) (source : Text) (p : Program)
    (size : source.length ≤ Int64.maxValue.toInt)
    (assembled : (assemble evaluator [] source).program = .ok p) :
    (Relists again p ↔ ∀ ins ∈ p.instructions, ∀ r ∈ ins.registers, r.byte < 128) ∧
      (Text.IsUnicode source → Relists again p) := by
  refine ⟨⟨ascii_of_relists, relists_of_ascii again size assembled⟩, ?_⟩
  intro unicode
  exact relists_of_ascii again size assembled (ascii_of_isUnicode assembled unicode)

/-- A source with an equate, labels, an expression and a comment that is not ASCII. -/
def accentedComment : Text :=
  ".equ COUNT (\nloop: again: SET COUNT $(LINENO) ; décompte\nSND :\n\njgz COUNT @again"

theorem relists_iff_ascii_accentedComment :
    Text.IsUnicode accentedComment ∧
      ∃ p, (assemble sumOfEquates [] accentedComment).program = .ok p ∧
        p.instructions = [.set ⟨40⟩ (.ofLiteral 2), .snd (.ofRegister ⟨58⟩),
          .jgz (.ofRegister ⟨40⟩) (.ofLiteral (-2))] ∧ Relists sumOfEquates p := by
  have unicode : Text.IsUnicode accentedComment := ⟨_, rfl⟩
  have instructions :
      (assemble sumOfEquates [] accentedComment).program.toOption.map Program.instructions =
        some [.set ⟨40⟩ (.ofLiteral 2), .snd (.ofRegister ⟨58⟩),
          .jgz (.ofRegister ⟨40⟩) (.ofLiteral (-2))] := by decide +kernel
  refine ⟨unicode, ?_⟩
  cases assembled : (assemble sumOfEquates [] accentedComment).program with
  | error e =>
      rw [assembled] at instructions
      cases instructions
  | ok p =>
      rw [assembled] at instructions
      have relists :=
        relists_iff_ascii sumOfEquates sumOfEquates accentedComment p (by decide) assembled
      exact ⟨p, rfl, Option.some.inj instructions, relists.2 unicode⟩

/-- Receives into the register 233, which a listing shows as the two bytes of `é`. -/
def accentedRegister : Text := Text.ofString "rcv " ++ [233]

theorem not_relists_accentedRegister :
    ∃ p, (assemble sumOfEquates [] accentedRegister).program = .ok p ∧
      ¬ Relists sumOfEquates p := by
  have instructions :
      (assemble sumOfEquates [] accentedRegister).program.toOption.map Program.instructions =
        some [.rcv ⟨233⟩] := by decide +kernel
  cases assembled : (assemble sumOfEquates [] accentedRegister).program with
  | error e =>
      rw [assembled] at instructions
      cases instructions
  | ok p =>
      rw [assembled] at instructions
      have same : p.instructions = [.rcv ⟨233⟩] := Option.some.inj instructions
      refine ⟨p, rfl, ?_⟩
      intro relists
      have ascii :=
        ascii_of_relists relists (.rcv ⟨233⟩) (by rw [same]; simp) ⟨233⟩ (by decide)
      exact absurd ascii (by decide)

end Assembly

end Tandem

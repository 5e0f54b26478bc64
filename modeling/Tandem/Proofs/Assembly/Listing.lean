import Tandem.Assembly.Listing
import Tandem.Proofs.Assembly.Linking
import Tandem.Proofs.Assembly.Spelling
import Tandem.Proofs.Channel.Writing

set_option autoImplicit false

/-!
Listings can be assembled again. Each line of a listing is one instruction and a comment, so that
the lines read from it are the instructions that were listed, in the same order, one on each line.
-/

namespace Tandem

namespace Assembly

/-! ### One line of a listing -/

/-- The comment of a line. -/
def remark (pc lineNo : Nat) : Text :=
  59 :: 32 :: (Text.ofNatPadded 3 pc ++
    if lineNo = 0 then [] else Text.ofString " line " ++ Text.ofNat lineNo)

/-- A line of a listing without its newline. -/
def bodyOf (pc : Nat) (line : CodeLine) : Text :=
  Program.padTo 16 line.instruction.text ++ remark pc line.lineNo

theorem listingLine_eq (pc : Nat) (line : CodeLine) :
    Program.listingLine pc line = bodyOf pc line ++ [10] := by
  simp [Program.listingLine, bodyOf, remark]
  rfl

theorem not_hasOpening_append_space {word t : Text} (noneInWord : ¬ HasOpening word)
    (noneInRest : ¬ HasOpening t) : ¬ HasOpening (word ++ 32 :: t) := by
  rintro ⟨before, after, whole⟩
  rcases List.append_eq_append_iff.mp whole with ⟨x, rfl, rest⟩ | ⟨x, rfl, rest⟩
  · cases x with
    | nil => simp at rest
    | cons c x =>
        obtain ⟨_, rfl⟩ := List.cons.inj rest
        exact noneInRest ⟨x, after, rfl⟩
  · match x with
    | [] => simp at rest
    | [c] => simp at rest
    | c :: d :: x =>
        simp only [List.cons_append, List.cons.injEq] at rest
        obtain ⟨rfl, rfl, _⟩ := rest
        exact noneInWord ⟨before, x, rfl⟩

theorem not_hasOpening_join {ws : List Text} (words : ∀ word ∈ ws, IsWord word) :
    ¬ HasOpening (Text.join [32] ws) := by
  induction ws with
  | nil => exact not_hasOpening_of_not_mem (by decide)
  | cons word ws inductionHypothesis =>
      rw [List.forall_mem_cons] at words
      cases ws with
      | nil => simpa [Text.join] using words.1.noOpening
      | cons next ws =>
          simpa using not_hasOpening_append_space words.1.noOpening (inductionHypothesis words.2)

theorem not_hasOpening_append_spaces {t : Text} (none : ¬ HasOpening t) (n : Nat) :
    ¬ HasOpening (t ++ List.replicate n 32) := by
  cases n with
  | zero => simpa using none
  | succ n => exact not_hasOpening_append_space none (not_hasOpening_of_not_mem (by simp))

theorem isBlank_spaces (n : Nat) : Text.IsBlank (List.replicate n 32) := by
  induction n with
  | zero => exact .nil
  | succ n inductionHypothesis =>
      have space : [32] ∈ Text.blankCharacters := by decide
      exact .cons space inductionHypothesis

/-- What is between the words of a text is blank. -/
theorem mem_join {ws : List Text} {b : UInt8} (listed : b ∈ Text.join [32] ws) :
    b = 32 ∨ ∃ word ∈ ws, b ∈ word := by
  induction ws with
  | nil => contradiction
  | cons word ws inductionHypothesis =>
      cases ws with
      | nil => exact .inr ⟨word, by simp, by simpa [Text.join] using listed⟩
      | cons next ws =>
          rw [Text.join_cons_cons, List.mem_append, List.mem_cons] at listed
          rcases listed with inWord | space | later
          · exact .inr ⟨word, by simp, inWord⟩
          · exact .inl space
          · rcases inductionHypothesis later with space | ⟨other, below, inOther⟩
            · exact .inl space
            · exact .inr ⟨other, .tail _ below, inOther⟩

theorem mem_padTo {e : Entry} {ins : Instruction} (writes : e.Writes ins) {b : UInt8}
    (listed : b ∈ Program.padTo 16 ins.text) : b = 32 ∨ ∃ word ∈ e.words, b ∈ word := by
  rw [Program.padTo, writes.text] at listed
  rcases List.mem_append.mp listed with inText | padding
  · exact mem_join inText
  · exact .inl (List.eq_of_mem_replicate padding)

theorem length_join_le {ws : List Text} (words : ∀ word ∈ ws, IsWord word) :
    (Text.join [32] ws).length ≤ 21 * ws.length := by
  induction ws with
  | nil => exact Nat.le_refl 0
  | cons word ws inductionHypothesis =>
      rw [List.forall_mem_cons] at words
      have short := words.1.short
      cases ws with
      | nil =>
          simp [Text.join]
          omega
      | cons next ws =>
          have rest := inductionHypothesis words.2
          rw [Text.join_cons_cons]
          simp only [List.length_append, List.length_cons] at rest ⊢
          omega

theorem substitute_of_isWord {word : Text} (isWord : IsWord word) {above : List Line}
    (noEquates : equatesOf [] above = []) : substitute (scopeAfter [] above) word = word := by
  rw [substitute, scopeAfter, noEquates, Table.find?_cons, if_neg isWord.noEquate]
  rfl

/-- An instruction is read from its words, wherever they stand. -/
theorem reads_of_writes {e : Entry} {ins : Instruction} (writes : e.Writes ins) {above : List Line}
    (noEquates : equatesOf [] above = []) :
    Reads (scopeAfter [] above) e.words (.code [] (some e)) := by
  obtain ⟨words, statement⟩ := e
  obtain ⟨op, assigned, first⟩ := writes.mnemonic
  obtain ⟨rest, rfl⟩ := List.head?_eq_some_iff.mp first
  have same : (op.text :: rest).map (substitute (scopeAfter [] above)) = op.text :: rest :=
    (List.map_congr_left fun word listed =>
      substitute_of_isWord (writes.words word listed) noEquates).trans (List.map_id _)
  have unmarked : ∀ op ∈ assignedOps, op.text.getLast? ≠ some 58 := by decide
  have notEquate : ∀ op ∈ assignedOps, op.text ≠ (".equ" : Text) := by decide
  have reads := @Reads.instruction (scopeAfter [] above) [] op.text rest statement (by simp)
    (unmarked op assigned) (fun _ => notEquate op assigned) (by rw [same]; exact writes.spells)
  rw [same] at reads
  exact reads

theorem readsText_bodyOf {evaluator : Evaluator} {e : Entry} {line : CodeLine}
    (writes : e.Writes line.instruction) {above : List Line} (noEquates : equatesOf [] above = [])
    (pc : Nat) :
    ReadsText evaluator (scopeAfter [] above) (bodyOf pc line) (.code [] (some e)) := by
  have noComment : ∀ b ∈ Program.padTo 16 line.instruction.text, b ≠ 59 := by
    rintro b listed rfl
    rcases mem_padTo writes listed with space | ⟨word, below, inWord⟩
    · exact absurd space (by decide)
    · exact (writes.words word below).noComment inWord
  have code : (bodyOf pc line).takeWhile (· ≠ 59) = Program.padTo 16 line.instruction.text := by
    rw [bodyOf, List.takeWhile_append_of_pos fun b listed => decide_eq_true (noComment b listed),
      remark, List.takeWhile_cons_of_neg (by decide), List.append_nil]
  have plain : ¬ HasOpening (Program.padTo 16 line.instruction.text) := by
    rw [writes.text]
    exact not_hasOpening_append_spaces (not_hasOpening_join writes.words) _
  refine ⟨Program.padTo 16 line.instruction.text, ?_, ?_⟩
  · rw [code]
    exact .plain fun before inner after occurs => plain ⟨before, inner ++ 41 :: after, occurs.1⟩
  · have solid : ∀ word ∈ e.words, word ≠ [] ∧ ∀ b ∈ word, Text.IsSolid b :=
      fun word listed =>
      ⟨(writes.words word listed).nonempty, (writes.words word listed).solid⟩
    rw [writes.text, Program.padTo, Text.words_append_blank (isBlank_spaces _),
      Text.words_join solid]
    exact reads_of_writes writes noEquates

/-! ### The lines of a listing -/

theorem inline_of_isSolid {b : UInt8} (solid : Text.IsSolid b) : b ≠ 10 ∧ b ≠ 13 := by
  constructor
  · rintro rfl
    exact absurd solid (by decide)
  · rintro rfl
    exact absurd solid (by decide)

theorem inline_remark {pc lineNo : Nat} : ∀ b ∈ remark pc lineNo, b ≠ 10 ∧ b ≠ 13 := by
  have digits : ∀ n, ∀ b ∈ Text.ofNat n, b ≠ 10 ∧ b ≠ 13 := fun n b listed =>
    inline_of_isSolid (isSolid_of_isDigit (Text.isDigit_of_mem_ofNat n b listed))
  have caption : ∀ b ∈ Text.ofString " line ", b ≠ 10 ∧ b ≠ 13 := by decide +kernel
  simp only [remark, Text.ofNatPadded, List.forall_mem_cons, List.forall_mem_append]
  refine ⟨by decide, by decide, ⟨?_, digits pc⟩, ?_⟩
  · intro b padding
    rw [List.eq_of_mem_replicate padding]
    decide
  · split
    · simp
    · exact List.forall_mem_append.mpr ⟨caption, digits lineNo⟩

theorem length_ofNat_le_of_int64 {n : Nat} (bounded : n ≤ Int64.maxValue.toInt) :
    (Text.ofNat n).length ≤ 19 := by
  have largest : Int64.maxValue.toInt = 9223372036854775807 := by decide
  have power : Nat.pow 10 (18 + 1) = 10000000000000000000 := by decide
  exact Text.length_ofNat_le (by omega)

theorem length_remark_le {pc lineNo : Nat} (position : pc ≤ Int64.maxValue.toInt)
    (number : lineNo ≤ Int64.maxValue.toInt) : (remark pc lineNo).length ≤ 50 := by
  have positionDigits := length_ofNat_le_of_int64 position
  have numberDigits := length_ofNat_le_of_int64 number
  have caption : (Text.ofString " line ").length = 6 := by decide
  simp only [remark, Text.ofNatPadded, List.length_cons, List.length_append, List.length_replicate]
  split
  · simp only [List.length_nil]
    omega
  · simp only [List.length_append]
    omega

theorem inline_bodyOf {e : Entry} {line : CodeLine} (writes : e.Writes line.instruction)
    (pc : Nat) :
    ∀ b ∈ bodyOf pc line, b ≠ 10 ∧ b ≠ 13 := by
  intro b listed
  rcases List.mem_append.mp listed with inText | inRemark
  · rcases mem_padTo writes inText with rfl | ⟨word, below, inWord⟩
    · decide
    · exact inline_of_isSolid ((writes.words word below).solid b inWord)
  · exact inline_remark b inRemark

theorem length_bodyOf_lt {e : Entry} {line : CodeLine} (writes : e.Writes line.instruction)
    {pc : Nat} (position : pc ≤ Int64.maxValue.toInt)
    (number : line.lineNo ≤ Int64.maxValue.toInt) :
    (bodyOf pc line).length < Source.lineLimit := by
  have code := length_join_le writes.words
  have few := writes.few
  have comment := length_remark_le position number
  rw [bodyOf, Program.padTo, writes.text, Source.lineLimit]
  simp only [List.length_append, List.length_replicate]
  omega

/-- The lines of a text in which each line has its newline. -/
theorem read_concat {bodies : List Text}
    (inline : ∀ body ∈ bodies, (∀ b ∈ body, b ≠ 10 ∧ b ≠ 13) ∧
      body.length < Source.lineLimit) :
    Source.read (Text.concat (bodies.map (· ++ [10]))) = ⟨bodies, false⟩ := by
  induction bodies with
  | nil => rfl
  | cons body bodies inductionHypothesis =>
      rw [List.forall_mem_cons] at inline
      obtain ⟨⟨plain, short⟩, inlineRest⟩ := inline
      have noNewline : 10 ∉ body := fun listed => (plain 10 listed).1 rfl
      have noReturn : body.getLast? ≠ some 13 := fun last =>
        (plain 13 (List.mem_of_getLast? last)).2 rfl
      have whole : Text.concat ((body :: bodies).map (· ++ [10])) =
          body ++ 10 :: Text.concat (bodies.map (· ++ [10])) := by
        simp [Text.concat]
      rw [whole, Source.read_append_newline noNewline short, inductionHypothesis inlineRest,
        Source.dropReturn, if_neg noReturn]

/-! ### The whole listing -/

/-- Entries for the instructions of some code. -/
theorem exists_entries {code : List CodeLine}
    (plain : ∀ line ∈ code, line.instruction.IsPlain) :
    ∃ written : List (Entry × CodeLine), code = written.map (·.2) ∧
      ∀ pair ∈ written, pair.1.Writes pair.2.instruction := by
  induction code with
  | nil => exact ⟨[], rfl, by simp⟩
  | cons line code inductionHypothesis =>
      rw [List.forall_mem_cons] at plain
      obtain ⟨e, writes⟩ := exists_writes plain.1
      obtain ⟨written, rfl, writesRest⟩ := inductionHypothesis plain.2
      exact ⟨(e, line) :: written, rfl, List.forall_mem_cons.mpr ⟨writes, writesRest⟩⟩

/-- A listing of instructions has no labels and no equates. -/
def plainLine (pair : Entry × CodeLine) : Line := .code [] (some pair.1)

theorem readsAll_bodies {evaluator : Evaluator} {written : List (Entry × CodeLine)}
    {above : List Line} (writes : ∀ pair ∈ written, pair.1.Writes pair.2.instruction)
    (noEquates : equatesOf [] above = []) (pc : Nat) :
    ReadsAll evaluator [] above ((written.zipIdx pc).map fun pair => bodyOf pair.2 pair.1.2)
      (written.map plainLine) := by
  induction written generalizing above pc with
  | nil => exact .nil
  | cons pair written inductionHypothesis =>
      rw [List.forall_mem_cons] at writes
      refine .cons (readsText_bodyOf writes.1 noEquates pc)
        (inductionHypothesis writes.2 ?_ (pc + 1))
      rw [equatesOf_append_singleton, noEquates]
      rfl

@[simp]
theorem labelsOf_plainLines (written : List (Entry × CodeLine)) :
    labelsOf (written.map plainLine) = [] := by
  apply List.flatMap_eq_nil_iff.mpr
  intro line listed
  obtain ⟨pair, _, rfl⟩ := List.mem_map.mp listed
  rfl

@[simp]
theorem entriesOf_plainLines (written : List (Entry × CodeLine)) :
    entriesOf (written.map plainLine) = (written.zipIdx 1).map fun pair => (pair.1.1, pair.2) := by
  rw [entriesOf, List.zipIdx_map, List.filterMap_map]
  exact congrFun List.filterMap_eq_map _

theorem isClosed_plainLines {written : List (Entry × CodeLine)}
    (writes : ∀ pair ∈ written, pair.1.Writes pair.2.instruction) :
    IsClosed (written.map plainLine) := by
  intro entry listed label used
  rw [entriesOf_plainLines] at listed
  obtain ⟨⟨pair, number⟩, below, rfl⟩ := List.mem_map.mp listed
  rw [(writes pair (List.fst_mem_of_mem_zipIdx below)).labels] at used
  contradiction

theorem getElem?_programOf_plainLines {written : List (Entry × CodeLine)}
    (writes : ∀ pair ∈ written, pair.1.Writes pair.2.instruction) (k : Nat) :
    (programOf (written.map plainLine)).code[k]?.map (fun line => (line.instruction, line.lineNo)) =
      written[k]?.map fun pair => (pair.2.instruction, k + 1) := by
  simp only [programOf, List.getElem?_toArray, entriesOf_plainLines, List.getElem?_map,
    List.getElem?_zipIdx]
  cases found : written[k]? with
  | none => rfl
  | some pair =>
      have same := (writes pair (List.mem_of_getElem? found)).instruction
      simp [Entry.codeLine, same, Nat.add_comm]

theorem assemble_bodies {evaluator : Evaluator} {written : List (Entry × CodeLine)}
    (writes : ∀ pair ∈ written, pair.1.Writes pair.2.instruction)
    (size : written.length ≤ Int64.maxValue.toInt)
    (numbers : ∀ pair ∈ written, pair.2.lineNo ≤ Int64.maxValue.toInt) :
    (assemble evaluator [] (Text.concat
        ((written.zipIdx.map fun pair => bodyOf pair.2 pair.1.2).map (· ++ [10])))).program =
      .ok (programOf (written.map plainLine)) := by
  have inline : ∀ body ∈ written.zipIdx.map fun pair => bodyOf pair.2 pair.1.2,
      (∀ b ∈ body, b ≠ 10 ∧ b ≠ 13) ∧ body.length < Source.lineLimit := by
    intro body listed
    obtain ⟨⟨pair, pc⟩, below, rfl⟩ := List.mem_map.mp listed
    have member := List.fst_mem_of_mem_zipIdx below
    have position : pc < written.length := List.snd_lt_of_mem_zipIdx below
    exact ⟨inline_bodyOf (writes pair member) pc,
      length_bodyOf_lt (writes pair member) (by omega) (numbers pair member)⟩
  have read := read_concat inline
  apply (program_assemble_eq_ok_iff (by rw [read])).mpr
  rw [read]
  refine ⟨written.map plainLine, readsAll_bodies writes rfl 0, ?_, isClosed_plainLines writes,
    rfl⟩
  simp

theorem listing_eq {p : Program} {written : List (Entry × CodeLine)}
    (code : p.code.toList = written.map (·.2)) :
    p.listing = (written.zipIdx.map fun pair => bodyOf pair.2 pair.1.2).map (· ++ [10]) := by
  rw [Program.listing, code, List.zipIdx_map, List.map_map, List.map_map]
  apply List.map_congr_left
  intro pair _
  exact listingLine_eq pair.2 pair.1.2

theorem instructions_programOf_plainLines {written : List (Entry × CodeLine)}
    (writes : ∀ pair ∈ written, pair.1.Writes pair.2.instruction) :
    (programOf (written.map plainLine)).instructions = written.map (·.2.instruction) := by
  apply List.ext_getElem?
  intro k
  have same := congrArg (Option.map Prod.fst) (getElem?_programOf_plainLines writes k)
  simpa [Program.instructions, Option.map_map, Function.comp_def] using same

/-- Positions and line numbers are machine integers, which keeps every line of a listing within the
limit of a source line. -/
theorem assemble_listing (evaluator : Evaluator) (p : Program)
    (plain : ∀ line ∈ p.code.toList, line.instruction.IsPlain)
    (size : p.size ≤ Int64.maxValue.toInt)
    (numbers : ∀ line ∈ p.code.toList, line.lineNo ≤ Int64.maxValue.toInt) :
    ∃ w, Writer.new.writeAll p.listing = (w, none) ∧
      ∃ q, (assemble evaluator [] w.output).program = .ok q ∧
        q.instructions = p.instructions ∧
        ∀ k line, q.code[k]? = some line → line.lineNo = k + 1 := by
  obtain ⟨w, takes⟩ := Writer.new.exists_takesAll (fun _ _ => rfl) p.listing
  obtain ⟨written, code, writes⟩ := exists_entries plain
  have sizeWritten : written.length = p.size := by
    rw [Program.size, ← Array.length_toList, code, List.length_map]
  have numbersWritten : ∀ pair ∈ written, pair.2.lineNo ≤ Int64.maxValue.toInt := by
    intro pair listed
    apply numbers
    rw [code]
    exact List.mem_map.mpr ⟨pair, listed, rfl⟩
  refine ⟨w, takes.writeAll_eq, programOf (written.map plainLine), ?_, ?_, ?_⟩
  · have output : w.output = Text.concat p.listing := takes.output
    rw [output, listing_eq code]
    exact assemble_bodies writes (by omega) numbersWritten
  · rw [instructions_programOf_plainLines writes, Program.instructions, code, List.map_map]
    rfl
  · intro k line found
    have same := getElem?_programOf_plainLines writes k
    rw [found] at same
    cases listed : written[k]? with
    | none =>
        rw [listed] at same
        contradiction
    | some pair =>
        rw [listed] at same
        exact (Prod.mk.inj (Option.some.inj same)).2

/-- Registers with the names `$`, `(`, `-` and `:`, and instructions with and
without a source line. -/
def oddNames : Program :=
  ⟨#[{ instruction := .set ⟨36⟩ (.ofLiteral Int64.minValue), lineNo := 7 },
    { instruction := .jgz (.ofRegister ⟨40⟩) (.ofRegister ⟨45⟩) },
    { instruction := .snd (.ofRegister ⟨58⟩), lineNo := 12 }]⟩

theorem assemble_listing_oddNames :
    ∃ w, Writer.new.writeAll oddNames.listing = (w, none) ∧
      ∃ q, (assemble (fun _ _ => .ok 0) [] w.output).program = .ok q ∧
        q.instructions = oddNames.instructions ∧
        ∀ k line, q.code[k]? = some line → line.lineNo = k + 1 := by
  have plain : ∀ b ∈ [36, 40, 45, 58], RegisterName.IsPlain ⟨b⟩ := by
    unfold RegisterName.IsPlain
    decide +kernel
  refine assemble_listing (fun _ _ => .ok 0) oddNames ?_ (by decide) (by decide)
  intro line listed
  simp only [oddNames, List.mem_cons, List.not_mem_nil, or_false] at listed
  rcases listed with rfl | rfl | rfl
  · exact .set (plain 36 (by decide)) (.literal _)
  · exact .jgz (.register (plain 40 (by decide))) (.register (plain 45 (by decide)))
  · exact .snd (.register (plain 58 (by decide)))

end Assembly

end Tandem

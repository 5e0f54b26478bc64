import Tandem.Proofs.Assembly.Reading
import Tandem.Proofs.Assembly.Source

set_option autoImplicit false

/-!
Linking and the whole assembler. Linking fills in the distances to the labels, and succeeds
exactly if all labels that are used have been defined. So the assembler, which reads a source
once and patches its operands afterwards, gives the program that its lines stand for, and an
error if they stand for none.
-/

namespace Tandem.Assembly

namespace Draft

/-- An operand field after linking. -/
def linkOperand (d : Draft) (n : Nat) (link : Option Text) (operand : Operand) :
    Except Cause Operand :=
  match link with
  | none => .ok operand
  | some label => d.distance n label

theorem linkLine_eq_none_iff {d : Draft} {n : Nat} {line linked : CodeLine} :
    d.linkLine n line = (linked, none) ↔
      ∃ a b, d.linkOperand n line.linkA line.instruction.a = .ok a ∧
        d.linkOperand n line.linkB line.instruction.b = .ok b ∧
        linked = { line with instruction := { line.instruction with a, b } } := by
  obtain ⟨⟨op, register, a, b⟩, lineNo, words, linkA, linkB⟩ := line
  unfold linkLine linkOperand
  cases linkA with
  | none =>
    cases linkB with
    | none => simp [eq_comm]
    | some label => cases found : d.distance n label <;> simp [found, eq_comm]
  | some first =>
    cases foundFirst : d.distance n first with
    | error cause => simp [foundFirst]
    | ok operand =>
      cases linkB with
      | none => simp [foundFirst, eq_comm]
      | some label => cases found : d.distance n label <;> simp [foundFirst, found, eq_comm]

namespace Records

variable {d : Draft} {predefined : List (Text × Text)} {lines : List Line}

theorem distance_eq (records : d.Records predefined lines) (n : Nat) (label : Text) :
    d.distance n label =
      if label ∈ labelsOf lines then .ok (.ofLiteral (distanceFrom lines n label))
      else .error (.labelMissing label) := by
  rw [distance, records.labels]
  by_cases defined : label ∈ labelsOf lines
  · rw [if_pos defined, if_pos defined]
    rfl
  · rw [if_neg defined, if_neg defined]

theorem linkOperand_eq_ok_iff (records : d.Records predefined lines) {n : Nat} {value : Argument}
    {operand : Operand} :
    d.linkOperand n value.label? (value.operand unlinked) = .ok operand ↔
      (∀ label ∈ value.label?, label ∈ labelsOf lines) ∧
        operand = value.operand (distanceFrom lines n) := by
  cases value with
  | literal literal => simp [linkOperand, Argument.label?, Argument.operand, eq_comm]
  | register r => simp [linkOperand, Argument.label?, Argument.operand, eq_comm]
  | label name =>
      simp only [linkOperand, Argument.label?, records.distance_eq]
      by_cases defined : name ∈ labelsOf lines <;> simp [defined, Argument.operand, eq_comm]

theorem linkLine_codeLine_eq_none_iff (records : d.Records predefined lines) {n lineNo : Nat}
    {entry : Entry} {linked : CodeLine} :
    d.linkLine n (entry.codeLine lineNo unlinked) = (linked, none) ↔
      (∀ label ∈ entry.statement.labels, label ∈ labelsOf lines) ∧
        linked = entry.codeLine lineNo (distanceFrom lines n) := by
  rw [linkLine_eq_none_iff]
  simp only [Statement.labels, List.mem_filterMap]
  obtain ⟨words, statement⟩ := entry
  cases statement with
  | snd value =>
      constructor
      · rintro ⟨a, b, first, ⟨⟩, rfl⟩
        obtain ⟨defined, rfl⟩ := records.linkOperand_eq_ok_iff.mp first
        refine ⟨?_, rfl⟩
        simpa [Statement.arguments] using defined
      · rintro ⟨defined, rfl⟩
        refine ⟨_, _, records.linkOperand_eq_ok_iff.mpr ⟨?_, rfl⟩, rfl, rfl⟩
        simpa [Statement.arguments] using defined
  | rcv r =>
      constructor
      · rintro ⟨a, b, ⟨⟩, ⟨⟩, rfl⟩
        exact ⟨by simp [Statement.arguments], rfl⟩
      · rintro ⟨_, rfl⟩
        exact ⟨_, _, rfl, rfl, rfl⟩
  | update u r value =>
      constructor
      · rintro ⟨a, b, first, ⟨⟩, rfl⟩
        obtain ⟨defined, rfl⟩ := records.linkOperand_eq_ok_iff.mp first
        refine ⟨?_, rfl⟩
        simpa [Statement.arguments] using defined
      · rintro ⟨defined, rfl⟩
        refine ⟨_, _, records.linkOperand_eq_ok_iff.mpr ⟨?_, rfl⟩, rfl, rfl⟩
        simpa [Statement.arguments] using defined
  | jgz test offset =>
      constructor
      · rintro ⟨a, b, first, second, rfl⟩
        obtain ⟨definedFirst, rfl⟩ := records.linkOperand_eq_ok_iff.mp first
        obtain ⟨definedSecond, rfl⟩ := records.linkOperand_eq_ok_iff.mp second
        refine ⟨?_, rfl⟩
        rintro label ⟨value, listed, used⟩
        simp only [Statement.arguments, List.mem_cons, List.not_mem_nil, or_false] at listed
        rcases listed with rfl | rfl
        · exact definedFirst label used
        · exact definedSecond label used
      · rintro ⟨defined, rfl⟩
        exact ⟨_, _,
          records.linkOperand_eq_ok_iff.mpr
            ⟨fun label used => defined label ⟨test, .head _, used⟩, rfl⟩,
          records.linkOperand_eq_ok_iff.mpr
            ⟨fun label used => defined label ⟨offset, .tail _ (.head _), used⟩, rfl⟩, rfl⟩

theorem linkLines_eq_none_iff (records : d.Records predefined lines) {n : Nat}
    {entries : List (Entry × Nat)} {linked : List CodeLine} :
    d.linkLines n (entries.map fun entry => entry.1.codeLine entry.2 unlinked) = (linked, none) ↔
      (∀ entry ∈ entries, ∀ label ∈ entry.1.statement.labels, label ∈ labelsOf lines) ∧
        linked = (entries.zipIdx n).map fun entry =>
          entry.1.1.codeLine entry.1.2 (distanceFrom lines entry.2) := by
  induction entries generalizing n linked with
  | nil => simp [linkLines, eq_comm]
  | cons entry entries inductionHypothesis =>
      obtain ⟨entry, lineNo⟩ := entry
      rw [List.forall_mem_cons, List.zipIdx_cons, List.map_cons, List.map_cons, linkLines]
      cases first : d.linkLine n (entry.codeLine lineNo unlinked) with
      | mk head error =>
      cases rest : d.linkLines (n + 1)
        (entries.map fun entry => entry.1.codeLine entry.2 unlinked) with
      | mk others later =>
      cases error with
      | none =>
          obtain ⟨defined, rfl⟩ := records.linkLine_codeLine_eq_none_iff.mp first
          constructor
          · intro linking
            cases linking
            obtain ⟨definedRest, rfl⟩ := inductionHypothesis.mp rest
            exact ⟨⟨defined, definedRest⟩, rfl⟩
          · rintro ⟨⟨_, definedRest⟩, rfl⟩
            rw [inductionHypothesis.mpr ⟨definedRest, rfl⟩] at rest
            cases rest
            rfl
      | some cause =>
          constructor
          · intro linking
            cases linking
          · rintro ⟨⟨defined, _⟩, _⟩
            rw [records.linkLine_codeLine_eq_none_iff.mpr ⟨defined, rfl⟩] at first
            cases first

theorem program_link_eq_ok_iff (records : d.Records predefined lines) {p : Program} :
    d.link.program = .ok p ↔ IsClosed lines ∧ p = programOf lines := by
  rw [link, records.code]
  cases linking : d.linkLines 0
    ((entriesOf lines).map fun entry => entry.1.codeLine entry.2 unlinked) with
  | mk linked error =>
  cases error with
  | none =>
      obtain ⟨closed, rfl⟩ := records.linkLines_eq_none_iff.mp linking
      constructor
      · intro linked
        cases linked
        exact ⟨closed, rfl⟩
      · rintro ⟨_, rfl⟩
        rfl
  | some error =>
      constructor
      · intro linked
        cases linked
      · rintro ⟨closed, _⟩
        rw [records.linkLines_eq_none_iff.mpr ⟨closed, rfl⟩] at linking
        cases linking

end Records

end Draft

theorem program_assemble_eq_ok_iff {evaluator : Evaluator} {predefined : List (Text × Text)}
    {source : Text} {p : Program} (whole : (Source.read source).tooLong = false) :
    (assemble evaluator predefined source).program = .ok p ↔
      ∃ lines, ReadsAll evaluator predefined [] (Source.read source).lines lines ∧
        (labelsOf lines).Nodup ∧ IsClosed lines ∧ p = programOf lines := by
  have start := Draft.records_start predefined
  unfold assemble
  constructor
  · intro assembled
    rcases added : (Draft.start predefined).addLines evaluator 0 [] (Source.read source).lines with
      ⟨final, lineNo, line, _ | cause⟩
    · obtain ⟨lines, reads, records⟩ := Draft.readsAll_of_addLines start added
      simp only [added, whole, Bool.false_eq_true, if_false] at assembled
      obtain ⟨closed, rfl⟩ := records.program_link_eq_ok_iff.mp assembled
      exact ⟨lines, reads, records.distinct, closed, rfl⟩
    · simp only [added] at assembled
      contradiction
  · rintro ⟨lines, reads, distinct, closed, rfl⟩
    obtain ⟨final, lineNo, line, added, records⟩ :=
      Draft.addLines_of_readsAll start reads distinct []
    have linked := records.program_link_eq_ok_iff.mpr ⟨closed, rfl⟩
    rw [List.length_nil] at added
    simp only [added, whole, Bool.false_eq_true, if_false]
    exact linked

/-- The lines that an assembled source stands for, with the places of the labels that were found. -/
theorem exists_layout {evaluator : Evaluator} {predefined : List (Text × Text)} {source : Text}
    {p : Program} (assembled : (assemble evaluator predefined source).program = .ok p) :
    ∃ lines, ReadsAll evaluator predefined [] (Source.read source).lines lines ∧
      (labelsOf lines).Nodup ∧ IsClosed lines ∧ p = programOf lines ∧
      ∀ label, (assemble evaluator predefined source).draft.labels.find? label =
        if label ∈ labelsOf lines then some (placeOf lines label) else none := by
  unfold assemble at assembled ⊢
  rcases added : (Draft.start predefined).addLines evaluator 0 [] (Source.read source).lines with
    ⟨final, lineNo, line, _ | cause⟩
  · obtain ⟨lines, reads, records⟩ :=
      Draft.readsAll_of_addLines (Draft.records_start predefined) added
    by_cases tooLong : (Source.read source).tooLong = true
    · simp only [added, tooLong, if_true] at assembled
      contradiction
    · simp only [added, tooLong, Bool.false_eq_true, if_false] at assembled ⊢
      obtain ⟨closed, rfl⟩ := records.program_link_eq_ok_iff.mp assembled
      exact ⟨lines, reads, records.distinct, closed, rfl, records.labels⟩
  · simp only [added] at assembled
    contradiction

theorem program_eq_ok_of_toOption {outcome : Outcome} {p : Program}
    (accepted : outcome.program.toOption = some p) : outcome.program = .ok p := by
  cases found : outcome.program with
  | error e =>
      rw [found] at accepted
      contradiction
  | ok q =>
      rw [found] at accepted
      exact congrArg Except.ok (Option.some.inj accepted)

/-- For every evaluator of expressions, a source with lines within the limit assembles exactly if
all its lines can be read, no label is defined twice and every label that is used is defined; the
program is then the one that the lines are laid out to. -/
theorem program_eq_ok_iff_layout (evaluator : Evaluator) (predefined : List (Text × Text))
    (source : Text) (within : ∀ part ∈ source.splitOn 10, part.length < Source.lineLimit)
    (p : Program) :
    (assemble evaluator predefined source).program = .ok p ↔
      ∃ lines, ReadsAll evaluator predefined [] (Source.linesOf source) lines ∧
        (labelsOf lines).Nodup ∧ IsClosed lines ∧ p = programOf lines := by
  have read := Source.read_eq_linesOf within
  rw [program_assemble_eq_ok_iff (by rw [read]), read]

/-- A countdown from a value that is known when it is assembled. -/
def countdown : Text :=
  Text.ofString ".equ COUNT a\nstart: SET COUNT $(N + LINENO) ; from five\n" ++
    Text.ofString "next: again: jgz COUNT @end\njgz 1 @start\nend:"

/-- Gives the sum of the two equates that a countdown uses. -/
def sumOfEquates : Evaluator :=
  fun numbers _ => .ok ((numbers.find? "N").getD 0 + (numbers.find? lineNumberName).getD 0)

theorem program_eq_ok_iff_layout_countdown :
    (∀ part ∈ countdown.splitOn 10, part.length < Source.lineLimit) ∧
      ∃ lines, ReadsAll sumOfEquates [("N", "3")] [] (Source.linesOf countdown) lines ∧
        (labelsOf lines).Nodup ∧ IsClosed lines ∧
        (programOf lines).instructions =
          [.set ⟨97⟩ (.ofLiteral 5), .jgz (.ofRegister ⟨97⟩) (.ofLiteral 2),
            .jgz (.ofLiteral 1) (.ofLiteral (-2))] := by
  have within : ∀ part ∈ countdown.splitOn 10, part.length < Source.lineLimit := by
    decide +kernel
  have instructions :
      (assemble sumOfEquates [("N", "3")] countdown).program.toOption.map Program.instructions =
        some [.set ⟨97⟩ (.ofLiteral 5), .jgz (.ofRegister ⟨97⟩) (.ofLiteral 2),
          .jgz (.ofLiteral 1) (.ofLiteral (-2))] := by decide +kernel
  cases assembled : (assemble sumOfEquates [("N", "3")] countdown).program with
  | error e =>
      rw [assembled] at instructions
      cases instructions
  | ok p =>
      rw [assembled] at instructions
      obtain ⟨lines, reads, distinct, closed, rfl⟩ :=
        (program_eq_ok_iff_layout sumOfEquates [("N", "3")] countdown within p).mp assembled
      exact ⟨within, lines, reads, distinct, closed, Option.some.inj instructions⟩

end Tandem.Assembly

import Tandem.Proofs.Assembly.Linking

set_option autoImplicit false

/-!
Where assembling fails. Lines are read from top to bottom, so the first line that cannot be read
ends it with what has been collected above, and nothing below that line matters. Labels that are not
defined come up only after the last line, in the order in which the instructions use them.
-/

namespace Tandem

namespace Assembly

/-! ### Causes that lie in a line -/

/-- The cause is neither a missing label nor a line that is too long. -/
def Cause.IsLocal (cause : Cause) : Prop :=
  cause ≠ .lineTooLong ∧ ∀ label, cause ≠ .labelMissing label

/-- The computation can fail at local causes only. -/
def FailsLocally {α : Type} (x : Except Cause α) : Prop :=
  ∀ cause, x = .error cause → cause.IsLocal

namespace FailsLocally

variable {α β : Type}

theorem ok (a : α) : FailsLocally (.ok a) := by
  intro cause failed
  contradiction

theorem error {cause : Cause} (isLocal : cause.IsLocal) :
    FailsLocally (.error cause : Except Cause α) := by
  intro found failed
  cases failed
  exact isLocal

theorem bind {x : Except Cause α} {f : α → Except Cause β} (first : FailsLocally x)
    (later : ∀ a, FailsLocally (f a)) : FailsLocally (x >>= f) := by
  intro cause failed
  cases x with
  | error found =>
      cases failed
      exact first cause rfl
  | ok a => exact later a cause failed

theorem map {x : Except Cause α} (first : FailsLocally x) (f : α → β) :
    FailsLocally (x.map f) := by
  intro cause failed
  cases x with
  | error found =>
      cases failed
      exact first cause rfl
  | ok a => contradiction

end FailsLocally

theorem failsLocally_registerOf (word : Text) : FailsLocally (registerOf word) := by
  unfold registerOf
  split
  · split
    · exact .error (by simp [Cause.IsLocal])
    · exact .ok _
  · exact .error (by simp [Cause.IsLocal])

theorem failsLocally_operandOf (word : Text) : FailsLocally (operandOf word) := by
  unfold operandOf
  split
  · split
    · exact .ok _
    · exact .error (by simp [Cause.IsLocal])
  · split
    · split
      · exact .ok _
      · exact .error (by simp [Cause.IsLocal])
    · split
      · exact .ok _
      · exact .error (by simp [Cause.IsLocal])

theorem failsLocally_decode (op : Op) (operands : List Text) :
    FailsLocally (decode op operands) := by
  unfold decode
  split
  · apply (failsLocally_registerOf _).bind
    intro r
    exact .ok _
  · apply (failsLocally_operandOf _).bind
    intro value
    exact .ok _
  · apply (failsLocally_operandOf _).bind
    intro test
    apply (failsLocally_operandOf _).bind
    intro offset
    exact .ok _
  · apply (failsLocally_registerOf _).bind
    intro r
    apply (failsLocally_operandOf _).bind
    intro value
    exact .ok _
  · exact .error (by simp [Cause.IsLocal])

theorem failsLocally_codeLine (lineNo : Nat) (mnemonic : Text) (operands : List Text) :
    FailsLocally (codeLine lineNo mnemonic operands) := by
  unfold codeLine
  split
  · apply FailsLocally.error
    split <;> simp [Cause.IsLocal]
  · split
    · exact .error (by simp [Cause.IsLocal])
    · split
      · exact .error (by simp [Cause.IsLocal])
      · apply (failsLocally_decode _ _).bind
        intro decoded
        exact .ok _

theorem failsLocally_splice (evaluate : Text → Except Expr.Failure Int64) (pieces : List Piece) :
    FailsLocally (splice evaluate pieces) := by
  induction pieces with
  | nil => exact .ok _
  | cons piece rest inductionHypothesis =>
      cases piece with
      | plain t => exact inductionHypothesis.map _
      | expression t =>
          rw [splice]
          split
          · exact .error (by simp [Cause.IsLocal])
          · exact inductionHypothesis.map _

/-! ### One line that cannot be read -/

namespace Draft

theorem failsLocally_defineEquate (d : Draft) (words : List Text) :
    FailsLocally (d.defineEquate words) := by
  unfold defineEquate
  split
  · split
    · exact .error (by simp [Cause.IsLocal])
    · split
      · exact .error (by simp [Cause.IsLocal])
      · exact .ok _
  · exact .error (by simp [Cause.IsLocal])

@[simp]
theorem code_defineLabels (d : Draft) (words : List Text) :
    (d.defineLabels words).1.code = d.code := by
  induction words generalizing d with
  | nil => rfl
  | cons word rest inductionHypothesis =>
      rw [defineLabels]
      split
      · dsimp only
        split
        · rfl
        · split
          · rfl
          · exact inductionHypothesis _
      · rfl

theorem failsLocally_defineLabels (d : Draft) (words : List Text) :
    FailsLocally (d.defineLabels words).2 := by
  induction words generalizing d with
  | nil => exact .ok _
  | cons word rest inductionHypothesis =>
      rw [defineLabels]
      split
      · dsimp only
        split
        · exact .error (by simp [Cause.IsLocal])
        · split
          · exact .error (by simp [Cause.IsLocal])
          · exact inductionHypothesis _
      · exact .ok _

variable {d next : Draft} {lineNo : Nat} {cause : Cause}

theorem addCode_eq_some {words : List Text} (failed : d.addCode lineNo words = (next, some cause)) :
    next = d ∧ cause.IsLocal := by
  unfold addCode at failed
  split at failed
  · cases failed
  · split at failed
    next wrong =>
      cases failed
      exact ⟨rfl, failsLocally_codeLine _ _ _ _ wrong⟩
    next => cases failed

theorem addWords_eq_some {words : List Text}
    (failed : d.addWords lineNo words = (next, some cause)) :
    next.code = d.code ∧ cause.IsLocal := by
  unfold addWords at failed
  split at failed
  · cases failed
  next first rest =>
    split at failed
    · split at failed
      next wrong =>
        cases failed
        exact ⟨rfl, failsLocally_defineEquate _ _ _ wrong⟩
      next => cases failed
    · have kept := d.code_defineLabels (first :: rest)
      split at failed
      next wrong =>
        cases failed
        rw [wrong] at kept
        exact ⟨kept, failsLocally_defineLabels _ _ _ (congrArg Prod.snd wrong)⟩
      next marked words defined =>
        rw [defined] at kept
        obtain ⟨rfl, isLocal⟩ := addCode_eq_some failed
        exact ⟨kept, isLocal⟩

/-- A line that cannot be read leaves the code as it is. -/
theorem addLine_eq_some {evaluator : Evaluator} {line : Text}
    (failed : d.addLine evaluator lineNo line = (next, some cause)) :
    next.code = d.code ∧ cause.IsLocal := by
  unfold addLine at failed
  simp only at failed
  split at failed
  next wrong =>
    cases failed
    exact ⟨rfl, failsLocally_splice _ _ _ wrong⟩
  next =>
    obtain ⟨kept, isLocal⟩ := addWords_eq_some failed
    exact ⟨kept, isLocal⟩

/-! ### All lines -/

variable {evaluator : Evaluator}

theorem addLines_append (d : Draft) (lineNo : Nat) (last : Text) (first second : List Text) :
    d.addLines evaluator lineNo last (first ++ second) =
      match d.addLines evaluator lineNo last first with
      | (middle, reached, line, none) => middle.addLines evaluator reached line second
      | failed => failed := by
  induction first generalizing d lineNo last with
  | nil => rfl
  | cons text rest inductionHypothesis =>
      rw [List.cons_append, addLines, addLines]
      rcases step : d.addLine evaluator (lineNo + 1) (Source.strip text) with ⟨next, _ | cause⟩
      · exact inductionHypothesis next (lineNo + 1) (Source.strip text)
      · rfl

/-- Reading fails at one line, after the lines above it have been read. -/
theorem exists_of_addLines_eq_some {last line : Text} {failing : Nat} {texts : List Text}
    (failed : d.addLines evaluator lineNo last texts = (next, failing, line, some cause)) :
    ∃ above text below middle before, texts = above ++ text :: below ∧
      failing = lineNo + above.length + 1 ∧ line = Source.strip text ∧
      d.addLines evaluator lineNo last above = (middle, lineNo + above.length, before, none) ∧
      middle.addLine evaluator failing line = (next, some cause) := by
  induction texts generalizing d lineNo last with
  | nil => cases failed
  | cons text rest inductionHypothesis =>
      rw [addLines] at failed
      rcases step : d.addLine evaluator (lineNo + 1) (Source.strip text) with ⟨after, _ | wrong⟩
      · simp only [step] at failed
        obtain ⟨above, found, below, middle, before, rfl, rfl, rfl, readAbove, stops⟩ :=
          inductionHypothesis failed
        have regrouped : lineNo + 1 + above.length = lineNo + (text :: above).length := by
          rw [List.length_cons]
          omega
        rw [regrouped] at readAbove
        refine ⟨text :: above, found, below, middle, before, rfl, by rw [regrouped], rfl,
          ?_, stops⟩
        rw [addLines]
        simp only [step]
        exact readAbove
      · simp only [step] at failed
        cases failed
        exact ⟨[], text, rest, d, last, rfl, rfl, rfl, rfl, step⟩

theorem addLines_of_isPrefix {last line : Text} {reached : Nat} {texts first : List Text}
    (read : d.addLines evaluator lineNo last texts = (next, reached, line, none))
    (part : first <+: texts) :
    ∃ middle reached line, d.addLines evaluator lineNo last first =
      (middle, reached, line, none) := by
  obtain ⟨rest, rfl⟩ := part
  rw [addLines_append] at read
  rcases found : d.addLines evaluator lineNo last first with ⟨middle, number, text, _ | cause⟩
  · exact ⟨middle, number, text, rfl⟩
  · simp only [found] at read
    cases read

/-- What is below the failing line does not matter. -/
theorem addLines_of_failing_line {above : List Text} {middle : Draft} {last before text : Text}
    {reached : Nat}
    (readAbove : d.addLines evaluator lineNo last above = (middle, reached, before, none))
    (stops : middle.addLine evaluator (reached + 1) (Source.strip text) = (next, some cause))
    (below : List Text) :
    d.addLines evaluator lineNo last (above ++ text :: below) =
      (next, reached + 1, Source.strip text, some cause) := by
  rw [addLines_append, readAbove]
  simp only [addLines, stops]

end Draft

/-! ### Missing labels -/

/-- A label that an operand of an instruction uses. -/
structure Use where
  label : Text
  entry : Entry
  lineNo : Nat

/-- All uses of labels, in the order of the program. -/
def usesOf (lines : List Line) : List Use :=
  (entriesOf lines).flatMap fun entry =>
    entry.1.statement.labels.map fun label => ⟨label, entry.1, entry.2⟩

/-- The first use of a label that no line has. -/
def firstMissing? (lines : List Line) : Option Use :=
  (usesOf lines).find? fun use => !(labelsOf lines).contains use.label

def Use.error (use : Use) : SyntaxError :=
  ⟨use.lineNo, Text.join [32] use.entry.words, .labelMissing use.label⟩

@[simp]
theorem links_codeLine (entry : Entry) (lineNo : Nat) (distance : Text → Int64) :
    (entry.codeLine lineNo distance).links = entry.statement.labels := by
  obtain ⟨words, statement⟩ := entry
  cases statement with
  | snd value => cases value <;> rfl
  | rcv r => rfl
  | update u r value => cases value <;> rfl
  | jgz test offset => cases test <;> cases offset <;> rfl

namespace Draft

@[simp]
theorem snd_linkLine (d : Draft) (n : Nat) (line : CodeLine) :
    (d.linkLine n line).2 =
      (line.links.find? fun label => !d.labels.contains label).map Cause.labelMissing := by
  obtain ⟨instruction, lineNo, words, linkA, linkB⟩ := line
  unfold linkLine distance CodeLine.links Table.contains
  cases linkA with
  | none =>
      cases linkB with
      | none => rfl
      | some second => cases found : d.labels.find? second <;> simp [found]
  | some first =>
      cases foundFirst : d.labels.find? first with
      | none => simp [foundFirst]
      | some _ =>
          cases linkB with
          | none => simp [foundFirst]
          | some second => cases found : d.labels.find? second <;> simp [foundFirst, found]

/-- Linking ends at the first line of code that has a missing label. -/
@[simp]
theorem snd_linkLines (d : Draft) (n : Nat) (code : List CodeLine) :
    (d.linkLines n code).2 = code.findSome? fun line =>
      (line.links.find? fun label => !d.labels.contains label).map fun label =>
        ⟨line.lineNo, Text.join [32] line.words, .labelMissing label⟩ := by
  induction code generalizing n with
  | nil => rfl
  | cons line rest inductionHypothesis =>
      have first := d.snd_linkLine n line
      rw [linkLines, List.findSome?_cons]
      rcases linking : d.linkLine n line with ⟨linked, _ | cause⟩
      · rw [linking] at first
        have none := Option.map_eq_none_iff.mp first.symm
        simp only [none, Option.map_none]
        exact inductionHypothesis (n + 1)
      · rw [linking] at first
        obtain ⟨label, found, rfl⟩ := Option.map_eq_some_iff.mp first.symm
        simp only [found, Option.map_some]

theorem Records.error_link {d : Draft} {predefined : List (Text × Text)} {lines : List Line}
    (records : d.Records predefined lines) :
    d.link.error = (firstMissing? lines).map Use.error := by
  have missing : ∀ label, (!d.labels.contains label) = !(labelsOf lines).contains label := by
    intro label
    rw [Table.contains, records.labels]
    by_cases defined : label ∈ labelsOf lines <;> simp [defined]
  have error : d.link.error = (d.linkLines 0 d.code.toList).2 := rfl
  rw [error, snd_linkLines, records.code, List.findSome?_map, firstMissing?, usesOf,
    List.find?_flatMap, List.map_findSome?]
  congr 1
  funext entry
  simp only [Function.comp_apply, links_codeLine, missing, List.find?_map, Option.map_map]
  rfl

theorem exists_labelMissing_of_link {d : Draft} {error : SyntaxError}
    (failed : d.link.error = some error) :
    ∃ label, error.cause = .labelMissing label := by
  have linking : d.link.error = (d.linkLines 0 d.code.toList).2 := rfl
  rw [linking, snd_linkLines] at failed
  obtain ⟨line, _, found⟩ := List.exists_of_findSome?_eq_some failed
  obtain ⟨label, _, rfl⟩ := Option.map_eq_some_iff.mp found
  exact ⟨label, rfl⟩

end Draft

/-! ### The whole source -/

section

variable {evaluator : Evaluator} {predefined : List (Text × Text)}

theorem assemble_of_failing_line {source line : Text} {d : Draft} {lineNo : Nat} {cause : Cause}
    (failed : (Draft.start predefined).addLines evaluator 0 [] (Source.read source).lines =
      (d, lineNo, line, some cause)) :
    assemble evaluator predefined source = ⟨d, some ⟨lineNo, line, cause⟩⟩ := by
  simp only [assemble, failed]

theorem assemble_of_read {source line : Text} {d : Draft} {lineNo : Nat}
    (read : (Draft.start predefined).addLines evaluator 0 [] (Source.read source).lines =
      (d, lineNo, line, none)) :
    assemble evaluator predefined source =
      if (Source.read source).tooLong then ⟨d, some ⟨lineNo, line, .lineTooLong⟩⟩
      else d.link := by
  simp only [assemble, read]

/-- The text is the first that cannot be read, after the texts above it, and this is the outcome. -/
structure Stops (evaluator : Evaluator) (predefined : List (Text × Text)) (above : List Text)
    (text : Text) (outcome : Outcome) : Prop where
  short : ∀ line ∈ above ++ [text], line.length < Source.lineLimit
  fails : ∃ middle before d cause,
    (Draft.start predefined).addLines evaluator 0 [] (above.map Source.dropReturn) =
      (middle, above.length, before, none) ∧
    middle.addLine evaluator (above.length + 1) (Source.strip (Source.dropReturn text)) =
      (d, some cause) ∧
    outcome = ⟨d, some ⟨above.length + 1, Source.strip (Source.dropReturn text), cause⟩⟩

namespace Stops

variable {above : List Text} {text : Text} {outcome : Outcome}

theorem assemble_eq (stops : Stops evaluator predefined above text outcome) {other : Text}
    (part : above ++ [text] <+: Source.rawLinesOf other) :
    assemble evaluator predefined other = outcome := by
  obtain ⟨more, whole⟩ := part
  obtain ⟨middle, before, d, cause, readAbove, fails, rfl⟩ := stops.fails
  apply assemble_of_failing_line
  rw [Source.lines_read_of_short whole.symm stops.short, List.map_append, List.append_assoc]
  exact Draft.addLines_of_failing_line readAbove fails _

theorem labelMissing_of_isPrefix (stops : Stops evaluator predefined above text outcome)
    {start : Text} (part : Source.rawLinesOf start <+: above) {error : SyntaxError}
    (failed : (assemble evaluator predefined start).error = some error) :
    ∃ label, error.cause = .labelMissing label := by
  obtain ⟨middle, before, d, cause, readAbove, _, _⟩ := stops.fails
  have short : ∀ line ∈ Source.rawLinesOf start, line.length < Source.lineLimit :=
    fun line listed => stops.short line (List.mem_append_left _ (part.subset listed))
  have read := Source.read_of_short short
  obtain ⟨reached, _, _, readStart⟩ :=
    Draft.addLines_of_isPrefix readAbove (part.map Source.dropReturn)
  rw [← Source.linesOf] at readStart
  rw [assemble_of_read (by rw [read]; exact readStart), read] at failed
  exact Draft.exists_labelMissing_of_link failed

theorem code_eq (stops : Stops evaluator predefined above text outcome) :
    ∃ lines, ReadsAll evaluator predefined [] (above.map Source.dropReturn) lines ∧
      outcome.draft.code.toList = (entriesOf lines).map fun entry =>
        entry.1.codeLine entry.2 unlinked := by
  obtain ⟨middle, before, d, cause, readAbove, fails, rfl⟩ := stops.fails
  obtain ⟨lines, reads, records⟩ :=
    Draft.readsAll_of_addLines (Draft.records_start predefined) readAbove
  refine ⟨lines, reads, ?_⟩
  rw [(Draft.addLine_eq_some fails).1]
  exact records.code

end Stops

/-- Assembling fails at a line, at one that is too long, or at a label after all
lines have been read. -/
theorem error_cases {source : Text} {error : SyntaxError}
    (failed : (assemble evaluator predefined source).error = some error) :
    (error.cause.IsLocal ∧ ∃ above text below,
      Source.rawLinesOf source = above ++ text :: below ∧
      Stops evaluator predefined above text (assemble evaluator predefined source)) ∨
    error.cause = .lineTooLong ∨
    (∀ line ∈ Source.rawLinesOf source, line.length < Source.lineLimit) ∧
      ∃ lines use, ReadsAll evaluator predefined [] (Source.linesOf source) lines ∧
        (labelsOf lines).Nodup ∧ firstMissing? lines = some use ∧ error = use.error := by
  rcases added : (Draft.start predefined).addLines evaluator 0 [] (Source.read source).lines with
    ⟨d, lineNo, line, _ | cause⟩
  · rw [assemble_of_read added] at failed
    split at failed
    next =>
      cases failed
      exact .inr (.inl rfl)
    next whole =>
      have short := Source.short_of_read (Bool.not_eq_true _ ▸ whole)
      rw [Source.read_of_short short] at added
      obtain ⟨lines, reads, records⟩ :=
        Draft.readsAll_of_addLines (Draft.records_start predefined) added
      rw [records.error_link] at failed
      obtain ⟨use, first, rfl⟩ := Option.map_eq_some_iff.mp failed
      exact .inr (.inr ⟨short, lines, use, reads, records.distinct, first, rfl⟩)
  · have outcome := assemble_of_failing_line added
    rw [outcome] at failed
    cases failed
    obtain ⟨_, _, _, middle, before, split, rfl, rfl, readAbove, fails⟩ :=
      Draft.exists_of_addLines_eq_some added
    obtain ⟨above, text, below, whole, rfl, rfl, short⟩ := Source.exists_raw_of_lines split
    simp only [Nat.zero_add, List.length_map] at readAbove fails outcome
    exact .inl ⟨(Draft.addLine_eq_some fails).2, above, text, below, whole, short, middle,
      before, d, cause, readAbove, fails, outcome⟩

end

/-- An error that is neither a missing label nor a line that is too long belongs to one line.
Every source that starts with the lines up to that one has the same outcome; a source of some of
the lines above it can fail at missing labels only; and the code that has been collected is that
of the lines above. A missing label is reported only if all lines can be read, and is the first
one that the program uses. -/
theorem first_error_is_reported (evaluator : Evaluator) (predefined : List (Text × Text))
    (source : Text) (error : SyntaxError)
    (failed : (assemble evaluator predefined source).error = some error) :
    (error.cause.IsLocal → ∃ above text below,
      Source.rawLinesOf source = above ++ text :: below ∧
      error.lineNo = above.length + 1 ∧ error.line = Source.strip (Source.dropReturn text) ∧
      (∀ other, above ++ [text] <+: Source.rawLinesOf other →
        assemble evaluator predefined other = assemble evaluator predefined source) ∧
      (∀ start, Source.rawLinesOf start <+: above → ∀ e,
        (assemble evaluator predefined start).error = some e →
          ∃ label, e.cause = .labelMissing label) ∧
      ∃ lines, ReadsAll evaluator predefined [] (above.map Source.dropReturn) lines ∧
        (assemble evaluator predefined source).draft.code.toList =
          (entriesOf lines).map fun entry => entry.1.codeLine entry.2 unlinked) ∧
    ∀ label, error.cause = .labelMissing label →
      (∀ line ∈ Source.rawLinesOf source, line.length < Source.lineLimit) ∧
      ∃ lines use, ReadsAll evaluator predefined [] (Source.linesOf source) lines ∧
        (labelsOf lines).Nodup ∧ firstMissing? lines = some use ∧ use.label = label ∧
        error.lineNo = use.lineNo ∧ error.line = Text.join [32] use.entry.words := by
  rcases error_cases failed with ⟨isLocal, above, text, below, whole, stops⟩ | tooLong |
    ⟨short, lines, use, reads, distinct, first, rfl⟩
  · constructor
    · intro _
      obtain ⟨_, _, _, _, _, _, outcome⟩ := stops.fails
      rw [outcome] at failed
      cases failed
      exact ⟨above, text, below, whole, rfl, rfl, fun other part => stops.assemble_eq part,
        fun start part e => stops.labelMissing_of_isPrefix part, stops.code_eq⟩
    · intro label missing
      exact absurd missing (isLocal.2 label)
  · constructor
    · intro isLocal
      exact absurd tooLong isLocal.1
    · intro label missing
      rw [tooLong] at missing
      contradiction
  · constructor
    · intro isLocal
      exact absurd rfl (isLocal.2 use.label)
    · intro label missing
      cases missing
      exact ⟨short, lines, use, reads, distinct, first, rfl, rfl, rfl⟩

/-- The second line cannot be read, whether or not the first one has its label below. -/
def extraArgument : Text := "snd @later\nsnd 1 2\n.equ"

theorem first_error_is_reported_extraArgument :
    (assemble sumOfEquates [] extraArgument).error = some ⟨2, "snd 1 2", .extraArguments⟩ ∧
      assemble sumOfEquates [] "snd @later\nsnd 1 2\nlater:" =
        assemble sumOfEquates [] extraArgument ∧
      (assemble sumOfEquates [] "jgz @first @second\nfirst:").error =
        some ⟨1, "jgz @first @second", .labelMissing "second"⟩ ∧
      ∃ lines use,
        ReadsAll sumOfEquates [] [] (Source.linesOf "jgz @first @second\nfirst:") lines ∧
          firstMissing? lines = some use ∧ use.label = "second" := by
  have failed : (assemble sumOfEquates [] extraArgument).error =
      some ⟨2, "snd 1 2", .extraArguments⟩ := by
    decide +kernel
  have missing : (assemble sumOfEquates [] "jgz @first @second\nfirst:").error =
      some ⟨1, "jgz @first @second", .labelMissing "second"⟩ := by decide +kernel
  obtain ⟨above, text, below, whole, number, _, same, _⟩ :=
    (first_error_is_reported sumOfEquates [] extraArgument _ failed).1 (by simp [Cause.IsLocal])
  obtain ⟨_, lines, use, reads, _, first, label, _⟩ :=
    (first_error_is_reported sumOfEquates [] _ _ missing).2 "second" rfl
  refine ⟨failed, same _ ?_, missing, lines, use, reads, first, label⟩
  have raw : Source.rawLinesOf extraArgument = (["snd @later", "snd 1 2", ".equ"] : List Text) := by
    decide +kernel
  obtain ⟨only, rfl⟩ := List.length_eq_one_iff.mp (Nat.succ.inj number).symm
  rw [raw] at whole
  cases whole
  decide +kernel

end Assembly

end Tandem

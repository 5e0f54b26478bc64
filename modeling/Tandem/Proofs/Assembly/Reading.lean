import Tandem.Proofs.Assembly.Layout
import Tandem.Proofs.Table
import Tandem.Proofs.Text.Blank

set_option autoImplicit false

/-!
The assembler's draft against the lines read so far. A line of the grammar changes the draft by
`record`, and `addLine` succeeds exactly for the texts that can be read in the scope of their line,
whose labels are new. `Records` says that a draft holds what some lines define; it is kept line by
line, so that after the last line the draft stands for the whole source.
-/

namespace Tandem.Assembly

/-! ### Blanks around a line -/

section

variable {evaluate : Text → Except Expr.Failure Int64}

theorem not_mem_of_isBlank {blank : Text} (isBlank : Text.IsBlank blank) {b : UInt8}
    (visible : 32 < b) (ascii : b < 128) : b ∉ blank := by
  intro listed
  rcases isBlank.bytes b listed with small | large
  · exact absurd visible (UInt8.not_lt.mpr small)
  · exact absurd ascii (UInt8.not_lt.mpr large)

theorem expanded_blanks_iff {before t after result : Text} (blankBefore : Text.IsBlank before)
    (blankAfter : Text.IsBlank after) :
    Expanded evaluate (before ++ t ++ after) result ↔
      ∃ inner, result = before ++ inner ++ after ∧ Expanded evaluate t inner := by
  have quiet : NoneStarts before (t ++ after) :=
    noneStarts_of_not_mem (not_mem_of_isBlank blankBefore (by decide) (by decide))
  rw [List.append_assoc, quiet.expanded_iff]
  simp only [expanded_append_iff (not_mem_of_isBlank blankAfter (by decide) (by decide))]
  constructor
  · rintro ⟨_, rfl, inner, rfl, expanded⟩
    exact ⟨inner, by simp, expanded⟩
  · rintro ⟨inner, rfl, expanded⟩
    exact ⟨inner ++ after, by simp, inner, rfl, expanded⟩

/-- Blanks at the ends of a line change neither its expressions nor its words. -/
theorem exists_expand_strip_iff (text : Text) (holds : List Text → Prop) :
    (∃ expanded, expand evaluate (Source.strip text) = .ok expanded ∧
      holds (Text.words expanded)) ↔
      ∃ expanded, Expanded evaluate (text.takeWhile (· ≠ 59)) expanded ∧
        holds (Text.words expanded) := by
  obtain ⟨before, after, blankBefore, blankAfter, whole⟩ :=
    Text.exists_trim (text.takeWhile (· ≠ 59))
  rw [whole]
  simp only [expanded_blanks_iff blankBefore blankAfter, expand_eq_ok_iff]
  constructor
  · rintro ⟨inner, expanded, satisfied⟩
    refine ⟨_, ⟨inner, rfl, expanded⟩, ?_⟩
    simpa [blankAfter, blankBefore] using satisfied
  · rintro ⟨_, ⟨inner, rfl, expanded⟩, satisfied⟩
    rw [Text.words_append_blank blankAfter, Text.words_blank_append blankBefore] at satisfied
    exact ⟨inner, expanded, satisfied⟩

theorem trim_eq_self {t : Text} (first : ∀ b ∈ t.head?, 32 < b ∧ b < 128)
    (last : ∀ b ∈ t.getLast?, 32 < b ∧ b < 128) : Text.trim t = t := by
  obtain ⟨before, after, blankBefore, blankAfter, split⟩ := Text.exists_trim t
  have noneBefore : before = [] := by
    cases before with
    | nil => rfl
    | cons b before =>
        obtain ⟨visible, ascii⟩ := first b (by rw [split]; rfl)
        exact absurd (by simp) (not_mem_of_isBlank blankBefore visible ascii)
  have noneAfter : after = [] := by
    rcases List.eq_nil_or_concat after with nothing | ⟨front, b, rfl⟩
    · exact nothing
    · obtain ⟨visible, ascii⟩ := last b (by rw [split]; simp)
      exact absurd (by simp) (not_mem_of_isBlank blankAfter visible ascii)
  rw [noneBefore, noneAfter, List.nil_append, List.append_nil] at split
  exact split.symm

end

/-! ### The number of a line -/

/-- The draft while a line is being read. -/
def Draft.numbered (d : Draft) (lineNo : Nat) : Draft :=
  { d with equates := d.equates.insert lineNumberName (Text.ofNat lineNo) }

theorem Draft.addLine_eq (evaluator : Evaluator) (d : Draft) (lineNo : Nat) (line : Text) :
    d.addLine evaluator lineNo line =
      match expand (evaluator (d.numbered lineNo).numbers) line with
      | .error cause => (d.numbered lineNo, some cause)
      | .ok expanded => (d.numbered lineNo).addWords lineNo (Text.words expanded) := rfl

@[simp]
theorem Draft.find?_numbered (d : Draft) {word : Text} (other : word ≠ lineNumberName)
    (lineNo : Nat) :
    (d.numbered lineNo).equates.find? word = d.equates.find? word := by
  rw [numbered, Table.find?_insert, if_neg other]

/-! ### The words of a line -/

@[simp]
theorem reads_nil_iff {scope : Table Text} {line : Line} :
    Reads scope [] line ↔ line = .code [] none := by
  constructor
  · intro reads
    generalize written : ([] : List Text) = words at reads
    cases reads with
    | equate => contradiction
    | labels legal =>
        obtain rfl := List.map_eq_nil_iff.mp written.symm
        rfl
    | instruction => simp at written
  · rintro rfl
    have blank : ∀ label ∈ ([] : List Text), isLabel label = true := by simp
    exact Reads.labels blank

theorem reads_equate_iff {scope : Table Text} {rest : List Text} {line : Line} :
    Reads scope (".equ" :: rest) line ↔
      ∃ name word, rest = [name, word] ∧ 2 ≤ name.length ∧ isLabel name = true ∧
        scope.find? name = none ∧ line = .equate name word := by
  constructor
  · intro reads
    generalize written : (".equ" : Text) :: rest = words at reads
    -- a label ends in a colon, and `.equ` does not
    have notLabel : ∀ label : Text, (".equ" : Text) ≠ label ++ [58] := by
      intro label same
      have ending := congrArg List.getLast? same
      rw [List.getLast?_concat] at ending
      exact absurd ending (by decide)
    cases reads with
    | equate long legal absent =>
        cases written
        exact ⟨_, _, rfl, long, legal, absent, rfl⟩
    | @labels labels legal =>
        cases labels with
        | nil => contradiction
        | cons label labels => exact absurd (List.cons.inj written).1 (notLabel label)
    | @instruction labels first _ _ legal _ notEquate _ =>
        cases labels with
        | nil => exact absurd (List.cons.inj written).1.symm (notEquate rfl)
        | cons label labels => exact absurd (List.cons.inj written).1 (notLabel label)
  · rintro ⟨name, word, rfl, long, legal, absent, rfl⟩
    exact .equate long legal absent

theorem reads_code_iff {scope : Table Text} {first : Text} {rest : List Text} {line : Line}
    (notEquate : first ≠ ".equ") :
    Reads scope (first :: rest) line ↔
      ∃ labels words, first :: rest = labels.map (· ++ [58]) ++ words ∧
        (∀ label ∈ labels, isLabel label = true) ∧
          (∀ word ∈ words.head?, word.getLast? ≠ some 58) ∧
        (words = [] ∧ line = .code labels none ∨
          ∃ statement, Spells (words.map (substitute scope)) statement ∧
            line = .code labels (some ⟨words.map (substitute scope), statement⟩)) := by
  constructor
  · intro reads
    generalize written : first :: rest = words at reads
    cases reads with
    | equate => exact absurd (List.cons.inj written).1 notEquate
    | @labels labels legal => exact ⟨labels, [], by simp, legal, by simp, .inl ⟨rfl, rfl⟩⟩
    | @instruction labels word words statement legal unmarked _ spells =>
        exact ⟨labels, word :: words, rfl, legal, by simpa using unmarked,
          .inr ⟨statement, spells, rfl⟩⟩
  · rintro ⟨labels, words, written, legal, unmarked,
      ⟨rfl, rfl⟩ | ⟨statement, spells, rfl⟩⟩
    · rw [written, List.append_nil]
      exact .labels legal
    · cases words with
      | nil => contradiction
      | cons word words =>
          rw [written]
          refine .instruction legal (unmarked word rfl) ?_ spells
          rintro rfl same
          exact notEquate ((List.cons.inj written).1.trans same)

namespace Draft

/-! ### One line -/

/-- The draft with labels for the next instruction. -/
def mark (d : Draft) (labels : List Text) : Draft :=
  { d with labels := d.labels.insertAll (labels.map fun label => (label, d.code.size)) }

def push (d : Draft) (lineNo : Nat) (entry : Entry) : Draft :=
  { d with code := d.code.push (entry.codeLine lineNo unlinked) }

/-- The draft after a line. -/
def record (d : Draft) (lineNo : Nat) : Line → Draft
  | .equate name word => { d with equates := d.equates.insert name word }
  | .code labels none => d.mark labels
  | .code labels (some entry) => (d.mark labels).push lineNo entry

def inScope (d : Draft) (scope : Table Text) : Draft := { d with equates := scope }

/-- The labels are new. -/
def Admits (d : Draft) (labels : List Text) : Prop :=
  labels.Nodup ∧ ∀ label ∈ labels, d.labels.find? label = none

@[simp]
theorem admits_cons {d : Draft} {label : Text} {labels : List Text} :
    d.Admits (label :: labels) ↔ d.labels.find? label = none ∧
      (d.mark [label]).Admits labels := by
  have marked : ∀ name, (d.mark [label]).labels.find? name =
      if name = label then some d.code.size else d.labels.find? name :=
    fun name => Table.find?_insert _ _ name _
  simp only [Admits, marked, List.nodup_cons, List.forall_mem_cons]
  constructor
  · rintro ⟨⟨fresh, distinct⟩, absent, others⟩
    refine ⟨absent, distinct, fun name listed => ?_⟩
    have differs : name ≠ label := fun same => fresh (same ▸ listed)
    rw [if_neg differs]
    exact others name listed
  · rintro ⟨absent, distinct, others⟩
    have differs : ∀ name ∈ labels, name ≠ label := by
      rintro name listed rfl
      simpa using others name listed
    refine ⟨⟨fun listed => differs label listed rfl, distinct⟩, absent,
      fun name listed => ?_⟩
    have unmarked := others name listed
    rwa [if_neg (differs name listed)] at unmarked

theorem defineEquate_eq_ok_iff {d next : Draft} {words : List Text} :
    d.defineEquate words = .ok next ↔
      ∃ name word, words = [name, word] ∧ 2 ≤ name.length ∧ isLabel name = true ∧
        d.equates.find? name = none ∧
          next = { d with equates := d.equates.insert name word } := by
  unfold defineEquate
  split
  next name word =>
    split
    next refused =>
      simp only [reduceCtorEq, false_iff]
      rintro ⟨_, _, same, long, legal, _, _⟩
      cases same
      simp only [legal, Bool.not_true, Bool.or_false, decide_eq_true_eq] at refused
      omega
    next admitted =>
      simp only [Bool.or_eq_true, decide_eq_true_eq, Bool.not_eq_true', not_or, Nat.not_lt,
        Bool.not_eq_false] at admitted
      split
      next known =>
        simp only [reduceCtorEq, false_iff]
        rintro ⟨_, _, same, _, _, absent, _⟩
        cases same
        rw [Table.contains, absent] at known
        contradiction
      next unknown =>
        rw [Table.contains, Bool.not_eq_true, Option.isSome_eq_false_iff,
          Option.isNone_iff_eq_none] at unknown
        constructor
        · intro defined
          cases defined
          exact ⟨name, word, rfl, admitted.1, admitted.2, unknown, rfl⟩
        · rintro ⟨_, _, same, _, _, _, rfl⟩
          cases same
          rfl
  next other =>
    simp only [reduceCtorEq, false_iff]
    rintro ⟨name, word, rfl, _⟩
    exact other name word rfl

/-- The words start with new labels, which are marked, and the rest does not. -/
def Marks (d : Draft) (words : List Text) (marked : Draft) (rest : List Text) : Prop :=
  ∃ labels, words = labels.map (· ++ [58]) ++ rest ∧
    (∀ label ∈ labels, isLabel label = true) ∧
    (∀ word ∈ rest.head?, word.getLast? ≠ some 58) ∧ d.Admits labels ∧
      marked = d.mark labels

theorem marks_iff_of_unmarked {d marked : Draft} {words rest : List Text}
    (unmarked : ∀ word ∈ words.head?, word.getLast? ≠ some 58) :
    d.Marks words marked rest ↔ marked = d ∧ rest = words := by
  constructor
  · rintro ⟨labels, written, _, _, _, rfl⟩
    cases labels with
    | nil => exact ⟨rfl, written.symm⟩
    | cons label labels =>
        have colon : (label ++ [58]).getLast? = some 58 := List.getLast?_concat
        exact absurd colon (unmarked _ (by rw [written]; rfl))
  · rintro ⟨rfl, rfl⟩
    exact ⟨[], rfl, by simp, unmarked, by simp [Admits], rfl⟩

/-- The words that follow a label are read with that label marked. -/
@[simp]
theorem marks_label_iff {d marked : Draft} {label : Text} {words rest : List Text} :
    d.Marks ((label ++ [58]) :: words) marked rest ↔
      isLabel label = true ∧ d.labels.find? label = none ∧
        (d.mark [label]).Marks words marked rest := by
  constructor
  · rintro ⟨labels, written, legal, unmarked, admitted, rfl⟩
    cases labels with
    | nil =>
        have colon : (label ++ [58]).getLast? = some 58 := List.getLast?_concat
        rw [List.map_nil, List.nil_append] at written
        rw [← written] at unmarked
        exact absurd colon (unmarked _ rfl)
    | cons other labels =>
        obtain ⟨same, others⟩ := List.cons.inj written
        obtain rfl := List.append_cancel_right same
        rw [List.forall_mem_cons] at legal
        obtain ⟨absent, admitted⟩ := admits_cons.mp admitted
        exact ⟨legal.1, absent, labels, others, legal.2, unmarked, admitted, rfl⟩
  · rintro ⟨legal, absent, labels, rfl, legalRest, unmarked, admitted, rfl⟩
    exact ⟨label :: labels, rfl, List.forall_mem_cons.mpr ⟨legal, legalRest⟩, unmarked,
      admits_cons.mpr ⟨absent, admitted⟩, rfl⟩

@[simp]
theorem defineLabels_eq_ok_iff {d marked : Draft} {words rest : List Text} :
    d.defineLabels words = (marked, .ok rest) ↔ d.Marks words marked rest := by
  induction words generalizing d with
  | nil =>
      rw [marks_iff_of_unmarked (by simp), defineLabels]
      simp [eq_comm]
  | cons word words inductionHypothesis =>
      rw [defineLabels]
      by_cases colon : word.getLast? = some 58
      · obtain ⟨label, rfl⟩ : ∃ label, word = label ++ [58] :=
          List.getLast?_eq_some_iff.mp colon
        rw [if_pos colon, marks_label_iff, ← inductionHypothesis]
        simp only [List.dropLast_concat]
        by_cases legal : isLabel label = true
        · rw [if_neg (by simp [legal])]
          cases found : d.labels.find? label with
          | none =>
              rw [if_neg (by simp [Table.contains, found])]
              exact ⟨fun defined => ⟨legal, rfl, defined⟩, fun marks => marks.2.2⟩
          | some place => simp [Table.contains, found]
        · simp [legal]
      · rw [if_neg colon, marks_iff_of_unmarked (by simpa using colon)]
        simp [eq_comm]

theorem addCode_eq_none_iff {d next : Draft} {lineNo : Nat} {words : List Text}
    (written : words ≠ []) :
    d.addCode lineNo words = (next, none) ↔
      ∃ statement, Spells words statement ∧ next = d.push lineNo ⟨words, statement⟩ := by
  cases words with
  | nil => contradiction
  | cons mnemonic operands =>
      rw [addCode]
      cases read : codeLine lineNo mnemonic operands with
      | error cause =>
          simp only [Prod.mk.injEq, reduceCtorEq, and_false, false_iff]
          rintro ⟨statement, spells, _⟩
          rw [codeLine_eq_ok_of_spells spells] at read
          contradiction
      | ok line =>
          simp only [Prod.mk.injEq, and_true]
          obtain ⟨statement, spells, rfl⟩ := codeLine_eq_ok_iff.mp read
          constructor
          · rintro rfl
            exact ⟨statement, spells, rfl⟩
          · rintro ⟨other, spellsOther, rfl⟩
            rw [codeLine_eq_ok_of_spells spellsOther] at read
            rw [push, Except.ok.inj read]

theorem addWords_equate_eq_none_iff {d next : Draft} {lineNo : Nat} {rest : List Text} :
    d.addWords lineNo (".equ" :: rest) = (next, none) ↔
      ∃ line, Reads d.equates (".equ" :: rest) line ∧ d.Admits line.labels ∧
        next = d.record lineNo line := by
  have defined : d.addWords lineNo (".equ" :: rest) = (next, none) ↔
      d.defineEquate rest = .ok next := by
    rw [addWords, if_pos rfl]
    cases d.defineEquate rest <;> simp
  rw [defined, defineEquate_eq_ok_iff]
  simp only [reads_equate_iff]
  constructor
  · rintro ⟨name, word, rfl, long, legal, absent, rfl⟩
    refine ⟨.equate name word, ⟨name, word, rfl, long, legal, absent, rfl⟩, ?_, rfl⟩
    simp [Line.labels, Admits]
  · rintro ⟨_, ⟨name, word, rfl, long, legal, absent, rfl⟩, _, rfl⟩
    exact ⟨name, word, rfl, long, legal, absent, rfl⟩

theorem addWords_code_eq_none_iff {d next : Draft} {lineNo : Nat} {first : Text} {rest : List Text}
    (notEquate : first ≠ ".equ") :
    d.addWords lineNo (first :: rest) = (next, none) ↔
      ∃ line, Reads d.equates (first :: rest) line ∧ d.Admits line.labels ∧
        next = d.record lineNo line := by
  have defined : d.addWords lineNo (first :: rest) = (next, none) ↔
      ∃ marked words, d.defineLabels (first :: rest) = (marked, .ok words) ∧
        marked.addCode lineNo (words.map marked.replace) = (next, none) := by
    rw [addWords, if_neg notEquate]
    obtain ⟨marked, result⟩ := d.defineLabels (first :: rest)
    cases result with
    | error cause => simp
    | ok words =>
        constructor
        · intro added
          exact ⟨marked, words, rfl, added⟩
        · rintro ⟨_, _, same, added⟩
          cases same
          exact added
  rw [defined]
  simp only [defineLabels_eq_ok_iff, Marks, reads_code_iff notEquate]
  constructor
  · rintro ⟨_, words, ⟨labels, written, legal, unmarked, admitted, rfl⟩, added⟩
    cases words with
    | nil =>
        cases added
        exact ⟨.code labels none, ⟨labels, [], written, legal, unmarked, .inl ⟨rfl, rfl⟩⟩,
          admitted, rfl⟩
    | cons word words =>
        obtain ⟨statement, spells, rfl⟩ := (addCode_eq_none_iff (by simp)).mp added
        exact ⟨.code labels (some _), ⟨labels, word :: words, written, legal, unmarked,
          .inr ⟨statement, spells, rfl⟩⟩, admitted, rfl⟩
  · rintro ⟨_, ⟨labels, words, written, legal, unmarked, contents⟩, admitted, rfl⟩
    rcases contents with ⟨rfl, rfl⟩ | ⟨statement, spells, rfl⟩
    · exact ⟨_, [], ⟨labels, written, legal, unmarked, admitted, rfl⟩, rfl⟩
    · refine ⟨_, words, ⟨labels, written, legal, unmarked, admitted, rfl⟩, ?_⟩
      have some : words.map (substitute d.equates) ≠ [] := by
        intro none
        rw [none] at spells
        cases spells
      exact (addCode_eq_none_iff some).mpr ⟨statement, spells, rfl⟩

theorem addWords_eq_none_iff {d next : Draft} {lineNo : Nat} {words : List Text} :
    d.addWords lineNo words = (next, none) ↔
      ∃ line, Reads d.equates words line ∧ d.Admits line.labels ∧
        next = d.record lineNo line := by
  cases words with
  | nil =>
      simp only [addWords, reads_nil_iff, Prod.mk.injEq, and_true]
      constructor
      · rintro rfl
        exact ⟨_, rfl, by simp [Line.labels, Admits], rfl⟩
      · rintro ⟨_, rfl, _, rfl⟩
        rfl
  | cons first rest =>
      by_cases directive : first = ".equ"
      · subst directive
        exact addWords_equate_eq_none_iff
      · exact addWords_code_eq_none_iff directive

/-! ### All lines -/

/-- The draft holds what the lines define, and its code is not linked yet. -/
structure Records (d : Draft) (predefined : List (Text × Text)) (lines : List Line) : Prop where
  distinct : (labelsOf lines).Nodup
  labels : ∀ label, d.labels.find? label =
    if label ∈ labelsOf lines then some (placeOf lines label) else none
  equates : (d.equates.filter fun entry => entry.1 != lineNumberName) = equatesOf predefined lines
  code : d.code.toList = (entriesOf lines).map fun entry => entry.1.codeLine entry.2 unlinked

theorem records_start (predefined : List (Text × Text)) :
    (start predefined).Records predefined [] where
  distinct := .nil
  labels := fun _ => rfl
  equates := by
    have builtin :
        (Table.ofEntries builtinEquates).filter (fun entry => entry.1 != lineNumberName) =
        Table.empty.filter fun entry => entry.1 != lineNumberName := by decide
    exact Table.filter_ne_insertAll builtin predefined
  code := rfl

@[simp]
theorem find?_labels_record (d : Draft) (lineNo : Nat) (line : Line) (label : Text) :
    (d.record lineNo line).labels.find? label =
      if label ∈ line.labels then some d.code.size else d.labels.find? label := by
  match line with
  | .equate name word => simp [record, Line.labels]
  | .code labels none => exact Table.find?_insertAll_const _ _ _ _
  | .code labels (some entry) => exact Table.find?_insertAll_const _ _ _ _

@[simp]
theorem toList_code_record (d : Draft) (lineNo : Nat) (line : Line) :
    (d.record lineNo line).code.toList =
      d.code.toList ++
        (line.instruction?.map fun entry => entry.codeLine lineNo unlinked).toList := by
  match line with
  | .equate name word => simp [record, Line.instruction?]
  | .code labels none => simp [record, mark, Line.instruction?]
  | .code labels (some entry) => simp [record, mark, push, Line.instruction?]

theorem equates_record {d : Draft} {words : List Text} {line : Line}
    (reads : Reads d.equates words line) (lineNo : Nat) :
    (d.record lineNo line).equates = line.equate?.toList ++ d.equates := by
  cases reads with
  | equate _ _ absent => exact Table.insert_of_find?_eq_none absent _
  | labels _ => rfl
  | instruction _ _ _ _ => rfl

namespace Records

variable {d : Draft} {predefined : List (Text × Text)} {lines : List Line}

theorem size_code (records : d.Records predefined lines) :
    d.code.size = (entriesOf lines).length := by
  rw [← Array.length_toList, records.code, List.length_map]

theorem admits_iff (records : d.Records predefined lines) (line : Line) :
    d.Admits line.labels ↔ (labelsOf (lines ++ [line])).Nodup := by
  have absent_iff : ∀ label, d.labels.find? label = none ↔ label ∉ labelsOf lines := by
    intro label
    rw [records.labels]
    by_cases listed : label ∈ labelsOf lines <;> simp [listed]
  rw [labelsOf_append, labelsOf_singleton, List.nodup_append]
  simp only [Admits, absent_iff]
  constructor
  · rintro ⟨distinct, fresh⟩
    refine ⟨records.distinct, distinct, ?_⟩
    rintro label above _ below rfl
    exact fresh label below above
  · rintro ⟨_, distinct, apart⟩
    exact ⟨distinct, fun label below above => apart label above label below rfl⟩

theorem equate?_ne_lineNumberName {words : List Text} {line : Line}
    (reads : Reads (scopeAfter predefined lines) words line) :
    ∀ entry ∈ line.equate?, entry.1 ≠ lineNumberName := by
  cases reads with
  | equate _ _ absent =>
      rintro _ ⟨⟩ rfl
      rw [scopeAfter, Table.find?_cons, if_pos rfl] at absent
      contradiction
  | labels _ => simp [Line.equate?]
  | instruction _ _ _ _ => simp [Line.equate?]

/-- One line more. -/
theorem record (records : d.Records predefined lines) {words : List Text} {line : Line}
    (scope : d.equates = scopeAfter predefined lines) (reads : Reads d.equates words line)
    (admitted : d.Admits line.labels) :
    (d.record (lines.length + 1) line).Records predefined (lines ++ [line]) where
  distinct := (records.admits_iff line).mp admitted
  labels := by
    intro label
    rw [find?_labels_record, labelsOf_append, labelsOf_singleton, records.labels, records.size_code]
    by_cases below : label ∈ line.labels
    · have above : label ∉ labelsOf lines := by
        have absent := admitted.2 label below
        rw [records.labels] at absent
        intro listed
        rw [if_pos listed] at absent
        contradiction
      rw [if_pos below, if_pos (List.mem_append_right _ below),
        placeOf_append_of_not_mem above below]
    · rw [if_neg below]
      by_cases above : label ∈ labelsOf lines
      · rw [if_pos above, if_pos (List.mem_append_left _ above), placeOf_append_of_mem above]
      · rw [if_neg above, if_neg (by simp [above, below])]
  equates := by
    rw [equates_record reads, List.filter_append, records.equates, equatesOf_append_singleton]
    congr 1
    apply List.filter_eq_self.mpr
    intro entry defined
    rw [scope] at reads
    exact bne_iff_ne.mpr (equate?_ne_lineNumberName reads entry (Option.mem_toList.mp defined))
  code := by
    rw [toList_code_record, records.code, entriesOf_append_singleton, List.map_append]
    cases line.instruction? <;> rfl

/-- The number of the next line is not one of the equates that count. -/
theorem atNextLine (records : d.Records predefined lines) :
    (d.inScope (scopeAfter predefined lines)).Records predefined lines where
  distinct := records.distinct
  labels := records.labels
  equates := by
    rw [inScope, scopeAfter, ← records.equates]
    simp
  code := records.code

theorem addLine_eq_none_iff (records : d.Records predefined lines) {evaluator : Evaluator}
    {text : Text} {next : Draft} :
    d.addLine evaluator (lines.length + 1) (Source.strip text) = (next, none) ↔
      ∃ line, ReadsText evaluator (scopeAfter predefined lines) text line ∧
        (labelsOf (lines ++ [line])).Nodup ∧
        next = (d.inScope (scopeAfter predefined lines)).record (lines.length + 1) line := by
  have numbered :
      { d with equates := d.equates.insert lineNumberName (Text.ofNat (lines.length + 1)) } =
      d.inScope (scopeAfter predefined lines) := by
    rw [Table.insert, records.equates]
    rfl
  have added : d.addLine evaluator (lines.length + 1) (Source.strip text) = (next, none) ↔
      ∃ expanded, expand (evaluator (numbersOf (scopeAfter predefined lines)))
        (Source.strip text) =
          .ok expanded ∧
        (d.inScope (scopeAfter predefined lines)).addWords (lines.length + 1)
          (Text.words expanded) = (next, none) := by
    have numbers : (d.inScope (scopeAfter predefined lines)).numbers =
        numbersOf (scopeAfter predefined lines) := rfl
    simp only [Draft.addLine, numbered, numbers]
    cases expand (evaluator (numbersOf (scopeAfter predefined lines))) (Source.strip text) <;> simp
  rw [added, exists_expand_strip_iff text fun words =>
    (d.inScope (scopeAfter predefined lines)).addWords (lines.length + 1) words = (next, none)]
  simp only [addWords_eq_none_iff, records.atNextLine.admits_iff]
  constructor
  · rintro ⟨expanded, expansion, line, reads, distinct, rfl⟩
    exact ⟨line, ⟨expanded, expansion, reads⟩, distinct, rfl⟩
  · rintro ⟨line, ⟨expanded, expansion, reads⟩, distinct, rfl⟩
    exact ⟨expanded, expansion, line, reads, distinct, rfl⟩

/-- A line that can be read, with new labels, is recorded. -/
theorem addLine (records : d.Records predefined lines) {evaluator : Evaluator} {text : Text}
    {line : Line} (reads : ReadsText evaluator (scopeAfter predefined lines) text line)
    (distinct : (labelsOf (lines ++ [line])).Nodup) :
    ((d.inScope (scopeAfter predefined lines)).record (lines.length + 1) line).Records predefined
      (lines ++ [line]) := by
  obtain ⟨_, _, reads⟩ := reads
  exact records.atNextLine.record rfl reads ((records.atNextLine.admits_iff line).mpr distinct)

end Records

variable {evaluator : Evaluator} {predefined : List (Text × Text)}

theorem readsAll_of_addLines {d final : Draft} {above : List Line} {last line : Text} {lineNo : Nat}
    {texts : List Text} (records : d.Records predefined above)
    (added : d.addLines evaluator above.length last texts = (final, lineNo, line, none)) :
    ∃ lines, ReadsAll evaluator predefined above texts lines ∧
      final.Records predefined (above ++ lines) := by
  induction texts generalizing d above last with
  | nil =>
      cases added
      exact ⟨[], .nil, by rwa [List.append_nil]⟩
  | cons text texts inductionHypothesis =>
      rw [addLines] at added
      rcases step : d.addLine evaluator (above.length + 1) (Source.strip text)
        with ⟨next, _ | cause⟩
      · rw [step] at added
        obtain ⟨line, reads, distinct, rfl⟩ := records.addLine_eq_none_iff.mp step
        have length : (above ++ [line]).length = above.length + 1 := List.length_append
        obtain ⟨lines, readsAll, final⟩ :=
          inductionHypothesis (records.addLine reads distinct) (by rw [length]; exact added)
        exact ⟨line :: lines, .cons reads readsAll, by rwa [List.append_assoc] at final⟩
      · rw [step] at added
        cases added

theorem addLines_of_readsAll {d : Draft} {above lines : List Line} {texts : List Text}
    (records : d.Records predefined above) (reads : ReadsAll evaluator predefined above texts lines)
    (distinct : (labelsOf (above ++ lines)).Nodup) (last : Text) :
    ∃ final lineNo line, d.addLines evaluator above.length last texts =
      (final, lineNo, line, none) ∧ final.Records predefined (above ++ lines) := by
  induction reads generalizing d last with
  | nil => exact ⟨d, _, last, rfl, by rwa [List.append_nil]⟩
  | @cons above lines line text texts reads readsAll inductionHypothesis =>
      have regrouped : above ++ line :: lines = (above ++ [line]) ++ lines := by simp
      rw [regrouped] at distinct ⊢
      have distinctHere : (labelsOf (above ++ [line])).Nodup := by
        rw [labelsOf_append] at distinct
        exact (List.nodup_append.mp distinct).1
      have step := records.addLine_eq_none_iff.mpr ⟨line, reads, distinctHere, rfl⟩
      have length : (above ++ [line]).length = above.length + 1 := List.length_append
      have rest :=
        inductionHypothesis (records.addLine reads distinctHere) distinct (Source.strip text)
      rw [length] at rest
      rw [addLines, step]
      exact rest

end Draft

end Tandem.Assembly

import Tandem.Assembly.Assembler
import Tandem.Proofs.Assembly.Expansion
import Tandem.Proofs.Assembly.Grammar

set_option autoImplicit false

/-!
What a source text means, without an assembler. First every line is read for itself: its comment is
cut off, its expressions are replaced, and its words are a line of the grammar. It is read in a
scope, which holds the predefined equates, those of the lines above it, and its own number. Then the
lines are laid out: a label marks the number of instructions above it, and an operand `@name` of
instruction `n` is the distance from `n` to there.

A line that starts with `.equ` is never an instruction, and the words at the start of a line that
end in a colon are always its labels.
-/

namespace Tandem.Assembly

inductive Line where
  | equate (name word : Text)
  | code (labels : List Text) (entry : Option Entry)

namespace Line

def labels : Line → List Text
  | .equate _ _ => []
  | .code labels _ => labels

def instruction? : Line → Option Entry
  | .equate _ _ => none
  | .code _ entry => entry

def equate? : Line → Option (Text × Text)
  | .equate name word => some (name, word)
  | .code _ _ => none

end Line

/-! ### One line -/

/-- Replaces a word that names an equate. -/
def substitute (scope : Table Text) (word : Text) : Text := (scope.find? word).getD word

/-- The words of a line. A line without labels and without an instruction is blank. -/
inductive Reads (scope : Table Text) : List Text → Line → Prop where
  | equate {name word : Text} :
      2 ≤ name.length → isLabel name = true → scope.find? name = none →
      Reads scope [".equ", name, word] (.equate name word)
  | labels {labels : List Text} : (∀ label ∈ labels, isLabel label = true) →
      Reads scope (labels.map (· ++ [58])) (.code labels none)
  | instruction {labels : List Text} {first : Text} {rest : List Text} {statement : Statement} :
      (∀ label ∈ labels, isLabel label = true) → first.getLast? ≠ some 58 →
      (labels = [] → first ≠ ".equ") →
      Spells ((first :: rest).map (substitute scope)) statement →
      Reads scope (labels.map (· ++ [58]) ++ first :: rest)
        (.code labels (some ⟨(first :: rest).map (substitute scope), statement⟩))

/-- The equates that expressions may use. -/
def numbersOf (scope : Table Text) : Table Int64 :=
  scope.filterMap fun (name, word) => (Numeral.value? word).map fun n => (name, n)

def ReadsText (evaluator : Evaluator) (scope : Table Text) (text : Text) (line : Line) : Prop :=
  ∃ expanded, Expanded (evaluator (numbersOf scope)) (text.takeWhile (· ≠ 59)) expanded ∧
    Reads scope (Text.words expanded) line

/-! ### All lines -/

/-- The predefined equates and those of some lines, the last one first. -/
def equatesOf (predefined : List (Text × Text)) (lines : List Line) : Table Text :=
  (lines.filterMap Line.equate?).reverse ++
    (Table.ofEntries predefined).filter fun entry => entry.1 != lineNumberName

/-- The scope of the line that comes after some lines. -/
def scopeAfter (predefined : List (Text × Text)) (lines : List Line) : Table Text :=
  (lineNumberName, Text.ofNat (lines.length + 1)) :: equatesOf predefined lines

/-- The texts that follow some lines, read one after the other. -/
inductive ReadsAll (evaluator : Evaluator) (predefined : List (Text × Text)) :
    List Line → List Text → List Line → Prop where
  | nil {above : List Line} : ReadsAll evaluator predefined above [] []
  | cons {above lines : List Line} {line : Line} {text : Text} {texts : List Text} :
      ReadsText evaluator (scopeAfter predefined above) text line →
      ReadsAll evaluator predefined (above ++ [line]) texts lines →
      ReadsAll evaluator predefined above (text :: texts) (line :: lines)

def labelsOf (lines : List Line) : List Text := lines.flatMap Line.labels

/-- The instructions with the numbers of their lines. -/
def entriesOf (lines : List Line) : List (Entry × Nat) :=
  (lines.zipIdx 1).filterMap fun line => line.1.instruction?.map fun entry => (entry, line.2)

/-- The number of instructions above the line that has the label. -/
def placeOf (lines : List Line) (label : Text) : Nat :=
  (entriesOf (lines.takeWhile fun line => label ∉ line.labels)).length

def distanceFrom (lines : List Line) (n : Nat) (label : Text) : Int64 :=
  Int64.ofInt ((placeOf lines label : Int) - n)

def programOf (lines : List Line) : Program :=
  ⟨((entriesOf lines).zipIdx.map fun entry =>
    entry.1.1.codeLine entry.1.2 (distanceFrom lines entry.2)).toArray⟩

/-- Every label that is used stands on some line. -/
def IsClosed (lines : List Line) : Prop :=
  ∀ entry ∈ entriesOf lines, ∀ label ∈ entry.1.statement.labels, label ∈ labelsOf lines

/-! ### One line more -/

@[simp]
theorem labelsOf_append (lines more : List Line) :
    labelsOf (lines ++ more) = labelsOf lines ++ labelsOf more :=
  List.flatMap_append

@[simp]
theorem labelsOf_singleton (line : Line) : labelsOf [line] = line.labels := by
  simp [labelsOf]

theorem entriesOf_append (lines more : List Line) :
    entriesOf (lines ++ more) =
      entriesOf lines ++ (more.zipIdx (lines.length + 1)).filterMap fun line =>
        line.1.instruction?.map fun entry => (entry, line.2) := by
  simp only [entriesOf, List.zipIdx_append, List.filterMap_append, Nat.add_comm 1]

@[simp]
theorem entriesOf_append_singleton (lines : List Line) (line : Line) :
    entriesOf (lines ++ [line]) =
      entriesOf lines ++ (line.instruction?.map fun entry => (entry, lines.length + 1)).toList := by
  rw [entriesOf_append]
  cases h : line.instruction? <;> simp [h]

@[simp]
theorem equatesOf_append_singleton (predefined : List (Text × Text)) (lines : List Line)
    (line : Line) :
    equatesOf predefined (lines ++ [line]) = line.equate?.toList ++ equatesOf predefined lines := by
  cases line <;> simp [equatesOf, Line.equate?]

theorem takeWhile_append_of_mem {lines : List Line} {label : Text}
    (defined : label ∈ labelsOf lines) (more : List Line) :
    (lines ++ more).takeWhile (fun line => label ∉ line.labels) =
      lines.takeWhile fun line => label ∉ line.labels := by
  induction lines with
  | nil => contradiction
  | cons line lines inductionHypothesis =>
      by_cases here : label ∈ line.labels
      · simp [here]
      · have below : label ∈ labelsOf lines := by
          rcases List.mem_append.mp defined with inLine | below
          · contradiction
          · exact below
        simp only [decide_not] at inductionHypothesis
        simp [here, inductionHypothesis below]

theorem placeOf_append_of_mem {lines : List Line} {label : Text}
    (defined : label ∈ labelsOf lines) (more : List Line) :
    placeOf (lines ++ more) label = placeOf lines label := by
  rw [placeOf, takeWhile_append_of_mem defined]
  rfl

theorem placeOf_append_of_not_mem {lines : List Line} {line : Line} {label : Text}
    (absent : label ∉ labelsOf lines) (defined : label ∈ line.labels) :
    placeOf (lines ++ [line]) label = (entriesOf lines).length := by
  have noneAbove : ∀ other ∈ lines, decide (label ∉ other.labels) = true := by
    intro other above
    exact decide_eq_true fun listed => absent (List.mem_flatMap.mpr ⟨other, above, listed⟩)
  rw [placeOf, List.takeWhile_append_of_pos noneAbove]
  simp [defined]

/-! ### What the code comes from -/

theorem exists_line_of_entry {lines : List Line} {entry : Entry} {number : Nat}
    (listed : (entry, number) ∈ entriesOf lines) :
    number ≤ lines.length ∧ ∃ line ∈ lines, line.instruction? = some entry := by
  obtain ⟨⟨line, position⟩, below, found⟩ := List.mem_filterMap.mp listed
  obtain ⟨entry, instructs, same⟩ := Option.map_eq_some_iff.mp found
  cases same
  have bound := List.snd_lt_add_of_mem_zipIdx below
  exact ⟨by omega, line, List.fst_mem_of_mem_zipIdx below, instructs⟩

theorem exists_entry_of_codeLine {lines : List Line} {line : CodeLine}
    (listed : line ∈ (programOf lines).code.toList) :
    ∃ entry number distance, (entry, number) ∈ entriesOf lines ∧
      line = entry.codeLine number distance := by
  simp only [programOf] at listed
  obtain ⟨⟨⟨entry, number⟩, position⟩, below, rfl⟩ := List.mem_map.mp listed
  exact ⟨entry, number, _, List.fst_mem_of_mem_zipIdx below, rfl⟩

/-- What can be read as an instruction is spelled as one. -/
theorem spells_of_reads {scope : Table Text} {words : List Text} {line : Line}
    (reads : Reads scope words line) :
    ∀ entry ∈ line.instruction?, Spells entry.words entry.statement := by
  intro entry instructs
  cases reads with
  | equate => contradiction
  | labels => contradiction
  | instruction _ _ _ spells =>
      cases instructs
      exact spells

theorem spells_of_readsAll {evaluator : Evaluator} {predefined : List (Text × Text)}
    {above lines : List Line} {texts : List Text}
    (reads : ReadsAll evaluator predefined above texts lines) :
    ∀ line ∈ lines, ∀ entry ∈ line.instruction?, Spells entry.words entry.statement := by
  induction reads with
  | nil => simp
  | cons readsText _ inductionHypothesis =>
      obtain ⟨_, _, reads⟩ := readsText
      exact List.forall_mem_cons.mpr ⟨spells_of_reads reads, inductionHypothesis⟩

end Tandem.Assembly

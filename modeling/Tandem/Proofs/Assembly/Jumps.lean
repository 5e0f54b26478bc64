import Tandem.Proofs.Assembly.Linking
import Tandem.Proofs.Schedule.Target

set_option autoImplicit false

/-!
Jumps to labels. The assembler keeps for a label the number of instructions above it, and for
`@name` the distance to there; the machine adds the distance to its program counter. Together they
take a side to the first instruction that comes from the label's line or from a line below it, and
to the end of the program if there is none. Code lines keep the numbers of their source lines, so
this can be said of the program alone.
-/

namespace Tandem

namespace Program

/-- The index of the first instruction from the given source line on; the size of the
program if there is none. -/
def firstFrom (p : Program) (lineNo : Nat) : Nat :=
  p.code.toList.findIdx fun line => lineNo ≤ line.lineNo

theorem firstFrom_le_size (p : Program) (lineNo : Nat) : p.firstFrom lineNo ≤ p.size := by
  rw [size, ← Array.length_toList]
  exact List.findIdx_le_length

theorem firstFrom_eq_size_iff (p : Program) (lineNo : Nat) :
    p.firstFrom lineNo = p.size ↔ ∀ line ∈ p.code, line.lineNo < lineNo := by
  rw [size, ← Array.length_toList, firstFrom, List.findIdx_eq_length]
  simp

theorem fetch?_of_getElem? {p : Program} {n : Nat} {line : CodeLine}
    (found : p.code[n]? = some line) {pc : Int64} (there : pc.toInt = n) :
    p.fetch? pc = some line.instruction := by
  obtain ⟨bound, _⟩ := Array.getElem?_eq_some_iff.mp found
  have inside : p.contains pc = true := by
    rw [contains_iff, size, there]
    omega
  simp [fetch?, line?, inside, there, found]

end Program

namespace Assembly

/-- The line with the given number, counted from one, defines the label. -/
def DefinesAt (lines : List Line) (lineNo : Nat) (label : Text) : Prop :=
  ∃ above line below, lines = above ++ line :: below ∧ lineNo = above.length + 1 ∧
    label ∈ line.labels

theorem mem_labelsOf_iff {lines : List Line} {label : Text} :
    label ∈ labelsOf lines ↔ ∃ lineNo, DefinesAt lines lineNo label := by
  constructor
  · intro defined
    obtain ⟨line, listed, here⟩ := List.mem_flatMap.mp defined
    obtain ⟨above, below, rfl⟩ := List.append_of_mem listed
    exact ⟨_, above, line, below, rfl, rfl, here⟩
  · rintro ⟨_, above, line, below, rfl, _, here⟩
    exact List.mem_flatMap.mpr ⟨line, by simp, here⟩

/-! ### Places of labels -/

@[simp]
theorem firstFrom_programOf (lines : List Line) (lineNo : Nat) :
    (programOf lines).firstFrom lineNo =
      (entriesOf lines).findIdx fun entry => lineNo ≤ entry.2 := by
  have entries := List.findIdx_map (entriesOf lines).zipIdx Prod.fst fun entry =>
    decide (lineNo ≤ entry.2)
  rw [List.zipIdx_map_fst] at entries
  rw [entries, Program.firstFrom, programOf, List.findIdx_map]
  rfl

/-- The instructions above a label come from lines above its line, and the others from its line
on. -/
theorem placeOf_eq_firstFrom {lines : List Line} {lineNo : Nat} {label : Text}
    (distinct : (labelsOf lines).Nodup) (defines : DefinesAt lines lineNo label) :
    placeOf lines label = (programOf lines).firstFrom lineNo := by
  obtain ⟨above, line, below, rfl, rfl, here⟩ := defines
  have regrouped : above ++ line :: below = (above ++ [line]) ++ below := by simp
  have defined : label ∈ labelsOf (above ++ [line]) := by
    simp [here]
  have absent : label ∉ labelsOf above := by
    rw [regrouped, labelsOf_append, labelsOf_append, labelsOf_singleton] at distinct
    have apart := (List.nodup_append.mp (List.nodup_append.mp distinct).1).2.2
    exact fun listed => apart label listed label here rfl
  have early : ∀ entry ∈ entriesOf above, decide (above.length + 1 ≤ entry.2) = false := by
    intro entry listed
    have bound := (exists_line_of_entry listed).1
    exact decide_eq_false (by omega)
  rw [regrouped, placeOf_append_of_mem defined, placeOf_append_of_not_mem absent here,
    ← regrouped, firstFrom_programOf, entriesOf_append, List.findIdx_append,
    List.findIdx_eq_length_of_false early, if_neg (Nat.lt_irrefl _)]
  -- what follows is empty, or its first entry is already late enough
  generalize rest : ((line :: below).zipIdx (above.length + 1)).filterMap (fun line =>
    line.1.instruction?.map fun entry => (entry, line.2)) = entries
  cases entries with
  | nil => simp
  | cons entry others =>
      have listed : entry ∈ entry :: others := .head _
      rw [← rest] at listed
      obtain ⟨numbered, inLines, found⟩ := List.mem_filterMap.mp listed
      obtain ⟨_, _, rfl⟩ := Option.map_eq_some_iff.mp found
      have late := List.le_snd_of_mem_zipIdx inLines
      rw [List.findIdx_cons, decide_eq_true late, cond_true, Nat.zero_add]

/-! ### Jumps -/

theorem eq_label_of_denotes {label : Text} {value : Argument}
    (denotes : Denotes (64 :: label) value) :
    value = .label label := by
  have read := operandOf_eq_ok_of_denotes denotes
  simp only [operandOf] at read
  split at read
  next =>
    cases value with
    | label name =>
        cases read
        rfl
    | literal _ => cases read
    | register _ => cases read
  next => contradiction

theorem exists_test_of_spells {mnemonic test label : Text} {statement : Statement}
    (spells : Spells [mnemonic, test, 64 :: label] statement)
    (jumps : Text.lower mnemonic = Op.jgz.text) :
    ∃ tested, statement = .jgz tested (.label label) := by
  cases spells with
  | @update _ _ _ u _ _ spelled _ _ =>
      rw [jumps] at spelled
      cases u <;> contradiction
  | jgz _ _ offset =>
      obtain rfl := eq_label_of_denotes offset
      exact ⟨_, rfl⟩

theorem exists_entry_of_getElem? {lines : List Line} {n : Nat} {line : CodeLine}
    (found : (programOf lines).code[n]? = some line) :
    ∃ entry number, (entry, number) ∈ entriesOf lines ∧
      line = entry.codeLine number (distanceFrom lines n) := by
  simp only [programOf, List.getElem?_toArray, List.getElem?_map, List.getElem?_zipIdx,
    Option.map_map, Option.map_eq_some_iff, Nat.zero_add] at found
  obtain ⟨⟨entry, number⟩, listed, rfl⟩ := found
  exact ⟨entry, number, List.mem_of_getElem? listed, rfl⟩

/-- A line that jumps to a label tests some operand, and goes as far as the label is away. -/
theorem jump_of_words {evaluator : Evaluator} {predefined : List (Text × Text)} {texts : List Text}
    {lines : List Line} (reads : ReadsAll evaluator predefined [] texts lines)
    (closed : IsClosed lines) {n : Nat} {line : CodeLine}
    (found : (programOf lines).code[n]? = some line) {mnemonic test label : Text}
    (spelled : line.words = [mnemonic, test, 64 :: label])
    (jumps : Text.lower mnemonic = Op.jgz.text) :
    label ∈ labelsOf lines ∧
      ∃ tested, line.instruction = .jgz tested (.ofLiteral (distanceFrom lines n label)) := by
  obtain ⟨entry, number, listed, rfl⟩ := exists_entry_of_getElem? found
  obtain ⟨_, source, inLines, instructs⟩ := exists_line_of_entry listed
  have spells := spells_of_readsAll reads source inLines entry instructs
  rw [show entry.words = [mnemonic, test, 64 :: label] from spelled] at spells
  obtain ⟨tested, statement⟩ := exists_test_of_spells spells jumps
  constructor
  · apply closed _ listed label
    simp [statement, Statement.labels, Statement.arguments, Argument.label?]
  · refine ⟨tested.operand (distanceFrom lines n), ?_⟩
    simp only [Entry.codeLine, statement]
    rfl

/-- A jump by the distance to a place inside the program, or at its end, leads to that place. -/
theorem step_jump {p : Program} (small : p.size < 2 ^ 63) {n place : Nat} {line : CodeLine}
    {test : Operand} (found : p.code[n]? = some line) (bounded : place ≤ p.size)
    (jumps : line.instruction = .jgz test (.ofLiteral (Int64.ofInt ((place : Int) - n))))
    {pair : Pair} {s : Side} (running : (pair.get s).isRunning = true)
    (there : (pair.get s).pc.toInt = n) (positive : 0 < test.resolve (pair.get s).registers)
    (partner : Side) :
    ∃ next, pair.step p s partner = .ok next ∧ (next.get s).pc.toInt = place ∧
      ((next.get s).terminated = true ↔ place = p.size) := by
  have source : n < p.size := (Array.getElem?_eq_some_iff.mp found).1
  have fetched := Program.fetch?_of_getElem? found there
  rw [jumps] at fetched
  have distance : (Int64.ofInt ((place : Int) - n)).toInt = (place : Int) - n := by
    apply Int64.toInt_ofInt_of_le
    · omega
    · omega
  have target :
      (pair.get s).target (.jgz test (.ofLiteral (Int64.ofInt ((place : Int) - n)))) = place := by
    have taken : (pair.get s).target (.jgz test (.ofLiteral (Int64.ofInt ((place : Int) - n)))) =
        (pair.get s).pc.toInt + (Int64.ofInt ((place : Int) - n)).toInt := if_pos positive
    rw [taken, there, distance]
    omega
  obtain ⟨next, stepped, arrives, stops⟩ := Pair.step_target small running fetched rfl partner
  rw [target] at arrives stops
  refine ⟨next, stepped, ?_, ?_⟩
  · rw [arrives]
    exact Program.toInt_ofInt_of_inside small (by omega)
  · rw [stops]
    omega

/-- In an assembled program of less than 2^63 instructions, the place of a label is the index of the
first instruction from its line on, and at most the size. Every `jgz` to a label, when it is carried
out on a value above zero, takes the side to that place, and the side terminates exactly if no
instruction follows. -/
theorem linked_jumps_reach_labels (evaluator : Evaluator) (predefined : List (Text × Text))
    (source : Text) (p : Program)
    (assembled : (assemble evaluator predefined source).program = .ok p) (small : p.size < 2 ^ 63) :
    ∃ lines, ReadsAll evaluator predefined [] (Source.read source).lines lines ∧
      (labelsOf lines).Nodup ∧
      (∀ label index,
        (assemble evaluator predefined source).draft.labels.find? label = some index ↔
          ∃ lineNo, DefinesAt lines lineNo label ∧ index = p.firstFrom lineNo) ∧
      (∀ label index,
        (assemble evaluator predefined source).draft.labels.find? label = some index →
          index ≤ p.size) ∧
      ∀ (n : Nat) (line : CodeLine) (mnemonic test label : Text), p.code[n]? = some line →
        line.words = [mnemonic, test, 64 :: label] → Text.lower mnemonic = Op.jgz.text →
        ∃ lineNo, DefinesAt lines lineNo label ∧
          ∀ (pair : Pair) (s partner : Side), (pair.get s).isRunning = true →
            (pair.get s).pc.toInt = n → 0 < line.instruction.a.resolve (pair.get s).registers →
            ∃ next, pair.step p s partner = .ok next ∧
              (next.get s).pc.toInt = p.firstFrom lineNo ∧
              ((next.get s).terminated = true ↔ ∀ other ∈ p.code, other.lineNo < lineNo) := by
  obtain ⟨lines, reads, distinct, closed, rfl, places⟩ := exists_layout assembled
  have labels : ∀ label index,
      (assemble evaluator predefined source).draft.labels.find? label = some index ↔
      ∃ lineNo, DefinesAt lines lineNo label ∧ index = (programOf lines).firstFrom lineNo := by
    intro label index
    rw [places]
    constructor
    · intro found
      obtain ⟨defined, place⟩ := Option.ite_none_right_eq_some.mp found
      obtain rfl := Option.some.inj place
      obtain ⟨lineNo, defines⟩ := mem_labelsOf_iff.mp defined
      exact ⟨lineNo, defines, placeOf_eq_firstFrom distinct defines⟩
    · rintro ⟨lineNo, defines, rfl⟩
      rw [if_pos (mem_labelsOf_iff.mpr ⟨lineNo, defines⟩),
        placeOf_eq_firstFrom distinct defines]
  refine ⟨lines, reads, distinct, labels, ?_, ?_⟩
  · intro label index found
    obtain ⟨lineNo, _, rfl⟩ := (labels label index).mp found
    exact Program.firstFrom_le_size _ lineNo
  · intro n line mnemonic test label found spelled jumps
    obtain ⟨defined, tested, instruction⟩ := jump_of_words reads closed found spelled jumps
    obtain ⟨lineNo, defines⟩ := mem_labelsOf_iff.mp defined
    refine ⟨lineNo, defines, ?_⟩
    intro pair s partner running there positive
    rw [← Program.firstFrom_eq_size_iff, ← placeOf_eq_firstFrom distinct defines]
    have bounded : placeOf lines label ≤ (programOf lines).size := by
      rw [placeOf_eq_firstFrom distinct defines]
      exact Program.firstFrom_le_size _ lineNo
    rw [instruction] at positive
    exact step_jump small found bounded instruction running there positive partner

/-- A loop, with a jump out of it to a label at the end. -/
def exitingLoop : Program :=
  ⟨#[{ instruction := .snd (.ofRegister ⟨97⟩), lineNo := 1, words := ["snd", "a"] },
    { instruction := .jgz (.ofRegister ⟨97⟩) (.ofLiteral 2), lineNo := 2,
      words := ["jgz", "a", "@end"], linkB := some "end" },
    { instruction := .jgz (.ofLiteral 1) (.ofLiteral (-2)), lineNo := 3,
      words := ["jgz", "1", "@top"], linkB := some "top" }]⟩

theorem linked_jumps_reach_labels_loop :
    let source : Text := "top: snd a\njgz a @end\njgz 1 @top\nend:"
    let pair := Pair.new.modify .zero fun c =>
      { c with pc := 1, registers := c.registers.set ⟨97⟩ 5 }
    (assemble sumOfEquates [] source).program = .ok exitingLoop ∧ exitingLoop.size < 2 ^ 63 ∧
      ∃ lines lineNo, ReadsAll sumOfEquates [] [] (Source.read source).lines lines ∧
        DefinesAt lines lineNo "end" ∧ exitingLoop.firstFrom lineNo = 3 ∧
        ∃ next, pair.step exitingLoop .zero .one = .ok next ∧ (next.get .zero).pc.toInt = 3 ∧
          (next.get .zero).terminated = true := by
  intro source pair
  have evaluated : (assemble sumOfEquates [] source).program.toOption = some exitingLoop ∧
      (assemble sumOfEquates [] source).draft.labels.find? "end" = some 3 := by decide +kernel
  have assembled := program_eq_ok_of_toOption evaluated.1
  have small : exitingLoop.size < 2 ^ 63 := by decide
  obtain ⟨lines, reads, _, labels, _, jumps⟩ :=
    linked_jumps_reach_labels sumOfEquates [] source exitingLoop assembled small
  obtain ⟨lineNo, defines, steps⟩ := jumps 1 _ _ _ _ rfl rfl (by decide)
  have last : exitingLoop.firstFrom lineNo = 3 := by
    have listed := (labels "end" _).mpr ⟨lineNo, defines, rfl⟩
    exact Option.some.inj (listed.symm.trans evaluated.2)
  obtain ⟨next, stepped, arrives, stops⟩ := steps pair .zero .one rfl rfl (by decide)
  rw [last] at arrives
  rw [← Program.firstFrom_eq_size_iff, last] at stops
  exact ⟨assembled, small, lines, lineNo, reads, defines, last, next, stepped, arrives,
    stops.mpr rfl⟩

end Assembly

end Tandem

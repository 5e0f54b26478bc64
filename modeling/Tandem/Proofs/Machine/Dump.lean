import Tandem.Proofs.Assembly.Spelling
import Tandem.Proofs.Machine.Registers

set_option autoImplicit false

/-!
Dumps of registers. A dump has one word for each register that is not zero. No word has a space in
it, so the words can be told apart again; and a word tells its register and the value, so storing
what the words say gives the registers back.
-/

namespace Tandem.RegisterFile

/-- The names of the stored registers, in order. -/
def letters : Text := "abcdefghijklmnopqrstuvwxyz"

/-- The word for a register and its value. -/
def word (rf : RegisterFile) (letter : UInt8) : Text :=
  letter :: 61 :: Text.decimal (rf.get ⟨letter⟩).toInt

/-- Stores what a word says. -/
def store (rf : RegisterFile) : Text → RegisterFile
  | letter :: 61 :: digits =>
      match Numeral.value? digits with
      | some value => rf.set ⟨letter⟩ value
      | none => rf
  | _ => rf

/-- The registers that a dump was made of: those without a word are zero. -/
def ofDump (dump : Text) : RegisterFile := (dump.splitOn 32).foldl store zero

/-! ### Registers and letters -/

theorem letters_eq : letters = (List.finRange 26).map fun i => (RegisterName.ofCell i).byte := by
  decide +kernel

theorem isStored_of_mem_letters :
    ∀ letter ∈ letters, RegisterName.isStored ⟨letter⟩ = true := by
  decide +kernel

@[simp]
theorem cell?_ofCell : ∀ i : Fin 26, (RegisterName.ofCell i).cell? = some i := by decide

@[simp]
theorem get_ofCell (rf : RegisterFile) (i : Fin 26) : rf.get (.ofCell i) = rf.cells.get i := by
  rw [get, cell?_ofCell]
  rfl

@[simp]
theorem get_zero (r : RegisterName) : zero.get r = 0 := by
  unfold get
  split
  next i _ => simp [zero]
  next => rfl

/-- Registers are the same if their values under all letters are. -/
theorem eq_of_get {rf other : RegisterFile}
    (same : ∀ letter ∈ letters, rf.get ⟨letter⟩ = other.get ⟨letter⟩) : rf = other := by
  obtain ⟨cells⟩ := rf
  obtain ⟨otherCells⟩ := other
  congr 1
  ext i small
  have listed : (RegisterName.ofCell ⟨i, small⟩).byte ∈ letters := by
    rw [letters_eq]
    exact List.mem_map.mpr ⟨⟨i, small⟩, List.mem_finRange _, rfl⟩
  calc
    cells[i] = get ⟨cells⟩ (.ofCell ⟨i, small⟩) :=
      (get_ofCell ⟨cells⟩ ⟨i, small⟩).symm
    _ = get ⟨otherCells⟩ (.ofCell ⟨i, small⟩) := same _ listed
    _ = otherCells[i] := get_ofCell ⟨otherCells⟩ ⟨i, small⟩

/-! ### The words of a dump -/

variable (rf : RegisterFile)

/-- The letters of the registers that are not zero. -/
def nonzero : Text := letters.filter fun letter => rf.get ⟨letter⟩ != 0

theorem mem_letters_of_mem_nonzero {letter : UInt8} (kept : letter ∈ rf.nonzero) :
    letter ∈ letters :=
  (List.mem_filter.mp kept).1

theorem entries_eq :
    rf.entries = letters.map fun letter => (⟨letter⟩, rf.get ⟨letter⟩) := by
  rw [letters_eq, List.map_map, entries]
  apply List.map_congr_left
  intro i _
  exact congrArg _ (rf.get_ofCell i).symm

theorem text_letter {letter : UInt8} (listed : letter ∈ letters) :
    RegisterName.text ⟨letter⟩ = [letter] := by
  have ascii : ∀ letter ∈ letters, letter < 128 := by decide +kernel
  exact Assembly.text_of_ascii (ascii letter listed)

/-- The words for the registers of some entries that are not zero. -/
def wordsOf (entries : List (RegisterName × Int64)) : List Text :=
  (entries.filter fun entry => entry.2 != 0).map entryText

@[simp]
theorem entryText_ne_nil (entry : RegisterName × Int64) : entryText entry ≠ [] := by
  simp [entryText]

@[simp]
theorem wordsOf_cons_of_zero {entry : RegisterName × Int64} (isZero : entry.2 = 0)
    (entries : List (RegisterName × Int64)) : wordsOf (entry :: entries) = wordsOf entries := by
  simp [wordsOf, isZero]

@[simp]
theorem wordsOf_cons_of_ne_zero {entry : RegisterName × Int64} (notZero : entry.2 ≠ 0)
    (entries : List (RegisterName × Int64)) :
    wordsOf (entry :: entries) = entryText entry :: wordsOf entries := by
  simp [wordsOf, notZero]

@[simp]
theorem addEntry_of_zero {entry : RegisterName × Int64} (isZero : entry.2 = 0) (dump : Text) :
    addEntry dump entry = dump :=
  if_pos isZero

/-- What a dump has already stands before all further words as if it were a word. -/
theorem foldl_addEntry_of_ne_nil {dump : Text} (begun : dump ≠ [])
    (entries : List (RegisterName × Int64)) :
    entries.foldl addEntry dump = Text.join [32] (dump :: wordsOf entries) := by
  induction entries generalizing dump with
  | nil => simp [wordsOf, Text.join]
  | cons entry entries inductionHypothesis =>
      rw [List.foldl_cons]
      by_cases isZero : entry.2 = 0
      · rw [addEntry_of_zero isZero, inductionHypothesis begun, wordsOf_cons_of_zero isZero]
      · have longer : addEntry dump entry = dump ++ 32 :: entryText entry := by
          rw [addEntry, if_neg isZero, if_neg (by simpa using begun)]
        rw [longer, inductionHypothesis (by simp), wordsOf_cons_of_ne_zero isZero]
        cases wordsOf entries <;> simp [Text.join, List.intercalate_cons_cons]

/-- Adding one word after another joins them. -/
@[simp]
theorem foldl_addEntry (entries : List (RegisterName × Int64)) :
    entries.foldl addEntry [] = Text.join [32] (wordsOf entries) := by
  induction entries with
  | nil => rfl
  | cons entry entries inductionHypothesis =>
      rw [List.foldl_cons]
      by_cases isZero : entry.2 = 0
      · rw [addEntry_of_zero isZero, inductionHypothesis, wordsOf_cons_of_zero isZero]
      · have first : addEntry [] entry = entryText entry := if_neg isZero
        rw [first, foldl_addEntry_of_ne_nil (entryText_ne_nil entry),
          wordsOf_cons_of_ne_zero isZero]

theorem text_eq_join : rf.text = Text.join [32] (rf.nonzero.map rf.word) := by
  rw [text, foldl_addEntry, entries_eq, wordsOf, List.filter_map, List.map_map]
  congr 1
  apply List.map_congr_left
  intro letter kept
  have listed : letter ∈ letters := rf.mem_letters_of_mem_nonzero kept
  simp only [Function.comp_apply, entryText, text_letter listed, word, List.singleton_append]

theorem space_not_mem_word {letter : UInt8} (listed : letter ∈ letters) :
    32 ∉ rf.word letter := by
  have notSpace : 32 ∉ letters := by decide +kernel
  intro inside
  rcases List.mem_cons.mp inside with rfl | inside
  · exact notSpace listed
  · rcases List.mem_cons.mp inside with equals | inside
    · exact absurd equals (by decide)
    · exact absurd (Assembly.mem_decimal inside) (by decide)

@[simp]
theorem store_word (into : RegisterFile) (letter : UInt8) :
    into.store (rf.word letter) = into.set ⟨letter⟩ (rf.get ⟨letter⟩) := by
  simp only [word, store, Numeral.value?_decimal]

/-- Storing the words for some letters gives just their registers the values that the
words were made of. -/
theorem get_foldl_store {chosen : Text} (listed : ∀ letter ∈ chosen, letter ∈ letters)
    (into : RegisterFile) (letter : UInt8) :
    ((chosen.map rf.word).foldl store into).get ⟨letter⟩ =
      if letter ∈ chosen then rf.get ⟨letter⟩ else into.get ⟨letter⟩ := by
  induction chosen generalizing into with
  | nil => rfl
  | cons first chosen inductionHypothesis =>
      obtain ⟨firstListed, othersListed⟩ := List.forall_mem_cons.mp listed
      rw [List.map_cons, List.foldl_cons, store_word, inductionHypothesis othersListed]
      by_cases later : letter ∈ chosen
      · -- should the letter have come before, its word was the same
        rw [if_pos later, if_pos (List.mem_cons_of_mem first later)]
      · rw [if_neg later]
        by_cases same : letter = first
        · subst same
          rw [get_set_self _ (isStored_of_mem_letters letter firstListed),
            if_pos List.mem_cons_self]
        · have different : (⟨first⟩ : RegisterName) ≠ ⟨letter⟩ := by
            simpa using Ne.symm same
          rw [get_set_of_ne _ different, if_neg (by simp [same, later])]

/-- The words come apart at the spaces. -/
theorem ofDump_eq_foldl : ofDump rf.text = (rf.nonzero.map rf.word).foldl store zero := by
  rw [ofDump, text_eq_join, Text.join]
  by_cases nothing : rf.nonzero.map rf.word = []
  · rw [nothing]
    rfl
  · rw [List.splitOn_intercalate 32 ?_ nothing]
    intro written made
    obtain ⟨letter, kept, rfl⟩ := List.mem_map.mp made
    exact rf.space_not_mem_word (rf.mem_letters_of_mem_nonzero kept)

@[simp]
theorem ofDump_text : ofDump rf.text = rf := by
  apply eq_of_get
  intro letter listed
  rw [ofDump_eq_foldl, rf.get_foldl_store fun _ => rf.mem_letters_of_mem_nonzero, get_zero]
  by_cases isZero : rf.get ⟨letter⟩ = 0
  · simp [isZero]
  · rw [if_pos]
    simpa [nonzero, listed] using isZero

/-- A dump has the words `name=value` of exactly the registers that are not zero, in the order of
the letters and with one space between them. The registers can be recovered from it; so two dumps
are the same exactly if all registers are. -/
theorem dump_loses_nothing (rf other : RegisterFile) :
    (rf.text = other.text ↔
        ∀ letter ∈ letters, rf.get ⟨letter⟩ = other.get ⟨letter⟩) ∧
      rf.text =
        Text.join [32]
          ((letters.filter fun letter => rf.get ⟨letter⟩ != 0).map fun letter =>
            letter :: 61 :: Text.decimal (rf.get ⟨letter⟩).toInt) ∧
      ofDump rf.text = rf := by
  refine ⟨⟨?_, ?_⟩, rf.text_eq_join, rf.ofDump_text⟩
  · intro same letter _
    rw [← rf.ofDump_text, same, ofDump_text]
  · intro same
    rw [eq_of_get same]

end Tandem.RegisterFile

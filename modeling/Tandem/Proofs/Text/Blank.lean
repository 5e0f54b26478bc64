import Tandem.Text.Blank

set_option autoImplicit false

/-!
Blank texts, which are sequences of blank characters. They may be put around a text without a change
of its words, and trimming takes nothing else away. Since a blank character never starts inside
another character, what stands behind a text does not change what is blank in it.
-/

namespace Tandem.Text

/-- The characters with the Unicode property of white space. -/
def blankCharacters : List Text :=
  [[9], [10], [11], [12], [13], [32], [0xC2, 0x85], [0xC2, 0xA0], [0xE1, 0x9A, 0x80],
   [0xE2, 0x80, 0x80], [0xE2, 0x80, 0x81], [0xE2, 0x80, 0x82], [0xE2, 0x80, 0x83],
   [0xE2, 0x80, 0x84], [0xE2, 0x80, 0x85], [0xE2, 0x80, 0x86], [0xE2, 0x80, 0x87],
   [0xE2, 0x80, 0x88], [0xE2, 0x80, 0x89], [0xE2, 0x80, 0x8A], [0xE2, 0x80, 0xA8],
   [0xE2, 0x80, 0xA9], [0xE2, 0x80, 0xAF], [0xE2, 0x81, 0x9F], [0xE3, 0x80, 0x80]]

/-- A sequence of blank characters. -/
inductive IsBlank : Text → Prop where
  | nil : IsBlank []
  | cons {c rest : Text} : c ∈ blankCharacters → IsBlank rest → IsBlank (c ++ rest)

/-! ### The blank character at the start of a text -/

@[simp]
theorem blankLength_append_of_mem {c : Text} (blank : c ∈ blankCharacters) (rest : Text) :
    blankLength (c ++ rest) = c.length := by
  revert c
  simp [blankCharacters, blankLength]

theorem exists_mem_of_blankLength_pos {t : Text} (blank : 0 < blankLength t) :
    ∃ c ∈ blankCharacters, ∃ rest, t = c ++ rest := by
  unfold blankLength at blank
  split at blank
  next => contradiction
  next a rest =>
    split at blank
    next => exact ⟨[a], by simp [blankCharacters]; grind, rest, rfl⟩
    next =>
      -- one case for each first byte beyond ASCII
      split at blank
      next b rest _ => exact ⟨[0xC2, b], by simp [blankCharacters]; grind, rest, rfl⟩
      next b c rest _ => exact ⟨[0xE1, b, c], by simp [blankCharacters]; grind, rest, rfl⟩
      next b c rest _ =>
        refine ⟨[0xE2, b, c], ?_, rest, rfl⟩
        split at blank
        next chosen => simp_all [blankCharacters]; grind
        next => split at blank <;> simp_all [blankCharacters]
      next b c rest _ => exact ⟨[0xE3, b, c], by simp [blankCharacters]; grind, rest, rfl⟩
      next => contradiction

/-- Either no blank character stands at the start of a text, or one of its
characters is split off. -/
theorem blankLength_cases (t : Text) :
    blankLength t = 0 ∨
      ∃ c ∈ blankCharacters, ∃ rest, t = c ++ rest ∧ blankLength t = c.length ∧
        0 < c.length := by
  cases found : blankLength t with
  | zero => exact .inl rfl
  | succ n =>
      obtain ⟨c, blank, rest, rfl⟩ := exists_mem_of_blankLength_pos (t := t) (by omega)
      have sameLength := blankLength_append_of_mem blank rest
      exact .inr ⟨c, blank, rest, rfl, by omega, by omega⟩

/-- The blank character that the scanners pass over. -/
theorem exists_of_blankLength_eq_succ {b : UInt8} {rest : Text} {n : Nat}
    (found : blankLength (b :: rest) = n + 1) :
    ∃ c ∈ blankCharacters, c.length = n + 1 ∧ b :: rest = c ++ rest.drop n := by
  obtain ⟨c, blank, others, whole, sameLength, _⟩ :=
    (blankLength_cases (b :: rest)).resolve_left (by omega)
  have size : c.length = n + 1 := by omega
  refine ⟨c, blank, size, ?_⟩
  have dropped : (b :: rest).drop (n + 1) = (c ++ others).drop (n + 1) := by rw [whole]
  rw [List.drop_succ_cons, ← size, List.drop_left] at dropped
  rw [dropped, whole]

theorem bytes_of_mem_blankCharacters :
    ∀ c ∈ blankCharacters, (∀ b ∈ c, b ≤ 32 ∨ 128 ≤ b) ∧
      (∀ b ∈ c.head?, isContinuation b = false) ∧
        ∀ b ∈ c.tail, isContinuation b = true := by
  decide +kernel

/-- What follows a text matters only if it goes on inside a character. -/
theorem blankLength_append_of_head {t u : Text} (nonempty : t ≠ [])
    (apart : ∀ b ∈ u.head?, isContinuation b = false) :
    blankLength (t ++ u) = blankLength t := by
  rcases blankLength_cases t with none | ⟨c, blank, rest, rfl, sameLength, _⟩
  · rcases blankLength_cases (t ++ u) with stillNone | ⟨c, blank, rest, split, _, positive⟩
    · rw [none, stillNone]
    · rcases List.append_eq_append_iff.mp split with ⟨x, rfl, rfl⟩ | ⟨x, rfl, _⟩
      · -- the character would go on behind the text
        cases x with
        | nil =>
            rw [List.append_nil] at blank positive
            have found := blankLength_append_of_mem blank []
            rw [List.append_nil] at found
            omega
        | cons b x =>
            have inside : b ∈ (t ++ b :: x).tail := by
              cases t with
              | nil => exact absurd rfl nonempty
              | cons _ t => simp
            have continues := (bytes_of_mem_blankCharacters _ blank).2.2 b inside
            rw [apart b rfl] at continues
            contradiction
      · have found := blankLength_append_of_mem blank x
        omega
  · rw [List.append_assoc, blankLength_append_of_mem blank, sameLength]

/-! ### Blank texts -/

namespace IsBlank

theorem bytes {t : Text} (blank : IsBlank t) : ∀ b ∈ t, b ≤ 32 ∨ 128 ≤ b := by
  induction blank with
  | nil => simp
  | cons listed _ inductionHypothesis =>
      intro b membership
      rcases List.mem_append.mp membership with first | later
      · exact (bytes_of_mem_blankCharacters _ listed).1 b first
      · exact inductionHypothesis b later

theorem head {t : Text} (blank : IsBlank t) : ∀ b ∈ t.head?, isContinuation b = false := by
  cases blank with
  | nil => simp
  | @cons c rest listed _ =>
      cases c with
      | nil => exact absurd listed (by decide)
      | cons b c => exact (bytes_of_mem_blankCharacters _ listed).2.1

end IsBlank

/-! ### Trimming -/

theorem exists_trimStart (t : Text) : ∃ blank, IsBlank blank ∧ t = blank ++ trimStart t := by
  fun_induction trimStart t with
  | case1 => exact ⟨[], .nil, rfl⟩
  | case2 b rest none => exact ⟨[], .nil, rfl⟩
  | case3 b rest n found inductionHypothesis =>
      obtain ⟨blank, isBlank, split⟩ := inductionHypothesis
      obtain ⟨c, listed, _, whole⟩ := exists_of_blankLength_eq_succ found
      refine ⟨c ++ blank, .cons listed isBlank, ?_⟩
      rw [List.append_assoc, ← split, ← whole]

/-- The loop tells where the last character that is not blank ends. -/
theorem exists_contentLength (seen kept : Nat) (t : Text) :
    ∃ content blank, IsBlank blank ∧ t = content ++ blank ∧
      contentLength.loop seen kept t = if content = [] then kept else seen + content.length := by
  fun_induction contentLength.loop seen kept t with
  | case1 seen kept => exact ⟨[], [], .nil, rfl, rfl⟩
  | case2 seen kept b rest none inductionHypothesis =>
      obtain ⟨content, blank, isBlank, rfl, found⟩ := inductionHypothesis
      refine ⟨b :: content, blank, isBlank, rfl, ?_⟩
      rw [found, if_neg (List.cons_ne_nil b content), List.length_cons]
      split
      next nothing => rw [nothing, List.length_nil]
      next => omega
  | case3 seen kept b rest n found inductionHypothesis =>
      obtain ⟨content, blank, isBlank, split, counted⟩ := inductionHypothesis
      obtain ⟨c, listed, size, whole⟩ := exists_of_blankLength_eq_succ found
      by_cases nothing : content = []
      · refine ⟨[], b :: rest, ?_, rfl, ?_⟩
        · rw [whole, split, nothing]
          exact .cons listed isBlank
        · rw [counted, if_pos nothing, if_pos rfl]
      · refine ⟨c ++ content, blank, isBlank, ?_, ?_⟩
        · rw [whole, split, List.append_assoc]
        · have notNothing : c ++ content ≠ [] := by simp [nothing]
          rw [counted, if_neg nothing, if_neg notNothing, List.length_append, size]
          omega

theorem exists_trimEnd (t : Text) : ∃ blank, IsBlank blank ∧ t = trimEnd t ++ blank := by
  obtain ⟨content, blank, isBlank, split, counted⟩ := exists_contentLength 0 0 t
  refine ⟨blank, isBlank, ?_⟩
  have kept : trimEnd t = content := by
    rw [trimEnd, counted]
    split
    next nothing => rw [nothing, List.take_zero]
    next => rw [split, Nat.zero_add, List.take_left]
  rw [kept, split]

theorem exists_trim (t : Text) :
    ∃ before after, IsBlank before ∧ IsBlank after ∧ t = before ++ trim t ++ after := by
  obtain ⟨before, isBlankBefore, split⟩ := exists_trimStart t
  obtain ⟨after, isBlankAfter, splitAgain⟩ := exists_trimEnd (trimStart t)
  refine ⟨before, after, isBlankBefore, isBlankAfter, ?_⟩
  rw [trim, List.append_assoc, ← splitAgain, ← split]

/-! ### Words -/

theorem words_loop_of_mem {c : Text} (listed : c ∈ blankCharacters) (word rest : Text) :
    words.loop word (c ++ rest) =
      if word.isEmpty then words.loop [] rest else word.reverse :: words.loop [] rest := by
  cases c with
  | nil => exact absurd listed (by decide)
  | cons b c =>
      have found := blankLength_append_of_mem listed rest
      rw [List.cons_append] at found
      rw [List.cons_append, words.loop, found, List.length_cons]
      simp

theorem words_loop_of_not_blank {b : UInt8} {rest : Text} (solid : blankLength (b :: rest) = 0)
    (word : Text) : words.loop word (b :: rest) = words.loop (b :: word) rest := by
  rw [words.loop, solid]

@[simp]
theorem words_blank_append {blank : Text} (isBlank : IsBlank blank) (t : Text) :
    words (blank ++ t) = words t := by
  induction isBlank with
  | nil => rfl
  | cons listed _ inductionHypothesis =>
      rw [List.append_assoc, words, words_loop_of_mem listed]
      exact inductionHypothesis

theorem words_loop_blank {blank : Text} (isBlank : IsBlank blank) (word : Text) :
    words.loop word blank = words.loop word [] := by
  induction isBlank generalizing word with
  | nil => rfl
  | cons listed _ inductionHypothesis =>
      rw [words_loop_of_mem listed, inductionHypothesis]
      simp [words.loop]

theorem words_loop_append_blank {blank : Text} (isBlank : IsBlank blank) (word t : Text) :
    words.loop word (t ++ blank) = words.loop word t := by
  induction length : t.length using Nat.strongRecOn generalizing word t with
  | ind size inductionHypothesis =>
      cases t with
      | nil => exact words_loop_blank isBlank word
      | cons b rest =>
          have apart := blankLength_append_of_head (List.cons_ne_nil b rest) isBlank.head
          rw [List.length_cons] at length
          cases found : blankLength (b :: rest) with
          | zero =>
              rw [found, List.cons_append] at apart
              rw [words_loop_of_not_blank found, List.cons_append, words_loop_of_not_blank apart]
              exact inductionHypothesis rest.length (by omega) _ _ rfl
          | succ n =>
              obtain ⟨c, listed, sameSize, whole⟩ := exists_of_blankLength_eq_succ found
              have shorter : (rest.drop n).length < size := by
                rw [List.length_drop]
                omega
              rw [whole, List.append_assoc, words_loop_of_mem listed, words_loop_of_mem listed,
                inductionHypothesis _ shorter _ _ rfl]

@[simp]
theorem words_append_blank {blank : Text} (isBlank : IsBlank blank) (t : Text) :
    words (t ++ blank) = words t :=
  words_loop_append_blank isBlank [] t

/-- The bytes of words come from the text, and none of them is an ASCII blank. -/
theorem mem_words_loop {word t w : Text} {b : UInt8} (listed : w ∈ words.loop word t)
    (inside : b ∈ w) :
    b ∈ word ∨ b ∈ t ∧ ¬ (9 ≤ b ∧ b ≤ 13) ∧ b ≠ 32 := by
  have later {n : Nat} {rest : Text} {c : UInt8} (found : b ∈ ([] : Text) ∨
      b ∈ rest.drop n ∧ ¬ (9 ≤ b ∧ b ≤ 13) ∧ b ≠ 32) :
      b ∈ c :: rest ∧ ¬ (9 ≤ b ∧ b ≤ 13) ∧ b ≠ 32 := by
    obtain ⟨below, notBlank⟩ := found.resolve_left List.not_mem_nil
    exact ⟨.tail _ (List.mem_of_mem_drop below), notBlank⟩
  fun_induction words.loop word t with
  | case1 => contradiction
  | case2 word =>
      rw [List.mem_singleton.mp listed, List.mem_reverse] at inside
      exact .inl inside
  | case3 word c rest solid inductionHypothesis =>
      rcases inductionHypothesis listed with front | ⟨below, notBlank⟩
      · rcases List.mem_cons.mp front with rfl | front
        · refine .inr ⟨.head _, ?_⟩
          constructor
          · intro blank
            simp [blankLength, blank] at solid
          · rintro rfl
            simp [blankLength] at solid
        · exact .inl front
      · exact .inr ⟨.tail _ below, notBlank⟩
  | case4 word c rest n found empty inductionHypothesis =>
      exact .inr (later (inductionHypothesis listed))
  | case5 word c rest n found nonempty inductionHypothesis =>
      rcases List.mem_cons.mp listed with rfl | below
      · exact .inl (List.mem_reverse.mp inside)
      · exact .inr (later (inductionHypothesis below))

theorem mem_words {t w : Text} {b : UInt8} (listed : w ∈ words t) (inside : b ∈ w) :
    b ∈ t ∧ ¬ (9 ≤ b ∧ b ≤ 13) ∧ b ≠ 32 :=
  (mem_words_loop listed inside).resolve_left List.not_mem_nil

/-! ### Solid words -/

/-- An ASCII byte that is not blank. -/
def IsSolid (b : UInt8) : Prop := b < 128 ∧ ¬ (9 ≤ b ∧ b ≤ 13) ∧ b ≠ 32

instance : DecidablePred IsSolid := fun b =>
  inferInstanceAs (Decidable (b < 128 ∧ ¬ (9 ≤ b ∧ b ≤ 13) ∧ b ≠ 32))

theorem blankLength_of_isSolid {b : UInt8} (solid : IsSolid b) (rest : Text) :
    blankLength (b :: rest) = 0 := by
  have firstBytes : ∀ c ∈ blankCharacters, ∀ b ∈ c.head?, ¬ IsSolid b := by decide +kernel
  rcases blankLength_cases (b :: rest) with none | ⟨c, listed, after, whole, _, nonempty⟩
  · exact none
  · obtain ⟨first, others, rfl⟩ := List.exists_cons_of_length_pos nonempty
    obtain ⟨rfl, _⟩ := List.cons.inj whole
    exact absurd solid (firstBytes _ listed b rfl)

theorem words_loop_solid {word : Text} (solid : ∀ b ∈ word, IsSolid b) (front rest : Text) :
    words.loop front (word ++ rest) = words.loop (word.reverse ++ front) rest := by
  induction word generalizing front with
  | nil => rfl
  | cons b word inductionHypothesis =>
      rw [List.forall_mem_cons] at solid
      rw [List.cons_append, words_loop_of_not_blank (blankLength_of_isSolid solid.1 _),
        inductionHypothesis solid.2]
      simp

@[simp]
theorem join_cons_cons (word next : Text) (ws : List Text) :
    join [32] (word :: next :: ws) = word ++ 32 :: join [32] (next :: ws) := by
  simp [join, List.intercalate_cons_cons]

theorem words_join {ws : List Text}
    (solid : ∀ word ∈ ws, word ≠ [] ∧ ∀ b ∈ word, IsSolid b) :
    words (join [32] ws) = ws := by
  induction ws with
  | nil =>
      rw [join, List.intercalate_nil, words, words.loop]
      rfl
  | cons word ws inductionHypothesis =>
      rw [List.forall_mem_cons] at solid
      obtain ⟨⟨nonempty, solidWord⟩, solidRest⟩ := solid
      have read := fun rest => words_loop_solid solidWord [] rest
      simp only [List.append_nil] at read
      cases ws with
      | nil =>
          have last := read []
          rw [List.append_nil, words.loop] at last
          simpa [join, words, nonempty] using last
      | cons next ws =>
          have space : [32] ∈ blankCharacters := by decide
          rw [join_cons_cons, words, read, ← List.singleton_append, words_loop_of_mem space]
          have others := inductionHypothesis solidRest
          rw [words] at others
          simp [nonempty, others]

end Tandem.Text

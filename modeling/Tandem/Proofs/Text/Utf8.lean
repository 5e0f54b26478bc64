import Tandem.Proofs.Text.Blank

set_option autoImplicit false

/-!
Well-formed UTF-8. `wellFormed?` finds exactly the encodings of code points, so a text passes
`isUtf8` if and only if it is the encoding of a string. Such texts can be taken apart at every ASCII
byte, since no other character has one in its encoding, and their words are such texts again.
-/

namespace Tandem.Text

/-- The text is the UTF-8 encoding of a string. -/
def IsUnicode (t : Text) : Prop := ∃ s : String, t = ofString s

/-! ### One character -/

theorem toNat_ofNat {n : Nat} (scalar : n.isValidChar) : (Char.ofNat n).toNat = n := by
  unfold Char.ofNat
  rw [dif_pos scalar]
  rfl

theorem ofCodePoint_eq {n : Nat} (scalar : n.isValidChar) :
    ofCodePoint n =
      if n < 0x80 then [UInt8.ofNat n]
      else if n < 0x800 then [UInt8.ofNat (n / 64 + 0xC0), UInt8.ofNat (n % 64 + 0x80)]
      else if n < 0x10000 then
        [UInt8.ofNat (n / 4096 + 0xE0), UInt8.ofNat (n / 64 % 64 + 0x80),
          UInt8.ofNat (n % 64 + 0x80)]
      else
        [UInt8.ofNat (n / 262144 + 0xF0), UInt8.ofNat (n / 4096 % 64 + 0x80),
          UInt8.ofNat (n / 64 % 64 + 0x80), UInt8.ofNat (n % 64 + 0x80)] := by
  have range : n < 0xD800 ∨ 0xDFFF < n ∧ n < 0x110000 := scalar
  have same : (Char.ofNat n).val.toNat = n := toNat_ofNat scalar
  unfold ofCodePoint String.utf8EncodeChar
  simp only [same, Nat.lt_succ_iff]
  split
  next => rfl
  next =>
    split
    next => rw [Nat.mod_eq_of_lt (by omega)]
    next =>
      split
      next => rw [Nat.mod_eq_of_lt (by omega)]
      next => rw [Nat.mod_eq_of_lt (by omega)]

@[simp]
theorem wellFormed?_ofCodePoint {n : Nat} (scalar : n.isValidChar) (rest : Text) :
    wellFormed? (ofCodePoint n ++ rest) = some (n, (ofCodePoint n).length) := by
  have range : n < 0xD800 ∨ 0xDFFF < n ∧ n < 0x110000 := scalar
  rw [ofCodePoint_eq scalar]
  split
  next =>
    simp only [List.cons_append, wellFormed?, UInt8.lt_iff_toNat_lt, UInt8.toNat_ofNat',
      UInt8.reduceToNat]
    rw [if_pos (by omega), Nat.mod_eq_of_lt (by omega)]
    rfl
  next =>
    split
    next =>
      simp only [List.cons_append, wellFormed?, UInt8.lt_iff_toNat_lt, UInt8.le_iff_toNat_le,
        UInt8.toNat_ofNat', UInt8.reduceToNat, isContinuation, low, Bool.and_eq_true,
        decide_eq_true_eq]
      rw [if_neg (by omega), if_neg (by omega), if_pos (by omega), if_pos (by omega)]
      simp only [List.length_cons, List.length_nil, Option.some.injEq, Prod.mk.injEq, and_true]
      omega
    next =>
      split
      next =>
        simp only [List.cons_append, wellFormed?, UInt8.lt_iff_toNat_lt, UInt8.le_iff_toNat_le,
          UInt8.toNat_ofNat', UInt8.reduceToNat, isContinuation, low, Bool.and_eq_true,
          decide_eq_true_eq, ← UInt8.toNat_inj]
        rw [if_neg (by omega), if_neg (by omega), if_neg (by omega), if_pos (by omega), if_pos ?_]
        · simp only [List.length_cons, List.length_nil, Option.some.injEq, Prod.mk.injEq, and_true]
          omega
        · split <;> split <;> simp only [UInt8.reduceToNat] <;> omega
      next =>
        simp only [List.cons_append, wellFormed?, UInt8.lt_iff_toNat_lt, UInt8.le_iff_toNat_le,
          UInt8.toNat_ofNat', UInt8.reduceToNat, isContinuation, low, Bool.and_eq_true,
          decide_eq_true_eq, ← UInt8.toNat_inj]
        rw [if_neg (by omega), if_neg (by omega), if_neg (by omega), if_neg (by omega),
          if_pos (by omega), if_pos ?_]
        · simp only [List.length_cons, List.length_nil, Option.some.injEq, Prod.mk.injEq, and_true]
          omega
        · split <;> split <;> simp only [UInt8.reduceToNat] <;> omega

/-- The second byte of some sequences is bounded more tightly than a continuation byte. -/
theorem lower_bound {a first b tight loose : UInt8} (order : loose ≤ tight)
    (bound : (if a = first then tight else loose) ≤ b) :
    loose.toNat ≤ b.toNat ∧ (a.toNat = first.toNat → tight.toNat ≤ b.toNat) := by
  by_cases same : a = first
  · rw [if_pos same] at bound
    exact ⟨UInt8.le_iff_toNat_le.mp (UInt8.le_trans order bound),
      fun _ => UInt8.le_iff_toNat_le.mp bound⟩
  · rw [if_neg same] at bound
    exact ⟨UInt8.le_iff_toNat_le.mp bound, fun equal => absurd (UInt8.toNat_inj.mp equal) same⟩

theorem upper_bound {a first b tight loose : UInt8} (order : tight ≤ loose)
    (bound : b ≤ if a = first then tight else loose) :
    b.toNat ≤ loose.toNat ∧ (a.toNat = first.toNat → b.toNat ≤ tight.toNat) := by
  by_cases same : a = first
  · rw [if_pos same] at bound
    exact ⟨UInt8.le_iff_toNat_le.mp (UInt8.le_trans bound order),
      fun _ => UInt8.le_iff_toNat_le.mp bound⟩
  · rw [if_neg same] at bound
    exact ⟨UInt8.le_iff_toNat_le.mp bound, fun equal => absurd (UInt8.toNat_inj.mp equal) same⟩

theorem ofCodePoint_two {a b : UInt8} (least : ¬ a < 0xC2) (most : a < 0xE0)
    (second : isContinuation b = true) :
    (a.toNat % 32 * 64 + low b).isValidChar ∧
      ofCodePoint (a.toNat % 32 * 64 + low b) = [a, b] := by
  simp only [isContinuation, Bool.and_eq_true, decide_eq_true_eq, UInt8.lt_iff_toNat_lt,
    UInt8.le_iff_toNat_le, UInt8.reduceToNat] at least most second
  have scalar : (a.toNat % 32 * 64 + b.toNat % 64).isValidChar := .inl (by omega)
  refine ⟨scalar, ?_⟩
  unfold low
  rw [ofCodePoint_eq scalar, if_neg (by omega), if_pos (by omega)]
  simp only [List.cons.injEq, and_true, ← UInt8.toNat_inj, UInt8.toNat_ofNat']
  omega

theorem ofCodePoint_three {a b c : UInt8} (least : ¬ a < 0xE0) (most : a < 0xF0)
    (second : (if a = 0xE0 then 0xA0 else 0x80) ≤ b ∧ b ≤ if a = 0xED then 0x9F else 0xBF)
    (third : isContinuation c = true) :
    (a.toNat % 16 * 4096 + low b * 64 + low c).isValidChar ∧
      ofCodePoint (a.toNat % 16 * 4096 + low b * 64 + low c) = [a, b, c] := by
  have lower := lower_bound (by decide) second.1
  have upper := upper_bound (by decide) second.2
  simp only [isContinuation, Bool.and_eq_true, decide_eq_true_eq, UInt8.lt_iff_toNat_lt,
    UInt8.le_iff_toNat_le, UInt8.reduceToNat] at least most third lower upper
  have scalar : (a.toNat % 16 * 4096 + b.toNat % 64 * 64 + c.toNat % 64).isValidChar := by
    change _ < 0xD800 ∨ 0xDFFF < _ ∧ _ < 0x110000
    omega
  refine ⟨scalar, ?_⟩
  unfold low
  rw [ofCodePoint_eq scalar, if_neg (by omega), if_neg (by omega), if_pos (by omega)]
  simp only [List.cons.injEq, and_true, ← UInt8.toNat_inj, UInt8.toNat_ofNat']
  omega

theorem ofCodePoint_four {a b c d : UInt8} (least : ¬ a < 0xF0) (most : a < 0xF5)
    (second : (if a = 0xF0 then 0x90 else 0x80) ≤ b ∧ b ≤ if a = 0xF4 then 0x8F else 0xBF)
    (third : isContinuation c = true) (fourth : isContinuation d = true) :
    (a.toNat % 8 * 262144 + low b * 4096 + low c * 64 + low d).isValidChar ∧
      ofCodePoint (a.toNat % 8 * 262144 + low b * 4096 + low c * 64 + low d) = [a, b, c, d] := by
  have lower := lower_bound (by decide) second.1
  have upper := upper_bound (by decide) second.2
  simp only [isContinuation, Bool.and_eq_true, decide_eq_true_eq, UInt8.lt_iff_toNat_lt,
    UInt8.le_iff_toNat_le, UInt8.reduceToNat] at least most third fourth lower upper
  have scalar : (a.toNat % 8 * 262144 + b.toNat % 64 * 4096 + c.toNat % 64 * 64 +
      d.toNat % 64).isValidChar := by
    change _ < 0xD800 ∨ 0xDFFF < _ ∧ _ < 0x110000
    omega
  refine ⟨scalar, ?_⟩
  unfold low
  rw [ofCodePoint_eq scalar, if_neg (by omega), if_neg (by omega), if_neg (by omega)]
  simp only [List.cons.injEq, and_true, ← UInt8.toNat_inj, UInt8.toNat_ofNat']
  omega

theorem exists_of_wellFormed? {t : Text} {n size : Nat} (found : wellFormed? t = some (n, size)) :
    n.isValidChar ∧ ∃ rest, t = ofCodePoint n ++ rest ∧ size = (ofCodePoint n).length := by
  -- a code point with the given bytes is all that is needed
  have of_bytes {code width : Nat} {bytes : Text} (rest : Text)
      (encoded : code.isValidChar ∧ ofCodePoint code = bytes) (width_eq : width = bytes.length)
      (given : some (code, width) = some (n, size)) :
      n.isValidChar ∧ ∃ tail, bytes ++ rest = ofCodePoint n ++ tail ∧
        size = (ofCodePoint n).length := by
    cases given
    exact ⟨encoded.1, rest, by rw [encoded.2], by rw [encoded.2, width_eq]⟩
  unfold wellFormed? at found
  split at found
  next => contradiction
  next a rest =>
    split at found
    next small =>
      have value : a.toNat < 0x80 := UInt8.lt_iff_toNat_lt.mp small
      have scalar : a.toNat.isValidChar := .inl (by omega)
      have one : ofCodePoint a.toNat = [a] := by
        rw [ofCodePoint_eq scalar, if_pos value, UInt8.ofNat_toNat]
      exact of_bytes rest ⟨scalar, one⟩ rfl found
    next =>
      split at found
      next => contradiction
      next aboveTail =>
        split at found
        next belowThree =>
          split at found
          next b tail =>
            rw [Option.ite_none_right_eq_some] at found
            exact of_bytes tail (ofCodePoint_two aboveTail belowThree found.1) rfl found.2
          next => contradiction
        next aboveTwo =>
          split at found
          next belowFour =>
            split at found
            next b c tail =>
              simp only [Option.ite_none_right_eq_some, Bool.and_eq_true, decide_eq_true_eq]
                at found
              obtain ⟨⟨second, third⟩, given⟩ := found
              exact of_bytes tail (ofCodePoint_three aboveTwo belowFour second third) rfl given
            next => contradiction
          next aboveThree =>
            split at found
            next belowEnd =>
              split at found
              next b c d tail =>
                simp only [Option.ite_none_right_eq_some, Bool.and_eq_true, decide_eq_true_eq]
                  at found
                obtain ⟨⟨⟨second, third⟩, fourth⟩, given⟩ := found
                exact of_bytes tail
                  (ofCodePoint_four aboveThree belowEnd second third fourth) rfl given
              next => contradiction
            next => contradiction

theorem ofCodePoint_ne_nil (n : Nat) : ofCodePoint n ≠ [] := by
  intro empty
  have size := congrArg List.length empty
  rw [ofCodePoint, String.length_utf8EncodeChar] at size
  exact absurd size (Nat.ne_of_gt (Char.utf8Size_pos _))

/-- A character is one ASCII byte, or has none. -/
theorem ofCodePoint_ascii_or {n : Nat} (scalar : n.isValidChar) :
    (∃ b : UInt8, b < 128 ∧ ofCodePoint n = [b]) ∨ ∀ b ∈ ofCodePoint n, 128 ≤ b := by
  have range : n < 0xD800 ∨ 0xDFFF < n ∧ n < 0x110000 := scalar
  rw [ofCodePoint_eq scalar]
  split
  next small =>
    refine .inl ⟨UInt8.ofNat n, ?_, rfl⟩
    rw [UInt8.lt_iff_toNat_lt, UInt8.toNat_ofNat']
    exact Nat.lt_of_le_of_lt (Nat.mod_le n _) small
  next =>
    apply Or.inr
    simp only [UInt8.le_iff_toNat_le, UInt8.reduceToNat]
    split
    next =>
      simp only [List.forall_mem_cons, UInt8.toNat_ofNat', List.not_mem_nil, false_implies,
        implies_true, and_true]
      omega
    next =>
      split
      next =>
        simp only [List.forall_mem_cons, UInt8.toNat_ofNat', List.not_mem_nil, false_implies,
          implies_true, and_true]
        omega
      next =>
        simp only [List.forall_mem_cons, UInt8.toNat_ofNat', List.not_mem_nil, false_implies,
          implies_true, and_true]
        omega

/-! ### Whole texts -/

theorem isUnicode_nil : IsUnicode [] := ⟨"", rfl⟩

theorem isUnicode_append {s t : Text} (first : IsUnicode s) (second : IsUnicode t) :
    IsUnicode (s ++ t) := by
  obtain ⟨a, rfl⟩ := first
  obtain ⟨b, rfl⟩ := second
  refine ⟨a ++ b, ?_⟩
  rw [ofString, ofString, ofString, String.toList_append, List.flatMap_append]

theorem isUnicode_ofCodePoint (n : Nat) : IsUnicode (ofCodePoint n) := by
  refine ⟨String.singleton (Char.ofNat n), ?_⟩
  simp [ofString, ofCodePoint]

theorem isUnicode_ascii {t : Text} (ascii : ∀ b ∈ t, b < 128) : IsUnicode t := by
  induction t with
  | nil => exact isUnicode_nil
  | cons b t inductionHypothesis =>
      rw [List.forall_mem_cons] at ascii
      have value : b.toNat < 0x80 := UInt8.lt_iff_toNat_lt.mp ascii.1
      have single : ofCodePoint b.toNat = [b] := by
        rw [ofCodePoint_eq (.inl (by omega)), if_pos value, UInt8.ofNat_toNat]
      have whole := isUnicode_append (isUnicode_ofCodePoint b.toNat) (inductionHypothesis ascii.2)
      rwa [single] at whole

theorem isUnicode_ofString (s : String) : IsUnicode (ofString s) := ⟨s, rfl⟩

theorem isUnicode_cons {b : UInt8} (ascii : b < 128) {t : Text} (unicode : IsUnicode t) :
    IsUnicode (b :: t) := by
  have first : IsUnicode [b] := isUnicode_ascii (by simpa using ascii)
  exact isUnicode_append first unicode

theorem isUnicode_replicate (n : Nat) {b : UInt8} (ascii : b < 128) :
    IsUnicode (List.replicate n b) := by
  apply isUnicode_ascii
  intro c listed
  rw [List.eq_of_mem_replicate listed]
  exact ascii

theorem isUnicode_concat {ts : List Text} (unicode : ∀ t ∈ ts, IsUnicode t) :
    IsUnicode (concat ts) := by
  induction ts with
  | nil => exact isUnicode_nil
  | cons t ts inductionHypothesis =>
      obtain ⟨first, rest⟩ := List.forall_mem_cons.mp unicode
      exact isUnicode_append first (inductionHypothesis rest)

/-- Texts in UTF-8 are built character by character. -/
theorem IsUnicode.induction {motive : (t : Text) → IsUnicode t → Prop}
    (nil : motive [] isUnicode_nil)
    (cons : ∀ n rest (_ : n.isValidChar) (unicode : IsUnicode rest), motive rest unicode →
      motive (ofCodePoint n ++ rest) (isUnicode_append (isUnicode_ofCodePoint n) unicode))
    {t : Text} (unicode : IsUnicode t) : motive t unicode := by
  have all : ∀ (chars : List Char) (unicode : IsUnicode (chars.flatMap String.utf8EncodeChar)),
      motive _ unicode := by
    intro chars
    induction chars with
    | nil => exact fun _ => nil
    | cons c chars inductionHypothesis =>
        intro unicode
        have rest : IsUnicode (chars.flatMap String.utf8EncodeChar) :=
          ⟨String.ofList chars, by rw [ofString, String.toList_ofList]⟩
        have step := cons c.toNat _ c.valid rest (inductionHypothesis rest)
        simp only [ofCodePoint, Char.ofNat_toNat] at step
        exact step
  obtain ⟨s, rfl⟩ := unicode
  exact all s.toList _

theorem isUtf8_loop_append (passed rest : Text) :
    isUtf8.loop passed.length (passed ++ rest) = isUtf8.loop 0 rest := by
  induction passed with
  | nil => rfl
  | cons b passed inductionHypothesis => exact inductionHypothesis

@[simp]
theorem isUtf8_ofCodePoint_append {n : Nat} (scalar : n.isValidChar) (rest : Text) :
    isUtf8 (ofCodePoint n ++ rest) = isUtf8 rest := by
  have found := wellFormed?_ofCodePoint scalar rest
  cases encoded : ofCodePoint n with
  | nil => exact absurd encoded (ofCodePoint_ne_nil n)
  | cons b bytes =>
      rw [encoded] at found
      have passed := isUtf8_loop_append bytes rest
      simp only [isUtf8, List.cons_append, isUtf8.loop] at found ⊢
      simp only [found, List.length_cons, Nat.add_sub_cancel, passed]

theorem isUtf8_iff {t : Text} : isUtf8 t = true ↔ IsUnicode t := by
  constructor
  · -- each character that is found leaves a shorter text
    intro checked
    induction size : t.length using Nat.strongRecOn generalizing t with
    | ind length inductionHypothesis =>
        cases t with
        | nil => exact isUnicode_nil
        | cons b bytes =>
            cases found : wellFormed? (b :: bytes) with
            | none => simp [isUtf8, isUtf8.loop, found] at checked
            | some character =>
                obtain ⟨scalar, rest, whole, _⟩ := exists_of_wellFormed? found
                have nonempty := List.length_pos_iff.mpr (ofCodePoint_ne_nil character.1)
                rw [whole, isUtf8_ofCodePoint_append scalar] at checked
                rw [whole, List.length_append] at size
                rw [whole]
                apply isUnicode_append (isUnicode_ofCodePoint _)
                exact inductionHypothesis rest.length (by omega) checked rfl
  · intro unicode
    induction unicode using IsUnicode.induction with
    | nil => rfl
    | cons n rest scalar _ checked =>
        simpa [scalar] using checked

/-- A byte alone is a character only if it is ASCII. -/
theorem ascii_of_isUnicode_singleton {b : UInt8} (unicode : IsUnicode [b]) : b < 128 := by
  have checked := isUtf8_iff.mpr unicode
  by_cases ascii : b < 128
  · exact ascii
  · have refused : wellFormed? [b] = none := by
      unfold wellFormed?
      simp [ascii]
    simp [isUtf8, isUtf8.loop, refused] at checked

/-- ASCII bytes separate characters. -/
theorem isUnicode_split {before after : Text} {b : UInt8} (ascii : b < 128)
    (unicode : IsUnicode (before ++ b :: after)) : IsUnicode before ∧ IsUnicode after := by
  generalize whole : before ++ b :: after = t at unicode
  induction unicode using IsUnicode.induction generalizing before with
  | nil => simp at whole
  | cons n rest scalar restUnicode inductionHypothesis =>
      rcases List.append_eq_append_iff.mp whole with ⟨x, code, tail⟩ | ⟨x, rfl, tail⟩
      · cases x with
        | nil =>
            rw [List.append_nil] at code
            subst code
            exact ⟨isUnicode_ofCodePoint n, (@inductionHypothesis [] tail).2⟩
        | cons head x =>
            obtain ⟨rfl, rfl⟩ := List.cons.inj tail
            rcases ofCodePoint_ascii_or scalar with ⟨only, _, single⟩ | large
            · rw [single] at code
              cases before with
              | nil =>
                  obtain ⟨_, rfl⟩ := List.cons.inj code
                  exact ⟨isUnicode_nil, restUnicode⟩
              | cons first before => simp at code
            · have notAscii := large b (by rw [code]; simp)
              exact absurd ascii (UInt8.not_lt.mpr notAscii)
      · obtain ⟨front, back⟩ := inductionHypothesis tail.symm
        exact ⟨isUnicode_append (isUnicode_ofCodePoint n) front, back⟩

/-! ### Words -/

/-- No character is the start of another one. -/
theorem ofCodePoint_append_inj {m n : Nat} {s t : Text} (scalar : m.isValidChar)
    (other : n.isValidChar) (same : ofCodePoint m ++ s = ofCodePoint n ++ t) : m = n := by
  have found := wellFormed?_ofCodePoint scalar s
  rw [same, wellFormed?_ofCodePoint other t] at found
  cases found
  rfl

theorem exists_ofCodePoint_of_blank {c : Text} (blank : c ∈ blankCharacters) :
    ∃ m, m.isValidChar ∧ c = ofCodePoint m := by
  have whole : ∀ c ∈ blankCharacters, (wellFormed? c).map (·.2) = some c.length := by
    decide +kernel
  obtain ⟨⟨m, size⟩, found, sameSize⟩ := Option.map_eq_some_iff.mp (whole c blank)
  obtain ⟨scalar, rest, split, length⟩ := exists_of_wellFormed? found
  have nothing : rest = [] := by
    have sum := congrArg List.length split
    rw [List.length_append, ← length, ← sameSize] at sum
    exact List.eq_nil_of_length_eq_zero (by omega)
  rw [nothing, List.append_nil] at split
  exact ⟨m, scalar, split⟩

theorem blankLength_of_isContinuation {b : UInt8} (continues : isContinuation b = true)
    (rest : Text) :
    blankLength (b :: rest) = 0 := by
  rcases blankLength_cases (b :: rest) with none | ⟨c, blank, others, split, _, nonempty⟩
  · exact none
  · obtain ⟨first, bytes, rfl⟩ := List.exists_cons_of_length_pos nonempty
    obtain ⟨rfl, _⟩ := List.cons.inj split
    have starts := (bytes_of_mem_blankCharacters _ blank).2.1 b rfl
    rw [continues] at starts
    contradiction

theorem isContinuation_of_mem_tail {n : Nat} (scalar : n.isValidChar) :
    ∀ b ∈ (ofCodePoint n).tail, isContinuation b = true := by
  have continues (m : Nat) : isContinuation (UInt8.ofNat (m % 64 + 0x80)) = true := by
    have all : ∀ k, k < 64 → isContinuation (UInt8.ofNat (k + 0x80)) = true := by decide
    exact all _ (Nat.mod_lt m (by decide))
  have ends : ∀ b ∈ ([] : Text), isContinuation b = true := by simp
  rw [ofCodePoint_eq scalar]
  split
  next => exact ends
  next =>
    split
    next => exact List.forall_mem_cons.mpr ⟨continues _, ends⟩
    next =>
      split
      next => simpa only [List.tail_cons, List.forall_mem_cons, continues, true_and] using ends
      next => simpa only [List.tail_cons, List.forall_mem_cons, continues, true_and] using ends

theorem words_loop_continuation {bytes : Text}
    (continued : ∀ b ∈ bytes, isContinuation b = true) (word rest : Text) :
    words.loop word (bytes ++ rest) = words.loop (bytes.reverse ++ word) rest := by
  induction bytes generalizing word with
  | nil => rfl
  | cons b bytes inductionHypothesis =>
      rw [List.forall_mem_cons] at continued
      rw [List.cons_append, words_loop_of_not_blank (blankLength_of_isContinuation continued.1 _),
        inductionHypothesis continued.2]
      simp

/-- A character that is not blank belongs to one word. -/
theorem words_loop_ofCodePoint {n : Nat} (scalar : n.isValidChar)
    (solid : ofCodePoint n ∉ blankCharacters) (word rest : Text) :
    words.loop word (ofCodePoint n ++ rest) =
      words.loop ((ofCodePoint n).reverse ++ word) rest := by
  have notBlank : blankLength (ofCodePoint n ++ rest) = 0 := by
    rcases blankLength_cases (ofCodePoint n ++ rest) with none | ⟨c, blank, others, split, _, _⟩
    · exact none
    · obtain ⟨m, other, rfl⟩ := exists_ofCodePoint_of_blank blank
      rw [ofCodePoint_append_inj scalar other split] at solid
      contradiction
  have continued := isContinuation_of_mem_tail scalar
  cases encoded : ofCodePoint n with
  | nil => exact absurd encoded (ofCodePoint_ne_nil n)
  | cons b bytes =>
      rw [encoded, List.tail_cons] at continued
      rw [encoded, List.cons_append] at notBlank
      rw [List.cons_append, words_loop_of_not_blank notBlank, words_loop_continuation continued]
      simp

theorem isUnicode_words_loop {t : Text} (unicode : IsUnicode t) {word : Text}
    (front : IsUnicode word.reverse) : ∀ w ∈ words.loop word t, IsUnicode w := by
  induction unicode using IsUnicode.induction generalizing word with
  | nil =>
      intro w listed
      rw [words.loop] at listed
      split at listed
      next => contradiction
      next =>
        rw [List.mem_singleton.mp listed]
        exact front
  | cons n rest scalar _ inductionHypothesis =>
      by_cases blank : ofCodePoint n ∈ blankCharacters
      · rw [words_loop_of_mem blank]
        split
        next => exact inductionHypothesis isUnicode_nil
        next => exact List.forall_mem_cons.mpr ⟨front, inductionHypothesis isUnicode_nil⟩
      · rw [words_loop_ofCodePoint scalar blank]
        apply inductionHypothesis
        rw [List.reverse_append, List.reverse_reverse]
        exact isUnicode_append front (isUnicode_ofCodePoint n)

theorem isUnicode_words {t : Text} (unicode : IsUnicode t) : ∀ w ∈ words t, IsUnicode w :=
  isUnicode_words_loop unicode isUnicode_nil

end Tandem.Text

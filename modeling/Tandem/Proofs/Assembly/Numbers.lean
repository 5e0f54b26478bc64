import Mathlib.Data.List.Forall2
import Mathlib.Data.Nat.Digits.Defs
import Tandem.Assembly.Word
import Tandem.Proofs.Text.Decimal

set_option autoImplicit false

/-!
The words that are numbers. A number is written as an optional sign, a mark of its base, and at
least one digit; its value is that of its digits in that base, of any size. Reading such a word
gives its value if it has a place in 64 bits, and an error otherwise.

One form more can be read: after the mark `0x`, where there is no sign in front of it, a sign may
stand before the digits. These are all the words that can be read.
-/

namespace Tandem

namespace Numeral

/-! ### The syntax of numbers -/

def smallDigits : Text := "0123456789abcdef"

def capitalDigits : Text := "0123456789ABCDEF"

/-- The byte is a digit below 16 with the given value. -/
def IsDigit (b : UInt8) (d : Nat) : Prop := smallDigits[d]? = some b ∨ capitalDigits[d]? = some b

instance (b : UInt8) (d : Nat) : Decidable (IsDigit b d) :=
  inferInstanceAs (Decidable (smallDigits[d]? = some b ∨ capitalDigits[d]? = some b))

/-- The text is made of digits of the base, at least one, with the given values
from left to right. -/
def Spells (base : Nat) (t : Text) (digits : List Nat) : Prop :=
  digits ≠ [] ∧ List.Forall₂ (fun b d => IsDigit b d ∧ d < base) t digits

inductive Sign where
  | absent
  | plus
  | minus

namespace Sign

def text : Sign → Text
  | .absent => []
  | .plus => [plusSign]
  | .minus => [minusSign]

def apply (n : Nat) : Sign → Int
  | .minus => -n
  | _ => n

end Sign

/-- How a word shows the base of its digits. -/
inductive Mark where
  | decimal
  | small
  | capital

namespace Mark

def text : Mark → Text
  | .decimal => []
  | .small => "0x"
  | .capital => "0X"

def base : Mark → Nat
  | .decimal => 10
  | _ => 16

end Mark

/-- The text is made of digits of the marked base, and they have the given value under the sign. -/
def Denotes (sign : Sign) (mark : Mark) (t : Text) (value : Int) : Prop :=
  ∃ digits, Spells mark.base t digits ∧
    value = sign.apply (Nat.ofDigits mark.base digits.reverse)

/-- A sign or none, the mark of a base, and digits. -/
def IsNumber (word : Text) (value : Int) : Prop :=
  ∃ sign mark t, word = sign.text ++ mark.text ++ t ∧ Denotes sign mark t value

/-- A mark of base 16, then a sign, and digits. -/
def HasInnerSign (word : Text) (value : Int) : Prop :=
  ∃ sign mark t, sign ≠ .absent ∧ mark ≠ .decimal ∧ word = mark.text ++ sign.text ++ t ∧
    Denotes sign mark t value

/-! ### Digits -/

theorem isDigit_of_digitValue? {b : UInt8} {d : Nat} (found : digitValue? b = some d)
    (small : d < 16) :
    IsDigit b d := by
  have all : ∀ b : Fin 256, ∀ d ∈ digitValue? (UInt8.ofNat b), d < 16 →
      IsDigit (UInt8.ofNat b) d := by
    decide +kernel
  have byte := all ⟨b.toNat, b.toNat_lt⟩ d
  rw [UInt8.ofNat_toNat] at byte
  exact byte found small

theorem digitValue?_of_isDigit {b : UInt8} {d : Nat} (digit : IsDigit b d) :
    digitValue? b = some d := by
  have all : ∀ d : Fin 16, (∀ b ∈ smallDigits[d.val]?, digitValue? b = some d.val) ∧
      ∀ b ∈ capitalDigits[d.val]?, digitValue? b = some d.val := by decide +kernel
  rcases digit with found | found
  · exact (all ⟨d, (List.getElem?_eq_some_iff.mp found).1⟩).1 b found
  · exact (all ⟨d, (List.getElem?_eq_some_iff.mp found).1⟩).2 b found

/-- The number `n` with one digit more. -/
def extend? (base n : Nat) (b : UInt8) : Option Nat := do
  let d ← digitValue? b
  if d < base then pure (n * base + d) else none

theorem natural?_eq (base : Nat) (t : Text) :
    natural? base t = if t.isEmpty then none else t.foldlM (extend? base) 0 := rfl

section

variable {base : Nat} (small : base ≤ 16)
include small

@[simp]
theorem extend?_eq_some_iff {n m : Nat} {b : UInt8} :
    extend? base n b = some m ↔ ∃ d, (IsDigit b d ∧ d < base) ∧ m = n * base + d := by
  simp only [extend?, Option.bind_eq_bind, Option.bind_eq_some_iff, Option.ite_none_right_eq_some,
    Option.pure_def, Option.some.injEq]
  constructor
  · rintro ⟨d, found, below, rfl⟩
    exact ⟨d, ⟨isDigit_of_digitValue? found (by omega), below⟩, rfl⟩
  · rintro ⟨d, ⟨digit, below⟩, rfl⟩
    exact ⟨d, digitValue?_of_isDigit digit, below, rfl⟩

theorem foldlM_extend?_eq_some_iff {t : Text} {n m : Nat} :
    t.foldlM (extend? base) n = some m ↔
      ∃ digits, List.Forall₂ (fun b d => IsDigit b d ∧ d < base) t digits ∧
        m = n * base ^ digits.length + Nat.ofDigits base digits.reverse := by
  induction t generalizing n with
  | nil => simp [eq_comm]
  | cons b t inductionHypothesis =>
      have value : ∀ (d : Nat) (digits : List Nat),
          n * base ^ (d :: digits).length + Nat.ofDigits base (d :: digits).reverse =
            (n * base + d) * base ^ digits.length + Nat.ofDigits base digits.reverse := by
        intro d digits
        rw [List.reverse_cons, Nat.ofDigits_append, Nat.ofDigits_singleton, List.length_cons,
          List.length_reverse]
        ring
      rw [List.foldlM_cons, Option.bind_eq_bind, Option.bind_eq_some_iff]
      constructor
      · rintro ⟨next, extended, rest⟩
        obtain ⟨d, digit, rfl⟩ := (extend?_eq_some_iff small).mp extended
        obtain ⟨digits, spelled, rfl⟩ := inductionHypothesis.mp rest
        exact ⟨d :: digits, .cons digit spelled, (value d digits).symm⟩
      · rintro ⟨_, spelled, rfl⟩
        cases spelled with
        | @cons _ d _ digits digit spelled =>
            refine ⟨n * base + d, (extend?_eq_some_iff small).mpr ⟨d, digit, rfl⟩, ?_⟩
            exact inductionHypothesis.mpr ⟨digits, spelled, value d digits⟩

@[simp]
theorem natural?_eq_some_iff {t : Text} {n : Nat} :
    natural? base t = some n ↔
      ∃ digits, Spells base t digits ∧ n = Nat.ofDigits base digits.reverse := by
  rw [natural?_eq]
  cases t with
  | nil =>
      simp only [List.isEmpty_nil, if_true, reduceCtorEq, false_iff]
      rintro ⟨digits, ⟨nonempty, spelled⟩, _⟩
      cases spelled
      contradiction
  | cons b t =>
      simp only [List.isEmpty_cons, Bool.false_eq_true, if_false, foldlM_extend?_eq_some_iff small,
        Nat.zero_mul, Nat.zero_add]
      constructor
      · rintro ⟨digits, spelled, rfl⟩
        refine ⟨digits, ⟨?_, spelled⟩, rfl⟩
        rintro rfl
        cases spelled
      · rintro ⟨digits, ⟨_, spelled⟩, rfl⟩
        exact ⟨digits, spelled, rfl⟩

end

/-! ### Signs and marks -/

theorem isSign_of_digitValue? {b : UInt8} {d : Nat} (found : digitValue? b = some d) :
    isSign b = false := by
  apply Bool.eq_false_iff.mpr
  intro sign
  simp only [isSign, Bool.or_eq_true, decide_eq_true_eq] at sign
  rcases sign with rfl | rfl <;> contradiction

theorem Mark.base_le (mark : Mark) : mark.base ≤ 16 := by
  cases mark <;> decide

theorem Sign.ne_absent_iff {sign : Sign} :
    sign ≠ .absent ↔ ∃ b, sign.text = [b] ∧ isSign b = true := by
  cases sign with
  | absent => simp [text]
  | plus => simp [text, isSign]
  | minus => simp [text, isSign]

theorem integer?_cons (base : Nat) (b : UInt8) (t : Text) :
    integer? base (b :: t) =
      if b = minusSign then (natural? base t).map (Sign.apply · .minus)
      else if b = plusSign then (natural? base t).map (Sign.apply · .plus)
      else (natural? base (b :: t)).map (Sign.apply · .absent) := by
  rw [integer?]
  split
  · cases natural? base t <;> rfl
  · split
    · cases natural? base t <;> rfl
    · cases natural? base (b :: t) <;> rfl

theorem denotes_iff {sign : Sign} {mark : Mark} {t : Text} {value : Int} :
    Denotes sign mark t value ↔ (natural? mark.base t).map (Sign.apply · sign) = some value := by
  rw [Option.map_eq_some_iff]
  simp only [natural?_eq_some_iff mark.base_le]
  constructor
  · rintro ⟨digits, spelled, rfl⟩
    exact ⟨_, ⟨digits, spelled, rfl⟩, rfl⟩
  · rintro ⟨_, ⟨digits, spelled, rfl⟩, rfl⟩
    exact ⟨digits, spelled, rfl⟩

theorem Denotes.exists_cons {sign : Sign} {mark : Mark} {t : Text} {value : Int}
    (denotes : Denotes sign mark t value) : ∃ b rest, t = b :: rest ∧ isSign b = false := by
  obtain ⟨digits, ⟨nonempty, spelled⟩, _⟩ := denotes
  cases spelled with
  | nil => contradiction
  | @cons b _ rest _ digit _ =>
      exact ⟨b, rest, rfl, isSign_of_digitValue? (digitValue?_of_isDigit digit.1)⟩

theorem Denotes.isSign_head? {sign : Sign} {mark : Mark} {t : Text} {value : Int}
    (denotes : Denotes sign mark t value) : ∀ b ∈ t.head?, isSign b = false := by
  obtain ⟨b, rest, rfl, unsigned⟩ := denotes.exists_cons
  simpa using unsigned

theorem integer?_eq_some_iff {mark : Mark} {t : Text} {value : Int} :
    integer? mark.base t = some value ↔
      ∃ sign rest, t = sign.text ++ rest ∧ Denotes sign mark rest value := by
  constructor
  · intro read
    cases t with
    | nil => contradiction
    | cons b rest =>
        rw [integer?_cons] at read
        split at read
        next minus => exact ⟨.minus, rest, by rw [minus]; rfl, denotes_iff.mpr read⟩
        next =>
          split at read
          next plus => exact ⟨.plus, rest, by rw [plus]; rfl, denotes_iff.mpr read⟩
          next => exact ⟨.absent, b :: rest, rfl, denotes_iff.mpr read⟩
  · rintro ⟨sign, rest, rfl, denotes⟩
    have read := denotes_iff.mp denotes
    cases sign with
    | absent =>
        obtain ⟨b, others, rfl, unsigned⟩ := denotes.exists_cons
        simp only [isSign, Bool.or_eq_false_iff, decide_eq_false_iff_not] at unsigned
        rw [Sign.text, List.nil_append, integer?_cons, if_neg unsigned.1, if_neg unsigned.2, read]
    | plus =>
        have notMinus : plusSign ≠ minusSign := by decide
        rw [Sign.text, List.singleton_append, integer?_cons, if_neg notMinus, if_pos rfl, read]
    | minus => rw [Sign.text, List.singleton_append, integer?_cons, if_pos rfl, read]

theorem splitSign_text_append (sign : Sign) {t : Text}
    (unsigned : ∀ b ∈ t.head?, isSign b = false) :
    splitSign (sign.text ++ t) = (sign.text, t) := by
  cases sign with
  | absent =>
      cases t with
      | nil => rfl
      | cons b rest => simp [Sign.text, splitSign, unsigned b rfl]
  | plus => rfl
  | minus => rfl

theorem exists_splitSign (word : Text) :
    ∃ (sign : Sign) (t : Text), word = sign.text ++ t ∧ splitSign word = (sign.text, t) ∧
      (sign = .absent → ∀ b ∈ t.head?, isSign b = false) := by
  cases word with
  | nil => exact ⟨.absent, [], rfl, rfl, by simp⟩
  | cons b rest =>
      cases signed : isSign b with
      | false =>
          have unsigned : ∀ c ∈ (b :: rest).head?, isSign c = false := by simpa using signed
          exact ⟨.absent, b :: rest, rfl, splitSign_text_append .absent unsigned,
            fun _ => unsigned⟩
      | true =>
          simp only [isSign, Bool.or_eq_true, decide_eq_true_eq] at signed
          rcases signed with rfl | rfl
          · exact ⟨.minus, rest, rfl, rfl, by simp⟩
          · exact ⟨.plus, rest, rfl, rfl, by simp⟩

/-- A sign in front is the one that is found before the digits. -/
theorem Sign.eq_of_text_append {front found : Sign} {rest digits : Text}
    (signed : front ≠ .absent) (unsigned : ∀ b ∈ digits.head?, isSign b = false)
    (same : front.text ++ rest = found.text ++ digits) :
    found.text = front.text ∧ digits = rest := by
  obtain ⟨b, text, isSigned⟩ := Sign.ne_absent_iff.mp signed
  have split : splitSign (front.text ++ rest) = (front.text, rest) := by
    simp [text, splitSign, isSigned]
  rw [same, splitSign_text_append found unsigned] at split
  exact Prod.mk.inj split

theorem splitBase_text_append {mark : Mark} (marked : mark ≠ .decimal) {t : Text}
    (nonempty : t ≠ []) :
    splitBase (mark.text ++ t) = (mark.base, t) := by
  obtain ⟨b, rest, rfl⟩ := List.exists_cons_of_ne_nil nonempty
  cases mark with
  | decimal => contradiction
  | small => rfl
  | capital => rfl

theorem isDigit_of_spelled {t : Text} {digits : List Nat}
    (spelled : List.Forall₂ (fun b d => IsDigit b d ∧ d < 10) t digits) :
    ∀ b ∈ t, Text.isDigit b = true := by
  have all : ∀ d : Fin 10, (∀ b ∈ smallDigits[d.val]?, Text.isDigit b = true) ∧
      ∀ b ∈ capitalDigits[d.val]?, Text.isDigit b = true := by decide +kernel
  induction spelled with
  | nil => simp
  | @cons b d _ _ digit _ inductionHypothesis =>
      refine List.forall_mem_cons.mpr ⟨?_, inductionHypothesis⟩
      rcases digit.1 with found | found
      · exact (all ⟨d, digit.2⟩).1 b found
      · exact (all ⟨d, digit.2⟩).2 b found

theorem Mark.head?_text_append {mark : Mark} (marked : mark ≠ .decimal) (t : Text) :
    (mark.text ++ t).head? = some 48 := by
  cases mark with
  | decimal => contradiction
  | small => rfl
  | capital => rfl

theorem exists_splitBase (t : Text) :
    ∃ (mark : Mark) (rest : Text), t = mark.text ++ rest ∧ splitBase t = (mark.base, rest) := by
  unfold splitBase
  split
  next x d rest =>
    by_cases marked : (x = 120 || x = 88) = true
    · rw [if_pos marked]
      simp only [Bool.or_eq_true, decide_eq_true_eq] at marked
      rcases marked with rfl | rfl
      · exact ⟨.small, d :: rest, rfl, rfl⟩
      · exact ⟨.capital, d :: rest, rfl, rfl⟩
    · rw [if_neg marked]
      exact ⟨.decimal, _, rfl, rfl⟩
  next => exact ⟨.decimal, t, rfl, rfl⟩

/-! ### All words -/

/-- The number that a word stands for, whether or not it has a place in 64 bits. -/
def reading? (word : Text) : Option Int :=
  let (sign, rest) := splitSign word
  let (base, digits) := splitBase rest
  integer? base (sign ++ digits)

theorem value?_eq (word : Text) : value? word = (reading? word).bind int64OfInt? := rfl

/-- A mark begins with a digit, so that a sign can only come before it. -/
theorem splitSign_of_marked {mark : Mark} (marked : mark ≠ .decimal) (sign : Sign) (t : Text) :
    splitSign (sign.text ++ (mark.text ++ t)) = (sign.text, mark.text ++ t) := by
  apply splitSign_text_append
  rw [mark.head?_text_append marked]
  rintro b ⟨⟩
  decide

theorem split_number (sign : Sign) {mark : Mark} {t : Text} {value : Int}
    (denotes : Denotes sign mark t value) :
    splitSign (sign.text ++ (mark.text ++ t)) = (sign.text, mark.text ++ t) ∧
      splitBase (mark.text ++ t) = (mark.base, t) := by
  by_cases marked : mark = .decimal
  · subst marked
    have unsigned := denotes.isSign_head?
    obtain ⟨digits, ⟨_, spelled⟩, _⟩ := denotes
    exact ⟨splitSign_text_append sign unsigned,
      splitBase_of_digits (isDigit_of_spelled spelled)⟩
  · obtain ⟨b, rest, rfl, _⟩ := denotes.exists_cons
    have nonempty : b :: rest ≠ [] := List.cons_ne_nil b rest
    exact ⟨splitSign_of_marked marked sign _, splitBase_text_append marked nonempty⟩

theorem split_innerSign {sign : Sign} {mark : Mark} (signed : sign ≠ .absent)
    (marked : mark ≠ .decimal) (t : Text) :
    splitSign (mark.text ++ (sign.text ++ t)) = ([], mark.text ++ (sign.text ++ t)) ∧
      splitBase (mark.text ++ (sign.text ++ t)) = (mark.base, sign.text ++ t) := by
  obtain ⟨b, written, _⟩ := Sign.ne_absent_iff.mp signed
  have nonempty : sign.text ++ t ≠ [] := by simp [written]
  exact ⟨splitSign_of_marked marked .absent _, splitBase_text_append marked nonempty⟩

theorem not_isNumber_of_hasInnerSign {word : Text} {value other : Int}
    (inner : HasInnerSign word value) :
    ¬ IsNumber word other := by
  obtain ⟨sign, mark, t, signed, marked, rfl, _⟩ := inner
  rintro ⟨front, base, digits, same, denotes⟩
  rw [List.append_assoc, List.append_assoc] at same
  obtain ⟨innerSign, innerBase⟩ := split_innerSign signed marked t
  obtain ⟨frontSign, frontBase⟩ := split_number front denotes
  rw [same, frontSign] at innerSign
  obtain ⟨_, whole⟩ := Prod.mk.inj innerSign
  rw [same, ← whole, frontBase] at innerBase
  obtain ⟨_, rfl⟩ := Prod.mk.inj innerBase
  -- what follows the mark begins with a sign in one reading, and with a digit in the other
  obtain ⟨b, written, isSigned⟩ := Sign.ne_absent_iff.mp signed
  have unsigned := denotes.isSign_head? b (by rw [written]; rfl)
  rw [isSigned] at unsigned
  contradiction

theorem reading?_of_isNumber {word : Text} {value : Int} (number : IsNumber word value) :
    reading? word = some value := by
  obtain ⟨sign, mark, t, rfl, denotes⟩ := number
  obtain ⟨signSplit, baseSplit⟩ := split_number sign denotes
  simp only [List.append_assoc, reading?, signSplit, baseSplit]
  exact integer?_eq_some_iff.mpr ⟨sign, t, rfl, denotes⟩

theorem reading?_of_hasInnerSign {word : Text} {value : Int} (inner : HasInnerSign word value) :
    reading? word = some value := by
  obtain ⟨sign, mark, t, signed, marked, rfl, denotes⟩ := inner
  obtain ⟨signSplit, baseSplit⟩ := split_innerSign signed marked t
  simp only [List.append_assoc, reading?, signSplit, baseSplit, List.nil_append]
  exact integer?_eq_some_iff.mpr ⟨sign, t, rfl, denotes⟩

@[simp]
theorem reading?_eq_some_iff {word : Text} {value : Int} :
    reading? word = some value ↔ IsNumber word value ∨ HasInnerSign word value := by
  constructor
  · intro read
    obtain ⟨sign, t, rfl, signSplit, unsigned⟩ := exists_splitSign word
    obtain ⟨mark, rest, rfl, baseSplit⟩ := exists_splitBase t
    simp only [reading?, signSplit, baseSplit] at read
    -- the sign in front was put back before the digits, and another sign may have been there
    obtain ⟨found, digits, written, denotes⟩ := integer?_eq_some_iff.mp read
    by_cases front : sign = .absent
    · subst front
      rw [Sign.text, List.nil_append] at written ⊢
      by_cases inner : found = .absent
      · subst inner
        exact .inl ⟨.absent, mark, digits, by rw [written]; rfl, denotes⟩
      · by_cases marked : mark = .decimal
        · subst marked
          obtain ⟨b, text, signed⟩ := Sign.ne_absent_iff.mp inner
          have notSigned := unsigned rfl b (by rw [written, text]; rfl)
          rw [signed] at notSigned
          contradiction
        · exact .inr ⟨found, mark, digits, inner, marked, by rw [written, List.append_assoc],
            denotes⟩
    · obtain ⟨same, rfl⟩ := Sign.eq_of_text_append front denotes.isSign_head? written
      exact .inl ⟨found, mark, digits, by rw [same, List.append_assoc], denotes⟩
  · rintro (number | inner)
    · exact reading?_of_isNumber number
    · exact reading?_of_hasInnerSign inner

theorem int64OfInt?_eq (value : Int) :
    int64OfInt? value =
      if -2 ^ 63 ≤ value ∧ value ≤ 2 ^ 63 - 1 then some (Int64.ofInt value) else none := rfl

@[simp]
theorem int64OfInt?_eq_some_iff {value : Int} {n : Int64} :
    int64OfInt? value = some n ↔ n.toInt = value := by
  constructor
  · intro found
    rw [int64OfInt?_eq] at found
    obtain ⟨⟨low, high⟩, same⟩ := Option.ite_none_right_eq_some.mp found
    cases same
    exact Int64.toInt_ofInt_of_le low (Int.lt_of_le_sub_one high)
  · rintro rfl
    exact int64OfInt?_toInt n

theorem value?_eq_some_iff {word : Text} {n : Int64} :
    value? word = some n ↔ IsNumber word n.toInt ∨ HasInnerSign word n.toInt := by
  rw [value?_eq, Option.bind_eq_some_iff]
  simp only [int64OfInt?_eq_some_iff, reading?_eq_some_iff]
  constructor
  · rintro ⟨value, read, rfl⟩
    exact read
  · intro read
    exact ⟨_, read, rfl⟩

theorem value?_of_isNumber {word : Text} {value : Int} (number : IsNumber word value) :
    value? word = int64OfInt? value := by
  rw [value?_eq, reading?_of_isNumber number, Option.bind_some]

/-! ### Leading zeros -/

theorem Denotes.leading_zeros {sign : Sign} {mark : Mark} {t : Text} {value : Int}
    (denotes : Denotes sign mark t value) (zeros : Nat) :
    Denotes sign mark (List.replicate zeros 48 ++ t) value := by
  obtain ⟨digits, ⟨nonempty, spelled⟩, rfl⟩ := denotes
  have zero : IsDigit 48 0 ∧ 0 < mark.base := ⟨by decide, by cases mark <;> decide⟩
  have zerosSpelled : List.Forall₂ (fun b d => IsDigit b d ∧ d < mark.base)
      (List.replicate zeros 48) (List.replicate zeros 0) := by
    rw [List.forall₂_iff_get]
    simp [zero]
  refine ⟨List.replicate zeros 0 ++ digits,
    ⟨by simp [nonempty], List.rel_append zerosSpelled spelled⟩, ?_⟩
  rw [List.reverse_append, List.reverse_replicate, Nat.ofDigits_append_replicate_zero]

/-! ### Words that start like a number -/

theorem startsNumber_of_head? {word sign t : Text} {b : UInt8} (split : splitSign word = (sign, t))
    (first : t.head? = some b) (digit : Text.isDigit b = true) : startsNumber word = true := by
  obtain ⟨rest, rfl⟩ := List.head?_eq_some_iff.mp first
  rw [startsNumber, split]
  exact digit

theorem startsNumber_of_isNumber {word : Text} {value : Int} (number : IsNumber word value) :
    startsNumber word = true := by
  obtain ⟨sign, mark, t, rfl, denotes⟩ := number
  rw [List.append_assoc]
  obtain ⟨split, _⟩ := split_number sign denotes
  by_cases marked : mark = .decimal
  · subst marked
    obtain ⟨b, rest, rfl, _⟩ := denotes.exists_cons
    obtain ⟨digits, ⟨_, spelled⟩, _⟩ := denotes
    exact startsNumber_of_head? split rfl (isDigit_of_spelled spelled b (.head _))
  · exact startsNumber_of_head? split (mark.head?_text_append marked t) (by decide)

end Numeral

namespace Assembly

open Numeral

theorem operandOf_of_startsNumber {word : Text} (numeric : startsNumber word = true) :
    operandOf word =
      match value? word with
      | some n => .ok (.ofLiteral n, none)
      | none => .error (.notANumber word) := by
  unfold operandOf
  split
  next => contradiction
  next => exact if_pos numeric

/-- The words that are read as numbers, and those that are refused as such, are the documented ones,
except where a sign stands between the mark of base 16 and the digits. -/
theorem accepts_only_numbers_iff (word : Text) :
    ((∀ n, value? word = some n → IsNumber word n.toInt) ∧
      (startsNumber word = true → (¬ ∃ value, IsNumber word value) →
        operandOf word = .error (.notANumber word))) ↔
      ¬ ∃ n : Int64, HasInnerSign word n.toInt := by
  constructor
  · rintro ⟨accepted, _⟩ ⟨n, inner⟩
    exact not_isNumber_of_hasInnerSign inner (accepted n (value?_eq_some_iff.mpr (.inr inner)))
  · intro regular
    have accepted : ∀ n, value? word = some n → IsNumber word n.toInt := by
      intro n found
      rcases value?_eq_some_iff.mp found with number | inner
      · exact number
      · exact absurd ⟨n, inner⟩ regular
    refine ⟨accepted, ?_⟩
    intro numeric unlike
    rw [operandOf_of_startsNumber numeric]
    cases found : value? word with
    | none => rfl
    | some n => exact absurd ⟨_, accepted n found⟩ unlike

/-- Here the sign comes after `0x`. -/
theorem accepts_innerSign :
    value? "0x-5" = some (-5) ∧ operandOf "0x-5" = .ok (.ofLiteral (-5), none) ∧
      startsNumber "0x-5" = true ∧ ¬ ∃ value, IsNumber "0x-5" value := by
  have inner : HasInnerSign "0x-5" (-5) := by
    refine ⟨.minus, .small, "5", by simp, by simp, by decide, [5], ⟨by simp, ?_⟩, by decide⟩
    exact .cons ⟨by decide, by decide⟩ .nil
  refine ⟨by decide, ?_, by decide, ?_⟩
  · rfl
  · rintro ⟨value, number⟩
    exact not_isNumber_of_hasInnerSign inner number

/-- A number is read as its value if that has a place in 64 bits, and refused otherwise. Leading
zeros do not change the value, and the decimal of a value is read as that value. -/
theorem numbers_have_their_value :
    (∀ word value, IsNumber word value →
      (-2 ^ 63 ≤ value ∧ value ≤ 2 ^ 63 - 1 → ∃ n : Int64, n.toInt = value ∧
        value? word = some n ∧ operandOf word = .ok (.ofLiteral n, none)) ∧
      (¬ (-2 ^ 63 ≤ value ∧ value ≤ 2 ^ 63 - 1) →
        value? word = none ∧ operandOf word = .error (.notANumber word))) ∧
    (∀ (sign : Sign) (mark : Mark) (t : Text) (value : Int) (zeros : Nat),
      Numeral.Denotes sign mark t value →
      IsNumber (sign.text ++ mark.text ++ (List.replicate zeros 48 ++ t)) value) ∧
    ∀ n : Int64, value? (Text.decimal n.toInt) = some n := by
  refine ⟨?_, ?_, value?_decimal⟩
  · intro word value number
    have found := value?_of_isNumber number
    rw [operandOf_of_startsNumber (startsNumber_of_isNumber number)]
    rw [int64OfInt?_eq] at found
    constructor
    · rintro ⟨low, high⟩
      rw [if_pos ⟨low, high⟩] at found
      refine ⟨Int64.ofInt value, Int64.toInt_ofInt_of_le low (Int.lt_of_le_sub_one high),
        found, ?_⟩
      rw [found]
    · intro outside
      rw [if_neg outside] at found
      rw [found]
      exact ⟨rfl, rfl⟩
  · intro sign mark t value zeros denotes
    exact ⟨sign, mark, _, rfl, denotes.leading_zeros zeros⟩

/-- The smallest value, in base 16, and one more than the largest, in base 10. -/
theorem numbers_have_their_value_limits :
    IsNumber "-0X8000000000000000" (-2 ^ 63) ∧ IsNumber "+009223372036854775808" (2 ^ 63) ∧
      (∃ n : Int64, n.toInt = -2 ^ 63 ∧ value? "-0X8000000000000000" = some n ∧
        operandOf "-0X8000000000000000" = .ok (.ofLiteral n, none)) ∧
      value? "+009223372036854775808" = none := by
  have smallest : IsNumber "-0X8000000000000000" (-2 ^ 63) :=
    ⟨.minus, .capital, "8000000000000000", by decide, 8 :: List.replicate 15 0,
      ⟨by simp, by decide⟩, by decide⟩
  have tooLarge : Numeral.Denotes .plus .decimal "9223372036854775808" (2 ^ 63) :=
    ⟨[9, 2, 2, 3, 3, 7, 2, 0, 3, 6, 8, 5, 4, 7, 7, 5, 8, 0, 8],
      ⟨by simp, by decide⟩, by decide⟩
  have zeros : IsNumber "+009223372036854775808" (2 ^ 63) :=
    numbers_have_their_value.2.1 .plus .decimal _ _ 2 tooLarge
  exact ⟨smallest, zeros, (numbers_have_their_value.1 _ _ smallest).1 (by decide),
    ((numbers_have_their_value.1 _ _ zeros).2 (by decide)).1⟩

end Assembly

end Tandem

import Tandem.Text.Numeral

set_option autoImplicit false

/-!
Decimals are read back as the numbers they were written for, over the whole range of 64 bits.
-/

namespace Tandem

namespace Text

@[simp]
theorem isDigit_digit {d : Nat} (small : d < 10) : isDigit (digit d) = true := by
  have all : ∀ d : Fin 10, isDigit (digit d) = true := by decide
  exact all ⟨d, small⟩

theorem isDigit_of_mem_ofNat (n : Nat) : ∀ b ∈ ofNat n, isDigit b = true := by
  induction n using Nat.strongRecOn with
  | _ n inductionHypothesis =>
      intro b listed
      rw [ofNat] at listed
      by_cases small : n < 10
      · rw [if_pos small, List.mem_singleton] at listed
        exact listed ▸ isDigit_digit small
      · rw [if_neg small, List.mem_append, List.mem_singleton] at listed
        rcases listed with front | rfl
        · exact inductionHypothesis (n / 10) (by omega) b front
        · exact isDigit_digit (Nat.mod_lt n (by decide))

theorem ofNat_ne_nil (n : Nat) : ofNat n ≠ [] := by
  rw [ofNat]
  split <;> simp

theorem length_ofNat_le {n digits : Nat} (bounded : n < Nat.pow 10 (digits + 1)) :
    (ofNat n).length ≤ digits + 1 := by
  induction digits generalizing n with
  | zero =>
      have small : n < 10 := bounded
      rw [ofNat, if_pos small]
      exact Nat.le_refl 1
  | succ digits inductionHypothesis =>
      rw [ofNat]
      by_cases small : n < 10
      · rw [if_pos small]
        exact Nat.le_add_left 1 (digits + 1)
      · have power : Nat.pow 10 (digits + 1 + 1) = Nat.pow 10 (digits + 1) * 10 := rfl
        have front : n / 10 < Nat.pow 10 (digits + 1) := Nat.div_lt_of_lt_mul (by omega)
        have shorter := inductionHypothesis front
        rw [if_neg small, List.length_append, List.length_singleton]
        omega

end Text

namespace Numeral

@[simp]
theorem digitValue?_digit {d : Nat} (small : d < 10) : digitValue? (Text.digit d) = some d := by
  have all : ∀ d : Fin 10, digitValue? (Text.digit d) = some d.val := by decide
  exact all ⟨d, small⟩

@[simp]
theorem natural?_ofNat (n : Nat) : natural? 10 (Text.ofNat n) = some n := by
  have nonempty : (Text.ofNat n).isEmpty = false := by simp [Text.ofNat_ne_nil]
  rw [natural?, nonempty]
  simp only [Bool.false_eq_true, if_false]
  clear nonempty
  induction n using Nat.strongRecOn with
  | _ n inductionHypothesis =>
      rw [Text.ofNat]
      split
      next small => simp [digitValue?_digit small, small]
      next large =>
        have last : n % 10 < 10 := Nat.mod_lt n (by decide)
        rw [List.foldlM_append, inductionHypothesis (n / 10) (by omega)]
        simp [digitValue?_digit last, last]
        omega

theorem isSign_of_isDigit {b : UInt8} (digit : Text.isDigit b = true) : isSign b = false := by
  apply Bool.eq_false_iff.mpr
  intro sign
  simp only [isSign, Bool.or_eq_true, decide_eq_true_eq] at sign
  rcases sign with rfl | rfl
  · exact absurd digit (by decide)
  · exact absurd digit (by decide)

/-- After a leading zero there is no letter. -/
theorem splitBase_of_digits {t : Text} (digits : ∀ b ∈ t, Text.isDigit b = true) :
    splitBase t = (10, t) := by
  unfold splitBase
  split
  next x d rest =>
    have second : Text.isDigit x = true := digits x (by simp)
    rw [if_neg]
    simp only [Bool.or_eq_true, decide_eq_true_eq]
    rintro (rfl | rfl)
    · exact absurd second (by decide)
    · exact absurd second (by decide)
  next => rfl

theorem exists_ofNat_eq_cons (n : Nat) :
    ∃ b rest, Text.ofNat n = b :: rest ∧ isSign b = false ∧ Text.isDigit b = true := by
  obtain ⟨b, rest, split⟩ := List.exists_cons_of_ne_nil (Text.ofNat_ne_nil n)
  have digit : Text.isDigit b = true := Text.isDigit_of_mem_ofNat n b (by rw [split]; exact .head _)
  exact ⟨b, rest, split, isSign_of_isDigit digit, digit⟩

/-- A decimal is an optional minus sign and the digits of the absolute value. -/
@[simp]
theorem splitSign_decimal (n : Int) :
    splitSign (Text.decimal n) = (if n < 0 then [minusSign] else [], Text.ofNat n.natAbs) := by
  obtain ⟨b, rest, split, unsigned, _⟩ := exists_ofNat_eq_cons n.natAbs
  unfold Text.decimal
  by_cases negative : n < 0
  · simp [negative, splitSign, isSign, minusSign]
  · simp [negative, split, splitSign, unsigned]

@[simp]
theorem startsNumber_decimal (n : Int) : startsNumber (Text.decimal n) = true := by
  obtain ⟨b, rest, split, _, digit⟩ := exists_ofNat_eq_cons n.natAbs
  rw [startsNumber, splitSign_decimal, split]
  exact digit

@[simp]
theorem integer?_decimal (n : Int) : integer? 10 (Text.decimal n) = some n := by
  unfold Text.decimal
  by_cases negative : n < 0
  · have sign : (45 : UInt8) = minusSign := rfl
    have value : -(n.natAbs : Int) = n := by omega
    rw [if_pos negative, integer?, if_pos sign, natural?_ofNat]
    exact congrArg some value
  · have value : (n.natAbs : Int) = n := by omega
    have read := natural?_ofNat n.natAbs
    obtain ⟨b, rest, split, unsigned, _⟩ := exists_ofNat_eq_cons n.natAbs
    simp only [isSign, Bool.or_eq_false_iff, decide_eq_false_iff_not] at unsigned
    rw [split] at read
    rw [if_neg negative, split, integer?, if_neg unsigned.1, if_neg unsigned.2, read]
    exact congrArg some value

@[simp]
theorem int64OfInt?_toInt (n : Int64) : int64OfInt? n.toInt = some n := by
  rw [int64OfInt?, if_pos ⟨Int64.minValue_le_toInt n, Int64.toInt_le n⟩, Int64.ofInt_toInt]

@[simp]
theorem value?_decimal (n : Int64) : value? (Text.decimal n.toInt) = some n := by
  have whole : (if n.toInt < 0 then [minusSign] else []) ++ Text.ofNat n.toInt.natAbs =
      Text.decimal n.toInt := by
    unfold Text.decimal
    split <;> rfl
  simp only [value?, splitSign_decimal, splitBase_of_digits (Text.isDigit_of_mem_ofNat _), whole,
    integer?_decimal]
  exact int64OfInt?_toInt n

end Numeral

end Tandem

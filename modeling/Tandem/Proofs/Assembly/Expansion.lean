import Tandem.Assembly.Expansion

set_option autoImplicit false

/-!
What it means to expand a line. An expression `$(…)` has no `$` inside; the one that starts
first is taken, and of those that start there the longest. Its value takes its place, and the
same goes for what follows it. `Expanded` says this without a scanner, and `expand` succeeds
exactly where it holds.
-/

namespace Tandem.Assembly

/-- An expression in a text, with what stands before it and after it. -/
def Occurs (t before body after : Text) : Prop :=
  t = before ++ 36 :: 40 :: (body ++ 41 :: after) ∧ 36 ∉ body

/-- The expression that starts first and, of those that start there, ends last. -/
structure IsFirst (t before body after : Text) : Prop where
  occurs : Occurs t before body after
  leftmost : ∀ {b e a : Text}, Occurs t b e a → before.length ≤ b.length
  longest : ∀ {e a : Text}, Occurs t before e a → e.length ≤ body.length

/-- A text with the values of its expressions in their places. -/
inductive Expanded (evaluate : Text → Except Expr.Failure Int64) : Text → Text → Prop where
  | plain {t : Text} : (∀ b e a, ¬ Occurs t b e a) → Expanded evaluate t t
  | replaced {t before body after result : Text} {value : Int64} :
      IsFirst t before body after → evaluate body = .ok value →
      Expanded evaluate after result →
      Expanded evaluate t (before ++ Text.decimal value.toInt ++ result)

theorem IsFirst.unique {t before body after b e a : Text} (first : IsFirst t before body after)
    (other : IsFirst t b e a) : b = before ∧ e = body ∧ a = after := by
  have sameText := other.occurs.1.symm.trans first.occurs.1
  have sameBefore : b = before :=
    (List.append_inj sameText
      (Nat.le_antisymm (other.leftmost first.occurs) (first.leftmost other.occurs))).1
  subst b
  have sameSize := Nat.le_antisymm (first.longest other.occurs) (other.longest first.occurs)
  have sameRest := List.append_cancel_left sameText
  simp only [List.cons.injEq, true_and] at sameRest
  obtain ⟨sameBody, sameAfter⟩ := List.append_inj sameRest sameSize
  exact ⟨rfl, sameBody, (List.cons.inj sameAfter).2⟩

section

variable {evaluate : Text → Except Expr.Failure Int64}

theorem expanded_iff_of_plain {t result : Text} (plain : ∀ b e a, ¬ Occurs t b e a) :
    Expanded evaluate t result ↔ result = t := by
  constructor
  · intro expanded
    cases expanded with
    | plain _ => rfl
    | replaced first _ _ => exact absurd first.occurs (plain _ _ _)
  · rintro rfl
    exact .plain plain

theorem expanded_iff_of_isFirst {t before body after result : Text}
    (first : IsFirst t before body after) :
    Expanded evaluate t result ↔ ∃ value rest, evaluate body = .ok value ∧
      Expanded evaluate after rest ∧ result = before ++ Text.decimal value.toInt ++ rest := by
  constructor
  · intro expanded
    cases expanded with
    | plain plain => exact absurd first.occurs (plain _ _ _)
    | replaced other evaluated rest =>
        obtain ⟨rfl, rfl, rfl⟩ := first.unique other
        exact ⟨_, _, evaluated, rest, rfl⟩
  · rintro ⟨value, rest, evaluated, expanded, rfl⟩
    exact .replaced first evaluated expanded

/-! ### Texts in which no expression starts or ends -/

/-- No expression of the whole text starts in its first part. -/
def NoneStarts (front t : Text) : Prop :=
  ∀ {b e a : Text}, Occurs (front ++ t) b e a → front.length ≤ b.length

theorem NoneStarts.occurs_iff {front t b e a : Text} (quiet : NoneStarts front t) :
    Occurs (front ++ t) b e a ↔ ∃ x, b = front ++ x ∧ Occurs t x e a := by
  constructor
  · intro occurs
    have behind := quiet occurs
    obtain ⟨whole, noDollar⟩ := occurs
    rcases List.append_eq_append_iff.mp whole with ⟨x, rfl, rest⟩ | ⟨x, rfl, rest⟩
    · exact ⟨x, rfl, rest, noDollar⟩
    · have nothing : x = [] := by
        rw [List.length_append] at behind
        exact List.eq_nil_of_length_eq_zero (by omega)
      subst x
      exact ⟨[], by simp, rest.symm, noDollar⟩
  · rintro ⟨x, rfl, rfl, noDollar⟩
    exact ⟨by simp, noDollar⟩

theorem NoneStarts.isFirst_iff {front t b e a : Text} (quiet : NoneStarts front t) :
    IsFirst (front ++ t) (front ++ b) e a ↔ IsFirst t b e a := by
  have shift : ∀ {x e a : Text}, Occurs (front ++ t) (front ++ x) e a ↔ Occurs t x e a := by
    intro x e a
    rw [quiet.occurs_iff]
    constructor
    · rintro ⟨y, same, occurs⟩
      rw [List.append_cancel_left same]
      exact occurs
    · intro occurs
      exact ⟨x, rfl, occurs⟩
  constructor
  · intro first
    refine ⟨shift.mp first.occurs, ?_, fun occurs => first.longest (shift.mpr occurs)⟩
    intro x e a occurs
    have leftmost := first.leftmost (shift.mpr occurs)
    rw [List.length_append, List.length_append] at leftmost
    omega
  · intro first
    refine ⟨shift.mpr first.occurs, ?_, fun occurs => first.longest (shift.mp occurs)⟩
    intro x e a occurs
    obtain ⟨y, rfl, inRest⟩ := quiet.occurs_iff.mp occurs
    have leftmost := first.leftmost inRest
    rw [List.length_append, List.length_append]
    omega

theorem NoneStarts.expanded_iff {front t result : Text} (quiet : NoneStarts front t) :
    Expanded evaluate (front ++ t) result ↔
      ∃ rest, result = front ++ rest ∧ Expanded evaluate t rest := by
  constructor
  · intro expanded
    cases expanded with
    | plain plain =>
        exact ⟨t, rfl,
          .plain fun b e a occurs => plain _ e a (quiet.occurs_iff.mpr ⟨b, rfl, occurs⟩)⟩
    | replaced first evaluated rest =>
        obtain ⟨x, rfl, _⟩ := quiet.occurs_iff.mp first.occurs
        exact ⟨_, by simp, .replaced (quiet.isFirst_iff.mp first) evaluated rest⟩
  · rintro ⟨rest, rfl, expanded⟩
    cases expanded with
    | plain plain =>
        refine .plain fun b e a occurs => ?_
        obtain ⟨x, _, inRest⟩ := quiet.occurs_iff.mp occurs
        exact plain x e a inRest
    | replaced first evaluated expanded =>
        have whole := Expanded.replaced (quiet.isFirst_iff.mpr first) evaluated expanded
        simpa using whole

theorem noneStarts_of_not_mem {front t : Text} (noDollar : 36 ∉ front) : NoneStarts front t := by
  rintro b e a ⟨whole, _⟩
  rcases List.append_eq_append_iff.mp whole with ⟨x, rfl, _⟩ | ⟨x, rfl, rest⟩
  · simp
  · cases x with
    | nil => simp
    | cons y x =>
        obtain ⟨rfl, _⟩ := List.cons.inj rest
        exact absurd (by simp) noDollar

theorem occurs_append_iff {t ending b e a : Text} (noClosing : 41 ∉ ending) :
    Occurs (t ++ ending) b e a ↔ ∃ x, a = x ++ ending ∧ Occurs t b e x := by
  constructor
  · rintro ⟨whole, noDollar⟩
    have regrouped : t ++ ending = (b ++ 36 :: 40 :: (e ++ [41])) ++ a := by simpa using whole
    rcases List.append_eq_append_iff.mp regrouped with ⟨x, front, rfl⟩ | ⟨x, rfl, rfl⟩
    · -- the closing parenthesis cannot lie in the ending
      rcases List.eq_nil_or_concat x with rfl | ⟨y, last, rfl⟩
      · exact ⟨[], rfl, by simpa using front.symm, noDollar⟩
      · have closing : (b ++ 36 :: 40 :: e) ++ [41] = (t ++ y) ++ [last] := by simpa using front
        obtain ⟨_, sameLast⟩ := List.append_inj' closing rfl
        exact absurd (by simp [List.singleton_inj.mp sameLast]) noClosing
    · exact ⟨x, rfl, by simp, noDollar⟩
  · rintro ⟨x, rfl, rfl, noDollar⟩
    exact ⟨by simp, noDollar⟩

theorem isFirst_append_iff {t ending b e a : Text} (noClosing : 41 ∉ ending) :
    IsFirst (t ++ ending) b e (a ++ ending) ↔ IsFirst t b e a := by
  have shift : ∀ {b e a : Text}, Occurs (t ++ ending) b e (a ++ ending) ↔ Occurs t b e a := by
    intro b e a
    rw [occurs_append_iff noClosing]
    constructor
    · rintro ⟨x, same, occurs⟩
      rw [List.append_cancel_right same]
      exact occurs
    · intro occurs
      exact ⟨a, rfl, occurs⟩
  constructor
  · intro first
    exact ⟨shift.mp first.occurs, fun occurs => first.leftmost (shift.mpr occurs),
      fun occurs => first.longest (shift.mpr occurs)⟩
  · intro first
    refine ⟨shift.mpr first.occurs, ?_, ?_⟩
    · intro x y z occurs
      obtain ⟨_, _, inFront⟩ := (occurs_append_iff noClosing).mp occurs
      exact first.leftmost inFront
    · intro y z occurs
      obtain ⟨_, _, inFront⟩ := (occurs_append_iff noClosing).mp occurs
      exact first.longest inFront

theorem expanded_append_iff {t ending result : Text} (noClosing : 41 ∉ ending) :
    Expanded evaluate (t ++ ending) result ↔
      ∃ front, result = front ++ ending ∧ Expanded evaluate t front := by
  constructor
  · intro expanded
    generalize whole : t ++ ending = text at expanded
    induction expanded generalizing t with
    | plain plain =>
        subst whole
        refine ⟨t, rfl, .plain fun b e a occurs => plain b e (a ++ ending) ?_⟩
        exact (occurs_append_iff noClosing).mpr ⟨a, rfl, occurs⟩
    | replaced first evaluated _ inductionHypothesis =>
        subst whole
        obtain ⟨x, rfl, _⟩ := (occurs_append_iff noClosing).mp first.occurs
        obtain ⟨front, rfl, expanded⟩ := inductionHypothesis rfl
        exact ⟨_, by simp,
          .replaced ((isFirst_append_iff noClosing).mp first) evaluated expanded⟩
  · rintro ⟨front, rfl, expanded⟩
    induction expanded with
    | plain plain =>
        refine .plain fun b e a occurs => ?_
        obtain ⟨x, _, inFront⟩ := (occurs_append_iff noClosing).mp occurs
        exact plain b e x inFront
    | replaced first evaluated _ inductionHypothesis =>
        have whole :=
          Expanded.replaced ((isFirst_append_iff noClosing).mpr first) evaluated inductionHypothesis
        simpa using whole

/-! ### The scanner -/

/-- The scanner stops before the first `$(` that follows. -/
theorem splitOpening_loop_spec (passed t : Text) :
    (splitOpening.loop passed t = (passed.reverse ++ t, none) ∧
      ∀ b rest, t ≠ b ++ 36 :: 40 :: rest) ∨
    ∃ before rest, splitOpening.loop passed t = (passed.reverse ++ before, some rest) ∧
      t = before ++ 36 :: 40 :: rest ∧
      ∀ b r, t = b ++ 36 :: 40 :: r → before.length ≤ b.length := by
  induction t generalizing passed with
  | nil => exact .inl ⟨by simp [splitOpening.loop], by simp⟩
  | cons c t inductionHypothesis =>
      by_cases opening : c = 36 ∧ t.head? = some 40
      · refine .inr ⟨[], t.tail, by simp [splitOpening.loop, opening], ?_, by simp⟩
        obtain ⟨rfl, second⟩ := opening
        obtain ⟨rest, rfl⟩ := List.head?_eq_some_iff.mp second
        rfl
      · have elsewhere : ∀ b r, c :: t = b ++ 36 :: 40 :: r → ∃ x, b = c :: x ∧
            t = x ++ 36 :: 40 :: r := by
          intro b r whole
          cases b with
          | nil =>
              obtain ⟨rfl, rfl⟩ := List.cons.inj whole
              exact absurd ⟨rfl, rfl⟩ opening
          | cons d x =>
              obtain ⟨rfl, rest⟩ := List.cons.inj whole
              exact ⟨x, rfl, rest⟩
        have goesOn : splitOpening.loop passed (c :: t) = splitOpening.loop (c :: passed) t := by
          rw [splitOpening.loop, if_neg opening]
        rw [goesOn]
        rcases inductionHypothesis (c :: passed) with ⟨found, absent⟩ |
          ⟨before, rest, found, split, least⟩
        · refine .inl ⟨by simp [found], fun b r whole => ?_⟩
          obtain ⟨x, _, inRest⟩ := elsewhere b r whole
          exact absent x r inRest
        · refine .inr ⟨c :: before, rest, by simp [found], by rw [split]; rfl, ?_⟩
          intro b r whole
          obtain ⟨x, rfl, inRest⟩ := elsewhere b r whole
          exact Nat.succ_le_succ (least x r inRest)

/-- A text up to the first occurrence of a byte, and from there on. -/
theorem exists_span (c : UInt8) (t : Text) :
    ∃ front rest, t.takeWhile (· ≠ c) = front ∧ t.dropWhile (· ≠ c) = rest ∧
      t = front ++ rest ∧ c ∉ front ∧ ∀ x ∈ rest.head?, x = c := by
  refine ⟨_, _, rfl, rfl, List.takeWhile_append_dropWhile.symm, ?_, ?_⟩
  · induction t with
    | nil => simp
    | cons x t inductionHypothesis =>
        by_cases same : x = c
        · simp [same]
        · simpa [same, Ne.symm same] using inductionHypothesis
  · induction t with
    | nil => simp
    | cons x t inductionHypothesis =>
        by_cases same : x = c
        · simp [same]
        · simpa [same] using inductionHypothesis

theorem splitLastParen_spec (t : Text) :
    (splitLastParen t = none ∧ 41 ∉ t) ∨
    ∃ before after, splitLastParen t = some (before, after) ∧ t = before ++ 41 :: after ∧
      41 ∉ after := by
  obtain ⟨after, rest, taken, dropped, split, noClosing, stop⟩ := exists_span 41 t.reverse
  have whole : t = rest.reverse ++ after.reverse := by
    rw [← List.reverse_append, ← split, List.reverse_reverse]
  cases rest with
  | nil =>
      refine .inl ⟨by rw [splitLastParen, dropped], ?_⟩
      rw [whole]
      simpa using noClosing
  | cons c before =>
      obtain rfl : c = 41 := stop c rfl
      refine .inr ⟨before.reverse, after.reverse, by rw [splitLastParen, dropped, taken],
        ?_, by simpa⟩
      simpa using whole

/-- An expression ends before the next `$`. -/
theorem closes_before_dollar {body others e a : Text} (noDollar : 36 ∉ e)
    (stop : ∀ c ∈ others.head?, c = 36) (whole : body ++ others = e ++ 41 :: a) :
    ∃ x, body = e ++ 41 :: x ∧ a = x ++ others := by
  rcases List.append_eq_append_iff.mp whole with ⟨x, rfl, rfl⟩ | ⟨x, rfl, rest⟩
  · cases x with
    | nil => exact absurd (stop 41 rfl) (by decide)
    | cons y x =>
        obtain rfl : y = 36 := stop y rfl
        exact absurd (by simp) noDollar
  · cases x with
    | nil =>
        rw [List.nil_append] at rest
        subst rest
        exact absurd (stop 41 rfl) (by decide)
    | cons y x =>
        obtain ⟨rfl, rfl⟩ := List.cons.inj rest
        exact ⟨x, rfl, rfl⟩

/-- Between `$(` and the next `$`, the last parenthesis closes the longest expression. -/
theorem isFirst_of_splits {before others expression after : Text}
    (leftmost : ∀ b r, before ++ 36 :: 40 :: (expression ++ 41 :: after ++ others) =
      b ++ 36 :: 40 :: r → before.length ≤ b.length)
    (noDollar : 36 ∉ expression ++ 41 :: after) (stop : ∀ c ∈ others.head?, c = 36)
    (noClosing : 41 ∉ after) :
    IsFirst (before ++ 36 :: 40 :: (expression ++ 41 :: after ++ others)) before expression
      (after ++ others) := by
  refine ⟨⟨by simp, fun membership => noDollar (by simp [membership])⟩,
    fun occurs => leftmost _ _ occurs.1, ?_⟩
  rintro e a ⟨whole, noDollarInside⟩
  have rest := List.append_cancel_left whole
  simp only [List.cons.injEq, true_and] at rest
  obtain ⟨x, sameBody, _⟩ := closes_before_dollar noDollarInside stop rest
  rcases List.append_eq_append_iff.mp sameBody with ⟨y, rfl, inAfter⟩ | ⟨y, rfl, _⟩
  · cases y with
    | nil => simp
    | cons c y =>
        obtain ⟨rfl, rfl⟩ := List.cons.inj inAfter
        exact absurd (by simp) noClosing
  · simp

/-- Without a parenthesis before the next `$`, no expression starts up to there. -/
theorem noneStarts_of_splits {before body others : Text}
    (leftmost : ∀ b r, before ++ 36 :: 40 :: (body ++ others) = b ++ 36 :: 40 :: r →
      before.length ≤ b.length)
    (noDollar : 36 ∉ body) (stop : ∀ c ∈ others.head?, c = 36) (noClosing : 41 ∉ body) :
    NoneStarts (before ++ 36 :: 40 :: body) others := by
  rintro b e a ⟨whole, noDollarInside⟩
  have regrouped : before ++ 36 :: 40 :: (body ++ others) = b ++ 36 :: 40 :: (e ++ 41 :: a) := by
    simpa using whole
  have behind := leftmost _ _ regrouped
  obtain ⟨z, rfl⟩ : ∃ z, b = before ++ z := by
    rcases List.append_eq_append_iff.mp regrouped with ⟨z, rfl, _⟩ | ⟨z, rfl, _⟩
    · exact ⟨z, rfl⟩
    · rw [List.length_append] at behind
      obtain rfl : z = [] := List.eq_nil_of_length_eq_zero (by omega)
      exact ⟨[], by simp⟩
  rw [List.append_assoc] at regrouped
  have rest := List.append_cancel_left regrouped
  match z with
  | [] =>
      -- the expression would start here, and close before the next `$`
      simp only [List.nil_append, List.cons.injEq, true_and] at rest
      obtain ⟨x, rfl, _⟩ := closes_before_dollar noDollarInside stop rest
      exact absurd (by simp) noClosing
  | [c] => simp at rest
  | c :: d :: z =>
      simp only [List.cons_append, List.cons.injEq] at rest
      rcases List.append_eq_append_iff.mp rest.2.2 with ⟨y, rfl, _⟩ | ⟨y, rfl, inBody⟩
      · simp
      · cases y with
        | nil => simp
        | cons g y =>
            obtain ⟨rfl, _⟩ := List.cons.inj inBody
            exact absurd (by simp) noDollar

@[simp]
theorem splice_plain_eq_ok_iff {t result : Text} {rest : List Piece} :
    splice evaluate (.plain t :: rest) = .ok result ↔
      ∃ others, result = t ++ others ∧ splice evaluate rest = .ok others := by
  cases spliced : splice evaluate rest <;> simp [splice, spliced, Except.map, eq_comm]

@[simp]
theorem splice_expression_eq_ok_iff {t result : Text} {rest : List Piece} :
    splice evaluate (.expression t :: rest) = .ok result ↔
      ∃ value others, evaluate t = .ok value ∧ splice evaluate rest = .ok others ∧
        result = Text.decimal value.toInt ++ others := by
  cases evaluated : evaluate t with
  | error failure => simp [splice, evaluated]
  | ok value =>
      cases spliced : splice evaluate rest <;>
        simp [splice, evaluated, spliced, Except.map, eq_comm]

/-- The pieces of a line, put together with the values of the expressions, are its expansion. -/
theorem splice_pieces_loop {size : Nat} {line result : Text} (bounded : line.length < size) :
    splice evaluate (pieces.loop size line) = .ok result ↔ Expanded evaluate line result := by
  induction size generalizing line result with
  | zero => contradiction
  | succ size inductionHypothesis =>
      rcases splitOpening_loop_spec [] line with
        ⟨found, absent⟩ | ⟨before, rest, found, rfl, leftmost⟩
      · rw [pieces.loop, splitOpening, found,
          expanded_iff_of_plain fun b e a occurs => absent b _ occurs.1]
        simp [splice, Except.map, eq_comm]
      · obtain ⟨body, others, taken, _, rfl, noDollar, stop⟩ := exists_span 36 rest
        have dropped : (body ++ others).drop body.length = others := List.drop_left
        rw [pieces.loop, splitOpening, found]
        simp only [List.reverse_nil, List.nil_append, taken, dropped]
        simp only [List.length_append, List.length_cons] at bounded
        rcases splitLastParen_spec body with
          ⟨unclosed, noClosing⟩ | ⟨expression, after, closed, rfl, noClosing⟩
        · rw [unclosed]
          simp only
          have quiet : NoneStarts (before ++ 36 :: 40 :: body) others :=
            noneStarts_of_splits leftmost noDollar stop noClosing
          have whole :
              before ++ 36 :: 40 :: (body ++ others) = (before ++ 36 :: 40 :: body) ++ others := by
            simp
          have shorter : others.length < size := by omega
          rw [splice_plain_eq_ok_iff, whole, quiet.expanded_iff]
          simp only [inductionHypothesis shorter]
        · rw [closed]
          simp only
          have first := isFirst_of_splits leftmost noDollar stop noClosing
          simp only [List.length_append, List.length_cons] at bounded
          have shorter : (after ++ others).length < size := by
            rw [List.length_append]
            omega
          rw [splice_plain_eq_ok_iff, expanded_iff_of_isFirst first]
          simp only [splice_expression_eq_ok_iff, inductionHypothesis shorter]
          constructor
          · rintro ⟨_, rfl, value, others, evaluated, expanded, rfl⟩
            exact ⟨value, others, evaluated, expanded, by simp⟩
          · rintro ⟨value, others, evaluated, expanded, rfl⟩
            exact ⟨_, by simp, value, others, evaluated, expanded, rfl⟩

@[simp]
theorem expand_eq_ok_iff {line result : Text} :
    expand evaluate line = .ok result ↔ Expanded evaluate line result :=
  splice_pieces_loop (Nat.lt_succ_self _)

end

end Tandem.Assembly

import Tandem.Assembly.Source

set_option autoImplicit false

/-!
The lines of a source text are what stands between its newlines; after a newline at the end there is
no further line. Reading gives exactly these lines, without their carriage returns, up to the first
that is not within the limit.
-/

namespace Tandem.Source

/-- The lines with their carriage returns. -/
def rawLinesOf (t : Text) : List Text :=
  let parts := t.splitOn 10
  if parts.getLast? = some [] then parts.dropLast else parts

def linesOf (t : Text) : List Text := (rawLinesOf t).map dropReturn

theorem read_loop_append_newline {line : Text} (noNewline : 10 ∉ line) (passed rest : Text)
    (size : Nat) (within : size + line.length < lineLimit) :
    read.loop passed size (line ++ 10 :: rest) =
      { read rest with lines := dropReturn (passed.reverse ++ line) :: (read rest).lines } := by
  induction line generalizing passed size with
  | nil =>
      rw [List.length_nil] at within
      rw [List.nil_append, read.loop, if_pos rfl, if_neg (by omega), List.append_nil]
      rfl
  | cons b line inductionHypothesis =>
      rw [List.mem_cons, not_or] at noNewline
      rw [List.length_cons] at within
      rw [List.cons_append, read.loop, if_neg (Ne.symm noNewline.1),
        inductionHypothesis noNewline.2 _ _ (by omega)]
      simp

theorem read_loop_last {line : Text} (noNewline : 10 ∉ line) (passed : Text) (size : Nat)
    (within : size + line.length < lineLimit) :
    read.loop passed size line =
      ⟨if size + line.length = 0 then []
        else [dropReturn (passed.reverse ++ line)], false⟩ := by
  induction line generalizing passed size with
  | nil =>
      rw [List.length_nil, Nat.add_zero] at within
      rw [read.loop, List.length_nil, Nat.add_zero, List.append_nil, if_neg (Nat.not_le.mpr within)]
      split <;> rfl
  | cons b line inductionHypothesis =>
      rw [List.mem_cons, not_or] at noNewline
      rw [List.length_cons] at within
      rw [read.loop, if_neg (Ne.symm noNewline.1), inductionHypothesis noNewline.2 _ _ (by omega)]
      simp

theorem read_append_newline {line : Text} (noNewline : 10 ∉ line)
    (within : line.length < lineLimit) (rest : Text) :
    read (line ++ 10 :: rest) = { read rest with lines := dropReturn line :: (read rest).lines } :=
  read_loop_append_newline noNewline [] rest 0 (by omega)

theorem splitOn_append_newline {line : Text} (noNewline : 10 ∉ line) (rest : Text) :
    (line ++ 10 :: rest).splitOn 10 = line :: rest.splitOn 10 := by
  rw [List.splitOn_eq_splitOnP, List.splitOn_eq_splitOnP]
  apply List.splitOnP_append_cons_of_forall_mem
  · intro b inLine
    exact beq_eq_false_iff_ne.mpr fun same => noNewline (same ▸ inLine)
  · rfl

theorem splitOn_last {line : Text} (noNewline : 10 ∉ line) : line.splitOn 10 = [line] := by
  rw [List.splitOn_eq_splitOnP]
  apply List.splitOnP_eq_singleton
  intro b inLine
  exact beq_eq_false_iff_ne.mpr fun same => noNewline (same ▸ inLine)

theorem rawLinesOf_append_newline {line : Text} (noNewline : 10 ∉ line) (rest : Text) :
    rawLinesOf (line ++ 10 :: rest) = line :: rawLinesOf rest := by
  unfold rawLinesOf
  rw [splitOn_append_newline noNewline]
  obtain ⟨part, parts, split⟩ : ∃ part parts, rest.splitOn 10 = part :: parts :=
    List.exists_cons_of_ne_nil (by rw [List.splitOn_eq_splitOnP]; exact List.splitOnP_ne_nil _ _)
  simp only [split, List.getLast?_cons_cons, List.dropLast_cons_cons]
  by_cases blank : (part :: parts).getLast? = some [] <;> simp [blank]

theorem rawLinesOf_last {line : Text} (noNewline : 10 ∉ line) :
    rawLinesOf line = if line.length = 0 then [] else [line] := by
  unfold rawLinesOf
  rw [splitOn_last noNewline]
  cases line <;> simp

theorem read_loop_of_tooLong {line : Text} (noNewline : 10 ∉ line) {rest : Text}
    (ends : ∀ b ∈ rest.head?, b = 10) (passed : Text) (size : Nat)
    (long : lineLimit ≤ size + line.length) :
    read.loop passed size (line ++ rest) = ⟨[], true⟩ := by
  have positive : 0 < lineLimit := by decide
  induction line generalizing passed size with
  | nil =>
      rw [List.length_nil] at long
      rw [List.nil_append]
      cases rest with
      | nil => rw [read.loop, if_neg (by omega), if_pos (by omega)]
      | cons b rest =>
          obtain rfl := ends b rfl
          rw [read.loop, if_pos rfl, if_pos (by omega)]
  | cons b line inductionHypothesis =>
      rw [List.mem_cons, not_or] at noNewline
      rw [List.length_cons] at long
      rw [List.cons_append, read.loop, if_neg (Ne.symm noNewline.1)]
      exact inductionHypothesis noNewline.2 _ _ (by omega)

theorem read_eq (t : Text) :
    read t = ⟨((rawLinesOf t).takeWhile fun line => line.length < lineLimit).map dropReturn,
      (rawLinesOf t).any fun line => lineLimit ≤ line.length⟩ := by
  -- each newline leaves a shorter text behind it
  induction length : t.length using Nat.strongRecOn generalizing t with
  | _ size inductionHypothesis =>
      by_cases newline : 10 ∈ t
      · obtain ⟨line, rest, rfl, noNewline⟩ := List.eq_append_cons_of_mem newline
        rw [rawLinesOf_append_newline noNewline]
        by_cases short : line.length < lineLimit
        · have shorter : rest.length < size := by
            rw [← length, List.length_append, List.length_cons]
            omega
          rw [read_append_newline noNewline short, inductionHypothesis _ shorter rest rfl]
          simp [short, Nat.not_le.mpr short]
        · rw [read, read_loop_of_tooLong noNewline (by simp) [] 0 (by omega)]
          simp [short, Nat.not_lt.mp short]
      · rw [rawLinesOf_last newline]
        by_cases short : t.length < lineLimit
        · rw [read, read_loop_last newline [] 0 (by omega)]
          by_cases blank : t.length = 0
          · simp [blank]
          · simp [blank, short, Nat.not_le.mpr short]
        · have nonempty : t.length ≠ 0 := by
            have positive : 0 < lineLimit := by decide
            omega
          have whole := @read_loop_of_tooLong t newline [] (by simp) [] 0 (by omega)
          rw [List.append_nil] at whole
          rw [read, whole]
          simp [nonempty, short, Nat.not_lt.mp short]

theorem lines_read_of_short {t : Text} {first more : List Text}
    (split : rawLinesOf t = first ++ more) (short : ∀ line ∈ first, line.length < lineLimit) :
    (read t).lines =
      first.map dropReturn ++
        (more.takeWhile fun line => line.length < lineLimit).map dropReturn := by
  rw [read_eq, split, List.takeWhile_append_of_pos (by simpa using short), List.map_append]

theorem exists_raw_of_lines {t text : Text} {above below : List Text}
    (split : (read t).lines = above ++ text :: below) :
    ∃ rawAbove rawText rawBelow, rawLinesOf t = rawAbove ++ rawText :: rawBelow ∧
      rawAbove.map dropReturn = above ∧ dropReturn rawText = text ∧
      ∀ line ∈ rawAbove ++ [rawText], line.length < lineLimit := by
  rw [read_eq] at split
  obtain ⟨rawAbove, rest, taken, rfl, others⟩ := List.map_eq_append_iff.mp split
  obtain ⟨rawText, rawBelow, rfl, rfl, _⟩ := List.map_eq_cons_iff.mp others
  have whole : rawLinesOf t = rawAbove ++ rawText :: (rawBelow ++
      (rawLinesOf t).dropWhile fun line => line.length < lineLimit) := by
    rw [← List.cons_append, ← List.append_assoc, ← taken, List.takeWhile_append_dropWhile]
  refine ⟨rawAbove, rawText, _, whole, rfl, rfl, ?_⟩
  intro line listed
  have inside : line ∈ (rawLinesOf t).takeWhile fun line => line.length < lineLimit := by
    rw [taken]
    simp only [List.mem_append, List.mem_cons, List.not_mem_nil, or_false] at listed ⊢
    exact listed.imp_right .inl
  simpa using List.all_eq_true.mp List.all_takeWhile line inside

theorem read_of_short {t : Text} (short : ∀ line ∈ rawLinesOf t, line.length < lineLimit) :
    read t = ⟨linesOf t, false⟩ := by
  have lines : (read t).lines = linesOf t := by
    rw [lines_read_of_short (List.append_nil _).symm short, linesOf]
    simp
  have whole : (read t).tooLong = false := by
    rw [read_eq]
    simpa using short
  rw [← lines, ← whole]

theorem short_of_read {t : Text} (whole : (read t).tooLong = false) :
    ∀ line ∈ rawLinesOf t, line.length < lineLimit := by
  rw [read_eq] at whole
  simpa using whole

theorem read_eq_linesOf {t : Text} (within : ∀ part ∈ t.splitOn 10, part.length < lineLimit) :
    read t = ⟨linesOf t, false⟩ := by
  apply read_of_short
  intro line listed
  apply within
  unfold rawLinesOf at listed
  simp only at listed
  split at listed
  · exact List.dropLast_subset _ listed
  · exact listed

end Tandem.Source

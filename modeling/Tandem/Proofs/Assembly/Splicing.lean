import Mathlib.Data.List.TakeWhile
import Tandem.Proofs.Assembly.Reading
import Tandem.Proofs.Assembly.Source
import Tandem.Proofs.Assembly.Spelling

set_option autoImplicit false

/-!
A jump whose operands are expressions. The expressions are found before the line is split into
words, so they may have parentheses and blanks inside; each one gives way to the decimal digits of
its value, and these read back as that value. Where one has no value the line cannot be read, and
the first such expression is blamed.
-/

namespace Tandem.Assembly

/-! ### Finding an expression -/

theorem splitOpening_loop_append {before : Text} (noDollar : 36 ∉ before) (passed rest : Text) :
    splitOpening.loop passed (before ++ 36 :: 40 :: rest) =
      (passed.reverse ++ before, some rest) := by
  induction before generalizing passed with
  | nil => simp [splitOpening.loop]
  | cons b before inductionHypothesis =>
      rw [List.mem_cons, not_or] at noDollar
      have goesOn : ¬ (b = 36 ∧ (before ++ 36 :: 40 :: rest).head? = some 40) :=
        fun opening => noDollar.1 opening.1.symm
      rw [List.cons_append, splitOpening.loop, if_neg goesOn, inductionHypothesis noDollar.2]
      simp

theorem splitLastParen_append {after : Text} (noClosing : 41 ∉ after) (before : Text) :
    splitLastParen (before ++ 41 :: after) = some (before, after) := by
  have passed : ∀ b ∈ after.reverse, decide (b ≠ 41) = true := by
    intro b listed
    exact decide_eq_true fun closing => noClosing (closing ▸ List.mem_reverse.mp listed)
  have reversed : (before ++ 41 :: after).reverse = after.reverse ++ 41 :: before.reverse := by simp
  rw [splitLastParen, reversed, List.dropWhile_append_of_pos passed,
    List.takeWhile_append_of_pos passed]
  simp

/-- Up to the next `$`, the last parenthesis closes the expression. -/
theorem pieces_loop_append {before expression after others : Text} (size : Nat)
    (noDollarBefore : 36 ∉ before) (noDollar : 36 ∉ expression ++ 41 :: after)
    (noClosing : 41 ∉ after) (stop : ∀ b ∈ others.head?, b = 36) :
    pieces.loop (size + 1) (before ++ 36 :: 40 :: (expression ++ 41 :: after ++ others)) =
      .plain before :: .expression expression :: pieces.loop size (after ++ others) := by
  have inside : ∀ b ∈ expression ++ 41 :: after, decide (b ≠ 36) = true := by
    intro b listed
    exact decide_eq_true fun dollar => noDollar (dollar ▸ listed)
  have outside : others.takeWhile (fun b => decide (b ≠ 36)) = [] := by
    cases others with
    | nil => rfl
    | cons b others => simp [stop b rfl]
  have body : (expression ++ 41 :: after ++ others).takeWhile (fun b => decide (b ≠ 36)) =
      expression ++ 41 :: after := by
    rw [List.takeWhile_append_of_pos inside, outside, List.append_nil]
  rw [pieces.loop, splitOpening, splitOpening_loop_append noDollarBefore]
  simp only [List.reverse_nil, List.nil_append, body, splitLastParen_append noClosing,
    List.drop_left]

/-! ### The line -/

/-- A jump that tests the value of one expression, by the value of another. -/
def jumpLine (test offset : Text) : Text :=
  Text.ofString "jgz $(" ++ test ++ Text.ofString ") $(" ++ offset ++ Text.ofString ")"

/-- The words of the line when the values have taken the places of the expressions. -/
def jumpWords (test offset : Int64) : List Text :=
  [Op.jgz.text, Text.decimal test.toInt, Text.decimal offset.toInt]

theorem jumpLine_eq (test offset : Text) :
    jumpLine test offset = Op.jgz.text ++ [32] ++ 36 :: 40 ::
      (test ++ 41 :: [32] ++ 36 :: 40 :: (offset ++ 41 :: [] ++ [])) := by
  have opening : Text.ofString "jgz $(" = [106, 103, 122, 32, 36, 40] := by decide +kernel
  have between : Text.ofString ") $(" = [41, 32, 36, 40] := by decide +kernel
  have closing : Text.ofString ")" = [41] := by decide +kernel
  have mnemonic : Op.jgz.text = [106, 103, 122] := by decide +kernel
  simp [jumpLine, opening, between, closing, mnemonic]

@[simp]
theorem head?_jumpLine (test offset : Text) : (jumpLine test offset).head? = some 106 := by
  rw [jumpLine_eq]
  rfl

@[simp]
theorem getLast?_jumpLine (test offset : Text) : (jumpLine test offset).getLast? = some 41 := by
  have closing : Text.ofString ")" = [41] := by decide +kernel
  rw [jumpLine, closing, List.getLast?_concat]

theorem mem_jumpLine {test offset : Text} {b : UInt8} (listed : b ∈ jumpLine test offset) :
    b ∈ test ∨ b ∈ offset ∨ b ∈ Op.jgz.text ++ [32, 36, 40, 41] := by
  rw [jumpLine_eq] at listed
  simp only [List.mem_append, List.mem_cons, List.not_mem_nil] at listed ⊢
  grind

theorem expand_jumpLine {test offset : Text} (plainTest : 36 ∉ test) (plainOffset : 36 ∉ offset)
    (evaluate : Text → Except Expr.Failure Int64) :
    expand evaluate (jumpLine test offset) =
      match evaluate test, evaluate offset with
      | .error failure, _ => .error (.expression test failure)
      | .ok _, .error failure => .error (.expression offset failure)
      | .ok v, .ok w => .ok (Text.join [32] (jumpWords v w)) := by
  have found : pieces (jumpLine test offset) =
      [.plain (Op.jgz.text ++ [32]), .expression test, .plain [32], .expression offset,
        .plain []] := by
    obtain ⟨size, large⟩ : ∃ size, (jumpLine test offset).length = size + 2 := by
      refine ⟨(jumpLine test offset).length - 2, ?_⟩
      simp only [jumpLine_eq, List.length_append, List.length_cons]
      omega
    rw [pieces, large, jumpLine_eq,
      pieces_loop_append (size + 2) (by decide) (by simp [plainTest]) (by decide) (by simp),
      pieces_loop_append (size + 1) (by decide) (by simp [plainOffset]) (by simp) (by simp)]
    rfl
  rw [expand, found]
  cases first : evaluate test with
  | error failure => simp [splice, first, Except.map]
  | ok v =>
      cases second : evaluate offset with
      | error failure => simp [splice, first, second, Except.map]
      | ok w => simp [splice, first, second, Except.map, jumpWords, Text.join]

@[simp]
theorem words_jumpWords (test offset : Int64) :
    Text.words (Text.join [32] (jumpWords test offset)) = jumpWords test offset := by
  apply Text.words_join
  intro word listed
  have isWord : IsWord word := by
    simp only [jumpWords, List.mem_cons, List.not_mem_nil, or_false] at listed
    rcases listed with rfl | rfl | rfl
    · exact isWord_mnemonic (by decide)
    · exact isWord_decimal test
    · exact isWord_decimal offset
  exact ⟨isWord.nonempty, isWord.solid⟩

theorem strip_jumpLine {test offset : Text} (plainTest : 59 ∉ test)
    (plainOffset : 59 ∉ offset) :
    Source.strip (jumpLine test offset) = jumpLine test offset := by
  have noComment : ∀ b ∈ jumpLine test offset, decide (b ≠ 59) = true := by
    intro b listed
    refine decide_eq_true ?_
    rintro rfl
    rcases mem_jumpLine listed with inTest | inOffset | inFrame
    · exact plainTest inTest
    · exact plainOffset inOffset
    · exact absurd inFrame (by decide)
  rw [Source.strip, List.takeWhile_eq_self_iff.mpr noComment]
  apply trim_eq_self
  · simp
  · simp

theorem linesOf_jumpLine {test offset : Text} (plainTest : 10 ∉ test)
    (plainOffset : 10 ∉ offset) :
    Source.linesOf (jumpLine test offset) = [jumpLine test offset] := by
  have noNewline : 10 ∉ jumpLine test offset := by
    intro listed
    rcases mem_jumpLine listed with inTest | inOffset | inFrame
    · exact plainTest inTest
    · exact plainOffset inOffset
    · exact absurd inFrame (by decide)
  have nonempty : (jumpLine test offset).length ≠ 0 := by simp [jumpLine_eq]
  have noReturn : (jumpLine test offset).getLast? ≠ some 13 := by simp
  rw [Source.linesOf, Source.rawLinesOf_last noNewline, if_neg nonempty, List.map_singleton,
    Source.dropReturn, if_neg noReturn]

/-! ### Reading the line -/

/-- The line of code that a jump with two numbers gives. -/
def jumpCode (lineNo : Nat) (test offset : Int64) : CodeLine where
  instruction := .jgz (.ofLiteral test) (.ofLiteral offset)
  lineNo := lineNo
  words := jumpWords test offset

namespace Draft

variable {d : Draft}

theorem replace_of_find?_eq_none {word : Text} (absent : d.equates.find? word = none) :
    d.replace word = word := by
  rw [replace, absent, Option.getD_none]

theorem addWords_jumpWords (noMnemonic : d.equates.find? Op.jgz.text = none)
    (noNumber : ∀ n : Int64, d.equates.find? (Text.decimal n.toInt) = none) (lineNo : Nat)
    (test offset : Int64) :
    d.addWords lineNo (jumpWords test offset) =
      ({ d with code := d.code.push (jumpCode lineNo test offset) }, none) := by
  have notEquate : Op.jgz.text ≠ (".equ" : Text) := by decide +kernel
  have notLabel : Op.jgz.text.getLast? ≠ some 58 := by decide +kernel
  have spells : Spells (jumpWords test offset) (.jgz (.literal test) (.literal offset)) :=
    .jgz (by decide) (denotes_decimal test) (denotes_decimal offset)
  have replaced : (jumpWords test offset).map d.replace = jumpWords test offset := by
    simp [jumpWords, replace_of_find?_eq_none, noMnemonic, noNumber]
  have noLabels : d.defineLabels (jumpWords test offset) = (d, .ok (jumpWords test offset)) := by
    rw [jumpWords, defineLabels, if_neg notLabel]
  have read := codeLine_eq_ok_of_spells spells lineNo
  rw [jumpWords, addWords, if_neg notEquate, ← jumpWords, noLabels]
  simp only [replaced]
  rw [jumpWords, addCode, read]
  rfl

end Draft

/-- The values of the two expressions become the operands of the jump, and nothing else
changes. Without a value for both, the first expression that has none is blamed and there is
no new instruction. -/
theorem expressions_are_spliced (evaluator : Evaluator) (d : Draft) (lineNo : Nat)
    (last test offset : Text) (plainTest : 36 ∉ test ∧ 59 ∉ test ∧ 10 ∉ test)
    (plainOffset : 36 ∉ offset ∧ 59 ∉ offset ∧ 10 ∉ offset)
    (noMnemonic : d.equates.find? Op.jgz.text = none)
    (noNumber : ∀ n : Int64, d.equates.find? (Text.decimal n.toInt) = none) :
    d.addLines evaluator lineNo last (Source.linesOf (jumpLine test offset)) =
      let reading := d.numbered (lineNo + 1)
      match evaluator reading.numbers test, evaluator reading.numbers offset with
      | .ok v, .ok w =>
          ({ reading with code := d.code.push (jumpCode (lineNo + 1) v w) }, lineNo + 1,
            jumpLine test offset, none)
      | .ok _, .error failure =>
          (reading, lineNo + 1, jumpLine test offset, some (.expression offset failure))
      | .error failure, _ =>
          (reading, lineNo + 1, jumpLine test offset, some (.expression test failure)) := by
  have stillNoMnemonic : (d.numbered (lineNo + 1)).equates.find? Op.jgz.text = none := by
    rw [d.find?_numbered (by decide +kernel), noMnemonic]
  have stillNoNumber : ∀ n : Int64,
      (d.numbered (lineNo + 1)).equates.find? (Text.decimal n.toInt) = none := by
    intro n
    rw [d.find?_numbered (isWord_decimal n).noEquate, noNumber]
  rw [linesOf_jumpLine plainTest.2.2 plainOffset.2.2, Draft.addLines,
    strip_jumpLine plainTest.2.1 plainOffset.2.1, Draft.addLine_eq,
    expand_jumpLine plainTest.1 plainOffset.1]
  cases first : evaluator (d.numbered (lineNo + 1)).numbers test with
  | error failure => simp only [first]
  | ok v =>
      cases second : evaluator (d.numbered (lineNo + 1)).numbers offset with
      | error failure => simp only [first, second]
      | ok w =>
          simp only [first, second, words_jumpWords,
            Draft.addWords_jumpWords stillNoMnemonic stillNoNumber]
          rfl

/-- Gives the least number for a text that starts with a parenthesis, and else looks up a name. -/
def leastOrNamed : Evaluator := fun numbers t =>
  if t.head? = some 40 then .ok Int64.minValue
  else match numbers.find? t with
    | some n => .ok n
    | none => .error .unbound

/-- The outcome of reading a line as the seventh. -/
def seventhLine (line : Text) : Draft × Nat × Text × Option Cause :=
  (Draft.start []).addLines leastOrNamed 6 [] (Source.linesOf line)

theorem expressions_are_spliced_least :
    (seventhLine "jgz $((1) + (x ) )) $(LINENO)").1.code =
      #[{ instruction := .jgz (.ofLiteral (-9223372036854775808)) (.ofLiteral 7), lineNo := 7,
          words := ["jgz", "-9223372036854775808", "7"] }] ∧
    (seventhLine "jgz $((1) + (x ) )) $(LINENO)").2 =
      (7, ("jgz $((1) + (x ) )) $(LINENO)" : Text), none) ∧
    (seventhLine "jgz $(x (y) ) $(z)").1.code = #[] ∧
    (seventhLine "jgz $(x (y) ) $(z)").2 =
      (7, ("jgz $(x (y) ) $(z)" : Text), some (Cause.expression "x (y) " .unbound)) := by
  have noMnemonic : (Draft.start []).equates.find? Op.jgz.text = none := by decide +kernel
  have noNumber : ∀ n : Int64, (Draft.start []).equates.find? (Text.decimal n.toInt) = none := by
    intro n
    exact (Table.find?_cons _ _ _ _).trans (if_neg (isWord_decimal n).noEquate)
  have least : seventhLine "jgz $((1) + (x ) )) $(LINENO)" = _ :=
    expressions_are_spliced leastOrNamed (Draft.start []) 6 [] "(1) + (x ) )" "LINENO"
      (by decide +kernel) (by decide +kernel) noMnemonic noNumber
  have unbound : seventhLine "jgz $(x (y) ) $(z)" = _ :=
    expressions_are_spliced leastOrNamed (Draft.start []) 6 [] "x (y) " "z" (by decide +kernel)
      (by decide +kernel) noMnemonic noNumber
  rw [least, unbound]
  decide +kernel

end Tandem.Assembly

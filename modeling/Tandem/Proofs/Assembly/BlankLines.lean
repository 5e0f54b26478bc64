import Tandem.Proofs.Assembly.Reading
import Tandem.Proofs.Assembly.Source

set_option autoImplicit false

/-!
Lines that hold nothing but blanks and a comment. One more of them changes only the numbers of the
lines below it: if no line of a source asks for its number, the program and the errors stay what
they were, and the line numbers in them move along. The drafts of the two sources, read side by
side, keep the same labels, the same code up to its line numbers, and the same equates but for the
one that holds the number of the line.
-/

namespace Tandem

/-! ### Parts of a text -/

namespace Text

theorem isInfix_of_mem_words_loop {word t w : Text} (listed : w ∈ words.loop word t) :
    w <:+: word.reverse ++ t := by
  have behind (word : Text) (b : UInt8) (rest : Text) (n : Nat) :
      [].reverse ++ rest.drop n <:+: word.reverse ++ b :: rest :=
    ((List.drop_suffix n rest).trans
      ((List.suffix_cons b rest).trans (List.suffix_append _ _))).isInfix
  fun_induction words.loop word t with
  | case1 => contradiction
  | case2 word nonempty =>
      obtain rfl := List.mem_singleton.mp listed
      exact (List.prefix_append _ _).isInfix
  | case3 word b rest _ inductionHypothesis =>
      have found := inductionHypothesis listed
      rwa [List.reverse_cons, List.append_assoc] at found
  | case4 word b rest n _ _ inductionHypothesis =>
      exact (inductionHypothesis listed).trans (behind word b rest n)
  | case5 word b rest n _ _ inductionHypothesis =>
      rcases List.mem_cons.mp listed with rfl | later
      · exact (List.prefix_append _ _).isInfix
      · exact (inductionHypothesis later).trans (behind word b rest n)

theorem isInfix_of_mem_words {t w : Text} (listed : w ∈ words t) : w <:+: t :=
  isInfix_of_mem_words_loop listed

end Text

namespace Source

theorem strip_isInfix (line : Text) : strip line <:+: line := by
  obtain ⟨before, after, _, _, split⟩ := Text.exists_trim (line.takeWhile (· ≠ 59))
  have trimmed : strip line <:+: line.takeWhile (· ≠ 59) := ⟨before, after, split.symm⟩
  exact trimmed.trans (List.takeWhile_prefix _).isInfix

theorem dropReturn_isPrefix (line : Text) : dropReturn line <+: line := by
  unfold dropReturn
  split
  · exact List.dropLast_prefix line
  · exact List.prefix_rfl

theorem isInfix_of_mem_rawLinesOf {t line : Text} (listed : line ∈ rawLinesOf t) :
    line <:+: t := by
  -- each newline leaves a shorter text behind it
  induction length : t.length using Nat.strongRecOn generalizing t with
  | _ size inductionHypothesis =>
      by_cases newline : 10 ∈ t
      · obtain ⟨first, rest, rfl, noNewline⟩ := List.eq_append_cons_of_mem newline
        rw [rawLinesOf_append_newline noNewline] at listed
        rcases List.mem_cons.mp listed with rfl | later
        · exact (List.prefix_append _ _).isInfix
        · have shorter : rest.length < size := by
            rw [← length, List.length_append, List.length_cons]
            omega
          have inRest := inductionHypothesis rest.length shorter later rfl
          exact inRest.trans ((List.suffix_cons 10 rest).trans (List.suffix_append _ _)).isInfix
      · rw [rawLinesOf_last newline] at listed
        split at listed
        · contradiction
        · obtain rfl := List.mem_singleton.mp listed
          exact List.infix_rfl

end Source

/-! ### Line numbers -/

/-- The number of a line when one more has been inserted below line `n`. -/
def movedNumber (n lineNo : Nat) : Nat := if n < lineNo then lineNo + 1 else lineNo

def CodeLine.moved (n : Nat) (line : CodeLine) : CodeLine :=
  { line with lineNo := movedNumber n line.lineNo }

def Program.moved (n : Nat) (p : Program) : Program := ⟨p.code.map (CodeLine.moved n)⟩

namespace Assembly

def SyntaxError.moved (n : Nat) (e : SyntaxError) : SyntaxError :=
  { e with lineNo := movedNumber n e.lineNo }

/-- The program or the error that has its line numbers moved. -/
def movedResult (n : Nat) : Except SyntaxError Program → Except SyntaxError Program
  | .ok p => .ok (p.moved n)
  | .error e => .error (e.moved n)

/-- The text neither has an expression nor names the number of a line. -/
structure IsNumberFree (t : Text) : Prop where
  noExpression : ¬ ("$(" : Text) <:+: t
  noName : ¬ lineNumberName <:+: t

theorem IsNumberFree.of_isInfix {t part : Text} (free : IsNumberFree t) (inside : part <:+: t) :
    IsNumberFree part :=
  ⟨fun found => free.noExpression (found.trans inside),
    fun found => free.noName (found.trans inside)⟩

theorem IsNumberFree.expand_eq {t : Text} (free : IsNumberFree t)
    (evaluate : Text → Except Expr.Failure Int64) :
    expand evaluate t = .ok t := by
  have opening : ("$(" : Text) = [36, 40] := by decide +kernel
  refine expand_eq_ok_iff.mpr (.plain fun before body after occurs => free.noExpression ?_)
  refine ⟨before, body ++ 41 :: after, ?_⟩
  rw [opening, occurs.1]
  simp

@[simp]
theorem codeLine_movedNumber (n lineNo : Nat) (mnemonic : Text) (operands : List Text) :
    codeLine (movedNumber n lineNo) mnemonic operands =
      (codeLine lineNo mnemonic operands).map (CodeLine.moved n) := by
  unfold codeLine
  split
  · rfl
  next op _ =>
    split
    · rfl
    · split
      · rfl
      · cases decode op operands <;> rfl

namespace Draft

/-! ### Drafts that differ in line numbers -/

structure Moved (n : Nat) (d e : Draft) : Prop where
  labels : e.labels = d.labels
  equates : ∀ {name}, name ≠ lineNumberName → e.equates.find? name = d.equates.find? name
  code : e.code = d.code.map (CodeLine.moved n)

/-- Two results with drafts that differ in line numbers only. -/
structure Agree {α : Type} (n : Nat) (r s : Draft × α) : Prop where
  moved : Moved n r.1 s.1
  same : s.2 = r.2

namespace Moved

variable {n : Nat} {d e : Draft}

theorem insert (moved : Moved n d e) (name word : Text) :
    Moved n { d with equates := d.equates.insert name word }
      { e with equates := e.equates.insert name word } where
  labels := moved.labels
  equates := by
    intro found other
    rw [Table.find?_insert, Table.find?_insert, moved.equates other]
  code := moved.code

theorem numbered_right (moved : Moved n d e) (lineNo : Nat) : Moved n d (e.numbered lineNo) where
  labels := moved.labels
  equates := by
    intro name other
    rw [e.find?_numbered other, moved.equates other]
  code := moved.code

theorem numbered (moved : Moved n d e) (lineNo other : Nat) :
    Moved n (d.numbered lineNo) (e.numbered other) where
  labels := moved.labels
  equates := by
    intro name notNumber
    rw [d.find?_numbered notNumber, (moved.numbered_right other).equates notNumber]
  code := moved.code

theorem replace_eq (moved : Moved n d e) {word : Text} (other : word ≠ lineNumberName) :
    e.replace word = d.replace word := by
  rw [replace, replace, moved.equates other]

theorem defineEquate (moved : Moved n d e) {words : List Text} (other : lineNumberName ∉ words) :
    (∃ cause, d.defineEquate words = .error cause ∧ e.defineEquate words = .error cause) ∨
      ∃ next after, d.defineEquate words = .ok next ∧ e.defineEquate words = .ok after ∧
        Moved n next after := by
  match words with
  | [name, word] =>
      have notNumber : name ≠ lineNumberName := fun same => other (by simp [same])
      have defined : e.equates.contains name = d.equates.contains name := by
        rw [Table.contains, Table.contains, moved.equates notNumber]
      unfold Draft.defineEquate
      simp only [defined]
      split
      · exact .inl ⟨_, rfl, rfl⟩
      · split
        · exact .inl ⟨_, rfl, rfl⟩
        · exact .inr ⟨_, _, rfl, rfl, moved.insert name word⟩
  | [] | [_] | _ :: _ :: _ :: _ => exact .inl ⟨_, rfl, rfl⟩

theorem defineLabels (moved : Moved n d e) (words : List Text) :
    Agree n (d.defineLabels words) (e.defineLabels words) := by
  induction words generalizing d e with
  | nil => exact ⟨moved, rfl⟩
  | cons word rest inductionHypothesis =>
      have size : e.code.size = d.code.size := by rw [moved.code, Array.size_map]
      rw [Draft.defineLabels, Draft.defineLabels]
      simp only [moved.labels, size]
      split
      · split
        · exact ⟨moved, rfl⟩
        · split
          · exact ⟨moved, rfl⟩
          · exact inductionHypothesis ⟨rfl, moved.equates, moved.code⟩
      · exact ⟨moved, rfl⟩

theorem addCode (moved : Moved n d e) (lineNo : Nat) (words : List Text) :
    Agree n (d.addCode lineNo words) (e.addCode (movedNumber n lineNo) words) := by
  cases words with
  | nil => exact ⟨moved, rfl⟩
  | cons mnemonic operands =>
      rw [Draft.addCode, Draft.addCode, codeLine_movedNumber]
      cases codeLine lineNo mnemonic operands with
      | error cause => exact ⟨moved, rfl⟩
      | ok line =>
          have pushed : e.code.push (line.moved n) = (d.code.push line).map (CodeLine.moved n) := by
            rw [moved.code, Array.map_push]
          exact ⟨⟨moved.labels, moved.equates, pushed⟩, rfl⟩

theorem addWords (moved : Moved n d e) (lineNo : Nat) {words : List Text}
    (other : lineNumberName ∉ words) :
    Agree n (d.addWords lineNo words) (e.addWords (movedNumber n lineNo) words) := by
  cases words with
  | nil => exact ⟨moved, rfl⟩
  | cons first rest =>
      rw [Draft.addWords, Draft.addWords]
      split
      · have notAmong : lineNumberName ∉ rest := fun listed => other (.tail _ listed)
        rcases moved.defineEquate notAmong with
          ⟨cause, failed, failsToo⟩ | ⟨next, after, defined, definedToo, kept⟩
        · rw [failed, failsToo]
          exact ⟨moved, rfl⟩
        · rw [defined, definedToo]
          exact ⟨kept, rfl⟩
      · obtain ⟨kept, same⟩ := moved.defineLabels (first :: rest)
        rcases found : d.defineLabels (first :: rest) with ⟨marked, result⟩
        rcases foundToo : e.defineLabels (first :: rest) with ⟨markedToo, resultToo⟩
        rw [found, foundToo] at kept same
        obtain rfl : resultToo = result := same
        cases resultToo with
        | error cause => exact ⟨kept, rfl⟩
        | ok words =>
            obtain ⟨labels, written, _⟩ := defineLabels_eq_ok_iff.mp found
            have replaced : words.map markedToo.replace = words.map marked.replace := by
              apply List.map_congr_left
              intro word listed
              apply kept.replace_eq
              rintro rfl
              exact other (written ▸ List.mem_append_right _ listed)
            simp only [replaced]
            exact kept.addCode lineNo _

theorem addLine (moved : Moved n d e) (evaluator : Evaluator) (lineNo : Nat) {line : Text}
    (free : IsNumberFree line) :
    Agree n (d.addLine evaluator lineNo line)
      (e.addLine evaluator (movedNumber n lineNo) line) := by
  rw [addLine_eq, addLine_eq, free.expand_eq, free.expand_eq]
  apply (moved.numbered lineNo (movedNumber n lineNo)).addWords
  intro listed
  exact free.noName (Text.isInfix_of_mem_words listed)

end Moved

/-! ### Reading two sources side by side -/

/-- Two results of reading lines: if reading stops, then for one cause and at one line. -/
structure ReadsAlike (n : Nat) (r s : Draft × Nat × Text × Option Cause) : Prop where
  moved : Moved n r.1 s.1
  cause : s.2.2.2 = r.2.2.2
  place : r.2.2.2 ≠ none → s.2.1 = movedNumber n r.2.1 ∧ s.2.2.1 = r.2.2.1

section

variable {evaluator : Evaluator} {n : Nat} {d e : Draft}

/-- A line that both sources have. -/
theorem readsAlike_cons (moved : Moved n d e) {text : Text}
    (free : IsNumberFree (Source.strip text)) {texts longer : List Text} {lineNo other : Nat}
    (number : other + 1 = movedNumber n (lineNo + 1))
    (rest : ∀ {next after : Draft}, Moved n next after →
      ReadsAlike n (next.addLines evaluator (lineNo + 1) (Source.strip text) texts)
        (after.addLines evaluator (other + 1) (Source.strip text) longer)) (last lastToo : Text) :
    ReadsAlike n (d.addLines evaluator lineNo last (text :: texts))
      (e.addLines evaluator other lastToo (text :: longer)) := by
  have agree := moved.addLine evaluator (lineNo + 1) free
  rw [← number] at agree
  obtain ⟨kept, same⟩ := agree
  rw [addLines, addLines]
  rcases found : d.addLine evaluator (lineNo + 1) (Source.strip text) with ⟨next, result⟩
  rcases foundToo : e.addLine evaluator (other + 1) (Source.strip text) with ⟨after, resultToo⟩
  rw [found, foundToo] at kept same
  obtain rfl : resultToo = result := same
  cases resultToo with
  | none => exact rest kept
  | some cause => exact ⟨kept, rfl, fun _ => ⟨number, rfl⟩⟩

/-- Below the inserted line, the numbers are one apart. -/
theorem readsAlike_below (moved : Moved n d e) {texts : List Text}
    (free : ∀ text ∈ texts, IsNumberFree (Source.strip text)) {lineNo : Nat}
    (below : n ≤ lineNo) (last lastToo : Text) :
    ReadsAlike n (d.addLines evaluator lineNo last texts)
      (e.addLines evaluator (lineNo + 1) lastToo texts) := by
  induction texts generalizing d e lineNo last lastToo with
  | nil => exact ⟨moved, rfl, fun failed => absurd rfl failed⟩
  | cons text texts inductionHypothesis =>
      rw [List.forall_mem_cons] at free
      have number : lineNo + 1 + 1 = movedNumber n (lineNo + 1) := by
        rw [movedNumber, if_pos (by omega)]
      exact readsAlike_cons moved free.1 number
        (fun kept => inductionHypothesis kept free.2 (by omega) _ _) last lastToo

theorem isNumberFree_nil : IsNumberFree [] := by
  constructor <;>
  · rw [List.infix_nil]
    decide +kernel

/-- A blank line only sets the number of the line. -/
@[simp]
theorem addLine_nil (d : Draft) (lineNo : Nat) :
    d.addLine evaluator lineNo [] = (d.numbered lineNo, none) := by
  rw [addLine_eq, isNumberFree_nil.expand_eq]
  simp [Text.words, Text.words.loop, addWords]

/-- Up to the blank line the numbers are the same. -/
theorem readsAlike_insert (evaluator : Evaluator) {above below : List Text} {blank : Text}
    {lineNo : Nat} (moved : Moved (lineNo + above.length) d e)
    (free : ∀ text ∈ above ++ below, IsNumberFree (Source.strip text))
    (isBlank : Source.strip blank = []) (last lastToo : Text) :
    ReadsAlike (lineNo + above.length) (d.addLines evaluator lineNo last (above ++ below))
      (e.addLines evaluator lineNo lastToo (above ++ blank :: below)) := by
  induction above generalizing d e lineNo last lastToo with
  | nil =>
      rw [List.nil_append] at free
      rw [List.nil_append, List.nil_append, addLines.eq_2, isBlank, addLine_nil]
      exact readsAlike_below (moved.numbered_right _) free (Nat.le_refl lineNo) last []
  | cons text above inductionHypothesis =>
      have regrouped : lineNo + (text :: above).length = lineNo + 1 + above.length := by
        rw [List.length_cons]
        omega
      rw [List.cons_append, List.forall_mem_cons] at free
      rw [regrouped] at moved ⊢
      have number : lineNo + 1 = movedNumber (lineNo + 1 + above.length) (lineNo + 1) := by
        rw [movedNumber, if_neg (by omega)]
      exact readsAlike_cons moved free.1 number (fun kept => inductionHypothesis kept free.2 _ _)
        last lastToo

end

/-! ### Linking -/

section

variable {n : Nat} {d e : Draft}

theorem linkLine_moved (same : e.labels = d.labels) (i : Nat) (line : CodeLine) :
    e.linkLine i (line.moved n) = ((d.linkLine i line).1.moved n, (d.linkLine i line).2) := by
  have distance : ∀ label, e.distance i label = d.distance i label := by
    intro label
    rw [Draft.distance, Draft.distance, same]
  obtain ⟨instruction, lineNo, words, linkA, linkB⟩ := line
  unfold linkLine CodeLine.moved
  simp only [distance]
  cases linkA with
  | none =>
      cases linkB with
      | none => rfl
      | some second => cases found : d.distance i second <;> simp [found]
  | some first =>
      cases foundFirst : d.distance i first with
      | error cause => simp [foundFirst]
      | ok a =>
          cases linkB with
          | none => simp [foundFirst]
          | some second => cases found : d.distance i second <;> simp [foundFirst, found]

theorem linkLines_moved (same : e.labels = d.labels) (i : Nat) (code : List CodeLine) :
    e.linkLines i (code.map (CodeLine.moved n)) =
      ((d.linkLines i code).1.map (CodeLine.moved n),
        (d.linkLines i code).2.map (SyntaxError.moved n)) := by
  induction code generalizing i with
  | nil => rfl
  | cons line rest inductionHypothesis =>
      rw [List.map_cons, linkLines, linkLines, linkLine_moved same]
      rcases d.linkLine i line with ⟨linked, _ | cause⟩
      · simp only [inductionHypothesis (i + 1), List.map_cons]
      · rfl

theorem Moved.program_link (moved : Moved n d e) :
    e.link.program = movedResult n d.link.program := by
  have code : e.code.toList = d.code.toList.map (CodeLine.moved n) := by
    rw [moved.code, Array.toList_map]
  unfold link Outcome.program
  rw [code, linkLines_moved moved.labels]
  rcases d.linkLines 0 d.code.toList with ⟨lines, _ | error⟩
  · simp [movedResult, Draft.program, Program.moved]
  · rfl

end

/-- What assembling gives once the lines have been read. -/
def result : Draft × Nat × Text × Option Cause → Except SyntaxError Program
  | (_, lineNo, line, some cause) => .error ⟨lineNo, line, cause⟩
  | (d, _, _, none) => d.link.program

theorem ReadsAlike.result_eq {n : Nat} {r s : Draft × Nat × Text × Option Cause}
    (alike : ReadsAlike n r s) :
    result s = movedResult n (result r) := by
  obtain ⟨d, lineNo, line, cause⟩ := r
  obtain ⟨e, other, otherLine, otherCause⟩ := s
  obtain ⟨moved, same, place⟩ := alike
  obtain rfl : otherCause = cause := same
  cases otherCause with
  | none => exact moved.program_link
  | some cause =>
      obtain ⟨number, sameLine⟩ := place (by simp)
      obtain rfl : other = movedNumber n lineNo := number
      obtain rfl : otherLine = line := sameLine
      rfl

end Draft

/-! ### The whole source -/

theorem isNumberFree_of_mem_linesOf {source : Text} (free : IsNumberFree source) :
    ∀ line ∈ Source.linesOf source, IsNumberFree (Source.strip line) := by
  intro line listed
  rw [Source.linesOf] at listed
  obtain ⟨raw, inSource, rfl⟩ := List.mem_map.mp listed
  have stripped := Source.strip_isInfix (Source.dropReturn raw)
  have kept := (Source.dropReturn_isPrefix raw).isInfix
  exact free.of_isInfix (stripped.trans (kept.trans (Source.isInfix_of_mem_rawLinesOf inSource)))

theorem program_of_short {source : Text}
    (short : ∀ line ∈ Source.rawLinesOf source, line.length < Source.lineLimit)
    (evaluator : Evaluator) (predefined : List (Text × Text)) :
    (assemble evaluator predefined source).program =
      Draft.result ((Draft.start predefined).addLines evaluator 0 [] (Source.linesOf source)) := by
  simp only [assemble, Source.read_of_short short]
  rcases (Draft.start predefined).addLines evaluator 0 [] (Source.linesOf source) with
    ⟨d, lineNo, line, _ | cause⟩
  · rfl
  · rfl

/-- One more line with nothing but blanks and a comment moves the line numbers below it, and
changes nothing else: the program has the same instructions, words and labels, and an error the
same cause and the same line. -/
theorem blank_lines_are_inert (evaluator : Evaluator) (predefined : List (Text × Text))
    (source longer blank : Text) (above below : List Text) (free : IsNumberFree source)
    (short : ∀ line ∈ Source.rawLinesOf source ++ Source.rawLinesOf longer,
      line.length < Source.lineLimit)
    (lines : Source.linesOf source = above ++ below)
    (inserted : Source.linesOf longer = above ++ blank :: below)
    (isBlank : Source.strip blank = []) :
    (assemble evaluator predefined longer).program =
      movedResult above.length (assemble evaluator predefined source).program := by
  rw [List.forall_mem_append] at short
  have start : Draft.Moved (0 + above.length) (Draft.start predefined) (Draft.start predefined) :=
    ⟨rfl, fun _ => rfl, Array.map_empty.symm⟩
  have freeLines := isNumberFree_of_mem_linesOf free
  rw [lines] at freeLines
  have alike := Draft.readsAlike_insert evaluator start freeLines isBlank [] []
  rw [Nat.zero_add] at alike
  rw [program_of_short short.1, program_of_short short.2, lines, inserted]
  exact alike.result_eq

def noValue : Evaluator := fun _ _ => .error .unbound

/-- Jumps in both directions over the place of a remark. -/
def crossing : Text := "top: set a 5\njgz a @end\njgz 1 @top\nend:"

def remarked : Text := "top: set a 5\njgz a @end\n \t; $(LINENO) is 3\r\njgz 1 @top\nend:"

theorem blank_lines_are_inert_crossing :
    (assemble noValue [] remarked).program.toOption = some
      ⟨#[{ instruction := .set ⟨97⟩ (.ofLiteral 5), lineNo := 1, words := ["set", "a", "5"] },
         { instruction := .jgz (.ofRegister ⟨97⟩) (.ofLiteral 2), lineNo := 2,
           words := ["jgz", "a", "@end"], linkB := some "end" },
         { instruction := .jgz (.ofLiteral 1) (.ofLiteral (-2)), lineNo := 4,
           words := ["jgz", "1", "@top"], linkB := some "top" }]⟩ ∧
    (assemble noValue [] "\nsnd 1\nsnd @x").program =
      .error ⟨3, "snd @x", .labelMissing "x"⟩ := by
  have linked : (assemble noValue [] remarked).program = _ :=
    blank_lines_are_inert noValue [] crossing remarked " \t; $(LINENO) is 3"
      ["top: set a 5", "jgz a @end"] ["jgz 1 @top", "end:"]
      ⟨by decide +kernel, by decide +kernel⟩ (by decide +kernel) (by decide +kernel)
      (by decide +kernel) (by decide +kernel)
  have failing : (assemble noValue [] "\nsnd 1\nsnd @x").program = _ :=
    blank_lines_are_inert noValue [] "snd 1\nsnd @x" _ [] [] ["snd 1", "snd @x"]
      ⟨by decide +kernel, by decide +kernel⟩ (by decide +kernel) (by decide +kernel)
        (by decide +kernel)
      (by decide +kernel)
  have missing : (assemble noValue [] "snd 1\nsnd @x").error =
      some ⟨2, "snd @x", .labelMissing "x"⟩ := by
    decide +kernel
  rw [linked, failing]
  constructor
  · decide +kernel
  · rw [Outcome.program, missing]
    rfl

end Assembly

end Tandem

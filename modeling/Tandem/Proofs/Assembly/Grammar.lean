import Tandem.Assembly.Word

set_option autoImplicit false

/-!
The grammar of instructions. `Denotes` and `Spells` say which words an operand and a statement may
be written with. A statement does not know how far its labels are: its instruction is given by a
function from labels to distances. `codeLine` accepts exactly the words of a statement, and gives
its instruction with all distances left at zero.
-/

namespace Tandem.Assembly

/-- An operand as it is written. -/
inductive Argument where
  | literal (n : Int64)
  | register (r : RegisterName)
  | label (name : Text)

/-- The operations that change a register by a value. -/
inductive Update where
  | set
  | add
  | mul
  | mod

inductive Statement where
  | snd (value : Argument)
  | rcv (r : RegisterName)
  | update (u : Update) (r : RegisterName) (value : Argument)
  | jgz (test offset : Argument)

def Update.op : Update → Op
  | .set => .set
  | .add => .add
  | .mul => .mul
  | .mod => .mod

namespace Argument

def operand (distance : Text → Int64) : Argument → Operand
  | .literal n => .ofLiteral n
  | .register r => .ofRegister r
  | .label name => .ofLiteral (distance name)

def label? : Argument → Option Text
  | .label name => some name
  | _ => none

end Argument

namespace Statement

def instruction (distance : Text → Int64) : Statement → Instruction
  | .snd value => .snd (value.operand distance)
  | .rcv r => .rcv r
  | .update u r value => { op := u.op, register := r, a := value.operand distance }
  | .jgz test offset => .jgz (test.operand distance) (offset.operand distance)

/-- The arguments that may be labels, in the order of the operand fields that they fill. -/
def arguments : Statement → List Argument
  | .snd value => [value]
  | .rcv _ => []
  | .update _ _ value => [value]
  | .jgz test offset => [test, offset]

/-- The labels that a statement uses. -/
def labels (s : Statement) : List Text := s.arguments.filterMap Argument.label?

end Statement

def assignedOps : List Op := [.snd, .rcv, .set, .add, .mul, .mod, .jgz]

/-- A register is one byte, neither a digit nor `@`. -/
def NamesRegister (word : Text) (r : RegisterName) : Prop :=
  word = [r.byte] ∧ Text.isDigit r.byte = false ∧ r.byte ≠ 64

inductive Denotes : Text → Argument → Prop where
  | literal {word : Text} {n : Int64} :
      Numeral.startsNumber word = true → Numeral.value? word = some n →
        Denotes word (.literal n)
  | register {word : Text} {r : RegisterName} : NamesRegister word r → Denotes word (.register r)
  | label {name : Text} : isLabel name = true → Denotes (64 :: name) (.label name)

/-- A mnemonic in any letter case, and exactly the operands that its operation takes. -/
inductive Spells : List Text → Statement → Prop where
  | snd {m x : Text} {value : Argument} :
      Text.lower m = Op.snd.text → Denotes x value → Spells [m, x] (.snd value)
  | rcv {m x : Text} {r : RegisterName} :
      Text.lower m = Op.rcv.text → NamesRegister x r → Spells [m, x] (.rcv r)
  | update {m x y : Text} {u : Update} {r : RegisterName} {value : Argument} :
      Text.lower m = u.op.text → NamesRegister x r → Denotes y value →
        Spells [m, x, y] (.update u r value)
  | jgz {m x y : Text} {test offset : Argument} :
      Text.lower m = Op.jgz.text → Denotes x test → Denotes y offset →
        Spells [m, x, y] (.jgz test offset)

/-- A statement with the words it was written with, after the replacement of equates. -/
structure Entry where
  words : List Text
  statement : Statement

/-- The code line of an entry, given the distances to its labels. -/
def Entry.codeLine (e : Entry) (lineNo : Nat) (distance : Text → Int64) : CodeLine where
  instruction := e.statement.instruction distance
  lineNo := lineNo
  words := e.words
  linkA := e.statement.arguments[0]?.bind Argument.label?
  linkB := e.statement.arguments[1]?.bind Argument.label?

/-- The distances before linking. -/
def unlinked (_ : Text) : Int64 := 0

/-! ### Words -/

@[simp]
theorem startsNumber_singleton (b : UInt8) : Numeral.startsNumber [b] = Text.isDigit b := by
  by_cases sign : Numeral.isSign b = true
  · have notDigit : Text.isDigit b = false := by
      simp only [Numeral.isSign, Bool.or_eq_true, decide_eq_true_eq] at sign
      rcases sign with rfl | rfl <;> rfl
    simp [Numeral.startsNumber, Numeral.splitSign, sign, notDigit]
  · simp [Numeral.startsNumber, Numeral.splitSign, sign]

@[simp]
theorem registerOf_eq_ok_iff {word : Text} {r : RegisterName} :
    registerOf word = .ok r ↔ NamesRegister word r := by
  unfold registerOf NamesRegister
  split
  next b =>
    rw [startsNumber_singleton]
    split
    next refused =>
      simp only [reduceCtorEq, List.cons.injEq, and_true, false_iff]
      rintro ⟨rfl, notDigit, notLabel⟩
      simp [notDigit, notLabel] at refused
    next admitted =>
      simp only [Bool.or_eq_true, decide_eq_true_eq, not_or, Bool.not_eq_true] at admitted
      constructor
      · intro found
        cases found
        exact ⟨rfl, admitted⟩
      · rintro ⟨same, _⟩
        cases same
        rfl
  next notSingle =>
    simp only [reduceCtorEq, false_iff]
    rintro ⟨rfl, _⟩
    exact notSingle _ rfl

theorem operandOf_eq_ok_of_denotes {word : Text} {value : Argument} (denotes : Denotes word value) :
    operandOf word = .ok (value.operand unlinked, value.label?) := by
  cases denotes with
  | literal numeric valued =>
      unfold operandOf
      split
      next => simp [Numeral.startsNumber, Numeral.splitSign, Numeral.isSign, Numeral.minusSign,
        Numeral.plusSign, Text.isDigit] at numeric
      next =>
        rw [if_pos numeric, valued]
        rfl
  | register named =>
      obtain ⟨rfl, notDigit, notLabel⟩ := named
      unfold operandOf
      split
      next same => exact absurd (List.cons.inj same).1 notLabel
      next =>
        rw [if_neg (by rw [startsNumber_singleton, notDigit]; decide)]
        rfl
  | label legal => exact if_pos legal

theorem operandOf_eq_ok_iff {word : Text} {operand : Operand} {link : Option Text} :
    operandOf word = .ok (operand, link) ↔
      ∃ value, Denotes word value ∧ operand = value.operand unlinked ∧
        link = value.label? := by
  constructor
  · intro found
    have denotes : ∃ value, Denotes word value := by
      unfold operandOf at found
      split at found
      next name =>
        split at found
        next legal => exact ⟨_, .label legal⟩
        next => contradiction
      next notLabel =>
        split at found
        next numeric =>
          split at found
          next n valued => exact ⟨_, .literal numeric valued⟩
          next => contradiction
        next notNumeric =>
          split at found
          next b =>
            rw [startsNumber_singleton, Bool.not_eq_true] at notNumeric
            have notAt : b ≠ 64 := by
              rintro rfl
              exact notLabel [] rfl
            exact ⟨.register ⟨b⟩, .register ⟨rfl, notNumeric, notAt⟩⟩
          next => contradiction
    obtain ⟨value, denotes⟩ := denotes
    rw [operandOf_eq_ok_of_denotes denotes] at found
    cases found
    exact ⟨value, denotes, rfl, rfl⟩
  · rintro ⟨value, denotes, rfl, rfl⟩
    exact operandOf_eq_ok_of_denotes denotes

@[simp]
theorem mnemonic?_eq_some_iff {word : Text} {op : Op} :
    mnemonic? word = some op ↔
      Text.lower word = op.text ∧ op ∈ assignedOps := by
  unfold mnemonic? assignedOps
  constructor
  · intro found
    have same := List.find?_some found
    exact ⟨(of_decide_eq_true same).symm, List.mem_of_find?_eq_some found⟩
  · rintro ⟨spelled, assigned⟩
    simp only [spelled]
    clear spelled
    revert assigned op
    decide

/-- The parts of a code line are read one after the other, and all of them have to be right. -/
theorem codeLine_eq_ok_iff_decode {lineNo : Nat} {mnemonic : Text} {operands : List Text}
    {line : CodeLine} :
    codeLine lineNo mnemonic operands = .ok line ↔
      ∃ op instruction linkA linkB, mnemonic? mnemonic = some op ∧
        operands.length = arity op ∧ decode op operands = .ok (instruction, linkA, linkB) ∧
        line = { instruction, lineNo, words := mnemonic :: operands, linkA, linkB } := by
  unfold codeLine
  cases found : mnemonic? mnemonic with
  | none => simp
  | some op =>
      simp only [Option.some.injEq]
      split
      next few =>
        simp only [reduceCtorEq, false_iff]
        rintro ⟨_, _, _, _, rfl, exactly, _⟩
        omega
      next enough =>
        split
        next many =>
          simp only [reduceCtorEq, false_iff]
          rintro ⟨_, _, _, _, rfl, exactly, _⟩
          omega
        next =>
          have exactly : operands.length = arity op := by omega
          cases decoded : decode op operands with
          | error cause =>
              simp only [bind, Except.bind, reduceCtorEq, false_iff]
              rintro ⟨_, _, _, _, rfl, _, also, _⟩
              rw [decoded] at also
              contradiction
          | ok result =>
              obtain ⟨instruction, linkA, linkB⟩ := result
              simp only [bind, Except.bind, pure, Except.pure, Except.ok.injEq]
              constructor
              · rintro rfl
                exact ⟨op, instruction, linkA, linkB, rfl, exactly, decoded, rfl⟩
              · rintro ⟨_, _, _, _, rfl, _, also, rfl⟩
                rw [decoded] at also
                cases also
                rfl

theorem decode_update (u : Update) (x y : Text) :
    decode u.op [x, y] = (do
      let r ← registerOf x
      let (a, link) ← operandOf y
      pure ({ op := u.op, register := r, a }, link, none)) := by
  cases u <;> rfl

theorem cases_of_assigned {op : Op} (assigned : op ∈ assignedOps) :
    op = .snd ∨ op = .rcv ∨ (∃ u : Update, op = u.op) ∨ op = .jgz := by
  simp only [assignedOps, List.mem_cons, List.not_mem_nil, or_false] at assigned
  rcases assigned with rfl | rfl | rfl | rfl | rfl | rfl | rfl
  · exact .inl rfl
  · exact .inr (.inl rfl)
  · exact .inr (.inr (.inl ⟨.set, rfl⟩))
  · exact .inr (.inr (.inl ⟨.add, rfl⟩))
  · exact .inr (.inr (.inl ⟨.mul, rfl⟩))
  · exact .inr (.inr (.inl ⟨.mod, rfl⟩))
  · exact .inr (.inr (.inr rfl))

theorem exists_of_bind_eq_ok {ε α β : Type} {x : Except ε α} {f : α → Except ε β}
    {result : β} (done : (x >>= f) = .ok result) : ∃ a, x = .ok a ∧ f a = .ok result := by
  cases x with
  | error e => contradiction
  | ok a => exact ⟨a, rfl, done⟩

theorem exists_denotes {word : Text} {result : Operand × Option Text}
    (read : operandOf word = .ok result) :
    ∃ value, Denotes word value :=
  let ⟨value, denotes, _⟩ := operandOf_eq_ok_iff.mp read
  ⟨value, denotes⟩

theorem exists_spells_of_decode {mnemonic : Text} {operands : List Text} {op : Op}
    {result : Instruction × Option Text × Option Text}
    (assigned : op ∈ assignedOps)
    (exactly : operands.length = arity op) (decoded : decode op operands = .ok result)
    (spelled : Text.lower mnemonic = op.text) :
    ∃ statement, Spells (mnemonic :: operands) statement := by
  rcases cases_of_assigned assigned with rfl | rfl | ⟨u, rfl⟩ | rfl
  · obtain ⟨x, rfl⟩ := List.length_eq_one_iff.mp exactly
    obtain ⟨_, read, _⟩ := exists_of_bind_eq_ok decoded
    obtain ⟨value, denotes⟩ := exists_denotes read
    exact ⟨_, .snd spelled denotes⟩
  · obtain ⟨x, rfl⟩ := List.length_eq_one_iff.mp exactly
    obtain ⟨r, read, _⟩ := exists_of_bind_eq_ok decoded
    exact ⟨_, .rcv spelled (registerOf_eq_ok_iff.mp read)⟩
  · have two : operands.length = 2 := by cases u <;> exact exactly
    match operands, two with
    | [x, y], _ =>
        rw [decode_update] at decoded
        obtain ⟨r, readRegister, decoded⟩ := exists_of_bind_eq_ok decoded
        obtain ⟨_, readValue, _⟩ := exists_of_bind_eq_ok decoded
        obtain ⟨value, denotes⟩ := exists_denotes readValue
        exact ⟨_, .update spelled (registerOf_eq_ok_iff.mp readRegister) denotes⟩
  · match operands, exactly with
    | [x, y], _ =>
        obtain ⟨_, readTest, decoded⟩ := exists_of_bind_eq_ok decoded
        obtain ⟨_, readOffset, _⟩ := exists_of_bind_eq_ok decoded
        obtain ⟨test, denotesTest⟩ := exists_denotes readTest
        obtain ⟨offset, denotesOffset⟩ := exists_denotes readOffset
        exact ⟨_, .jgz spelled denotesTest denotesOffset⟩

theorem codeLine_eq_ok_of_spells {mnemonic : Text} {operands : List Text} {statement : Statement}
    (spells : Spells (mnemonic :: operands) statement) (lineNo : Nat) :
    codeLine lineNo mnemonic operands =
      .ok (Entry.codeLine ⟨mnemonic :: operands, statement⟩ lineNo unlinked) := by
  apply codeLine_eq_ok_iff_decode.mpr
  cases spells with
  | snd spelled value =>
      refine ⟨.snd, _, _, _, mnemonic?_eq_some_iff.mpr ⟨spelled, by decide⟩, rfl, ?_, rfl⟩
      simp only [decode, operandOf_eq_ok_of_denotes value]
      rfl
  | rcv spelled register =>
      refine ⟨.rcv, _, _, _, mnemonic?_eq_some_iff.mpr ⟨spelled, by decide⟩, rfl, ?_, rfl⟩
      simp only [decode, registerOf_eq_ok_iff.mpr register]
      rfl
  | @update _ _ _ u _ _ spelled register value =>
      refine ⟨u.op, _, _, _, mnemonic?_eq_some_iff.mpr ⟨spelled, by cases u <;> decide⟩,
        by cases u <;> rfl, ?_, rfl⟩
      rw [decode_update, registerOf_eq_ok_iff.mpr register, operandOf_eq_ok_of_denotes value]
      rfl
  | jgz spelled test offset =>
      refine ⟨.jgz, _, _, _, mnemonic?_eq_some_iff.mpr ⟨spelled, by decide⟩, rfl, ?_, rfl⟩
      simp only [decode, operandOf_eq_ok_of_denotes test, operandOf_eq_ok_of_denotes offset]
      rfl

theorem codeLine_eq_ok_iff {lineNo : Nat} {mnemonic : Text} {operands : List Text}
    {line : CodeLine} :
    codeLine lineNo mnemonic operands = .ok line ↔
      ∃ statement, Spells (mnemonic :: operands) statement ∧
        line = Entry.codeLine ⟨mnemonic :: operands, statement⟩ lineNo unlinked := by
  constructor
  · intro read
    obtain ⟨op, _, _, _, found, exactly, decoded, _⟩ := codeLine_eq_ok_iff_decode.mp read
    obtain ⟨spelled, assigned⟩ := mnemonic?_eq_some_iff.mp found
    obtain ⟨statement, spells⟩ := exists_spells_of_decode assigned exactly decoded spelled
    rw [codeLine_eq_ok_of_spells spells] at read
    cases read
    exact ⟨statement, spells, rfl⟩
  · rintro ⟨statement, spells, rfl⟩
    exact codeLine_eq_ok_of_spells spells lineNo

end Tandem.Assembly

import Tandem.Assembly.Expansion
import Tandem.Assembly.Source
import Tandem.Assembly.Word

set_option autoImplicit false

/-!
The assembler. A line is blank, or defines an equate by `.equ NAME word`, or has any number of
labels `name:` followed by an instruction or by nothing. Each word of an instruction that is the
name of an equate is replaced once by the word of the equate.

An operand `@name` is the distance from its instruction to a label, which may come later in the
source; such operands are filled in when all lines have been read.

The result tells what had been collected up to an error, too.
-/

namespace Tandem.Assembly

/-- Labels, equates and code as they stand after some lines. -/
structure Draft where
  labels : Table Nat
  equates : Table Text
  code : Array CodeLine

structure Outcome where
  draft : Draft
  error : Option SyntaxError

/-- The equate that holds the number of the line being read. -/
def lineNumberName : Text := "LINENO"

def builtinEquates : List (Text × Text) := [(lineNumberName, "0")]

namespace Draft

/-- Before the first line: no labels, no code, and the predefined equates. -/
def start (predefined : List (Text × Text)) : Draft :=
  { labels := .empty
    equates := (Table.ofEntries builtinEquates).insertAll predefined
    code := #[] }

/-- The equates that are number words. -/
def numbers (d : Draft) : Table Int64 :=
  d.equates.filterMap fun (name, word) => (Numeral.value? word).map fun n => (name, n)

/-- `.equ` with the words that follow it. -/
def defineEquate (d : Draft) (words : List Text) : Except Cause Draft :=
  match words with
  | [name, word] =>
      if name.length < 2 || !isLabel name then .error .equateSyntax
      else if d.equates.contains name then .error .equateDuplicate
      else .ok { d with equates := d.equates.insert name word }
  | _ => .error .equateSyntax

/-- Takes the labels in front of a line, which mark the next instruction. The words after them are
left; an error leaves the labels before it defined. -/
def defineLabels (d : Draft) : List Text → Draft × Except Cause (List Text)
  | [] => (d, .ok [])
  | word :: rest =>
      if word.getLast? = some 58 then
        let label := word.dropLast
        if !isLabel label then (d, .error .labelInvalid)
        else if d.labels.contains label then (d, .error .labelDuplicate)
        else defineLabels { d with labels := d.labels.insert label d.code.size } rest
      else (d, .ok (word :: rest))

/-- Replaces a word that names an equate. -/
def replace (d : Draft) (word : Text) : Text := (d.equates.find? word).getD word

def addCode (d : Draft) (lineNo : Nat) (words : List Text) : Draft × Option Cause :=
  match words with
  | [] => (d, none)
  | mnemonic :: operands =>
      match codeLine lineNo mnemonic operands with
      | .error cause => (d, some cause)
      | .ok line => ({ d with code := d.code.push line }, none)

/-- Reads the words of a line. -/
def addWords (d : Draft) (lineNo : Nat) (words : List Text) : Draft × Option Cause :=
  match words with
  | [] => (d, none)
  | first :: rest =>
      if first = (".equ" : Text) then
        match d.defineEquate rest with
        | .error cause => (d, some cause)
        | .ok d => (d, none)
      else match d.defineLabels (first :: rest) with
        | (d, .error cause) => (d, some cause)
        | (d, .ok words) => d.addCode lineNo (words.map d.replace)

/-- Reads a line that has been stripped of its comment. -/
def addLine (evaluator : Evaluator) (d : Draft) (lineNo : Nat) (line : Text) :
    Draft × Option Cause :=
  let d := { d with equates := d.equates.insert lineNumberName (Text.ofNat lineNo) }
  match expand (fun t => evaluator d.numbers t) line with
  | .error cause => (d, some cause)
  | .ok line => d.addWords lineNo (Text.words line)

/-- Reads lines that follow line `lineNo`, which was `line`. -/
def addLines (evaluator : Evaluator) (d : Draft) (lineNo : Nat) (line : Text) :
    List Text → Draft × Nat × Text × Option Cause
  | [] => (d, lineNo, line, none)
  | next :: rest =>
      let line := Source.strip next
      match d.addLine evaluator (lineNo + 1) line with
      | (d, some cause) => (d, lineNo + 1, line, some cause)
      | (d, none) => addLines evaluator d (lineNo + 1) line rest

/-- The distance from instruction `n` to the label. -/
def distance (d : Draft) (n : Nat) (label : Text) : Except Cause Operand :=
  match d.labels.find? label with
  | none => .error (.labelMissing label)
  | some index => .ok (.ofLiteral (Int64.ofInt ((index : Int) - n)))

/-- Fills in the operands of instruction `n`, the first before the second. -/
def linkLine (d : Draft) (n : Nat) (line : CodeLine) : CodeLine × Option Cause :=
  let linkB (line : CodeLine) : CodeLine × Option Cause :=
    match line.linkB with
    | none => (line, none)
    | some label =>
        match d.distance n label with
        | .error cause => (line, some cause)
        | .ok b => ({ line with instruction := { line.instruction with b } }, none)
  match line.linkA with
  | none => linkB line
  | some label =>
      match d.distance n label with
      | .error cause => (line, some cause)
      | .ok a => linkB { line with instruction := { line.instruction with a } }

/-- Links the code lines from instruction `n` on; after an error the rest stay as they are. -/
def linkLines (d : Draft) (n : Nat) : List CodeLine → List CodeLine × Option SyntaxError
  | [] => ([], none)
  | line :: rest =>
      match d.linkLine n line with
      | (linked, some cause) =>
          (linked :: rest, some ⟨line.lineNo, Text.join [32] line.words, cause⟩)
      | (linked, none) =>
          let (others, error) := linkLines d (n + 1) rest
          (linked :: others, error)

def link (d : Draft) : Outcome :=
  let (lines, error) := d.linkLines 0 d.code.toList
  ⟨{ d with code := lines.toArray }, error⟩

def program (d : Draft) : Program := ⟨d.code⟩

end Draft

/-- Assembles a source text. -/
def assemble (evaluator : Evaluator) (predefined : List (Text × Text)) (source : Text) : Outcome :=
  let source := Source.read source
  match (Draft.start predefined).addLines evaluator 0 [] source.lines with
  | (d, lineNo, line, some cause) => ⟨d, some ⟨lineNo, line, cause⟩⟩
  | (d, lineNo, line, none) =>
      if source.tooLong then ⟨d, some ⟨lineNo, line, .lineTooLong⟩⟩ else d.link

def Outcome.program (o : Outcome) : Except SyntaxError Program :=
  match o.error with
  | some e => .error e
  | none => .ok o.draft.program

end Tandem.Assembly

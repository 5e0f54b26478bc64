import Tandem.Toml.Quoted
import Tandem.Toml.Scalar
import Tandem.Toml.Value

set_option autoImplicit false

/-!
TOML documents. A document is UTF-8 text without control characters and consists of headers and
entries, one to a line.

A key may be defined once. Tables that only came about because a longer key goes through them are
marked as implied, and defining such a table takes the mark away. A key whose value is an array in
brackets may be defined again.
-/

namespace Tandem.Toml

/-! ### Text -/

private def isBlankByte (b : UInt8) : Bool := b = 32 || b = 9

private def isNewline (b : UInt8) : Bool := b = 10 || b = 13

private def skipBlanks (t : Text) : Text := t.dropWhile isBlankByte

private def isBareByte (b : UInt8) : Bool :=
  Text.isLetter b || Text.isDigit b || b = 95 || b = 45

/-- Whether every byte may stand in a document: no control characters but tabs and newlines, and a
carriage return only before a newline. -/
def isPlain : Text → Bool
  | [] => true
  | b :: rest =>
      (if b = 13 then rest.head? = some 10 else 32 ≤ b && b ≠ 127 || b = 9 || b = 10) &&
        isPlain rest

/-- Drops a mark of the byte order at the start. -/
def dropMark : Text → Text
  | 0xFF :: 0xFE :: rest => rest
  | 0xFE :: 0xFF :: rest => rest
  | 0xEF :: 0xBB :: 0xBF :: rest => rest
  | t => t

private def skipComment (t : Text) : Text := t.dropWhile fun b => !isNewline b

/-- What follows the end of a line: blanks, a comment and a newline may come before it. -/
private def endOfLine? (t : Text) : Option Text :=
  let t := skipBlanks t
  let t := if t.head? = some 35 then skipComment t else t
  match t with
  | [] => some []
  | b :: rest => if isNewline b then some rest else none

/-- Skips blanks, newlines and comments. -/
private def skipSpace : (fuel : Nat) → Text → Text
  | 0, t => t
  | fuel + 1, t =>
      match t.dropWhile fun b => isBlankByte b || isNewline b with
      | 35 :: rest => skipSpace fuel (skipComment rest)
      | t => t

/-! ### Keys -/

/-- One part of a key. -/
private def keyPart? (t : Text) : Option (Text × Text) :=
  match t with
  | 34 :: rest => Quoted.readShort? Quoted.doubleQuote rest
  | 39 :: rest => Quoted.readShort? Quoted.singleQuote rest
  | _ =>
      let part := t.takeWhile isBareByte
      if part.isEmpty then none else some (part, t.drop part.length)

/-- The parts of a key, with points between them, up to the byte that ends it. -/
private def keyParts? (ending : UInt8) : (fuel : Nat) → Text → Option (List Text × Text)
  | 0, _ => none
  | fuel + 1, t => do
      let (part, rest) ← keyPart? (skipBlanks t)
      match skipBlanks rest with
      | [] => none
      | b :: rest =>
          if b = ending then some ([part], rest)
          else if b = 46 then do
            let (parts, rest) ← keyParts? ending fuel rest
            some (part :: parts, rest)
          else none

private def key? (ending : UInt8) (t : Text) : Option (List Text × Text) :=
  keyParts? ending (t.length + 1) t

/-! ### Definitions -/

/-- A document as far as it has been read. -/
structure Draft where
  root : Entries
  /-- The table that entries go into. -/
  path : List Text
  implied : List (List Text)
  arrays : List (List Text)

namespace Draft

def empty : Draft := ⟨[], [], [], []⟩

def imply (d : Draft) (key : List Text) : Draft :=
  if d.implied.contains key then d else { d with implied := key :: d.implied }

def unimply (d : Draft) (key : List Text) : Draft :=
  { d with implied := d.implied.filter (· ≠ key) }

/-- Notes whether the value of a key of the current table is an array in brackets; an empty key
stands for the table itself. -/
def note (d : Draft) (key : Text) (isArray : Bool) : Draft :=
  let full := if key.isEmpty && !d.path.isEmpty then d.path else d.path ++ [key]
  let others := d.arrays.filter (· ≠ full)
  { d with arrays := if isArray then full :: others else others }

/-- Defines a key of the current table. -/
def define? (d : Draft) (key : Text) (value : Value) : Option Draft := do
  let table ← d.root.descend? d.path
  let full := d.path ++ [key]
  let put (d : Draft) : Option Draft := do
    let root ← d.root.modifyAt? (fun entries => some (Entries.put entries key value)) d.path
    some { d with root }
  if (table.lookup key).isNone then put d
  else if d.arrays.contains full then put (d.unimply full)
  else if d.implied.contains full then some (d.unimply full)
  else none

/-- Makes sure that the tables on a path exist; those that are new are implied. `front` is the part
of the path that has been gone through. -/
def enterParents? (d : Draft) (front : List Text) : List Text → Option Draft
  | [] => some d
  | key :: rest => do
      let full := front ++ [key]
      let table ← d.root.descend? front
      let d ← match table.lookup key with
        | some _ => some d
        | none => do
            let root ← d.root.modifyAt? (fun t => some (Entries.put t key (.table []))) front
            some ({ d with root }.imply full)
      let _ ← d.root.descend? full
      enterParents? d full rest

/-- Adds a table to an array of tables, which may be new. -/
def append? (d : Draft) (key : Text) : Option Draft := do
  let table ← d.root.descend? d.path
  let items ← match table.lookup key with
    | none => some []
    | some (.tables items) => some items
    | some _ => none
  let root ← d.root.modifyAt? (fun t => some (Entries.put t key (.tables ([] :: items)))) d.path
  some { d with root }

/-- Goes to a table, or to a new table of an array of tables. -/
def enter? (d : Draft) (key : List Text) (isArray : Bool) : Option Draft := do
  let last ← key.getLast?
  let d ← d.enterParents? [] key.dropLast
  let d := { d with path := key.dropLast }
  let d ← if isArray then d.append? last else d.define? last (.table [])
  some { d with path := key }

/-- Goes from the current table through the given parts of a key. -/
def enterParts? (d : Draft) : List Text → Option Draft
  | [] => some d
  | part :: rest => do
      let key := d.path ++ [part]
      let d ← (d.imply key).enter? key false
      enterParts? d rest

end Draft

/-! ### Values -/

private def isMomentByte (b : UInt8) : Bool :=
  Text.isDigit b || b = 45 || b = 58 || b = 84 || b = 116 || b = 32 || b = 46 || b = 90 ||
    b = 122 || b = 43

private def isFloatByte (b : UInt8) : Bool :=
  Text.isDigit b || b = 95 || b = 46 || b = 45 || b = 43 || b = 101 || b = 69

private def startsFloat (b : UInt8) : Bool := b = 46 || b = 101 || b = 69

/-- A number after its sign and its first digits, which `front` holds. -/
private def decimal? (front t : Text) : Option (Value × Text) :=
  let digits := t.takeWhile fun b => Text.isDigit b || b = 95
  let rest := t.drop digits.length
  if rest.head?.any startsFloat then
    let more := rest.takeWhile isFloatByte
    (float? (front ++ digits ++ more)).map fun x => (.float x, rest.drop more.length)
  else (integer? (front ++ digits)).map fun n => (.integer n, rest)

/-- A number with a mark for its base. -/
private def based? (base : Nat) (mark : UInt8) (t : Text) : Option (Value × Text) :=
  let isDigit (b : UInt8) : Bool := (Numeral.digitValue? b).any (· < base)
  if !t.head?.any isDigit then none
  else
    let digits := t.takeWhile fun b => isDigit b || b = 95
    (integer? (48 :: mark :: digits)).map fun n => (.integer n, t.drop digits.length)

/-- A number or a moment. -/
private def numberOrMoment? (t : Text) : Option (Value × Text) :=
  match t with
  | 48 :: 98 :: rest => based? 2 98 rest
  | 48 :: 111 :: rest => based? 8 111 rest
  | 48 :: 120 :: rest => based? 16 120 rest
  | _ =>
      let digits := t.takeWhile Text.isDigit
      let rest := t.drop digits.length
      -- No moment starts with a lone zero.
      let isMomentStart := digits ≠ [48] && rest.head?.any fun b => b = 45 || b = 58
      if isMomentStart then
        let moment := t.takeWhile isMomentByte
        let trimmed := (moment.reverse.dropWhile (· = 32)).reverse
        if isMoment trimmed then some (.moment trimmed, t.drop moment.length) else none
      else decimal? [] t

/-- A number after its sign; infinity and not-a-number have names. -/
private def signed? (sign : UInt8) (t : Text) : Option (Value × Text) :=
  match t with
  | 105 :: 110 :: 102 :: rest =>
      some (.float (if sign = 45 then -1.0 / 0.0 else 1.0 / 0.0), rest)
  | 110 :: 97 :: 110 :: rest => some (.float (0.0 / 0.0), rest)
  | 48 :: b :: _ => if b = 98 || b = 111 || b = 120 then none else decimal? [sign] t
  | b :: _ => if Text.isDigit b then decimal? [sign] t else none
  | [] => none

private def word? (t : Text) : Option (Value × Text) :=
  let rec find : List (Text × Value) → Option (Value × Text)
    | [] => none
    | (word, value) :: others =>
        if Text.startsWith t word then some (value, t.drop word.length) else find others
  find [("true", .boolean true), ("false", .boolean false), ("inf", .float (1.0 / 0.0)),
    ("nan", .float (0.0 / 0.0))]

private def isArrayValue : Value → Bool
  | .array _ => true
  | _ => false

/-- What reading gives: a value, the draft it left, and the text after it. -/
private structure Reading where
  value : Value
  draft : Draft
  rest : Text

/-- Puts a value into a table under a key of several parts. -/
private def putParts : (key : List Text) → Value → Entries → Entries
  | [], _, entries => entries
  | [key], value, entries => Entries.put entries key value
  | part :: rest, value, entries =>
      let inner := ((entries.lookup part).bind Value.asTable?).getD []
      Entries.put entries part (.table (putParts rest value inner))

mutual

/-- Reads a value of the key `key` of the current table; `inArray` tells whether it is an item of an
array. -/
private def value? :
    (fuel : Nat) → Draft → (key : Text) → (inArray : Bool) → Text → Option Reading
  | 0, _, _, _, _ => none
  | fuel + 1, d, key, inArray, t =>
      let scalar (result : Option (Value × Text)) : Option Reading :=
        result.map fun (value, rest) => ⟨value, d, rest⟩
      let quoted (result : Option (Text × Text)) : Option Reading :=
        result.map fun (text, rest) => ⟨.text text, d, rest⟩
      match skipBlanks t with
      | [] => none
      | b :: rest =>
          if b = 34 || b = 39 then quoted (Quoted.read? b rest)
          else if b = 91 then items? fuel (d.note key true) key [] rest
          else if b = 123 then do
            let outer := d.path
            let path := outer ++ [key]
            let d ← (d.imply path).enter? path inArray
            let reading ← fields? fuel d path [] true rest
            some { reading with draft := { reading.draft with path := outer } }
          else if b = 43 || b = 45 then scalar (signed? b rest)
          else if Text.isDigit b then scalar (numberOrMoment? (b :: rest))
          else scalar (word? (b :: rest))

/-- Reads the items of an array up to its closing bracket; those before come last first. -/
private def items? :
    (fuel : Nat) → Draft → (key : Text) → List Value → Text → Option Reading
  | 0, _, _, _, _ => none
  | fuel + 1, d, key, done, t =>
      match skipSpace (t.length + 1) t with
      | [] => none
      | 93 :: rest => some ⟨.array done.reverse, d, rest⟩
      | b :: rest => do
          let item ← value? fuel d key true (b :: rest)
          match skipSpace (item.rest.length + 1) item.rest with
          | 44 :: rest => items? fuel item.draft key (item.value :: done) rest
          | 93 :: rest => some ⟨.array (item.value :: done).reverse, item.draft, rest⟩
          | _ => none

/-- Reads the entries of a table in braces, which is at `path`, up to its closing brace. -/
private def fields? :
    (fuel : Nat) → Draft → (path : List Text) → Entries → (mayEnd : Bool) → Text →
      Option Reading
  | 0, _, _, _, _, _ => none
  | fuel + 1, d, path, done, mayEnd, t =>
      match skipBlanks t with
      | [] => none
      | b :: rest =>
          if b = 125 then if mayEnd then some ⟨.table done, d, rest⟩ else none
          else do
            let (key, rest) ← key? 61 (b :: rest)
            let last ← key.getLast?
            let inner ← d.enterParts? key.dropLast
            let field ← value? fuel inner last false rest
            let d ← field.draft.define? last field.value
            let d := { d.note last (isArrayValue field.value) with path := path }
            let done := putParts key field.value done
            match skipBlanks field.rest with
            | 44 :: rest => fields? fuel d path done false rest
            | 125 :: rest => some ⟨.table done, d, rest⟩
            | _ => none

end

/-! ### Lines -/

/-- Reads an entry of the current table. -/
private def entry? (d : Draft) (t : Text) : Option (Draft × Text) := do
  let (key, rest) ← key? 61 t
  let last ← key.getLast?
  let inner ← d.enterParts? key.dropLast
  let field ← value? (rest.length + 1) inner last false rest
  let result ← field.draft.define? last field.value
  some ({ result.note last (isArrayValue field.value) with path := d.path }, field.rest)

/-- Reads a header after its first bracket. -/
private def header? (d : Draft) (t : Text) : Option (Draft × Text) :=
  match t with
  | 91 :: rest => do
      let (key, rest) ← key? 93 rest
      match rest with
      | 93 :: rest => some ((← d.enter? key true).note [] false, rest)
      | _ => none
  | _ => do
      let (key, rest) ← key? 93 t
      some ((← d.enter? key false).note [] false, rest)

private def lines? : (fuel : Nat) → Draft → Text → Option Draft
  | 0, _, _ => none
  | fuel + 1, d, t =>
      match skipSpace (t.length + 1) t with
      | [] => some d
      | 91 :: rest => do
          let (d, rest) ← header? d rest
          lines? fuel d (← endOfLine? rest)
      | t => do
          let (d, rest) ← entry? d t
          lines? fuel d (← endOfLine? rest)

/-- The table that a document describes. -/
def parse? (document : Text) : Option Entries :=
  let t := dropMark document
  if !Text.isUtf8 t || !isPlain t then none
  else (lines? (t.length + 1) .empty t).map (·.root)

end Tandem.Toml

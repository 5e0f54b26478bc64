import Tandem.Expr.Template
import Tandem.Text.Case
import Tandem.Text.Digit
import Tandem.Text.Letter
import Tandem.Text.Piece

set_option autoImplicit false

/-!
Methods of strings. They give new values; a string never changes. Methods that look for something
take the ends of the part of the string to look in.
-/

namespace Tandem.Expr.StringMethod

/-- The part of a text between two optional ends, and where it starts. -/
def part? (t : Text) (ends : List Value) : Option (Nat × Text) := do
  let (start, stop) ← Value.part? t.length (ends[0]?.getD .none) (ends[1]?.getD .none)
  pure (start.toNat, (t.take stop.toNat).drop start.toNat)

/-- How often a text occurs, without overlaps; the empty text stands between all characters. -/
def occurrences (needle t : Text) : Nat :=
  if needle.isEmpty then (Text.characters t).length + 1
  else (Text.splitAt needle t.length t).length - 1

def replaced (old new t : Text) (count : Nat) : Text :=
  if old.isEmpty then Text.interleaved new t count else Text.join new (Text.splitAt old count t)

private def mapPoints (f : Nat → Nat) (t : Text) : Text :=
  Text.ofCharacters ((Text.characters t).map f)

private def capitalized (t : Text) : Text :=
  match Text.characters t with
  | [] => []
  | c :: rest => Text.ofCharacters (Text.titlePoint c :: rest.map Text.lowerPoint)

/-- Capital letters where a word starts, and small ones inside. -/
private def titled : (inWord : Bool) → List Nat → List Nat
  | _, [] => []
  | inWord, c :: rest =>
      let c := if inWord then Text.lowerPoint c else Text.titlePoint c
      c :: titled (Text.isCasedPoint c) rest

private def isCased (t : Text) : Bool := (Text.characters t).any Text.isCasedPoint

/-- Whether capital letters stand at the starts of words and small ones inside; of the capital
letters that have an accent or belong to another script none is allowed. -/
private def isTitled : (hasCase inWord : Bool) → List Nat → Bool
  | hasCase, _, [] => hasCase
  | hasCase, inWord, c :: rest =>
      if (65 ≤ c && c ≤ 90) || Text.isTitlePoint c then !inWord && isTitled true true rest
      else if Text.isSmallPoint c then inWord && isTitled true true rest
      else !Text.isCapitalPoint c && isTitled hasCase false rest

private def allPoints (p : Nat → Bool) (t : Text) : Bool :=
  !t.isEmpty && (Text.characters t).all p

/-- Splits at a separator, up to `cuts` times from the right. The occurrences are those from the
left. -/
def splitLast (separator : Text) (cuts : Nat) (t : Text) : List Text :=
  let parts := Text.splitAt separator t.length t
  let excess := parts.length - cuts
  if excess = 0 then parts else Text.join separator (parts.take excess) :: parts.drop excess

def split? (fromRight : Bool) (t : Text) (arguments : List Value) : Option (List Text) := do
  let most ← match arguments[1]? with
    | some n => n.count?
    | none => some (-1)
  let cuts := if most < 0 then t.length + 1 else most.toInt.toNat
  match arguments[0]?.getD .none with
  | .none => pure (if fromRight then Text.splitBlanksLast cuts t else Text.splitBlanks cuts t)
  | .str separator =>
      if separator.isEmpty then none
      else pure (if fromRight then splitLast separator cuts t else Text.splitAt separator cuts t)
  | _ => none

def lines (keepEnds : Bool) (t : Text) : List Text :=
  if t.isEmpty then []
  else
    let parts := Text.splitAt [10] t.length t
    let ended :=
      if keepEnds then parts.dropLast.map (· ++ [10]) ++ parts.getLast?.toList else parts
    if Text.endsWith t [10] then ended.dropLast else ended

/-- Where a text occurs in the part of a string, first or last. -/
def find? (last : Bool) (t : Text) (arguments : List Value) : Option (Option Int) := do
  let needle ← (← arguments.head?).text?
  let (start, inside) ← part? t arguments.tail
  let i := if last then Text.lastIndexOf? needle inside else Text.indexOf? needle inside
  pure (i.map fun (i : Nat) => ((start + i : Nat) : Int))

/-- Whether one of some values, which are texts up to it, has a property. -/
private def anyText? (p : Text → Bool) : List Value → Option Bool
  | [] => some false
  | x :: rest => do if p (← x.text?) then pure true else anyText? p rest

/-- Whether a text, or one of a tuple of texts, stands at an end of the part of a string. -/
def touches? (atStart : Bool) (t : Text) (arguments : List Value) : Option Bool := do
  let (_, inside) ← part? t arguments.tail
  let touches (w : Text) : Bool :=
    if atStart then Text.startsWith inside w else Text.endsWith inside w
  match ← arguments.head? with
  | .str wanted => some (touches wanted)
  | .tuple items => anyText? touches items
  | _ => none

/-- Takes off blanks, or the characters of a text. -/
private def strip? (atStart atEnd : Bool) (t : Text) (arguments : List Value) : Option Value := do
  let set ← match arguments with
    | [] => some []
    | x :: _ => x.text?
  let drops (c : Nat) : Bool :=
    if set.isEmpty then Text.isBlankPoint c else (Text.characters set).contains c
  pure (.str (Text.stripped atStart atEnd drops t))

private def replace? (t : Text) (arguments : List Value) : Option Value := do
  let old ← (← arguments[0]?).text?
  let new ← (← arguments[1]?).text?
  let most ← match arguments[2]? with
    | some n => n.count?
    | none => some (-1)
  pure (.str (replaced old new t (if most < 0 then t.length + 1 else most.toInt.toNat)))

private def triple (a b c : Text) : Value := .tuple [.str a, .str b, .str c]

private def partition? (t separator : Text) : Option Value :=
  if separator.isEmpty then none
  else some (match Text.cutAt? separator t with
    | some (before, after) => triple before separator after
    | none => triple t [] [])

private def partitionLast? (t separator : Text) : Option Value :=
  if separator.isEmpty then none
  else some (match Text.cutAtLast? separator t with
    | some (before, after) => triple before separator after
    | none => triple [] [] t)

private def texts (ts : List Text) : EvalM Value :=
  EvalM.newList (ts.map Value.str).toArray

def every : List (String × (Text → Arguments → EvalM Value)) :=
  let plain (least most : Nat) (f : Text → List Value → Option Value) :
      Text → Arguments → EvalM Value := fun t a => do f t (← a.only? least most)
  let bare (f : Text → Value) := plain 0 0 fun t _ => some (f t)
  let test (p : Text → Bool) := bare fun t => .bool (p t)
  let one (f : Text → Text → Option Value) :=
    plain 1 1 fun t arguments => (arguments.head?.bind Value.text?).bind (f t)
  let split (fromRight : Bool) : Text → Arguments → EvalM Value := fun t a => do
    texts (← split? fromRight t (← a.only? 0 2))
  let seek (last : Bool) := plain 1 3 fun t arguments =>
    (find? last t arguments).map fun i => .int (i.getD (-1))
  let mustSeek (last : Bool) := plain 1 3 fun t arguments =>
    (find? last t arguments).bind fun i => i.map .int
  [("capitalize", bare fun t => .str (capitalized t)),
    ("codepoint_ords", bare (.view .characterNumbers)),
    ("codepoints", bare (.view .characters)),
    ("count", plain 1 3 fun t arguments => do
      let needle ← (← arguments.head?).text?
      let (_, inside) ← part? t arguments.tail
      some (.int (occurrences needle inside))),
    ("elem_ords", bare (.view .byteNumbers)),
    ("elems", bare (.view .bytes)),
    ("endswith", plain 1 3 fun t arguments => (touches? false t arguments).map .bool),
    ("find", seek false),
    ("format", fun t a => do return .str (← Value.format? (← get) t a)),
    ("index", mustSeek false),
    ("isalnum", test (allPoints fun c => Text.isLetterPoint c || Text.isDigitPoint c)),
    ("isalpha", test (allPoints Text.isLetterPoint)),
    ("isdigit", test (allPoints Text.isDigitPoint)),
    ("islower", test fun t => isCased t && mapPoints Text.lowerPoint t = t),
    ("isspace", test (allPoints Text.isBlankPoint)),
    ("istitle", test fun t => isTitled false false (Text.characters t)),
    ("isupper", test fun t => isCased t && mapPoints Text.upperPoint t = t),
    ("join", fun t a => do
      let items ← (← a.one?).items? (← get)
      let parts : Option (List Text) := items.toList.mapM Value.text?
      return .str (Text.join t (← parts))),
    ("lower", bare fun t => .str (mapPoints Text.lowerPoint t)),
    ("lstrip", plain 0 1 (strip? true false)),
    ("partition", one partition?),
    ("removeprefix", one fun t start =>
      some (.str (if Text.startsWith t start then t.drop start.length else t))),
    ("removesuffix", one fun t ending =>
      some (.str (if Text.endsWith t ending then t.take (t.length - ending.length) else t))),
    ("replace", plain 2 3 replace?),
    ("rfind", seek true),
    ("rindex", mustSeek true),
    ("rpartition", one partitionLast?),
    ("rsplit", split true),
    ("rstrip", plain 0 1 (strip? false true)),
    ("split", split false),
    ("splitlines", fun t a => do
      let keepEnds ← match ← a.only? 0 1 with
        | [] => pure false
        | x :: _ => (x.truth? : EvalM Bool)
      texts (lines keepEnds t)),
    ("startswith", plain 1 3 fun t arguments => (touches? true t arguments).map .bool),
    ("strip", plain 0 1 (strip? true true)),
    ("title", bare fun t => .str (Text.ofCharacters (titled false (Text.characters t)))),
    ("upper", bare fun t => .str (mapPoints Text.upperPoint t))]

end Tandem.Expr.StringMethod

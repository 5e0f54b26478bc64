import Tandem.Text.Blank

set_option autoImplicit false

/-!
Texts cut into characters, each with the bytes that it is written with. Bytes that belong to no
character are kept as they are, so the pieces of a text always make up the text again.
-/

namespace Tandem.Text

/-- A character and its bytes. -/
abbrev Piece := Nat × Text

def pieces.loop : (fuel : Nat) → Text → List Piece
  | 0, _ => []
  | fuel + 1, t =>
      match next? t with
      | some (c, n) => (c, t.take n) :: loop fuel (t.drop n)
      | none => []

def pieces (t : Text) : List Piece := pieces.loop t.length t

def ofPieces (ps : List Piece) : Text := ps.flatMap (·.2)

def isBlankPoint (c : Nat) : Bool := blankLength (ofCodePoint c) ≠ 0

/-- Takes characters off the start, off the end, or both. -/
def stripped (atStart atEnd : Bool) (drops : Nat → Bool) (t : Text) : Text :=
  let dropped (ps : List Piece) : List Piece := ps.dropWhile fun p => drops p.1
  let ps := pieces t
  let ps := if atStart then dropped ps else ps
  ofPieces (if atEnd then (dropped ps.reverse).reverse else ps)

/-- Splits at runs of blanks, up to `cuts` times; the last part then goes on to the end. `word`
holds the pieces, last first, of the part being read. -/
def splitBlanks.loop : (cuts : Nat) → (word : List Piece) → List Piece → List (List Piece)
  | _, word, [] => if word.isEmpty then [] else [word.reverse]
  | cuts, word, p :: rest =>
      if !isBlankPoint p.1 then loop cuts (p :: word) rest
      else if word.isEmpty then loop cuts [] rest
      else match cuts with
        | 0 => [word.reverse ++ p :: rest]
        | cuts + 1 => word.reverse :: loop cuts [] rest

/-- Splits at runs of blanks, up to `cuts` times from the left. -/
def splitBlanks (cuts : Nat) (t : Text) : List Text :=
  (splitBlanks.loop cuts [] (pieces t)).map ofPieces

/-- Splits at runs of blanks, up to `cuts` times from the right. -/
def splitBlanksLast (cuts : Nat) (t : Text) : List Text :=
  ((splitBlanks.loop cuts [] (pieces t).reverse).map fun ps => ofPieces ps.reverse).reverse

/-- Puts a text before each of the first `count` characters, and at the end if there are fewer. -/
def interleaved (new t : Text) (count : Nat) : Text :=
  let ps := pieces t
  (ps.take count).flatMap (fun p => new ++ p.2) ++ (if ps.length < count then new else []) ++
    ofPieces (ps.drop count)

end Tandem.Text

import Tandem.Expr.Literal
import Tandem.Text.Letter

set_option autoImplicit false

/-!
A text as tokens. Blanks and comments separate tokens. Outside brackets the end of a line counts,
and so does the indentation of the next line that holds anything: a deeper one opens a block, and a
shallower one closes blocks and must be that of a line before them. A backslash joins a line with
the next one. `scan?` gives no tokens if any part of the text is not a token.
-/

namespace Tandem.Expr.Token

private def isNameStart (c : Nat) : Bool := c = 95 || Text.isLetterPoint c

private def isNamePart (c : Nat) : Bool := (48 ≤ c && c ≤ 57) || isNameStart c

/-- The length in bytes of the name that a text goes on with. -/
def nameLength (fuel : Nat) (t : Text) : Nat :=
  match fuel, Text.next? t with
  | fuel + 1, some (c, n) => if isNamePart c then n + nameLength fuel (t.drop n) else 0
  | _, _ => 0

/-- How a symbol changes the number of open brackets; none can be closed if none is open. -/
def depthAfter (depth : Nat) : Symbol → Option Nat
  | .leftParen | .leftBracket | .leftBrace => some (depth + 1)
  | .rightParen | .rightBracket | .rightBrace => if depth = 0 then none else some (depth - 1)
  | _ => some depth

private def isLineEnd (b : UInt8) : Bool := b = 10 || b = 13

private def dropLineEnd : Text → Text
  | 13 :: 10 :: rest => rest
  | t => t.tail

private def isSpace (b : UInt8) : Bool := b = 32 || b = 9

/-- The column that blanks at the start of a line lead to. A tab goes on by eight, less the number
modulo eight of the blanks before it. -/
def column (blanks : Text) : Nat :=
  blanks.zipIdx.foldl (fun column (b, i) => column + if b = 9 then 8 - i % 8 else 1) 0

structure Layout where
  /-- The number of open brackets. -/
  depth : Nat
  /-- The columns of the open blocks, the innermost first. -/
  blocks : List Nat
  atLineStart : Bool
  /-- The tokens so far, last first. -/
  done : List Token

namespace Layout

def push (l : Layout) (token : Token) : Layout :=
  { l with done := token :: l.done, atLineStart := false }

/-- Opens or closes blocks for a line that starts at a column. -/
def indent? (l : Layout) (column : Nat) : Option Layout :=
  let current := l.blocks.head?.getD 0
  if current < column then
    some { l with blocks := column :: l.blocks, done := .indent :: l.done }
  else
    let closed := l.blocks.takeWhile (column < ·)
    let left := l.blocks.drop closed.length
    if left.head?.getD 0 = column then
      some { l with blocks := left, done := closed.map (fun _ => Token.outdent) ++ l.done }
    else none

/-- All tokens at the end of the text. Open blocks are closed, after the end of the last line. -/
def finish (l : Layout) : List Token :=
  let ended := if l.blocks.isEmpty || l.atLineStart then l.done else .newline :: l.done
  (l.blocks.map (fun _ => Token.outdent) ++ ended).reverse

end Layout

/-- The token that a text of at most `limit` bytes starts with, and what follows it. -/
def next? (limit : Nat) (t : Text) : Option (Token × Text) :=
  match markedString? t with
  | some result => result
  | none =>
      let word := t.take (nameLength limit t)
      let startsNumber :=
        t.head?.any Text.isDigit || (t.head? = some 46 && t.tail.head?.any Text.isDigit)
      if startsNumber then number? t
      else if !word.isEmpty then some (ofWord word, t.drop word.length)
      else (sign? t).map fun (s, rest) => (.symbol s, rest)

/-- Scans the rest of a text. A zero byte ends the text. -/
def scan?.loop : (fuel : Nat) → Layout → Text → Option (List Token)
  | 0, _, _ => none
  | fuel + 1, l, t => do
      let blanks := t.takeWhile isSpace
      let t := t.drop blanks.length
      let isBare := t.head?.all fun b => isLineEnd b || b = 35 || b = 0
      let isIndented := l.atLineStart && l.depth = 0 && !isBare
      let l ← if isIndented then l.indent? (column blanks) else some l
      let t := if t.head? = some 35 then t.dropWhile fun b => !isLineEnd b && b ≠ 0 else t
      match t with
      | [] => some l.finish
      | 0 :: _ => some l.finish
      | b :: rest =>
          if isLineEnd b then
            let counts := l.depth = 0 && !(l.atLineStart && isBare)
            let done := if counts then .newline :: l.done else l.done
            loop fuel { l with done, atLineStart := true } (dropLineEnd t)
          else if b = 92 then
            if rest.head?.any isLineEnd then
              loop fuel { l with atLineStart := false } (dropLineEnd rest)
            else none
          else
            let (token, rest) ← next? fuel t
            let depth ← match token with
              | .symbol s => depthAfter l.depth s
              | _ => some l.depth
            loop fuel ({ l with depth }.push token) rest

def scan? (t : Text) : Option (List Token) := scan?.loop (t.length + 1) ⟨0, [], true, []⟩ t

end Tandem.Expr.Token

import Tandem.Text.Numeral
import Tandem.Text.Utf8

set_option autoImplicit false

/-!
Quoted texts in TOML: with double quotes, where a backslash starts an escape, or with single quotes,
where everything stands for itself. Either kind has a long form with three quotes, which may go over
lines and may hold up to two quotes in a row, also at its end.
-/

namespace Tandem.Toml.Quoted

def doubleQuote : UInt8 := 34

def singleQuote : UInt8 := 39

def backslash : UInt8 := 92

/-! ### Finding the end -/

/-- Splits at the quote that ends a short text; `done` holds the bytes before, last first. Newlines
are not allowed. -/
def short? (quote : UInt8) (done : Text) : Text → Option (Text × Text)
  | [] => none
  | b :: rest =>
      if b = quote then some (done.reverse, rest)
      else if b = 10 || b = 13 then none
      else if b = backslash && quote = doubleQuote then
        match rest with
        | [] => none
        | c :: rest =>
            if c = 10 || c = 13 then none else short? quote (c :: b :: done) rest
      else short? quote (b :: done) rest

/-- Splits at the three quotes that end a long text. Quotes right before these belong to it, up to
two of them; one more may follow a backslash that is escaped. -/
def long? (quote : UInt8) : (fuel : Nat) → (done : Text) → Text → Option (Text × Text)
  | 0, _, _ => none
  | _, _, [] => none
  | fuel + 1, done, b :: rest =>
      if b = quote then
        let count := ((b :: rest).takeWhile (· = quote)).length
        if count < 3 then long? quote fuel (b :: done) rest
        else
          let most := if quote = doubleQuote && done.head? = some backslash then 6 else 5
          if most < count then none
          else some ((List.replicate (count - 3) quote ++ done).reverse, (b :: rest).drop count)
      else if b = backslash && quote = doubleQuote then
        match rest with
        | [] => none
        | c :: rest => long? quote fuel (c :: b :: done) rest
      else long? quote fuel (b :: done) rest

/-! ### Escapes -/

private def simpleEscapes : List (UInt8 × UInt8) :=
  [(98, 8), (116, 9), (110, 10), (102, 12), (114, 13), (34, 34), (92, 92)]

/-- A character from the hexadecimal digits of its code. -/
private def codePoint? (digits : Text) : Option Text := do
  let c ← Numeral.natural? 16 digits
  if c < 0xD800 || (0xE000 ≤ c && c ≤ 0x10FFFF) then some (Text.ofCodePoint c) else none

/-- Replaces escapes; `done` holds the bytes before, last first. -/
def unescape? : (fuel : Nat) → (done : Text) → Text → Option Text
  | 0, _, _ => none
  | _, done, [] => some done.reverse
  | fuel + 1, done, b :: rest =>
      if b ≠ backslash then unescape? fuel (b :: done) rest
      else match rest with
        | [] => none
        | c :: rest =>
            if c = 117 || c = 85 then do
              let width := if c = 117 then 4 else 8
              if rest.length < width then none
              let character ← codePoint? (rest.take width)
              unescape? fuel (character.reverse ++ done) (rest.drop width)
            else do
              let byte ← simpleEscapes.lookup c
              unescape? fuel (byte :: done) rest

private def isSpace (b : UInt8) : Bool := b = 32 || b = 9 || b = 10 || b = 13

/-- Takes out each backslash at the end of a line, with all blanks and newlines after it. -/
def joinLines : (fuel : Nat) → (done : Text) → Text → Text
  | 0, done, _ => done.reverse
  | _, done, [] => done.reverse
  | fuel + 1, done, b :: rest =>
      if b ≠ backslash then joinLines fuel (b :: done) rest
      else match rest with
        | 92 :: rest => joinLines fuel (92 :: 92 :: done) rest
        | _ =>
            let blank := rest.takeWhile isSpace
            if blank.contains 10 then joinLines fuel done (rest.drop blank.length)
            else joinLines fuel (b :: done) rest

/-- A newline right after the opening quotes does not count. -/
def dropFirstNewline : Text → Text
  | 10 :: rest => rest
  | 13 :: 10 :: rest => rest
  | t => t

/-! ### Reading -/

/-- Reads a short text after its opening quote. -/
def readShort? (quote : UInt8) (t : Text) : Option (Text × Text) := do
  let (inside, rest) ← short? quote [] t
  if quote = singleQuote then pure (inside, rest)
  else pure (← unescape? (inside.length + 1) [] inside, rest)

/-- Reads a long text after its three opening quotes. -/
def readLong? (quote : UInt8) (t : Text) : Option (Text × Text) := do
  let (inside, rest) ← long? quote (t.length + 1) [] t
  let inside := dropFirstNewline inside
  if quote = singleQuote then pure (inside, rest)
  else
    let joined := joinLines (inside.length + 1) [] inside
    pure (← unescape? (joined.length + 1) [] joined, rest)

/-- Reads a quoted text of either length after its first quote. -/
def read? (quote : UInt8) (t : Text) : Option (Text × Text) :=
  match t with
  | a :: b :: rest => if a = quote && b = quote then readLong? quote rest else readShort? quote t
  | _ => readShort? quote t

end Tandem.Toml.Quoted

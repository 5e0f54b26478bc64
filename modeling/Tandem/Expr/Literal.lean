import Tandem.Expr.Token
import Tandem.Text.Numeral
import Tandem.Text.Utf8

set_option autoImplicit false

/-!
Numbers and strings of the expression language, from their texts. Each function takes a text that
starts with a literal and gives the token and what follows it; it fails if the literal is malformed.
-/

namespace Tandem.Expr.Token

/-! ### Numbers -/

private def digitsOf (base : Nat) (t : Text) : Text :=
  t.takeWhile fun b => (Numeral.digitValue? b).any (· < base)

/-- Reads the exponent after `e`, up to the end of its digits. -/
private def exponent? (t : Text) : Option (Int × Text) :=
  let (negative, rest) : Bool × Text := match t with
    | 45 :: rest => (true, rest)
    | 43 :: rest => (false, rest)
    | _ => (false, t)
  let digits := digitsOf 10 rest
  (Numeral.natural? 10 digits).map fun n =>
    (if negative then -(n : Int) else n, rest.drop digits.length)

/-- A float with the given digits before and after its point. -/
private def float? (whole fraction rest : Text) : Option (Token × Text) := do
  let mantissa ← Numeral.natural? 10 (whole ++ fraction)
  let (exponent, rest) ← match rest with
    | b :: after => if b = 101 || b = 69 then exponent? after else some (0, rest)
    | [] => some (0, rest)
  let x ← Numeral.float? mantissa (exponent - fraction.length)
  pure (.float x, rest)

/-- An integer in base 2 or 8, limited to signed 64 bits, or in base 16. -/
private def based? (base : Nat) (t : Text) : Option (Token × Text) := do
  let digits := digitsOf base t
  let n ← Numeral.natural? base digits
  if base = 16 || n < UInt64.size / 2 then pure (.int n, t.drop digits.length) else none

/-- A number. Decimal integers have no leading zeros, except that zero may be written with any
number of them. -/
def number? (t : Text) : Option (Token × Text) :=
  let whole := digitsOf 10 t
  let rest := t.drop whole.length
  let decimal : Option (Token × Text) :=
    match rest with
    | 46 :: after =>
        let fraction := digitsOf 10 after
        float? whole fraction (after.drop fraction.length)
    | b :: _ => if b = 101 || b = 69 then float? whole [] rest else integer
    | [] => integer
  match t with
  | 48 :: x :: after =>
      if x = 120 || x = 88 then based? 16 after
      else if x = 111 || x = 79 then based? 8 after
      else if x = 98 || x = 66 then based? 2 after
      else decimal
  | _ => decimal
where
  integer : Option (Token × Text) :=
    let whole := digitsOf 10 t
    if whole.head? = some 48 && whole.any (· ≠ 48) then none
    else (Numeral.natural? 10 whole).map fun n => (.int n, t.drop whole.length)

/-! ### Strings -/

/-- The body of a string up to its closing quotes, of which there are three if it is `long`. `body`
holds what has been read, last byte first, and `quotes` how many quotes it ends with. -/
def body? (quote : UInt8) (long : Bool) :
    (fuel : Nat) → (body : Text) → (quotes : Nat) → Text → Option (Text × Text)
  | 0, _, _, _ => none
  | _, _, _, [] => none
  | fuel + 1, body, quotes, t@(b :: rest) =>
      if b = quote then
        if !long then some (body.reverse, rest)
        else if quotes = 2 then some ((body.drop 2).reverse, rest)
        else body? quote long fuel (b :: body) (quotes + 1) rest
      else if b = 10 || b = 13 then
        let rest := if b = 13 && rest.head? = some 10 then rest.tail else rest
        if long then body? quote long fuel (10 :: body) 0 rest else none
      else if b = 92 then
        match rest with
        | [] => none
        | 13 :: 10 :: rest => body? quote long fuel (10 :: 92 :: body) 0 rest
        | 13 :: rest => body? quote long fuel (10 :: 92 :: body) 0 rest
        | c :: others =>
            if c < 0x80 then body? quote long fuel (c :: 92 :: body) 0 others
            else
              let (point, n) := (Text.next? rest).getD (Text.replacement, 1)
              body? quote long fuel ((Text.ofCodePoint point).reverse ++ 92 :: body) 0 (rest.drop n)
      else if b < 0x80 then body? quote long fuel (b :: body) 0 rest
      else
        let (point, n) := (Text.next? t).getD (Text.replacement, 1)
        body? quote long fuel ((Text.ofCodePoint point).reverse ++ body) 0 (t.drop n)

private def simpleEscapes : List (UInt8 × UInt8) :=
  [(97, 7), (98, 8), (102, 12), (110, 10), (114, 13), (116, 9), (118, 11), (92, 92), (39, 39),
   (34, 34)]

/-- The value of exactly `n` hexadecimal digits at the start of a text. -/
private def hex? (n : Nat) (t : Text) : Option Nat :=
  let digits := t.take n
  if digits.length = n then Numeral.natural? 16 digits else none

/-- Replaces the escapes of a string; only a byte string may have octal and hexadecimal escapes
beyond ASCII. `done` holds the result, last byte first. -/
def unescape? (isBytes : Bool) : (fuel : Nat) → (done : Text) → Text → Option Text
  | 0, _, _ => none
  | _, done, [] => some done.reverse
  | fuel + 1, done, 92 :: rest =>
      match rest with
      | [] => none
      | 10 :: rest => unescape? isBytes fuel done rest
      | 120 :: rest => do
          let n ← hex? 2 rest
          if !isBytes && 127 < n then none
          else unescape? isBytes fuel (n.toUInt8 :: done) (rest.drop 2)
      | c :: rest =>
          if c = 117 || c = 85 then do
            let width := if c = 117 then 4 else 8
            let n ← hex? width rest
            if 0x10FFFF < n || (0xD800 ≤ n && n < 0xE000) then none
            else unescape? isBytes fuel ((Text.ofCodePoint n).reverse ++ done) (rest.drop width)
          else if 48 ≤ c && c ≤ 55 then do
            let digits := digitsOf 8 ((c :: rest).take 3)
            let n ← Numeral.natural? 8 digits
            if (!isBytes && 127 < n) || 256 ≤ n then none
            else unescape? isBytes fuel (n.toUInt8 :: done) ((c :: rest).drop digits.length)
          else match simpleEscapes.lookup c with
            | some b => unescape? isBytes fuel (b :: done) rest
            | none => none
  | fuel + 1, done, b :: rest => unescape? isBytes fuel (b :: done) rest

/-- A string, from its opening quote on. -/
def string? (raw isBytes : Bool) (t : Text) : Option (Token × Text) := do
  let quote ← t.head?
  let long := t.take 3 = [quote, quote, quote]
  let start := t.drop (if long then 3 else 1)
  let (body, rest) ← body? quote long (start.length + 1) [] 0 start
  let content ← if raw then some body else unescape? isBytes (body.length + 1) [] body
  pure (if isBytes then .bytes content else .str content, rest)

private def isQuote (b : UInt8) : Bool := b = 34 || b = 39

/-- A string with its marks `r` and `b`, if the text starts with one. -/
def markedString? (t : Text) : Option (Option (Token × Text)) :=
  match t with
  | 114 :: 98 :: q :: _ => if isQuote q then some (string? true true (t.drop 2)) else none
  | 114 :: q :: _ => if isQuote q then some (string? true false (t.drop 1)) else none
  | 98 :: q :: _ => if isQuote q then some (string? false true (t.drop 1)) else none
  | q :: _ => if isQuote q then some (string? false false t) else none
  | [] => none

end Tandem.Expr.Token

set_option autoImplicit false

/-!
Byte texts. Sources, words and names are sequences of bytes that need not be valid UTF-8, so a
text is a list of bytes, and a string stands for its UTF-8 encoding.

`decimal` writes integers without leading zeros, with a minus sign below zero.
-/

namespace Tandem

abbrev Text := List UInt8

namespace Text

def ofString (s : String) : Text := s.toList.flatMap String.utf8EncodeChar

instance : Coe String Text := ⟨ofString⟩

/-- The UTF-8 encoding of one code point. -/
def ofCodePoint (n : Nat) : Text := String.utf8EncodeChar (Char.ofNat n)

def digit (d : Nat) : UInt8 := (48 + d).toUInt8

def ofNat (n : Nat) : Text :=
  if n < 10 then [digit n] else ofNat (n / 10) ++ [digit (n % 10)]

def decimal (n : Int) : Text :=
  if n < 0 then 45 :: ofNat n.natAbs else ofNat n.natAbs

/-- Decimal digits, padded on the left with zeros to the given width. -/
def ofNatPadded (width n : Nat) : Text :=
  List.replicate (width - (ofNat n).length) 48 ++ ofNat n

/-- The texts one after another, with the separator between neighbours. -/
def join (separator : Text) (ts : List Text) : Text := List.intercalate separator ts

def concat (ts : List Text) : Text := ts.flatten

def startsWith (t start : Text) : Bool := start.isPrefixOf t

def endsWith (t ending : Text) : Bool := ending.isSuffixOf t

/-- The parts before and after the first occurrence of a byte, if it occurs. -/
def cut (b : UInt8) : Text → Option (Text × Text)
  | [] => none
  | c :: rest =>
      if c = b then some ([], rest)
      else (cut b rest).map fun (before, after) => (c :: before, after)

/-- Lexicographic order of bytes; a text comes before its extensions. -/
def le : Text → Text → Bool
  | [], _ => true
  | _ :: _, [] => false
  | a :: s, b :: t => if a = b then le s t else decide (a < b)

/-- Whether a number lies in one of some ranges, given by their first and last members. -/
def inRanges (ranges : List (Nat × Nat)) (n : Nat) : Bool :=
  ranges.any fun (first, last) => first ≤ n && n ≤ last

def isDigit (b : UInt8) : Bool := 48 ≤ b && b ≤ 57

def isUpper (b : UInt8) : Bool := 65 ≤ b && b ≤ 90

def isLower (b : UInt8) : Bool := 97 ≤ b && b ≤ 122

def isLetter (b : UInt8) : Bool := isUpper b || isLower b

/-- Lower-cases the ASCII letters and keeps all other bytes. -/
def lower (t : Text) : Text := t.map fun b => if isUpper b then b + 32 else b

/-- Upper-cases the ASCII letters and keeps all other bytes. -/
def upper (t : Text) : Text := t.map fun b => if isLower b then b - 32 else b

end Text

end Tandem

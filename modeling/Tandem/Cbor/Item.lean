import Tandem.Text.Utf8

set_option autoImplicit false

/-!
CBOR data items and their encoding. Every item is written with the shortest head; `mapOf` puts the
entries of a map into canonical order, by length of the encoded key and then by its bytes.

A string is kept in the chunks that it was written in; the encoder writes one chunk.
-/

namespace Tandem.Cbor

inductive Item where
  | unsigned (n : Nat)
  /-- The number `-1 - n`. -/
  | negative (n : Nat)
  | bytes (chunks : List Text)
  | text (chunks : List Text)
  | array (items : List Item)
  | map (entries : List (Item × Item))
  | tag (number : Nat) (content : Item)
  | simple (code : Nat)
  | float (content : Text)

namespace Item

def ofText (t : Text) : Item := .text [t]

def false : Item := .simple 20

def true : Item := .simple 21

def null : Item := .simple 22

def ofBool (b : Bool) : Item := if b then true else false

def ofInt (n : Int) : Item :=
  if n < 0 then .negative (-1 - n).toNat else .unsigned n.toNat

end Item

/-- The last `width` bytes of a number, most significant first. -/
def bigEndian : (width : Nat) → Nat → Text
  | 0, _ => []
  | width + 1, n => bigEndian width (n / 256) ++ [n.toUInt8]

/-- The head of an item: its major type and an argument below 2^64, in the shortest form. -/
def head (major : Nat) (n : Nat) : Text :=
  let initial (info : Nat) : UInt8 := (major * 32 + info).toUInt8
  if n < 24 then [initial n]
  else if n < 256 then initial 24 :: bigEndian 1 n
  else if n < 65536 then initial 25 :: bigEndian 2 n
  else if n < 4294967296 then initial 26 :: bigEndian 4 n
  else initial 27 :: bigEndian 8 n

mutual

def Item.encode : Item → Text
  | .unsigned n => head 0 n
  | .negative n => head 1 n
  | .bytes chunks => head 2 (Text.concat chunks).length ++ Text.concat chunks
  | .text chunks => head 3 (Text.concat chunks).length ++ Text.concat chunks
  | .array items => head 4 items.length ++ encodeItems items
  | .map entries => head 5 entries.length ++ encodeEntries entries
  | .tag number content => head 6 number ++ content.encode
  | .simple code => if code < 24 then head 7 code else [0xF8, code.toUInt8]
  | .float content => (0xE0 + 24 + content.length.log2).toUInt8 :: content

def encodeItems : List Item → Text
  | [] => []
  | item :: rest => item.encode ++ encodeItems rest

def encodeEntries : List (Item × Item) → Text
  | [] => []
  | (key, value) :: rest => key.encode ++ value.encode ++ encodeEntries rest

end

/-- Shorter texts first, and texts of one length by their bytes. -/
def canonicalLe (s t : Text) : Bool :=
  s.length < t.length || s.length == t.length && Text.le s t

def Item.mapOf (entries : List (Text × Item)) : Item :=
  let keyed := entries.map fun (key, value) => (Item.ofText key, value)
  .map (keyed.mergeSort fun a b => canonicalLe a.1.encode b.1.encode)

end Tandem.Cbor

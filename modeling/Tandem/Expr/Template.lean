import Tandem.Expr.Argument
import Tandem.Expr.Render

set_option autoImplicit false

/-!
Templates and what fills them in: conversions such as `%d` and `%s`, and
replacement fields in braces.
-/

namespace Tandem.Expr.Value

/-! ### Conversions -/

def toFloat? : Value → Option Float
  | .int n => some (Float.ofInt n)
  | .float x => some x
  | _ => Option.none

/-- The character of a code point; a surrogate has none. -/
def codePoint? (n : Int) : Option Text :=
  if n < 0 || 0x10FFFF < n then Option.none
  else some (Text.ofCodePoint (if 0xD800 ≤ n && n < 0xE000 then Text.replacement else n.toNat))

/-- The text of a value under a conversion letter. -/
def convert? (s : Store) (conversion : UInt8) (x : Value) : Option Text :=
  let signed (base : Nat) : Option Text :=
    x.toInt?.map fun n => (if n < 0 then [45] else []) ++ Text.inBase base 1 n.natAbs
  match conversion with
  | 115 => some (x.text s)
  | 114 => some (x.repr s)
  | 100 | 105 => x.toInt?.map Text.decimal
  | 111 => signed 8
  | 120 => signed 16
  | 88 => (signed 16).map Text.upper
  | 101 | 102 | 103 | 69 | 70 | 71 => x.toFloat?.map (FloatText.render conversion)
  | 99 =>
      match x with
      | .int n => codePoint? n
      | .str t =>
          match Text.characters t with
          | [c] => some (Text.ofCodePoint c)
          | _ => Option.none
      | _ => Option.none
  | 37 => some [37]
  | _ => Option.none

/-- What fills in conversions: the values that are taken in turn, and the table for
those that name a key. -/
structure Operands where
  values : List Value
  table : Option Dict

/-- Fills in a template: `%%` is a percent sign, `%(key)` takes the value of a key of a table, and
any other conversion takes the next value. All values must be used, unless there is a table. -/
def interpolate?.loop (s : Store) (operands : Operands) : (fuel used : Nat) → Text → Option Text
  | 0, _, _ => Option.none
  | _, used, [] =>
      if used < operands.values.length && operands.table.isNone then Option.none else some []
  | fuel + 1, used, b :: rest =>
      if b ≠ 37 then (loop s operands fuel used rest).map (b :: ·)
      else match rest with
        | 37 :: rest => (loop s operands fuel used rest).map (37 :: ·)
        | 40 :: rest => do
            let (key, rest) ← Text.cut 41 rest
            let table ← operands.table
            let value ← (table.find? (.str key)).join
            let conversion ← rest.head?
            let text ← convert? s conversion value
            (loop s operands fuel (used + 1) rest.tail).map (text ++ ·)
        | conversion :: rest => do
            let value ← operands.values[used]?
            let text ← convert? s conversion value
            (loop s operands fuel (used + 1) rest).map (text ++ ·)
        | [] => Option.none

/-- Fills in a template with the items of a tuple, or with one value. -/
def interpolate? (s : Store) (template : Text) (x : Value) : Option Text :=
  let operands : Operands := match x with
    | .tuple items => ⟨items, Option.none⟩
    | .dict place => ⟨[x], some (s.dict place)⟩
    | _ => ⟨[x], Option.none⟩
  interpolate?.loop s operands (template.length + 1) 0 template

/-! ### Replacement fields -/

/-- A replacement field: its name, and the letter that says how its value is written. What comes
after a colon must be empty. -/
private def field? (t : Text) : Option (Text × Text) := do
  let (name, conversion, spec) := match Text.cut 33 t with
    | some (name, rest) =>
        let (conversion, spec) := (Text.cut 58 rest).getD (rest, [])
        (name, conversion, spec)
    | Option.none =>
        let (name, spec) := (Text.cut 58 t).getD (t, [])
        (name, [115], spec)
  if spec.isEmpty then some (name, conversion) else Option.none

/-- Whether fields are numbered by their place or by the numbers in them. -/
private inductive Numbering where
  | open
  | counted (next : Nat)
  | numbered

/-- A number of decimal digits; its digits are added up in 64 bits, and a sum that falls below zero
on the way makes it none. -/
private def decimal? (t : Text) : Option Nat :=
  (t.foldlM (fun (n : Int64) b =>
    let sum := n * 10 + Int64.ofNat (b.toNat - 48)
    if Text.isDigit b && 0 ≤ sum then some sum else Option.none) 0).map fun n => n.toInt.toNat

/-- The value of a replacement field. -/
private def fieldValue? (a : Arguments) (numbering : Numbering) (name : Text) :
    Option (Value × Numbering) :=
  if name.isEmpty then
    match numbering with
    | .numbered => Option.none
    | .open => a.plain[0]?.map (·, .counted 1)
    | .counted i => a.plain[i]?.map (·, .counted (i + 1))
  else match decimal? name with
    | some i =>
        match numbering with
        | .counted _ => Option.none
        | _ => a.plain[i]?.map (·, .numbered)
    | Option.none => (a.named.lookup name).map (·, numbering)

private def fill? (s : Store) (a : Arguments) :
    (fuel : Nat) → Numbering → (done : Text) → Text → Option Text
  | 0, _, _, _ => Option.none
  | _, _, done, [] => some done.reverse
  | fuel + 1, numbering, done, b :: rest =>
      if b = 123 then
        match rest with
        | 123 :: rest => fill? s a fuel numbering (123 :: done) rest
        | _ => do
            let (inside, rest) ← Text.cut 125 rest
            let (name, conversion) ← field? inside
            let (value, numbering) ← fieldValue? a numbering name
            let text ← match conversion with
              | [115] => some (value.text s)
              | [114] => some (value.repr s)
              | _ => Option.none
            fill? s a fuel numbering (text.reverse ++ done) rest
      else if b = 125 then
        match rest with
        | 125 :: rest => fill? s a fuel numbering (125 :: done) rest
        | _ => Option.none
      else fill? s a fuel numbering (b :: done) rest

/-- Fills in the replacement fields of a template; doubled braces stand for single ones. -/
def format? (s : Store) (t : Text) (a : Arguments) : Option Text :=
  fill? s a (t.length + 1) .open [] t

end Tandem.Expr.Value

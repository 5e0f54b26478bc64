import Tandem.Report.Basic

set_option autoImplicit false

/-!
Reading reports from CBOR. A null leaves a field as it is, and so do keys that name no field. A name
in another letter case stands for a field if the field has not been given before; of several values
for one field the first counts. Any value of another type than its field makes the report
unreadable, and so does an integer outside the range of its field.
-/

namespace Tandem

open Cbor

namespace Cbor.Item

def ofBignum (chunks : List Text) : Nat := ofBigEndian (Text.concat chunks)

/-- The content of nested tags. A date must be a text, a time a number, and a big number that fits
64 bits counts as an integer; other tags say nothing here. -/
def untagged? : Item → Option Item
  | .tag number content =>
      if number = 0 then
        match content with
        | .text _ => content.untagged?
        | _ => none
      else if number = 1 then
        match content with
        | .unsigned _ | .negative _ | .float _ => content.untagged?
        | _ => none
      else if number = 2 then
        match content with
        | .bytes chunks =>
            if ofBignum chunks < UInt64.size then some (.unsigned (ofBignum chunks)) else none
        | _ => none
      else if number = 3 then
        match content with
        | .bytes chunks =>
            if ofBignum chunks < UInt64.size / 2 then some (.negative (ofBignum chunks)) else none
        | _ => none
      else content.untagged?
  | item => some item

/-- An integer; a simple value without a meaning of its own counts as its code. -/
def toInt? : Item → Option Int
  | .unsigned n => some n
  | .negative n => some (-1 - n)
  | .simple code => if 20 ≤ code && code ≤ 23 then none else some code
  | _ => none

def isNull : Item → Bool
  | .simple code => code = 22 || code = 23
  | _ => Bool.false

/-- A text whose chunks are UTF-8. -/
def toText? : Item → Option Text
  | .text chunks => if chunks.all Text.isUtf8 then some (Text.concat chunks) else none
  | _ => none

def toBool? : Item → Option Bool
  | .simple 20 => some Bool.false
  | .simple 21 => some Bool.true
  | _ => none

end Cbor.Item

namespace Report

/-- Reads a value in place of `old`, which a null leaves as it is. -/
def readOr {α : Type} (read? : Item → Option α) (old : α) (item : Item) : Option α := do
  let item ← item.untagged?
  if item.isNull then pure old else read? item

def int64? (item : Item) : Option Int64 := do
  let n ← item.toInt?
  if Int64.minValue.toInt ≤ n ∧ n ≤ Int64.maxValue.toInt then pure (Int64.ofInt n) else none

def uint64? (item : Item) : Option UInt64 := do
  let n ← item.toInt?
  if 0 ≤ n ∧ n < UInt64.size then pure (UInt64.ofNat n.toNat) else none

def list? {α : Type} (zero : α) (read? : Item → Option α) : Item → Option (Option (List α))
  | .array items => (items.mapM (readOr read? zero)).map some
  | _ => none

/-- Reads the entries of a table after the entry `last`, whose key or value a null repeats. -/
def tableFrom? (table : Table Int64) (last : Text × Int64) :
    List (Item × Item) → Option (Table Int64)
  | [] => some table
  | (key, value) :: rest => do
      let key ← readOr Item.toText? last.1 key
      let value ← readOr int64? last.2 value
      tableFrom? (table.insert key value) (key, value) rest

def table? : Item → Option (Option (Table Int64))
  | .map entries => (tableFrom? .empty ([], 0) entries).map some
  | _ => none

/-- A field of a record: its name, and how a value for it is put into the record. -/
abbrev Field (ρ : Type) := String × (ρ → Item → Option ρ)

/-- The field that a key names, and the other ones: if there is none of this very name, the first
of this name in any letter case. -/
def field? {ρ : Type} (fields : List (Field ρ)) (key : Text) :
    Option ((ρ → Item → Option ρ) × List (Field ρ)) :=
  let named (same : Text → Bool) : Option ((ρ → Item → Option ρ) × List (Field ρ)) :=
    (fields.find? fun field => same field.1).map fun field =>
      (field.2, fields.filter fun other => other.1 != field.1)
  (named (· = key)).or (named fun name => Text.lower name = Text.lower key)

/-- Reads the entries of a record for the fields that have not been given yet. -/
def recordFrom? {ρ : Type} (fields : List (Field ρ)) (record : ρ) :
    List (Item × Item) → Option ρ
  | [] => some record
  | (.text chunks, value) :: rest => do
      let key ← (Item.text chunks).toText?
      match field? fields key with
      | none => recordFrom? fields record rest
      | some (read?, others) =>
          let record ← read? record value
          recordFrom? others record rest
  | _ :: rest => recordFrom? fields record rest

def record? {ρ : Type} (fields : List (Field ρ)) (zero : ρ) : Item → Option ρ
  | .map entries => recordFrom? fields zero entries
  | _ => none

def instanceFields : List (Field InstanceReport) :=
  [("id", fun r item => (readOr int64? r.id item).map ({ r with id := · })),
   ("pc", fun r item => (readOr int64? r.pc item).map ({ r with pc := · })),
   ("state", fun r item => (readOr Item.toText? r.state item).map ({ r with state := · })),
   ("terminated", fun r item =>
     (readOr Item.toBool? r.terminated item).map ({ r with terminated := · })),
   ("blocked", fun r item => (readOr Item.toBool? r.blocked item).map ({ r with blocked := · })),
   ("sent", fun r item => (readOr uint64? r.sent item).map ({ r with sent := · })),
   ("received", fun r item => (readOr uint64? r.received item).map ({ r with received := · })),
   ("ticks", fun r item => (readOr int64? r.ticks item).map ({ r with ticks := · })),
   ("pending", fun r item =>
     (readOr (list? 0 int64?) r.pending item).map ({ r with pending := · })),
   ("registers", fun r item => (readOr table? r.registers item).map ({ r with registers := · }))]

def fields : List (Field Report) :=
  [("halt", fun r item => (readOr Item.toText? r.halt item).map ({ r with halt := · })),
   ("cycles", fun r item => (readOr int64? r.cycles item).map ({ r with cycles := · })),
   ("steps", fun r item => (readOr int64? r.steps item).map ({ r with steps := · })),
   ("instances", fun r item =>
     (readOr (list? {} (record? instanceFields {})) r.instances item).map
       ({ r with instances := · }))]

def ofItem? (item : Item) : Option Report := readOr (record? fields {}) {} item

def decode? (t : Text) : Option Report := (Cbor.decode? t).bind ofItem?

end Report

end Tandem

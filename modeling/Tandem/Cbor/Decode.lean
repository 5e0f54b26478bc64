import Tandem.Cbor.Item

set_option autoImplicit false

/-!
Reading CBOR. `decode?` accepts a text that is exactly one well-formed data item; lengths may be
indefinite. Arrays and maps may have up to 131072 elements and may be nested 32 deep.
-/

namespace Tandem.Cbor

def elementLimit : Nat := 131072

def depthLimit : Nat := 32

def ofBigEndian (t : Text) : Nat := t.foldl (fun n b => n * 256 + b.toNat) 0

/-- The argument of a head. -/
inductive Argument where
  | value (n : Nat)
  /-- The argument is written out in this many bytes and may stand for a float. -/
  | wide (content : Text)
  | indefinite

def Argument.toNat? : Argument → Option Nat
  | .value n => some n
  | .wide content => some (ofBigEndian content)
  | .indefinite => none

/-- The first `n` bytes and the rest, if there are so many. -/
def take? (n : Nat) (t : Text) : Option (Text × Text) :=
  let first := t.take n
  if first.length = n then some (first, t.drop n) else none

/-- The major type and argument at the start of a text. -/
def head? : Text → Option (Nat × Argument × Text)
  | [] => none
  | b :: rest =>
      let major := b.toNat / 32
      let info := b.toNat % 32
      let wide (width : Nat) : Option (Nat × Argument × Text) :=
        (take? width rest).map fun (content, rest) => (major, .wide content, rest)
      if info < 24 then some (major, .value info, rest)
      else if info = 24 then wide 1
      else if info = 25 then wide 2
      else if info = 26 then wide 4
      else if info = 27 then wide 8
      else if info = 31 then some (major, .indefinite, rest)
      else none

/-- Chunks of a string of indefinite length, up to the break. Each is a string of the same major
type and of definite length. -/
def chunks? (major : Nat) :
    (fuel : Nat) → (seen : List Text) → Text → Option (List Text × Text)
  | 0, _, _ => none
  | fuel + 1, seen, t =>
      if t.head? = some 0xFF then some (seen.reverse, t.tail)
      else do
        let (m, argument, rest) ← head? t
        let n ← argument.toNat?
        if m = major then
          let (chunk, rest) ← take? n rest
          chunks? major fuel (chunk :: seen) rest
        else none

def pairUp : List Item → Option (List (Item × Item))
  | [] => some []
  | [_] => none
  | key :: value :: rest => (pairUp rest).map ((key, value) :: ·)

mutual

/-- The item at the start of a text, `depth` arrays, maps or tags down. -/
def item? : (fuel depth : Nat) → Text → Option (Item × Text)
  | 0, _, _ => none
  | fuel + 1, depth, t => do
      let (major, argument, rest) ← head? t
      match major with
      | 0 => argument.toNat?.map fun n => (.unsigned n, rest)
      | 1 => argument.toNat?.map fun n => (.negative n, rest)
      | 2 | 3 =>
          let (chunks, rest) ← match argument.toNat? with
            | some n => (take? n rest).map fun (chunk, rest) => ([chunk], rest)
            | none => chunks? major (rest.length + 1) [] rest
          pure (if major = 2 then (.bytes chunks, rest) else (.text chunks, rest))
      | 4 =>
          if depthLimit ≤ depth then none
          else
            let (items, rest) ← match argument.toNat? with
              | some n => if elementLimit < n then none else items? fuel (depth + 1) n [] rest
              | none => itemsToBreak? fuel (depth + 1) elementLimit [] rest
            pure (.array items, rest)
      | 5 =>
          if depthLimit ≤ depth then none
          else
            let (items, rest) ← match argument.toNat? with
              | some n => if elementLimit < n then none else items? fuel (depth + 1) (2 * n) [] rest
              | none => itemsToBreak? fuel (depth + 1) (2 * elementLimit + 1) [] rest
            let entries ← pairUp items
            pure (.map entries, rest)
      | 6 =>
          let number ← argument.toNat?
          let isNested := rest.head?.any fun b => b.toNat / 32 = 6
          let depth := if isNested then depth + 1 else depth
          if depthLimit < depth then none
          else
            let (content, rest) ← item? fuel depth rest
            pure (.tag number content, rest)
      | _ =>
          match argument with
          | .value n => pure (.simple n, rest)
          | .wide [b] => if b.toNat < 32 then none else pure (.simple b.toNat, rest)
          | .wide content => pure (.float content, rest)
          | .indefinite => none

/-- The next `n` items, after the ones seen, last first. -/
def items? : (fuel depth n : Nat) → (seen : List Item) → Text → Option (List Item × Text)
  | 0, _, _, _, _ => none
  | _ + 1, _, 0, seen, t => some (seen.reverse, t)
  | fuel + 1, depth, n + 1, seen, t =>
      match item? fuel depth t with
      | none => none
      | some (item, rest) => items? fuel depth n (item :: seen) rest

/-- Up to `n` items and the break after them. -/
def itemsToBreak? :
    (fuel depth n : Nat) → (seen : List Item) → Text → Option (List Item × Text)
  | 0, _, _, _, _ => none
  | fuel + 1, depth, n, seen, t =>
      if t.head? = some 0xFF then some (seen.reverse, t.tail)
      else match n with
        | 0 => none
        | n + 1 =>
            match item? fuel depth t with
            | none => none
            | some (item, rest) => itemsToBreak? fuel depth n (item :: seen) rest

end

def decode? (t : Text) : Option Item :=
  match item? (3 * t.length + 3) 0 t with
  | some (item, []) => some item
  | _ => none

end Tandem.Cbor

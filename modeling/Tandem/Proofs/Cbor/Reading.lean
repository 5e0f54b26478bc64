import Tandem.Cbor.Decode

set_option autoImplicit false

/-!
Items are read back as they were written. This holds of all items whose numbers and lengths fit 64
bits, whose arrays and maps are within the limits, and whose texts have one chunk. The reader takes
exactly the bytes of the item and leaves what follows.

The fuel of the reader goes down by one for each item and by one for each element, so twice the
number of bytes is enough.
-/

namespace Tandem.Cbor

/-- Items that are written in full, with room for some levels of arrays and maps. -/
inductive Item.Fits : Nat → Item → Prop where
  | unsigned {room n : Nat} : n < UInt64.size → Fits room (.unsigned n)
  | negative {room n : Nat} : n < UInt64.size → Fits room (.negative n)
  | text {room : Nat} {t : Text} : t.length < UInt64.size → Fits room (.ofText t)
  | array {room : Nat} {items : List Item} : items.length ≤ elementLimit →
      (∀ item ∈ items, Fits room item) → Fits (room + 1) (.array items)
  | map {room : Nat} {entries : List (Item × Item)} : entries.length ≤ elementLimit →
      (∀ entry ∈ entries, Fits room entry.1) → (∀ entry ∈ entries, Fits room entry.2) →
      Fits (room + 1) (.map entries)
  | simple {room code : Nat} : code < 24 → Fits room (.simple code)

theorem Item.fits_ofInt (room : Nat) (n : Int64) : (Item.ofInt n.toInt).Fits room := by
  have least := Int64.le_toInt n
  have most := Int64.toInt_lt n
  unfold Item.ofInt
  split
  · exact .negative (by rw [UInt64.size]; omega)
  · exact .unsigned (by rw [UInt64.size]; omega)

theorem Item.fits_ofBool (room : Nat) (b : Bool) : (Item.ofBool b).Fits room := by
  cases b
  · exact .simple (by decide)
  · exact .simple (by decide)

/-! ### Heads -/

@[simp]
theorem length_bigEndian (width n : Nat) : (bigEndian width n).length = width := by
  induction width generalizing n with
  | zero => rfl
  | succ width inductionHypothesis => simp [bigEndian, inductionHypothesis]

theorem ofBigEndian_bigEndian {width n : Nat} (bounded : n < Nat.pow 256 width) :
    ofBigEndian (bigEndian width n) = n := by
  induction width generalizing n with
  | zero =>
      have zero : n < 1 := bounded
      rw [bigEndian, ofBigEndian, List.foldl_nil]
      omega
  | succ width inductionHypothesis =>
      have power : Nat.pow 256 (width + 1) = Nat.pow 256 width * 256 := rfl
      have front : n / 256 < Nat.pow 256 width := Nat.div_lt_of_lt_mul (by omega)
      have value := inductionHypothesis front
      unfold ofBigEndian at value ⊢
      rw [bigEndian, List.foldl_append, value]
      simp only [List.foldl_cons, List.foldl_nil, UInt8.toNat_ofNat']
      omega

@[simp]
theorem take?_append {n : Nat} {t : Text} (length : t.length = n) (rest : Text) :
    take? n (t ++ rest) = some (t, rest) := by
  subst length
  simp [take?]

/-- The bytes that follow the initial byte of a head with a long argument. -/
def width? (info : Nat) : Option Nat :=
  if info = 24 then some 1 else if info = 25 then some 2 else if info = 26 then some 4
  else if info = 27 then some 8 else none

theorem toNat_initial {major info : Nat} (known : major < 8) (short : info < 32) :
    (major * 32 + info).toUInt8.toNat = major * 32 + info := by
  simp only [Nat.toUInt8_eq, UInt8.toNat_ofNat']
  omega

theorem head?_short {major n : Nat} (known : major < 8) (small : n < 24) (rest : Text) :
    head? ((major * 32 + n).toUInt8 :: rest) = some (major, .value n, rest) := by
  have initial := toNat_initial known (show n < 32 by omega)
  have type : (major * 32 + n) / 32 = major := by omega
  have info : (major * 32 + n) % 32 = n := by omega
  simp only [head?, initial, type, info, if_pos small]

theorem head?_long {major info width : Nat} (known : major < 8) (long : width? info = some width)
    {content : Text} (length : content.length = width) (rest : Text) :
    head? ((major * 32 + info).toUInt8 :: (content ++ rest)) =
      some (major, .wide content, rest) := by
  have bounds : 24 ≤ info ∧ info < 28 := by
    unfold width? at long
    grind
  have initial := toNat_initial known (show info < 32 by omega)
  have type : (major * 32 + info) / 32 = major := by omega
  have same : (major * 32 + info) % 32 = info := by omega
  simp only [head?, initial, type, same, if_neg (show ¬ info < 24 by omega)]
  unfold width? at long
  grind [take?_append length rest]

theorem head?_wide {major info width n : Nat} (known : major < 8) (long : width? info = some width)
    (bounded : n < Nat.pow 256 width) (large : ¬ n < 24) (rest : Text) :
    ∃ argument, head? ((major * 32 + info).toUInt8 :: bigEndian width n ++ rest) =
        some (major, argument, rest) ∧
      argument.toNat? = some n ∧ (n < 24 → argument = .value n) := by
  refine ⟨.wide (bigEndian width n), ?_, ?_, ?_⟩
  · exact head?_long known long (length_bigEndian width n) rest
  · rw [Argument.toNat?, ofBigEndian_bigEndian bounded]
  · intro small
    contradiction

/-- The shortest form of every argument is read back. -/
theorem head?_head {major n : Nat} (known : major < 8) (bounded : n < UInt64.size) (rest : Text) :
    ∃ argument, head? (head major n ++ rest) = some (major, argument, rest) ∧
      argument.toNat? = some n ∧ (n < 24 → argument = .value n) := by
  unfold head
  split
  next small => exact ⟨.value n, head?_short known small rest, rfl, fun _ => rfl⟩
  next large =>
    split
    · exact head?_wide known rfl (by omega) large rest
    · split
      · exact head?_wide known rfl (by omega) large rest
      · split
        · exact head?_wide known rfl (by omega) large rest
        · exact head?_wide known rfl (by rw [UInt64.size] at bounded; omega) large rest

theorem length_head_pos (major n : Nat) : 0 < (head major n).length := by
  unfold head
  split
  · simp
  · split
    · simp
    · split
      · simp
      · split <;> simp

/-! ### Items -/

theorem Item.length_encode_pos (item : Item) : 0 < item.encode.length := by
  cases item with
  | unsigned n => exact length_head_pos 0 n
  | negative n => exact length_head_pos 1 n
  | simple code =>
      rw [Item.encode]
      split
      · exact length_head_pos 7 code
      · exact Nat.zero_lt_succ _
  | float content => exact Nat.zero_lt_succ _
  | _ =>
      rw [Item.encode, List.length_append]
      exact Nat.add_pos_left (length_head_pos _ _) _

/-- An item is read back from its encoding, given enough fuel. -/
def IsReadBack (depth : Nat) (item : Item) : Prop :=
  ∀ fuel rest, 2 * item.encode.length ≤ fuel + 1 →
    item? (fuel + 1) depth (item.encode ++ rest) = some (item, rest)

theorem isReadBack_unsigned {n : Nat} (bounded : n < UInt64.size) (depth : Nat) :
    IsReadBack depth (.unsigned n) := by
  intro fuel rest _
  obtain ⟨argument, headed, value, _⟩ := head?_head (show 0 < 8 by decide) bounded rest
  rw [Item.encode, item?, headed]
  simp only [bind, Option.bind, value, Option.map]

theorem isReadBack_negative {n : Nat} (bounded : n < UInt64.size) (depth : Nat) :
    IsReadBack depth (.negative n) := by
  intro fuel rest _
  obtain ⟨argument, headed, value, _⟩ := head?_head (show 1 < 8 by decide) bounded rest
  rw [Item.encode, item?, headed]
  simp only [bind, Option.bind, value, Option.map]

theorem isReadBack_text {t : Text} (addressable : t.length < UInt64.size) (depth : Nat) :
    IsReadBack depth (.ofText t) := by
  intro fuel rest _
  obtain ⟨argument, headed, value, _⟩ :=
    head?_head (show 3 < 8 by decide) addressable (t ++ rest)
  have whole : (Item.ofText t).encode ++ rest = head 3 t.length ++ (t ++ rest) := by
    simp [Item.ofText, Item.encode, Text.concat]
  rw [whole, item?, headed]
  simp only [bind, Option.bind, value, take?_append rfl, Option.map]
  rfl

theorem isReadBack_simple {code : Nat} (small : code < 24) (depth : Nat) :
    IsReadBack depth (.simple code) := by
  intro fuel rest _
  have bounded : code < UInt64.size := Nat.lt_trans small (by decide)
  obtain ⟨argument, headed, _, short⟩ := head?_head (show 7 < 8 by decide) bounded rest
  rw [Item.encode, if_pos small, item?, headed, short small]
  rfl

/-! ### Arrays -/

theorem items?_encodeItems {depth : Nat} {items : List Item}
    (readBack : ∀ item ∈ items, IsReadBack depth item) (fuel : Nat) (seen : List Item)
    (rest : Text) (enough : 2 * (encodeItems items).length ≤ fuel) :
    items? (fuel + 1) depth items.length seen (encodeItems items ++ rest) =
      some (seen.reverse ++ items, rest) := by
  induction items generalizing fuel seen with
  | nil => simp [items?, encodeItems]
  | cons item items inductionHypothesis =>
      have nonempty := item.length_encode_pos
      obtain ⟨first, others⟩ := List.forall_mem_cons.mp readBack
      simp only [encodeItems, List.length_append] at enough
      obtain ⟨fuel, rfl⟩ := Nat.exists_eq_succ_of_ne_zero (show fuel ≠ 0 by omega)
      rw [encodeItems, List.append_assoc, List.length_cons, items?, first fuel _ (by omega)]
      simp only
      rw [inductionHypothesis others fuel (item :: seen) (by omega)]
      simp

theorem isReadBack_array {depth : Nat} {items : List Item} (shallow : depth < depthLimit)
    (few : items.length ≤ elementLimit)
    (readBack : ∀ item ∈ items, IsReadBack (depth + 1) item) :
    IsReadBack depth (.array items) := by
  intro fuel rest enough
  have headBytes := length_head_pos 4 items.length
  have limit : elementLimit < UInt64.size := by decide
  simp only [Item.encode, List.length_append] at enough
  obtain ⟨fuel, rfl⟩ := Nat.exists_eq_succ_of_ne_zero (show fuel ≠ 0 by omega)
  obtain ⟨argument, headed, value, _⟩ :=
    head?_head (show 4 < 8 by decide) (show items.length < UInt64.size by omega)
      (encodeItems items ++ rest)
  have elements := items?_encodeItems readBack fuel [] rest (by omega)
  rw [Item.encode, List.append_assoc, item?, headed]
  simp only [bind, Option.bind, value, if_neg (Nat.not_le.mpr shallow), if_neg (Nat.not_lt.mpr few),
    elements]
  rfl

/-! ### Maps -/

/-- Keys and values in turn. -/
def flatten (entries : List (Item × Item)) : List Item :=
  entries.flatMap fun entry => [entry.1, entry.2]

@[simp]
theorem length_flatten (entries : List (Item × Item)) :
    (flatten entries).length = 2 * entries.length := by
  induction entries with
  | nil => rfl
  | cons entry entries inductionHypothesis =>
      have both : flatten (entry :: entries) = entry.1 :: entry.2 :: flatten entries := rfl
      simp only [both, List.length_cons, inductionHypothesis]
      omega

@[simp]
theorem pairUp_flatten (entries : List (Item × Item)) :
    pairUp (flatten entries) = some entries := by
  induction entries with
  | nil => rfl
  | cons entry entries inductionHypothesis =>
      have both : flatten (entry :: entries) = entry.1 :: entry.2 :: flatten entries := rfl
      rw [both, pairUp, inductionHypothesis]
      rfl

@[simp]
theorem encodeItems_flatten (entries : List (Item × Item)) :
    encodeItems (flatten entries) = encodeEntries entries := by
  induction entries with
  | nil => rfl
  | cons entry entries inductionHypothesis =>
      have both : flatten (entry :: entries) = entry.1 :: entry.2 :: flatten entries := rfl
      rw [both, encodeItems, encodeItems, inductionHypothesis, encodeEntries, List.append_assoc]

theorem isReadBack_map {depth : Nat} {entries : List (Item × Item)} (shallow : depth < depthLimit)
    (few : entries.length ≤ elementLimit)
    (readBack : ∀ item ∈ flatten entries, IsReadBack (depth + 1) item) :
    IsReadBack depth (.map entries) := by
  intro fuel rest enough
  have headBytes := length_head_pos 5 entries.length
  have limit : elementLimit < UInt64.size := by decide
  simp only [Item.encode, List.length_append, ← encodeItems_flatten] at enough
  obtain ⟨fuel, rfl⟩ := Nat.exists_eq_succ_of_ne_zero (show fuel ≠ 0 by omega)
  obtain ⟨argument, headed, value, _⟩ := head?_head (show 5 < 8 by decide)
    (show entries.length < UInt64.size by omega) (encodeItems (flatten entries) ++ rest)
  have elements := items?_encodeItems readBack fuel [] rest (by omega)
  rw [length_flatten] at elements
  rw [Item.encode, List.append_assoc, ← encodeItems_flatten, item?, headed]
  simp only [bind, Option.bind, value, if_neg (Nat.not_le.mpr shallow), if_neg (Nat.not_lt.mpr few),
    elements, List.reverse_nil, List.nil_append, pairUp_flatten]
  rfl

/-! ### Whole texts -/

theorem Item.Fits.isReadBack {room : Nat} {item : Item} (fits : item.Fits room) {depth : Nat}
    (levels : depth + room ≤ depthLimit) : IsReadBack depth item := by
  induction fits generalizing depth with
  | unsigned bounded => exact isReadBack_unsigned bounded depth
  | negative bounded => exact isReadBack_negative bounded depth
  | text addressable => exact isReadBack_text addressable depth
  | simple small => exact isReadBack_simple small depth
  | array few _ inductionHypothesis =>
      apply isReadBack_array (by omega) few
      intro item listed
      exact inductionHypothesis item listed (by omega)
  | map few _ _ keyHypothesis valueHypothesis =>
      apply isReadBack_map (by omega) few
      intro item listed
      obtain ⟨entry, inMap, isPart⟩ := List.mem_flatMap.mp listed
      simp only [List.mem_cons, List.not_mem_nil, or_false] at isPart
      rcases isPart with rfl | rfl
      · exact keyHypothesis entry inMap (by omega)
      · exact valueHypothesis entry inMap (by omega)

theorem decode?_encode {item : Item} (fits : item.Fits depthLimit) :
    decode? item.encode = some item := by
  have read := fits.isReadBack (show 0 + depthLimit ≤ depthLimit by omega)
    (3 * item.encode.length + 2) [] (by omega)
  rw [List.append_nil] at read
  rw [decode?, read]

theorem Item.ofText_encode_inj {s t : Text} (first : s.length < UInt64.size)
    (second : t.length < UInt64.size) (same : (Item.ofText s).encode = (Item.ofText t).encode) :
    s = t := by
  have readFirst := decode?_encode (.text first)
  have readSecond := decode?_encode (.text second)
  rw [same, readSecond] at readFirst
  simpa [Item.ofText] using readFirst.symm

end Tandem.Cbor

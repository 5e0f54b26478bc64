import Mathlib.Data.List.Forall2
import Tandem.Proofs.Report.Reading

set_option autoImplicit false

/-!
Reports are read back from their encodings. A table is a list of entries here, and the order of the
entries is the only thing that is lost, apart from empty lists of pending values, which are left
out. The encoding itself does not depend on that order.

The entries of an encoded record are in canonical order. They are referred to by the positions that
their fields have in the list of all fields.
-/

namespace Tandem

open Cbor

/-! ### Instances -/

namespace InstanceReport

/-- The field at a position. -/
def field (i : Fin 10) : Report.Field InstanceReport := Report.instanceFields.get i

/-- The item of the field at a position. -/
def item (r : InstanceReport) : Fin 10 → Item
  | 0 => .ofInt r.id.toInt
  | 1 => .ofInt r.pc.toInt
  | 2 => .ofText r.state
  | 3 => .ofBool r.terminated
  | 4 => .ofBool r.blocked
  | 5 => .unsigned r.sent.toNat
  | 6 => .unsigned r.received.toNat
  | 7 => .ofInt r.ticks.toInt
  | 8 => .array ((r.pending.getD []).map fun n => .ofInt n.toInt)
  | 9 =>
      .orNull (fun table => .mapOf (table.map fun entry => (entry.1, .ofInt entry.2.toInt)))
        r.registers

/-- Pending values are written only if there are some. -/
def optional (r : InstanceReport) : List (Fin 10) := if r.pending.getD [] = [] then [] else [8]

/-- The positions of the fields that are written, in canonical order. -/
def order (r : InstanceReport) : List (Fin 10) := [0, 1, 5, 2, 7, 4] ++ r.optional ++ [6, 9, 3]

theorem order_cases (r : InstanceReport) :
    r.order = [0, 1, 5, 2, 7, 4, 6, 9, 3] ∨ r.order = [0, 1, 5, 2, 7, 4, 8, 6, 9, 3] := by
  unfold order optional
  split
  · exact .inl rfl
  · exact .inr rfl

theorem distinct_names :
    (Report.instanceFields.map fun f => Text.ofString f.1).Nodup := by decide +kernel

theorem distinct_order (r : InstanceReport) :
    (r.order.map fun i => Text.ofString (field i).1).Nodup := by
  rcases r.order_cases with same | same
  · rw [same]
    decide +kernel
  · rw [same]
    decide +kernel

theorem pairwise_order (r : InstanceReport) :
    (r.order.map fun i => Text.ofString (field i).1).Pairwise fun s t => keyLe s t = true := by
  rcases r.order_cases with same | same
  · rw [same]
    decide +kernel
  · rw [same]
    decide +kernel

theorem length_name (i : Fin 10) : (Text.ofString (field i).1).length < UInt64.size := by
  have short : ∀ i, (Text.ofString (field i).1).length < 16 := by decide +kernel
  exact Nat.lt_trans (short i) (by decide)

theorem toItem_eq_mapOf (r : InstanceReport) :
    r.toItem = .mapOf (([0, 1, 2, 3, 4, 5, 6, 7, 9] ++ r.optional).map
      fun i => (Text.ofString (field i).1, r.item i)) := by
  obtain ⟨id, pc, state, terminated, blocked, sent, received, ticks, pending, registers⟩ := r
  cases pending with
  | none => rfl
  | some values =>
      cases values with
      | nil => rfl
      | cons n values => rfl

theorem toItem_eq (r : InstanceReport) :
    r.toItem = .map (r.order.map fun i => (Item.ofText (field i).1, r.item i)) := by
  have perm : ([0, 1, 2, 3, 4, 5, 6, 7, 9] ++ r.optional).Perm r.order := by
    unfold order optional
    split
    · decide
    · decide
  rw [toItem_eq_mapOf]
  apply mapOf_of_order (fun i => Text.ofString (field i).1) r.item perm
  · exact (perm.map _).nodup_iff.mpr r.distinct_order
  · exact fun i _ => length_name i
  · exact r.pairwise_order

/-- What is read as a text is in UTF-8. -/
def isReadable (r : InstanceReport) : Fin 10 → Bool
  | 2 => Text.isUtf8 r.state
  | 9 => r.registers.all fun table => table.all fun entry => Text.isUtf8 entry.1
  | _ => true

/-- Another record with the value that is read for the field at a position. -/
def put (r s : InstanceReport) : Fin 10 → InstanceReport
  | 0 => { s with id := r.id }
  | 1 => { s with pc := r.pc }
  | 2 => { s with state := r.state }
  | 3 => { s with terminated := r.terminated }
  | 4 => { s with blocked := r.blocked }
  | 5 => { s with sent := r.sent }
  | 6 => { s with received := r.received }
  | 7 => { s with ticks := r.ticks }
  | 8 => { s with pending := some (r.pending.getD []) }
  | 9 =>
      { s with registers := (r.registers.map fun table => (ordered table).reverse).or s.registers }

theorem read_item {r : InstanceReport} (keyed : ∀ table ∈ r.registers, IsKeyed table)
    (s : InstanceReport) (i : Fin 10) :
    (field i).2 s (r.item i) = if r.isReadable i then some (r.put s i) else none := by
  match i with
  | 0 => exact congrArg (Option.map _) (Report.readOr_int64 _ r.id)
  | 1 => exact congrArg (Option.map _) (Report.readOr_int64 _ r.pc)
  | 2 =>
      refine (congrArg (Option.map _) (Report.readOr_text _ r.state)).trans ?_
      rw [apply_ite (Option.map _)]
      rfl
  | 3 => exact congrArg (Option.map _) (Report.readOr_bool _ r.terminated)
  | 4 => exact congrArg (Option.map _) (Report.readOr_bool _ r.blocked)
  | 5 =>
      have reader : (field 5).2 = fun s item =>
          (Report.readOr Report.uint64? s.sent item).map ({ s with sent := · }) := rfl
      simp only [reader, item, Report.readOr_uint64]
      rfl
  | 6 =>
      have reader : (field 6).2 = fun s item =>
          (Report.readOr Report.uint64? s.received item).map ({ s with received := · }) := rfl
      simp only [reader, item, Report.readOr_uint64]
      rfl
  | 7 => exact congrArg (Option.map _) (Report.readOr_int64 _ r.ticks)
  | 8 => exact congrArg (Option.map _) (Report.readOr_values _ (r.pending.getD []))
  | 9 =>
      refine (congrArg (Option.map _) (Report.readOr_registers keyed _)).trans ?_
      rw [apply_ite (Option.map _)]
      rfl

def isUtf8 (r : InstanceReport) : Bool := r.isReadable 2 && r.isReadable 9

def withoutEmptyPending (r : InstanceReport) : InstanceReport :=
  { r with pending := r.pending.filter fun values => values ≠ [] }

/-- What is read from the encoding. -/
def readBack (r : InstanceReport) : InstanceReport :=
  { r.withoutEmptyPending with registers := r.registers.map fun table => (ordered table).reverse }

@[simp]
theorem all_isReadable (r : InstanceReport) : r.order.all r.isReadable = r.isUtf8 := by
  rcases r.order_cases with same | same
  · simp [same, isReadable, isUtf8]
  · simp [same, isReadable, isUtf8]

@[simp]
theorem foldl_put (r : InstanceReport) : r.order.foldl r.put {} = r.readBack := by
  obtain ⟨id, pc, state, terminated, blocked, sent, received, ticks, pending, registers⟩ := r
  cases pending with
  | none => simp [order, optional, put, readBack, withoutEmptyPending]
  | some values =>
      cases values with
      | nil => simp [order, optional, put, readBack, withoutEmptyPending, Option.filter]
      | cons n values => simp [order, optional, put, readBack, withoutEmptyPending, Option.filter]

theorem readOr_toItem {r : InstanceReport} (keyed : ∀ table ∈ r.registers, IsKeyed table) :
    Report.readOr (Report.record? Report.instanceFields {}) {} r.toItem =
      if r.isUtf8 then some r.readBack else none := by
  have known : ∀ i ∈ r.order, field i ∈ Report.instanceFields := fun i _ => List.get_mem _ _
  have read :=
    Report.recordFrom?_eq_foldl distinct_names (read_item keyed) known r.distinct_order {}
  rw [all_isReadable, foldl_put] at read
  rw [toItem_eq, Report.readOr_eq rfl rfl, Report.record?, read]

/-- Lists and tables within the limits of the encoding, and texts that a machine can address. -/
structure IsWithin (r : InstanceReport) : Prop where
  state : r.state.length < UInt64.size
  pending : ∀ values ∈ r.pending, values.length ≤ elementLimit
  registers : ∀ table ∈ r.registers, table.length ≤ elementLimit ∧ IsKeyed table

theorem fits_registers {registers : Option (Table Int64)}
    (within : ∀ table ∈ registers, table.length ≤ elementLimit ∧ IsKeyed table)
    (room : Nat) :
    (Item.orNull (fun table : Table Int64 =>
      .mapOf (table.map fun entry => (entry.1, .ofInt entry.2.toInt))) registers).Fits
        (room + 1) := by
  cases registers with
  | none => exact .simple (by decide)
  | some table =>
      obtain ⟨few, keyed⟩ := within table rfl
      have perm := ordered_perm table
      rw [Item.orNull, mapOf_map fun n : Int64 => Item.ofInt n.toInt]
      apply Item.Fits.map
      · rw [List.length_map, perm.length_eq]
        exact few
      · intro entry listed
        obtain ⟨old, inTable, rfl⟩ := List.mem_map.mp listed
        exact .text (keyed.addressable old (perm.mem_iff.mp inTable))
      · intro entry listed
        obtain ⟨old, inTable, rfl⟩ := List.mem_map.mp listed
        exact Item.fits_ofInt room old.2

theorem fits_item {r : InstanceReport} (within : r.IsWithin) (room : Nat) (i : Fin 10) :
    (r.item i).Fits (room + 1) := by
  match i with
  | 0 => exact Item.fits_ofInt _ r.id
  | 1 => exact Item.fits_ofInt _ r.pc
  | 2 => exact .text within.state
  | 3 => exact Item.fits_ofBool _ r.terminated
  | 4 => exact Item.fits_ofBool _ r.blocked
  | 5 => exact .unsigned r.sent.toNat_lt
  | 6 => exact .unsigned r.received.toNat_lt
  | 7 => exact Item.fits_ofInt _ r.ticks
  | 8 =>
      apply Item.Fits.array
      · rw [List.length_map]
        cases pending : r.pending with
        | none => exact Nat.zero_le _
        | some values => exact within.pending values pending
      · intro item listed
        obtain ⟨n, _, rfl⟩ := List.mem_map.mp listed
        exact Item.fits_ofInt room n
  | 9 => exact fits_registers within.registers room

theorem fits_toItem {r : InstanceReport} (within : r.IsWithin) (room : Nat) :
    r.toItem.Fits (room + 2) := by
  rw [toItem_eq]
  apply Item.Fits.map
  · rw [List.length_map]
    rcases r.order_cases with same | same
    · rw [same]
      decide
    · rw [same]
      decide
  · intro entry listed
    obtain ⟨i, _, rfl⟩ := List.mem_map.mp listed
    exact .text (length_name i)
  · intro entry listed
    obtain ⟨i, _, rfl⟩ := List.mem_map.mp listed
    exact fits_item within room i

/-- The same snapshot of an instance, with the entries of its registers in any order. -/
def Same (a b : InstanceReport) : Prop :=
  Option.Rel List.Perm a.registers b.registers ∧
    { a with registers := none } = { b with registers := none }

theorem toItem_eq_of_same {a b : InstanceReport} (keyed : ∀ table ∈ b.registers, IsKeyed table)
    (same : a.Same b) : a.toItem = b.toItem := by
  obtain ⟨registers, others⟩ := same
  obtain ⟨_, _, _, _, _, _, _, _, _, first⟩ := a
  obtain ⟨_, _, _, _, _, _, _, _, _, second⟩ := b
  simp only [mk.injEq, and_true] at others
  obtain ⟨rfl, rfl, rfl, rfl, rfl, rfl, rfl, rfl, rfl⟩ := others
  cases registers with
  | none => rfl
  | @some s t perm =>
      have written : Item.mapOf (s.map fun entry => (entry.1, Item.ofInt entry.2.toInt)) =
          Item.mapOf (t.map fun entry => (entry.1, Item.ofInt entry.2.toInt)) :=
        (mapOf_eq_of_perm ((keyed t rfl).map fun n => Item.ofInt n.toInt) (perm.symm.map _)).symm
      simp only [toItem, Item.orNull, written]

@[simp]
theorem toItem_withoutEmptyPending (r : InstanceReport) :
    r.withoutEmptyPending.toItem = r.toItem := by
  obtain ⟨_, _, _, _, _, _, _, _, pending, _⟩ := r
  cases pending with
  | none => rfl
  | some values =>
      cases values with
      | nil => rfl
      | cons n values => rfl

theorem same_readBack (r : InstanceReport) : r.readBack.Same r.withoutEmptyPending := by
  refine ⟨?_, rfl⟩
  cases registers : r.registers with
  | none =>
      simp only [readBack, withoutEmptyPending, registers]
      exact .none
  | some table =>
      simp only [readBack, withoutEmptyPending, registers]
      exact .some ((List.reverse_perm _).trans (ordered_perm table))

/-- All texts of an instance are in UTF-8. -/
def IsUnicode (r : InstanceReport) : Prop :=
  Text.IsUnicode r.state ∧ ∀ table ∈ r.registers, ∀ entry ∈ table, Text.IsUnicode entry.1

theorem isUtf8_iff {r : InstanceReport} : r.isUtf8 = true ↔ r.IsUnicode := by
  simp [isUtf8, isReadable, IsUnicode, Text.isUtf8_iff, Option.all_eq_true]

end InstanceReport

/-! ### Whole reports -/

namespace Report

def field (i : Fin 4) : Field Report := fields.get i

def item (r : Report) : Fin 4 → Item
  | 0 => .ofText r.halt
  | 1 => .ofInt r.cycles.toInt
  | 2 => .ofInt r.steps.toInt
  | 3 => .orNull (fun list => .array (list.map InstanceReport.toItem)) r.instances

/-- The positions of all fields in canonical order. -/
def order : List (Fin 4) := [0, 2, 1, 3]

theorem length_name (i : Fin 4) : (Text.ofString (field i).1).length < UInt64.size := by
  have short : ∀ i, (Text.ofString (field i).1).length < 16 := by decide +kernel
  exact Nat.lt_trans (short i) (by decide)

theorem toItem_eq (r : Report) :
    r.toItem = .map (order.map fun i => (Item.ofText (field i).1, r.item i)) := by
  have given :
      r.toItem = .mapOf ([0, 1, 2, 3].map fun i => (Text.ofString (field i).1, r.item i)) := rfl
  rw [given]
  apply mapOf_of_order (fun i => Text.ofString (field i).1) r.item (by decide) (by decide +kernel)
  · exact fun i _ => length_name i
  · decide +kernel

def isReadable (r : Report) : Fin 4 → Bool
  | 0 => Text.isUtf8 r.halt
  | 3 => r.instances.all fun list => list.all InstanceReport.isUtf8
  | _ => true

def put (r s : Report) : Fin 4 → Report
  | 0 => { s with halt := r.halt }
  | 1 => { s with cycles := r.cycles }
  | 2 => { s with steps := r.steps }
  | 3 =>
      { s with
        instances :=
          (r.instances.map fun list => list.map InstanceReport.readBack).or s.instances }

/-- Lists and tables within the limits of the encoding, and texts that a machine can address. -/
structure IsWithin (r : Report) : Prop where
  halt : r.halt.length < UInt64.size
  instances : ∀ list ∈ r.instances, list.length ≤ elementLimit ∧ ∀ i ∈ list, i.IsWithin

def withoutEmptyPending (r : Report) : Report :=
  { r with instances := r.instances.map fun list => list.map InstanceReport.withoutEmptyPending }

/-- All registers have one value for each name. -/
def HasKeys (r : Report) : Prop :=
  ∀ list ∈ r.instances, ∀ i ∈ list, ∀ table ∈ i.registers, IsKeyed table

theorem IsWithin.hasKeys {r : Report} (within : r.IsWithin) : r.HasKeys := by
  intro list made i listed table filled
  exact (((within.instances list made).2 i listed).registers table filled).2

theorem HasKeys.withoutEmptyPending {r : Report} (keyed : r.HasKeys) :
    r.withoutEmptyPending.HasKeys := by
  intro list made i listed
  obtain ⟨old, oldMade, rfl⟩ := Option.map_eq_some_iff.mp made
  obtain ⟨before, inOld, rfl⟩ := List.mem_map.mp listed
  exact keyed old oldMade before inOld

theorem readOr_instances {instances : Option (List InstanceReport)}
    (keyed : ∀ list ∈ instances, ∀ i ∈ list, ∀ table ∈ i.registers, IsKeyed table)
    (old : Option (List InstanceReport)) :
    readOr (list? {} (record? instanceFields {})) old
        (.orNull (fun list => .array (list.map InstanceReport.toItem)) instances) =
      if instances.all fun list => list.all InstanceReport.isUtf8 then
        some ((instances.map fun list => list.map InstanceReport.readBack).or old)
      else none := by
  cases instances with
  | none => rfl
  | some list =>
      have reads := fun i (listed : i ∈ list) =>
        InstanceReport.readOr_toItem (keyed list rfl i listed)
      rw [Item.orNull, readOr_list, Option.all_some]
      by_cases valid : list.all InstanceReport.isUtf8 = true
      · rw [if_pos valid, mapM_eq_some fun i listed => ?_]
        · rfl
        · rw [reads i listed, if_pos (List.all_eq_true.mp valid i listed)]
      · obtain ⟨i, listed, invalid⟩ : ∃ i ∈ list, i.isUtf8 = false := by
          simpa using valid
        rw [if_neg valid, mapM_eq_none listed (by rw [reads i listed, invalid]; rfl)]
        rfl

theorem read_item {r : Report} (within : r.IsWithin) (s : Report) (i : Fin 4) :
    (field i).2 s (r.item i) = if r.isReadable i then some (r.put s i) else none := by
  match i with
  | 0 =>
      refine (congrArg (Option.map _) (readOr_text _ r.halt)).trans ?_
      rw [apply_ite (Option.map _)]
      rfl
  | 1 => exact congrArg (Option.map _) (readOr_int64 _ r.cycles)
  | 2 => exact congrArg (Option.map _) (readOr_int64 _ r.steps)
  | 3 =>
      refine (congrArg (Option.map _) (readOr_instances within.hasKeys _)).trans ?_
      rw [apply_ite (Option.map _)]
      rfl

/-- What is read from the encoding. -/
def readBack (r : Report) : Report :=
  { r with instances := r.instances.map fun list => list.map InstanceReport.readBack }

@[simp]
theorem foldl_put (r : Report) : order.foldl r.put {} = r.readBack := by
  simp [order, put, readBack]

theorem ofItem?_toItem {r : Report} (within : r.IsWithin) :
    ofItem? r.toItem = if r.isReadable 0 && r.isReadable 3 then some r.readBack else none := by
  have known : ∀ i ∈ order, field i ∈ fields := fun i _ => List.get_mem _ _
  have distinct : (fields.map fun f => Text.ofString f.1).Nodup := by decide +kernel
  have once : (order.map fun i => Text.ofString (field i).1).Nodup := by decide +kernel
  have read := recordFrom?_eq_foldl distinct (read_item within) known once {}
  have readable : order.all r.isReadable = (r.isReadable 0 && r.isReadable 3) := by
    simp [order, isReadable]
  rw [readable, foldl_put] at read
  rw [ofItem?, toItem_eq, readOr_eq rfl rfl, record?, read]

theorem fits_item {r : Report} (within : r.IsWithin) (room : Nat) (i : Fin 4) :
    (r.item i).Fits (room + 3) := by
  match i with
  | 0 => exact .text within.halt
  | 1 => exact Item.fits_ofInt _ r.cycles
  | 2 => exact Item.fits_ofInt _ r.steps
  | 3 =>
      unfold item
      cases instances : r.instances with
      | none => exact .simple (by decide)
      | some list =>
          obtain ⟨few, each⟩ := within.instances list instances
          apply Item.Fits.array
          · rw [List.length_map]
            exact few
          · intro item listed
            obtain ⟨i, inList, rfl⟩ := List.mem_map.mp listed
            exact InstanceReport.fits_toItem (each i inList) room

theorem fits_toItem {r : Report} (within : r.IsWithin) : r.toItem.Fits depthLimit := by
  rw [toItem_eq]
  apply @Item.Fits.map 31
  · rw [List.length_map]
    decide
  · intro entry listed
    obtain ⟨i, _, rfl⟩ := List.mem_map.mp listed
    exact .text (length_name i)
  · intro entry listed
    obtain ⟨i, _, rfl⟩ := List.mem_map.mp listed
    exact fits_item within 28 i

/-! ### The same report -/

/-- The same report, with the entries of all registers in any order. A list that was never made is
not the same as an empty one. -/
def Same (a b : Report) : Prop :=
  Option.Rel (List.Forall₂ InstanceReport.Same) a.instances b.instances ∧
    { a with instances := none } = { b with instances := none }

theorem map_toItem_eq_of_same {first second : List InstanceReport}
    (keyed : ∀ i ∈ second, ∀ table ∈ i.registers, IsKeyed table)
    (same : List.Forall₂ InstanceReport.Same first second) :
    first.map InstanceReport.toItem = second.map InstanceReport.toItem := by
  induction same with
  | nil => rfl
  | cons here _ inductionHypothesis =>
      obtain ⟨keyedHere, keyedBelow⟩ := List.forall_mem_cons.mp keyed
      rw [List.map_cons, List.map_cons, InstanceReport.toItem_eq_of_same keyedHere here,
        inductionHypothesis keyedBelow]

theorem encode_eq_of_same {a b : Report} (keyed : b.HasKeys) (same : a.Same b) :
    a.encode = b.encode := by
  obtain ⟨instances, others⟩ := same
  obtain ⟨_, _, _, first⟩ := a
  obtain ⟨_, _, _, second⟩ := b
  simp only [mk.injEq, and_true] at others
  obtain ⟨rfl, rfl, rfl⟩ := others
  cases instances with
  | none => rfl
  | some pointwise =>
      have written := map_toItem_eq_of_same (keyed _ rfl) pointwise
      simp only [encode, toItem, Item.orNull, written]

@[simp]
theorem encode_withoutEmptyPending (r : Report) : r.withoutEmptyPending.encode = r.encode := by
  obtain ⟨_, _, _, instances⟩ := r
  cases instances with
  | none => rfl
  | some list =>
      have written : (list.map InstanceReport.withoutEmptyPending).map InstanceReport.toItem =
          list.map InstanceReport.toItem := by
        rw [List.map_map]
        exact List.map_congr_left fun i _ => i.toItem_withoutEmptyPending
      simp only [withoutEmptyPending, Option.map_some, encode, toItem, Item.orNull, written]

theorem same_readBack (r : Report) : r.readBack.Same r.withoutEmptyPending := by
  refine ⟨?_, rfl⟩
  cases instances : r.instances with
  | none =>
      simp only [readBack, withoutEmptyPending, instances]
      exact .none
  | some list =>
      simp only [readBack, withoutEmptyPending, instances]
      apply Option.Rel.some
      apply List.forall₂_map_left_iff.mpr
      apply List.forall₂_map_right_iff.mpr
      exact List.forall₂_same.mpr fun i _ => i.same_readBack

/-- All texts of a report are in UTF-8. -/
def IsUnicode (r : Report) : Prop :=
  Text.IsUnicode r.halt ∧ ∀ list ∈ r.instances, ∀ i ∈ list, i.IsUnicode

theorem isUtf8_iff {r : Report} : (r.isReadable 0 && r.isReadable 3) = true ↔ r.IsUnicode := by
  simp [isReadable, IsUnicode, Text.isUtf8_iff, Option.all_eq_true, InstanceReport.isUtf8_iff]

theorem decode?_encode {r : Report} (within : r.IsWithin) :
    decode? r.encode = if r.isReadable 0 && r.isReadable 3 then some r.readBack else none := by
  rw [decode?, encode, Cbor.decode?_encode (fits_toItem within), Option.bind_some,
    ofItem?_toItem within]

/-- A report survives its encoding, but for empty lists of pending values, exactly if its texts are
in UTF-8. The encoding depends on nothing but the report. -/
theorem survives_encoding (r : Report) (within : r.IsWithin) :
    (r.IsUnicode → ∃ s, decode? r.encode = some s ∧ s.Same r.withoutEmptyPending ∧
      s.encode = r.encode) ∧
      (¬ r.IsUnicode → decode? r.encode = none) ∧ ∀ s : Report, s.Same r →
        s.encode = r.encode := by
  refine ⟨?_, ?_, fun s => encode_eq_of_same within.hasKeys⟩
  · intro unicode
    refine ⟨r.readBack, ?_, r.same_readBack, ?_⟩
    · rw [decode?_encode within, if_pos (isUtf8_iff.mpr unicode)]
    · rw [encode_eq_of_same within.hasKeys.withoutEmptyPending r.same_readBack,
        encode_withoutEmptyPending]
  · intro notUnicode
    rw [decode?_encode within, if_neg fun valid => notUnicode (isUtf8_iff.mp valid)]

/-- A report with an empty list of pending values, registers out of order and an instance that
was never filled in. -/
def sample : Report where
  halt := "deadlock"
  cycles := 5
  steps := Int64.maxValue
  instances := some
    [{ pc := -1, state := "blocked", blocked := true, pending := some [],
       registers := some [("é", 7), ("p", 0), ("a", Int64.minValue)] },
     { id := 1, sent := 18446744073709551615, pending := some [3, -300], registers := some [] },
     {}]

theorem isWithin_sample : sample.IsWithin := by
  refine ⟨by decide, ?_⟩
  rintro list ⟨rfl⟩
  refine ⟨by decide, ?_⟩
  intro i listed
  simp only [List.mem_cons, List.not_mem_nil, or_false] at listed
  rcases listed with rfl | rfl | rfl
  · refine ⟨by decide, ?_, ?_⟩
    · rintro values ⟨rfl⟩
      decide
    · rintro table ⟨rfl⟩
      exact ⟨by decide, by decide, by decide⟩
  · refine ⟨by decide, ?_, ?_⟩
    · rintro values ⟨rfl⟩
      decide
    · rintro table ⟨rfl⟩
      exact ⟨by decide, by decide, by decide⟩
  · refine ⟨by decide, ?_, ?_⟩
    · rintro values ⟨⟩
    · rintro table ⟨⟩

theorem survives_encoding_sample :
    (∃ s, decode? sample.encode = some s ∧ s.Same sample.withoutEmptyPending ∧
      s.encode = sample.encode) ∧ decode? { sample with halt := [255] }.encode = none := by
  constructor
  · have unicode : sample.IsUnicode := isUtf8_iff.mp (by decide +kernel)
    exact (survives_encoding sample isWithin_sample).1 unicode
  · have within : IsWithin { sample with halt := [255] } :=
      ⟨by decide, isWithin_sample.instances⟩
    have notUnicode : ¬ IsUnicode { sample with halt := [255] } := by
      rw [← isUtf8_iff]
      decide +kernel
    exact (survives_encoding _ within).2.1 notUnicode

end Report

end Tandem

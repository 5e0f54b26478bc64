import Tandem.Proofs.Cbor.Order
import Tandem.Proofs.Text.Utf8
import Tandem.Report.Decode
import Tandem.Report.Encode

set_option autoImplicit false

/-!
Reading the values of fields. Every value is read back from its item, except that a text must be in
UTF-8 to be read. A record is read field by field, in the order in which the fields are given.
-/

namespace Tandem

open Cbor

namespace Table

variable {α : Type}

theorem insertAll_of_distinct {t : Table α} {entries : List (Text × α)}
    (distinct : (entries.map (·.1)).Nodup)
    (fresh : ∀ entry ∈ entries, t.find? entry.1 = none) :
    t.insertAll entries = entries.reverse ++ t := by
  induction entries generalizing t with
  | nil => rfl
  | cons entry entries inductionHypothesis =>
      rw [List.map_cons, List.nodup_cons] at distinct
      obtain ⟨freshHere, freshBelow⟩ := List.forall_mem_cons.mp fresh
      have once : t.insertAll (entry :: entries) = (t.insert entry.1 entry.2).insertAll entries :=
        rfl
      rw [once, insert_of_find?_eq_none freshHere, inductionHypothesis distinct.2]
      · simp
      · intro later listed
        have other : later.1 ≠ entry.1 := fun same =>
          distinct.1 (List.mem_map.mpr ⟨later, listed, same⟩)
        rw [find?_cons, if_neg other]
        exact freshBelow later listed

end Table

namespace Report

/-! ### Single values -/

theorem readOr_eq {α : Type} {read? : Item → Option α} {old : α} {item : Item}
    (untagged : item.untagged? = some item) (notNull : item.isNull = false) :
    readOr read? old item = read? item := by
  rw [readOr, untagged]
  simp [notNull]

@[simp]
theorem toInt?_ofInt (n : Int) : (Item.ofInt n).toInt? = some n := by
  unfold Item.ofInt
  split
  · rw [Item.toInt?, Option.some.injEq]
    omega
  · rw [Item.toInt?, Option.some.injEq]
    omega

@[simp]
theorem readOr_ofInt {α : Type} (read? : Item → Option α) (old : α) (n : Int) :
    readOr read? old (.ofInt n) = read? (.ofInt n) := by
  unfold Item.ofInt
  split
  · exact readOr_eq rfl rfl
  · exact readOr_eq rfl rfl

@[simp]
theorem int64?_ofInt (n : Int64) : int64? (.ofInt n.toInt) = some n := by
  have least : Int64.minValue.toInt ≤ n.toInt := Int64.minValue_le_toInt n
  have most : n.toInt ≤ Int64.maxValue.toInt := Int64.toInt_le n
  rw [int64?, toInt?_ofInt, Option.bind_eq_bind, Option.bind_some, if_pos ⟨least, most⟩,
    Int64.ofInt_toInt]
  rfl

theorem readOr_int64 (old n : Int64) : readOr int64? old (.ofInt n.toInt) = some n := by
  simp

@[simp]
theorem readOr_uint64 (old n : UInt64) : readOr uint64? old (.unsigned n.toNat) = some n := by
  have bound : (n.toNat : Int) < (UInt64.size : Nat) := Int.ofNat_lt.mpr n.toNat_lt
  rw [readOr_eq rfl rfl, uint64?, Item.toInt?, Option.bind_eq_bind, Option.bind_some,
    if_pos ⟨Int.natCast_nonneg _, bound⟩, Int.toNat_natCast, UInt64.ofNat_toNat]
  rfl

@[simp]
theorem readOr_bool (old b : Bool) : readOr Item.toBool? old (.ofBool b) = some b := by
  cases b <;> rfl

@[simp]
theorem readOr_text (old t : Text) :
    readOr Item.toText? old (.ofText t) = if Text.isUtf8 t then some t else none := by
  rw [readOr_eq rfl rfl, Item.ofText, Item.toText?]
  simp [Text.concat]

/-! ### Lists -/

theorem mapM_eq_some {α β γ : Type} {f : α → β} {g : β → Option γ} {h : α → γ}
    {list : List α} (each : ∀ a ∈ list, g (f a) = some (h a)) :
    (list.map f).mapM g = some (list.map h) := by
  induction list with
  | nil => rfl
  | cons a list inductionHypothesis =>
      obtain ⟨first, others⟩ := List.forall_mem_cons.mp each
      rw [List.map_cons, List.mapM_cons, first, inductionHypothesis others]
      rfl

theorem mapM_eq_none {α β γ : Type} {f : α → β} {g : β → Option γ}
    {list : List α} {a : α} (listed : a ∈ list) (fails : g (f a) = none) :
    (list.map f).mapM g = none := by
  induction list with
  | nil => contradiction
  | cons b list inductionHypothesis =>
      rw [List.map_cons, List.mapM_cons]
      cases read : g (f b) with
      | none => rfl
      | some value =>
          rcases List.mem_cons.mp listed with rfl | below
          · rw [fails] at read
            contradiction
          · rw [inductionHypothesis below]
            rfl

theorem readOr_list {α β : Type} (zero : β) (read? : Item → Option β) (old : Option (List β))
    (f : α → Item) (list : List α) :
    readOr (list? zero read?) old (.array (list.map f)) =
      ((list.map f).mapM (readOr read? zero)).map some :=
  readOr_eq rfl rfl

@[simp]
theorem readOr_values (old : Option (List Int64)) (values : List Int64) :
    readOr (list? 0 int64?) old (.array (values.map fun n => .ofInt n.toInt)) =
      some (some values) := by
  rw [readOr_list, mapM_eq_some fun n _ => readOr_int64 0 n, Option.map_some, List.map_id']

/-! ### Tables -/

/-- The items of some entries. -/
def tableItems (entries : Table Int64) : List (Item × Item) :=
  entries.map fun entry => (Item.ofText entry.1, Item.ofInt entry.2.toInt)

theorem tableFrom?_tableItems (table : Table Int64) (last : Text × Int64) (entries : Table Int64) :
    tableFrom? table last (tableItems entries) =
      if entries.all fun entry => Text.isUtf8 entry.1 then some (table.insertAll entries)
      else none := by
  induction entries generalizing table last with
  | nil => rfl
  | cons entry entries inductionHypothesis =>
      have both : tableItems (entry :: entries) =
          (Item.ofText entry.1, Item.ofInt entry.2.toInt) :: tableItems entries := rfl
      rw [both, tableFrom?, readOr_text, readOr_int64]
      by_cases valid : Text.isUtf8 entry.1 = true
      · rw [if_pos valid, List.all_cons, valid, Bool.true_and]
        exact inductionHypothesis (table.insert entry.1 entry.2) entry
      · rw [if_neg valid, List.all_cons, Bool.eq_false_iff.mpr valid]
        rfl

/-- A table is read back with its entries in another order. -/
theorem readOr_table {table : Table Int64} (keyed : IsKeyed table) (old : Option (Table Int64)) :
    readOr table? old (.mapOf (table.map fun entry => (entry.1, .ofInt entry.2.toInt))) =
      if table.all fun entry => Text.isUtf8 entry.1 then some (some (ordered table).reverse)
      else none := by
  have perm := ordered_perm table
  have distinct : ((ordered table).map (·.1)).Nodup := (perm.map _).nodup_iff.mpr keyed.distinct
  have stored : Table.empty.insertAll (ordered table) = (ordered table).reverse := by
    rw [Table.insertAll_of_distinct distinct fun _ _ => rfl]
    exact List.append_nil _
  rw [mapOf_map fun n : Int64 => Item.ofInt n.toInt, readOr_eq rfl rfl, table?]
  have read := tableFrom?_tableItems .empty ([], 0) (ordered table)
  rw [tableItems, stored, perm.all_eq] at read
  rw [read]
  split <;> rfl

theorem readOr_registers {registers : Option (Table Int64)}
    (keyed : ∀ table ∈ registers, IsKeyed table) (old : Option (Table Int64)) :
    readOr table? old (.orNull (fun table =>
        .mapOf (table.map fun entry => (entry.1, .ofInt entry.2.toInt))) registers) =
      if registers.all fun table => table.all fun entry => Text.isUtf8 entry.1 then
        some ((registers.map fun table => (ordered table).reverse).or old)
      else none := by
  cases registers with
  | none => rfl
  | some table => exact readOr_table (keyed table rfl) old

/-! ### Records -/

section

variable {ρ : Type}

theorem find?_of_distinct {fields : List (Field ρ)}
    (distinct : (fields.map fun f => Text.ofString f.1).Nodup) {field : Field ρ}
    (listed : field ∈ fields) :
    fields.find? (fun other => decide (Text.ofString other.1 = Text.ofString field.1)) =
      some field := by
  induction fields with
  | nil => contradiction
  | cons first fields inductionHypothesis =>
      rw [List.map_cons, List.nodup_cons] at distinct
      rcases List.mem_cons.mp listed with rfl | below
      · simp
      · have other : Text.ofString first.1 ≠ Text.ofString field.1 := fun same =>
          distinct.1 (List.mem_map.mpr ⟨field, below, same.symm⟩)
        rw [List.find?_cons_of_neg (by simpa using other), inductionHypothesis distinct.2 below]

theorem field?_of_mem {fields : List (Field ρ)}
    (distinct : (fields.map fun f => Text.ofString f.1).Nodup) {field : Field ρ}
    (listed : field ∈ fields) :
    field? fields field.1 = some (field.2, fields.filter fun other => other.1 != field.1) := by
  simp only [field?, find?_of_distinct distinct listed]
  rfl

/-- A record is read field by field, and all values that are given have to be readable. -/
theorem recordFrom?_eq_foldl {ι : Type} {fields : List (Field ρ)}
    (distinct : (fields.map fun f => Text.ofString f.1).Nodup) {field : ι → Field ρ}
    {value : ι → Item} {readable : ι → Bool} {put : ρ → ι → ρ}
    (reads : ∀ record i,
      (field i).2 record (value i) = if readable i then some (put record i) else none)
    {given : List ι} (known : ∀ i ∈ given, field i ∈ fields)
    (once : (given.map fun i => Text.ofString (field i).1).Nodup) (record : ρ) :
    recordFrom? fields record (given.map fun i => (Item.ofText (field i).1, value i)) =
      if given.all readable then some (given.foldl put record) else none := by
  induction given generalizing fields record with
  | nil => rfl
  | cons i given inductionHypothesis =>
      rw [List.map_cons, List.nodup_cons] at once
      obtain ⟨knownHere, knownBelow⟩ := List.forall_mem_cons.mp known
      have valid : Text.isUtf8 (Text.ofString (field i).1) = true :=
        Text.isUtf8_iff.mpr (Text.isUnicode_ofString _)
      have key : (Item.text [Text.ofString (field i).1]).toText? =
          some (Text.ofString (field i).1) := by
        simp [Item.toText?, valid, Text.concat]
      rw [List.map_cons, Item.ofText, recordFrom?, key]
      simp only [bind, Option.bind, field?_of_mem distinct knownHere, reads]
      by_cases readableHere : readable i = true
      · rw [if_pos readableHere, List.all_cons, readableHere, Bool.true_and]
        apply inductionHypothesis
        · exact distinct.sublist (List.filter_sublist.map _)
        · intro j later
          apply List.mem_filter.mpr
          refine ⟨knownBelow j later, bne_iff_ne.mpr ?_⟩
          intro same
          exact once.1 (List.mem_map.mpr ⟨j, later, by rw [same]⟩)
        · exact once.2
      · rw [if_neg readableHere, List.all_cons, Bool.eq_false_iff.mpr readableHere]
        rfl

end

end Report

end Tandem

import Tandem.Proofs.Cbor.Reading
import Tandem.Proofs.Table

set_option autoImplicit false

/-!
The canonical order of maps. Shorter keys come first, and keys of one length are ordered by
their bytes. This order is total, so entries with different keys have one canonical order,
however they were given.
-/

namespace Tandem

namespace Text

theorem le_total (s t : Text) : le s t = true ∨ le t s = true := by
  induction s generalizing t with
  | nil => exact .inl rfl
  | cons a s inductionHypothesis =>
      cases t with
      | nil => exact .inr rfl
      | cons b t =>
          by_cases same : a = b
          · subst same
            simpa [le] using inductionHypothesis t
          · simp only [le, if_neg same, if_neg (Ne.symm same), decide_eq_true_eq]
            grind

theorem le_trans {s t u : Text} (first : le s t = true) (second : le t u = true) :
    le s u = true := by
  induction s generalizing t u with
  | nil => rfl
  | cons a s inductionHypothesis =>
      cases t with
      | nil => contradiction
      | cons b t =>
          cases u with
          | nil => contradiction
          | cons c u =>
              simp only [le] at first second ⊢
              grind

theorem le_antisymm {s t : Text} (first : le s t = true) (second : le t s = true) : s = t := by
  induction s generalizing t with
  | nil =>
      cases t with
      | nil => rfl
      | cons b t => contradiction
  | cons a s inductionHypothesis =>
      cases t with
      | nil => contradiction
      | cons b t =>
          simp only [le] at first second
          grind

end Text

namespace Cbor

/-- The canonical order of keys. -/
def keyLe (s t : Text) : Bool := canonicalLe (Item.ofText s).encode (Item.ofText t).encode

@[simp]
theorem canonicalLe_iff {s t : Text} :
    canonicalLe s t = true ↔ s.length < t.length ∨ s.length = t.length ∧
      Text.le s t = true := by
  simp [canonicalLe]

theorem keyLe_total (s t : Text) : (keyLe s t || keyLe t s) = true := by
  simp only [Bool.or_eq_true, keyLe, canonicalLe_iff]
  have bytes := Text.le_total (Item.ofText s).encode (Item.ofText t).encode
  grind

theorem keyLe_trans {s t u : Text} (first : keyLe s t = true) (second : keyLe t u = true) :
    keyLe s u = true := by
  simp only [keyLe, canonicalLe_iff] at first second ⊢
  have bytes := @Text.le_trans (Item.ofText s).encode (Item.ofText t).encode (Item.ofText u).encode
  grind

theorem keyLe_antisymm {s t : Text} (addressable : s.length < UInt64.size)
    (other : t.length < UInt64.size) (first : keyLe s t = true) (second : keyLe t s = true) :
    s = t := by
  apply Item.ofText_encode_inj addressable other
  simp only [keyLe, canonicalLe_iff] at first second
  apply Text.le_antisymm <;> grind

section

variable {α : Type}

/-- The entries of a table in canonical order. -/
def ordered (table : Table α) : Table α := table.mergeSort fun a b => keyLe a.1 b.1

/-- A table with one value for each key, all of them of a length that a machine can address. -/
structure IsKeyed (table : Table α) : Prop where
  distinct : (table.map (·.1)).Nodup
  addressable : ∀ entry ∈ table, entry.1.length < UInt64.size

theorem IsKeyed.map {β : Type} {table : Table α} (keyed : IsKeyed table) (f : α → β) :
    IsKeyed (table.map fun entry => (entry.1, f entry.2)) := by
  refine ⟨by simpa [Function.comp_def] using keyed.distinct, ?_⟩
  intro entry listed
  obtain ⟨old, inTable, rfl⟩ := List.mem_map.mp listed
  exact keyed.addressable old inTable

theorem ordered_perm (table : Table α) : (ordered table).Perm table := List.mergeSort_perm _ _

theorem pairwise_ordered (table : Table α) :
    (ordered table).Pairwise fun a b => keyLe a.1 b.1 = true := by
  unfold ordered
  apply List.pairwise_mergeSort
  · intro a b c first second
    exact keyLe_trans first second
  · intro a b
    exact keyLe_total a.1 b.1

theorem ordered_eq_of_perm {s t : Table α} (keyed : IsKeyed s) (perm : s.Perm t) :
    ordered s = ordered t := by
  apply List.Perm.eq_of_pairwise _ (pairwise_ordered s) (pairwise_ordered t)
    ((ordered_perm s).trans (perm.trans (ordered_perm t).symm))
  intro a b inFirst inSecond first second
  have listed := (ordered_perm s).mem_iff.mp inFirst
  have alsoListed := perm.mem_iff.mpr ((ordered_perm t).mem_iff.mp inSecond)
  apply Table.entry_eq_of_key keyed.distinct listed alsoListed
  exact keyLe_antisymm (keyed.addressable a listed) (keyed.addressable b alsoListed) first second

theorem ordered_of_pairwise {table : Table α}
    (pairwise : (table.map (·.1)).Pairwise fun s t => keyLe s t = true) : ordered table = table :=
  List.mergeSort_of_pairwise (List.pairwise_map.mp pairwise)

end

theorem mapOf_map {α : Type} (f : α → Item) (table : Table α) :
    Item.mapOf (table.map fun entry => (entry.1, f entry.2)) =
      .map ((ordered table).map fun entry => (Item.ofText entry.1, f entry.2)) := by
  rw [Item.mapOf, List.map_map, ordered, List.map_mergeSort]
  · rfl
  · intro a _ b _
    rfl

theorem mapOf_eq (entries : Table Item) :
    Item.mapOf entries =
      .map ((ordered entries).map fun entry => (Item.ofText entry.1, entry.2)) := by
  have same := mapOf_map id entries
  simpa using same

theorem mapOf_eq_of_perm {s t : Table Item} (keyed : IsKeyed s) (perm : s.Perm t) :
    Item.mapOf s = Item.mapOf t := by
  rw [mapOf_eq, mapOf_eq, ordered_eq_of_perm keyed perm]

/-- A map is written in the canonical order of its keys, whatever the order it is given in. -/
theorem mapOf_of_order {ι : Type} (name : ι → Text) (value : ι → Item)
    {given order : List ι} (perm : given.Perm order) (distinct : (given.map name).Nodup)
    (addressable : ∀ i ∈ given, (name i).length < UInt64.size)
    (pairwise : (order.map name).Pairwise fun s t => keyLe s t = true) :
    Item.mapOf (given.map fun i => (name i, value i)) =
      .map (order.map fun i => (Item.ofText (name i), value i)) := by
  have keyed : IsKeyed (given.map fun i => (name i, value i)) := by
    refine ⟨by simpa [Function.comp_def] using distinct, ?_⟩
    intro entry listed
    obtain ⟨i, inGiven, rfl⟩ := List.mem_map.mp listed
    exact addressable i inGiven
  have canonical : ordered (order.map fun i => (name i, value i)) =
      order.map fun i => (name i, value i) :=
    ordered_of_pairwise (by simpa [Function.comp_def] using pairwise)
  rw [mapOf_eq_of_perm keyed (perm.map _), mapOf_eq, canonical, List.map_map]
  rfl

end Cbor

end Tandem

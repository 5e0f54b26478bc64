import Tandem.Table

set_option autoImplicit false

/-!
Looking up what was stored in a table. The last value that was stored for a key counts, and what a
table with distinct keys holds does not depend on the order in which its entries are listed.
-/

namespace Tandem.Table

variable {α : Type}

@[simp]
theorem find?_cons (t : Table α) (k key : Text) (value : α) :
    find? ((k, value) :: t) key = if key = k then some value else t.find? key := by
  by_cases same : key = k
  · simp [find?, same]
  · simp [find?, List.lookup_cons, beq_eq_false_iff_ne.mpr same, same]

theorem mem_of_find? {t : Table α} {key : Text} {value : α} (found : t.find? key = some value) :
    (key, value) ∈ t := by
  obtain ⟨before, after, rfl, _⟩ := List.lookup_eq_some_iff.mp found
  simp

theorem entry_eq_of_key {t : Table α} (distinct : (t.map (·.1)).Nodup) {a b : Text × α}
    (first : a ∈ t) (second : b ∈ t) (same : a.1 = b.1) : a = b := by
  induction t with
  | nil => contradiction
  | cons entry t inductionHypothesis =>
      rw [List.map_cons, List.nodup_cons] at distinct
      obtain ⟨fresh, distinct⟩ := distinct
      have absent : ∀ other ∈ t, entry.1 ≠ other.1 := fun other listed equal =>
        fresh (List.mem_map.mpr ⟨other, listed, equal.symm⟩)
      rcases List.mem_cons.mp first with rfl | firstBelow
      · rcases List.mem_cons.mp second with rfl | secondBelow
        · rfl
        · exact absurd same (absent b secondBelow)
      · rcases List.mem_cons.mp second with rfl | secondBelow
        · exact absurd same.symm (absent a firstBelow)
        · exact inductionHypothesis distinct firstBelow secondBelow

theorem find?_eq_some_iff {t : Table α} (distinct : (t.map (·.1)).Nodup) {key : Text}
    {value : α} :
    t.find? key = some value ↔ (key, value) ∈ t := by
  refine ⟨mem_of_find?, fun listed => ?_⟩
  cases found : t.find? key with
  | none => exact absurd rfl (bne_iff_ne.mp (List.lookup_eq_none_iff.mp found (key, value) listed))
  | some other =>
      have same : (key, other) = (key, value) :=
        entry_eq_of_key distinct (mem_of_find? found) listed rfl
      rw [(Prod.mk.inj same).2]

theorem find?_filter_ne (t : Table α) {k key : Text} (other : key ≠ k) :
    find? (t.filter fun entry => entry.1 != k) key = t.find? key := by
  induction t with
  | nil => rfl
  | cons entry t inductionHypothesis =>
      obtain ⟨name, value⟩ := entry
      by_cases removed : name = k
      · subst removed
        simpa [other] using inductionHypothesis
      · simp [removed, inductionHypothesis]

@[simp]
theorem find?_insert (t : Table α) (k key : Text) (value : α) :
    (t.insert k value).find? key = if key = k then some value else t.find? key := by
  rw [insert, find?_cons]
  by_cases same : key = k
  · rw [if_pos same, if_pos same]
  · rw [if_neg same, if_neg same, find?_filter_ne t same]

theorem distinct_empty : ((empty : Table α).map (·.1)).Nodup := List.nodup_nil

theorem distinct_insert {t : Table α} (distinct : (t.map (·.1)).Nodup) (k : Text) (value : α) :
    ((t.insert k value).map (·.1)).Nodup := by
  rw [insert, List.map_cons, List.nodup_cons]
  constructor
  · simp
  · exact distinct.sublist (List.filter_sublist.map _)

theorem distinct_insertAll {t : Table α} (distinct : (t.map (·.1)).Nodup)
    (entries : List (Text × α)) :
    ((t.insertAll entries).map (·.1)).Nodup := by
  induction entries generalizing t with
  | nil => exact distinct
  | cons entry entries inductionHypothesis =>
      exact inductionHypothesis (distinct_insert distinct _ _)

/-- The value in the last entry for a key. -/
def lastValue? (entries : List (Text × α)) (key : Text) : Option α :=
  (entries.filter fun entry => entry.1 = key).getLast?.map (·.2)

@[simp]
theorem lastValue?_append (first second : List (Text × α)) (key : Text) :
    lastValue? (first ++ second) key = (lastValue? second key).or (lastValue? first key) := by
  simp [lastValue?, Option.map_or]

@[simp]
theorem lastValue?_cons (k : Text) (value : α) (entries : List (Text × α)) (key : Text) :
    lastValue? ((k, value) :: entries) key =
      (lastValue? entries key).or (if key = k then some value else none) := by
  rw [← List.singleton_append, lastValue?_append]
  by_cases same : key = k
  · simp [lastValue?, same]
  · simp [lastValue?, same, Ne.symm same]

@[simp]
theorem find?_insertAll (t : Table α) (entries : List (Text × α)) (key : Text) :
    (t.insertAll entries).find? key = (lastValue? entries key).or (t.find? key) := by
  induction entries generalizing t with
  | nil => rfl
  | cons entry entries inductionHypothesis =>
      obtain ⟨k, value⟩ := entry
      have once : t.insertAll ((k, value) :: entries) = (t.insert k value).insertAll entries := rfl
      rw [once, inductionHypothesis, find?_insert, lastValue?_cons, Option.or_assoc]
      by_cases same : key = k <;> simp [same]

/-- However the entries of a table are listed, the last one for a key is the only one. -/
theorem lastValue?_of_perm {t : Table α} (distinct : (t.map (·.1)).Nodup)
    {listed : List (Text × α)} (reordered : listed.Perm t) (key : Text) :
    lastValue? listed key = t.find? key := by
  have stillDistinct : (listed.map (·.1)).Nodup := (reordered.map _).nodup_iff.mpr distinct
  apply Option.ext
  intro value
  rw [find?_eq_some_iff distinct, ← reordered.mem_iff, lastValue?]
  constructor
  · intro found
    obtain ⟨entry, last, rfl⟩ := Option.map_eq_some_iff.mp found
    obtain ⟨member, rfl⟩ : entry ∈ listed ∧ entry.1 = key := by
      simpa using List.mem_of_getLast? last
    exact member
  · intro member
    have kept : (key, value) ∈ listed.filter fun entry => entry.1 = key := by simpa using member
    obtain ⟨last, found⟩ :
        ∃ last, (listed.filter fun entry => entry.1 = key).getLast? = some last :=
      Option.ne_none_iff_exists'.mp fun none => by simp [List.getLast?_eq_none_iff.mp none] at kept
    -- no other entry has this key, so this is the last one
    obtain ⟨lastMember, lastKey⟩ : last ∈ listed ∧ last.1 = key := by
      simpa using List.mem_of_getLast? found
    rw [found, entry_eq_of_key stillDistinct lastMember member lastKey]
    rfl

/-- Storing one value under several keys. -/
theorem find?_insertAll_const (t : Table α) (keys : List Text) (key : Text) (value : α) :
    (t.insertAll (keys.map fun k => (k, value))).find? key =
      if key ∈ keys then some value else t.find? key := by
  induction keys generalizing t with
  | nil => simp [insertAll]
  | cons k keys inductionHypothesis =>
      have once : t.insertAll ((k :: keys).map fun k => (k, value)) =
          (t.insert k value).insertAll (keys.map fun k => (k, value)) := rfl
      rw [once, inductionHypothesis, find?_insert]
      by_cases later : key ∈ keys
      · simp [later]
      · simp [later]

theorem insert_of_find?_eq_none {t : Table α} {k : Text} (absent : t.find? k = none) (value : α) :
    t.insert k value = (k, value) :: t := by
  rw [insert]
  congr 1
  apply List.filter_eq_self.mpr
  rintro ⟨name, found⟩ listed
  have other : k ≠ name := bne_iff_ne.mp (List.lookup_eq_none_iff.mp absent (name, found) listed)
  exact bne_iff_ne.mpr other.symm

/-- Entries under one key do not matter where that key is left out in the end. -/
theorem filter_ne_insertAll {t u : Table α} {k : Text}
    (same : t.filter (fun entry => entry.1 != k) = u.filter fun entry => entry.1 != k)
    (entries : List (Text × α)) :
    ((t.insertAll entries).filter fun entry => entry.1 != k) =
      (u.insertAll entries).filter fun entry => entry.1 != k := by
  induction entries generalizing t u with
  | nil => exact same
  | cons entry entries inductionHypothesis =>
      obtain ⟨name, value⟩ := entry
      apply inductionHypothesis
      have swapped : ∀ v : Table α, (v.insert name value).filter (fun entry => entry.1 != k) =
          (if name = k then [] else [(name, value)]) ++
            (v.filter fun entry => entry.1 != k).filter fun entry => entry.1 != name := by
        intro v
        rw [List.filter_filter]
        by_cases left : name = k <;> simp [insert, left, Bool.and_comm]
      rw [swapped, swapped, same]

end Tandem.Table

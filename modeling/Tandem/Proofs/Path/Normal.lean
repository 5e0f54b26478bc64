import Mathlib.Logic.Relation
import Tandem.Path

set_option autoImplicit false

/-!
Normal forms of absolute names. A list of components below the root may be shortened where a
component is empty or `.`, where a `..` follows a proper component, which goes with it, and where a
`..` comes first. In whatever order this is done, it ends with the same proper components, and those
are what the stack of `normalize` holds in the end.
-/

namespace Tandem.Path

/-- A component that leads to something inside the directory it is in. -/
def IsProper (c : Text) : Prop := c ≠ [] ∧ c ≠ here ∧ c ≠ up

/-- One place in a list of components below the root is shortened. -/
inductive Shortens : List Text → List Text → Prop where
  | empty (before after : List Text) : Shortens (before ++ [] :: after) (before ++ after)
  | here (before after : List Text) : Shortens (before ++ here :: after) (before ++ after)
  | cancel (before : List Text) {c : Text} (after : List Text) :
      IsProper c → Shortens (before ++ c :: up :: after) (before ++ after)
  | root (after : List Text) : Shortens (up :: after) after

/-- Any number of places are shortened, one after the other. -/
def Reduces : List Text → List Text → Prop := Relation.ReflTransGen Shortens

/-- The components of a name that are not empty. -/
def parts (t : Text) : List Text := (t.splitOn slash).filter (· ≠ [])

/-- The name starts at the root, has only proper components below it, and does not end with a slash,
unless it is the root itself. -/
structure IsNormal (t : Text) : Prop where
  absolute : isAbsolute t = true
  proper : t = [slash] ∨ ∀ c ∈ (t.splitOn slash).tail, IsProper c
  unclosed : t = [slash] ∨ t.getLast? ≠ some slash

/-! ### Components -/

theorem components_eq_splitOn (t : Text) : components t = t.splitOn slash := by
  induction t with
  | nil => rfl
  | cons b rest inductionHypothesis =>
      rw [List.splitOn_eq_splitOnP, List.splitOnP_cons_eq_if_modifyHead,
        ← List.splitOn_eq_splitOnP, components, inductionHypothesis]
      by_cases separates : b = slash
      · simp [separates]
      · obtain ⟨first, others, split⟩ :=
          List.exists_cons_of_ne_nil (List.splitOn_ne_nil slash rest)
        simp [separates, split]

theorem components_join (directory name : Text) :
    components (directory ++ slash :: name) = directory.splitOn slash ++ name.splitOn slash := by
  rw [components_eq_splitOn, List.splitOn_append_cons_self]

theorem slash_not_mem_of_mem_components {t c : Text} (listed : c ∈ components t) :
    slash ∉ c := by
  induction t generalizing c with
  | nil => simp_all [components]
  | cons b rest inductionHypothesis =>
      rw [components] at listed
      split at listed
      next =>
        rcases List.mem_cons.mp listed with rfl | below
        · exact List.not_mem_nil
        · exact inductionHypothesis below
      next other =>
        split at listed
        next => simpa [List.mem_singleton.mp listed] using Ne.symm other
        next first others split =>
          rcases List.mem_cons.mp listed with rfl | below
          · have inside : slash ∉ first := inductionHypothesis (by simp [split])
            simpa [Ne.symm other] using inside
          · exact inductionHypothesis (by simp [split, below])

/-! ### The stack -/

section Stack

variable {c : Text} {done : List Text}

theorem push_of_proper (proper : IsProper c) (absolute : Bool) :
    push absolute done c = c :: done := by
  obtain ⟨nonempty, notHere, notUp⟩ := proper
  simp [push, nonempty, notHere, notUp]

@[simp]
theorem push_empty (absolute : Bool) : push absolute done [] = done := by simp [push]

@[simp]
theorem push_here (absolute : Bool) : push absolute done here = done := by simp [push]

@[simp]
theorem push_up_root : push true [] up = [] := by decide

@[simp]
theorem push_up_of_proper (proper : IsProper c) : push true (c :: done) up = done := by
  have kind : ¬ (up = [] ∨ up = here) := by decide
  simp [push, kind, proper.2.2]

/-- All that a component can do to a stack of proper components. -/
theorem push_cases (proper : ∀ p ∈ done, IsProper p) (c : Text) :
    (c = [] ∨ c = here) ∧ push true done c = done ∨
      c = up ∧ done = [] ∧ push true done c = [] ∨
      (∃ last before, c = up ∧ done = last :: before ∧ IsProper last ∧
        push true done c = before) ∨
      IsProper c ∧ push true done c = c :: done := by
  by_cases nothing : c = [] ∨ c = here
  · refine .inl ⟨nothing, ?_⟩
    rcases nothing with rfl | rfl
    · exact push_empty true
    · exact push_here true
  · by_cases above : c = up
    · subst above
      cases done with
      | nil => exact .inr (.inl ⟨rfl, rfl, push_up_root⟩)
      | cons last before =>
          have properLast : IsProper last := proper last (by simp)
          exact .inr
            (.inr (.inl ⟨last, before, rfl, rfl, properLast, push_up_of_proper properLast⟩))
    · have properC : IsProper c :=
        ⟨fun e => nothing (.inl e), fun h => nothing (.inr h), above⟩
      exact .inr (.inr (.inr ⟨properC, push_of_proper properC true⟩))

theorem proper_push (proper : ∀ p ∈ done, IsProper p) (c : Text) :
    ∀ p ∈ push true done c, IsProper p := by
  rcases push_cases proper c with ⟨_, pushed⟩ | ⟨_, _, pushed⟩ |
    ⟨last, before, _, rfl, _, pushed⟩ | ⟨properC, pushed⟩
  · rwa [pushed]
  · simp [pushed]
  · rw [pushed]
    exact fun p listed => proper p (List.mem_cons_of_mem last listed)
  · rw [pushed]
    exact List.forall_mem_cons.mpr ⟨properC, proper⟩

theorem proper_foldl_push (proper : ∀ p ∈ done, IsProper p) (cs : List Text) :
    ∀ p ∈ cs.foldl (push true) done, IsProper p := by
  induction cs generalizing done with
  | nil => exact proper
  | cons c cs inductionHypothesis => exact inductionHypothesis (proper_push proper c)

/-- What the stack does with a component shortens the list of components, or leaves it as it is. -/
theorem reduces_push (proper : ∀ p ∈ done, IsProper p) (c : Text) (rest : List Text) :
    Reduces (done.reverse ++ c :: rest) ((push true done c).reverse ++ rest) := by
  rcases push_cases proper c with ⟨nothing, pushed⟩ | ⟨rfl, rfl, pushed⟩ |
    ⟨last, before, rfl, rfl, properLast, pushed⟩ | ⟨_, pushed⟩
  · rw [pushed]
    rcases nothing with rfl | rfl
    · exact .single (.empty _ _)
    · exact .single (.here _ _)
  · rw [pushed]
    exact .single (.root rest)
  · rw [pushed, List.reverse_cons, List.append_assoc]
    exact .single (.cancel _ _ properLast)
  · rw [pushed, List.reverse_cons, List.append_assoc]
    exact .refl

theorem reduces_foldl_push (proper : ∀ p ∈ done, IsProper p) (cs : List Text) :
    Reduces (done.reverse ++ cs) (cs.foldl (push true) done).reverse := by
  induction cs generalizing done with
  | nil => rw [List.append_nil]; exact .refl
  | cons c cs inductionHypothesis =>
      exact (reduces_push proper c cs).trans (inductionHypothesis (proper_push proper c))

theorem foldl_push_of_proper {cs : List Text} (proper : ∀ c ∈ cs, IsProper c) :
    cs.foldl (push true) done = cs.reverse ++ done := by
  induction cs generalizing done with
  | nil => rfl
  | cons c cs inductionHypothesis =>
      obtain ⟨properC, properRest⟩ := List.forall_mem_cons.mp proper
      rw [List.foldl_cons, push_of_proper properC, inductionHypothesis properRest,
        List.reverse_cons, List.append_assoc]
      rfl

end Stack

/-! ### Normal lists of components -/

theorem proper_nil : ∀ c ∈ ([] : List Text), IsProper c :=
  fun _ listed => absurd listed List.not_mem_nil

theorem proper_normalize (cs : List Text) : ∀ c ∈ normalize true cs, IsProper c :=
  fun c listed => proper_foldl_push proper_nil cs c (List.mem_reverse.mp listed)

theorem reduces_normalize (cs : List Text) : Reduces cs (normalize true cs) :=
  reduces_foldl_push proper_nil cs

theorem normalize_of_proper {cs : List Text} (proper : ∀ c ∈ cs, IsProper c) :
    normalize true cs = cs := by
  rw [normalize, foldl_push_of_proper proper, List.append_nil, List.reverse_reverse]

/-- The stack cannot tell a list of components from one that has been shortened. -/
theorem Shortens.normalize_eq {cs rest : List Text} (shorter : Shortens cs rest) :
    normalize true cs = normalize true rest := by
  unfold normalize
  congr 1
  -- the stack is the same before the place that is shortened, and again after it
  cases shorter with
  | empty before after => simp
  | here before after => simp
  | cancel before after proper =>
      rw [List.foldl_append, List.foldl_append, List.foldl_cons, List.foldl_cons,
        push_of_proper proper, push_up_of_proper proper]
  | root => simp

theorem Reduces.normalize_eq {cs rest : List Text} (shorter : Reduces cs rest) :
    normalize true cs = normalize true rest := by
  induction shorter with
  | refl => rfl
  | tail _ step inductionHypothesis => exact inductionHypothesis.trans step.normalize_eq

/-- Shortening can end with proper components in one way only. -/
theorem reduces_proper_iff (cs rest : List Text) :
    (Reduces cs rest ∧ ∀ c ∈ rest, IsProper c) ↔ rest = normalize true cs := by
  constructor
  · rintro ⟨shorter, proper⟩
    rw [shorter.normalize_eq, normalize_of_proper proper]
  · rintro rfl
    exact ⟨reduces_normalize cs, proper_normalize cs⟩

theorem Shortens.sublist {cs rest : List Text} (shorter : Shortens cs rest) : rest.Sublist cs := by
  cases shorter with
  | empty before after => exact (List.sublist_cons_self _ _).append_left before
  | here before after => exact (List.sublist_cons_self _ _).append_left before
  | cancel before after _ =>
      exact ((List.sublist_cons_self _ _).trans (List.sublist_cons_self _ _)).append_left before
  | root => exact List.sublist_cons_self _ _

theorem Reduces.sublist {cs rest : List Text} (shorter : Reduces cs rest) : rest.Sublist cs := by
  induction shorter with
  | refl => exact List.Sublist.refl cs
  | tail _ step inductionHypothesis => exact step.sublist.trans inductionHypothesis

/-! ### Normal names -/

section Names

variable {cs : List Text}

theorem splitOn_render (nonempty : cs ≠ []) (inside : ∀ c ∈ cs, slash ∉ c) :
    (render true cs).splitOn slash = [] :: cs := by
  have whole : render true cs = [] ++ slash :: [slash].intercalate cs := rfl
  rw [whole, List.splitOn_append_cons_self_of_not_mem List.not_mem_nil,
    List.splitOn_intercalate slash inside nonempty]

theorem parts_render (proper : ∀ c ∈ cs, IsProper c) (inside : ∀ c ∈ cs, slash ∉ c) :
    parts (render true cs) = cs := by
  by_cases atRoot : cs = []
  · subst atRoot
    decide
  · rw [parts, splitOn_render atRoot inside, List.filter_cons_of_neg (by simp)]
    apply List.filter_eq_self.mpr
    exact fun c listed => decide_eq_true (proper c listed).1

/-- A slash at the end would be followed by an empty component. -/
theorem getLast?_ne_slash {t : Text} (proper : ∀ c ∈ (t.splitOn slash).tail, IsProper c) :
    t.getLast? ≠ some slash := by
  intro closed
  obtain ⟨front, rfl⟩ := List.getLast?_eq_some_iff.mp closed
  have last : ([] : Text) ∈ ((front ++ [slash]).splitOn slash).tail := by
    obtain ⟨first, others, split⟩ :=
      List.exists_cons_of_ne_nil (List.splitOn_ne_nil slash front)
    rw [List.splitOn_append_cons_self, split, List.splitOn_nil]
    simp
  exact (proper [] last).1 rfl

theorem isNormal_render (proper : ∀ c ∈ cs, IsProper c) (inside : ∀ c ∈ cs, slash ∉ c) :
    IsNormal (render true cs) := by
  have absolute : isAbsolute (render true cs) = true := by simp [isAbsolute, render]
  by_cases atRoot : cs = []
  · have root : render true cs = [slash] := by
      subst atRoot
      rfl
    exact ⟨absolute, .inl root, .inl root⟩
  · have properTail : ∀ c ∈ ((render true cs).splitOn slash).tail, IsProper c := by
      rwa [splitOn_render atRoot inside]
    exact ⟨absolute, .inr properTail, .inr (getLast?_ne_slash properTail)⟩

end Names

theorem slash_not_mem_normalize (t : Text) : ∀ c ∈ normalize true (components t), slash ∉ c :=
  fun _ listed => slash_not_mem_of_mem_components ((reduces_normalize _).sublist.subset listed)

section Clean

variable {t : Text}

theorem clean_of_isAbsolute (absolute : isAbsolute t = true) :
    clean t = render true (normalize true (components t)) := by
  rw [clean, absolute]

theorem isNormal_clean (absolute : isAbsolute t = true) : IsNormal (clean t) := by
  rw [clean_of_isAbsolute absolute]
  exact isNormal_render (proper_normalize _) (slash_not_mem_normalize t)

theorem parts_clean (absolute : isAbsolute t = true) :
    parts (clean t) = normalize true (components t) := by
  rw [clean_of_isAbsolute absolute]
  exact parts_render (proper_normalize _) (slash_not_mem_normalize t)

theorem isAbsolute_append (absolute : isAbsolute t = true) (rest : Text) :
    isAbsolute (t ++ rest) = true := by
  cases t with
  | nil => contradiction
  | cons b t => exact absolute

end Clean

end Tandem.Path

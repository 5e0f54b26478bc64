import Mathlib.Data.List.Basic
import Tandem.Proofs.Cbor.Reading

set_option autoImplicit false

/-!
Items delimit themselves. A reader that has found an item at the start of a text finds the same item
at the start of every longer text, and leaves all that was added. So no text that is exactly one
item is the beginning of another one.

This is shown for the readers in the order in which they call each other. Fuel may be added together
with text, since the fuel of `decode?` grows with its text.
-/

namespace Tandem.Cbor

/-- Where the first reading succeeds, the second one gives the same and leaves more text. -/
def Leaves {α : Type} (more : Text) (first second : Option (α × Text)) : Prop :=
  ∀ ⦃a : α⦄ ⦃rest : Text⦄, first = some (a, rest) → second = some (a, rest ++ more)

namespace Leaves

variable {α β γ : Type} {more : Text} {first second : Option (α × Text)}

theorem none : Leaves more none second := by
  intro a rest read
  contradiction

theorem some (a : α) (rest : Text) : Leaves more (some (a, rest)) (some (a, rest ++ more)) := by
  intro _ _ read
  cases read
  rfl

theorem map (leaves : Leaves more first second) (f : α → β) :
    Leaves more (first.map fun (a, rest) => (f a, rest))
      (second.map fun (a, rest) => (f a, rest)) := by
  intro b rest read
  obtain ⟨⟨a, left⟩, found, same⟩ := Option.map_eq_some_iff.mp read
  cases same
  rw [leaves found]
  rfl

theorem bind {x : Option γ} {f g : γ → Option (α × Text)}
    (each : ∀ c, Leaves more (f c) (g c)) :
    Leaves more (x.bind f) (x.bind g) := by
  cases x with
  | none => exact .none
  | some c => exact each c

theorem ite {c : Prop} [Decidable c] {f g : Option (α × Text)} (yes : Leaves more first second)
    (no : Leaves more f g) : Leaves more (if c then first else f) (if c then second else g) := by
  by_cases holds : c
  · rw [if_pos holds, if_pos holds]
    exact yes
  · rw [if_neg holds, if_neg holds]
    exact no

end Leaves

/-! ### Heads and strings -/

@[simp]
theorem take?_eq_some_iff {n : Nat} {t first rest : Text} :
    take? n t = some (first, rest) ↔ t = first ++ rest ∧ first.length = n := by
  constructor
  · intro taken
    unfold take? at taken
    simp only at taken
    split at taken
    next enough =>
      cases taken
      exact ⟨(List.take_append_drop n t).symm, enough⟩
    next => contradiction
  · rintro ⟨rfl, length⟩
    exact take?_append length rest

theorem leaves_take? (n : Nat) (t more : Text) : Leaves more (take? n t) (take? n (t ++ more)) := by
  intro first rest taken
  obtain ⟨rfl, length⟩ := take?_eq_some_iff.mp taken
  rw [List.append_assoc]
  exact take?_append length (rest ++ more)

theorem head?_cons (b : UInt8) (t : Text) :
    head? (b :: t) =
      if b.toNat % 32 < 24 then some (b.toNat / 32, .value (b.toNat % 32), t)
      else match width? (b.toNat % 32) with
        | some width => (take? width t).map fun (content, rest) =>
          (b.toNat / 32, .wide content, rest)
        | none => if b.toNat % 32 = 31 then some (b.toNat / 32, .indefinite, t) else none := by
  unfold head? width?
  grind

theorem head?_append_right {t rest : Text} {major : Nat} {argument : Argument}
    (headed : head? t = some (major, argument, rest)) (more : Text) :
    head? (t ++ more) = some (major, argument, rest ++ more) := by
  cases t with
  | nil => contradiction
  | cons b t =>
      rw [head?_cons] at headed
      rw [List.cons_append, head?_cons]
      by_cases short : b.toNat % 32 < 24
      · rw [if_pos short] at headed ⊢
        cases headed
        rfl
      · rw [if_neg short] at headed ⊢
        cases long : width? (b.toNat % 32) with
        | none =>
            simp only [long] at headed ⊢
            split at headed
            next indefinite =>
              cases headed
              rw [if_pos indefinite]
            next => contradiction
        | some width =>
            simp only [long] at headed ⊢
            obtain ⟨⟨content, left⟩, taken, same⟩ := Option.map_eq_some_iff.mp headed
            cases same
            rw [leaves_take? width t more taken]
            rfl

theorem leaves_chunks? {major fuel enough : Nat} (atLeast : fuel ≤ enough) (seen : List Text)
    (t more : Text) :
    Leaves more (chunks? major fuel seen t) (chunks? major enough seen (t ++ more)) := by
  induction fuel generalizing enough seen t with
  | zero => exact .none
  | succ fuel inductionHypothesis =>
      obtain ⟨enough, rfl⟩ := Nat.exists_eq_add_one_of_ne_zero (show enough ≠ 0 by omega)
      cases t with
      | nil => exact .none
      | cons b t =>
          rw [chunks?, chunks?, List.head?_append_of_ne_nil _ (List.cons_ne_nil b t)]
          apply Leaves.ite
          · exact .some _ _
          · intro found rest read
            obtain ⟨⟨m, argument, left⟩, headed, read⟩ := Option.bind_eq_some_iff.mp read
            obtain ⟨n, counted, read⟩ := Option.bind_eq_some_iff.mp read
            split at read
            next same =>
              obtain ⟨⟨chunk, left⟩, taken, read⟩ := Option.bind_eq_some_iff.mp read
              simp only [head?_append_right headed, counted, same, leaves_take? _ _ more taken,
                if_true, bind, Option.bind_some]
              exact inductionHypothesis (by omega) (chunk :: seen) left read
            next => contradiction

/-! ### What follows a head -/

/-- The chunks of a string. -/
def string? (major : Nat) (argument : Argument) (rest : Text) : Option (List Text × Text) :=
  match argument.toNat? with
  | some n => (take? n rest).map fun (chunk, rest) => ([chunk], rest)
  | none => chunks? major (rest.length + 1) [] rest

/-- The elements of an array or map, `width` for each that is counted; at most
`most` before a break. -/
def elements? (fuel depth width most : Nat) (argument : Argument) (rest : Text) :
    Option (List Item × Text) :=
  match argument.toNat? with
  | some n => if elementLimit < n then none else items? fuel depth (width * n) [] rest
  | none => itemsToBreak? fuel depth most [] rest

/-- The depth of what a tag is put on; only a tag on a tag counts. -/
def depthBelowTag (depth : Nat) (rest : Text) : Nat :=
  if rest.head?.any fun b => b.toNat / 32 = 6 then depth + 1 else depth

def simple? : Argument → Option Item
  | .value n => some (.simple n)
  | .wide [b] => if b.toNat < 32 then none else some (.simple b.toNat)
  | .wide content => some (.float content)
  | .indefinite => none

/-- The item whose head has been read. -/
def content? (fuel depth major : Nat) (argument : Argument) (rest : Text) : Option (Item × Text) :=
  match major with
  | 0 => argument.toNat?.bind fun n => some (.unsigned n, rest)
  | 1 => argument.toNat?.bind fun n => some (.negative n, rest)
  | 2 => (string? 2 argument rest).map fun (chunks, rest) => (.bytes chunks, rest)
  | 3 => (string? 3 argument rest).map fun (chunks, rest) => (.text chunks, rest)
  | 4 =>
      if depthLimit ≤ depth then none
      else (elements? fuel (depth + 1) 1 elementLimit argument rest).map fun (items, rest) =>
        (.array items, rest)
  | 5 =>
      if depthLimit ≤ depth then none
      else (elements? fuel (depth + 1) 2 (2 * elementLimit + 1) argument rest).bind
        fun (items, rest) =>
        (pairUp items).bind fun entries => some (.map entries, rest)
  | 6 =>
      argument.toNat?.bind fun number =>
        if depthLimit < depthBelowTag depth rest then none
        else (item? fuel (depthBelowTag depth rest) rest).map fun (content, rest) =>
          (.tag number content, rest)
  | _ => (simple? argument).bind fun item => some (item, rest)

theorem item?_succ (fuel depth : Nat) (t : Text) :
    item? (fuel + 1) depth t =
      (head? t).bind fun (major, argument, rest) => content? fuel depth major argument rest := by
  rw [item?]
  cases head? t with
  | none => rfl
  | some headed =>
      obtain ⟨major, argument, rest⟩ := headed
      simp only [bind, Option.bind_some, content?, string?, elements?, Option.map_eq_bind]
      split
      next => rfl
      next => rfl
      next => cases argument.toNat? <;> rfl
      next => cases argument.toNat? <;> rfl
      next =>
        simp only [Nat.one_mul]
        cases argument.toNat? with
        | none => rfl
        | some n => by_cases many : elementLimit < n <;> simp only [many, if_true, if_false] <;> rfl
      next =>
        cases argument.toNat? with
        | none => rfl
        | some n => by_cases many : elementLimit < n <;> simp only [many, if_true, if_false] <;> rfl
      next => rfl
      next =>
        unfold simple?
        grind

@[simp]
theorem item?_nil (fuel depth : Nat) : item? fuel depth [] = none := by
  cases fuel with
  | zero => rw [item?]
  | succ fuel =>
      rw [item?_succ]
      rfl

theorem leaves_string? (major : Nat) (argument : Argument) (t more : Text) :
    Leaves more (string? major argument t) (string? major argument (t ++ more)) := by
  unfold string?
  cases argument.toNat? with
  | none => exact leaves_chunks? (by simp) [] t more
  | some n => exact (leaves_take? n t more).map fun chunk => [chunk]

/-! ### Items -/

/-- What is read with this fuel is also read with more fuel and in front of more text. -/
structure IsSteady (fuel : Nat) : Prop where
  item {enough : Nat} (atLeast : fuel ≤ enough) (depth : Nat) (t more : Text) :
    Leaves more (item? fuel depth t) (item? enough depth (t ++ more))
  items {enough : Nat} (atLeast : fuel ≤ enough) (depth n : Nat) (seen : List Item)
    (t more : Text) :
    Leaves more (items? fuel depth n seen t) (items? enough depth n seen (t ++ more))
  itemsToBreak {enough : Nat} (atLeast : fuel ≤ enough) (depth n : Nat) (seen : List Item)
    (t more : Text) :
    Leaves more (itemsToBreak? fuel depth n seen t) (itemsToBreak? enough depth n seen (t ++ more))

theorem isSteady_zero : IsSteady 0 where
  item _ _ _ _ := by
    rw [item?]
    exact .none
  items _ _ _ _ _ _ := by
    rw [items?]
    exact .none
  itemsToBreak _ _ _ _ _ _ := by
    rw [itemsToBreak?]
    exact .none

namespace IsSteady

variable {fuel enough : Nat}

theorem elements (steady : IsSteady fuel) (atLeast : fuel ≤ enough) (depth width most : Nat)
    (argument : Argument) (t more : Text) :
    Leaves more (elements? fuel depth width most argument t)
      (elements? enough depth width most argument (t ++ more)) := by
  unfold elements?
  cases argument.toNat? with
  | none => exact steady.itemsToBreak atLeast depth most [] t more
  | some n => exact .ite .none (steady.items atLeast depth (width * n) [] t more)

theorem content (steady : IsSteady fuel) (atLeast : fuel ≤ enough) (depth major : Nat)
    (argument : Argument) (t more : Text) :
    Leaves more (content? fuel depth major argument t)
      (content? enough depth major argument (t ++ more)) := by
  unfold content?
  split
  next => exact .bind fun n => .some _ t
  next => exact .bind fun n => .some _ t
  next => exact (leaves_string? 2 argument t more).map _
  next => exact (leaves_string? 3 argument t more).map _
  next => exact .ite .none ((steady.elements atLeast _ _ _ argument t more).map _)
  next =>
    apply Leaves.ite .none
    intro item rest read
    obtain ⟨⟨items, left⟩, found, read⟩ := Option.bind_eq_some_iff.mp read
    rw [steady.elements atLeast _ _ _ argument t more found]
    exact Leaves.bind (fun entries => .some _ left) read
  next =>
    cases t with
    | nil =>
        -- a tag on nothing
        simp only [item?_nil, Option.map_none, ite_self, Option.bind_fun_none]
        exact .none
    | cons b t =>
        exact .bind fun number => .ite .none ((steady.item atLeast _ (b :: t) more).map _)
  next => exact .bind fun item => .some _ t

theorem item_succ (steady : IsSteady fuel) (atLeast : fuel ≤ enough) (depth : Nat)
    (t more : Text) :
    Leaves more (item? (fuel + 1) depth t) (item? (enough + 1) depth (t ++ more)) := by
  intro item rest read
  rw [item?_succ] at read ⊢
  obtain ⟨⟨major, argument, left⟩, headed, read⟩ := Option.bind_eq_some_iff.mp read
  rw [head?_append_right headed]
  exact steady.content atLeast depth major argument left more read

theorem items_succ (steady : IsSteady fuel) (atLeast : fuel ≤ enough) (depth n : Nat)
    (seen : List Item) (t more : Text) :
    Leaves more (items? (fuel + 1) depth n seen t)
      (items? (enough + 1) depth n seen (t ++ more)) := by
  cases n with
  | zero =>
      rw [items?, items?]
      exact .some _ t
  | succ n =>
      intro items rest read
      rw [items?] at read ⊢
      cases found : item? fuel depth t with
      | none =>
          rw [found] at read
          contradiction
      | some first =>
          rw [found] at read
          rw [steady.item atLeast depth t more found]
          exact steady.items atLeast depth n _ _ more read

theorem itemsToBreak_succ (steady : IsSteady fuel) (atLeast : fuel ≤ enough) (depth n : Nat)
    (seen : List Item) (t more : Text) :
    Leaves more (itemsToBreak? (fuel + 1) depth n seen t)
      (itemsToBreak? (enough + 1) depth n seen (t ++ more)) := by
  cases t with
  | nil =>
      intro items rest read
      unfold itemsToBreak? at read
      cases n <;> simp at read
  | cons b t =>
      unfold itemsToBreak?
      rw [List.head?_append_of_ne_nil _ (List.cons_ne_nil b t)]
      apply Leaves.ite
      · exact .some _ t
      · cases n with
        | zero => exact .none
        | succ n =>
            intro items rest read
            simp only at read ⊢
            cases found : item? fuel depth (b :: t) with
            | none =>
                rw [found] at read
                contradiction
            | some first =>
                rw [found] at read
                rw [steady.item atLeast depth _ more found]
                exact steady.itemsToBreak atLeast depth n _ _ more read

end IsSteady

theorem isSteady (fuel : Nat) : IsSteady fuel := by
  induction fuel with
  | zero => exact isSteady_zero
  | succ fuel steady =>
      constructor
      · intro enough atLeast
        obtain ⟨enough, rfl⟩ := Nat.exists_eq_add_one_of_ne_zero (show enough ≠ 0 by omega)
        exact steady.item_succ (Nat.le_of_succ_le_succ atLeast)
      · intro enough atLeast
        obtain ⟨enough, rfl⟩ := Nat.exists_eq_add_one_of_ne_zero (show enough ≠ 0 by omega)
        exact steady.items_succ (Nat.le_of_succ_le_succ atLeast)
      · intro enough atLeast
        obtain ⟨enough, rfl⟩ := Nat.exists_eq_add_one_of_ne_zero (show enough ≠ 0 by omega)
        exact steady.itemsToBreak_succ (Nat.le_of_succ_le_succ atLeast)

/-! ### Whole texts -/

theorem decode?_eq_some_iff {t : Text} {item : Item} :
    decode? t = some item ↔ item? (3 * t.length + 3) 0 t = some (item, []) := by
  unfold decode?
  split <;> simp_all

/-- No text that is exactly one item is the beginning of another one. -/
theorem eq_of_isPrefix_of_decode? {s t : Text} {first second : Item} (part : s <+: t)
    (decoded : decode? s = some first) (alsoDecoded : decode? t = some second) : s = t := by
  obtain ⟨more, rfl⟩ := part
  rw [decode?_eq_some_iff] at decoded alsoDecoded
  have enough : 3 * s.length + 3 ≤ 3 * (s ++ more).length + 3 := by
    rw [List.length_append]
    omega
  rw [(isSteady _).item enough 0 s more decoded] at alsoDecoded
  cases alsoDecoded
  exact (List.append_nil s).symm

end Tandem.Cbor

import Tandem.Channel.Basic

set_option autoImplicit false

/-!
The contents of queues and channels as lists. `Queue.toList` is the view of a queue and
`Channel.queued` that of a channel, through all taps and veils. Sending appends to the view,
receiving removes its head, and the three ways in which a queue drops the values that were taken
cannot be told apart in it.
-/

namespace Tandem

namespace Queue

/-- The read index stays inside the data, and reaches its end only in an empty queue. -/
structure IsValid (q : Queue) : Prop where
  bounded : q.readIndex ≤ q.data.size
  drained : q.readIndex = q.data.size → q.data.size = 0

theorem isValid_empty : empty.IsValid := ⟨by simp [empty], by simp [empty]⟩

@[simp]
theorem toList_empty : empty.toList = [] := rfl

@[simp]
theorem length_toList (q : Queue) : q.toList.length = q.length := by
  simp [toList, length]

theorem IsValid.send {q : Queue} (valid : q.IsValid) (value : Int64) : (q.send value).IsValid := by
  have bounded := valid.bounded
  constructor
  · simp only [Queue.send, Array.size_push]
    omega
  · simp only [Queue.send, Array.size_push]
    omega

theorem IsValid.toList_send {q : Queue} (valid : q.IsValid) (value : Int64) :
    (q.send value).toList = q.toList ++ [value] := by
  have bounded : q.readIndex ≤ q.data.toList.length := by simpa using valid.bounded
  simp only [toList, Queue.send, Array.toList_push]
  exact List.drop_append_of_le_length bounded

@[simp]
theorem peek?_eq_head? (q : Queue) : q.peek? = q.toList.head? := by
  simp only [peek?, isEmpty, length, toList, List.head?_drop, beq_iff_eq]
  split
  next drained =>
    symm
    apply List.getElem?_eq_none
    simp only [Array.length_toList]
    omega
  next => simp

/-- Whether the index moves on, storage is reclaimed or the queue restarts, the head is gone. -/
@[simp]
theorem toList_advance (q : Queue) : q.advance.toList = q.toList.tail := by
  simp only [advance, toList, List.tail_drop]
  split
  next last =>
    symm
    apply List.drop_eq_nil_of_le
    simp only [Array.length_toList]
    omega
  next =>
    split
    next =>
      simp only [Array.toList_extract, List.drop_zero]
      apply List.take_of_length_le
      simp
    next => rfl

theorem isValid_advance {q : Queue} (queued : q.readIndex < q.data.size) : q.advance.IsValid := by
  simp only [Queue.advance]
  split
  next => exact isValid_empty
  next notLast =>
    split
    next => exact ⟨Nat.zero_le _, fun drained => drained.symm⟩
    next =>
      constructor
      · simp only
        omega
      · simp only
        omega

theorem receive?_eq (q : Queue) :
    q.receive? = q.toList.head?.map fun value => (value, q.advance) := by
  rw [receive?, peek?_eq_head?]

end Queue

namespace Channel

/-- The queued values, front first, whether or not the channel lists them. -/
def queued (ch : Channel) : List Int64 := ch.base.toList

/-- A queue is connected at the bottom, and its storage is in order. -/
def IsReady : Channel → Prop
  | .absent => False
  | .queue q => q.IsValid
  | .veiled inner => inner.IsReady
  | .tapped _ inner => inner.IsReady

@[simp]
theorem queued_queue (q : Queue) : (queue q).queued = q.toList := rfl

@[simp]
theorem queued_veiled (inner : Channel) : (veiled inner).queued = inner.queued := rfl

@[simp]
theorem queued_tapped (tap : Tap) (inner : Channel) :
    (tapped tap inner).queued = inner.queued := rfl

@[simp]
theorem length_queued (ch : Channel) : ch.queued.length = ch.length := by
  induction ch with
  | absent => rfl
  | queue q => simp [length]
  | veiled inner inductionHypothesis => simpa [length] using inductionHypothesis
  | tapped tap inner inductionHypothesis => simpa [length] using inductionHypothesis

theorem isReady_rewind (ch : Channel) : ch.rewind.IsReady := by
  induction ch with
  | absent => exact Queue.isValid_empty
  | queue q => exact Queue.isValid_empty
  | veiled inner inductionHypothesis => exact inductionHypothesis
  | tapped tap inner inductionHypothesis => exact inductionHypothesis

@[simp]
theorem base_rewind (ch : Channel) : ch.rewind.base = .empty := by
  induction ch with
  | absent => rfl
  | queue q => rfl
  | veiled inner inductionHypothesis => exact inductionHypothesis
  | tapped tap inner inductionHypothesis => exact inductionHypothesis

@[simp]
theorem queued_rewind (ch : Channel) : ch.rewind.queued = [] := by
  rw [queued, base_rewind, Queue.toList_empty]

theorem IsReady.isValid_base {ch : Channel} (ready : ch.IsReady) : ch.base.IsValid := by
  induction ch with
  | absent => exact ready.elim
  | queue q => exact ready
  | veiled inner inductionHypothesis => exact inductionHypothesis ready
  | tapped tap inner inductionHypothesis => exact inductionHypothesis ready

theorem IsReady.send {ch : Channel} (ready : ch.IsReady) (value : Int64) :
    (ch.send value).IsReady := by
  induction ch with
  | absent => exact ready
  | queue q => exact Queue.IsValid.send ready value
  | veiled inner inductionHypothesis => exact inductionHypothesis ready
  | tapped tap inner inductionHypothesis => exact inductionHypothesis ready

theorem IsReady.base_send {ch : Channel} (ready : ch.IsReady) (value : Int64) :
    (ch.send value).base = ch.base.send value := by
  induction ch with
  | absent => exact ready.elim
  | queue q => rfl
  | veiled inner inductionHypothesis => exact inductionHypothesis ready
  | tapped tap inner inductionHypothesis => exact inductionHypothesis ready

theorem IsReady.queued_send {ch : Channel} (ready : ch.IsReady) (value : Int64) :
    (ch.send value).queued = ch.queued ++ [value] := by
  rw [queued, ready.base_send]
  exact ready.isValid_base.toList_send value

/-- What is around the queue hands on what the queue gives away. -/
@[simp]
theorem receive?_base (ch : Channel) :
    ch.base.receive? = ch.receive?.map fun taken => (taken.1, taken.2.base) := by
  induction ch with
  | absent => rfl
  | queue q => simp [base, receive?, Function.comp_def]
  | veiled inner inductionHypothesis =>
      rw [base, inductionHypothesis, receive?, Option.map_map]
      rfl
  | tapped tap inner inductionHypothesis =>
      rw [base, inductionHypothesis, receive?, Option.map_map]
      rfl

theorem receive?_of_queued_eq_nil {ch : Channel} (nothing : ch.queued = []) :
    ch.receive? = none := by
  have given := ch.receive?_base
  rw [Queue.receive?_eq, show ch.base.toList = [] from nothing] at given
  exact Option.map_eq_none_iff.mp given.symm

theorem queued_of_receive?_eq_none {ch : Channel} (nothing : ch.receive? = none) :
    ch.queued = [] := by
  have given := ch.receive?_base
  rw [nothing, Option.map_none, Queue.receive?_eq, Option.map_eq_none_iff] at given
  exact List.head?_eq_none_iff.mp given

theorem queued_of_receive? {ch next : Channel} {value : Int64}
    (received : ch.receive? = some (value, next)) : ch.queued = value :: next.queued := by
  have given := ch.receive?_base
  rw [received, Option.map_some, Queue.receive?_eq] at given
  obtain ⟨front, first, same⟩ := Option.map_eq_some_iff.mp given
  obtain ⟨rfl, advanced⟩ := Prod.mk.inj same
  obtain ⟨rest, view⟩ := List.head?_eq_some_iff.mp first
  rw [queued, queued, ← advanced, Queue.toList_advance, view, List.tail_cons]

/-- A ready channel gives away the head of what it holds and stays ready. -/
theorem IsReady.receive?_of_queued_eq_cons {ch : Channel} (ready : ch.IsReady)
    {value : Int64} {rest : List Int64} (holds : ch.queued = value :: rest) :
    ∃ next, ch.receive? = some (value, next) ∧ next.IsReady ∧ next.queued = rest := by
  induction ch with
  | absent => exact ready.elim
  | queue q =>
      have view : q.toList = value :: rest := holds
      have room : q.readIndex < q.data.size := by
        have nonempty : q.length ≠ 0 := by simp [← Queue.length_toList, view]
        simp only [Queue.length] at nonempty
        omega
      refine ⟨.queue q.advance, ?_, Queue.isValid_advance room, ?_⟩
      · simp [receive?, Queue.receive?_eq, view]
      · simp [view]
  | veiled inner inductionHypothesis =>
      obtain ⟨next, received, nextReady, nextHolds⟩ := inductionHypothesis ready holds
      exact ⟨.veiled next, by simp [receive?, received], nextReady, nextHolds⟩
  | tapped tap inner inductionHypothesis =>
      obtain ⟨next, received, nextReady, nextHolds⟩ := inductionHypothesis ready holds
      exact ⟨.tapped tap next, by simp [receive?, received], nextReady, nextHolds⟩

theorem IsReady.map_fst_receive? {ch : Channel} (ready : ch.IsReady) :
    ch.receive?.map (·.1) = ch.queued.head? := by
  cases holds : ch.queued with
  | nil => simp [receive?_of_queued_eq_nil holds]
  | cons value rest =>
      obtain ⟨next, received, _, _⟩ := ready.receive?_of_queued_eq_cons holds
      simp [received]

end Channel

end Tandem

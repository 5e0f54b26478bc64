import Tandem.Proofs.Channel.Fifo

set_option autoImplicit false

/-!
The storage of a queue. Values that were taken stay in front of the data for a while, but only a few
of them, or fewer than there are values still queued. Receiving keeps this by reclaiming storage in
time; sending keeps it since it only makes more values queued.
-/

namespace Tandem.Queue

/-- There are too few taken values in the data to be reclaimed. -/
def IsCompact (q : Queue) : Prop := q.readIndex < compactMin ∨ q.readIndex < q.length

theorem isCompact_of_readIndex_eq_zero {q : Queue} (fresh : q.readIndex = 0) : q.IsCompact := by
  left
  rw [fresh]
  decide

theorem IsCompact.send {q : Queue} (compact : q.IsCompact) (value : Int64) :
    (q.send value).IsCompact := by
  refine compact.imp_right fun few => ?_
  simp only [length, Queue.send, Array.size_push] at few ⊢
  omega

/-- Whatever the storage was like, it is compact after a value has been taken. -/
theorem isCompact_advance (q : Queue) : q.advance.IsCompact := by
  simp only [advance]
  split
  next => exact isCompact_of_readIndex_eq_zero rfl
  next =>
    split
    next => exact isCompact_of_readIndex_eq_zero rfl
    next tooFew =>
      rcases Decidable.not_and_iff_or_not.mp tooFew with below | more
      · exact .inl (Nat.lt_of_not_le below)
      · right
        simp only [length]
        omega

theorem IsCompact.call {q : Queue} (compact : q.IsCompact) (c : Call) : (q.call c).1.IsCompact := by
  cases c with
  | send value => exact compact.send value
  | receive =>
      simp only [Queue.call, receive?]
      cases q.peek? with
      | none => exact compact
      | some value => exact q.isCompact_advance
  | rewind => exact isCompact_of_readIndex_eq_zero rfl
  | peek | length | isEmpty | values => exact compact

theorem IsCompact.converse {q : Queue} (compact : q.IsCompact) (calls : List Call) :
    (Queue.converse Queue.call q calls).1.IsCompact := by
  induction calls generalizing q with
  | nil => exact compact
  | cons first rest inductionHypothesis => exact inductionHypothesis (compact.call first)

theorem IsValid.size_eq_zero {q : Queue} (valid : q.IsValid) (nothing : q.length = 0) :
    q.data.size = 0 := by
  have bounded := valid.bounded
  simp only [length] at nothing
  exact valid.drained (by omega)

/-- In every state that calls lead to from an empty queue, fewer than 64 values that were taken are
in the data, or fewer than are queued. The data are therefore at most 63 values longer than what is
queued, or less than twice as long; and there are none once the last value has been received. -/
theorem storage_follows_contents (calls : List Call) :
    let q := (converse call empty calls).1
    (q.readIndex < 64 ∨ q.readIndex < q.length) ∧
      (q.data.size ≤ q.length + 63 ∨ q.data.size < 2 * q.length) ∧
      (q.length = 0 → q.data.size = 0) ∧
      ∀ value rest, q.receive? = some (value, rest) → rest.length = 0 →
        rest.data.size = 0 := by
  intro q
  have compact : q.IsCompact := (isCompact_of_readIndex_eq_zero rfl).converse calls
  have valid : q.IsValid := (standsFor_empty.converse calls).1.1
  have split : q.data.size = q.length + q.readIndex := (Nat.sub_add_cancel valid.bounded).symm
  refine ⟨compact, ?_, valid.size_eq_zero, ?_⟩
  · rcases compact with few | fewer
    · left
      have bound : compactMin = 64 := rfl
      omega
    · right
      omega
  · intro value rest received
    obtain ⟨front, peeked, taken⟩ := Option.map_eq_some_iff.mp received
    obtain ⟨rfl, rfl⟩ := Prod.mk.inj taken
    have inside : q.readIndex < q.data.size := by
      rw [peek?_eq_head?, List.head?_eq_some_iff] at peeked
      obtain ⟨others, holds⟩ := peeked
      exact readIndex_lt_of_toList_eq_cons holds
    exact (isValid_advance inside).size_eq_zero

end Tandem.Queue

import Tandem.Proofs.Channel.Contents

set_option autoImplicit false

/-!
A queue against a plain list. Both answer the same calls: `Queue.call` by the operations of the
queue, and `Queue.listCall` by those of a list, where values come in at the back and go out at the
front. A queue stands for a list as long as its storage is in order, and each call leaves the two in
step, so no sequence of calls can tell them apart.
-/

namespace Tandem.Queue

inductive Call where
  | send (value : Int64)
  | receive
  | peek
  | rewind
  | length
  | isEmpty
  | values
  deriving DecidableEq

inductive Answer where
  | done
  | value (found : Option Int64)
  | number (n : Nat)
  | truth (b : Bool)
  | listing (values : Option (List Int64))
  deriving DecidableEq

/-- What a call on a queue leaves behind, and its answer. -/
def call (q : Queue) : Call → Queue × Answer
  | .send value => (q.send value, .done)
  | .receive =>
      match q.receive? with
      | some (value, rest) => (rest, .value (some value))
      | none => (q, .value none)
  | .peek => (q, .value q.peek?)
  | .rewind => (q.rewind, .done)
  | .length => (q, .number q.length)
  | .isEmpty => (q, .truth q.isEmpty)
  | .values => (q, .listing q.values?)

/-- The same for a list, whose head is the front. -/
def listCall (contents : List Int64) : Call → List Int64 × Answer
  | .send value => (contents ++ [value], .done)
  | .receive => (contents.tail, .value contents.head?)
  | .peek => (contents, .value contents.head?)
  | .rewind => ([], .done)
  | .length => (contents, .number contents.length)
  | .isEmpty => (contents, .truth contents.isEmpty)
  | .values => (contents, .listing (if contents = [] then none else some contents))

/-- Calls one after another: what they leave behind, and all answers in order. -/
def converse {σ : Type} (call : σ → Call → σ × Answer) (s : σ) :
    List Call → σ × List Answer
  | [] => (s, [])
  | first :: rest =>
      let (next, answer) := call s first
      let (final, answers) := converse call next rest
      (final, answer :: answers)

/-- The storage is in order, and holds the values of the list. -/
def StandsFor (q : Queue) (contents : List Int64) : Prop := q.IsValid ∧ q.toList = contents

theorem standsFor_empty : empty.StandsFor [] := ⟨isValid_empty, toList_empty⟩

@[simp]
theorem isEmpty_eq (q : Queue) : q.isEmpty = q.toList.isEmpty := by
  rw [Bool.eq_iff_iff, List.isEmpty_iff_length_eq_zero, length_toList]
  simp [isEmpty]

theorem values?_eq (q : Queue) : q.values? = if q.toList = [] then none else some q.toList := by
  simp [values?]

theorem readIndex_lt_of_toList_eq_cons {q : Queue} {value : Int64} {rest : List Int64}
    (holds : q.toList = value :: rest) : q.readIndex < q.data.size := by
  have positive : 0 < q.length := by simp [← length_toList, holds]
  simp only [length] at positive
  omega

namespace StandsFor

variable {q : Queue} {contents : List Int64}

/-- A call keeps a queue and its list in step, and both give the same answer. -/
theorem call (standing : q.StandsFor contents) (c : Call) :
    (q.call c).1.StandsFor (listCall contents c).1 ∧ (q.call c).2 = (listCall contents c).2 := by
  obtain ⟨valid, rfl⟩ := standing
  cases c with
  | send value => exact ⟨⟨valid.send value, valid.toList_send value⟩, rfl⟩
  | receive =>
      cases holds : q.toList with
      | nil =>
          have nothing : q.receive? = none := by simp [receive?_eq, holds]
          simp only [Queue.call, listCall, nothing]
          exact ⟨⟨valid, holds⟩, rfl⟩
      | cons value rest =>
          have taken : q.receive? = some (value, q.advance) := by simp [receive?_eq, holds]
          have inside := readIndex_lt_of_toList_eq_cons holds
          simp only [Queue.call, listCall, taken]
          exact ⟨⟨isValid_advance inside, by rw [toList_advance, holds]⟩, rfl⟩
  | peek => exact ⟨⟨valid, rfl⟩, congrArg Answer.value q.peek?_eq_head?⟩
  | rewind => exact ⟨standsFor_empty, rfl⟩
  | length => exact ⟨⟨valid, rfl⟩, congrArg Answer.number q.length_toList.symm⟩
  | isEmpty => exact ⟨⟨valid, rfl⟩, congrArg Answer.truth q.isEmpty_eq⟩
  | values => exact ⟨⟨valid, rfl⟩, congrArg Answer.listing q.values?_eq⟩

theorem converse (standing : q.StandsFor contents) (calls : List Call) :
    (Queue.converse Queue.call q calls).1.StandsFor (Queue.converse listCall contents calls).1 ∧
      (Queue.converse Queue.call q calls).2 = (Queue.converse listCall contents calls).2 := by
  induction calls generalizing q contents with
  | nil => exact ⟨standing, rfl⟩
  | cons first rest inductionHypothesis =>
      obtain ⟨stillStanding, sameAnswer⟩ := standing.call first
      obtain ⟨finallyStanding, sameAnswers⟩ := inductionHypothesis stillStanding
      refine ⟨finallyStanding, ?_⟩
      simp only [Queue.converse, sameAnswer, sameAnswers]

end StandsFor

/-- From an empty queue on, calls are answered as a list would answer them. In every state that they
lead to, the read index is inside the data, and at its end only if the data are gone; so the front
value, which the next receive takes and after which storage is reclaimed, is there whenever the
queue is not empty, and the length is a true difference. -/
theorem answers_as_list (calls : List Call) :
    let q := (converse call empty calls).1
    (converse call empty calls).2 = (converse listCall [] calls).2 ∧
      q.toList = (converse listCall [] calls).1 ∧
      q.readIndex ≤ q.data.size ∧
      (q.readIndex = q.data.size → q.readIndex = 0 ∧ q.data.size = 0) ∧
      (q.isEmpty = false → q.readIndex < q.data.size) ∧
      (q.length : Int) = (q.data.size : Int) - q.readIndex := by
  intro q
  obtain ⟨⟨valid, sameContents⟩, sameAnswers⟩ := standsFor_empty.converse calls
  have bounded : q.readIndex ≤ q.data.size := valid.bounded
  refine ⟨sameAnswers, sameContents, bounded, ?_, ?_, ?_⟩
  · intro atEnd
    have drained : q.data.size = 0 := valid.drained atEnd
    exact ⟨atEnd.trans drained, drained⟩
  · intro nonempty
    simp only [isEmpty, length, beq_eq_false_iff_ne] at nonempty
    omega
  · simp only [length]
    omega

end Tandem.Queue

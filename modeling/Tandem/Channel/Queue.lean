set_option autoImplicit false

/-!
Queues of values, first in first out. The values that have been taken stay in front of `data` until
they are dropped together: all at once when the queue runs empty, and otherwise as soon as there are
at least 64 of them and they are no fewer than the values still queued.
-/

namespace Tandem

structure Queue where
  data : Array Int64
  readIndex : Nat
  deriving DecidableEq

namespace Queue

def empty : Queue := ⟨#[], 0⟩

/-- The number of taken values from which on storage is reclaimed. -/
def compactMin : Nat := 64

def length (q : Queue) : Nat := q.data.size - q.readIndex

def isEmpty (q : Queue) : Bool := q.length == 0

/-- The queued values, front first. -/
def toList (q : Queue) : List Int64 := q.data.toList.drop q.readIndex

/-- The queued values, front first, or `none` if nothing is queued. -/
def values? (q : Queue) : Option (List Int64) := if q.isEmpty then none else some q.toList

/-- Discards the queued values. -/
def rewind (_ : Queue) : Queue := empty

def send (q : Queue) (value : Int64) : Queue := { q with data := q.data.push value }

def peek? (q : Queue) : Option Int64 := if q.isEmpty then none else q.data[q.readIndex]?

/-- The queue after one more value has been taken. -/
def advance (q : Queue) : Queue :=
  let next := q.readIndex + 1
  if next = q.data.size then empty
  else if compactMin ≤ next ∧ q.data.size ≤ next * 2 then
    ⟨q.data.extract next q.data.size, 0⟩
  else { q with readIndex := next }

def receive? (q : Queue) : Option (Int64 × Queue) :=
  q.peek?.map fun value => (value, q.advance)

end Queue

end Tandem

import Tandem.Channel.Queue
import Tandem.Channel.Writer

set_option autoImplicit false

/-!
Channels carry values to an instance. At the bottom is a queue, or nothing at all; around it there
may be taps, which write down every value that is sent, and veils, which hide the queued values from
whoever asks for a list of them.

A tap keeps the first error of its writer and writes nothing after it. Values pass through a tap
whatever its writer does.
-/

namespace Tandem

structure Tap where
  label : Text
  writer : Option Writer
  /-- The first error of the writer, if it has failed. -/
  error : Option WriteError
  /-- The number of values that were written down. -/
  count : Nat

namespace Tap

def new (label : Text) (writer : Option Writer) : Tap := ⟨label, writer, none, 0⟩

def line (tap : Tap) (value : Int64) : Text :=
  tap.label ++ 32 :: Text.decimal value.toInt ++ [10]

/-- What the writer takes of the line for a value, if the tap still writes. -/
def written (tap : Tap) (value : Int64) : Text :=
  match tap.writer, tap.error with
  | some w, none => (w.result (tap.line value)).part (tap.line value)
  | _, _ => []

def record (tap : Tap) (value : Int64) : Tap :=
  match tap.writer, tap.error with
  | some w, none =>
      match w.write (tap.line value) with
      | (w, none) => { tap with writer := some w, count := tap.count + 1 }
      | (w, some error) => { tap with writer := some w, error := some error }
  | _, _ => tap

/-- How many writes the tap's writer has seen. -/
def writes (tap : Tap) : Nat := (tap.writer.map (·.writes)).getD 0

/-- What the tap's writer has taken. -/
def output (tap : Tap) : Text := (tap.writer.map (·.output)).getD []

end Tap

inductive Channel where
  /-- Nothing is connected: what is sent is lost. -/
  | absent
  | queue (q : Queue)
  | veiled (inner : Channel)
  | tapped (tap : Tap) (inner : Channel)

namespace Channel

def new : Channel := .queue .empty

def send (value : Int64) : Channel → Channel
  | .absent => .absent
  | .queue q => .queue (q.send value)
  | .veiled inner => .veiled (inner.send value)
  | .tapped tap inner => .tapped (tap.record value) (inner.send value)

/-- What the taps write down when the value is sent, the innermost first. -/
def announce (value : Int64) : Channel → Text
  | .absent | .queue _ => []
  | .veiled inner => inner.announce value
  | .tapped tap inner => inner.announce value ++ tap.written value

def receive? : Channel → Option (Int64 × Channel)
  | .absent => none
  | .queue q => q.receive?.map fun (value, q) => (value, .queue q)
  | .veiled inner => inner.receive?.map fun (value, inner) => (value, .veiled inner)
  | .tapped tap inner => inner.receive?.map fun (value, inner) => (value, .tapped tap inner)

def length : Channel → Nat
  | .absent => 0
  | .queue q => q.length
  | .veiled inner => inner.length
  | .tapped _ inner => inner.length

/-- Discards the queued values. Where nothing was connected, there is a fresh queue afterwards. -/
def rewind : Channel → Channel
  | .absent => .new
  | .queue q => .queue q.rewind
  | .veiled inner => .veiled inner.rewind
  | .tapped tap inner => .tapped tap inner.rewind

/-- Whether the channel can be asked for its values. A tap can, whatever it is around. -/
def isListable : Channel → Bool
  | .absent | .veiled _ => false
  | .queue _ | .tapped _ _ => true

/-- The queued values, front first, or `none` if nothing is queued or the channel does not list
it. -/
def values? : Channel → Option (List Int64)
  | .absent | .veiled _ => none
  | .queue q => q.values?
  | .tapped _ inner => inner.values?

/-- The queue at the bottom. -/
def base : Channel → Queue
  | .absent => .empty
  | .queue q => q
  | .veiled inner => inner.base
  | .tapped _ inner => inner.base

/-- The taps around the queue, innermost first. -/
def taps : Channel → List Tap
  | .absent | .queue _ => []
  | .veiled inner => inner.taps
  | .tapped tap inner => inner.taps ++ [tap]

end Channel

end Tandem

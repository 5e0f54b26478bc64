import Tandem.Text.Basic

set_option autoImplicit false

/-!
Writers take texts, one after another. Any write may fail, with an error that tells why, and
the writer has then taken as many bytes from the start of the text as it could.
-/

namespace Tandem

/-- Why a write failed. -/
structure WriteError where
  message : Text
  deriving DecidableEq

/-- How a write ends: the whole text is taken, or it fails after `taken` bytes of the text, which
may be none and may be all. -/
inductive WriteResult where
  | whole
  | failed (taken : Nat) (error : WriteError)
  deriving DecidableEq

namespace WriteResult

/-- What was taken of the text. -/
def part (text : Text) : WriteResult → Text
  | .whole => text
  | .failed taken _ => text.take taken

def error? : WriteResult → Option WriteError
  | .whole => none
  | .failed _ error => some error

end WriteResult

/-- The writes so far, and `answer`, which tells how the next one ends. -/
structure Writer where
  answer : Array (Text × WriteResult) → Text → WriteResult
  log : Array (Text × WriteResult)

namespace Writer

/-- A writer that never fails. -/
def new : Writer := ⟨fun _ _ => .whole, #[]⟩

/-- A writer whose first `limit` writes take the whole text; any other fails after `taken` bytes. -/
def failingAfter (limit taken : Nat) (error : WriteError) : Writer :=
  ⟨fun log _ => if log.size < limit then .whole else .failed taken error, #[]⟩

/-- How the writer would answer a text. -/
def result (w : Writer) (text : Text) : WriteResult := w.answer w.log text

/-- One write, and its error if it fails. -/
def write (w : Writer) (text : Text) : Writer × Option WriteError :=
  let result := w.result text
  ({ w with log := w.log.push (text, result) }, result.error?)

/-- Writes texts up to the first failure. -/
def writeAll (w : Writer) : List Text → Writer × Option WriteError
  | [] => (w, none)
  | text :: rest =>
      match w.write text with
      | (w, none) => w.writeAll rest
      | (w, some error) => (w, some error)

/-- The number of writes, failed ones included. -/
def writes (w : Writer) : Nat := w.log.size

/-- All that was taken. -/
def output (w : Writer) : Text :=
  Text.concat (w.log.toList.map fun (text, result) => result.part text)

end Writer

end Tandem

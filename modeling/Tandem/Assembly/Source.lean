import Tandem.Text.Blank

set_option autoImplicit false

/-!
Source texts and their lines. A line ends at a newline, and a carriage return before the newline or
at the end of the text is not part of it. Lines are limited: with its newline one may have up to
65536 bytes, and reading stops before a line that is longer.
-/

namespace Tandem

structure Source where
  lines : List Text
  /-- Whether reading stopped before a line that is too long. -/
  tooLong : Bool

namespace Source

def lineLimit : Nat := 65536

def dropReturn (line : Text) : Text := if line.getLast? = some 13 then line.dropLast else line

/-- Reads lines; `line` holds the bytes, last first, of the line being read, and `size` their
number. -/
def read.loop (line : Text) (size : Nat) : Text → Source
  | [] =>
      if size = 0 then ⟨[], false⟩
      else if lineLimit ≤ size then ⟨[], true⟩
      else ⟨[dropReturn line.reverse], false⟩
  | b :: rest =>
      if b = 10 then
        if lineLimit < size + 1 then ⟨[], true⟩
        else
          let source := loop [] 0 rest
          { source with lines := dropReturn line.reverse :: source.lines }
      else loop (b :: line) (size + 1) rest

def read (t : Text) : Source := read.loop [] 0 t

/-- A line without its comment, which a semicolon starts, and without blanks at its ends. -/
def strip (line : Text) : Text := Text.trim (line.takeWhile (· ≠ 59))

end Source

end Tandem

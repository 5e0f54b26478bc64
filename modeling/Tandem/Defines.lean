import Tandem.Schedule.Duo
import Tandem.Table

set_option autoImplicit false

/-!
Definitions from several places. They are visited in turn, so those that come later win when all are
stored, and a visitor may stop at any of them.
-/

namespace Tandem.Defines

variable {κ ν σ : Type}

/-- Shows the entries of a sequence to a visitor until it stops; tells whether it went on. -/
def visit (visitor : σ → κ × ν → σ × Bool) (s : σ) : List (κ × ν) → σ × Bool
  | [] => (s, true)
  | entry :: rest =>
      match visitor s entry with
      | (s, true) => visit visitor s rest
      | (s, false) => (s, false)

/-- Shows the entries of all sequences, one sequence after the other. -/
def visitAll (visitor : σ → κ × ν → σ × Bool) (s : σ) :
    List (List (κ × ν)) → σ × Bool
  | [] => (s, true)
  | sequence :: rest =>
      match visit visitor s sequence with
      | (s, true) => visitAll visitor s rest
      | (s, false) => (s, false)

/-- A visitor that keeps the entries, last first, and stops once it has `stop` of them. A `stop` of
0 is never reached. -/
def collector (stop : Nat) (seen : List (κ × ν)) (entry : κ × ν) : List (κ × ν) × Bool :=
  (entry :: seen, seen.length + 1 ≠ stop)

/-- The entries up to the one at which a visitor with the given limit stops. -/
def upTo (stop : Nat) (sequences : List (List (κ × ν))) : List (κ × ν) :=
  (visitAll (collector stop) [] sequences).1.reverse

/-- All entries, in order. -/
def all (sequences : List (List (κ × ν))) : List (κ × ν) := upTo 0 sequences

/-- A definition `NAME=VALUE`, which is cut at the first `=` and has a name. -/
def parse? (t : Text) : Option (Text × Text) :=
  match Text.cut 61 t with
  | some (b :: name, value) => some (b :: name, value)
  | _ => none

/-- What a program may use as equates: the names that every duo defines, and then those that the
settings and the command line define. -/
def forProgram (configured : Table Text) (given : List (Text × Text)) : List (Text × Text) :=
  all [Duo.defines, configured.insertAll given]

end Tandem.Defines

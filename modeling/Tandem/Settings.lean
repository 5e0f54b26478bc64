import Tandem.Message
import Tandem.Path
import Tandem.Toml.Document

set_option autoImplicit false

/-!
Settings of a run, from a TOML document. A key goes with a setting if it has the setting's name, in
any letter case; all other keys are left aside.

Names of files in settings that were loaded from a file are relative to the directory of that file.
-/

namespace Tandem

structure Settings where
  /-- The file with the program, `-` for the standard input, or nothing. -/
  program : Text := []
  /-- The most steps that a run may take, 0 for any number. -/
  stepLimit : Int64 := 0
  verbose : Bool := false
  /-- The file for the trace, if any. -/
  trace : Text := []
  /-- The file for the report, if any. -/
  report : Text := []
  defines : Table Text := .empty
  /-- The directory that the settings come from. -/
  directory : Text := []

namespace Settings

inductive Failure where
  /-- The document is malformed, or a setting has a value of the wrong kind. -/
  | malformed
  | negativeLimit (n : Int64)
  deriving DecidableEq

def Failure.message : Failure → Text
  | .malformed => "parse error"
  | .negativeLimit n =>
      Text.ofString "step_limit " ++ Text.decimal n.toInt ++ Text.ofString ": must not be negative"

/-! ### Fields -/

/-- Whether a key is a setting's name in some letter case. Of the letters beyond ASCII, the long s
and the sign for kelvin count as forms of `s` and `k`. -/
def matchesName (name : String) (key : Text) : Bool := fold key = Text.ofString name
where
  fold : Text → Text
    | 0xC5 :: 0xBF :: rest => 115 :: fold rest
    | 0xE2 :: 0x84 :: 0xAA :: rest => 107 :: fold rest
    | b :: rest => (if Text.isUpper b then b + 32 else b) :: fold rest
    | [] => []

/-- The value of a setting. The values of all keys that match its name are read on top of each
other, that of the key with exactly this name last. -/
def setting {α : Type} (entries : Toml.Entries) (name : String)
    (read : α → Toml.Value → Except Failure α) (start : α) : Except Failure α :=
  let given := entries.filter fun entry => matchesName name entry.1
  let (exact, others) := given.partition fun entry => entry.1 = Text.ofString name
  (others ++ exact).foldlM (fun value entry => read value entry.2) start

private def text (_ : Text) : Toml.Value → Except Failure Text
  | .text t => .ok t
  | _ => .error .malformed

private def integer (_ : Int64) : Toml.Value → Except Failure Int64
  | .integer n => .ok n
  | _ => .error .malformed

private def boolean (_ : Bool) : Toml.Value → Except Failure Bool
  | .boolean b => .ok b
  | _ => .error .malformed

/-- The file name in a table for some output, which may leave it as it was. -/
private def output (name : Text) : Toml.Value → Except Failure Text
  | .table entries => setting entries "output" text name
  | _ => .error .malformed

/-- The definitions in a table are added; what is not a table holds none. -/
def definitions (defines : Table Text) : Toml.Value → Except Failure (Table Text)
  | .table entries =>
      entries.foldlM
        (fun defines (name, value) => do pure (defines.insert name (← text [] value)))
        defines
  | _ => .ok defines

def ofEntries (entries : Toml.Entries) : Except Failure Settings := do
  let program ← setting entries "program" text []
  let stepLimit ← setting entries "step_limit" integer 0
  let verbose ← setting entries "verbose" boolean false
  let trace ← setting entries "trace" output []
  let report ← setting entries "report" output []
  let defines ← setting entries "defines" definitions .empty
  if stepLimit < 0 then .error (.negativeLimit stepLimit)
  else pure { program, stepLimit, verbose, trace, report, defines }

/-- Reads the settings in a document. -/
def parse (document : Text) : Except Failure Settings :=
  match Toml.parse? document with
  | none => .error .malformed
  | some entries => ofEntries entries

/-! ### File names -/

/-- The name that stands for the standard input or output. -/
def stream : Text := [45]

/-- A file name as seen from the directory of the settings. -/
def resolve (s : Settings) (name : Text) : Text :=
  if name = [] ∨ name = stream ∨ Path.isAbsolute name ∨ s.directory = [] then name
  else Path.join s.directory name

/-- The directory of a file, as an absolute name. -/
def directoryOf (workingDirectory path : Text) : Text :=
  let directory := Path.directory path
  if Path.isAbsolute directory then directory else Path.join workingDirectory directory

/-- Settings as loaded from a file in the given directory. -/
def locate (s : Settings) (directory : Text) : Settings :=
  let s := { s with directory }
  { s with
    program := s.resolve s.program
    trace := s.resolve s.trace
    report := s.resolve s.report }

end Settings

end Tandem

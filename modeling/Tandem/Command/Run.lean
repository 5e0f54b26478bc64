import Tandem.Assembly.Assembler
import Tandem.Assembly.Listing
import Tandem.Command.Options
import Tandem.Expr.Eval
import Tandem.Host.Basic
import Tandem.Report.Encode

set_option autoImplicit false

/-!
The command: it assembles a program, lists it or runs a duo of it, and tells how the run ended. On
request it writes down what the sides have sent to each other, and a report.
-/

namespace Tandem.Command

/-- Ends the command early, with a message or without one. -/
structure Exit where
  code : UInt32
  message : Text

def Exit.fatal (message : Text) : Exit := ⟨1, message ++ [10]⟩

private def withName (name message : Text) : Text := name ++ Text.ofString ": " ++ message

/-- Why settings could not be loaded. -/
inductive LoadFailure where
  | unreadable (e : FileError)
  | refused (path : Text) (failure : Settings.Failure)
  deriving DecidableEq

def LoadFailure.message : LoadFailure → Text
  | .unreadable e => Text.ofString "cannot read " ++ withName e.name e.message
  | .refused path failure => withName path failure.message

/-! ### Texts -/

def unknownArguments (arguments : List Text) : Text :=
  Options.commandName ++ Text.ofString ": Unknown arguments: [" ++ Text.join [32] arguments ++ [93]

def negativeLimit (n : Int64) : Text :=
  Text.decimal n.toInt ++ Text.ofString ": step limit must not be negative"

def instanceLine (c : Instance) : Text :=
  Text.concat
    ["instance ", Text.decimal c.id.toInt, ": sent ", Text.ofNat c.sent.toNat, " received ",
     Text.ofNat c.received.toNat, " pc ", Text.decimal c.pc.toInt, " ", c.stateText, "\n"]

/-- How a run ended. -/
def summary (d : Duo) : Text :=
  Text.concat
    [instanceLine d.pair.zero, instanceLine d.pair.one, "halt: ", d.halt.text, " after ",
     Text.ofNat d.cycles, " cycles, ", Text.ofNat d.steps, " steps\n"]

/-- Taps on both inboxes: each line of the trace tells the direction and the value. -/
def traced (p : Pair) : Pair :=
  let tap (label : Text) (c : Instance) : Instance :=
    { c with inbox := .tapped (.new label (some Writer.new)) c.inbox }
  (p.modify .zero (tap "1->0")).modify .one (tap "0->1")

/-! ### Steps -/

variable {m : Type → Type} [Monad m]

/-- Loads settings from a file. -/
def loadSettings (host : Host m) (path : Text) : m (Except LoadFailure Settings) := do
  match ← host.readFile path with
  | .error e => return .error (.unreadable e)
  | .ok document =>
      match Settings.parse document with
      | .error failure => return .error (.refused path failure)
      | .ok settings =>
          return .ok (settings.locate (Settings.directoryOf (← host.workingDirectory) path))

/-- Reads and assembles a program; a file that cannot be read at all is a syntax error before the
first line. -/
def loadProgram (host : Host m) (predefined : List (Text × Text)) (name : Text) :
    m (Except Exit Program) := do
  let source ← if name = Settings.stream then (.ok <$> host.readInput) else host.readFile name
  match source with
  | .error e =>
      let reading : Assembly.SyntaxError := ⟨0, [], .unreadable e.message⟩
      let message := match e.operation with
        | .opening => e.message
        | .reading => reading.message
      return .error (.fatal (withName name message))
  | .ok source =>
      match (Assembly.assemble Expr.evaluate predefined source).program with
      | .error e => return .error (.fatal (withName name e.message))
      | .ok program => return .ok program

/-- Writes to the standard output or to a file that has been created. -/
def write (host : Host m) (name content : Text) : m Unit :=
  if name = Settings.stream then host.print content else host.append name content

/-- Creates an output file; nothing is to be done for the standard output. -/
def create (host : Host m) (name : Text) : m (Except Exit Unit) := do
  if name = Settings.stream then return .ok ()
  match ← host.create name with
  | .ok () => return .ok ()
  | .error e => return .error (.fatal (withName name e.message))

/-- Runs a program under the given settings, for at most `moves` moves of the scheduler. -/
def play (host : Host m) (moves : Nat) (settings : Settings) (program : Program) :
    m (Except Exit Unit) := do
  let hasTrace := settings.trace ≠ []
  let duo : Duo := { Duo.new with program, stepLimit := settings.stepLimit.toInt }
  let duo := if hasTrace then { duo with pair := traced duo.pair } else duo
  if hasTrace then
    if let .error e ← create host settings.trace then return .error e
  match duo.reset.run moves with
  | none => return .error (.fatal "the run was cut off")
  | some (duo, outcome) =>
      if hasTrace then write host settings.trace (Text.concat duo.pair.trace.toList)
      match outcome with
      | .error e => return .error (.fatal e.message)
      | .ok () =>
          host.print (summary duo)
          if settings.report ≠ [] then
            if let .error e ← create host settings.report then return .error e
            write host settings.report (Report.of duo).encode
          return .ok ()

/-- All that the command does after its options are known. -/
def execute (host : Host m) (moves : Nat) (options : Options) : m (Except Exit Unit) := do
  let loaded ← if options.settings = [] then pure (.ok {}) else loadSettings host options.settings
  match loaded with
  | .error e => return .error (.fatal e.message)
  | .ok loaded =>
      let settings := options.apply loaded
      if settings.stepLimit < 0 then return .error (.fatal (negativeLimit settings.stepLimit))
      let predefined := Defines.forProgram settings.defines options.defines
      let program ← if settings.program = [] then pure (.ok .empty)
        else loadProgram host predefined settings.program
      match program with
      | .error e => return .error e
      | .ok program =>
          if options.list then
            host.print program.listingText
            return .ok ()
          else play host moves settings program

/-- The command with its arguments; gives the exit code. -/
def run (host : Host m) (moves : Nat) (arguments : List Text) : m UInt32 := do
  match Options.parse {} arguments with
  | .error failure =>
      host.complain (failure.line ++ Options.usage)
      return failure.exitCode
  | .ok (_, argument :: others) =>
      host.complain (unknownArguments (argument :: others) ++ [10])
      return 1
  | .ok (options, []) =>
      match ← execute host moves options with
      | .ok () => return 0
      | .error e =>
          host.complain e.message
          return e.code

end Tandem.Command

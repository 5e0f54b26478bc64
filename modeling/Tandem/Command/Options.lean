import Tandem.Defines
import Tandem.Settings
import Tandem.Text.Literal
import Tandem.Text.Quote

set_option autoImplicit false

/-!
Options of the command. A flag is a letter after one or two dashes. Its value comes after an equals
sign or is the next argument; a switch has a value only after an equals sign. Flags end before the
first argument that does not start with a dash, and after `--`. A flag may be given again, and then
the last value counts.
-/

namespace Tandem

/-- The flags that the command knows. -/
inductive Flag where
  | define
  | program
  | settings
  | list
  | limit
  | report
  | trace
  | verbose
  deriving DecidableEq

namespace Flag

def letter : Flag → Text
  | .define => "D"
  | .program => "c"
  | .settings => "f"
  | .list => "l"
  | .limit => "n"
  | .report => "r"
  | .trace => "t"
  | .verbose => "v"

def all : List Flag :=
  [.define, .program, .settings, .list, .limit, .report, .trace, .verbose]

def ofName? (name : Text) : Option Flag := all.find? fun flag => flag.letter = name

/-- Whether a flag can do without a value. -/
def isSwitch : Flag → Bool
  | .list | .verbose => true
  | _ => false

/-- What a value of the flag is called. -/
def valueName : Flag → Text
  | .define => "value"
  | .limit => "int"
  | _ => "string"

def purpose : Flag → Text
  | .define => "Predefine an assembler equate NAME=VALUE (repeatable)"
  | .program => ".duet file to run ('-' for stdin)"
  | .settings => "duet.toml configuration file"
  | .list => "List the assembled program, do not execute"
  | .limit => "Step limit (0 is unlimited)"
  | .report => "Write CBOR report to file"
  | .trace => "Trace channel traffic to file ('-' for stdout)"
  | .verbose => "Verbose mode"

def usage (flag : Flag) : Text :=
  Text.ofString "  -" ++ flag.letter ++
    (if flag.isSwitch then [] else 32 :: flag.valueName ++ Text.ofString "\n    ") ++
    9 :: flag.purpose ++ [10]

end Flag

/-- The options that were given. -/
structure Options where
  settings : Text := []
  program : Option Text := none
  limit : Option Int64 := none
  trace : Option Text := none
  report : Option Text := none
  list : Bool := false
  verbose : Option Bool := none
  defines : List (Text × Text) := []

namespace Options

inductive Failure where
  /-- The usage was asked for. -/
  | help
  | badSyntax (argument : Text)
  | undefined (name : Text)
  | valueMissing (flag : Flag)
  | badSwitch (flag : Flag) (value : Text)
  | badValue (flag : Flag) (value : Text) (reason : Text)
  deriving DecidableEq

/-- The name that the command goes by. -/
def commandName : Text := "duet"

def usage : Text :=
  Text.ofString "Usage of " ++ commandName ++ Text.ofString ":\n" ++ Flag.all.flatMap Flag.usage

/-- What is wrong, in one line. -/
def Failure.line : Failure → Text
  | .help => []
  | .badSyntax argument => Text.ofString "bad flag syntax: " ++ argument ++ [10]
  | .undefined name => Text.ofString "flag provided but not defined: -" ++ name ++ [10]
  | .valueMissing flag => Text.ofString "flag needs an argument: -" ++ flag.letter ++ [10]
  | .badSwitch flag value =>
      Text.ofString "invalid boolean value " ++ Text.quote value ++ Text.ofString " for -" ++
        flag.letter ++ Text.ofString ": parse error\n"
  | .badValue flag value reason =>
      Text.ofString "invalid value " ++ Text.quote value ++ Text.ofString " for flag -" ++
        flag.letter ++ Text.ofString ": " ++ reason ++ [10]

def Failure.exitCode : Failure → UInt32
  | .help => 0
  | _ => 2

/-- The truth value that a switch is set to. -/
def truth? (t : Text) : Option Bool :=
  let yes : List String := ["1", "t", "T", "TRUE", "true", "True"]
  let no : List String := ["0", "f", "F", "FALSE", "false", "False"]
  if yes.any (Text.ofString · = t) then some true
  else if no.any (Text.ofString · = t) then some false
  else none

/-- Sets a switch. -/
def switch (o : Options) (flag : Flag) (on : Bool) : Options :=
  match flag with
  | .list => { o with list := on }
  | .verbose => { o with verbose := some on }
  | _ => o

/-- Gives a flag its value. -/
def assign (o : Options) (flag : Flag) (value : Text) : Except Failure Options :=
  match flag with
  | .define =>
      match Defines.parse? value with
      | some entry => .ok { o with defines := o.defines ++ [entry] }
      | none =>
          .error (.badValue flag value (Text.quote value ++ Text.ofString ": expected NAME=VALUE"))
  | .program => .ok { o with program := some value }
  | .settings => .ok { o with settings := value }
  | .limit =>
      match Literal.parse value with
      | .ok n => .ok { o with limit := some n }
      | .error .malformed => .error (.badValue flag value "parse error")
      | .error .outOfRange => .error (.badValue flag value "value out of range")
  | .report => .ok { o with report := some value }
  | .trace => .ok { o with trace := some value }
  | .list | .verbose =>
      match truth? value with
      | some on => .ok (o.switch flag on)
      | none => .error (.badSwitch flag value)

/-- The name of a flag and the value that is joined to it. -/
def splitValue (t : Text) : Text × Option Text :=
  match t with
  | [] => ([], none)
  | b :: rest =>
      match Text.cut 61 rest with
      | some (name, value) => (b :: name, some value)
      | none => (t, none)

/-- The flag of an argument, with its dashes taken off; `none` if the argument is not a flag. -/
def flagText? (argument : Text) : Option Text :=
  match argument with
  | 45 :: 45 :: rest => some rest
  | 45 :: b :: rest => some (b :: rest)
  | _ => none

/-- Reads flags, and gives the arguments that are left. -/
def parse (o : Options) : List Text → Except Failure (Options × List Text)
  | [] => .ok (o, [])
  | argument :: rest =>
      if argument = [45, 45] then .ok (o, rest)
      else match flagText? argument with
        | none => .ok (o, argument :: rest)
        | some t =>
            if t = [] ∨ t.head? = some 45 ∨ t.head? = some 61 then .error (.badSyntax argument)
            else
              let (name, value) := splitValue t
              match Flag.ofName? name with
              | none =>
                  if name = Text.ofString "help" ∨ name = Text.ofString "h" then .error .help
                  else .error (.undefined name)
              | some flag =>
                  match value, flag.isSwitch, rest with
                  | some value, _, rest =>
                      match o.assign flag value with
                      | .ok o => o.parse rest
                      | .error e => .error e
                  | none, true, rest => (o.switch flag true).parse rest
                  | none, false, value :: rest =>
                      match o.assign flag value with
                      | .ok o => o.parse rest
                      | .error e => .error e
                  | none, false, [] => .error (.valueMissing flag)

/-- The settings under the options: what an option gives takes the place of what was set. -/
def apply (o : Options) (s : Settings) : Settings :=
  { s with
    program := o.program.getD s.program
    stepLimit := o.limit.getD s.stepLimit
    trace := o.trace.getD s.trace
    report := o.report.getD s.report
    verbose := o.verbose.getD s.verbose }

end Options

end Tandem

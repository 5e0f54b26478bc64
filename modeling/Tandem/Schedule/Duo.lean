import Tandem.Schedule.Pair

set_option autoImplicit false

/-!
The scheduler. A duo runs two instances of one program in cycles: in each, side zero plays until it
stops and then side one. It halts once neither side runs. A step limit above zero ends a run that
would go beyond it.

`Play.advance` is one move of the scheduler; `tick` makes the moves of one cycle and `run` those of
all cycles. A program may go on for ever, so both take the number of moves that they may make, and
give `none` if these do not suffice.
-/

namespace Tandem

inductive Halt where
  | running
  | terminated
  | deadlock
  | stalled
  deriving DecidableEq

namespace Halt

def text : Halt → Text
  | .running => "running"
  | .terminated => "terminated"
  | .deadlock => "deadlock"
  | .stalled => "stalled"

def ofCode? (code : Int) : Option Halt :=
  if code = 0 then some .running
  else if code = 1 then some .terminated
  else if code = 2 then some .deadlock
  else if code = 3 then some .stalled
  else none

/-- The name of a halt code, also of one that is not in use. -/
def nameOfCode (code : Int) : Text :=
  match ofCode? code with
  | some halt => halt.text
  | none => Text.ofString "HaltReason(" ++ Text.decimal code ++ Text.ofString ")"

end Halt

inductive RuntimeError.Cause where
  | stepLimit
  | fault (f : Fault)
  deriving DecidableEq

/-- An error in a run, with the side, program counter and source line where it arose. -/
structure RuntimeError where
  side : Side
  pc : Int64
  lineNo : Nat
  cause : RuntimeError.Cause
  deriving DecidableEq

namespace RuntimeError

def Cause.message : Cause → Text
  | .stepLimit => "step limit exceeded"
  | .fault f => f.message

def message (e : RuntimeError) : Text :=
  Message.format "cpu %d pc %d line %d %v"
    [.integer e.side.index, .integer e.pc.toInt, .integer e.lineNo, .text e.cause.message]

end RuntimeError

structure Duo where
  program : Program
  pair : Pair
  stepLimit : Int
  steps : Nat
  cycles : Nat

namespace Duo

/-- A duo without a program, in which both sides have terminated. -/
def new : Duo := ⟨.empty, Pair.new.map (·.checkBounds .empty), 0, 0, 0⟩

/-- Back to the start of the program on both sides. -/
def reset (d : Duo) : Duo :=
  { d with
    steps := 0
    cycles := 0
    pair := d.pair.map fun c => c.reset.checkBounds d.program }

def isRunning (d : Duo) : Bool := d.pair.isRunning

def halt (d : Duo) : Halt :=
  if d.isRunning then .running
  else match d.pair.zero.terminated, d.pair.one.terminated with
    | true, true => .terminated
    | false, false => .deadlock
    | _, _ => .stalled

/-- The names that every program may use as equates. -/
def defines : List (Text × Text) :=
  [("INSTANCE_COUNT", Text.ofNat Side.all.length),
   ("PID_REGISTER", RegisterName.pid.text),
   ("REGISTER_COUNT", Text.ofNat RegisterName.count)]

def isAtLimit (d : Duo) : Bool := 0 < d.stepLimit && d.stepLimit ≤ d.steps

/-- Why a running side cannot take its next step, if so. -/
def error? (d : Duo) (s : Side) : Option RuntimeError :=
  let c := d.pair.get s
  let located (cause : RuntimeError.Cause) : RuntimeError :=
    ⟨s, c.pc, d.program.lineNo c.pc, cause⟩
  if d.isAtLimit then some (located .stepLimit)
  else (c.stepFault? d.program).map fun fault => located (.fault fault)

/-- One step of a running side. -/
def advance (d : Duo) (s : Side) : Duo :=
  { d with pair := d.pair.advance d.program s s.other, steps := d.steps + 1 }

end Duo

/-- A duo under the scheduler: the side whose turn it is, or none between two cycles. -/
structure Play where
  duo : Duo
  turn : Option Side

namespace Play

/-- How the play has ended, if it has: the duo has halted, or the next step fails. -/
def verdict? (p : Play) : Option (Except RuntimeError Unit) :=
  match p.turn with
  | none => if p.duo.isRunning then none else some (.ok ())
  | some s => if (p.duo.pair.get s).isRunning then (p.duo.error? s).map .error else none

/-- The next move: a step of the side whose turn it is, or else a change of turns. -/
def advance (p : Play) : Play :=
  match p with
  | ⟨duo, none⟩ => ⟨{ duo with cycles := duo.cycles + 1 }, some .zero⟩
  | ⟨duo, some s⟩ =>
      if (duo.pair.get s).isRunning then ⟨duo.advance s, some s⟩
      else ⟨duo, match s with | .zero => some .one | .one => none⟩

/-- Moves until the duo halts or fails. -/
def finish : Nat → Play → Option (Duo × Except RuntimeError Unit)
  | 0, _ => none
  | moves + 1, p =>
      match p.verdict? with
      | some outcome => some (p.duo, outcome)
      | none => finish moves p.advance

/-- Moves to the end of the cycle, and tells whether the duo has halted by then. -/
def finishCycle : Nat → Play → Option (Duo × Except RuntimeError Bool)
  | 0, _ => none
  | moves + 1, p =>
      match p.turn, p.verdict? with
      | none, _ => some (p.duo, .ok !p.duo.isRunning)
      | some _, some outcome => some (p.duo, outcome.map fun _ => true)
      | some _, none => finishCycle moves p.advance

end Play

namespace Duo

/-- One cycle, in which both sides play until they stop. Gives whether the duo has halted. -/
def tick (moves : Nat) (d : Duo) : Option (Duo × Except RuntimeError Bool) :=
  if d.isRunning then Play.finishCycle moves ⟨{ d with cycles := d.cycles + 1 }, some .zero⟩
  else some (d, .ok true)

/-- Cycles until the duo has halted. -/
def run (moves : Nat) (d : Duo) : Option (Duo × Except RuntimeError Unit) :=
  Play.finish moves ⟨d, none⟩

end Duo

end Tandem

import Tandem.Channel.Basic
import Tandem.Machine.Fault
import Tandem.Machine.Program

set_option autoImplicit false

/-!
One instance of a program: its registers, program counter, inbox and counters. It runs until it
leaves the program (`terminated`) or waits for a value (`blocked`).

Executing an instruction changes the instance alone and may give a value for the partner; the
partner gets it by `deliver`, which also wakes it. Arithmetic and the program counter wrap at 64
bits. A failing instruction changes nothing.
-/

namespace Tandem

structure Instance where
  id : Int64
  pc : Int64
  registers : RegisterFile
  inbox : Channel
  terminated : Bool
  blocked : Bool
  sent : UInt64
  received : UInt64
  ticks : Nat

namespace Instance

def new (id : Int64) : Instance :=
  { id
    pc := 0
    registers := RegisterFile.zero.set .pid id
    inbox := .new
    terminated := false
    blocked := false
    sent := 0
    received := 0
    ticks := 0 }

/-- Back to the state of a new instance with the same id. The inbox is emptied but keeps its
taps. -/
def reset (c : Instance) : Instance := { new c.id with inbox := c.inbox.rewind }

def isRunning (c : Instance) : Bool := !c.terminated && !c.blocked

def stateText (c : Instance) : Text :=
  if c.terminated then "terminated" else if c.blocked then "blocked" else "running"

/-- The state in words, one field to a line. -/
def text (c : Instance) : Text :=
  Text.ofString "      id: " ++ Text.decimal c.id.toInt ++
  Text.ofString "\n      pc: " ++ Text.decimal c.pc.toInt ++
  Text.ofString "\n   state: " ++ c.stateText ++
  Text.ofString "\n    sent: " ++ Text.ofNat c.sent.toNat ++
  Text.ofString "\nreceived: " ++ Text.ofNat c.received.toNat ++
  Text.ofString "\n pending: " ++ Text.ofNat c.inbox.length ++
  Text.ofString "\n    regs: " ++ c.registers.text ++
  Text.ofString "\n"

/-- Marks the instance terminated if its program counter is outside the program. -/
def checkBounds (p : Program) (c : Instance) : Instance :=
  if p.contains c.pc then c else { c with terminated := true, blocked := false }

/-- A value from the partner arrives, which ends a wait. -/
def deliver (value : Int64) (c : Instance) : Instance :=
  { c with inbox := c.inbox.send value, blocked := false }

/-- Ends an instruction that goes on at the given program counter. -/
def proceed (c : Instance) (pc : Int64) : Instance := { c with pc, ticks := c.ticks + 1 }

/-- Ends an instruction that stores a value in a register. -/
def store (c : Instance) (r : RegisterName) (value : Int64) : Instance :=
  { c with registers := c.registers.set r value, pc := c.pc + 1, ticks := c.ticks + 1 }

/-- Why an instruction cannot be executed, if so. -/
def fault? (c : Instance) (ins : Instruction) : Option Fault :=
  match ins.op with
  | .mod => if ins.a.resolve c.registers = 0 then some ⟨ins, .moduloByZero⟩ else none
  | .unassigned _ => some ⟨ins, .unassigned⟩
  | _ => none

/-- Carries out an instruction that has no fault. The result is the instance after it, with the
value sent to the partner, if any. -/
def perform (c : Instance) (ins : Instruction) : Instance × Option Int64 :=
  let a := ins.a.resolve c.registers
  match ins.op with
  | .set => (c.store ins.register a, none)
  | .add => (c.store ins.register (c.registers.get ins.register + a), none)
  | .mul => (c.store ins.register (c.registers.get ins.register * a), none)
  | .mod => (c.store ins.register (c.registers.get ins.register % a), none)
  | .snd => ({ c.proceed (c.pc + 1) with sent := c.sent + 1 }, some a)
  | .rcv =>
      match c.inbox.receive? with
      | none => ({ c.proceed c.pc with blocked := true }, none)
      | some (value, inbox) =>
          ({ c.store ins.register value with
            inbox, blocked := false, received := c.received + 1 }, none)
  | .jgz => (c.proceed (c.pc + if 0 < a then ins.b.resolve c.registers else 1), none)
  | .unassigned _ => (c, none)

def execute (c : Instance) (ins : Instruction) : Except Fault (Instance × Option Int64) :=
  match c.fault? ins with
  | some fault => .error fault
  | none => .ok (c.perform ins)

/-- Why the next step fails, if so. A stopped instance takes no step. -/
def stepFault? (p : Program) (c : Instance) : Option Fault :=
  if c.isRunning then (p.fetch? c.pc).bind c.fault? else none

/-- Carries out the instruction at the program counter, unless the instance is stopped, and checks
whether it is still inside the program. -/
def advance (p : Program) (c : Instance) : Instance × Option Int64 :=
  if c.isRunning then
    match p.fetch? c.pc with
    | none => (c.checkBounds p, none)
    | some ins =>
        let (c, value) := c.perform ins
        (c.checkBounds p, value)
  else (c, none)

def step (p : Program) (c : Instance) : Except Fault (Instance × Option Int64) :=
  match c.stepFault? p with
  | some fault => .error fault
  | none => .ok (c.advance p)

end Instance

end Tandem

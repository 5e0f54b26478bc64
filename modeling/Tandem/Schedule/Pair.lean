import Tandem.Machine.Instance

set_option autoImplicit false

/-!
Two instances that send values to each other. `trace` keeps what the taps around their inboxes have
written, in order.
-/

namespace Tandem

inductive Side where
  | zero
  | one
  deriving DecidableEq

namespace Side

def other : Side → Side
  | .zero => .one
  | .one => .zero

def index : Side → Nat
  | .zero => 0
  | .one => 1

def all : List Side := [.zero, .one]

end Side

structure Pair where
  zero : Instance
  one : Instance
  trace : Array Text

namespace Pair

def new : Pair := ⟨.new 0, .new 1, #[]⟩

def get (p : Pair) : Side → Instance
  | .zero => p.zero
  | .one => p.one

def modify (p : Pair) (s : Side) (f : Instance → Instance) : Pair :=
  match p, s with
  | ⟨zero, one, trace⟩, .zero => ⟨f zero, one, trace⟩
  | ⟨zero, one, trace⟩, .one => ⟨zero, f one, trace⟩

def set (p : Pair) (s : Side) (c : Instance) : Pair := p.modify s fun _ => c

/-- Applies a function to both instances. -/
def map (p : Pair) (f : Instance → Instance) : Pair := ⟨f p.zero, f p.one, p.trace⟩

def isRunning (p : Pair) : Bool := p.zero.isRunning || p.one.isRunning

def record (p : Pair) (written : Text) : Pair :=
  if written.isEmpty then p else { p with trace := p.trace.push written }

/-- Puts a value into the inbox of one side, and keeps what the taps there write about it. -/
def enqueue (p : Pair) (s : Side) (value : Int64) : Pair :=
  (p.record ((p.get s).inbox.announce value)).modify s fun c =>
    { c with inbox := c.inbox.send value }

/-- Hands a value to one side, and wakes it. -/
def deliver (p : Pair) (receiver : Side) (value : Int64) : Pair :=
  (p.record ((p.get receiver).inbox.announce value)).modify receiver (·.deliver value)

/-- One side takes its turn, and what it sends goes to its partner. -/
def act (p : Pair) (s partner : Side) (turn : Instance → Instance × Option Int64) : Pair :=
  let (p, value) : Pair × Option Int64 := match p, s with
    | ⟨zero, one, trace⟩, .zero => let (c, value) := turn zero; (⟨c, one, trace⟩, value)
    | ⟨zero, one, trace⟩, .one => let (c, value) := turn one; (⟨zero, c, trace⟩, value)
  match value with
  | none => p
  | some value => p.deliver partner value

def execute (p : Pair) (s partner : Side) (ins : Instruction) : Except Fault Pair :=
  match (p.get s).fault? ins with
  | some fault => .error fault
  | none => .ok (p.act s partner (·.perform ins))

def advance (program : Program) (p : Pair) (s partner : Side) : Pair :=
  p.act s partner (·.advance program)

def step (program : Program) (p : Pair) (s partner : Side) : Except Fault Pair :=
  match (p.get s).stepFault? program with
  | some fault => .error fault
  | none => .ok (p.advance program s partner)

end Pair

end Tandem

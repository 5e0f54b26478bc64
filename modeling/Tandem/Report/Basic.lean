import Tandem.Cbor.Decode
import Tandem.Schedule.Duo
import Tandem.Table

set_option autoImplicit false

/-!
Reports: a snapshot of a duo, normally taken after it has halted. A list or table that was never
made is told apart from an empty one.
-/

namespace Tandem

structure InstanceReport where
  id : Int64 := 0
  pc : Int64 := 0
  state : Text := []
  terminated : Bool := false
  blocked : Bool := false
  sent : UInt64 := 0
  received : UInt64 := 0
  ticks : Int64 := 0
  pending : Option (List Int64) := none
  registers : Option (Table Int64) := none
  deriving DecidableEq

structure Report where
  halt : Text := []
  cycles : Int64 := 0
  steps : Int64 := 0
  instances : Option (List InstanceReport) := none
  deriving DecidableEq

def InstanceReport.of (c : Instance) : InstanceReport :=
  { id := c.id
    pc := c.pc
    state := c.stateText
    terminated := c.terminated
    blocked := c.blocked
    sent := c.sent
    received := c.received
    ticks := Int64.ofNat c.ticks
    pending := c.inbox.values?
    registers := some (c.registers.entries.map fun (r, value) => (r.text, value)) }

def Report.of (d : Duo) : Report :=
  { halt := d.halt.text
    cycles := Int64.ofNat d.cycles
    steps := Int64.ofNat d.steps
    instances := some [.of d.pair.zero, .of d.pair.one] }

end Tandem

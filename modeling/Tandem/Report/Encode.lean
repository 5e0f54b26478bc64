import Tandem.Report.Basic

set_option autoImplicit false

/-!
Writing reports as canonical CBOR. A list or table that was never made is null, and pending values
are left out when there are none.
-/

namespace Tandem

open Cbor

/-- What was never made is null. -/
def Cbor.Item.orNull {α : Type} (f : α → Item) : Option α → Item
  | none => .null
  | some a => f a

def InstanceReport.toItem (r : InstanceReport) : Item :=
  let pending : List (Text × Item) := match r.pending with
    | none | some [] => []
    | some values => [("pending", .array (values.map fun n => .ofInt n.toInt))]
  let fields : List (Text × Item) :=
    [("id", .ofInt r.id.toInt),
     ("pc", .ofInt r.pc.toInt),
     ("state", .ofText r.state),
     ("terminated", .ofBool r.terminated),
     ("blocked", .ofBool r.blocked),
     ("sent", .unsigned r.sent.toNat),
     ("received", .unsigned r.received.toNat),
     ("ticks", .ofInt r.ticks.toInt),
     ("registers", .orNull (fun table =>
       .mapOf (table.map fun (name, n) => (name, .ofInt n.toInt))) r.registers)]
  .mapOf (fields ++ pending)

def Report.toItem (r : Report) : Item :=
  .mapOf
    [("halt", .ofText r.halt),
     ("cycles", .ofInt r.cycles.toInt),
     ("steps", .ofInt r.steps.toInt),
     ("instances", .orNull (fun list => .array (list.map (·.toItem))) r.instances)]

def Report.encode (r : Report) : Text := r.toItem.encode

end Tandem

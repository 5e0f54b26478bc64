import Tandem.Proofs.Channel.Taps
import Tandem.Proofs.Schedule.Forgetting
import Tandem.Proofs.Schedule.Transcript
import Tandem.Report.Basic

set_option autoImplicit false

/-!
Taps only listen. `untapped` takes all taps off the inboxes, with what they have written. It
commutes with everything that an inbox, a side and the scheduler can do, whether or not the writers
of the taps fail; so the calls of a tapped duo are answered as those of the same duo without its
taps, and all that a caller can see of the two is the same after each call.
-/

namespace Tandem

namespace Instance

def withTaps (c : Instance) (taps : List Tap) : Instance :=
  { c with inbox := c.inbox.withTaps taps }

def untapped (c : Instance) : Instance := { c with inbox := c.inbox.untapped }

@[simp]
theorem untapped_deliver (c : Instance) (value : Int64) :
    (c.deliver value).untapped = c.untapped.deliver value := by
  unfold untapped deliver
  simp

@[simp]
theorem untapped_reset (c : Instance) : c.reset.untapped = c.untapped.reset := by
  unfold untapped reset
  simp

@[simp]
theorem untapped_checkBounds (p : Program) (c : Instance) :
    (c.checkBounds p).untapped = c.untapped.checkBounds p := by
  rw [checkBounds_eq, checkBounds_eq]
  rfl

/-- Only a `rcv` looks at the inbox, and it gets the same value through the taps. -/
@[simp]
theorem perform_untapped (c : Instance) (ins : Instruction) :
    c.untapped.perform ins = ((c.perform ins).1.untapped, (c.perform ins).2) := by
  unfold perform
  cases ins.op with
  | rcv =>
      have received : c.untapped.inbox.receive? = _ := Channel.receive?_untapped c.inbox
      rw [received]
      cases c.inbox.receive? with
      | none => rfl
      | some taken => rfl
  | _ => rfl

@[simp]
theorem advance_untapped (p : Program) (c : Instance) :
    c.untapped.advance p = ((c.advance p).1.untapped, (c.advance p).2) := by
  unfold advance
  have samePlace : p.fetch? c.untapped.pc = p.fetch? c.pc := rfl
  have sameStatus : c.untapped.isRunning = c.isRunning := rfl
  rw [samePlace, sameStatus]
  by_cases running : c.isRunning = true
  · rw [if_pos running, if_pos running]
    cases p.fetch? c.pc with
    | none => simp
    | some ins => simp
  · rw [if_neg running, if_neg running]

end Instance

namespace Pair

def untapped (p : Pair) : Pair := ⟨p.zero.untapped, p.one.untapped, #[]⟩

@[simp]
theorem untapped_advance (program : Program) (p : Pair) (s : Side) :
    (p.advance program s s.other).untapped = p.untapped.advance program s s.other := by
  apply forget_advance
  · intro value
    exact Channel.announce_untapped value _
  · exact Instance.advance_untapped program _
  · intro value
    exact Instance.untapped_deliver _ value

end Pair

namespace Duo

def untapped (d : Duo) : Duo := { d with pair := d.pair.untapped }

/-- The duo with taps around its inboxes. -/
def withTaps (d : Duo) (taps : Side → List Tap) : Duo :=
  { d with
    pair := { d.pair with
      zero := d.pair.zero.withTaps (taps .zero)
      one := d.pair.one.withTaps (taps .one) } }

@[simp]
theorem untapped_withTaps (d : Duo) (taps : Side → List Tap) :
    (d.withTaps taps).untapped = d.untapped := by
  simp only [untapped, withTaps, Pair.untapped, Instance.withTaps, Instance.untapped,
    Channel.untapped_withTaps]

@[simp]
theorem untapped_reset (d : Duo) : d.reset.untapped = d.untapped.reset := by
  simp only [untapped, reset, Pair.untapped, Pair.map, Instance.untapped_checkBounds,
    Instance.untapped_reset]

@[simp]
theorem isRunning_get_untapped (d : Duo) (s : Side) :
    (d.untapped.pair.get s).isRunning = (d.pair.get s).isRunning := by
  cases s <;> rfl

@[simp]
theorem error?_untapped (d : Duo) (s : Side) : d.untapped.error? s = d.error? s := by
  cases s <;> rfl

@[simp]
theorem untapped_advance (d : Duo) (s : Side) : (d.advance s).untapped = d.untapped.advance s := by
  unfold advance untapped
  simp

end Duo

/-! ### Plays and calls -/

namespace Play

def untapped (p : Play) : Play := ⟨p.duo.untapped, p.turn⟩

@[simp]
theorem verdict?_untapped (p : Play) : p.untapped.verdict? = p.verdict? := by
  obtain ⟨duo, turn⟩ := p
  cases turn with
  | none => rfl
  | some s =>
      simp only [untapped, verdict?, Duo.isRunning_get_untapped, Duo.error?_untapped]

@[simp]
theorem advance_untapped (p : Play) : p.untapped.advance = p.advance.untapped := by
  obtain ⟨duo, turn⟩ := p
  cases turn with
  | none => rfl
  | some s =>
      simp only [untapped, advance]
      rw [Duo.isRunning_get_untapped]
      by_cases running : (duo.pair.get s).isRunning = true
      · rw [if_pos running, if_pos running, Duo.untapped_advance]
      · rw [if_neg running, if_neg running]

@[simp]
theorem finish_untapped (moves : Nat) (p : Play) :
    finish moves p.untapped =
      (finish moves p).map fun returned => (returned.1.untapped, returned.2) := by
  induction moves generalizing p with
  | zero => rfl
  | succ moves inductionHypothesis =>
      unfold finish
      rw [verdict?_untapped]
      cases p.verdict? with
      | some outcome => rfl
      | none =>
          simp only
          simpa using inductionHypothesis p.advance

@[simp]
theorem finishCycle_untapped (moves : Nat) (p : Play) :
    finishCycle moves p.untapped =
      (finishCycle moves p).map fun returned => (returned.1.untapped, returned.2) := by
  induction moves generalizing p with
  | zero => rfl
  | succ moves inductionHypothesis =>
      unfold finishCycle
      rw [verdict?_untapped, show p.untapped.turn = p.turn from rfl]
      cases p.turn with
      | none => rfl
      | some s =>
          cases p.verdict? with
          | some outcome => rfl
          | none =>
              simp only
              simpa using inductionHypothesis p.advance

end Play

namespace Duo

@[simp]
theorem answer?_untapped (d : Duo) (call : Call) :
    d.untapped.answer? call =
      (d.answer? call).map fun returned => (returned.1.untapped, returned.2) := by
  cases call with
  | tick moves =>
      simp only [answer?, tick]
      by_cases running : d.isRunning = true
      · rw [if_pos running, if_pos (show d.untapped.isRunning = true from running)]
        exact Play.finishCycle_untapped moves ⟨{ d with cycles := d.cycles + 1 }, some .zero⟩
      · rw [if_neg running, if_neg (show ¬ d.untapped.isRunning = true from running)]
        rfl
  | run moves =>
      have same : d.untapped.run moves = _ := Play.finish_untapped moves ⟨d, none⟩
      simp only [answer?, same, Option.map_map]
      rfl

@[simp]
theorem transcript_untapped (d : Duo) (calls : List Call) :
    d.untapped.transcript calls =
      (d.transcript calls).map fun entry => (entry.1, entry.2.untapped) := by
  induction calls generalizing d with
  | nil => rfl
  | cons call rest inductionHypothesis =>
      unfold transcript
      rw [answer?_untapped]
      cases d.answer? call with
      | none => rfl
      | some returned =>
          simp only [Option.map_some, List.map_cons]
          rw [inductionHypothesis]

/-! ### What can be seen of a duo -/

/-- All about a side but the way its inbox is built. -/
structure SideView where
  id : Int64
  pc : Int64
  registers : RegisterFile
  queued : List Int64
  terminated : Bool
  blocked : Bool
  sent : UInt64
  received : UInt64
  ticks : Nat
  deriving DecidableEq

structure View where
  sides : List SideView
  steps : Nat
  cycles : Nat
  halt : Halt
  report : Report
  deriving DecidableEq

def sideView (c : Instance) : SideView :=
  ⟨c.id, c.pc, c.registers, c.inbox.queued, c.terminated, c.blocked, c.sent,
    c.received, c.ticks⟩

def view (d : Duo) : View :=
  ⟨[sideView d.pair.zero, sideView d.pair.one], d.steps, d.cycles, d.halt, Report.of d⟩

/-- The answers to some calls, and what can be seen after each of them. -/
def sights (d : Duo) (calls : List Call) : List (Except RuntimeError Bool × View) :=
  (d.transcript calls).map fun entry => (entry.1, entry.2.view)

@[simp]
theorem view_untapped (d : Duo) : d.untapped.view = d.view := by
  have sameSide : ∀ c : Instance, sideView c.untapped = sideView c := by
    intro c
    simp only [sideView, Instance.untapped, Channel.queued_untapped]
  have sameReport : ∀ c : Instance, InstanceReport.of c.untapped = InstanceReport.of c := by
    intro c
    simp only [InstanceReport.of, Instance.untapped, Channel.values?_untapped]
    rfl
  simp only [view, untapped, Pair.untapped, sameSide, Report.of, sameReport]
  rfl

@[simp]
theorem sights_untapped (d : Duo) (calls : List Call) :
    d.untapped.sights calls = d.sights calls := by
  unfold sights
  rw [transcript_untapped, List.map_map]
  apply List.map_congr_left
  intro entry _
  exact congrArg (Prod.mk entry.1) (view_untapped entry.2)

/-- Taps around the inboxes, whatever their labels and whatever becomes of their writers, change
neither the answer to any call after a reset nor anything that can be seen then. -/
theorem tracing_changes_nothing (d : Duo) (taps : Side → List Tap) (calls : List Call) :
    (d.withTaps taps).reset.sights calls = d.reset.sights calls :=
  calc (d.withTaps taps).reset.sights calls
      = (d.withTaps taps).reset.untapped.sights calls := (sights_untapped _ calls).symm
    _ = d.reset.untapped.sights calls := by rw [untapped_reset, untapped_withTaps, untapped_reset]
    _ = d.reset.sights calls := sights_untapped _ calls

end Duo

end Tandem

import Tandem.Proofs.Schedule.Transcript
import Tandem.Report.Basic

set_option autoImplicit false

/-!
A reset forgets. Steps, arrivals and errors change registers, counters and flags, and fill and empty
the inboxes; but of an instance that goes back to its start, only the id and what is around its
queue are left, and these do not change. So a duo that was new once, whatever has been done to it
since, is after a reset the same as a new one with its program and step limit.
-/

namespace Tandem

namespace Channel

/-! A channel that is as new once it has been emptied has neither taps nor veils. -/

theorem rewind_send {ch : Channel} (plain : ch.rewind = .new) (value : Int64) :
    (ch.send value).rewind = .new := by
  cases ch with
  | absent => rfl
  | queue q => rfl
  | veiled inner => contradiction
  | tapped tap inner => contradiction

theorem rewind_of_receive? {ch next : Channel} {value : Int64} (plain : ch.rewind = .new)
    (received : ch.receive? = some (value, next)) : next.rewind = .new := by
  cases ch with
  | absent => contradiction
  | queue q =>
      obtain ⟨taken, _, same⟩ := Option.map_eq_some_iff.mp received
      cases same
      rfl
  | veiled inner => contradiction
  | tapped tap inner => contradiction

theorem announce_eq_nil {ch : Channel} (plain : ch.rewind = .new) (value : Int64) :
    ch.announce value = [] := by
  cases ch with
  | absent => rfl
  | queue q => rfl
  | veiled inner => contradiction
  | tapped tap inner => contradiction

end Channel

namespace Instance

@[simp]
theorem reset_checkBounds (p : Program) (c : Instance) : (c.checkBounds p).reset = c.reset := by
  simp [reset]

theorem reset_deliver {c : Instance} (plain : c.inbox.rewind = .new) (value : Int64) :
    (c.deliver value).reset = c.reset := by
  simp only [reset, deliver, Channel.rewind_send plain, plain]

theorem reset_perform {c : Instance} (plain : c.inbox.rewind = .new) (ins : Instruction) :
    (c.perform ins).1.reset = c.reset := by
  unfold perform
  cases ins.op with
  | rcv =>
      cases received : c.inbox.receive? with
      | none => rfl
      | some taken => simp only [reset, store, Channel.rewind_of_receive? plain received, plain]
  | _ => rfl

theorem reset_advance (p : Program) {c : Instance} (plain : c.inbox.rewind = .new) :
    (c.advance p).1.reset = c.reset := by
  rcases c.advance_cases p with ⟨_, _, _, _, idle⟩ | ⟨ins, running, fetched⟩
  · rw [idle]
    rfl
  · rw [advance_of_fetch? running fetched]
    exact (reset_checkBounds p _).trans (reset_perform plain ins)

end Instance

namespace Pair

/-- When both sides go back to their start, the pair is as new. -/
structure RestartsAsNew (p : Pair) : Prop where
  trace_eq : p.trace = #[]
  reset_eq : ∀ s, (p.get s).reset = Pair.new.get s

theorem RestartsAsNew.rewind_eq {p : Pair} (asNew : p.RestartsAsNew) (s : Side) :
    (p.get s).inbox.rewind = .new := by
  have sameInbox : (p.get s).inbox.rewind = (Pair.new.get s).inbox :=
    congrArg Instance.inbox (asNew.reset_eq s)
  rw [sameInbox]
  cases s <;> rfl

theorem trace_advance {program : Program} {p : Pair} {s : Side}
    (silent : ∀ value, (p.get s.other).inbox.announce value = []) :
    (p.advance program s s.other).trace = p.trace := by
  rw [advance, act_eq]
  have kept : ∀ c, (p.set s c).trace = p.trace := by
    intro c
    cases s <;> rfl
  cases ((p.get s).advance program).2 with
  | none => exact kept _
  | some value =>
      have partner :
          ((p.set s ((p.get s).advance program).1).get s.other).inbox.announce value = [] := by
        rw [set, get_modify_other]
        exact silent value
      simp only [deliver, partner, record, List.isEmpty_nil, if_true]
      rw [← kept ((p.get s).advance program).1]
      cases s <;> rfl

theorem RestartsAsNew.advance {program : Program} {p : Pair} (asNew : p.RestartsAsNew) (s : Side) :
    (p.advance program s s.other).RestartsAsNew where
  trace_eq := by
    rw [trace_advance]
    · exact asNew.trace_eq
    · intro value
      exact Channel.announce_eq_nil (asNew.rewind_eq s.other) value
  reset_eq := by
    intro t
    rw [← asNew.reset_eq t]
    rcases s.eq_or_eq_other t with equality | equality
    · subst t
      simpa using Instance.reset_advance program (asNew.rewind_eq s)
    · subst t
      rw [get_advance_other]
      cases (p.get s).sends? program with
      | none => rfl
      | some value => exact Instance.reset_deliver (asNew.rewind_eq s.other) value

end Pair

namespace Duo

/-- A new duo with a program and a step limit. -/
def loaded (program : Program) (limit : Int) : Duo := { Duo.new with program, stepLimit := limit }

/-- The duos that one has after any use of a new duo: other programs and step limits, resets, and
calls that return, with an error or without. -/
inductive Reached : Duo → Prop where
  | new : Reached .new
  | program {d : Duo} (p : Program) : Reached d → Reached { d with program := p }
  | limit {d : Duo} (n : Int) : Reached d → Reached { d with stepLimit := n }
  | reset {d : Duo} : Reached d → Reached d.reset
  | tick {d e : Duo} {answer : Except RuntimeError Bool} (moves : Nat) :
      Reached d → d.tick moves = some (e, answer) → Reached e
  | run {d e : Duo} {outcome : Except RuntimeError Unit} (moves : Nat) :
      Reached d → d.run moves = some (e, outcome) → Reached e

theorem isKept_restartsAsNew : IsKept fun d => d.pair.RestartsAsNew where
  cycle asNew := asNew
  step := by
    intro d s _ _ asNew
    exact asNew.advance s

theorem Reached.restartsAsNew {d : Duo} (reached : d.Reached) : d.pair.RestartsAsNew := by
  induction reached with
  | new =>
      refine ⟨rfl, ?_⟩
      intro s
      cases s <;> rfl
  | program _ _ inductionHypothesis => exact inductionHypothesis
  | limit _ _ inductionHypothesis => exact inductionHypothesis
  | @reset d _ inductionHypothesis =>
      refine ⟨inductionHypothesis.trace_eq, ?_⟩
      intro s
      rw [get_reset, Instance.reset_checkBounds, inductionHypothesis.reset_eq s]
      cases s <;> rfl
  | tick moves _ returned inductionHypothesis =>
      exact isKept_restartsAsNew.tick returned inductionHypothesis
  | run moves _ returned inductionHypothesis =>
      exact isKept_restartsAsNew.run returned inductionHypothesis

/-- Of a duo in use, a reset leaves the program and the step limit, and nothing else. -/
theorem Reached.reset_eq {d : Duo} (reached : d.Reached) :
    d.reset = (loaded d.program d.stepLimit).reset := by
  have asNew := reached.restartsAsNew
  have zero : d.pair.zero.reset = .new 0 := asNew.reset_eq .zero
  have one : d.pair.one.reset = .new 1 := asNew.reset_eq .one
  simp only [Duo.reset, Pair.map, zero, one, asNew.trace_eq]
  rfl

end Duo

/-! ### Questions and answers -/

/-- What can be asked of a duo. -/
inductive Request where
  | call (call : Call)
  | halt
  | report

inductive Reply where
  | answer (answer : Except RuntimeError Bool)
  | halt (halt : Halt)
  | report (report : Report)

namespace Duo

/-- The replies to some requests, up to the first call that does not return. -/
def replies (d : Duo) : List Request → List Reply
  | [] => []
  | .call call :: rest =>
      match d.answer? call with
      | none => []
      | some (e, answer) => .answer answer :: e.replies rest
  | .halt :: rest => .halt d.halt :: d.replies rest
  | .report :: rest => .report (Report.of d) :: d.replies rest

/-- Whatever has been done to a duo, after a reset it replies to all requests as a new duo does that
has got its program and its step limit. -/
theorem reset_erases_history (d : Duo) (reached : d.Reached) (requests : List Request) :
    d.reset.replies requests = (loaded d.program d.stepLimit).reset.replies requests := by
  rw [reached.reset_eq]

/-- The handshake, cut off with values on their way, and then given another program. -/
theorem reset_erases_history_handshake :
    ∃ d : Duo, d.Reached ∧ d.pair.one.inbox.values? = some [0, 7] ∧ d.program.size = 2 ∧
      ∀ requests, d.reset.replies requests = (loaded d.program 4).reset.replies requests := by
  have cutOff : ∃ e error, ({ handshake.reset with stepLimit := 4 } : Duo).run 40 =
      some (e, .error error) ∧ e.pair.one.inbox.values? = some [0, 7] ∧ e.stepLimit = 4 :=
    ⟨_, _, rfl, rfl, rfl⟩
  obtain ⟨e, error, returned, waiting, limited⟩ := cutOff
  have loadedHandshake : handshake.Reached := Reached.new.program handshake.program
  have used := (loadedHandshake.reset.limit 4).run 40 returned
  have changed := used.program (.ofInstructions [.rcv ⟨97⟩, .snd (.ofRegister ⟨97⟩)])
  refine ⟨_, changed, waiting, rfl, ?_⟩
  intro requests
  have same := reset_erases_history _ changed requests
  rw [← limited]
  exact same

end Duo

end Tandem

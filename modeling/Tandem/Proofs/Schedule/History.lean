import Mathlib.Data.List.Induction
import Tandem.Proofs.Schedule.Accounting

set_option autoImplicit false

/-!
What an instance does depends on the values that it takes, and on nothing else around
it. A chronicle follows one instance through step calls and through values that
partners send, in any order.

Two histories can wait at different moments and hold different values that are not read yet, so they
are not compared with each other. Each is compared with the history in which all values have arrived
before the first step, where the instance never waits: it does the same there after as many
completed instructions.
-/

namespace Tandem

/-- What can happen to an instance: a step call, or a value that a partner sends. -/
inductive Event where
  | step
  | arrival (value : Int64)

/-- An instance after some events, the number of instructions that it has completed by then, and the
values that it has sent and taken. -/
structure Chronicle where
  now : Instance
  completed : Nat
  sent : List Int64
  taken : List Int64

namespace Chronicle

/-- A failing step changes nothing. An instruction is completed if it was carried out and has not
left the instance waiting. -/
def extend (program : Program) (h : Chronicle) : Event → Chronicle
  | .arrival value => { h with now := h.now.deliver value }
  | .step =>
      match h.now.step program with
      | .error _ => h
      | .ok (next, value) =>
          { now := next
            completed := h.completed + if next.ticks = h.now.ticks ∨ next.blocked then 0 else 1
            sent := h.sent ++ value.toList
            taken := h.taken ++ (h.now.takes? program).toList }

def of (program : Program) (c : Instance) (events : List Event) : Chronicle :=
  events.foldl (extend program) ⟨c, 0, [], []⟩

/-- The chronicle in which all values arrive first, and the steps are made afterwards. -/
def prepared (program : Program) (c : Instance) (values : List Int64) (steps : Nat) : Chronicle :=
  of program c (values.map .arrival ++ List.replicate steps .step)

@[simp]
theorem of_concat (program : Program) (c : Instance) (events : List Event) (event : Event) :
    of program c (events ++ [event]) = (of program c events).extend program event := by
  simp [of]

@[simp]
theorem prepared_succ (program : Program) (c : Instance) (values : List Int64) (steps : Nat) :
    prepared program c values (steps + 1) =
      (prepared program c values steps).extend program .step := by
  rw [prepared, List.replicate_succ', ← List.append_assoc, of_concat]
  rfl

/-! ### One step -/

section Step

variable {program : Program} {h : Chronicle}

theorem extend_of_fault {fault : Fault} (failing : h.now.stepFault? program = some fault) :
    h.extend program .step = h := by
  simp [extend, Instance.step, failing]

theorem extend_of_no_fault (faultless : h.now.stepFault? program = none) :
    h.extend program .step =
      let next := (h.now.advance program).1
      { now := next
        completed := h.completed + if next.ticks = h.now.ticks ∨ next.blocked then 0 else 1
        sent := h.sent ++ (h.now.sends? program).toList
        taken := h.taken ++ (h.now.takes? program).toList } := by
  simp only [extend, Instance.step, faultless, Instance.snd_advance]

theorem extend_of_stopped (stopped : h.now.isRunning = false) : h.extend program .step = h := by
  have faultless : h.now.stepFault? program = none := by simp [Instance.stepFault?, stopped]
  rw [extend_of_no_fault faultless, Instance.advance_of_stopped program stopped,
    Instance.sends?_of_stopped program stopped, Instance.takes?_of_stopped program stopped]
  simp

theorem extend_of_starved (coherent : h.now.IsCoherent program) (running : h.now.isRunning = true)
    (starved : h.now.IsStarved program) :
    h.extend program .step = { h with now := (h.now.advance program).1 } := by
  obtain ⟨_, noneSent, noneTaken, faultless⟩ := Instance.advance_of_starved starved
  have waits := (coherent.blocked_advance_iff running).mpr starved
  simp [extend_of_no_fault faultless, noneSent, noneTaken, waits]

theorem extend_of_fed (coherent : h.now.IsCoherent program) (running : h.now.isRunning = true)
    (goesOn : ¬ h.now.IsStarved program) (faultless : h.now.stepFault? program = none) :
    h.extend program .step =
      ⟨(h.now.advance program).1, h.completed + 1, h.sent ++ (h.now.sends? program).toList,
        h.taken ++ (h.now.takes? program).toList⟩ := by
  have awake : ¬ (h.now.advance program).1.blocked = true := by
    rw [coherent.blocked_advance_iff running]
    exact goesOn
  have counted := coherent.ticks_advance running faultless
  rw [extend_of_no_fault faultless]
  simp [awake, counted]

/-- A step call completes an instruction, or it leaves everything as it is but for the waiting. -/
theorem extend_cases (coherent : h.now.IsCoherent program) :
    (∃ next : Instance, next.core = h.now.core ∧
      h.extend program .step = { h with now := next }) ∨
      h.now.isRunning = true ∧ ¬ h.now.IsStarved program ∧
        h.now.stepFault? program = none := by
  by_cases running : h.now.isRunning = true
  · by_cases starved : h.now.IsStarved program
    · exact .inl ⟨_, (Instance.advance_of_starved starved).1,
        extend_of_starved coherent running starved⟩
    · cases failing : h.now.stepFault? program with
      | some fault => exact .inl ⟨h.now, rfl, extend_of_fault failing⟩
      | none => exact .inr ⟨running, starved, rfl⟩
  · exact .inl ⟨h.now, rfl, extend_of_stopped (Bool.eq_false_iff.mpr running)⟩

theorem isCoherent_extend (coherent : h.now.IsCoherent program) (event : Event) :
    (h.extend program event).now.IsCoherent program := by
  cases event with
  | arrival value => exact coherent.deliver value
  | step =>
      cases failing : h.now.stepFault? program with
      | some fault =>
          rw [extend_of_fault failing]
          exact coherent
      | none =>
          rw [extend_of_no_fault failing]
          exact coherent.advance

end Step

theorem isCoherent_of {program : Program} {c : Instance} (coherent : c.IsCoherent program)
    (events : List Event) : (of program c events).now.IsCoherent program := by
  induction events using List.reverseRecOn with
  | nil => exact coherent
  | append_singleton events event inductionHypothesis =>
      simpa using isCoherent_extend inductionHypothesis event

/-! ### The prepared history -/

/-- The prepared chronicle has done what the other one has. It holds all values that it has not
taken, and does not wait. -/
structure Agrees (program : Program) (values : List Int64) (h ready : Chronicle) : Prop where
  coherent : ready.now.IsCoherent program
  awake : ready.now.blocked = false
  supply : ready.taken ++ ready.now.inbox.queued = values
  core_eq : ready.now.core = h.now.core
  sent_eq : ready.sent = h.sent
  taken_eq : ready.taken = h.taken

theorem agrees_arrivals {program : Program} {c other : Instance} (coherent : c.IsCoherent program)
    (awake : c.blocked = false) (empty : c.inbox.queued = []) (same : c.core = other.core)
    (values : List Int64) :
    Agrees program values ⟨other, 0, [], []⟩ (prepared program c values 0) := by
  unfold prepared
  induction values using List.reverseRecOn with
  | nil => exact ⟨coherent, awake, empty, same, rfl, rfl⟩
  | append_singleton values value inductionHypothesis =>
      simp only [List.replicate_zero, List.append_nil] at inductionHypothesis
      simp only [List.replicate_zero, List.append_nil, List.map_append, List.map_cons, List.map_nil,
        of_concat]
      refine ⟨inductionHypothesis.coherent.deliver value, rfl, ?_, inductionHypothesis.core_eq,
        inductionHypothesis.sent_eq, inductionHypothesis.taken_eq⟩
      have arrived : ((of program c (values.map .arrival)).now.deliver value).inbox.queued =
          (of program c (values.map .arrival)).now.inbox.queued ++ [value] :=
        inductionHypothesis.coherent.ready.queued_send value
      simp only [extend, arrived]
      rw [← List.append_assoc, inductionHypothesis.supply]

section Following

variable {program : Program} {values : List Int64} {h ready : Chronicle}

/-- Where the other chronicle takes its next value, the prepared one has that value in front. -/
theorem Agrees.takes?_eq (agrees : Agrees program values h ready)
    (coherent : h.now.IsCoherent program) (running : h.now.isRunning = true)
    (readyRunning : ready.now.isRunning = true) (goesOn : ¬ h.now.IsStarved program)
    (supplied : h.taken ++ (h.now.takes? program).toList <+: values) :
    ready.now.takes? program = h.now.takes? program ∧ ¬ ready.now.IsStarved program := by
  have samePc : ready.now.pc = h.now.pc := congrArg Instance.Core.pc agrees.core_eq
  have samePlace : ready.now.AtReceive program ↔ h.now.AtReceive program := by
    rw [Instance.AtReceive, Instance.AtReceive, samePc]
  by_cases atReceive : h.now.AtReceive program
  · have fed : h.now.IsFed program :=
      ⟨atReceive, fun nothing => goesOn ⟨atReceive, nothing⟩⟩
    obtain ⟨_, value, _, _, _, _, _, takes, _⟩ := fed.step coherent.ready running
    rw [takes, ← agrees.supply, agrees.taken_eq, List.prefix_append_right_inj] at supplied
    obtain ⟨rest, holds⟩ := supplied
    have readyFed : ready.now.IsFed program := by
      refine ⟨samePlace.mpr atReceive, ?_⟩
      rw [← holds]
      exact List.cons_ne_nil _ _
    refine ⟨?_, fun starved => readyFed.2 starved.2⟩
    obtain ⟨_, front, _, _, _, front_holds, _, readyTakes, _⟩ :=
      readyFed.step agrees.coherent.ready readyRunning
    rw [← holds] at front_holds
    rw [readyTakes, takes, ← (List.cons.inj front_holds).1]
  · have elsewhere : ¬ ready.now.AtReceive program := fun there => atReceive (samePlace.mp there)
    refine ⟨?_, fun starved => elsewhere starved.1⟩
    rw [Instance.takes?_of_not_atReceive elsewhere, Instance.takes?_of_not_atReceive atReceive]

/-- An instruction that the other chronicle completes, the prepared one completes, too. -/
theorem Agrees.extend (agrees : Agrees program values h ready) (coherent : h.now.IsCoherent program)
    (running : h.now.isRunning = true) (goesOn : ¬ h.now.IsStarved program)
    (faultless : h.now.stepFault? program = none)
    (supplied : (h.extend program .step).taken <+: values) :
    Agrees program values (h.extend program .step) (ready.extend program .step) := by
  rw [extend_of_fed coherent running goesOn faultless] at supplied ⊢
  have alive : ready.now.terminated = false := by
    have sameFlag := congrArg Instance.Core.terminated agrees.core_eq
    exact sameFlag.trans (h.now.isRunning_iff.mp running).1
  have readyRunning : ready.now.isRunning = true :=
    ready.now.isRunning_iff.mpr ⟨alive, agrees.awake⟩
  have sameStatus := readyRunning.trans running.symm
  obtain ⟨sameInput, readyGoesOn⟩ :=
    agrees.takes?_eq coherent running readyRunning goesOn supplied
  have readyFaultless : ready.now.stepFault? program = none := by
    rw [Instance.stepFault?_congr program agrees.core_eq sameStatus]
    exact faultless
  rw [extend_of_fed agrees.coherent readyRunning readyGoesOn readyFaultless]
  refine ⟨agrees.coherent.advance, ?_, ?_, ?_, ?_, ?_⟩
  · apply Bool.eq_false_iff.mpr
    rw [Ne, agrees.coherent.blocked_advance_iff readyRunning]
    exact readyGoesOn
  · have moved := (Instance.inbox_advance program agrees.coherent.ready).2
    rw [List.append_assoc, ← moved]
    exact agrees.supply
  · exact Instance.core_advance_congr program agrees.core_eq readyRunning running sameInput
  · simp only [agrees.sent_eq, Instance.sends?_congr program agrees.core_eq sameStatus]
  · simp only [agrees.taken_eq, sameInput]

end Following

/-- Every history does what the prepared one does after as many completed instructions, whatever
values beyond those taken are prepared. -/
theorem agrees_prepared {program : Program} {c other : Instance} (coherent : c.IsCoherent program)
    (awake : c.blocked = false) (empty : c.inbox.queued = [])
    (otherCoherent : other.IsCoherent program) (same : c.core = other.core) (events : List Event)
    {values : List Int64} (supplied : (of program other events).taken <+: values) :
    Agrees program values (of program other events)
      (prepared program c values (of program other events).completed) := by
  -- by the last event: only a completed instruction lets the prepared history go on
  induction events using List.reverseRecOn with
  | nil => exact agrees_arrivals coherent awake empty same values
  | append_singleton events event inductionHypothesis =>
      rw [of_concat] at supplied ⊢
      have nowCoherent := isCoherent_of otherCoherent events
      cases event with
      | arrival value =>
          -- a value that has arrived and is not taken yet is in no part of the comparison
          have before := inductionHypothesis supplied
          exact ⟨before.coherent, before.awake, before.supply, before.core_eq, before.sent_eq,
            before.taken_eq⟩
      | step =>
          rcases extend_cases nowCoherent with ⟨next, sameCore, idle⟩ |
            ⟨running, goesOn, faultless⟩
          · rw [idle] at supplied ⊢
            have before := inductionHypothesis supplied
            exact ⟨before.coherent, before.awake, before.supply,
              before.core_eq.trans sameCore.symm, before.sent_eq, before.taken_eq⟩
          · have completes := extend_of_fed nowCoherent running goesOn faultless
            have earlier : (of program other events).taken <+: values := by
              rw [completes] at supplied
              exact (List.prefix_append _ _).trans supplied
            have after :=
              (inductionHypothesis earlier).extend nowCoherent running goesOn faultless supplied
            rw [← prepared_succ] at after
            have counted : ((of program other events).extend program .step).completed =
                (of program other events).completed + 1 := by rw [completes]
            rw [counted]
            exact after

end Chronicle

/-! ### Sides of a pair -/

/-- What happens to one side of a pair, whatever the order of the step calls, is a
history of this side. -/
theorem Pair.exists_history (program : Program) (p : Pair) (s : Side) (schedule : List Side) :
    ∃ events, (Chronicle.of program (p.get s) events).now =
      (p.attempts program schedule).get s ∧
      (Chronicle.of program (p.get s) events).sent = p.sentBy program s schedule ∧
      (Chronicle.of program (p.get s) events).taken = p.takenBy program s schedule := by
  induction schedule using List.reverseRecOn with
  | nil => exact ⟨[], rfl, rfl, rfl⟩
  | append_singleton schedule turn inductionHypothesis =>
      obtain ⟨events, now, sent, taken⟩ := inductionHypothesis
      simp only [attempts_concat, sentBy, takenBy, exchanged_append, exchanged_singleton]
      rcases s.eq_or_eq_other turn with equality | equality
      · subst turn
        refine ⟨events ++ [.step], ?_⟩
        rw [Chronicle.of_concat, if_pos rfl, if_pos rfl]
        cases failing : ((p.attempts program schedule).get s).stepFault? program with
        | some fault =>
            have silent := Instance.silent_of_fault failing
            rw [attempt_of_fault failing, silent.1, silent.2]
            rw [← now] at failing
            rw [Chronicle.extend_of_fault failing]
            exact ⟨now, sent.trans (List.append_nil _).symm,
              taken.trans (List.append_nil _).symm⟩
        | none =>
            rw [attempt_of_no_fault failing, get_advance_self]
            rw [← now] at failing
            rw [Chronicle.extend_of_no_fault failing, now, sent, taken]
            exact ⟨rfl, rfl, rfl⟩
      · subst turn
        simp only [Side.other_ne, if_false, List.append_nil]
        have partner := get_attempt_other program (p.attempts program schedule) s.other
        rw [Side.other_other] at partner
        rw [partner]
        cases ((p.attempts program schedule).get s.other).sends? program with
        | none => exact ⟨events, now, sent, taken⟩
        | some value =>
            refine ⟨events ++ [.arrival value], ?_⟩
            simpa using ⟨congrArg (Instance.deliver value) now, sent, taken⟩

namespace Instance

theorem core_reset_eq (program : Program) {c other : Instance} (sameId : c.id = other.id) :
    (c.reset.checkBounds program).core = (other.reset.checkBounds program).core := by
  apply core_checkBounds_congr
  simp only [core, reset, sameId]

/-- In any two histories of instances with one id from their resets, where as many instructions have
been completed and the same values have been taken, the core is the same and the same values have
been sent. The sides of a pair have such histories, whatever the order of the step calls. -/
theorem determined_by_taken_values (program : Program) :
    (∀ (c other : Instance), c.id = other.id → ∀ first second : List Event,
      let h := Chronicle.of program (c.reset.checkBounds program) first
      let k := Chronicle.of program (other.reset.checkBounds program) second
      h.completed = k.completed → h.taken = k.taken →
        h.now.registers = k.now.registers ∧ h.now.pc = k.now.pc ∧ h.now.sent = k.now.sent ∧
          h.now.received = k.now.received ∧ h.now.terminated = k.now.terminated ∧
            h.sent = k.sent) ∧
    (∀ (p : Pair) (s : Side) (schedule : List Side), ∃ events,
      let h := Chronicle.of program (p.get s) events
      h.now = (p.attempts program schedule).get s ∧ h.sent = p.sentBy program s schedule ∧
        h.taken = p.takenBy program s schedule) := by
  refine ⟨?_, fun p s schedule => p.exists_history program s schedule⟩
  intro c other sameId first second h k sameCount sameTaken
  have coherent := isCoherent_reset program c
  have awake : (c.reset.checkBounds program).blocked = false := by simp
  have empty : (c.reset.checkBounds program).inbox.queued = [] := by simp
  have firstAgrees : Chronicle.Agrees program h.taken h
      (Chronicle.prepared program (c.reset.checkBounds program) h.taken h.completed) :=
    Chronicle.agrees_prepared coherent awake empty coherent rfl first (List.prefix_refl _)
  have secondAgrees : Chronicle.Agrees program h.taken k
      (Chronicle.prepared program (c.reset.checkBounds program) h.taken h.completed) := by
    rw [sameCount]
    apply Chronicle.agrees_prepared coherent awake empty (isCoherent_reset program other)
      (core_reset_eq program sameId)
    exact sameTaken ▸ List.prefix_refl k.taken
  have sameCore : h.now.core = k.now.core := firstAgrees.core_eq.symm.trans secondAgrees.core_eq
  simp only [core, Core.mk.injEq] at sameCore
  obtain ⟨registers, pc, terminated, sent, received⟩ := sameCore
  exact ⟨registers, pc, sent, received, terminated,
    firstAgrees.sent_eq.symm.trans secondAgrees.sent_eq⟩

/-- In the first history the value is there in time. In the second the instance waits for it, is
called in vain meanwhile, and gets another value that it does not read. -/
theorem determined_by_taken_values_handshake :
    let h := Chronicle.of Duo.handshake.program ((new 0).reset.checkBounds Duo.handshake.program)
      [.arrival 1, .step, .step, .step, .step]
    let k := Chronicle.of Duo.handshake.program ((new 0).reset.checkBounds Duo.handshake.program)
      [.step, .step, .step, .step, .step, .arrival 1, .step, .arrival 9]
    h.completed = 4 ∧ k.completed = 4 ∧ h.taken = [1] ∧ k.taken = [1] ∧
      h.now.ticks ≠ k.now.ticks ∧
      h.now.registers = k.now.registers ∧ h.now.pc = k.now.pc ∧ h.sent = k.sent := by
  intro h k
  have four : h.completed = 4 := by decide
  have fourAgain : k.completed = 4 := by decide
  have one : h.taken = [1] := by decide
  have oneAgain : k.taken = [1] := by decide
  obtain ⟨registers, pc, _, _, _, sent⟩ :=
    (determined_by_taken_values Duo.handshake.program).1 (new 0) (new 0) rfl _ _
      (four.trans fourAgain.symm) (one.trans oneAgain.symm)
  exact ⟨four, fourAgain, one, oneAgain, by decide, registers, pc, sent⟩

end Instance

end Tandem

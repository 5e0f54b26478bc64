import Mathlib.Data.List.Induction
import Tandem.Proofs.Schedule.Conservation

set_option autoImplicit false

/-!
Sides that stand still. A side that has stopped does not act, and its partner reaches it through its
inbox and its wait only. So a side that has terminated stays as it is for ever but for the values
that come in, and a side that waits stays as it is until its partner sends a value: then it runs,
from where it stood, and takes that value first, whatever has come after it.
-/

namespace Tandem

namespace Instance

/-- Values from the partner arrive one after the other. -/
def deliverAll (c : Instance) (values : List Int64) : Instance :=
  values.foldl (fun c value => c.deliver value) c

@[simp]
theorem deliverAll_nil (c : Instance) : c.deliverAll [] = c := rfl

@[simp]
theorem deliverAll_append (c : Instance) (first second : List Int64) :
    c.deliverAll (first ++ second) = (c.deliverAll first).deliverAll second :=
  List.foldl_append

/-- Arrivals fill the inbox and end a wait, and change nothing else. -/
theorem deliverAll_eq (c : Instance) (values : List Int64) :
    c.deliverAll values =
      { c with inbox := (c.deliverAll values).inbox, blocked := c.blocked && values.isEmpty } := by
  induction values generalizing c with
  | nil => simp
  | cons value rest inductionHypothesis =>
      have first : c.deliverAll (value :: rest) = (c.deliver value).deliverAll rest := rfl
      rw [first]
      refine (inductionHypothesis (c.deliver value)).trans ?_
      simp [deliver]

theorem inbox_deliverAll {c : Instance} (ready : c.inbox.IsReady) (values : List Int64) :
    (c.deliverAll values).inbox.IsReady ∧
      (c.deliverAll values).inbox.queued = c.inbox.queued ++ values := by
  induction values using List.reverseRecOn with
  | nil => exact ⟨ready, by simp⟩
  | append_singleton values value inductionHypothesis =>
      obtain ⟨stillReady, holds⟩ := inductionHypothesis
      rw [deliverAll_append]
      refine ⟨stillReady.send value, ?_⟩
      have arrived := stillReady.queued_send value
      rw [holds, List.append_assoc] at arrived
      exact arrived

/-- A side that waits goes on with the first value that arrives, from where it stands. -/
theorem IsCoherent.wakes {p : Program} {c : Instance} (coherent : c.IsCoherent p)
    (blocked : c.blocked = true) (value : Int64) (rest : List Int64) :
    let woken := c.deliverAll (value :: rest)
    woken.isRunning = true ∧ woken = { c with inbox := woken.inbox, blocked := false } ∧
      ∃ ins, p.fetch? c.pc = some ins ∧ ins.op = .rcv ∧ woken.stepFault? p = none ∧
        woken.takes? p = some value ∧
        (woken.advance p).1.registers = c.registers.set ins.register value ∧
        (woken.advance p).1.received = c.received + 1 ∧ (woken.advance p).1.blocked = false ∧
        (woken.advance p).1.inbox.queued = rest := by
  intro woken
  have starved := coherent.starved blocked
  have alive := coherent.not_terminated_of_starved starved
  obtain ⟨ready, holds⟩ := inbox_deliverAll coherent.ready (value :: rest)
  rw [starved.2, List.nil_append] at holds
  have shape : woken = { c with inbox := woken.inbox, blocked := false } := by
    refine (c.deliverAll_eq (value :: rest)).trans ?_
    simp [woken]
  have running : woken.isRunning = true := by
    rw [shape]
    simp [isRunning, alive]
  have samePc : woken.pc = c.pc := by rw [shape]
  have fed : woken.IsFed p := by
    refine ⟨?_, ?_⟩
    · rw [AtReceive, samePc]
      exact starved.1
    · rw [holds]
      exact List.cons_ne_nil value rest
  obtain ⟨ins, front, others, fetched, receives, contents, faultless, takes, stored, counted,
    awake, left⟩ :=
    fed.step ready running
  rw [holds] at contents
  obtain ⟨rfl, rfl⟩ := List.cons.inj contents
  have sameRegisters : woken.registers = c.registers := by rw [shape]
  have sameCount : woken.received = c.received := by rw [shape]
  rw [samePc] at fetched
  rw [sameRegisters] at stored
  rw [sameCount] at counted
  exact ⟨running, shape, ins, fetched, receives, faultless, takes, stored, counted, awake, left⟩

end Instance

namespace Pair

/-- A step call changes a side that does not act in it by what its partner sends. -/
theorem get_attempt_of_idle (program : Program) {p : Pair} {s turn : Side}
    (idle : turn = s → (p.get s).isRunning = false) :
    (p.attempt program turn).get s =
      (p.get s).deliverAll
        (if turn = s.other then ((p.get s.other).sends? program).toList else []) := by
  rcases s.eq_or_eq_other turn with equality | equality
  · subst turn
    have stopped := idle rfl
    have faultless : (p.get s).stepFault? program = none := by simp [Instance.stepFault?, stopped]
    rw [attempt_of_no_fault faultless, get_advance_self,
      Instance.advance_of_stopped program stopped]
    simp
  · subst turn
    have partner := get_attempt_other program p s.other
    rw [Side.other_other] at partner
    rw [partner, if_pos rfl]
    cases (p.get s.other).sends? program with
    | none => rfl
    | some value => rfl

/-- As long as a side has stopped whenever it is its turn, all that happens to it is that the values
from its partner arrive. -/
theorem get_attempts_of_idle (program : Program) {p : Pair} {s : Side} {schedule : List Side}
    (idle : ∀ before after, schedule = before ++ s :: after →
      ((p.get s).deliverAll (p.sentBy program s.other before)).isRunning = false) :
    (p.attempts program schedule).get s =
      (p.get s).deliverAll (p.sentBy program s.other schedule) := by
  induction schedule using List.reverseRecOn with
  | nil => rfl
  | append_singleton schedule turn inductionHypothesis =>
      have sofar : (p.attempts program schedule).get s =
          (p.get s).deliverAll (p.sentBy program s.other schedule) := by
        apply inductionHypothesis
        rintro before after rfl
        exact idle before (after ++ [turn]) (by simp)
      have stopped : turn = s → ((p.attempts program schedule).get s).isRunning = false := by
        rintro rfl
        rw [sofar]
        exact idle schedule [] rfl
      rw [attempts_concat, get_attempt_of_idle program stopped, sofar,
        ← Instance.deliverAll_append]
      simp only [sentBy, exchanged_append, exchanged_singleton]

section Standing

variable (program : Program) {p : Pair} {s : Side}

theorem get_attempts_of_terminated (terminated : (p.get s).terminated = true)
    (schedule : List Side) :
    (p.attempts program schedule).get s =
      (p.get s).deliverAll (p.sentBy program s.other schedule) := by
  apply get_attempts_of_idle program
  intro before _ _
  rw [Instance.deliverAll_eq]
  simp [Instance.isRunning, terminated]

theorem get_attempts_of_quiet (stopped : (p.get s).isRunning = false) {schedule : List Side}
    (quiet : p.sentBy program s.other schedule = []) :
    (p.attempts program schedule).get s = p.get s := by
  have idle : (p.attempts program schedule).get s =
      (p.get s).deliverAll (p.sentBy program s.other schedule) := by
    apply get_attempts_of_idle program
    rintro before after rfl
    have earlier : p.sentBy program s.other before = [] := by
      simp only [sentBy, exchanged_append, List.append_eq_nil_iff] at quiet
      exact quiet.1
    rw [earlier]
    exact stopped
  rw [idle, quiet, Instance.deliverAll_nil]

theorem get_attempts_of_absent {schedule : List Side} (absent : s ∉ schedule) :
    (p.attempts program schedule).get s =
      (p.get s).deliverAll (p.sentBy program s.other schedule) := by
  apply get_attempts_of_idle program
  rintro before after rfl
  simp at absent

end Standing

end Pair

namespace Duo

/-- After any calls since a reset, a side that has terminated keeps all it has, however the
step calls go on, and its inbox gets at its back what its partner sends. A side that waits
does not change until its partner sends a value; then it runs at the same place, and its next
step takes that value. -/
theorem stopped_sides_stand_still (d e : Duo) (after : d.AfterReset e) (s : Side) :
    let c := e.pair.get s
    (c.terminated = true → ∀ schedule : List Side,
      let later := (e.pair.attempts d.program schedule).get s
      later = { c with inbox := later.inbox } ∧ later.terminated = true ∧
        later.blocked = false ∧
        later.inbox.queued = c.inbox.queued ++ e.pair.sentBy d.program s.other schedule) ∧
    (c.blocked = true → ∀ quiet : List Side, e.pair.sentBy d.program s.other quiet = [] →
      let before := e.pair.attempts d.program quiet
      before.get s = c ∧
      ∀ value, (before.get s.other).sends? d.program = some value →
        ∀ others : List Side, s ∉ others →
          let now := before.attempts d.program (s.other :: others)
          (now.get s).isRunning = true ∧
          now.get s = { c with inbox := (now.get s).inbox, blocked := false } ∧
          ∃ ins next, d.program.fetch? c.pc = some ins ∧ ins.op = .rcv ∧
            now.step d.program s s.other = .ok next ∧
              (now.get s).takes? d.program = some value ∧
            (next.get s).registers = c.registers.set ins.register value ∧
            (next.get s).received = c.received + 1 ∧ (next.get s).blocked = false ∧
            (next.get s).inbox.queued =
              (before.attempt d.program s.other).sentBy d.program s.other others) := by
  intro c
  have coherent := after.isCoherent s
  constructor
  · intro terminated schedule later
    have arrived : later = c.deliverAll (e.pair.sentBy d.program s.other schedule) :=
      Pair.get_attempts_of_terminated d.program terminated schedule
    have awake : c.blocked = false := coherent.not_blocked_of_terminated terminated
    have shape : later = { c with inbox := later.inbox } := by
      rw [arrived]
      refine (c.deliverAll_eq _).trans ?_
      simp [awake]
    refine ⟨shape, ?_, ?_, ?_⟩
    · rw [shape]
      exact terminated
    · rw [shape]
      exact awake
    · rw [arrived]
      exact (Instance.inbox_deliverAll coherent.ready _).2
  · intro blocked quiet silent before
    have stopped : c.isRunning = false := by simp [Instance.isRunning, blocked]
    have unchanged : before.get s = c := Pair.get_attempts_of_quiet d.program stopped silent
    refine ⟨unchanged, ?_⟩
    intro value sends others absent now
    have arrived : now.get s =
        c.deliverAll
          (value :: (before.attempt d.program s.other).sentBy d.program s.other others) := by
      rw [← unchanged]
      have idle : s ∉ s.other :: others := by simp [absent]
      refine (Pair.get_attempts_of_absent d.program idle).trans ?_
      simp [Pair.sentBy, Pair.exchanged, sends]
    obtain ⟨running, shape, ins, fetched, receives, faultless, takes, stored, counted,
      awake, left⟩ :=
      coherent.wakes blocked value
        ((before.attempt d.program s.other).sentBy d.program s.other others)
    rw [← arrived] at running shape faultless takes stored counted awake left
    refine ⟨running, shape, ins, now.advance d.program s s.other, fetched, receives, ?_,
      takes, ?_⟩
    · simp only [Pair.step, faultless]
    · rw [Pair.get_advance_self]
      exact ⟨stored, counted, awake, left⟩

/-- Side one goes to the last instruction, where it sends 5 to side zero, which waits for it. Side
zero sends two values in return, which nobody takes. -/
def reply : Duo :=
  { Duo.new with
    program := .ofInstructions
      [.jgz (.ofRegister .pid) (.ofLiteral 3), .rcv ⟨97⟩, .snd (.ofRegister ⟨97⟩),
        .snd (.ofLiteral 5)] }

theorem stopped_sides_stand_still_reply :
    (∃ e, reply.AfterReset e ∧ (e.pair.get .zero).blocked = true ∧
      (e.pair.attempts reply.program [.zero]).get .zero = e.pair.get .zero ∧
      ((e.pair.attempts reply.program [.zero]).get .one).sends? reply.program = some 5 ∧
      ∃ ins next, reply.program.fetch? (e.pair.get .zero).pc = some ins ∧
        (e.pair.attempts reply.program [.zero, .one, .one]).step reply.program .zero .one =
          .ok next ∧
        (next.get .zero).registers = (e.pair.get .zero).registers.set ins.register 5) ∧
    ∃ e, reply.AfterReset e ∧ (e.pair.get .one).terminated = true ∧
      ((e.pair.attempts reply.program [.zero, .one, .zero, .zero]).get .one).terminated = true ∧
      ((e.pair.attempts reply.program [.zero, .one, .zero, .zero]).get .one).inbox.queued =
        [5, 5] := by
  have waiting := ((AfterReset.reset (d := reply)).step .zero).step .zero |>.step .one
  have ended := waiting.step .one
  constructor
  · refine ⟨_, waiting, rfl, ?_⟩
    obtain ⟨unchanged, woken⟩ :=
      (stopped_sides_stand_still reply _ waiting .zero).2 rfl [.zero] (by decide)
    obtain ⟨_, _, ins, next, fetched, _, stepped, _, stored, _⟩ :=
      woken 5 rfl [.one] (by decide)
    exact ⟨unchanged, rfl, ins, next, fetched, stepped, stored⟩
  · refine ⟨_, ended, rfl, ?_⟩
    obtain ⟨_, terminated, _, queued⟩ :=
      (stopped_sides_stand_still reply _ ended .one).1 rfl [.zero, .one, .zero, .zero]
    exact ⟨terminated, queued⟩

end Duo

end Tandem

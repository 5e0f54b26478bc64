import Tandem.Proofs.Schedule.Conservation

set_option autoImplicit false

/-!
Halting. The scheduler looks at two flags of each side only. That these flags tell a termination, a
deadlock or a stall rests on the coherence of both sides, and that nothing is left to read for a
side that waits rests on the conservation of values. A duo that has halted stays as it is, however
often it is called again.
-/

namespace Tandem

namespace Instance

/-- The program counter addresses no instruction. -/
def IsOutside (p : Program) (c : Instance) : Prop := ¬ (0 ≤ c.pc.toInt ∧ c.pc.toInt < p.size)

namespace IsCoherent

variable {p : Program} {c : Instance}

theorem isOutside_iff (coherent : c.IsCoherent p) : c.IsOutside p ↔ c.terminated = true := by
  rw [coherent.terminated_iff, IsOutside, ← Program.contains_iff, Bool.not_eq_true]

theorem isStarved_iff_of_stopped (coherent : c.IsCoherent p) (stopped : c.isRunning = false) :
    c.IsStarved p ↔ c.terminated = false := by
  constructor
  · exact coherent.not_terminated_of_starved
  · intro alive
    rcases terminated_or_blocked_of_stopped stopped with terminated | blocked
    · rw [alive] at terminated
      contradiction
    · exact coherent.starved blocked

end IsCoherent

end Instance

namespace Duo

/-- The halt reasons of a duo that has stopped, by the flags of its sides. -/
theorem halt_of_stopped {d : Duo} (stopped : d.isRunning = false) :
    d.halt ≠ .running ∧
      (d.halt = .terminated ↔ ∀ s, (d.pair.get s).terminated = true) ∧
      (d.halt = .deadlock ↔ ∀ s, (d.pair.get s).terminated = false) ∧
      (d.halt = .stalled ↔
        ∃ s, (d.pair.get s).terminated = true ∧ (d.pair.get s.other).terminated = false) := by
  simp only [halt, stopped, Bool.false_eq_true, if_false, Side.forall_iff,
    Side.exists_iff, Side.other, Pair.get]
  cases d.pair.zero.terminated <;> cases d.pair.one.terminated <;> decide

theorem halt_of_running {d : Duo} (running : d.isRunning = true) : d.halt = .running := by
  simp [halt, running]

/-- Further calls find a halted duo halted, and leave it as it is. -/
theorem Calls.of_stopped {d e : Duo} {schedule : List Side} (stopped : d.isRunning = false)
    (calls : d.Calls schedule e) : e = { d with stepLimit := e.stepLimit } := by
  induction calls with
  | start => rfl
  | @tick _ before after _ moves _ returned inductionHypothesis =>
      have stillStopped : before.isRunning = false := by
        rw [inductionHypothesis]
        exact stopped
      rw [tick_of_stopped moves stillStopped] at returned
      cases returned
      exact inductionHypothesis
  | @run _ before after _ moves _ returned inductionHypothesis =>
      have stillStopped : before.isRunning = false := by
        rw [inductionHypothesis]
        exact stopped
      cases moves with
      | zero => simp [Duo.run, Play.finish] at returned
      | succ moves =>
          rw [run_of_stopped moves stillStopped] at returned
          cases returned
          exact inductionHypothesis
  | limit n _ inductionHypothesis => rw [inductionHypothesis]

theorem Calls.isCoherent {d e : Duo} {schedule : List Side} (calls : d.reset.Calls schedule e) :
    e.pair.IsCoherent e.program := by
  rw [calls.interleave.1, ← Pair.attempts_of_interleave calls.interleave.2]
  exact d.isCoherent_reset.attempts schedule

/-- A side that waits for a value has taken all that its partner sent. -/
theorem Calls.sent_eq_received_of_starved {d e : Duo} {schedule : List Side} {s : Side}
    (calls : d.reset.Calls schedule e) (starved : (e.pair.get s.other).IsStarved e.program) :
    d.reset.pair.sentBy d.program s schedule = d.reset.pair.takenBy d.program s.other schedule ∧
      (e.pair.get s).sent = (e.pair.get s.other).received := by
  have reached := Pair.attempts_of_interleave calls.interleave.2
  have sameValues := d.sentBy_after_reset s schedule
  rw [show d.reset.pair.attempts d.program schedule = e.pair from reached, starved.2,
    List.append_nil] at sameValues
  refine ⟨sameValues, ?_⟩
  rw [← reached]
  exact (d.sent_after_reset s schedule).trans
    (by rw [sameValues]; exact (d.received_after_reset s.other schedule).symm)

/-- A call that returns without an error tells whether the duo has halted. If so, the halt reason
says where both sides stand, a side that waits has taken all that its partner sent, and further
calls change nothing. -/
theorem halt_sound_and_stable (d e f : Duo) (schedule : List Side) (moves : Nat)
    (calls : d.reset.Calls schedule e) :
    (e.tick moves = some (f, .ok true) ∨ e.run moves = some (f, .ok ()) →
      (∀ s, (f.pair.get s).isRunning = false) ∧
      f.halt ≠ .running ∧
      (f.halt = .terminated ↔ ∀ s, (f.pair.get s).IsOutside f.program) ∧
      (f.halt = .deadlock ↔ ∀ s, (f.pair.get s).IsStarved f.program) ∧
      (f.halt = .stalled ↔ ∃ s, (f.pair.get s).IsOutside f.program ∧
        (f.pair.get s.other).IsStarved f.program) ∧
      (∀ s, (f.pair.get s.other).IsStarved f.program →
        (f.pair.get s).sent = (f.pair.get s.other).received ∧
        ∀ whole, d.reset.Calls whole f →
          d.reset.pair.sentBy d.program s whole = d.reset.pair.takenBy d.program s.other whole) ∧
      (∀ later g, f.Calls later g →
        g = { f with stepLimit := g.stepLimit } ∧
        (∀ n, g.tick n = some (g, .ok true)) ∧ ∀ n, g.run (n + 1) = some (g, .ok ()))) ∧
    (e.tick moves = some (f, .ok false) → f.halt = .running) := by
  constructor
  · intro returned
    have stopped : f.isRunning = false := by
      rcases returned with ticked | ran
      · simpa using (isRunning_of_tick ticked).symm
      · exact isRunning_of_run ran
    have reached : ∃ whole, d.reset.Calls whole f := by
      rcases returned with ticked | ran
      · exact ⟨_, calls.tick moves ticked⟩
      · exact ⟨_, calls.run moves ran⟩
    obtain ⟨whole, wholeCalls⟩ := reached
    have coherent := wholeCalls.isCoherent
    have sidesStopped := (Pair.isRunning_eq_false_iff f.pair).mp stopped
    have starvedIff := fun s => (coherent s).isStarved_iff_of_stopped (sidesStopped s)
    have outsideIff := fun s => (coherent s).isOutside_iff
    obtain ⟨notRunning, terminatedIff, deadlockIff, stalledIff⟩ := halt_of_stopped stopped
    refine ⟨sidesStopped, notRunning, ?_, ?_, ?_, ?_, ?_⟩
    · simp only [terminatedIff, outsideIff]
    · simp only [deadlockIff, starvedIff]
    · simp only [stalledIff, outsideIff, starvedIff]
    · intro s starved
      exact ⟨(wholeCalls.sent_eq_received_of_starved starved).2,
        fun _ anyCalls => (anyCalls.sent_eq_received_of_starved starved).1⟩
    · intro later g laterCalls
      have unchanged := laterCalls.of_stopped stopped
      have stillStopped : g.isRunning = false := by
        rw [unchanged]
        exact stopped
      exact ⟨unchanged, fun n => tick_of_stopped n stillStopped,
        fun n => run_of_stopped n stillStopped⟩
  · intro ticked
    apply halt_of_running
    simpa using (isRunning_of_tick ticked).symm

theorem halt_sound_and_stable_handshake :
    ∃ f, handshake.reset.run 40 = some (f, .ok ()) ∧ f.halt = .stalled ∧
      (∃ s, (f.pair.get s).IsOutside f.program ∧ (f.pair.get s.other).IsStarved f.program) ∧
      f.tick 0 = some (f, .ok true) := by
  have ran : ∃ f, handshake.reset.run 40 = some (f, .ok ()) ∧ f.halt = .stalled :=
    ⟨_, rfl, rfl⟩
  obtain ⟨f, returned, stalled⟩ := ran
  rcases (halt_sound_and_stable handshake _ f [] 40 .start).1 (.inr returned) with
    ⟨_, _, _, _, stalledIff, _, stable⟩
  exact ⟨f, returned, stalled, stalledIff.mp stalled, (stable [] f .start).2.1 0⟩

end Duo

end Tandem

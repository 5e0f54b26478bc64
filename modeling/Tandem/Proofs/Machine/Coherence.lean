import Tandem.Proofs.Machine.Step

set_option autoImplicit false

/-!
Coherent instances: the flags of an instance say where it stands. It is terminated exactly when its
program counter is outside the program, and it is blocked only at a `rcv` with nothing queued. A
reset makes an instance coherent; its own steps and the values that its partner sends keep it so.
-/

namespace Tandem

namespace Instance

theorem isRunning_iff (c : Instance) :
    c.isRunning = true ↔ c.terminated = false ∧ c.blocked = false := by
  simp [isRunning]

theorem terminated_or_blocked_of_stopped {c : Instance} (stopped : c.isRunning = false) :
    c.terminated = true ∨ c.blocked = true := by
  cases terminated : c.terminated with
  | true => exact .inl rfl
  | false => exact .inr (by simpa [isRunning, terminated] using stopped)

structure IsCoherent (p : Program) (c : Instance) : Prop where
  ready : c.inbox.IsReady
  terminated_iff : c.terminated = true ↔ p.contains c.pc = false
  starved : c.blocked = true → c.IsStarved p

namespace IsCoherent

variable {p : Program} {c : Instance}

theorem contains_of_running (coherent : c.IsCoherent p) (running : c.isRunning = true) :
    p.contains c.pc = true := by
  have alive := (c.isRunning_iff.mp running).1
  cases inside : p.contains c.pc with
  | true => rfl
  | false =>
      rw [coherent.terminated_iff.mpr inside] at alive
      contradiction

theorem exists_fetch?_of_running (coherent : c.IsCoherent p) (running : c.isRunning = true) :
    ∃ ins, p.fetch? c.pc = some ins := by
  apply Option.isSome_iff_exists.mp
  simpa using coherent.contains_of_running running

theorem not_terminated_of_starved (coherent : c.IsCoherent p) (starved : c.IsStarved p) :
    c.terminated = false := by
  obtain ⟨⟨ins, fetched, _⟩, _⟩ := starved
  have inside := Program.contains_of_fetch? fetched
  cases terminated : c.terminated with
  | false => rfl
  | true =>
      rw [coherent.terminated_iff.mp terminated] at inside
      contradiction

theorem not_blocked_of_terminated (coherent : c.IsCoherent p) (terminated : c.terminated = true) :
    c.blocked = false := by
  cases blocked : c.blocked with
  | false => rfl
  | true =>
      rw [coherent.not_terminated_of_starved (coherent.starved blocked)] at terminated
      contradiction

theorem deliver (coherent : c.IsCoherent p) (value : Int64) : (c.deliver value).IsCoherent p where
  ready := coherent.ready.send value
  terminated_iff := coherent.terminated_iff
  starved blocked := absurd blocked Bool.false_ne_true

/-- Only a `rcv` that finds nothing leaves the instance blocked. -/
theorem blocked_advance_iff (coherent : c.IsCoherent p) (running : c.isRunning = true) :
    (c.advance p).1.blocked = true ↔ c.IsStarved p := by
  obtain ⟨ins, fetched⟩ := coherent.exists_fetch?_of_running running
  have awake := (c.isRunning_iff.mp running).2
  have inside := Program.contains_of_fetch? fetched
  rw [advance_of_fetch? running fetched]
  by_cases receives : ins.op = .rcv
  · cases holds : c.inbox.queued with
    | nil =>
        have nothing := Channel.receive?_of_queued_eq_nil holds
        have starved : c.IsStarved p := ⟨⟨ins, fetched, receives⟩, holds⟩
        simp [perform_of_nothing_received receives nothing, proceed, inside, starved]
    | cons value rest =>
        obtain ⟨next, received, _, _⟩ := coherent.ready.receive?_of_queued_eq_cons holds
        simp [perform_of_received receives received, IsStarved, holds]
  · have fed : ¬ c.IsStarved p := by
      rintro ⟨⟨other, otherFetched, otherReceives⟩, _⟩
      rw [fetched] at otherFetched
      cases otherFetched
      exact receives otherReceives
    simp [(perform_of_op_ne_rcv c receives).2.1, awake, fed]

theorem advance (coherent : c.IsCoherent p) : (c.advance p).1.IsCoherent p := by
  cases running : c.isRunning with
  | false =>
      simpa [running] using coherent
  | true =>
      obtain ⟨ins, fetched⟩ := coherent.exists_fetch?_of_running running
      have alive := (c.isRunning_iff.mp running).1
      refine ⟨(inbox_advance p coherent.ready).1, ?_, ?_⟩
      · rw [advance_of_fetch? running fetched]
        simp [alive]
      · -- a `rcv` that finds nothing has not moved, and there is still nothing
        intro blocked
        have starved := (coherent.blocked_advance_iff running).mp blocked
        obtain ⟨sameCore, _, noneTaken, _⟩ := advance_of_starved starved
        have samePc : (c.advance p).1.pc = c.pc := congrArg Core.pc sameCore
        have kept := (inbox_advance p coherent.ready).2
        rw [noneTaken, starved.2] at kept
        refine ⟨?_, kept.symm⟩
        rw [AtReceive, samePc]
        exact starved.1

end IsCoherent

theorem isCoherent_reset (p : Program) (c : Instance) : (c.reset.checkBounds p).IsCoherent p where
  ready := by simpa using c.inbox.isReady_rewind
  terminated_iff := by simp
  starved blocked := by simp at blocked

end Instance

end Tandem

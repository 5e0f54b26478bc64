import Tandem.Proofs.Schedule.Interleaving
import Tandem.Schedule.Duo

set_option autoImplicit false

/-!
Both sides of a duo are coherent after a reset, and stay so in every interleaving. Since a side is
blocked by its own `rcv` and woken by the partner's `snd`, no wake-up is lost: a side that has a
value to read is never blocked.
-/

namespace Tandem

def Pair.IsCoherent (program : Program) (p : Pair) : Prop := ∀ s, (p.get s).IsCoherent program

theorem Pair.IsCoherent.attempt {program : Program} {p : Pair} (coherent : p.IsCoherent program)
    (s : Side) : (p.attempt program s).IsCoherent program :=
  forall_get_attempt (fun _ holds => holds.advance) (fun _ value holds => holds.deliver value)
    coherent s

theorem Pair.IsCoherent.attempts {program : Program} {p : Pair} (coherent : p.IsCoherent program)
    (schedule : List Side) : (p.attempts program schedule).IsCoherent program := by
  induction schedule generalizing p with
  | nil => exact coherent
  | cons s rest inductionHypothesis => exact inductionHypothesis (coherent.attempt s)

namespace Duo

@[simp]
theorem get_reset (d : Duo) (s : Side) :
    d.reset.pair.get s = (d.pair.get s).reset.checkBounds d.program := by
  cases s <;> rfl

theorem isCoherent_reset (d : Duo) : d.reset.pair.IsCoherent d.program := by
  intro s
  simpa using Instance.isCoherent_reset d.program (d.pair.get s)

/-- In every state that step calls can lead to, the flags of a side agree with its program
counter and its inbox. -/
theorem flags_agree_after_step_calls (d : Duo) (schedule : List Side) (s : Side) :
    let c := (d.reset.pair.attempts d.program schedule).get s
    ¬ (c.terminated = true ∧ c.blocked = true) ∧
      (c.terminated = true ↔ ¬ (0 ≤ c.pc.toInt ∧ c.pc.toInt < d.program.size)) ∧
      (c.blocked = true →
        (∃ ins, d.program.fetch? c.pc = some ins ∧ ins.op = .rcv) ∧ c.inbox.length = 0) ∧
      (c.isRunning = true → ∃ ins, d.program.fetch? c.pc = some ins) ∧
      (0 < c.inbox.length → c.blocked = false) := by
  intro c
  have coherent : c.IsCoherent d.program := d.isCoherent_reset.attempts schedule s
  have empty : c.blocked = true → c.inbox.length = 0 := by
    intro blocked
    rw [← Channel.length_queued, (coherent.starved blocked).2]
    rfl
  refine ⟨?_, ?_, ?_, coherent.exists_fetch?_of_running, ?_⟩
  · rintro ⟨terminated, blocked⟩
    rw [coherent.not_terminated_of_starved (coherent.starved blocked)] at terminated
    contradiction
  · rw [coherent.terminated_iff, ← Program.contains_iff, Bool.not_eq_true]
  · intro blocked
    exact ⟨(coherent.starved blocked).1, empty blocked⟩
  · intro queued
    cases blocked : c.blocked with
    | false => rfl
    | true =>
        rw [empty blocked] at queued
        contradiction

end Duo

end Tandem

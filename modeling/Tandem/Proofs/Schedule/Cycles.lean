import Tandem.Proofs.Schedule.Conservation
import Tandem.Proofs.Schedule.Cutoff

set_option autoImplicit false

/-!
Cycles make progress. When a cycle is over, side one has stopped. Side zero had stopped before it,
and it can only run again because side one has sent it a value for the `rcv` at which it stands. So
the next cycle, if there is one, begins with a step in which side zero takes a value, and there are
at most as many later cycles as values that side zero has taken.

`IsPaced` says this for every moment of a play, by the side whose turn it is.
-/

namespace Tandem

namespace Instance

/-- The instance runs only if a value has come for the `rcv` at which it stands. -/
def RunsFed (p : Program) (c : Instance) : Prop := c.isRunning = true → c.IsFed p

theorem IsCoherent.runsFed_deliver {p : Program} {c : Instance} (coherent : c.IsCoherent p)
    (waits : c.RunsFed p) (value : Int64) : (c.deliver value).RunsFed p := by
  intro running
  have alive : c.terminated = false := ((c.deliver value).isRunning_iff.mp running).1
  have atReceive : c.AtReceive p := by
    by_cases wasRunning : c.isRunning = true
    · exact (waits wasRunning).1
    · rcases terminated_or_blocked_of_stopped (Bool.eq_false_iff.mpr wasRunning) with
        terminated | blocked
      · rw [alive] at terminated
        contradiction
      · exact (coherent.starved blocked).1
  refine ⟨atReceive, ?_⟩
  have arrived : (c.deliver value).inbox.queued = c.inbox.queued ++ [value] :=
    coherent.ready.queued_send value
  rw [arrived]
  simp

end Instance

namespace Play

/-- How many cycles there can have been by the number of values that side zero has taken, and
how the sides stand. On the turn of side zero a cycle may have begun for which it has not
taken its value yet. -/
def Phase (taken : Nat) (p : Play) : Prop :=
  match p.turn with
  | none =>
      p.duo.cycles ≤ taken + 1 ∧
        (p.duo.isRunning = true → (p.duo.pair.get .zero).isRunning = true) ∧
        (0 < p.duo.cycles → (p.duo.pair.get .one).isRunning = false ∧
          (p.duo.pair.get .zero).RunsFed p.duo.program)
  | some .zero =>
      p.duo.cycles ≤ taken + 1 ∨
        p.duo.cycles ≤ taken + 2 ∧ (p.duo.pair.get .zero).isRunning = true ∧
          (p.duo.pair.get .zero).IsFed p.duo.program
  | some .one => p.duo.cycles ≤ taken + 1 ∧ (p.duo.pair.get .zero).RunsFed p.duo.program

/-- The play has come from a reset duo by the given steps, and its cycles are in step with the
values that side zero has taken. -/
structure IsPaced (d : Duo) (schedule : List Side) (p : Play) : Prop where
  program_eq : p.duo.program = d.program
  played : d.reset.pair.interleave d.program schedule = .ok p.duo.pair
  phase : p.Phase (d.reset.pair.takenBy d.program .zero schedule).length

theorem IsPaced.reached {d : Duo} {schedule : List Side} {p : Play} (paced : p.IsPaced d schedule) :
    d.reset.pair.attempts d.program schedule = p.duo.pair :=
  Pair.attempts_of_interleave paced.played

theorem IsPaced.coherent {d : Duo} {schedule : List Side} {p : Play}
    (paced : p.IsPaced d schedule) :
    p.duo.pair.IsCoherent p.duo.program := by
  rw [paced.program_eq, ← paced.reached]
  exact d.isCoherent_reset.attempts schedule

theorem IsPaced.takenBy_append {d : Duo} {schedule : List Side} {p : Play}
    (paced : p.IsPaced d schedule) (turn : Side) :
    d.reset.pair.takenBy d.program .zero (schedule ++ [turn]) =
      d.reset.pair.takenBy d.program .zero schedule ++
        (if turn = .zero then ((p.duo.pair.get .zero).takes? p.duo.program).toList else []) := by
  rw [paced.program_eq, ← paced.reached]
  simp only [Pair.takenBy, Pair.exchanged_append, Pair.exchanged_singleton]

/-! ### One move -/

theorem isRunning_of_verdict? {duo : Duo} (goesOn : (⟨duo, none⟩ : Play).verdict? = none) :
    duo.isRunning = true := by
  by_cases running : duo.isRunning = true
  · exact running
  · simp [verdict?, running] at goesOn

theorem phase_between_cycles {taken : Nat} {duo : Duo} (phase : Phase taken ⟨duo, none⟩)
    (running : duo.isRunning = true) : Phase taken (advance ⟨duo, none⟩) := by
  obtain ⟨bound, zeroRuns, later⟩ := phase
  by_cases first : duo.cycles = 0
  · apply Or.inl
    simp only [advance, first]
    omega
  · have afterFirst := later (Nat.pos_of_ne_zero first)
    apply Or.inr
    refine ⟨Nat.succ_le_succ bound, zeroRuns running, ?_⟩
    exact afterFirst.2 (zeroRuns running)

theorem phase_step_zero {taken : Nat} {duo : Duo} (coherent : duo.pair.IsCoherent duo.program)
    (phase : Phase taken ⟨duo, some .zero⟩) :
    Phase (taken + ((duo.pair.get .zero).takes? duo.program).toList.length)
      ⟨duo.advance .zero, some .zero⟩ := by
  apply Or.inl
  rcases phase with bound | ⟨bound, running, fed⟩
  · exact Nat.le_trans bound (by omega)
  · -- the cycle that has begun is paid for by this step
    obtain ⟨_, value, _, _, _, _, _, takes, _⟩ := fed.step (coherent .zero).ready running
    rw [takes]
    exact bound

theorem phase_step_one {taken : Nat} {duo : Duo} (coherent : duo.pair.IsCoherent duo.program)
    (phase : Phase taken ⟨duo, some .one⟩) : Phase taken ⟨duo.advance .one, some .one⟩ := by
  obtain ⟨bound, waits⟩ := phase
  refine ⟨bound, ?_⟩
  have partner := Pair.get_advance_other duo.program duo.pair .one
  change (((duo.advance .one).pair).get .zero).RunsFed duo.program
  rw [show (duo.advance .one).pair.get .zero = _ from partner]
  cases (duo.pair.get .one).sends? duo.program with
  | none => exact waits
  | some value => exact (coherent .zero).runsFed_deliver waits value

theorem phase_change_turn {taken : Nat} {duo : Duo} {s : Side}
    (phase : Phase taken ⟨duo, some s⟩) (stopped : (duo.pair.get s).isRunning = false) :
    Phase taken (advance ⟨duo, some s⟩) := by
  simp only [advance, stopped, Bool.false_eq_true, if_false]
  cases s with
  | zero =>
      have idle : ¬ (duo.pair.get .zero).isRunning = true := Bool.eq_false_iff.mp stopped
      rcases phase with bound | ⟨_, running, _⟩
      · exact ⟨bound, fun running => absurd running idle⟩
      · exact absurd running idle
  | one =>
      obtain ⟨bound, waits⟩ := phase
      refine ⟨bound, ?_, fun _ => ⟨stopped, waits⟩⟩
      intro running
      rw [Duo.isRunning, Pair.isRunning, Bool.or_eq_true] at running
      exact running.resolve_right (Bool.eq_false_iff.mp stopped)

theorem IsPaced.move {d : Duo} {schedule : List Side} {p : Play} (paced : p.IsPaced d schedule)
    (goesOn : p.verdict? = none) :
    p.advance.IsPaced d (schedule ++ p.stepper?.toList) := by
  have continued := interleave_stepper? goesOn
  rw [paced.program_eq] at continued
  refine ⟨(program_advance p).trans paced.program_eq,
    Pair.interleave_trans paced.played continued, ?_⟩
  have coherent := paced.coherent
  have phase := paced.phase
  have taken := paced.takenBy_append
  obtain ⟨duo, turn⟩ := p
  cases turn with
  | none =>
      simp only [stepper?, Option.toList_none, List.append_nil]
      exact phase_between_cycles phase (isRunning_of_verdict? goesOn)
  | some s =>
      by_cases running : (duo.pair.get s).isRunning = true
      · simp only [stepper?, running, if_true, Option.toList_some, advance, taken,
          List.length_append]
        cases s with
        | zero => exact phase_step_zero coherent phase
        | one => exact phase_step_one coherent phase
      · have stopped := Bool.eq_false_iff.mpr running
        simp only [stepper?, running, Bool.false_eq_true, if_false, Option.toList_none,
          List.append_nil]
        exact phase_change_turn phase stopped

/-! ### All moves -/

theorem isPaced_reset (d : Duo) : IsPaced d [] ⟨d.reset, none⟩ where
  program_eq := rfl
  played := Pair.interleave_nil _ _
  phase := by
    refine ⟨Nat.zero_le _, ?_, fun begun => absurd begun (Nat.lt_irrefl 0)⟩
    intro running
    have same : ∀ s, (d.reset.pair.get s).isRunning = d.program.contains 0 := by
      intro s
      simp [Instance.isRunning]
    by_cases zeroRuns : (d.reset.pair.get .zero).isRunning = true
    · exact zeroRuns
    · have nobody : d.reset.pair.isRunning = false := by
        apply (Pair.isRunning_eq_false_iff _).mpr
        intro s
        rw [same s, ← same .zero]
        exact Bool.eq_false_iff.mpr zeroRuns
      rw [Duo.isRunning, nobody] at running
      contradiction

theorem IsPaced.leads {d : Duo} {before schedule : List Side} {p q : Play}
    (paced : p.IsPaced d before) (leads : p.Leads schedule q) :
    q.IsPaced d (before ++ schedule) := by
  induction leads with
  | start =>
      rw [List.append_nil]
      exact paced
  | move _ goesOn inductionHypothesis =>
      rw [← List.append_assoc]
      exact inductionHypothesis.move goesOn

theorem cycles_of_endOf? {moves : Nat} {p q : Play}
    (ended : endOf? hasEndedCycle moves p = some q) :
    q.duo.cycles = p.duo.cycles := by
  induction moves generalizing p with
  | zero => contradiction
  | succ moves inductionHypothesis =>
      unfold endOf? at ended
      by_cases stopped : p.hasEndedCycle = true
      · rw [if_pos stopped] at ended
        cases ended
        rfl
      · rw [if_neg stopped] at ended
        rw [inductionHypothesis ended]
        obtain ⟨duo, turn⟩ := p
        cases turn with
        | none => exact absurd rfl stopped
        | some s =>
            simp only [advance]
            split
            next => rfl
            next => rfl

end Play

namespace Duo

/-- Cycles one after the other, none of which fails, with new step limits in between as the
caller likes. The first list has the answers, whether the duo has halted, and the second one
the sides that step. -/
inductive Ticks (d : Duo) : List Bool → List Side → Duo → Prop where
  | start : Ticks d [] [] d
  | tick {answers : List Bool} {schedule : List Side} {e f : Duo} {halted : Bool} (moves : Nat) :
      Ticks d answers schedule e → e.tick moves = some (f, .ok halted) →
      Ticks d (answers ++ [halted]) (schedule ++ e.tickSteppers moves) f
  | limit {answers : List Bool} {schedule : List Side} {e : Duo} (n : Int) :
      Ticks d answers schedule e → Ticks d answers schedule { e with stepLimit := n }

/-- A cycle without an error leads from one moment between two cycles to the next. -/
theorem leads_tick {moves : Nat} {e f : Duo} {halted : Bool} (running : e.isRunning = true)
    (returned : e.tick moves = some (f, .ok halted)) :
    Play.Leads ⟨e, none⟩ (e.tickSteppers moves) ⟨f, none⟩ ∧ f.cycles = e.cycles + 1 := by
  simp only [tick, running, if_true] at returned
  obtain ⟨⟨duo, turn⟩, ended, rfl, ⟨rfl, _⟩ | ⟨error, _, failed⟩⟩ :=
    Play.finishCycle_eq_some returned
  · refine ⟨?_, Play.cycles_of_endOf? ended⟩
    simp only [tickSteppers, running, if_true]
    have begins : (⟨e, none⟩ : Play).verdict? = none := by simp [Play.verdict?, running]
    apply Play.Leads.cons begins
    apply Play.leads_of_stop _ ended
    intro q goesOn
    exact Play.verdict?_of_not_hasEndedCycle goesOn
  · contradiction

theorem Ticks.isPaced {d e : Duo} {answers : List Bool} {schedule : List Side}
    (ticks : d.reset.Ticks answers schedule e) : Play.IsPaced d schedule ⟨e, none⟩ := by
  induction ticks with
  | start => exact Play.isPaced_reset d
  | @tick _ _ before after _ moves _ returned inductionHypothesis =>
      by_cases running : before.isRunning = true
      · exact inductionHypothesis.leads (leads_tick running returned).1
      · -- a duo that has stopped stays as it is, and no cycle is counted
        have stopped := Bool.eq_false_iff.mpr running
        rw [tick_of_stopped moves stopped] at returned
        cases returned
        simp only [tickSteppers, running, Bool.false_eq_true, if_false, List.append_nil]
        exact inductionHypothesis
  | limit n _ inductionHypothesis =>
      exact ⟨inductionHypothesis.program_eq, inductionHypothesis.played,
        inductionHypothesis.phase⟩

theorem Ticks.cycles_eq {d e : Duo} {answers : List Bool} {schedule : List Side}
    (ticks : d.Ticks answers schedule e) (goesOn : ∀ halted ∈ answers, halted = false) :
    e.cycles = d.cycles + answers.length ∧ (answers ≠ [] → e.isRunning = true) := by
  induction ticks with
  | start => exact ⟨rfl, fun nonempty => absurd rfl nonempty⟩
  | @tick answers _ before after halted moves _ returned inductionHypothesis =>
      have unanswered : halted = false := goesOn halted (by simp)
      subst halted
      have running : before.isRunning = true := by
        by_cases runs : before.isRunning = true
        · exact runs
        · rw [tick_of_stopped moves (Bool.eq_false_iff.mpr runs)] at returned
          cases returned
      have counted :=
        (inductionHypothesis fun halted earlier => goesOn halted (by simp [earlier])).1
      refine ⟨?_, ?_⟩
      · rw [(leads_tick running returned).2, counted, List.length_append, Nat.add_assoc]
        rfl
      · intro _
        simpa using (isRunning_of_tick returned).symm
  | limit n _ inductionHypothesis => exact inductionHypothesis goesOn

/-- Side one has stopped, and side zero runs at a `rcv` with a value to take. Its step takes
this value and does not fail, and it is the first one of the next cycle unless the step
limit has been reached. -/
structure IsWoken (e : Duo) : Prop where
  one_stopped : (e.pair.get .one).isRunning = false
  zero_running : (e.pair.get .zero).isRunning = true
  receives : ∃ ins value rest next,
    e.program.fetch? (e.pair.get .zero).pc = some ins ∧ ins.op = .rcv ∧
      (e.pair.get .zero).inbox.queued = value :: rest ∧
      e.pair.step e.program .zero .one = .ok next ∧
      (next.get .zero).registers = (e.pair.get .zero).registers.set ins.register value ∧
      (next.get .zero).received = (e.pair.get .zero).received + 1 ∧
      (next.get .zero).blocked = false ∧ (next.get .zero).inbox.queued = rest
  steps_first : e.isAtLimit = false → ∀ moves, ∃ others,
    e.tickSteppers (moves + 1) = .zero :: others

/-- For every cycle but the first, side one has sent a value and side zero has taken one. -/
structure CyclesArePaid (d : Duo) (schedule : List Side) (e : Duo) : Prop where
  cycles_le_taken : e.cycles ≤ (d.reset.pair.takenBy d.program .zero schedule).length + 1
  cycles_le_sent : e.cycles ≤ (d.reset.pair.sentBy d.program .one schedule).length + 1
  received_eq : (e.pair.get .zero).received =
    UInt64.ofNat (d.reset.pair.takenBy d.program .zero schedule).length
  sent_eq : (e.pair.get .one).sent =
    UInt64.ofNat (d.reset.pair.sentBy d.program .one schedule).length

section BetweenCycles

variable {d e : Duo} {schedule : List Side}

theorem isWoken_of_isPaced (paced : Play.IsPaced d schedule ⟨e, none⟩) (begun : 0 < e.cycles)
    (running : e.isRunning = true) : e.IsWoken := by
  obtain ⟨_, zeroRuns, later⟩ := paced.phase
  have zeroRunning := zeroRuns running
  obtain ⟨oneStopped, waits⟩ := later begun
  obtain ⟨ins, value, rest, fetched, receives, holds, faultless, _, stored, counted,
    awake, left⟩ :=
    (waits zeroRunning).step (paced.coherent .zero).ready zeroRunning
  have own := Pair.get_advance_self e.program e.pair .zero
  refine ⟨oneStopped, zeroRunning, ?_, ?_⟩
  · refine ⟨ins, value, rest, e.pair.advance e.program .zero .one, fetched, receives,
      holds, ?_, ?_⟩
    · simp only [Pair.step, faultless]
    · rw [show (e.pair.advance e.program .zero .one).get .zero = _ from own]
      exact ⟨stored, counted, awake, left⟩
  · intro free moves
    have noError : ({ e with cycles := e.cycles + 1 } : Duo).error? .zero = none := by
      have below : ({ e with cycles := e.cycles + 1 } : Duo).isAtLimit = false := free
      simp only [error?, below, Bool.false_eq_true, if_false, faultless, Option.map_none]
    simp [tickSteppers, running, Play.steppers, Play.hasEndedCycle, Play.hasEnded, Play.verdict?,
      Play.stepper?, zeroRunning, noError]

theorem cyclesArePaid_of_isPaced (paced : Play.IsPaced d schedule ⟨e, none⟩) :
    CyclesArePaid d schedule e := by
  have bound : e.cycles ≤ (d.reset.pair.takenBy d.program .zero schedule).length + 1 :=
    paced.phase.1
  have conserved := d.sentBy_after_reset .one schedule
  have reached : d.reset.pair.attempts d.program schedule = e.pair := paced.reached
  refine ⟨bound, ?_, ?_, ?_⟩
  · -- what side zero has taken, side one has sent
    rw [conserved, List.length_append]
    exact Nat.le_trans bound (by simp only [Side.other]; omega)
  · rw [← reached]
    exact d.received_after_reset .zero schedule
  · rw [← reached]
    exact d.sent_after_reset .one schedule

end BetweenCycles

/-- After cycles that have not failed and not halted the duo, side one has stopped and side zero
goes on by taking a value that waits for it. Hence the cycles are paid for by the values that side
one has sent and side zero has taken, as they are between any two cycles of a run; and no cycle of a
run passes without a step. -/
theorem later_cycles_receive (d : Duo) :
    (∀ (answers : List Bool) (schedule : List Side) (e : Duo),
      d.reset.Ticks answers schedule e → ((∀ halted ∈ answers, halted = false) →
        e.cycles = answers.length ∧ (0 < answers.length → e.IsWoken)) ∧
      CyclesArePaid d schedule e) ∧
    (∀ (schedule : List Side) (q : Play), Play.Leads ⟨d.reset, none⟩ schedule q →
      q.turn = none → CyclesArePaid d schedule q.duo ∧
      (q.verdict? = none →
        q.advance.stepper? = some .zero ∧ (0 < q.duo.cycles → q.duo.IsWoken))) := by
  constructor
  · intro answers schedule e ticks
    have paced := ticks.isPaced
    refine ⟨?_, cyclesArePaid_of_isPaced paced⟩
    intro goesOn
    obtain ⟨counted, running⟩ := ticks.cycles_eq goesOn
    have fromZero : e.cycles = answers.length := counted.trans (Nat.zero_add _)
    refine ⟨fromZero, ?_⟩
    intro several
    apply isWoken_of_isPaced paced
    · rw [fromZero]
      exact several
    · exact running (List.ne_nil_of_length_pos several)
  · intro schedule q leads between
    have paced := (Play.isPaced_reset d).leads leads
    rw [List.nil_append] at paced
    obtain ⟨duo, turn⟩ := q
    subst between
    refine ⟨cyclesArePaid_of_isPaced paced, ?_⟩
    intro goesOn
    have running := Play.isRunning_of_verdict? goesOn
    refine ⟨?_, fun begun => isWoken_of_isPaced paced begun running⟩
    have zeroRunning : (duo.pair.get .zero).isRunning = true := paced.phase.2.1 running
    simp [Play.advance, Play.stepper?, zeroRunning]

/-- In the first cycle side one wakes side zero, and in the second side zero takes
the one value it gets. -/
theorem later_cycles_receive_handshake :
    ∃ schedule e, handshake.reset.Ticks [false] schedule e ∧ e.IsWoken ∧
      ∃ others f, handshake.reset.Ticks [false, true] others f ∧ f.cycles = 2 ∧
        CyclesArePaid handshake others f ∧ (f.pair.get .zero).received = 1 := by
  have ticked : ∃ e, handshake.reset.tick 40 = some (e, .ok false) ∧
      ∃ f, e.tick 40 = some (f, .ok true) ∧ f.cycles = 2 ∧ (f.pair.get .zero).received = 1 :=
    ⟨_, rfl, _, rfl, rfl, rfl⟩
  obtain ⟨e, first, f, second, two, one⟩ := ticked
  have once := Ticks.start.tick 40 first
  have twice := once.tick 40 second
  have progress := handshake.later_cycles_receive.1
  exact ⟨_, e, once, ((progress _ _ e once).1 (by simp)).2 Nat.zero_lt_one, _, f, twice, two,
    (progress _ _ f twice).2, one⟩

end Duo

end Tandem

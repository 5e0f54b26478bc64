import Tandem.Proofs.Schedule.Calls

set_option autoImplicit false

/-!
No value is lost, duplicated or reordered on its way: what a side has sent is what its partner has
taken, followed by what is still queued there. The counters of sent and received values follow, up
to their wrapping at 64 bits.
-/

namespace Tandem

theorem Instance.silent_of_fault {p : Program} {c : Instance} {fault : Fault}
    (failing : c.stepFault? p = some fault) : c.sends? p = none ∧ c.takes? p = none := by
  simp only [stepFault?] at failing
  split at failing
  next running =>
    obtain ⟨ins, fetched, faulty⟩ := Option.bind_eq_some_iff.mp failing
    rw [sends?_of_fetch? running fetched, takes?_of_fetch? running fetched]
    cases operation : ins.op with
    | snd => simp [fault?, operation] at faulty
    | rcv => simp [fault?, operation] at faulty
    | _ => exact ⟨rfl, rfl⟩
  next => contradiction

namespace Pair

/-- A step call hands its partner the value that it sends, if any, and does nothing else to it. -/
theorem get_attempt_other (program : Program) (p : Pair) (s : Side) :
    (p.attempt program s).get s.other =
      match (p.get s).sends? program with
      | none => p.get s.other
      | some value => (p.get s.other).deliver value := by
  cases failing : (p.get s).stepFault? program with
  | some fault => rw [attempt_of_fault failing, (Instance.silent_of_fault failing).1]
  | none =>
      rw [attempt_of_no_fault failing]
      exact get_advance_other program p s

/-- One step call moves at most one value: to the back of the partner's inbox, or out of the
front of the own one. -/
theorem queued_attempt (program : Program) {p : Pair} {s : Side}
    (ready : (p.get s.other).inbox.IsReady) (turn : Side) :
    (p.get s.other).inbox.queued ++ (if turn = s then ((p.get s).sends? program).toList else []) =
      (if turn = s.other then ((p.get s.other).takes? program).toList else []) ++
        ((p.attempt program turn).get s.other).inbox.queued := by
  rcases s.eq_or_eq_other turn with equality | equality
  · subst turn
    simp only [if_true, Side.ne_other, if_false, List.nil_append]
    rw [get_attempt_other]
    cases (p.get s).sends? program with
    | none => simp
    | some value => exact (ready.queued_send value).symm
  · subst turn
    simp only [if_true, Side.other_ne, if_false, List.append_nil]
    rw [get_attempt_self]
    cases failing : (p.get s.other).stepFault? program with
    | some fault => simp [(Instance.silent_of_fault failing).2]
    | none => exact (Instance.inbox_advance program ready).2

/-- What was queued for the partner at first, and then all that a side sends, is what the partner
takes and then what is queued for it in the end. -/
theorem IsCoherent.queued_append_sentBy {program : Program} {p : Pair}
    (coherent : p.IsCoherent program) (s : Side) (schedule : List Side) :
    (p.get s.other).inbox.queued ++ p.sentBy program s schedule =
      p.takenBy program s.other schedule ++
        ((p.attempts program schedule).get s.other).inbox.queued := by
  induction schedule generalizing p with
  | nil => simp [sentBy, takenBy, exchanged]
  | cons turn rest inductionHypothesis =>
      have step := queued_attempt program (coherent s.other).ready turn
      have later := inductionHypothesis (coherent.attempt turn)
      simp only [sentBy, takenBy] at later
      simp only [sentBy, takenBy, exchanged]
      rw [← List.append_assoc, step, List.append_assoc, later, List.append_assoc]
      rfl

section Counters

variable {program : Program} {counter : Instance → UInt64} {event : Instance → Option Int64}

/-- A counter that each step raises by the number of values it exchanges counts
them in a step call. -/
theorem counter_attempt
    (counts : ∀ c, counter (c.advance program).1 =
      counter c + UInt64.ofNat (event c).toList.length)
    (kept : ∀ c value, counter (c.deliver value) = counter c)
    (silent : ∀ c fault, c.stepFault? program = some fault → event c = none)
    (p : Pair) (s turn : Side) :
    counter ((p.attempt program turn).get s) =
      counter (p.get s) +
        UInt64.ofNat (if turn = s then (event (p.get s)).toList else []).length := by
  rcases turn.eq_or_eq_other s with equality | equality
  · subst s
    rw [get_attempt_self, if_pos rfl]
    cases failing : (p.get turn).stepFault? program with
    | some fault => simp [silent _ fault failing]
    | none => exact counts _
  · subst s
    rw [get_attempt_other, if_neg (Side.ne_other turn)]
    cases (p.get turn).sends? program with
    | none => simp
    | some value => simp [kept]

theorem counter_attempts
    (counts : ∀ c, counter (c.advance program).1 =
      counter c + UInt64.ofNat (event c).toList.length)
    (kept : ∀ c value, counter (c.deliver value) = counter c)
    (silent : ∀ c fault, c.stepFault? program = some fault → event c = none)
    (p : Pair) (s : Side) (schedule : List Side) :
    counter ((p.attempts program schedule).get s) =
      counter (p.get s) + UInt64.ofNat (exchanged program event s p schedule).length := by
  induction schedule generalizing p with
  | nil => simp [exchanged]
  | cons turn rest inductionHypothesis =>
      calc counter ((p.attempts program (turn :: rest)).get s)
          = counter ((p.attempt program turn).get s) +
              UInt64.ofNat (exchanged program event s (p.attempt program turn) rest).length :=
            inductionHypothesis _
        _ = counter (p.get s) +
              UInt64.ofNat (exchanged program event s p (turn :: rest)).length := by
            rw [counter_attempt counts kept silent, exchanged, List.length_append, UInt64.ofNat_add,
              UInt64.add_assoc]

end Counters

@[simp]
theorem sent_attempts (program : Program) (p : Pair) (s : Side) (schedule : List Side) :
    ((p.attempts program schedule).get s).sent =
      (p.get s).sent + UInt64.ofNat (p.sentBy program s schedule).length :=
  counter_attempts (Instance.sent_advance program) (fun _ _ => rfl)
    (fun _ _ failing => (Instance.silent_of_fault failing).1) p s schedule

@[simp]
theorem received_attempts (program : Program) (p : Pair) (s : Side) (schedule : List Side) :
    ((p.attempts program schedule).get s).received =
      (p.get s).received + UInt64.ofNat (p.takenBy program s schedule).length :=
  counter_attempts (Instance.received_advance program) (fun _ _ => rfl)
    (fun _ _ failing => (Instance.silent_of_fault failing).2) p s schedule

end Pair

namespace Duo

theorem sentBy_after_reset (d : Duo) (s : Side) (schedule : List Side) :
    d.reset.pair.sentBy d.program s schedule =
      d.reset.pair.takenBy d.program s.other schedule ++
        ((d.reset.pair.attempts d.program schedule).get s.other).inbox.queued := by
  have start : (d.reset.pair.get s.other).inbox.queued = [] := by simp
  have law := d.isCoherent_reset.queued_append_sentBy s schedule
  rwa [start, List.nil_append] at law

theorem sent_after_reset (d : Duo) (s : Side) (schedule : List Side) :
    ((d.reset.pair.attempts d.program schedule).get s).sent =
      UInt64.ofNat (d.reset.pair.sentBy d.program s schedule).length := by
  simp

theorem received_after_reset (d : Duo) (s : Side) (schedule : List Side) :
    ((d.reset.pair.attempts d.program schedule).get s).received =
      UInt64.ofNat (d.reset.pair.takenBy d.program s schedule).length := by
  simp

theorem sent_eq_received_add (d : Duo) (s : Side) (schedule : List Side) :
    let final := d.reset.pair.attempts d.program schedule
    (final.get s).sent =
      (final.get s.other).received + UInt64.ofNat (final.get s.other).inbox.length := by
  intro final
  rw [sent_after_reset, sentBy_after_reset, List.length_append, UInt64.ofNat_add,
    ← received_after_reset, Channel.length_queued]

/-- Whatever the order of the step calls, and whatever calls of the scheduler made them, the values
that a side has sent are those that its partner has taken, and then those still queued for it. -/
theorem values_conserved (d : Duo) (s : Side) :
    (∀ schedule : List Side,
      let final := d.reset.pair.attempts d.program schedule
      d.reset.pair.sentBy d.program s schedule =
          d.reset.pair.takenBy d.program s.other schedule ++ (final.get s.other).inbox.queued ∧
        (final.get s).sent =
          (final.get s.other).received + UInt64.ofNat (final.get s.other).inbox.length) ∧
    (∀ (schedule : List Side) (e : Duo), d.reset.Calls schedule e →
      d.reset.pair.sentBy d.program s schedule =
          d.reset.pair.takenBy d.program s.other schedule ++ (e.pair.get s.other).inbox.queued ∧
        (e.pair.get s).sent =
          (e.pair.get s.other).received + UInt64.ofNat (e.pair.get s.other).inbox.length) := by
  constructor
  · intro schedule final
    exact ⟨d.sentBy_after_reset s schedule, d.sent_eq_received_add s schedule⟩
  · intro schedule e calls
    have reached : d.reset.pair.attempts d.program schedule = e.pair :=
      Pair.attempts_of_interleave calls.interleave.2
    rw [← reached]
    exact ⟨d.sentBy_after_reset s schedule, d.sent_eq_received_add s schedule⟩

/-- Cut off at its fourth step, side zero has sent two values that side one has not taken yet. -/
theorem values_conserved_handshake :
    ∃ schedule e, handshake.reset.Calls schedule e ∧
      handshake.reset.pair.sentBy handshake.program .zero schedule = [0, 7] ∧
      handshake.reset.pair.sentBy handshake.program .zero schedule =
        handshake.reset.pair.takenBy handshake.program .one schedule ++
          (e.pair.get .one).inbox.queued := by
  have cutOff : ∃ e error, ({ handshake.reset with stepLimit := 4 } : Duo).run 40 =
      some (e, .error error) := ⟨_, _, rfl⟩
  obtain ⟨e, error, returned⟩ := cutOff
  have calls := (Calls.start.limit 4).run 40 returned
  exact ⟨_, e, calls, by decide, ((handshake.values_conserved .zero).2 _ e calls).1⟩

end Duo

end Tandem

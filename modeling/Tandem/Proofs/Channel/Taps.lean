import Mathlib.Data.List.Forall2
import Tandem.Proofs.Channel.Fifo
import Tandem.Proofs.Channel.Writing

set_option autoImplicit false

/-!
Taps around a channel. They only listen: `untapped` takes them off, and commutes with all that a
channel can do. What a tap holds depends on the values that have been sent and on nothing else. It
has written the lines of the values up to the first that its writer failed at. Of that line it has
written what the writer took, and from there on it is left as it is.
-/

namespace Tandem

namespace Channel

/-- The channel inside some taps, the first of them innermost. -/
def withTaps (ch : Channel) (taps : List Tap) : Channel :=
  taps.foldl (fun inner tap => .tapped tap inner) ch

def untapped : Channel → Channel
  | .absent => .absent
  | .queue q => .queue q
  | .veiled inner => .veiled inner.untapped
  | .tapped _ inner => inner.untapped

@[simp]
theorem untapped_withTaps (ch : Channel) (taps : List Tap) :
    (ch.withTaps taps).untapped = ch.untapped := by
  induction taps generalizing ch with
  | nil => rfl
  | cons tap taps inductionHypothesis => exact inductionHypothesis (.tapped tap ch)

@[simp]
theorem untapped_send (value : Int64) (ch : Channel) :
    (ch.send value).untapped = ch.untapped.send value := by
  induction ch with
  | absent => rfl
  | queue q => rfl
  | veiled inner inductionHypothesis => exact congrArg veiled inductionHypothesis
  | tapped tap inner inductionHypothesis => exact inductionHypothesis

@[simp]
theorem untapped_rewind (ch : Channel) : ch.rewind.untapped = ch.untapped.rewind := by
  induction ch with
  | absent => rfl
  | queue q => rfl
  | veiled inner inductionHypothesis => exact congrArg veiled inductionHypothesis
  | tapped tap inner inductionHypothesis => exact inductionHypothesis

@[simp]
theorem receive?_untapped (ch : Channel) :
    ch.untapped.receive? = ch.receive?.map fun taken => (taken.1, taken.2.untapped) := by
  induction ch with
  | absent => rfl
  | queue q => cases taken : q.receive? <;> simp [untapped, receive?, taken]
  | veiled inner inductionHypothesis =>
      rw [untapped, receive?, inductionHypothesis, receive?, Option.map_map, Option.map_map]
      rfl
  | tapped tap inner inductionHypothesis =>
      rw [untapped, inductionHypothesis, receive?, Option.map_map]
      rfl

@[simp]
theorem values?_untapped (ch : Channel) : ch.untapped.values? = ch.values? := by
  induction ch with
  | absent => rfl
  | queue q => rfl
  | veiled inner => rfl
  | tapped tap inner inductionHypothesis => exact inductionHypothesis

@[simp]
theorem queued_untapped (ch : Channel) : ch.untapped.queued = ch.queued := by
  induction ch with
  | absent => rfl
  | queue q => rfl
  | veiled inner inductionHypothesis => exact inductionHypothesis
  | tapped tap inner inductionHypothesis => exact inductionHypothesis

@[simp]
theorem announce_untapped (value : Int64) (ch : Channel) : ch.untapped.announce value = [] := by
  induction ch with
  | absent => rfl
  | queue q => rfl
  | veiled inner inductionHypothesis => exact inductionHypothesis
  | tapped tap inner inductionHypothesis => exact inductionHypothesis

end Channel

/-! ### What a tap writes -/

namespace Tap

/-- The line for a value under a label. -/
def lineOf (label : Text) (value : Int64) : Text := label ++ 32 :: Text.decimal value.toInt ++ [10]

/-- What a new tap with the given label and writer has become when some values have been sent. -/
inductive Logs (label : Text) : Option Writer → List Int64 → Tap → Prop where
  /-- Without a writer nothing is written. -/
  | silent (sent : List Int64) : Logs label none sent ⟨label, none, none, 0⟩
  /-- The writer has taken the lines of all values. -/
  | working {w after : Writer} {sent : List Int64} :
      w.TakesAll (sent.map (lineOf label)) after →
      Logs label (some w) sent ⟨label, some after, none, sent.length⟩
  /-- The writer has taken the lines of the first values and failed at the next. -/
  | broken {w reached : Writer} {before : List Int64} {value : Int64} {taken : Nat}
      {error : WriteError} (rest : List Int64) :
      w.TakesAll (before.map (lineOf label)) reached →
      reached.result (lineOf label value) = .failed taken error →
      Logs label (some w) (before ++ value :: rest)
        ⟨label, some (reached.write (lineOf label value)).1, some error, before.length⟩

/-- What can be read off a tap and its writer when some values have been sent. -/
structure Shows (label : Text) (writer : Option Writer) (sent : List Int64) (tap : Tap) : Prop where
  labelled : tap.label = label
  /-- Without a writer no value is counted. -/
  silent : writer = none → tap.count = 0 ∧ tap.error = none
  /-- A writer without an error has worked for every value. -/
  working : writer ≠ none → tap.error = none → tap.count = sent.length
  writes : tap.writes = (new label writer).writes + tap.count + if tap.error = none then 0 else 1
  /-- After the lines of the values that were counted comes what the writer took of the next line,
  if it failed there. -/
  output : ∃ part,
    tap.output = (new label writer).output ++
      Text.concat ((sent.take tap.count).map (lineOf label)) ++ part ∧
    (tap.error = none → part = []) ∧
    (tap.error ≠ none →
      ∃ value, sent[tap.count]? = some value ∧ part <+: lineOf label value)

@[simp]
theorem writer_new (label : Text) (writer : Option Writer) :
    (new label writer).writer = writer := rfl

section Record

variable {tap : Tap} {w : Writer}

theorem record_of_error {error : WriteError} (broken : tap.error = some error) (value : Int64) :
    tap.record value = tap := by
  unfold record
  rw [broken]
  cases tap.writer <;> rfl

theorem record_of_silent (silent : tap.writer = none) (value : Int64) : tap.record value = tap := by
  rw [record, silent]

theorem record_of_whole (writing : tap.writer = some w) (working : tap.error = none)
    {value : Int64} (whole : w.result (tap.line value) = .whole) :
    tap.record value =
      { tap with writer := some (w.write (tap.line value)).1, count := tap.count + 1 } := by
  simp [record, writing, working, Writer.write, whole]

theorem record_of_failed (writing : tap.writer = some w) (working : tap.error = none)
    {value : Int64} {taken : Nat} {error : WriteError}
    (failed : w.result (tap.line value) = .failed taken error) :
    tap.record value =
      { tap with writer := some (w.write (tap.line value)).1, error := some error } := by
  simp [record, writing, working, Writer.write, failed]

end Record

theorem logs_new (label : Text) (writer : Option Writer) :
    (new label writer).Logs label writer [] := by
  cases writer with
  | none => exact .silent []
  | some w => exact .working (.nil w)

namespace Logs

variable {label : Text} {writer : Option Writer} {sent : List Int64} {tap : Tap}

/-- One value more. -/
theorem record (logs : tap.Logs label writer sent) (value : Int64) :
    (tap.record value).Logs label writer (sent ++ [value]) := by
  cases logs with
  | silent =>
      rw [record_of_silent rfl]
      exact .silent _
  | @working w after _ takes =>
      cases answered : after.result (lineOf label value) with
      | whole =>
          have longer := takes.append_singleton answered
          rw [← List.map_singleton, ← List.map_append] at longer
          have logs := Logs.working longer
          rw [List.length_append] at logs
          rw [record_of_whole rfl rfl answered]
          exact logs
      | failed taken error =>
          rw [record_of_failed rfl rfl answered]
          exact .broken [] takes answered
  | broken rest takes failed =>
      rw [record_of_error rfl, List.append_assoc, List.cons_append]
      exact .broken (rest ++ [value]) takes failed

theorem shows (logs : tap.Logs label writer sent) : tap.Shows label writer sent := by
  cases logs with
  | silent =>
      exact ⟨rfl, fun _ => ⟨rfl, rfl⟩, by simp, rfl, [], by simp [output, Text.concat]⟩
  | working takes =>
      refine ⟨rfl, by simp, fun _ _ => rfl, ?_, [], ?_, fun _ => rfl, by simp⟩
      · simpa [writes] using takes.writes
      · simpa [output] using takes.output
  | @broken w reached before value taken error rest takes failed =>
      refine ⟨rfl, by simp, by simp, ?_, (lineOf label value).take taken, ?_, by simp,
        fun _ => ?_⟩
      · simp [writes, takes.writes]
      · simp [output, takes.output, failed]
      · exact ⟨value, by simp, List.take_prefix _ _⟩

end Logs

/-- The tap after some values have been sent. -/
def recordAll (tap : Tap) (values : List Int64) : Tap := values.foldl record tap

@[simp]
theorem recordAll_append (tap : Tap) (values more : List Int64) :
    tap.recordAll (values ++ more) = (tap.recordAll values).recordAll more :=
  List.foldl_append

theorem Logs.recordAll {label : Text} {writer : Option Writer} {sent : List Int64} {tap : Tap}
    (logs : tap.Logs label writer sent) (values : List Int64) :
    (tap.recordAll values).Logs label writer (sent ++ values) := by
  induction values generalizing tap sent with
  | nil => rwa [List.append_nil]
  | cons value values inductionHypothesis =>
      have later := inductionHypothesis (logs.record value)
      rwa [List.append_assoc] at later

theorem recordAll_of_error {tap : Tap} {error : WriteError} (broken : tap.error = some error)
    (values : List Int64) : tap.recordAll values = tap := by
  induction values with
  | nil => rfl
  | cons value values inductionHypothesis =>
      rw [recordAll, List.foldl_cons, record_of_error broken]
      exact inductionHypothesis

end Tap

/-! ### Calls on a channel -/

namespace Channel

/-- What a call on a channel leaves behind, and its answer. Looking ahead is done
at the queue inside. -/
def call (ch : Channel) : Queue.Call → Channel × Queue.Answer
  | .send value => (ch.send value, .done)
  | .receive =>
      match ch.receive? with
      | some (value, rest) => (rest, .value (some value))
      | none => (ch, .value none)
  | .peek => (ch, .value ch.base.peek?)
  | .rewind => (ch.rewind, .done)
  | .length => (ch, .number ch.length)
  | .isEmpty => (ch, .truth ch.base.isEmpty)
  | .values => (ch, .listing ch.values?)

/-- What some calls leave behind. -/
def after (ch : Channel) (calls : List Queue.Call) : Channel := (Queue.converse call ch calls).1

def answers (ch : Channel) (calls : List Queue.Call) : List Queue.Answer :=
  (Queue.converse call ch calls).2

/-- The values that some calls send, in order. -/
def sentBy (calls : List Queue.Call) : List Int64 :=
  calls.filterMap fun
    | .send value => some value
    | _ => none

@[simp]
theorem sentBy_append (calls more : List Queue.Call) :
    sentBy (calls ++ more) = sentBy calls ++ sentBy more :=
  List.filterMap_append

/-- New taps with the given labels and writers. -/
def newTaps (stack : List (Text × Option Writer)) : List Tap :=
  stack.map fun given => .new given.1 given.2

theorem call_tapped (tap : Tap) (inner : Channel) (c : Queue.Call) :
    (tapped tap inner).call c =
      (tapped (tap.recordAll (sentBy [c])) (inner.call c).1, (inner.call c).2) := by
  cases c with
  | receive => cases taken : inner.receive? <;> simp [call, receive?, taken, sentBy, Tap.recordAll]
  | _ => rfl

theorem converse_tapped (tap : Tap) (inner : Channel) (calls : List Queue.Call) :
    Queue.converse call (tapped tap inner) calls =
      (tapped (tap.recordAll (sentBy calls)) (inner.after calls), inner.answers calls) := by
  induction calls generalizing tap inner with
  | nil => rfl
  | cons c calls inductionHypothesis =>
      have both : tap.recordAll (sentBy (c :: calls)) =
          (tap.recordAll (sentBy [c])).recordAll (sentBy calls) := by
        rw [← Tap.recordAll_append, ← sentBy_append]
        rfl
      simp only [Queue.converse, call_tapped, inductionHypothesis, both, after, answers]

theorem converse_withTaps (inner : Channel) (taps : List Tap) (calls : List Queue.Call) :
    Queue.converse call (inner.withTaps taps) calls =
      ((inner.after calls).withTaps (taps.map fun tap => tap.recordAll (sentBy calls)),
        inner.answers calls) := by
  induction taps generalizing inner with
  | nil => rfl
  | cons tap taps inductionHypothesis =>
      have next := inductionHypothesis (.tapped tap inner)
      rw [after, answers, converse_tapped] at next
      exact next

theorem forall₂_logs (stack : List (Text × Option Writer)) (sent : List Int64) :
    List.Forall₂ (fun given tap => tap.Logs given.1 given.2 sent) stack
      ((newTaps stack).map fun tap => tap.recordAll sent) := by
  rw [newTaps, List.map_map, List.forall₂_map_right_iff, List.forall₂_same]
  intro given _
  exact (Tap.logs_new given.1 given.2).recordAll sent

/-! ### What the queue inside holds -/

/-- A call does to the queue inside what it does to a list. -/
theorem IsReady.call {ch : Channel} (ready : ch.IsReady) (c : Queue.Call) :
    (ch.call c).1.IsReady ∧ (ch.call c).1.queued = (Queue.listCall ch.queued c).1 := by
  cases c with
  | send value => exact ⟨ready.send value, ready.queued_send value⟩
  | receive =>
      cases holds : ch.queued with
      | nil =>
          simp only [Channel.call, receive?_of_queued_eq_nil holds]
          exact ⟨ready, holds⟩
      | cons value rest =>
          obtain ⟨next, taken, nextReady, nextHolds⟩ := ready.receive?_of_queued_eq_cons holds
          simp only [Channel.call, taken]
          exact ⟨nextReady, nextHolds⟩
  | rewind => exact ⟨ch.isReady_rewind, ch.queued_rewind⟩
  | _ => exact ⟨ready, rfl⟩

theorem IsReady.queued_after {ch : Channel} (ready : ch.IsReady) (calls : List Queue.Call) :
    (ch.after calls).queued = (Queue.converse Queue.listCall ch.queued calls).1 := by
  induction calls generalizing ch with
  | nil => rfl
  | cons c calls inductionHypothesis =>
      obtain ⟨nextReady, nextHolds⟩ := ready.call c
      have later := inductionHypothesis nextReady
      rw [nextHolds] at later
      exact later

@[simp]
theorem queued_withTaps (ch : Channel) (taps : List Tap) :
    (ch.withTaps taps).queued = ch.queued := by
  rw [← queued_untapped, untapped_withTaps, queued_untapped]

@[simp]
theorem taps_withTaps (ch : Channel) (taps : List Tap) :
    (ch.withTaps taps).taps = ch.taps ++ taps := by
  induction taps generalizing ch with
  | nil => simp [withTaps]
  | cons tap taps inductionHypothesis =>
      have next := inductionHypothesis (.tapped tap ch)
      rwa [Channel.taps, List.append_assoc] at next

/-- Whatever calls are made on a channel inside a stack of new taps, and however their writers
answer, each tap has written the lines of the first values that were sent, as many as it has
counted; after them comes only what its writer took of the line that it failed at, and then one
more write was made than values were counted. A tap with an error is not changed by any further
call. The calls are answered, and the channel inside is changed, as if there were no taps, so that
its queue gets every value. -/
theorem tap_logs_are_exact (inner : Channel) (stack : List (Text × Option Writer))
    (calls : List Queue.Call) :
    ∃ taps : List Tap,
      (inner.withTaps (newTaps stack)).after calls = (inner.after calls).withTaps taps ∧
      (inner.withTaps (newTaps stack)).answers calls = inner.answers calls ∧
      List.Forall₂ (fun given tap => tap.Logs given.1 given.2 (sentBy calls) ∧
        tap.Shows given.1 given.2 (sentBy calls)) stack taps ∧
      (∀ more, ∃ later,
        (inner.withTaps (newTaps stack)).after (calls ++ more) =
          (inner.after (calls ++ more)).withTaps later ∧
        List.Forall₂ (fun tap next => tap.error ≠ none → next = tap) taps later) ∧
      (inner.IsReady → ((inner.withTaps (newTaps stack)).after calls).queued =
        (Queue.converse Queue.listCall inner.queued calls).1) := by
  have run := converse_withTaps inner (newTaps stack)
  have left : ∀ calls, (inner.withTaps (newTaps stack)).after calls = (inner.after calls).withTaps
      ((newTaps stack).map fun tap => tap.recordAll (sentBy calls)) :=
    fun calls => congrArg Prod.fst (run calls)
  refine ⟨_, left calls, by rw [answers, run], ?_, ?_, ?_⟩
  · exact (forall₂_logs stack (sentBy calls)).imp fun _ _ logs => ⟨logs, logs.shows⟩
  · intro more
    refine ⟨_, left (calls ++ more), ?_⟩
    rw [List.forall₂_map_left_iff, List.forall₂_map_right_iff, List.forall₂_same]
    intro tap _ failed
    obtain ⟨error, broken⟩ := Option.ne_none_iff_exists'.mp failed
    rw [sentBy_append, Tap.recordAll_append, Tap.recordAll_of_error broken]
  · intro ready
    rw [left, queued_withTaps]
    exact ready.queued_after calls

/-- One tap works, the next one fails in the middle of its second line, and the last one has no
writer. -/
def mixedStack : List (Text × Option Writer) :=
  [("a", some .new), ("b", some (.failingAfter 1 3 ⟨"disk full"⟩)), ("c", none)]

def rewoundCalls : List Queue.Call := [.send 3, .rewind, .send (-7), .values, .receive, .send 8]

theorem tap_logs_are_exact_rewound :
    ∃ taps : List Tap,
      ((veiled (queue ⟨#[5], 0⟩)).withTaps (newTaps mixedStack)).after rewoundCalls =
        ((veiled (queue ⟨#[5], 0⟩)).after rewoundCalls).withTaps taps ∧
      taps.map (fun tap => (tap.count, tap.error, tap.writes, tap.output)) =
        [(3, none, 3, Text.ofString "a 3\na -7\na 8\n"),
          (1, some ⟨"disk full"⟩, 2, Text.ofString "b 3\nb -"), (0, none, 0, [])] ∧
      (veiled (queue ⟨#[5], 0⟩)).IsReady ∧
      (((veiled (queue ⟨#[5], 0⟩)).withTaps (newTaps mixedStack)).after rewoundCalls).queued =
        [8] := by
  obtain ⟨taps, left, _, _, _, holds⟩ :=
    tap_logs_are_exact (veiled (queue ⟨#[5], 0⟩)) mixedStack rewoundCalls
  have ready : (veiled (queue ⟨#[5], 0⟩)).IsReady := ⟨by decide, by decide⟩
  refine ⟨taps, left, ?_, ready, (holds ready).trans (by decide +kernel)⟩
  have known := congrArg Channel.taps left
  rw [taps_withTaps] at known
  have alone : taps = (((veiled (queue ⟨#[5], 0⟩)).withTaps (newTaps mixedStack)).after
      rewoundCalls).taps := known.symm
  rw [alone]
  decide +kernel

/-- A tap whose writer takes three bytes of its first line and fails. -/
def cutShort : List (Text × Option Writer) := [("x", some (.failingAfter 0 3 ⟨"disk full"⟩))]

/-- The output of a tap need not be lines of values that were counted, and nothing else. -/
theorem output_has_part_of_line :
    ∃ tap, (((queue .empty).withTaps (newTaps cutShort)).after [.send 12]).taps = [tap] ∧
      tap.count = 0 ∧ tap.error = some ⟨"disk full"⟩ ∧ tap.output = "x 1" ∧
      tap.output ≠ Text.concat (((sentBy [.send 12]).take tap.count).map (Tap.lineOf "x")) := by
  refine ⟨_, rfl, ?_, ?_, ?_, ?_⟩
  all_goals decide +kernel

end Channel

end Tandem

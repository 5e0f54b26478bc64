import Tandem.Proofs.Assembly.Linking
import Tandem.Proofs.Schedule.Accounting
import Tandem.Proofs.Schedule.Cutoff
import Tandem.Proofs.Schedule.InPlace

set_option autoImplicit false

/-!
Faults. An instruction fails if its operation is not assigned, or if it divides by zero, and for no
other reason. The scheduler then gives the duo as it was when the failing step was tried, and an
error with the side and the place of that step.
-/

namespace Tandem

open Assembly (assignedOps)

/-! ### Failing instructions -/

theorem Instance.fault?_eq_some_iff {c : Instance} {ins : Instruction} {fault : Fault} :
    c.fault? ins = some fault ↔
      fault.instruction = ins ∧
        (fault.reason = .unassigned ∧ ins.op ∉ assignedOps ∨
          fault.reason = .moduloByZero ∧ ins.op = .mod ∧ ins.a.resolve c.registers = 0) := by
  obtain ⟨instruction, reason⟩ := fault
  unfold fault?
  cases operation : ins.op with
  | mod =>
      simp only [Option.ite_none_right_eq_some, Option.some.injEq, Fault.mk.injEq, assignedOps]
      grind
  | unassigned code => simp [assignedOps, eq_comm]
  | _ => simp [assignedOps]

theorem Pair.execute_eq_error_iff {p : Pair} {s partner : Side} {ins : Instruction}
    {fault : Fault} :
    p.execute s partner ins = .error fault ↔ (p.get s).fault? ins = some fault := by
  unfold execute
  cases (p.get s).fault? ins <;> simp

/-- An assembled program has only instructions that are assigned. -/
theorem Assembly.op_mem_assignedOps {evaluator : Evaluator} {predefined : List (Text × Text)}
    {source : Text} {p : Program}
    (assembled : (assemble evaluator predefined source).program = .ok p) {line : CodeLine}
    (listed : line ∈ p.code.toList) : line.instruction.op ∈ assignedOps := by
  obtain ⟨lines, _, _, _, rfl, _⟩ := exists_layout assembled
  obtain ⟨⟨words, statement⟩, _, _, _, rfl⟩ := exists_entry_of_codeLine listed
  cases statement with
  | update u _ _ => cases u <;> simp [Entry.codeLine, Statement.instruction, Update.op, assignedOps]
  | snd _ => simp [Entry.codeLine, Statement.instruction, Instruction.snd, assignedOps]
  | rcv _ => simp [Entry.codeLine, Statement.instruction, Instruction.rcv, assignedOps]
  | jgz _ _ => simp [Entry.codeLine, Statement.instruction, Instruction.jgz, assignedOps]

theorem Program.exists_line_of_fetch? {p : Program} {pc : Int64} {ins : Instruction}
    (fetched : p.fetch? pc = some ins) :
    ∃ line, line ∈ p.code.toList ∧ p.line? pc = some line ∧ line.instruction = ins ∧
      line.lineNo = p.lineNo pc := by
  obtain ⟨line, found, same⟩ := Option.map_eq_some_iff.mp fetched
  refine ⟨line, ?_, found, same, ?_⟩
  · obtain ⟨_, there⟩ := Option.ite_none_right_eq_some.mp found
    exact Array.mem_toList_iff.mpr (Array.mem_of_getElem? there)
  · simp [lineNo, found]

/-! ### Failing calls -/

namespace Play

variable {p q : Play} {schedule : List Side}

theorem Leads.interleave (leads : p.Leads schedule q) :
    p.duo.pair.interleave p.duo.program schedule = .ok q.duo.pair := by
  induction leads with
  | start => exact Pair.interleave_nil _ _
  | move before goesOn inductionHypothesis =>
      have moved := interleave_stepper? goesOn
      rw [before.program_eq] at moved
      exact Pair.interleave_trans inductionHypothesis moved

theorem Leads.isCoherent (leads : p.Leads schedule q)
    (coherent : p.duo.pair.IsCoherent p.duo.program) :
    q.duo.pair.IsCoherent p.duo.program := by
  rw [← Pair.attempts_of_interleave leads.interleave]
  exact coherent.attempts schedule

theorem ticks_advance (goesOn : p.verdict? = none) (coherent : p.duo.pair.IsCoherent p.duo.program)
    (s : Side) :
    (p.advance.duo.pair.get s).ticks = (p.duo.pair.get s).ticks + p.stepper?.toList.count s := by
  obtain ⟨duo, turn⟩ := p
  cases turn with
  | none => rfl
  | some side =>
      cases running : (duo.pair.get side).isRunning with
      | false => simp [advance, stepper?, running]
      | true =>
          have noError : duo.error? side = none := by simpa [verdict?, running] using goesOn
          obtain ⟨own, others⟩ := Duo.ticks_advance (coherent side) running noError
          simp only [advance, stepper?, running, if_true, Option.toList]
          rcases side.eq_or_eq_other s with equality | equality
          · subst s
            simp [own]
          · subst s
            simp [others]

/-- Every step that the scheduler lets a coherent side make is counted by that side. -/
theorem Leads.ticks_eq (leads : p.Leads schedule q) (coherent : p.duo.pair.IsCoherent p.duo.program)
    (s : Side) :
    (q.duo.pair.get s).ticks = (p.duo.pair.get s).ticks + schedule.count s := by
  induction leads with
  | start => rfl
  | move before goesOn inductionHypothesis =>
      have there := before.isCoherent coherent
      rw [← before.program_eq] at there
      rw [ticks_advance goesOn there s, inductionHypothesis, List.count_append, Nat.add_assoc]

theorem exists_side_of_verdict? {error : RuntimeError} (failed : q.verdict? = some (.error error)) :
    ∃ s, (q.duo.pair.get s).isRunning = true ∧ q.duo.error? s = some error := by
  obtain ⟨duo, turn⟩ := q
  cases turn with
  | none =>
      obtain ⟨_, answer⟩ := Option.ite_none_left_eq_some.mp failed
      cases answer
  | some s =>
      obtain ⟨running, found⟩ := Option.ite_none_right_eq_some.mp failed
      obtain ⟨_, stuck, same⟩ := Option.map_eq_some_iff.mp found
      cases same
      exact ⟨s, running, stuck⟩

end Play

namespace Duo

/-- What a call has played when it fails. -/
theorem exists_leads_of_error {d f : Duo} {moves : Nat} {error : RuntimeError}
    (returned : d.tick moves = some (f, .error error) ∨ d.run moves = some (f, .error error)) :
    ∃ (p q : Play) (schedule : List Side), p.duo.program = d.program ∧ p.duo.pair = d.pair ∧
      p.duo.steps = d.steps ∧ p.Leads schedule q ∧ q.duo = f ∧
        q.verdict? = some (.error error) := by
  rcases returned with ticked | ran
  · cases running : d.isRunning with
    | false =>
        rw [tick_of_stopped moves running] at ticked
        cases ticked
    | true =>
        simp only [tick, running, if_true] at ticked
        obtain ⟨q, ended, same, ⟨_, answer⟩ | ⟨_, failed, answer⟩⟩ :=
          Play.finishCycle_eq_some ticked
        · cases answer
        · cases answer
          have leads :=
            Play.leads_of_stop (fun _ goesOn => Play.verdict?_of_not_hasEndedCycle goesOn) ended
          exact ⟨_, q, _, rfl, rfl, rfl, leads, same, failed⟩
  · obtain ⟨q, ended, same, failed⟩ := Play.finish_eq_some_iff.mp ran
    exact ⟨_, q, _, rfl, rfl, rfl, Play.leads_of_endOf? ended, same, failed⟩

/-- The error tells where the duo stands and on which line of its program it cannot go on. -/
structure IsStuck (d : Duo) (error : RuntimeError) (fault : Fault) (line : CodeLine) : Prop where
  cause_eq : error.cause = .fault fault
  running : (d.pair.get error.side).isRunning = true
  pc_eq : (d.pair.get error.side).pc = error.pc
  line_eq : d.program.line? error.pc = some line
  instruction_eq : line.instruction = fault.instruction
  lineNo_eq : line.lineNo = error.lineNo
  execute_eq : d.pair.execute error.side error.side.other fault.instruction = .error fault
  step_eq : (InPlace.step d.program error.side).run d.pair = .error fault d.pair

theorem exists_isStuck {d : Duo} {s : Side} {error : RuntimeError}
    (running : (d.pair.get s).isRunning = true) (found : d.error? s = some error)
    (faulty : error.cause ≠ .stepLimit) :
    ∃ fault line, d.IsStuck error fault line ∧ line ∈ d.program.code.toList := by
  unfold error? at found
  split at found
  next =>
    cases found
    contradiction
  next =>
    obtain ⟨fault, failing, rfl⟩ := Option.map_eq_some_iff.mp found
    have step_eq := InPlace.run_step d.program d.pair s
    rw [Pair.step, failing] at step_eq
    simp only [Instance.stepFault?, running, if_true] at failing
    obtain ⟨ins, fetched, failing⟩ := Option.bind_eq_some_iff.mp failing
    obtain ⟨line, listed, line_eq, rfl, lineNo_eq⟩ := Program.exists_line_of_fetch? fetched
    have instruction_eq := (Instance.fault?_eq_some_iff.mp failing).1
    refine ⟨fault, line, ⟨rfl, running, rfl, line_eq, instruction_eq.symm, lineNo_eq, ?_,
      step_eq⟩, listed⟩
    rw [instruction_eq]
    exact Pair.execute_eq_error_iff.mpr failing

/-- An instruction fails exactly if its operation is not assigned or it divides by zero, and in
place it leaves nothing behind then. When a call fails for another reason than the step limit, the
side that it names still runs at the program counter that it names; the instruction there is the
one that fails, and comes from the line that it names. The steps that were counted are those that
were carried out, and they alone have changed the pair. In an assembled program the reason is
always a division by zero. -/
theorem faults_are_atomic_and_located :
    (∀ (p : Pair) (s : Side) (ins : Instruction),
      ((∃ fault, p.execute s s.other ins = .error fault) ↔
        ins.op ∉ assignedOps ∨ ins.op = .mod ∧ ins.a.resolve (p.get s).registers = 0) ∧
      (InPlace.execute s ins).run p = InPlace.allOrNothing p (p.execute s s.other ins)) ∧
    ∀ (d e f : Duo) (moves : Nat) (error : RuntimeError), d.AfterReset e →
      e.tick moves = some (f, .error error) ∨ e.run moves = some (f, .error error) →
      error.cause ≠ .stepLimit →
      ∃ schedule fault line, f.program = d.program ∧ f.IsStuck error fault line ∧
        e.pair.interleave d.program schedule = .ok f.pair ∧
          f.steps = e.steps + schedule.length ∧
        (∀ s, (f.pair.get s).ticks = (e.pair.get s).ticks + schedule.count s) ∧
        ∀ evaluator predefined source,
          (Assembly.assemble evaluator predefined source).program = .ok d.program →
          fault.reason = .moduloByZero := by
  constructor
  · intro p s ins
    refine ⟨?_, InPlace.run_execute p s ins⟩
    simp only [Pair.execute_eq_error_iff, Instance.fault?_eq_some_iff]
    constructor
    · rintro ⟨_, _, ⟨_, unassigned⟩ | ⟨_, zero⟩⟩
      · exact .inl unassigned
      · exact .inr zero
    · rintro (unassigned | zero)
      · exact ⟨⟨ins, .unassigned⟩, rfl, .inl ⟨rfl, unassigned⟩⟩
      · exact ⟨⟨ins, .moduloByZero⟩, rfl, .inr ⟨rfl, zero⟩⟩
  · intro d e f moves error after returned faulty
    have coherent := after.isCoherent
    obtain ⟨sameProgram, _⟩ := after.exists_schedule
    obtain ⟨p, q, schedule, program_eq, pair_eq, steps_eq, leads, rfl, failed⟩ :=
      exists_leads_of_error returned
    rw [sameProgram] at program_eq
    obtain ⟨s, running, found⟩ := Play.exists_side_of_verdict? failed
    obtain ⟨fault, line, stuck, listed⟩ := exists_isStuck running found faulty
    have played := leads.interleave
    have counted := leads.ticks_eq
    have keptProgram := leads.program_eq
    rw [pair_eq, program_eq] at played counted
    rw [program_eq] at keptProgram
    refine ⟨schedule, fault, line, keptProgram, stuck, played, ?_, counted coherent, ?_⟩
    · rw [leads.steps_eq, steps_eq]
    · intro evaluator predefined source assembled
      rw [keptProgram] at listed
      have assigned := Assembly.op_mem_assignedOps assembled listed
      have failing := Instance.fault?_eq_some_iff.mp (Pair.execute_eq_error_iff.mp stuck.execute_eq)
      rw [← stuck.instruction_eq] at failing
      rcases failing.2 with ⟨_, unassigned⟩ | ⟨zero, _⟩
      · exact absurd assigned unassigned
      · exact zero

/-- Each side takes a value from the other, and divides it by zero. -/
def remainder : Duo :=
  { Duo.new with
    program := ⟨#[{ instruction := .snd (.ofLiteral 1), lineNo := 1, words := ["snd", "1"] },
      { instruction := .rcv ⟨97⟩, lineNo := 2, words := ["rcv", "a"] },
      { instruction := { op := .mod, register := ⟨97⟩, a := .ofRegister ⟨98⟩ }, lineNo := 3,
        words := ["mod", "a", "b"] }]⟩ }

/-- Side zero waits after two steps, and side one fails after two. -/
theorem faults_are_atomic_and_located_remainder :
    (Assembly.assemble Assembly.sumOfEquates [] "snd 1\nrcv a\nmod a b").program =
      .ok remainder.program ∧
      ∃ (f : Duo) (error : RuntimeError) (fault : Fault) (line : CodeLine),
        remainder.reset.run 40 = some (f, .error error) ∧ error.side = .one ∧ error.pc = 2 ∧
          error.lineNo = 3 ∧ f.steps = 4 ∧ f.IsStuck error fault line ∧
            fault.reason = .moduloByZero := by
  have assembled : (Assembly.assemble Assembly.sumOfEquates [] "snd 1\nrcv a\nmod a b").program =
      .ok remainder.program := by
    apply Assembly.program_eq_ok_of_toOption
    decide +kernel
  have ran : ∃ f, remainder.reset.run 40 = some (f, .error ⟨.one, 2, 3,
      .fault ⟨{ op := .mod, register := ⟨97⟩, a := .ofRegister ⟨98⟩ },
        .moduloByZero⟩⟩) ∧ f.steps = 4 :=
    ⟨_, rfl, rfl⟩
  obtain ⟨f, returned, four⟩ := ran
  obtain ⟨_, fault, line, _, stuck, _, _, _, divided⟩ :=
    faults_are_atomic_and_located.2 remainder _ f 40 _ .reset (.inr returned) (by decide)
  exact ⟨assembled, f, _, fault, line, returned, rfl, rfl, rfl, four, stuck,
    divided _ _ _ assembled⟩

end Duo

end Tandem

import Tandem.Proofs.Schedule.Interleaving

set_option autoImplicit false

/-!
Execution in place. Here an instruction writes the fields of the two sides one after the other, and
a fault ends it where it is found: what has been written by then stays written. `execute` and `step`
of a pair give a whole new pair or a fault instead, and no pair can be seen in between.

The two agree. All faults are found before the first write, so what an instruction in place leaves
behind when it fails is the pair as it was.
-/

namespace Tandem

namespace Pair

@[simp]
theorem modify_modify (p : Pair) (s : Side) (f g : Instance → Instance) :
    (p.modify s f).modify s g = p.modify s fun c => g (f c) := by
  cases s <;> rfl

theorem modify_eq_set (p : Pair) (s : Side) (f : Instance → Instance) :
    p.modify s f = p.set s (f (p.get s)) := by
  cases s <;> rfl

theorem modify_modify_other (p : Pair) (s : Side) (f g : Instance → Instance) :
    (p.modify s.other g).modify s f = (p.modify s f).modify s.other g := by
  cases s <;> rfl

theorem modify_record (p : Pair) (written : Text) (s : Side) (f : Instance → Instance) :
    (p.record written).modify s f = (p.modify s f).record written := by
  unfold record
  split
  · rfl
  · cases s <;> rfl

/-- What a side does to itself does not meet what arrives at the other side. -/
theorem modify_deliver_other (p : Pair) (s : Side) (value : Int64) (f : Instance → Instance) :
    (p.deliver s.other value).modify s f = (p.modify s f).deliver s.other value := by
  simp only [deliver, modify_modify_other, modify_record, get_modify_other]

theorem deliver_eq_enqueue (p : Pair) (s : Side) (value : Int64) :
    p.deliver s value = (p.enqueue s value).modify s fun c => { c with blocked := false } := by
  rw [enqueue, modify_modify]
  rfl

end Pair

namespace InPlace

/-- Changes one side where it stands. -/
def write (s : Side) (change : Instance → Instance) : EStateM Fault Pair Unit :=
  modify fun p => p.modify s change

/-- The value that an operation puts into its register. -/
def output (ins : Instruction) (input value : Int64) : EStateM Fault Pair Int64 :=
  match ins.op with
  | .add => pure (input + value)
  | .mul => pure (input * value)
  | .mod => if value = 0 then throw ⟨ins, .moduloByZero⟩ else pure (input % value)
  | _ => pure value

/-- What is special to an instruction. The result is the program counter at which to go on. -/
def effect (s : Side) (ins : Instruction) : EStateM Fault Pair Int64 := do
  let c := (← get).get s
  let a := ins.a.resolve c.registers
  match ins.op with
  | .set | .add | .mul | .mod =>
      let value ← output ins (c.registers.get ins.register) a
      write s fun c => { c with registers := c.registers.set ins.register value }
      return c.pc + 1
  | .snd =>
      modify fun p => p.enqueue s.other a
      write s.other fun c => { c with blocked := false }
      write s fun c => { c with sent := c.sent + 1 }
      return c.pc + 1
  | .rcv =>
      match c.inbox.receive? with
      | none =>
          write s fun c => { c with blocked := true }
          return c.pc
      | some (value, inbox) =>
          write s fun c => { c with inbox }
          write s fun c => { c with registers := c.registers.set ins.register value }
          write s fun c => { c with blocked := false }
          write s fun c => { c with received := c.received + 1 }
          return c.pc + 1
  | .jgz => return c.pc + if 0 < a then ins.b.resolve c.registers else 1
  | .unassigned _ => throw ⟨ins, .unassigned⟩

def execute (s : Side) (ins : Instruction) : EStateM Fault Pair Unit := do
  let next ← effect s ins
  write s fun c => { c with pc := next }
  write s fun c => { c with ticks := c.ticks + 1 }

def step (program : Program) (s : Side) : EStateM Fault Pair Unit := do
  let c := (← get).get s
  if c.isRunning then
    match program.fetch? c.pc with
    | none => write s (·.checkBounds program)
    | some ins =>
        execute s ins
        write s (·.checkBounds program)

/-- What an execution makes of a pair in place if a fault leaves nothing behind. -/
def allOrNothing (p : Pair) : Except Fault Pair → EStateM.Result Fault Pair Unit
  | .error fault => .error fault p
  | .ok next => .ok () next

@[simp]
theorem run_write (p : Pair) (s : Side) (change : Instance → Instance) :
    (write s change).run p = .ok () (p.modify s change) := rfl

@[simp]
theorem run_throw {α : Type} (p : Pair) (fault : Fault) :
    (throw fault : EStateM Fault Pair α).run p = .error fault p := rfl

/-! ### One instruction -/

/-- A fault is found before anything is written. -/
theorem run_execute_of_fault {p : Pair} {s : Side} {ins : Instruction} {fault : Fault}
    (failing : (p.get s).fault? ins = some fault) : (execute s ins).run p = .error fault p := by
  obtain ⟨op, register, a, b⟩ := ins
  unfold Instance.fault? at failing
  cases op with
  | mod =>
      obtain ⟨zero, same⟩ := Option.ite_none_right_eq_some.mp failing
      cases same
      have divisor : a.resolve (p.get s).registers = 0 := zero
      simp [execute, effect, output, divisor]
  | unassigned code =>
      cases failing
      simp [execute, effect]
  | _ => contradiction

/-- An instruction that writes to its own side only. -/
theorem run_execute_of_own {p : Pair} {s : Side} {ins : Instruction} {next : Int64}
    {change : Instance → Instance} (written : (effect s ins).run p = .ok next (p.modify s change))
    (performed : (p.get s).perform ins =
      ({ change (p.get s) with pc := next, ticks := (change (p.get s)).ticks + 1 }, none)) :
    (execute s ins).run p = .ok () (p.act s s.other (·.perform ins)) := by
  simp only [execute, EStateM.run_bind, written, run_write, Pair.modify_modify]
  rw [Pair.act_eq, performed, Pair.modify_eq_set]

theorem run_execute_of_no_fault {p : Pair} {s : Side} {ins : Instruction}
    (faultless : (p.get s).fault? ins = none) :
    (execute s ins).run p = .ok () (p.act s s.other (·.perform ins)) := by
  obtain ⟨op, register, a, b⟩ := ins
  cases op with
  | set | add | mul => exact run_execute_of_own rfl rfl
  | mod =>
      have divisible : a.resolve (p.get s).registers ≠ 0 := by
        intro zero
        simp [Instance.fault?, zero] at faultless
      have written : (effect s ⟨.mod, register, a, b⟩).run p =
          .ok ((p.get s).pc + 1) (p.modify s fun c =>
            { c with
              registers := c.registers.set register
                ((p.get s).registers.get register % a.resolve (p.get s).registers) }) := by
        simp [effect, output, divisible, -bind_pure_comp]
      exact run_execute_of_own written rfl
  | snd =>
      -- the sender is changed after the value has arrived, which comes to the same
      have written : (execute s ⟨.snd, register, a, b⟩).run p =
          .ok () (((((p.enqueue s.other (a.resolve (p.get s).registers)).modify s.other
            fun c => { c with blocked := false }).modify s
            fun c => { c with sent := c.sent + 1 }).modify s
            fun c => { c with pc := (p.get s).pc + 1 }).modify s
            fun c => { c with ticks := c.ticks + 1 }) := rfl
      rw [written, ← Pair.deliver_eq_enqueue, Pair.modify_modify, Pair.modify_modify,
        Pair.modify_deliver_other, Pair.act_eq, Pair.modify_eq_set]
      rfl
  | rcv =>
      cases received : (p.get s).inbox.receive? with
      | none =>
          have written : (effect s ⟨.rcv, register, a, b⟩).run p =
              .ok (p.get s).pc (p.modify s fun c => { c with blocked := true }) := by
            simp [effect, received, -bind_pure_comp]
          apply run_execute_of_own written
          simp only [Instance.perform, received]
          rfl
      | some taken =>
          have written : (effect s ⟨.rcv, register, a, b⟩).run p =
              .ok ((p.get s).pc + 1) (p.modify s fun c => { c with
                inbox := taken.2
                registers := c.registers.set register taken.1
                blocked := false
                received := c.received + 1 }) := by
            simp [effect, received, -bind_pure_comp]
          apply run_execute_of_own written
          simp only [Instance.perform, received]
          rfl
  | jgz =>
      have written : (effect s ⟨.jgz, register, a, b⟩).run p =
          .ok ((p.get s).pc +
            if 0 < a.resolve (p.get s).registers then b.resolve (p.get s).registers else 1)
            (p.modify s id) := by
        cases s <;> rfl
      exact run_execute_of_own written rfl
  | unassigned code => contradiction

@[simp]
theorem run_execute (p : Pair) (s : Side) (ins : Instruction) :
    (execute s ins).run p = allOrNothing p (p.execute s s.other ins) := by
  unfold Pair.execute
  cases failing : (p.get s).fault? ins with
  | some fault => exact run_execute_of_fault failing
  | none => exact run_execute_of_no_fault failing

/-! ### One step -/

theorem modify_checkBounds_act (program : Program) (p : Pair) (s : Side) {ins : Instruction}
    (running : (p.get s).isRunning = true) (fetched : program.fetch? (p.get s).pc = some ins) :
    (p.act s s.other (·.perform ins)).modify s (·.checkBounds program) =
      p.advance program s s.other := by
  rw [Pair.advance, Pair.act_eq, Pair.act_eq, Instance.advance_of_fetch? running fetched]
  cases ((p.get s).perform ins).2 with
  | none => simp [Pair.set]
  | some value => simp [Pair.set, Pair.modify_deliver_other]

@[simp]
theorem run_step (program : Program) (p : Pair) (s : Side) :
    (step program s).run p = allOrNothing p (p.step program s s.other) := by
  unfold Pair.step Instance.stepFault?
  cases running : (p.get s).isRunning with
  | false =>
      have idle : p.advance program s s.other = p := by
        rw [Pair.advance, Pair.act_eq, Instance.advance_of_stopped program running]
        cases s <;> rfl
      simp [step, running, idle, allOrNothing]
  | true =>
      cases fetched : program.fetch? (p.get s).pc with
      | none =>
          have stops : p.advance program s s.other = p.modify s (·.checkBounds program) := by
            rw [Pair.advance, Pair.act_eq, Pair.modify_eq_set]
            simp [Instance.advance, running, fetched]
          simp [step, running, fetched, stops, allOrNothing]
      | some ins =>
          simp only [step, EStateM.run_bind, EStateM.run_get, running, fetched, if_true,
            Option.bind_some]
          cases failing : (p.get s).fault? ins with
          | some fault =>
              rw [run_execute_of_fault failing]
              rfl
          | none =>
              rw [run_execute_of_no_fault failing]
              simp [modify_checkBounds_act program p s running fetched, allOrNothing]

end InPlace

end Tandem

import TankDuel.Proofs.Machine.Work

/-!
# What a step of a machine can do

`Cpu.Stepped c result c'` lists the ways in which a step can go, with everything that is known of
the machine in each of them, and `Cpu.stepped` says that every step goes in one of these ways. All
that is proved about machines in motion is read off this one inversion.

Two facts are drawn from it here.

* **Progress.** A step either makes the machine ready, and then the action waits in the slot
  (`Cpu.Stepped.pending_eq`), or uses up one operation of the budget, of which there is some left
  (`Cpu.Stepped.budgetLeft_lt`).
* **A latched machine shows what it was shown.** `Cpu.Shows` says that the sensor registers hold
  what the sensors say. The step that makes a machine ready does not write any register but `PC`
  (`Operation.run_registers`), so the machine still shows the sensors afterwards (`Cpu.Shows.step`),
  and showing them to it once more changes nothing (`Cpu.Shows.sense_eq`).
-/

namespace TankDuel

/-! ### Registers -/

/-- Every number below the number of registers is that of a register. -/
theorem Register.exists_index_eq (i : Fin 14) : ∃ r : Register, r.index = i := by
  have every : ∀ i : Fin 14, ∃ r ∈ Register.all, r.index = i := by decide
  obtain ⟨r, -, h⟩ := every i
  exact ⟨r, h⟩

/-- A register file is determined by what its registers hold. -/
theorem RegisterFile.ext_get {regs regs' : RegisterFile} (h : ∀ r, regs.get r = regs'.get r) :
    regs = regs' := by
  obtain ⟨slots⟩ := regs
  obtain ⟨slots'⟩ := regs'
  congr 1
  ext i hi
  obtain ⟨r, hr⟩ := Register.exists_index_eq ⟨i, hi⟩
  have same := h r
  simp only [RegisterFile.get, hr] at same
  exact same

/-- What the sensors say a register holds, if it is a sensor register. -/
def Sensors.word (s : Sensors) : Register → Option Int32
  | .px => some s.x
  | .py => some s.y
  | .dir => some s.facing
  | .hp => some s.hp
  | .ammo => some (if s.ammo then 1 else 0)
  | _ => none

namespace Cpu

variable {c c' : Cpu} {s : Sensors} {result : StepResult} {action : Action}

/-- Sensor registers show what the sensors say, and the others stay. -/
theorem get_sense (c : Cpu) (s : Sensors) (r : Register) :
    (c.sense s).registers.get r = (s.word r).getD (c.registers.get r) := by
  cases r <;> simp [sense, RegisterFile.get_write, Sensors.word]

/-- The sensor registers hold what the sensors say. -/
def Shows (c : Cpu) (s : Sensors) : Prop :=
  ∀ r word, s.word r = some word → c.registers.get r = word

/-- A machine that has been shown the sensors shows what they say. -/
theorem shows_sense (c : Cpu) (s : Sensors) : (c.sense s).Shows s := by
  intro r word h
  rw [get_sense, h]
  rfl

/-- Showing a machine what it shows already changes nothing. -/
theorem Shows.sense_eq (h : c.Shows s) : c.sense s = c := by
  -- The sensors are all that showing them can change.
  have same : (c.sense s).registers = c.registers := by
    refine RegisterFile.ext_get fun r => ?_
    rw [get_sense]
    cases said : s.word r with
    | none => rfl
    | some word => exact (h r word said).symm
  change { c with registers := (c.sense s).registers } = c
  rw [same]

end Cpu

/-! ### Inversion of a step -/

/-- An operation that ends the turn writes no register. -/
theorem Operation.run_registers {op : Operation} {pc size : Nat} {regs : RegisterFile}
    {done : Executed} (h : op.run pc size regs = .ok done) (ends : done.result ≠ .working) :
    done.registers = regs := by
  cases op with
  | assign | increment | decrement | compare | nop =>
    obtain rfl := Except.ok.inj h
    exact absurd rfl ends
  | compute =>
    rw [run_compute] at h
    split at h
    · obtain rfl := Except.ok.inj h
      exact absurd rfl ends
    · exact absurd h (by simp)
  | jump =>
    rw [run_jump] at h
    split at h
    · exact absurd h (by simp)
    · obtain rfl := Except.ok.inj h
      exact absurd rfl ends
  -- These are the two that end the turn.
  | act | halt =>
    obtain rfl := Except.ok.inj h
    rfl

/-- An instruction that ends the turn writes no register. -/
theorem Instruction.execute_registers {i : Instruction} {pc size : Nat} {regs : RegisterFile}
    {done : Executed} (h : i.execute regs pc size = .ok done) (ends : done.result ≠ .working) :
    done.registers = regs := by
  rw [execute_eq] at h
  split at h
  · exact Operation.run_registers h ends
  · exact absurd h (by simp)

namespace Cpu

variable {c c' : Cpu} {s : Sensors} {result : StepResult} {action : Action}

/-- The machine is about to execute an instruction. -/
structure Runs (c : Cpu) (i : Instruction) : Prop where
  idle : c.pending = none
  alive : 0 < c.registers.get .hp
  running : c.halted = none
  budget : c.opsThisTurn < c.opLimit
  fetched : c.program.fetch? c.registers.pc = some i

/-- An instruction that is run lies in the program. -/
theorem Runs.pc_lt {i : Instruction} (runs : c.Runs i) : c.pc < c.program.size :=
  (List.getElem?_eq_some_iff.mp runs.fetched).1

/-- The ways in which a step can go. -/
inductive Stepped (c : Cpu) : StepResult → Cpu → Prop
  /-- The pending action is shown again. -/
  | shown {action : Action} : c.pending = some action → Stepped c (.ready action) c
  | dead : c.pending = none → c.registers.get .hp ≤ 0 →
    Stepped c (.ready .dead) { c with pending := some .dead }
  | halted {reason : HaltReason} : c.pending = none → 0 < c.registers.get .hp →
    c.halted = some reason →
    Stepped c (.ready (.halt reason)) { c with pending := some (.halt reason) }
  | spent : c.pending = none → 0 < c.registers.get .hp → c.halted = none →
    c.opLimit ≤ c.opsThisTurn →
    Stepped c (.ready (.wait .opLimit)) { c with pending := some (.wait .opLimit) }
  | ended : c.pending = none → 0 < c.registers.get .hp → c.halted = none →
    c.opsThisTurn < c.opLimit → c.program.fetch? c.registers.pc = none →
    Stepped c (.ready (.halt .endOfProgram))
      { c with halted := some .endOfProgram, pending := some (.halt .endOfProgram) }
  | faulted {i : Instruction} {fault : Fault} : c.Runs i →
    i.execute c.registers c.registers.pc c.program.size = .error fault →
    Stepped c (.ready (.halt (.fault fault)))
      { c with
        executed := c.executed + 1
        halted := some (.fault fault)
        pending := some (.halt (.fault fault)) }
  | worked {i : Instruction} {done : Executed} : c.Runs i →
    i.execute c.registers c.registers.pc c.program.size = .ok done → done.result = .working →
    Stepped c .working
      { c with
        executed := c.executed + 1
        registers := done.registers.setPc done.next
        opsThisTurn := c.opsThisTurn + 1 }
  | acted {i : Instruction} {done : Executed} {action : Action} : c.Runs i →
    i.execute c.registers c.registers.pc c.program.size = .ok done →
    done.result = .ready action →
    Stepped c (.ready action)
      { c with
        executed := c.executed + 1
        registers := done.registers.setPc done.next
        halted := action.haltReason?
        pending := some action }

/-- The end of an instruction is the end of a step. -/
private theorem retire_stepped {i : Instruction} {done : Executed} (runs : c.Runs i)
    (h : i.execute c.registers c.registers.pc c.program.size = .ok done) :
    let c' := { c with executed := c.executed + 1, registers := done.registers }
    Stepped c (c'.retire ⟨done.next, done.result⟩).1 (c'.retire ⟨done.next, done.result⟩).2 := by
  intro c'
  have running := runs.running
  unfold retire
  dsimp only
  split
  next result => exact .worked runs h result
  next reason result => exact .acted runs h result
  next action notHalt result =>
    -- The machine was running and goes on running, so there is no reason to note.
    have keeps : action.haltReason? = c.halted := by
      rw [running]
      cases action <;> first | rfl | exact absurd rfl (notHalt _)
    have acted := Stepped.acted runs h result
    rw [keeps] at acted
    exact acted

/-- **Inversion of a step.** -/
theorem stepped (c : Cpu) : Stepped c c.step.1 c.step.2 := by
  unfold step
  split
  next action pending => exact .shown pending
  next idle =>
    unfold advance
    split
    next low => exact .dead idle low
    next high =>
      have alive : 0 < c.registers.get .hp := Int32.not_le.mp high
      split
      next reason halted => exact .halted idle alive halted
      next running =>
        split
        next spent => exact .spent idle alive running spent
        next unspent =>
          have budget := Nat.lt_of_not_le unspent
          split
          next i fetched =>
            have runs : c.Runs i := ⟨idle, alive, running, budget, fetched⟩
            rw [dispatch_eq]
            split
            next done executed => exact retire_stepped runs executed
            next fault executed => exact .faulted runs executed
          next missing => exact .ended idle alive running budget missing

/-- A step, by its result and what it leaves behind. -/
theorem stepped_of_step_eq (h : c.step = (result, c')) : Stepped c result c' := by
  have stepped := c.stepped
  rw [h] at stepped
  exact stepped

/-- **A step goes in one way only.** -/
theorem Stepped.step_eq (h : Stepped c result c') : c.step = (result, c') := by
  -- What is executed makes the same of the machine as it is taken over.
  have dispatched {i : Instruction} (runs : c.Runs i) : c.step = c.dispatch i := by
    unfold step advance
    rw [runs.idle, if_neg (Int32.not_le.mpr runs.alive), runs.running,
      if_neg (Nat.not_le.mpr runs.budget), runs.fetched]
  cases h with
  -- Before that come the checks of `step`, each rule with the ones that let it through.
  | shown pending => simp [step, pending]
  | dead idle low => simp [step, advance, latch, idle, low]
  | halted idle alive halted =>
    simp [step, advance, latch, idle, Int32.not_le.mpr alive, halted]
  | spent idle alive running spent =>
    simp [step, advance, latch, idle, Int32.not_le.mpr alive, running, spent]
  | ended idle alive running budget missing =>
    simp [step, advance, stop, latch, idle, Int32.not_le.mpr alive, running,
      Nat.not_le.mpr budget, missing]
  | faulted runs executed =>
    rw [dispatched runs, dispatch_eq, executed]
    rfl
  | worked runs executed works =>
    rw [dispatched runs, dispatch_eq, executed]
    dsimp only [retire]
    rw [works]
  | @acted i done action runs executed ends =>
    rw [dispatched runs, dispatch_eq, executed]
    dsimp only [retire]
    rw [ends]
    have running := runs.running
    cases action <;> simp [latch, stop, Action.haltReason?, running]

/-! ### Progress -/

/-- A pending action is shown again, and nothing else is done. -/
theorem step_of_pending (h : c.pending = some action) : c.step = (.ready action, c) :=
  (Stepped.shown h).step_eq

/-- What a step shows as ready waits in the slot. -/
theorem Stepped.pending_eq (h : Stepped c (.ready action) c') : c'.pending = some action := by
  cases h <;> first | assumption | rfl

/-- Work uses up an operation of the budget. -/
theorem Stepped.budgetLeft_lt (h : Stepped c .working c') : c'.budgetLeft < c.budgetLeft := by
  cases h with
  | worked runs =>
    have budget := runs.budget
    change c.opLimit - (c.opsThisTurn + 1) < c.opLimit - c.opsThisTurn
    omega

/-- **A latched machine shows what it was shown.** -/
theorem Shows.step (h : c.Shows s) (stepped : Stepped c (.ready action) c') : c'.Shows s := by
  cases stepped with
  | shown | dead | halted | spent | ended | faulted => exact h
  | @acted i done _ _ executed result =>
    have unwritten : done.registers = c.registers :=
      Instruction.execute_registers executed (by rw [result]; exact nofun)
    intro r word said
    -- The program counter moves on, but it is no sensor.
    have notPc : r ≠ .pc := by
      rintro rfl
      exact absurd said (by simp [Sensors.word])
    change (done.registers.setPc done.next).get r = word
    rw [unwritten, RegisterFile.get_setPc _ _ notPc]
    exact h r word said

end Cpu

end TankDuel

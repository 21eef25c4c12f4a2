import TankDuel.Machine.Cpu

/-!
# Work that is done as a whole or not at all

An instruction works on the registers of a machine in place. If it meets a fault, the machine goes
on with the registers as the broken off work has left them (`Cpu.dispatch`). What makes this safe is
that every operation looks for its faults before it writes: its work is **atomic**
(`Operation.perform_atomic`, `Instruction.perform_atomic`).

So nothing is lost when the registers that a fault leaves behind are not told, and a machine can be
read as one that executes whole instructions (`Cpu.dispatch_eq`). All further statements about
machines go by `Instruction.execute`. What comes of an operation (`Operation.run`) can be read off
its definition, but for divisions and jumps, where it is stated here.
-/

namespace TankDuel

variable {pc size : Nat} {regs : RegisterFile}

/-- If the work is broken off by a fault, the registers are as they were before it. -/
def Work.Atomic {α : Type} (work : Work α) : Prop :=
  ∀ regs fault regs', work.run regs = (.error fault, regs') → regs' = regs

/-- Atomic work is known from what is told of it. -/
theorem Work.Atomic.run_eq {work : Work Onward} (h : work.Atomic) (regs : RegisterFile) :
    work.run regs =
      match work.outcome regs with
      | .ok done => (.ok ⟨done.next, done.result⟩, done.registers)
      | .error fault => (.error fault, regs) := by
  unfold Work.outcome
  cases result : work.run regs with
  | mk told regs' =>
    cases told with
    | ok onward => rfl
    | error fault => rw [h regs fault regs' result]

/-! ### Operations -/

namespace Operation

/-- A division by zero is found before the result is written. -/
private theorem perform_compute (f : Arithmetic) (d : Register) (s : Source) :
    ((compute f d s).perform pc size).run regs =
      match f.apply? (regs.get d) (s.value regs) with
      | some value => (.ok (.working pc), regs.write d value)
      | none => (.error (.divisionByZero pc), regs) := by
  -- The work begins with a look at the registers; what follows hangs on the result alone.
  change ExceptT.run (match f.apply? (regs.get d) (s.value regs) with
    | some value => do
      set (regs.write d value)
      return Onward.working pc
    | none => throw (Fault.divisionByZero pc) : Work Onward) regs = _
  cases f.apply? (regs.get d) (s.value regs) <;> rfl

/-- A jump writes nothing, whether it is taken, not taken or refused. -/
private theorem perform_jump (condition : Condition) (target : Nat) :
    ((jump condition target).perform pc size).run regs =
      if size < target then (.error (.jumpOutOfRange pc target), regs)
      else
        (.ok ⟨if condition.holds (regs.get .cmp) then target else pc + 1, .working⟩, regs) := by
  rw [perform]
  split <;> rfl

/-- **An operation is done as a whole or not at all.** Only a division and a jump can be faulty, and
both are found to be so before anything is written. -/
theorem perform_atomic (op : Operation) (pc size : Nat) : (op.perform pc size).Atomic := by
  intro regs fault regs' broken
  -- Only arithmetic and jumps can break off, and they do so before they write.
  cases op with
  | compute f d s =>
    rw [perform_compute] at broken
    cases result : f.apply? (regs.get d) (s.value regs) with
    | some value =>
      rw [result] at broken
      exact absurd (congrArg Prod.fst broken) nofun
    | none =>
      rw [result] at broken
      exact (congrArg Prod.snd broken).symm
  | jump condition target =>
    rw [perform_jump] at broken
    split at broken
    · exact (congrArg Prod.snd broken).symm
    · exact absurd (congrArg Prod.fst broken) nofun
  | assign | increment | decrement | compare | nop | act | halt =>
    exact absurd (congrArg Prod.fst broken) nofun

/-- Run an operation that stands at `pc` in a program of `size` instructions. -/
def run (pc size : Nat) (regs : RegisterFile) (op : Operation) : Except Fault Executed :=
  (op.perform pc size).outcome regs

/-- What comes of arithmetic. -/
theorem run_compute (f : Arithmetic) (d : Register) (s : Source) :
    (compute f d s).run pc size regs =
      match f.apply? (regs.get d) (s.value regs) with
      | some value => .ok ⟨regs.write d value, pc + 1, .working⟩
      | none => .error (.divisionByZero pc) := by
  rw [run, Work.outcome, perform_compute]
  cases f.apply? (regs.get d) (s.value regs) <;> rfl

/-- What comes of a jump. -/
theorem run_jump (condition : Condition) (target : Nat) :
    (jump condition target).run pc size regs =
      if size < target then .error (.jumpOutOfRange pc target)
      else .ok ⟨regs, if condition.holds (regs.get .cmp) then target else pc + 1, .working⟩ := by
  rw [run, Work.outcome, perform_jump]
  by_cases beyond : size < target <;> simp [beyond]

end Operation

/-! ### Instructions -/

/-- An instruction is the operation that it stands for. -/
theorem Instruction.execute_eq (i : Instruction) :
    i.execute regs pc size =
      match i.operation? with
      | some op => op.run pc size regs
      | none => .error (.badOperands pc i.opcode) := by
  unfold execute perform
  cases i.operation? <;> rfl

/-- **An instruction is executed as a whole or not at all.** -/
theorem Instruction.perform_atomic (i : Instruction) (pc size : Nat) :
    (i.perform pc size).Atomic := by
  unfold perform
  cases i.operation? with
  | some op => exact op.perform_atomic pc size
  | none =>
    intro regs fault regs' broken
    exact (congrArg Prod.snd broken).symm

/-- A machine executes whole instructions. What a faulty one has made of the registers is what they
were. -/
theorem Cpu.dispatch_eq (c : Cpu) (i : Instruction) :
    c.dispatch i =
      match i.execute c.registers c.registers.pc c.program.size with
      | .ok done =>
        { c with executed := c.executed + 1, registers := done.registers }.retire
          ⟨done.next, done.result⟩
      | .error fault => { c with executed := c.executed + 1 }.stop (.fault fault) := by
  have atomic := i.perform_atomic c.registers.pc c.program.size
  unfold dispatch Instruction.execute
  rw [atomic.run_eq]
  cases (i.perform c.registers.pc c.program.size).outcome c.registers <;> rfl

end TankDuel

import TankDuel.Machine.Operation

/-!
# Executing one instruction

An instruction works on the registers of a machine in place. A fault breaks the work off where it
stands, and what has been written until then stays written: nothing in the type `Work` takes it
back. That a fault finds nothing written yet is a property of the operations
(`Instruction.perform_atomic` in `TankDuel.Proofs.Machine.Work`).

`Instruction.perform` is the work of an instruction at an address of a program of a given size.
`Instruction.execute` is what comes of it: the registers afterwards, the address to go on at and
what the instruction produced, or a fault alone.
-/

namespace TankDuel

/-- Work on the registers of a machine that a fault may break off. -/
abbrev Work (α : Type) : Type := ExceptT Fault (StateM RegisterFile) α

/-- What an instruction gives the machine besides its work on the registers. -/
structure Onward where
  /-- The address to go on at. -/
  next : Nat
  result : StepResult
deriving DecidableEq

/-- Go on behind the instruction at `pc` after work on the registers. -/
def Onward.working (pc : Nat) : Onward := ⟨pc + 1, .working⟩

/-- The work of an operation that stands at `pc` in a program of `size` instructions. A jump must
not go beyond the end of the program, taken or not. -/
def Operation.perform (pc size : Nat) : Operation → Work Onward
  | assign d s => do
    modify fun regs => regs.write d (s.value regs)
    return .working pc
  | compute f d s => do
    let regs ← get
    match f.apply? (regs.get d) (s.value regs) with
    | some value =>
      set (regs.write d value)
      return .working pc
    | none => throw (.divisionByZero pc)
  | increment d => do
    modify fun regs => regs.write d (regs.get d + 1)
    return .working pc
  | decrement d => do
    modify fun regs => regs.write d (regs.get d - 1)
    return .working pc
  | compare a b => do
    modify fun regs => regs.write .cmp (comparison (a.value regs) (b.value regs))
    return .working pc
  | jump condition target =>
    if size < target then throw (.jumpOutOfRange pc target)
    else do
      let regs ← get
      return ⟨if condition.holds (regs.get .cmp) then target else pc + 1, .working⟩
  | nop => return .working pc
  | act action => return ⟨pc + 1, .ready action⟩
  | halt => return ⟨pc, .ready (.halt .instruction)⟩

/-- The work of an instruction that stands at `pc` in a program of `size` instructions. -/
def Instruction.perform (i : Instruction) (pc size : Nat) : Work Onward :=
  match i.operation? with
  | some op => op.perform pc size
  | none => throw (.badOperands pc i.opcode)

/-- What an executed instruction leaves behind. -/
structure Executed where
  registers : RegisterFile
  /-- The address to go on at. -/
  next : Nat
  result : StepResult
deriving DecidableEq

/-- What comes of work on some registers. What a fault has made of them is not told. -/
def Work.outcome (work : Work Onward) (regs : RegisterFile) : Except Fault Executed :=
  match work.run regs with
  | (.ok onward, regs) => .ok ⟨regs, onward.next, onward.result⟩
  | (.error fault, _) => .error fault

/-- Execute an instruction that stands at `pc` in a program of `size` instructions. -/
def Instruction.execute (i : Instruction) (regs : RegisterFile) (pc size : Nat) :
    Except Fault Executed :=
  (i.perform pc size).outcome regs

end TankDuel

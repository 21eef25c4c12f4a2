import TankDuel.Machine.Execute
import TankDuel.Machine.Program

/-!
# The machine of a tank

A `Cpu` executes its program one instruction at a time. When a step makes the tank ready, the
action is **latched**: it stays in the pending slot, and further steps only show it again, until
`clearPending` opens the next turn.

Before anything is executed a step looks, in this order, whether an action is pending, whether the
`HP` register says that the tank is destroyed, whether the machine has halted, and whether the
budget of operations for the turn is used up. A halted machine never runs again.
-/

namespace TankDuel

/-- What the sensor registers show. -/
structure Sensors where
  x : Int32
  y : Int32
  /-- The number of the compass direction that the tank faces. -/
  facing : Int32
  hp : Int32
  /-- Whether the tank has no bullet in flight. -/
  ammo : Bool
deriving DecidableEq

/-- The state of a machine. -/
structure Cpu where
  registers : RegisterFile
  program : Program
  /-- The action that waits for the turn to be resolved. -/
  pending : Option Action
  halted : Option HaltReason
  /-- How many operations may be done in one turn; at least one. -/
  opLimit : Nat
  opsThisTurn : Nat
  /-- How many instructions have been executed, faulty ones included. -/
  executed : Nat
deriving DecidableEq

namespace Cpu

/-- The budget of a machine for which none is set. -/
def defaultOpLimit : Nat := 4294967295

/-- A machine at the start of its program. -/
def start (program : Program) (opLimit : Nat) : Cpu where
  registers := .zero
  program := program
  pending := none
  halted := none
  opLimit := max opLimit 1
  opsThisTurn := 0
  executed := 0

/-- Show the tank's state in the sensor registers. -/
def sense (c : Cpu) (s : Sensors) : Cpu :=
  { c with
    registers := ((((c.registers.write .px s.x).write .py s.y).write .dir s.facing).write
      .hp s.hp).write .ammo (if s.ammo then 1 else 0) }

/-- Keep an action in the pending slot. -/
def latch (c : Cpu) (action : Action) : StepResult × Cpu :=
  (.ready action, { c with pending := some action })

/-- Halt and keep the reason in the pending slot. -/
def stop (c : Cpu) (reason : HaltReason) : StepResult × Cpu :=
  { c with halted := some reason }.latch (.halt reason)

/-- Go on after an instruction has done its work on the registers. -/
def retire (c : Cpu) (onward : Onward) : StepResult × Cpu :=
  let c := { c with registers := c.registers.setPc onward.next }
  match onward.result with
  | .working => (.working, { c with opsThisTurn := c.opsThisTurn + 1 })
  | .ready (.halt reason) => c.stop reason
  | .ready action => c.latch action

/-- Execute the instruction that the program counter points at. It works on the registers in place,
so a faulty instruction leaves them as it has made them. -/
def dispatch (c : Cpu) (i : Instruction) : StepResult × Cpu :=
  -- A faulty instruction counts as executed too.
  let counted := { c with executed := c.executed + 1 }
  match (i.perform c.registers.pc c.program.size).run c.registers with
  | (.ok onward, registers) => { counted with registers }.retire onward
  | (.error fault, registers) => { counted with registers }.stop (.fault fault)

/-- Do one step of a machine that has no action pending. -/
def advance (c : Cpu) : StepResult × Cpu :=
  if c.registers.get .hp ≤ 0 then c.latch .dead
  else
    match c.halted with
    | some reason => c.latch (.halt reason)
    | none =>
      if c.opLimit ≤ c.opsThisTurn then c.latch (.wait .opLimit)
      else
        match c.program.fetch? c.registers.pc with
        | some i => c.dispatch i
        | none => c.stop .endOfProgram

/-- Do one step. -/
def step (c : Cpu) : StepResult × Cpu :=
  match c.pending with
  | some action => (.ready action, c)
  | none => c.advance

/-- Open the next turn. -/
def clearPending (c : Cpu) : Cpu := { c with pending := none, opsThisTurn := 0 }

/-- Write a register from outside; `PC` cannot be written. -/
def setRegister (c : Cpu) (r : Register) (value : Int32) : Cpu :=
  { c with registers := c.registers.write r value }

/-- The address of the next instruction. -/
def pc (c : Cpu) : Nat := c.registers.pc

/-- How many operations are left in this turn. -/
def budgetLeft (c : Cpu) : Nat := c.opLimit - c.opsThisTurn

end Cpu

end TankDuel

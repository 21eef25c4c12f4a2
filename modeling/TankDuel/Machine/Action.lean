import TankDuel.Machine.Operand

/-!
# What a step of the machine produces

A step either does some work and lets the turn go on, or makes the tank **ready** with an action.
The action then waits for the turn to be resolved. A machine that has halted is ready with the
reason why it halted in every turn that follows.
-/

namespace TankDuel

/-- Why an instruction could not be executed, and its address. -/
inductive Fault where
  /-- The operands do not match the signature of the opcode. -/
  | badOperands (pc : Nat) (opcode : Opcode)
  | divisionByZero (pc : Nat)
  /-- The target of a jump lies beyond the end of the program. -/
  | jumpOutOfRange (pc target : Nat)
deriving DecidableEq

/-- The wording of a fault. -/
def Fault.message : Fault → String
  | badOperands pc opcode => s!"malformed operands for {opcode.mnemonic} at {pc}"
  | divisionByZero pc => s!"division by zero at {pc}"
  | jumpOutOfRange pc target => s!"jump from {pc} to out-of-range address {target}"

/-- Why a machine has halted. -/
inductive HaltReason where
  /-- It executed `HALT`. -/
  | instruction
  /-- There was no instruction at the program counter. -/
  | endOfProgram
  | fault (f : Fault)
deriving DecidableEq

/-- The wording of a halt reason. -/
def HaltReason.text : HaltReason → String
  | instruction => "halted"
  | endOfProgram => "end of program"
  | fault f => "fault: " ++ f.message

/-- Why a tank waits. -/
inductive WaitReason where
  /-- It executed `WAIT`. -/
  | requested
  /-- It has used up its budget of operations for the turn. -/
  | opLimit
deriving DecidableEq

/-- The wording of a wait reason. -/
def WaitReason.text : WaitReason → String
  | requested => "wait"
  | opLimit => "op limit"

/-- What a tank does in a turn. -/
inductive Action where
  | move (heading : Heading)
  | rotate (rotation : Rotation)
  | fire
  /-- Look along the facing: distance and kind of the first obstacle go into two registers. -/
  | scan (distance kind : Register)
  /-- Locate the opponent: its coordinates go into two registers. -/
  | ping (x y : Register)
  | wait (reason : WaitReason)
  | halt (reason : HaltReason)
  /-- The machine is told that its tank has no hit points left. -/
  | dead
deriving DecidableEq

/-- What a step produces. -/
inductive StepResult where
  /-- An operation was done and the turn goes on. -/
  | working
  /-- The tank is ready for the turn to be resolved. -/
  | ready (action : Action)
deriving DecidableEq

/-- Whether a step ends the tank's turn. -/
def StepResult.endsTurn : StepResult → Bool
  | working => false
  | ready _ => true

/-- The reason an action gives for halting, if it halts. -/
def Action.haltReason? : Action → Option HaltReason
  | halt reason => some reason
  | _ => none

end TankDuel

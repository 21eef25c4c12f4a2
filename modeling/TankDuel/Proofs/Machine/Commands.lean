import TankDuel.Proofs.Machine.Step

/-!
# What can be done to a machine

From outside a machine is made to step, is shown the sensors, has a register written and is taken
on to the next turn. A `Cpu.Command` is one of these, and `Cpu.after` says where a list of them
leads. A property that every command keeps holds behind every list (`Cpu.after_invariant`).

The program is never exchanged (`Cpu.program_after`).
-/

namespace TankDuel.Cpu

/-- Something that is done to a machine. -/
inductive Command where
  | step
  | sense (s : Sensors)
  | setRegister (r : Register) (value : Int32)
  | clearPending

/-- Carry out a command. -/
def obey (c : Cpu) : Command → Cpu
  | .step => c.step.2
  | .sense s => c.sense s
  | .setRegister r value => c.setRegister r value
  | .clearPending => c.clearPending

/-- Carry out commands in order. -/
def after (c : Cpu) (commands : List Command) : Cpu := commands.foldl obey c

variable {c c' : Cpu} {result : StepResult}

/-- What every command keeps holds behind all of them. -/
theorem after_invariant {P : Cpu → Prop} (keeps : ∀ c command, P c → P (c.obey command))
    (start : P c) (commands : List Command) : P (c.after commands) := by
  induction commands generalizing c with
  | nil => exact start
  | cons command commands ih => exact ih (keeps c command start)

/-- A step leaves the program as it is. -/
theorem Stepped.program_eq (h : Stepped c result c') : c'.program = c.program := by
  cases h <;> rfl

/-- A command leaves the program as it is. -/
theorem program_obey (c : Cpu) (command : Command) : (c.obey command).program = c.program := by
  cases command with
  | step => exact c.stepped.program_eq
  | sense | setRegister | clearPending => rfl

/-- All commands leave the program as it is. -/
theorem program_after (c : Cpu) (commands : List Command) :
    (c.after commands).program = c.program :=
  after_invariant (P := fun c' => c'.program = c.program)
    (fun c' command same => (program_obey c' command).trans same) rfl commands

end TankDuel.Cpu

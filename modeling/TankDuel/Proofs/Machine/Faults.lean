import TankDuel.Proofs.Assembly.WellFormed
import TankDuel.Proofs.Machine.Commands
import TankDuel.Proofs.Machine.Execution

/-!
# Which faults can happen

There are three faults, and each has its reason in the instruction (`Instruction.Fails`): operands
that do not match the signature, a division, or an address beyond the end of the program. In a
well-formed program only the second is left.

A machine remembers a fault in which it has halted. `Cpu.FaultsByDividing` says that the program
divides at the address of that fault. A step keeps this (`Cpu.FaultsByDividing.step`), as nothing
but an instruction that fails makes a machine note a fault, and nothing else that is done to a
machine touches the note. So `Cpu.divides_of_halted_fault` holds: a program that was read can only
fail by dividing by zero.
-/

namespace TankDuel

namespace Instruction

variable {i : Instruction} {pc size : Nat} {regs : RegisterFile}

/-- **Why an instruction is faulty.** -/
inductive Fails (i : Instruction) (pc size : Nat) : Fault → Prop
  | badOperands : ¬Slot.Admit i.opcode.signature i.operands →
    Fails i pc size (.badOperands pc i.opcode)
  | divisionByZero : i.Divides → Fails i pc size (.divisionByZero pc)
  | jumpOutOfRange {target : Nat} : i.operands = [.address target] → size < target →
    Fails i pc size (.jumpOutOfRange pc target)

/-- A fault has its reason in the instruction. -/
private theorem fails_of_execute {fault : Fault} (h : i.execute regs pc size = .error fault) :
    i.Fails pc size fault := by
  cases execute_eq_error_iff.mp h with
  | badOperands bad => exact .badOperands bad
  | divisionByZero _ zero => exact .divisionByZero zero.1
  | jumpOutOfRange _ jumps beyond => exact .jumpOutOfRange jumps.2 beyond

/-- What an instruction does to end the turn is no halt, unless it is the halt itself. -/
private theorem haltReason?_of_execute {done : Executed} {action : Action}
    (h : i.execute regs pc size = .ok done) (ends : done.result = .ready action) :
    action = .halt .instruction ∨ action.haltReason? = none := by
  cases ordered_of_execute h ends with
  | halt => exact .inl rfl
  | move | rotate | fire | scan | ping | wait => exact .inr rfl

end Instruction

/-! ### Machines in motion -/

/-- In a well-formed program an instruction fails only when it divides. -/
theorem Program.WellFormed.divides_of_fails {p : Program} (wellFormed : p.WellFormed)
    {i : Instruction} {pc : Nat} {fault : Fault} (fetched : p.fetch? pc = some i)
    (fails : i.Fails pc p.size fault) : fault = .divisionByZero pc ∧ i.Divides := by
  have listed : i ∈ p.instructions := List.mem_of_getElem? fetched
  cases fails with
  | divisionByZero divides => exact ⟨rfl, divides⟩
  | badOperands misfit => exact absurd (wellFormed.operands i listed) misfit
  | jumpOutOfRange written beyond =>
    have inside := wellFormed.inside i listed _ (written ▸ List.mem_singleton_self _)
    exact absurd beyond (Nat.not_lt.mpr inside)

namespace Cpu

variable {c c' : Cpu} {result : StepResult}

/-- If the machine has met a fault, it was a division by zero where the program divides. -/
def FaultsByDividing (c : Cpu) : Prop :=
  ∀ fault, c.halted = some (.fault fault) →
    ∃ pc i, fault = .divisionByZero pc ∧ c.program.fetch? pc = some i ∧ i.Divides

/-- **A step of a well-formed program** halts at no other fault than a division. -/
theorem FaultsByDividing.step (wellFormed : c.program.WellFormed) (h : c.FaultsByDividing)
    (stepped : Stepped c result c') : c'.FaultsByDividing := by
  cases stepped with
  | shown | dead | halted | spent | worked => exact h
  | ended =>
    -- Coming to the end of the program is no fault.
    rintro _ ⟨⟩
  | @faulted i fault runs executed =>
    rintro _ ⟨⟩
    obtain ⟨zero, divides⟩ :=
      wellFormed.divides_of_fails runs.fetched (Instruction.fails_of_execute executed)
    exact ⟨_, i, zero, runs.fetched, divides⟩
  | @acted i done action _ executed ends =>
    intro fault halted
    have halted : action.haltReason? = some (.fault fault) := halted
    -- An action either does not halt or is the halt that the program asks for.
    rcases Instruction.haltReason?_of_execute executed ends with rfl | keeps
    · exact absurd halted nofun
    · rw [keeps] at halted
      exact absurd halted nofun

/-- Nor does any command. -/
theorem FaultsByDividing.obey (wellFormed : c.program.WellFormed) (h : c.FaultsByDividing)
    (command : Command) : (c.obey command).FaultsByDividing := by
  cases command with
  | step => exact h.step wellFormed c.stepped
  | sense | setRegister | clearPending => exact h

/-- Nor do all commands. -/
theorem FaultsByDividing.after (wellFormed : c.program.WellFormed) (h : c.FaultsByDividing)
    (commands : List Command) : (c.after commands).FaultsByDividing := by
  have both : (c.after commands).program.WellFormed ∧ (c.after commands).FaultsByDividing := by
    refine after_invariant (P := fun c => c.program.WellFormed ∧ c.FaultsByDividing) ?_
      ⟨wellFormed, h⟩ commands
    rintro c command ⟨wellFormed, h⟩
    -- The program stays the same, so it stays well-formed.
    rw [program_obey]
    exact ⟨wellFormed, h.obey wellFormed command⟩
  exact both.2

/-- **A program that was read can only fail by dividing by zero**, whatever is done to its
machine. -/
theorem divides_of_halted_fault {p : Program}
    (accepted : (∃ source, Assembly.compile source = .ok p) ∨
      ∃ tokens, Assembly.parse tokens = .ok p)
    (opLimit : Nat) (commands : List Command) {fault : Fault}
    (halted : ((start p opLimit).after commands).halted = some (.fault fault)) :
    ∃ pc i, fault = .divisionByZero pc ∧ p.fetch? pc = some i ∧ i.Divides := by
  have wellFormed : p.WellFormed := by
    rcases accepted with ⟨source, compiled⟩ | ⟨tokens, parsed⟩
    · exact Assembly.wellFormed_of_parse compiled
    · exact Assembly.wellFormed_of_parse parsed
  have notYet : (start p opLimit).FaultsByDividing := fun _ running => absurd running nofun
  obtain ⟨pc, i, zero, fetched, divides⟩ := notYet.after wellFormed commands fault halted
  rw [program_after] at fetched
  exact ⟨pc, i, zero, fetched, divides⟩

/-- A program that fails at once. -/
def divideByZero : Program := ⟨[⟨.div, [.register .acc, .number 0], 1⟩], .empty⟩

/-- A program that divides by zero at once. -/
theorem divides_of_halted_fault_divideByZero :
    Assembly.compile "DIV ACC, 0" = .ok divideByZero ∧
      ((start divideByZero 10).after [.sense ⟨1, 1, 0, 3, true⟩, .step]).halted =
        some (.fault (.divisionByZero 0)) ∧
      ∃ pc i, Fault.divisionByZero 0 = .divisionByZero pc ∧ divideByZero.fetch? pc = some i ∧
        i.Divides := by
  have compiled : Assembly.compile "DIV ACC, 0" = .ok divideByZero := by
    have read : (Assembly.compile "DIV ACC, 0").toOption = some divideByZero := by decide +kernel
    generalize Assembly.compile "DIV ACC, 0" = result at read
    cases result with
    | ok p => exact congrArg Except.ok (Option.some.inj read)
    | error e => exact absurd read (by simp [Except.toOption])
  have halted : ((start divideByZero 10).after [.sense ⟨1, 1, 0, 3, true⟩, .step]).halted =
      some (.fault (.divisionByZero 0)) := by decide +kernel
  exact ⟨compiled, halted, divides_of_halted_fault (.inl ⟨_, compiled⟩) 10 _ halted⟩

end Cpu

end TankDuel

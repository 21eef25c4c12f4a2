import Mathlib.Algebra.Group.Nat.Defs
import TankDuel.Proofs.Machine.Execution
import TankDuel.Proofs.Machine.Lifecycle

/-!
# Where the program counter is

The program counter is a register. It holds a word, and an address too large for a word would be
stored as the largest one. In a program of less than `2 ^ 31` instructions this never happens,
whatever the instructions are and whatever is done to the machine (`Cpu.pc_safe`).

* **Going on.** An instruction that is executed goes on behind itself, at the target of its jump,
  or, if it is `HALT`, where it is (`Instruction.GoesOnAt`). A jump beyond the end is a fault, so
  none of these lies beyond the end (`Instruction.GoesOnAt.le`).
* `Cpu.PointsInto` — the invariant: the word is not negative and the address not beyond the end.
  Steps keep it, and from outside nobody writes `PC` (`Cpu.get_pc_obey`).
* `Cpu.HaltsFor` — what is true of a machine that is about to halt for some reason. Each reason is
  found in one way of stepping only (`Cpu.Stepped.haltsFor`).

A machine that has halted did so in some step (`Cpu.exists_halting_step`), in which the program
counter stayed, and behind this step it is at rest. So what was true at the step is still to be read
off the machine: it stands behind the program, at a `HALT`, or at the instruction that was faulty.
-/

namespace TankDuel

/-- The address that a fault has recorded. -/
def Fault.address : Fault → Nat
  | badOperands pc _ => pc
  | divisionByZero pc => pc
  | jumpOutOfRange pc _ => pc

/-! ### Where an instruction goes on -/

/-- An instruction at `pc`, in a program of some size, can go on at an address. -/
inductive Instruction.GoesOnAt (i : Instruction) (pc size : Nat) : Nat → Prop
  | behind : GoesOnAt i pc size (pc + 1)
  | target {target : Nat} : i.JumpsTo target → target ≤ size → GoesOnAt i pc size target
  | here : i.opcode = .halt → GoesOnAt i pc size pc

namespace Operation

variable {i : Instruction} {op : Operation} {regs : RegisterFile} {pc size : Nat} {done : Executed}

/-- An operation goes on where its instruction says. -/
private theorem run_goesOnAt (spelled : op.Spelled i.opcode i.operands)
    (h : op.run pc size regs = .ok done) : i.GoesOnAt pc size done.next := by
  obtain ⟨opcode, operands, line⟩ := i
  cases spelled with
  | assign | increment | decrement | compare | nop | move | rotate | fire | scan | ping | wait =>
    obtain rfl := Except.ok.inj h
    exact .behind
  | compute =>
    rw [run_compute] at h
    split at h
    · obtain rfl := Except.ok.inj h
      exact .behind
    · cases h
  | @jump condition _ target same =>
    rw [run_jump] at h
    split at h
    next => cases h
    next inside =>
      obtain rfl := Except.ok.inj h
      -- The address is checked whether or not the jump is taken.
      have jumps := (jumpsTo_iff (i := ⟨opcode, [.address target], line⟩) same rfl).mpr rfl
      dsimp only
      split
      · exact .target jumps (Nat.not_lt.mp inside)
      · exact .behind
  | halt =>
    obtain rfl := Except.ok.inj h
    exact .here rfl

/-- Only a `HALT` halts, and it stays where it is. -/
private theorem eq_of_run_halt {reason : HaltReason} (spelled : op.Spelled i.opcode i.operands)
    (h : op.run pc size regs = .ok done) (halts : done.result = .ready (.halt reason)) :
    reason = .instruction ∧ i.opcode = .halt ∧ done.next = pc := by
  obtain ⟨opcode, operands, line⟩ := i
  rcases eq_of_run_ready h halts with rfl | ⟨rfl, same⟩
  · -- There is no way to spell a halt as an action of the tank.
    cases spelled
  · cases spelled
    obtain rfl := Except.ok.inj h
    exact ⟨Action.halt.inj same, rfl, rfl⟩

end Operation

namespace Instruction

variable {i : Instruction} {regs : RegisterFile} {pc size next : Nat} {done : Executed}

/-- An instruction goes on where it says. -/
private theorem goesOnAt_of_execute (h : i.execute regs pc size = .ok done) :
    i.GoesOnAt pc size done.next := by
  obtain ⟨op, spelled, runs⟩ := i.exists_spelled (matches_of_execute h) regs pc size
  exact Operation.run_goesOnAt spelled (runs ▸ h)

/-- The one instruction that halts stays where it is. -/
private theorem eq_of_execute_halt {reason : HaltReason} (h : i.execute regs pc size = .ok done)
    (halts : done.result = .ready (.halt reason)) :
    reason = .instruction ∧ i.opcode = .halt ∧ done.next = pc := by
  obtain ⟨op, spelled, runs⟩ := i.exists_spelled (matches_of_execute h) regs pc size
  exact Operation.eq_of_run_halt spelled (runs ▸ h) halts

/-- From inside the program nothing goes on beyond its end. -/
theorem GoesOnAt.le (h : i.GoesOnAt pc size next) (inside : pc < size) : next ≤ size := by
  cases h with
  | behind => exact inside
  | target _ le => exact le
  | here => exact Nat.le_of_lt inside

/-- A fault is reported for the address at which it is met. -/
private theorem address_eq_of_execute {fault : Fault} (h : i.execute regs pc size = .error fault) :
    fault.address = pc := by
  cases execute_eq_error_iff.mp h with
  | badOperands | divisionByZero | jumpOutOfRange => rfl

end Instruction

/-- An address that a word can hold is stored as it is. -/
theorem RegisterFile.pc_setPc_of_lt (regs : RegisterFile) {address : Nat}
    (small : address < 2 ^ 31) :
    (regs.setPc address).pc = address ∧ 0 ≤ ((regs.setPc address).get .pc).toInt := by
  have least : min address 2147483647 = address := Nat.min_eq_left (by omega)
  refine ⟨(pc_setPc ..).trans least, ?_⟩
  rw [setPc, get_store, if_pos rfl, least, Int32.toInt_ofNat_of_lt small]
  exact Int.natCast_nonneg address

namespace Cpu

variable {c c' : Cpu} {result : StepResult} {reason : HaltReason} {p : Program}

/-! ### The invariant -/

/-- The machine runs a program, and its program counter points into it or right behind it. -/
structure PointsInto (p : Program) (c : Cpu) : Prop where
  program : c.program = p
  nonneg : 0 ≤ (c.registers.get .pc).toInt
  le : c.pc ≤ p.size

/-- The step executes an instruction and goes on where that leads. -/
def GoesOn (c c' : Cpu) : Prop :=
  ∃ i done, c.Runs i ∧ i.execute c.registers c.pc c.program.size = .ok done ∧
    i.GoesOnAt c.pc c.program.size c'.pc ∧ 0 ≤ (c'.registers.get .pc).toInt

/-- **The program counter stays, unless an instruction is executed.** -/
theorem Stepped.goesOn (h : Stepped c result c') (small : c.program.size < 2 ^ 31) :
    c'.registers.get .pc = c.registers.get .pc ∨ c.GoesOn c' := by
  cases h with
  | shown | dead | halted | spent | ended | faulted => exact .inl rfl
  | @worked i done runs executed | @acted i done _ runs executed =>
    have goes := Instruction.goesOnAt_of_execute executed
    have inRange : done.next < 2 ^ 31 := Nat.lt_of_le_of_lt (goes.le runs.pc_lt) small
    obtain ⟨same, nonneg⟩ := done.registers.pc_setPc_of_lt inRange
    refine .inr ⟨i, done, runs, executed, ?_, nonneg⟩
    change i.GoesOnAt c.pc c.program.size (done.registers.setPc done.next).pc
    rw [same]
    exact goes

/-- Any command leaves the program counter in the program. -/
theorem PointsInto.obey (small : p.size < 2 ^ 31) (h : PointsInto p c) (command : Command) :
    PointsInto p (c.obey command) := by
  obtain ⟨rfl, nonneg, le⟩ := h
  have stays (same : (c.obey command).registers.get .pc = c.registers.get .pc) :
      PointsInto c.program (c.obey command) :=
    { program := program_obey c command
      nonneg := by rwa [same]
      le := by rwa [pc_eq_of_get_eq same] }
  cases command with
  | step =>
    rcases c.stepped.goesOn small with same | ⟨i, _, runs, _, goes, nonneg'⟩
    · exact stays same
    · exact ⟨program_obey c .step, nonneg', goes.le runs.pc_lt⟩
  | sense | setRegister | clearPending => exact stays (get_pc_obey nofun)

/-- All commands leave the program counter in the program. -/
theorem PointsInto.after (small : p.size < 2 ^ 31) (h : PointsInto p c) (commands : List Command) :
    PointsInto p (c.after commands) :=
  after_invariant (fun _ command points => points.obey small command) h commands

/-- The program counter starts in the program. -/
private theorem pointsInto_start (p : Program) (opLimit : Nat) : PointsInto p (start p opLimit) :=
  ⟨rfl, Int.le_refl 0, Nat.zero_le _⟩

/-- **What moves the program counter** is a step that executes an instruction, and it moves to the
next address or to the target of a jump. -/
theorem PointsInto.exists_of_moves (h : PointsInto p c) (small : p.size < 2 ^ 31)
    {command : Command} (moves : (c.obey command).pc ≠ c.pc) :
    command = .step ∧ ∃ i done, c.Runs i ∧ i.execute c.registers c.pc p.size = .ok done ∧
      (c.step.2.pc = c.pc + 1 ∨ i.JumpsTo c.step.2.pc) := by
  obtain ⟨rfl, -, -⟩ := h
  have steps : command = .step := by
    by_contra outside
    exact moves (pc_obey outside)
  obtain rfl := steps
  rcases c.stepped.goesOn small with stays | ⟨i, done, runs, executed, goes, -⟩
  · exact absurd (pc_eq_of_get_eq stays) moves
  · refine ⟨rfl, i, done, runs, executed, ?_⟩
    generalize next : c.step.2.pc = address at goes
    cases goes with
    | behind => exact .inl rfl
    | target jumps => exact .inr jumps
    | here => exact absurd next moves

/-! ### Halting -/

/-- What is true of a machine with some program that is about to halt. -/
inductive HaltsFor (p : Program) (c : Cpu) : HaltReason → Prop
  | instruction {i : Instruction} : p.fetch? c.pc = some i → i.opcode = .halt →
    HaltsFor p c .instruction
  | endOfProgram : c.pc = p.size → HaltsFor p c .endOfProgram
  | fault {i : Instruction} {fault : Fault} : p.fetch? c.pc = some i → c.Runs i →
    i.execute c.registers c.pc p.size = .error fault → HaltsFor p c (.fault fault)

/-- **A machine halts where it has its reason to.** -/
theorem Stepped.haltsFor (h : Stepped c result c') (points : PointsInto p c)
    (small : p.size < 2 ^ 31) (running : c.halted = none) (halted : c'.halted = some reason) :
    HaltsFor p c reason ∧ c'.pc = c.pc := by
  obtain ⟨rfl, -, le⟩ := points
  -- A running machine halts behind its last instruction, at a fault or by an instruction that
  -- halts.
  cases h with
  | shown | dead | spent | worked | halted => exact absurd (running.symm.trans halted) nofun
  | ended _ _ _ _ missing =>
    obtain rfl := Option.some.inj halted
    exact ⟨.endOfProgram (Nat.le_antisymm le (List.getElem?_eq_none_iff.mp missing)), rfl⟩
  | faulted runs faulty =>
    obtain rfl := Option.some.inj halted
    exact ⟨.fault runs.fetched runs faulty, rfl⟩
  | @acted i done action runs executed ends =>
    obtain rfl := Action.eq_halt_of_haltReason? halted
    obtain ⟨rfl, halts, stays⟩ := Instruction.eq_of_execute_halt executed ends
    refine ⟨.instruction runs.fetched halts, ?_⟩
    change (done.registers.setPc done.next).pc = c.pc
    rw [stays]
    exact (done.registers.pc_setPc_of_lt (Nat.lt_of_le_of_lt le small)).1

/-- **Nobody but the machine itself makes it halt**: there is a step in which it halted, and behind
it whatever was done made no difference. -/
theorem exists_halting_step (running : c.halted = none) {commands : List Command}
    (halted : (c.after commands).halted = some reason) :
    ∃ before later, commands = before ++ .step :: later ∧ (c.after before).halted = none ∧
      (c.after before).step.2.halted = some reason ∧
      (c.after commands).pc = (c.after before).step.2.pc := by
  -- The first command behind which the machine has halted was a step.
  induction commands generalizing c with
  | nil => exact absurd (running.symm.trans halted) nofun
  | cons command commands ih =>
    cases now : (c.obey command).halted with
    | none =>
      obtain ⟨before, later, rfl, stillRunning, halts, rests⟩ := ih now halted
      exact ⟨command :: before, later, rfl, stillRunning, halts, rests⟩
    | some reason' =>
      have rests : AtRest reason' (c.obey command).pc (c.obey command).executed
          (c.after (command :: commands)) := AtRest.after ⟨now, rfl, rfl⟩ commands
      obtain rfl : reason' = reason := Option.some.inj (rests.halted.symm.trans halted)
      cases command with
      | step => exact ⟨[], commands, rfl, running, now, rests.pc⟩
      | sense | setRegister | clearPending => exact absurd (running.symm.trans now) nofun

/-- **A machine that has halted is where it had its reason to**, in the step in which it halted. -/
theorem PointsInto.exists_haltsFor (h : PointsInto p c) (small : p.size < 2 ^ 31)
    (running : c.halted = none) {commands : List Command}
    (halted : (c.after commands).halted = some reason) :
    ∃ before later, commands = before ++ .step :: later ∧ HaltsFor p (c.after before) reason ∧
      (c.after commands).pc = (c.after before).pc := by
  obtain ⟨before, later, split, stillRunning, halts, rests⟩ := exists_halting_step running halted
  have stepped := (c.after before).stepped
  obtain ⟨reason, stays⟩ := stepped.haltsFor (h.after small before) small stillRunning halts
  exact ⟨before, later, split, reason, rests.trans stays⟩

/-! ### Safety -/

/-- **The program counter is safe** in a program of less than `2 ^ 31` instructions, well-formed or
not, whatever the budget and whatever has been done to the machine.

It is an address in the program or the one behind it. Whatever is done next, it moves only in a step
that executes the instruction that it points at, and then to the next address or to the target of
the jump; writing `PC` from outside does nothing at all. A machine that came to the end of the
program points behind the last instruction, one that was halted points at a `HALT`, and one that met
a fault points at the address in the fault, at the very instruction that was faulty when the machine
came to it. -/
theorem pc_safe (p : Program) (small : p.size < 2 ^ 31) (opLimit : Nat)
    (commands : List Command) :
    let c := (start p opLimit).after commands
    ((c.registers.get .pc).toInt = c.pc ∧ c.pc ≤ p.size) ∧
    (∀ command, (c.obey command).pc ≠ c.pc → command = .step ∧
      ∃ i done, c.Runs i ∧ i.execute c.registers c.pc p.size = .ok done ∧
        (c.step.2.pc = c.pc + 1 ∨ i.JumpsTo c.step.2.pc)) ∧
    (∀ value, c.setRegister .pc value = c) ∧
    (c.halted = some .endOfProgram → c.pc = p.size) ∧
    (c.halted = some .instruction → ∃ i, p.fetch? c.pc = some i ∧ i.opcode = .halt) ∧
    (∀ fault, c.halted = some (.fault fault) → fault.address = c.pc ∧
      ∃ i, p.fetch? c.pc = some i ∧
        ∃ before later, commands = before ++ .step :: later ∧
          let d := (start p opLimit).after before
          d.Runs i ∧ d.pc = c.pc ∧ i.execute d.registers d.pc p.size = .error fault) := by
  intro c
  have fresh := pointsInto_start p opLimit
  have points : PointsInto p c := fresh.after small commands
  -- Whatever has halted the machine, it did so in one step of its past, and the program counter has
  -- not moved since.
  have haltedFor {reason : HaltReason} (halted : c.halted = some reason) :=
    fresh.exists_haltsFor small rfl halted
  refine ⟨⟨(Int.toNat_of_nonneg points.nonneg).symm, points.le⟩,
    fun command => points.exists_of_moves small, fun value => rfl, fun halted => ?_,
    fun halted => ?_, fun fault halted => ?_⟩
  · obtain ⟨before, later, -, reason, stays⟩ := haltedFor halted
    cases reason with
    | endOfProgram behind => exact stays.trans behind
  · obtain ⟨before, later, -, reason, stays⟩ := haltedFor halted
    cases reason with
    | @instruction i fetched halts => exact ⟨i, stays ▸ fetched, halts⟩
  · obtain ⟨before, later, split, reason, stays⟩ := haltedFor halted
    cases reason with
    | @fault i _ fetched runs faulty =>
      have recorded : fault.address = c.pc :=
        (Instruction.address_eq_of_execute faulty).trans stays.symm
      exact ⟨recorded, i, stays ▸ fetched, before, later, split, runs, stays.symm, faulty⟩

/-- A program that no source is read as: its second jump goes far beyond the end. -/
def jumpAway : Program := ⟨[⟨.jmp, [.address 1], 1⟩, ⟨.jmp, [.address 7], 2⟩], .empty⟩

/-- The first jump is executed although `PC` has been written from outside. The second one is a
fault, and the machine stays at it through the next turn. -/
theorem pc_safe_jumpAway :
    let shown : List Command := [.sense ⟨1, 1, 0, 3, true⟩, .setRegister .pc 5]
    let first := (start jumpAway 10).after shown
    let commands := shown ++ [.step, .step, .clearPending, .step]
    let c := (start jumpAway 10).after commands
    jumpAway.size < 2 ^ 31 ∧ (first.obey .step).pc ≠ first.pc ∧
      (∃ i, first.Runs i ∧ (first.step.2.pc = first.pc + 1 ∨ i.JumpsTo first.step.2.pc)) ∧
      c.halted = some (.fault (.jumpOutOfRange 1 7)) ∧ c.pc = 1 ∧
      ∃ i, jumpAway.fetch? c.pc = some i ∧
        ∃ before later, commands = before ++ .step :: later ∧
          let d := (start jumpAway 10).after before
          d.Runs i ∧ d.pc = c.pc ∧
            i.execute d.registers d.pc jumpAway.size = .error (.jumpOutOfRange 1 7) := by
  intro shown first commands c
  have small : jumpAway.size < 2 ^ 31 := by decide
  have moves : (first.obey .step).pc ≠ first.pc := by decide +kernel
  have halted : c.halted = some (.fault (.jumpOutOfRange 1 7)) := by decide +kernel
  obtain ⟨-, goes, -⟩ := pc_safe jumpAway small 10 shown
  obtain ⟨-, i, -, runs, -, next⟩ := goes .step moves
  obtain ⟨-, -, -, -, -, faulted⟩ := pc_safe jumpAway small 10 commands
  obtain ⟨address, faulty⟩ := faulted _ halted
  exact ⟨small, moves, ⟨i, runs, next⟩, halted, address.symm, faulty⟩

end Cpu

end TankDuel

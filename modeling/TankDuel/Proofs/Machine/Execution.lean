import TankDuel.Proofs.Machine.Operation
import TankDuel.Proofs.Machine.Step

/-!
# What executing an instruction does

An instruction is executed as a whole or not at all, whatever its operands are
(`Instruction.executes_exactly`).

* **Faults.** `Instruction.Meets` says which fault an instruction meets: the operands are checked
  first, then the divisor, and the address of a jump whether or not the jump would be taken. It
  says so in terms of the signature, and of what is written in the operands, while
  `Instruction.execute` goes by the operation that the instruction stands for. That the two agree
  is `Instruction.execute_eq_error_iff`. Where no fault is met, the instruction is executed.
* **Effects.** An instruction that is executed writes the register that it names as its
  destination, or `CMP` if it compares, or nothing (`Instruction.written?`,
  `Instruction.execute_writes`). So the program counter is left to the machine.
* **Atomicity.** The work is done in place, and a fault breaks it off. By then nothing has been
  written (`Instruction.perform_atomic`), so a machine keeps its registers.
* **The end of the turn.** The opcode says whether the turn ends, and what ends it is an action that
  a program can order (`Instruction.ordered_of_execute`).

All of this is shown once for each way in which an operation can be spelled (`Operation.Spelled`),
so that a new opcode comes to one more case in each lemma about `Operation.run`.
-/

namespace TankDuel

/-- The value that is read from an operand, if it can be read. -/
def Operand.value? (regs : RegisterFile) : Operand → Option Int32
  | register r => some (regs.get r)
  | number value => some value
  | address _ | heading _ | rotation _ => none

/-- The value of a source is read off its operand. -/
theorem Source.value?_operand (s : Source) (regs : RegisterFile) :
    s.operand.value? regs = some (s.value regs) := by
  cases s <;> rfl

/-- What can be read is a source. -/
theorem Operand.value?_eq_some_iff {o : Operand} {regs : RegisterFile} {value : Int32} :
    o.value? regs = some value ↔ ∃ s : Source, o = s.operand ∧ s.value regs = value := by
  constructor
  · intro h
    cases o with
    | register r => exact ⟨.register r, rfl, Option.some.inj h⟩
    | number n => exact ⟨.number n, rfl, Option.some.inj h⟩
    | address | heading | rotation => exact absurd h nofun
  · rintro ⟨s, rfl, rfl⟩
    exact s.value?_operand regs

/-- A result is missing only if a division is asked for and the divisor is zero. -/
theorem Arithmetic.apply?_eq_none_iff {f : Arithmetic} {a b : Int32} :
    f.apply? a b = none ↔ (f = .div ∨ f = .mod) ∧ b = 0 := by
  cases f <;> unfold Arithmetic.apply? <;> simp

namespace Instruction

variable {i : Instruction} {regs : RegisterFile} {pc size : Nat} {done : Executed} {fault : Fault}

/-! ### The rules -/

/-- The operands are one by one what the signature of the opcode asks for. -/
def Matches (i : Instruction) : Prop := Slot.Admit i.opcode.signature i.operands

/-- The instruction divides, and its divisor is zero. -/
def DividesByZero (i : Instruction) (regs : RegisterFile) : Prop :=
  i.Divides ∧ ∃ divisor, i.operands[1]? = some divisor ∧ divisor.value? regs = some 0

/-- The instruction jumps to an address, always or under a condition. -/
def JumpsTo (i : Instruction) (target : Nat) : Prop :=
  i.opcode ∈ [.jmp, .je, .jne, .jg, .jl, .jge, .jle] ∧ i.operands = [.address target]

/-- **Which fault an instruction meets** at `pc` in a program of `size` instructions. -/
inductive Meets (i : Instruction) (regs : RegisterFile) (pc size : Nat) : Fault → Prop
  | badOperands : ¬i.Matches → Meets i regs pc size (.badOperands pc i.opcode)
  | divisionByZero : i.Matches → i.DividesByZero regs → Meets i regs pc size (.divisionByZero pc)
  /-- Whether the jump would be taken makes no difference. -/
  | jumpOutOfRange {target : Nat} : i.Matches → i.JumpsTo target → size < target →
    Meets i regs pc size (.jumpOutOfRange pc target)

/-- The one register that an instruction may write. Jumps, the tank's actions, `NOP` and `HALT`
write none; the registers of a scan or a ping are written when the turn is resolved. -/
def written? (i : Instruction) : Option Register :=
  match i.opcode with
  | .mov | .add | .sub | .mul | .div | .mod | .inc | .dec =>
    match i.operands with
    | .register destination :: _ => some destination
    | _ => none
  | .cmp => some .cmp
  | .jmp | .je | .jne | .jg | .jl | .jge | .jle | .nop | .halt => none
  | .move | .rotate | .fire | .scan | .ping | .wait => none

end Instruction

/-- What a program can order its tank to do. It cannot have the tank wait for want of a budget, halt
for any reason but its own wish, or be destroyed. -/
inductive Action.Ordered : Action → Prop
  | move (h : Heading) : Ordered (.move h)
  | rotate (r : Rotation) : Ordered (.rotate r)
  | fire : Ordered .fire
  | scan (d k : Register) : Ordered (.scan d k)
  | ping (x y : Register) : Ordered (.ping x y)
  | wait : Ordered (.wait .requested)
  | halt : Ordered (.halt .instruction)

/-- The registers that the answer to an action goes to. -/
def Action.asked : Action → List Register
  | scan distance kind => [distance, kind]
  | ping x y => [x, y]
  | move _ | rotate _ | fire | wait _ | halt _ | dead => []

/-! ### Operations as they are spelled -/

namespace Operation

variable {i : Instruction} {op : Operation} {regs : RegisterFile} {pc size : Nat}
  {done : Executed} {fault : Fault}

/-- Of the arithmetic instructions two divide. -/
private theorem divides_iff {f : Arithmetic} (same : i.opcode = f.opcode) :
    i.Divides ↔ f = .div ∨ f = .mod := by
  rw [Instruction.Divides, same]
  cases f <;> simp [Arithmetic.opcode]

/-- A jump goes to its target, taken or not. -/
theorem jumpsTo_iff {condition : Condition} {target t : Nat} (same : i.opcode = condition.opcode)
    (written : i.operands = [.address target]) : i.JumpsTo t ↔ t = target := by
  rw [Instruction.JumpsTo, same, written]
  cases condition <;> simp [Condition.opcode, eq_comm]

/-- No jump divides. -/
private theorem not_divides {condition : Condition} (same : i.opcode = condition.opcode) :
    ¬i.Divides := by
  rw [Instruction.Divides, same]
  cases condition <;> simp [Condition.opcode]

/-- No arithmetic instruction jumps. -/
private theorem not_jumpsTo {f : Arithmetic} {t : Nat} (same : i.opcode = f.opcode) :
    ¬i.JumpsTo t := by
  rw [Instruction.JumpsTo, same]
  cases f <;> simp [Arithmetic.opcode]

/-- The divisor that is written is the value that is computed with. -/
private theorem dividesByZero_iff {f : Arithmetic} {d : Register} {s : Source}
    (same : i.opcode = f.opcode) (written : i.operands = [.register d, s.operand]) :
    i.DividesByZero regs ↔ f.apply? (regs.get d) (s.value regs) = none := by
  rw [Arithmetic.apply?_eq_none_iff, ← divides_iff same, Instruction.DividesByZero, written]
  simp [Source.value?_operand]

/-- An arithmetic instruction writes its destination. -/
private theorem written?_eq_some {f : Arithmetic} {d : Register} {s : Source}
    (same : i.opcode = f.opcode) (written : i.operands = [.register d, s.operand]) :
    i.written? = some d := by
  rw [Instruction.written?, same, written]
  cases f <;> rfl

/-- A jump writes no register. -/
private theorem written?_eq_none {condition : Condition} (same : i.opcode = condition.opcode) :
    i.written? = none := by
  rw [Instruction.written?, same]
  cases condition <;> rfl

/-- **Faults of an operation.** Once the operands are in order, only a division by zero and a jump
beyond the end are left. -/
theorem run_eq_error_iff (spelled : op.Spelled i.opcode i.operands) :
    op.run pc size regs = .error fault ↔
      i.DividesByZero regs ∧ fault = .divisionByZero pc ∨
      ∃ target, i.JumpsTo target ∧ size < target ∧ fault = .jumpOutOfRange pc target := by
  obtain ⟨opcode, operands, line⟩ := i
  -- Only divisions and jumps can fail. They are treated with all their variants at once.
  cases spelled with
  | @compute f _ d s same =>
    have byZero : Instruction.DividesByZero ⟨opcode, [.register d, s.operand], line⟩ regs ↔ _ :=
      dividesByZero_iff same rfl
    have noJump (t : Nat) := not_jumpsTo (i := ⟨opcode, [.register d, s.operand], line⟩)
      (t := t) same
    simp only [noJump, false_and, exists_false, or_false, byZero, run_compute]
    cases f.apply? (regs.get d) (s.value regs) with
    | none => simp [eq_comm]
    | some value => simp
  | @jump condition _ target same =>
    have noDivision := not_divides (i := ⟨opcode, [.address target], line⟩) same
    have jumps (t : Nat) := jumpsTo_iff (i := ⟨opcode, _, line⟩) (t := t) same rfl
    simp only [Instruction.DividesByZero, noDivision, jumps, false_and, false_or, run_jump,
      exists_eq_left]
    split
    next beyond => simp [beyond, eq_comm]
    next inside => simp [inside]
  | assign | increment | decrement | compare | nop | halt | move | rotate | fire | scan | ping
  | wait =>
    refine iff_of_false nofun ?_
    simp [Instruction.DividesByZero, Instruction.Divides, Instruction.JumpsTo]

/-- **Effects of an operation.** It writes the one register that the instruction names, or none. -/
theorem run_writes (spelled : op.Spelled i.opcode i.operands)
    (h : op.run pc size regs = .ok done) :
    i.written? = none ∧ done.registers = regs ∨
      ∃ r value, i.written? = some r ∧ r.isWritable ∧ done.registers = regs.write r value := by
  obtain ⟨opcode, operands, line⟩ := i
  -- Some operations write one register, a comparison the flag, and the rest none.
  cases spelled with
  | assign writable | increment writable | decrement writable =>
    obtain rfl := Except.ok.inj h
    exact .inr ⟨_, _, rfl, writable, rfl⟩
  | compare =>
    obtain rfl := Except.ok.inj h
    exact .inr ⟨_, _, rfl, rfl, rfl⟩
  | @compute f _ d s same writable =>
    have names := written?_eq_some (i := ⟨opcode, _, line⟩) same rfl
    rw [run_compute] at h
    split at h
    · obtain rfl := Except.ok.inj h
      exact .inr ⟨d, _, names, writable, rfl⟩
    · cases h
  | @jump condition _ target same =>
    have names := written?_eq_none (i := ⟨opcode, [.address target], line⟩) same
    rw [run_jump] at h
    split at h
    · cases h
    · obtain rfl := Except.ok.inj h
      exact .inl ⟨names, rfl⟩
  | nop | halt | move | rotate | fire | scan | ping | wait =>
    obtain rfl := Except.ok.inj h
    exact .inl ⟨rfl, rfl⟩

/-- Two operations end the turn. -/
theorem eq_of_run_ready {action : Action} (h : op.run pc size regs = .ok done)
    (ends : done.result = .ready action) :
    op = .act action ∨ op = .halt ∧ action = .halt .instruction := by
  -- All others go on working.
  cases op with
  | compute =>
    rw [run_compute] at h
    split at h
    · obtain rfl := Except.ok.inj h
      cases ends
    · cases h
  | jump =>
    rw [run_jump] at h
    split at h
    · cases h
    · obtain rfl := Except.ok.inj h
      cases ends
  | assign | increment | decrement | compare | nop =>
    obtain rfl := Except.ok.inj h
    cases ends
  | act =>
    obtain rfl := Except.ok.inj h
    exact .inl (congrArg Operation.act (StepResult.ready.inj ends))
  | halt =>
    obtain rfl := Except.ok.inj h
    exact .inr ⟨rfl, (StepResult.ready.inj ends).symm⟩

/-- What ends the turn is something that a program can order. -/
private theorem run_ordered {action : Action} (spelled : op.Spelled i.opcode i.operands)
    (h : op.run pc size regs = .ok done) (ends : done.result = .ready action) :
    action.Ordered := by
  obtain ⟨opcode, operands, line⟩ := i
  rcases eq_of_run_ready h ends with rfl | ⟨-, rfl⟩
  · cases spelled <;> constructor
  · exact .halt

/-- A program can ask for an answer only in registers that it may write itself. -/
private theorem run_asked {action : Action} (spelled : op.Spelled i.opcode i.operands)
    (h : op.run pc size regs = .ok done) (ends : done.result = .ready action) :
    ∀ r ∈ action.asked, r.isWritable := by
  obtain ⟨opcode, operands, line⟩ := i
  rcases eq_of_run_ready h ends with rfl | ⟨-, rfl⟩
  · cases spelled with
    | move | rotate | fire | wait => exact nofun
    | scan first second | ping first second => simp [Action.asked, first, second]
  · exact nofun

/-- An operation ends the turn just when the opcode says so. -/
private theorem run_endsTurn (spelled : op.Spelled i.opcode i.operands)
    (h : op.run pc size regs = .ok done) : done.result.endsTurn = i.opcode.endsTurn := by
  obtain ⟨opcode, operands, line⟩ := i
  -- Which opcodes end the turn does not depend on the operands.
  cases spelled with
  | @compute f _ _ _ same =>
    rw [run_compute] at h
    split at h
    · obtain rfl := Except.ok.inj h
      rw [same]
      cases f <;> rfl
    · cases h
  | @jump condition _ _ same =>
    rw [run_jump] at h
    split at h
    · cases h
    · obtain rfl := Except.ok.inj h
      rw [same]
      cases condition <;> rfl
  | assign | increment | decrement | compare | nop | halt | move | rotate | fire | scan | ping
  | wait =>
    obtain rfl := Except.ok.inj h
    rfl

end Operation

/-! ### Instructions -/

namespace Instruction

variable {i : Instruction} {regs : RegisterFile} {pc size : Nat} {done : Executed} {fault : Fault}

/-- Operands that match stand for an operation, and it is spelled as the instruction is. -/
theorem exists_spelled (i : Instruction) (h : i.Matches) (regs : RegisterFile) (pc size : Nat) :
    ∃ op : Operation, op.Spelled i.opcode i.operands ∧
      i.execute regs pc size = op.run pc size regs := by
  obtain ⟨op, found⟩ := Option.isSome_iff_exists.mp (isSome_operation?_iff.mpr h)
  refine ⟨op, spelled_of_operation? found, ?_⟩
  rw [execute_eq, found]

/-- An instruction is executed as the operation that it spells. -/
theorem execute_of_spelled {op : Operation} (spelled : op.Spelled i.opcode i.operands) :
    i.execute regs pc size = op.run pc size regs := by
  rw [execute_eq, operation?_of_spelled spelled]

/-- Operands that do not match stand for nothing. -/
private theorem execute_of_not_matches (h : ¬i.Matches) :
    i.execute regs pc size = .error (.badOperands pc i.opcode) := by
  have missing : i.operation? = none := by
    rwa [← Option.not_isSome_iff_eq_none, isSome_operation?_iff]
  rw [execute_eq, missing]

/-- **Faults**, in the order in which they are looked for. -/
theorem execute_eq_error_iff :
    i.execute regs pc size = .error fault ↔ i.Meets regs pc size fault := by
  -- An instruction whose operands do not match its opcode fails before anything else is asked.
  by_cases operands : i.Matches
  · obtain ⟨op, spelled, runs⟩ := i.exists_spelled operands regs pc size
    rw [runs, Operation.run_eq_error_iff spelled]
    constructor
    · rintro (⟨zero, rfl⟩ | ⟨target, jumps, beyond, rfl⟩)
      · exact .divisionByZero operands zero
      · exact .jumpOutOfRange operands jumps beyond
    · intro meets
      cases meets with
      | badOperands bad => exact absurd operands bad
      | divisionByZero _ zero => exact .inl ⟨zero, rfl⟩
      | jumpOutOfRange _ jumps beyond => exact .inr ⟨_, jumps, beyond, rfl⟩
  · rw [execute_of_not_matches operands]
    constructor
    · intro h
      obtain rfl := Except.error.inj h
      exact .badOperands operands
    · intro meets
      cases meets with
      | badOperands => rfl
      | divisionByZero good | jumpOutOfRange good => exact absurd good operands

/-- An instruction that is executed has operands that match. -/
theorem matches_of_execute (h : i.execute regs pc size = .ok done) : i.Matches := by
  by_contra bad
  rw [execute_of_not_matches bad] at h
  exact absurd h nofun

/-- **Effects.** -/
theorem execute_writes (h : i.execute regs pc size = .ok done) :
    i.written? = none ∧ done.registers = regs ∨
      ∃ r value, i.written? = some r ∧ r.isWritable ∧ done.registers = regs.write r value := by
  obtain ⟨op, spelled, runs⟩ := i.exists_spelled (matches_of_execute h) regs pc size
  exact Operation.run_writes spelled (runs ▸ h)

/-- A register that the instruction does not name stays as it is, and so does the program counter,
which cannot be named. -/
theorem get_registers_of_execute (h : i.execute regs pc size = .ok done) {r : Register}
    (apart : i.written? ≠ some r ∨ r = .pc) : done.registers.get r = regs.get r := by
  rcases execute_writes h with ⟨-, same⟩ | ⟨d, value, names, writable, written⟩
  · rw [same]
  · have differs : d ≠ r := by
      rintro rfl
      rcases apart with other | rfl
      · exact other names
      · exact absurd writable (by decide)
    rw [written, RegisterFile.get_write, if_neg fun both => differs both.1]

/-- **What ends the turn** is something that a program can order. -/
theorem ordered_of_execute {action : Action} (h : i.execute regs pc size = .ok done)
    (ends : done.result = .ready action) : action.Ordered := by
  obtain ⟨op, spelled, runs⟩ := i.exists_spelled (matches_of_execute h) regs pc size
  exact Operation.run_ordered spelled (runs ▸ h) ends

/-- An action asks for registers that can be written, as these are what its instruction may name. -/
theorem asked_of_execute {action : Action} (h : i.execute regs pc size = .ok done)
    (ends : done.result = .ready action) : ∀ r ∈ action.asked, r.isWritable := by
  obtain ⟨op, spelled, runs⟩ := i.exists_spelled (matches_of_execute h) regs pc size
  exact Operation.run_asked spelled (runs ▸ h) ends

/-- **What executing an instruction does.** -/
structure ExecutesExactly (i : Instruction) (regs : RegisterFile) (pc size : Nat) : Prop where
  /-- The faults are those of the rules. -/
  faults : ∀ fault, i.execute regs pc size = .error fault ↔ i.Meets regs pc size fault
  /-- A fault leaves the registers that the instruction has worked on as they were. -/
  atomic : ∀ fault regs', (i.perform pc size).run regs = (.error fault, regs') → regs' = regs
  /-- An instruction that meets none is executed. -/
  executed : (∃ done, i.execute regs pc size = .ok done) ↔ ∀ fault, ¬i.Meets regs pc size fault
  endsTurn : ∀ done, i.execute regs pc size = .ok done →
    done.result.endsTurn = i.opcode.endsTurn
  pc_kept : ∀ done, i.execute regs pc size = .ok done → done.registers.get .pc = regs.get .pc
  /-- At most one register differs afterwards. -/
  others_kept : ∀ done, i.execute regs pc size = .ok done →
    ∀ r, done.registers.get r ≠ regs.get r → i.written? = some r
  all_kept : ∀ done, i.execute regs pc size = .ok done → i.written? = none →
    done.registers = regs

/-- **An instruction is executed as a whole or not at all.** Whether it is executed is settled by
its operands, its divisor and its address; if it is, only the register that it names is written. A
machine that meets a fault instead keeps all its registers. -/
theorem executes_exactly (i : Instruction) :
    (∀ regs pc size, i.ExecutesExactly regs pc size) ∧
    ∀ (c : Cpu) fault, i.execute c.registers c.registers.pc c.program.size = .error fault →
      (c.dispatch i).2.registers = c.registers := by
  refine ⟨fun regs pc size => ⟨fun _ => execute_eq_error_iff, i.perform_atomic pc size regs,
    ?_, ?_, ?_, ?_, ?_⟩, ?_⟩
  · -- There is a result or a fault, and not both.
    constructor
    · rintro ⟨done, ok⟩ fault meets
      rw [execute_eq_error_iff.mpr meets] at ok
      exact absurd ok nofun
    · intro faultless
      cases result : i.execute regs pc size with
      | ok done => exact ⟨done, rfl⟩
      | error fault => exact absurd (execute_eq_error_iff.mp result) (faultless fault)
  · intro done ok
    obtain ⟨op, spelled, runs⟩ := i.exists_spelled (matches_of_execute ok) regs pc size
    exact Operation.run_endsTurn spelled (runs ▸ ok)
  -- Whatever an instruction writes, it is not the program counter.
  · intro done ok
    exact get_registers_of_execute ok (.inr rfl)
  · intro done ok r differs
    by_contra apart
    exact differs (get_registers_of_execute ok (.inl apart))
  · intro done ok unwritten
    refine RegisterFile.ext_get fun r => get_registers_of_execute ok (.inl ?_)
    rw [unwritten]
    nofun
  · intro c fault faulty
    rw [Cpu.dispatch_eq, faulty]
    rfl

/-- A jump that would not be taken, the last comparison not having come out equal, is faulty all
the same if its address lies beyond the end. -/
theorem executes_exactly_untaken_jump :
    let i : Instruction := ⟨.je, [.address 9], 1⟩
    let c := (Cpu.start ⟨[i], .empty⟩ 10).setRegister .cmp 1
    Condition.equal.holds (c.registers.get .cmp) = false ∧
      i.execute c.registers c.registers.pc c.program.size = .error (.jumpOutOfRange 0 9) ∧
      i.Meets c.registers c.registers.pc c.program.size (.jumpOutOfRange 0 9) ∧
      (c.dispatch i).2.registers = c.registers := by
  intro i c
  have faulty : i.execute c.registers c.registers.pc c.program.size =
      .error (.jumpOutOfRange 0 9) := by
    rfl
  obtain ⟨rules, kept⟩ := executes_exactly i
  have meets := ((rules c.registers c.registers.pc c.program.size).faults _).mp faulty
  exact ⟨by decide, faulty, meets, kept c _ faulty⟩

end Instruction

end TankDuel

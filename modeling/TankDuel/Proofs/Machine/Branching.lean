import Mathlib.Algebra.Group.Nat.Defs
import TankDuel.Proofs.Machine.Commands
import TankDuel.Proofs.Machine.Execution

/-!
# Jumps go by the last comparison

A comparison leaves -1, 0 or 1 in the `CMP` register, and a jump looks at nothing but its sign. So a
jump is taken just when the two values that were compared last stand in the relation that it is
named for, as signed numbers (`Cpu.branches_as_compared`). No difference is formed on the way that
could overflow (`Condition.holds_comparison`).

Between the comparison and the jump anything may be done to the machine as long as nothing writes
`CMP`: other steps, waits, new turns, sensors shown, answers written into other registers.
`Cpu.Writes` says what writes a register, and `Cpu.get_obey` that nothing else changes it. A list of
commands of which none writes it spares the register (`Cpu.Spares`, `Cpu.get_after`).
-/

namespace TankDuel

/-! ### Comparing -/

/-- What a condition says of the two numbers that have been compared. -/
def Condition.Relates : Condition → Int → Int → Prop
  | always, _, _ => True
  | equal, a, b => a = b
  | different, a, b => a ≠ b
  | greater, a, b => b < a
  | less, a, b => a < b
  | greaterOrEqual, a, b => b ≤ a
  | lessOrEqual, a, b => a ≤ b

/-- **The result of a comparison tells how two words compare** as signed numbers. -/
theorem Condition.holds_comparison (condition : Condition) (a b : Int32) :
    condition.holds (comparison a b) ↔ condition.Relates a.toInt b.toInt := by
  unfold comparison
  -- In each of the three orders the result is a known word.
  rcases Int.lt_trichotomy a.toInt b.toInt with less | same | greater
  · rw [if_pos (Int32.lt_iff_toInt_lt.mpr less)]
    cases condition <;> simp [holds, Relates] <;> omega
  · obtain rfl := Int32.toInt_inj.mp same
    rw [if_neg Int32.lt_irrefl, if_pos rfl]
    cases condition <;> simp [holds, Relates]
  · have notLess : ¬a < b := fun less => by
      have := Int32.lt_iff_toInt_lt.mp less
      omega
    have apart : a ≠ b := by
      rintro rfl
      exact absurd greater (Int.lt_irrefl _)
    rw [if_neg notLess, if_neg apart]
    cases condition <;> simp [holds, Relates] <;> omega

/-! ### What changes a register -/

/-- Only a sensor register shows anything. -/
theorem Sensors.word_eq_none (s : Sensors) {r : Register} (h : r.isSensor = false) :
    s.word r = none := by
  cases r <;> first | rfl | exact absurd h (by decide)

namespace Cpu

variable {c : Cpu} {r : Register} {command : Command}

/-- A command writes a register: it executes an instruction that names the register as its
destination, shows a sensor in it, or writes it from outside. -/
def Writes (c : Cpu) (r : Register) : Command → Prop
  | .step => ∃ i, c.Runs i ∧ i.written? = some r
  | .sense _ => r.isSensor
  | .setRegister s _ => s = r
  | .clearPending => False

/-- A step writes no register but the one of its instruction. -/
private theorem not_writes_step {i : Instruction}
    (fetched : c.program.fetch? c.registers.pc = some i) (apart : i.written? ≠ some r) :
    ¬c.Writes r .step := by
  rintro ⟨j, runs, written⟩
  obtain rfl := Option.some.inj (fetched.symm.trans runs.fetched)
  exact apart written

/-- **A command changes a register only by writing it.** The program counter is moved by steps
without being named. -/
theorem get_obey (apart : r ≠ .pc) (spares : ¬c.Writes r command) :
    (c.obey command).registers.get r = c.registers.get r := by
  cases command with
  | step =>
    have stepped := c.stepped
    rw [obey]
    generalize c.step.1 = result at stepped
    generalize c.step.2 = c' at stepped
    cases stepped with
    | shown | dead | halted | spent | ended | faulted => rfl
    | @worked i done runs executed | @acted i done _ runs executed =>
      -- What is executed changes the register that it names, and then the program counter.
      have unnamed : i.written? ≠ some r := fun written => spares ⟨i, runs, written⟩
      exact (RegisterFile.get_setPc _ _ apart).trans
        (Instruction.get_registers_of_execute executed (.inl unnamed))
  | sense s =>
    have noSensor : r.isSensor = false := Bool.eq_false_iff.mpr spares
    rw [obey, get_sense, s.word_eq_none noSensor]
    rfl
  | setRegister s value =>
    have differs : s ≠ r := spares
    rw [obey, setRegister, RegisterFile.get_write, if_neg fun both => differs both.1]
  | clearPending => rfl

/-- None of some commands writes a register, each being carried out behind those before it. -/
def Spares (r : Register) : Cpu → List Command → Prop
  | _, [] => True
  | c, command :: commands => ¬c.Writes r command ∧ Spares r (c.obey command) commands

/-- **A register that is spared stays as it is.** -/
theorem get_after (apart : r ≠ .pc) {commands : List Command} (spares : Spares r c commands) :
    (c.after commands).registers.get r = c.registers.get r := by
  induction commands generalizing c with
  | nil => rfl
  | cons command commands ih =>
    obtain ⟨first, rest⟩ := spares
    exact (ih rest).trans (get_obey apart first)

/-! ### Comparing and jumping -/

variable {va vb : Int32} {condition : Condition} {target : Nat}

/-- The next step compares two values. -/
def Compares (c : Cpu) (va vb : Int32) : Prop :=
  ∃ i a b, c.Runs i ∧ i.opcode = .cmp ∧ i.operands = [a, b] ∧
    a.value? c.registers = some va ∧ b.value? c.registers = some vb

/-- The next step executes a jump under some condition. -/
def Jumps (c : Cpu) (condition : Condition) (target : Nat) : Prop :=
  ∃ i, c.Runs i ∧ i.opcode = condition.opcode ∧ i.operands = [.address target]

/-- A comparison leaves its result in `CMP`. -/
theorem Compares.get_step (h : c.Compares va vb) :
    c.step.2.registers.get .cmp = comparison va vb := by
  obtain ⟨i, a, b, runs, names, written, left, right⟩ := h
  obtain ⟨s, rfl, rfl⟩ := Operand.value?_eq_some_iff.mp left
  obtain ⟨t, rfl, rfl⟩ := Operand.value?_eq_some_iff.mp right
  have spelled : (Operation.compare s t).Spelled i.opcode i.operands := by
    rw [names, written]
    exact .compare
  rw [(Stepped.worked runs (Instruction.execute_of_spelled spelled) rfl).step_eq]
  change (((c.registers.write .cmp _).setPc _).get .cmp) = _
  rw [RegisterFile.get_setPc _ _ (by decide), RegisterFile.get_write, if_pos (by decide)]

/-- A jump goes by what is in `CMP`. -/
theorem Jumps.step_eq (h : c.Jumps condition target) (small : c.program.size < 2 ^ 31)
    (inside : target ≤ c.program.size) :
    c.step.1 = .working ∧
      c.step.2.pc = if condition.holds (c.registers.get .cmp) then target else c.pc + 1 := by
  obtain ⟨i, runs, names, written⟩ := h
  have spelled : (Operation.jump condition target).Spelled i.opcode i.operands := by
    rw [written]
    exact .jump names
  have executed : i.execute c.registers c.registers.pc c.program.size =
      (Operation.jump condition target).run c.registers.pc c.program.size c.registers :=
    Instruction.execute_of_spelled spelled
  rw [Operation.run_jump, if_neg (Nat.not_lt.mpr inside)] at executed
  have here := runs.pc_lt
  rw [(Stepped.worked runs executed rfl).step_eq]
  refine ⟨rfl, ?_⟩
  -- In a program of this size no address is too large for the program counter.
  change (RegisterFile.setPc _ _).pc = _
  rw [RegisterFile.pc_setPc]
  refine Nat.min_eq_left ?_
  have behind : c.pc + 1 ≤ 2147483647 := by omega
  dsimp only
  split
  · omega
  · exact behind

/-- **Jumps go by the last comparison.** A machine with a program of less than `2 ^ 31` instructions
compares two values. Then all kinds of things are done to it, but nothing writes `CMP`. At last it
executes a jump to an address in the program or at its end. It goes on at that address if the two
values stand in the relation that the jump is named for, as signed numbers, and else behind the
jump. -/
theorem branches_as_compared (p : Program) (small : p.size < 2 ^ 31) (opLimit : Nat)
    (past between : List Command) (va vb : Int32) (condition : Condition) (target : Nat) :
    let c := (start p opLimit).after past
    let d := c.step.2.after between
    c.Compares va vb → Spares .cmp c.step.2 between → d.Jumps condition target →
      target ≤ p.size →
      d.step.1 = .working ∧ (condition.Relates va.toInt vb.toInt → d.step.2.pc = target) ∧
        (¬condition.Relates va.toInt vb.toInt → d.step.2.pc = d.pc + 1) := by
  intro c d compares spares jumps inside
  have sameProgram : d.program = p :=
    calc d.program
        = c.step.2.program := program_after c.step.2 between
      _ = c.program := c.stepped.program_eq
      _ = p := program_after (start p opLimit) past
  rw [← sameProgram] at small inside
  -- The flag register still has the result of the comparison, as nothing in between has written it.
  have flag : d.registers.get .cmp = comparison va vb :=
    (get_after (by decide) spares).trans compares.get_step
  obtain ⟨works, pc⟩ := jumps.step_eq small inside
  rw [flag] at pc
  have decides := condition.holds_comparison va vb
  refine ⟨works, fun related => ?_, fun unrelated => ?_⟩
  · rw [pc, if_pos (decides.mpr related)]
  · rw [pc, if_neg (mt decides.mp unrelated)]

/-- The machine compares the least word with 1, waits, does an operation, and jumps. -/
def compareAndWait : Program where
  instructions :=
    [⟨.cmp, [.register .r0, .number 1], 1⟩, ⟨.scan, [.register .r1, .register .r2], 2⟩,
      ⟨.mov, [.register .r0, .number 7], 3⟩, ⟨.jl, [.address 5], 4⟩, ⟨.nop, [], 5⟩]
  labels := .empty

/-- With a budget of a single operation the comparison and the jump are three turns apart. In
between the machine is made to wait twice, its scan is answered, and the register that was compared
is written. The least word is less than 1, though their difference wraps around to the greatest
word. -/
theorem branches_as_compared_least_word :
    let sensors : Sensors := ⟨1, 1, 0, 3, true⟩
    let past : List Command := [.setRegister .r0 (-2147483648), .sense sensors]
    let between : List Command :=
      [.sense sensors, .step, .clearPending, .sense sensors, .step, .setRegister .r1 4,
        .setRegister .r2 2, .clearPending, .sense sensors, .step, .step, .clearPending,
        .sense sensors]
    let c := (start compareAndWait 1).after past
    let d := c.step.2.after between
    compareAndWait.size < 2 ^ 31 ∧ c.Compares (-2147483648) 1 ∧ Spares .cmp c.step.2 between ∧
      d.Jumps .less 5 ∧ 5 ≤ compareAndWait.size ∧ d.registers.get .r0 = 7 ∧ d.step.2.pc = 5 := by
  intro sensors past between c d
  have small : compareAndWait.size < 2 ^ 31 := by decide
  have compares : c.Compares (-2147483648) 1 :=
    ⟨⟨.cmp, [.register .r0, .number 1], 1⟩, _, _,
      ⟨by decide +kernel, by decide +kernel, by decide +kernel, by decide +kernel,
        by decide +kernel⟩, rfl, rfl, by decide +kernel, rfl⟩
  have jumps : d.Jumps .less 5 :=
    ⟨⟨.jl, [.address 5], 4⟩, ⟨by decide +kernel, by decide +kernel, by decide +kernel,
      by decide +kernel, by decide +kernel⟩, rfl, rfl⟩
  have spares : Spares .cmp c.step.2 between := by
    -- Each step finds the scan, the `MOV` or the jump in front of it, executed or not.
    have scans {c : Cpu} (next : c.program.fetch? c.registers.pc =
        some ⟨.scan, [.register .r1, .register .r2], 2⟩) : ¬c.Writes .cmp .step :=
      not_writes_step next (by decide)
    have moves {c : Cpu} (next : c.program.fetch? c.registers.pc =
        some ⟨.mov, [.register .r0, .number 7], 3⟩) : ¬c.Writes .cmp .step :=
      not_writes_step next (by decide)
    have jumps {c : Cpu} (next : c.program.fetch? c.registers.pc =
        some ⟨.jl, [.address 5], 4⟩) : ¬c.Writes .cmp .step :=
      not_writes_step next (by decide)
    exact ⟨Bool.false_ne_true, scans (by decide +kernel), id, Bool.false_ne_true,
      scans (by decide +kernel), Register.noConfusion, Register.noConfusion, id,
      Bool.false_ne_true, moves (by decide +kernel), jumps (by decide +kernel), id,
      Bool.false_ne_true, trivial⟩
  obtain ⟨-, taken, -⟩ := branches_as_compared compareAndWait small 1 past between
    (-2147483648) 1 .less 5 compares spares jumps (by decide)
  have less : Condition.less.Relates (-2147483648 : Int32).toInt (1 : Int32).toInt :=
    (by decide : (-2147483648 : Int32).toInt < (1 : Int32).toInt)
  exact ⟨small, compares, spares, jumps, by decide, by decide +kernel, taken less⟩

end Cpu

end TankDuel

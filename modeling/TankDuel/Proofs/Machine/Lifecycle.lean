import TankDuel.Proofs.Machine.Commands

/-!
# The life of a machine

A machine goes through turns. In each of them it works until an action is **latched**, shows this
action until the turn is over, and goes on behind it in the next turn. At some point it may halt,
and from then on it is **at rest**: it never executes anything again.

This file says what holds of that throughout, whatever is done to the machine from outside and in
whatever order. The main statement is `Cpu.lifecycle`; its parts are read off the inversion of a
step and carried along lists of commands.

* `Cpu.Stepped.pending_eq_action?` — the slot holds what the step produced, and nothing after work.
* `Cpu.Stepped.eq_of_barred` — a machine that is **barred** from executing, because it believes its
  tank destroyed, has halted or has used up its budget, changes at most its slot.
* `Cpu.AtRest` — why and where the machine has halted. Commands keep this (`Cpu.AtRest.obey`): a
  step is barred, and from outside nobody writes `PC`.
* `Cpu.Candid` — what waits in the slot of a halted machine is its halt, unless the machine believes
  its tank destroyed.
-/

namespace TankDuel

/-- The action that a step makes the machine ready with, if it does. -/
def StepResult.action? : StepResult → Option Action
  | working => none
  | ready action => some action

/-- The actions that have a reason are the halts. -/
theorem Action.eq_halt_of_haltReason? {action : Action} {reason : HaltReason}
    (h : action.haltReason? = some reason) : action = .halt reason := by
  cases action with
  | halt => exact congrArg Action.halt (Option.some.inj h)
  | move | rotate | fire | scan | ping | wait | dead => exact absurd h nofun

/-- Writing a register from outside does not move the program counter. -/
theorem RegisterFile.get_pc_write (regs : RegisterFile) (r : Register) (value : Int32) :
    (regs.write r value).get .pc = regs.get .pc := by
  rw [get_write, if_neg fun both => both.2 both.1]

namespace Cpu

variable {c c' d : Cpu} {result : StepResult} {reason : HaltReason} {address executed : Nat}

/-! ### The program counter from outside -/

/-- From outside the program counter cannot be moved. -/
theorem get_pc_obey {command : Command} (outside : command ≠ .step) :
    (c.obey command).registers.get .pc = c.registers.get .pc := by
  cases command with
  | step => exact absurd rfl outside
  | sense s =>
    -- The sensors are written one after the other, and none of them is `PC`.
    simp only [obey, sense, RegisterFile.get_pc_write]
  | setRegister r value => exact c.registers.get_pc_write r value
  | clearPending => rfl

/-- The program counter is told by its register. -/
theorem pc_eq_of_get_eq (same : c'.registers.get .pc = c.registers.get .pc) : c'.pc = c.pc :=
  congrArg (fun word : Int32 => word.toInt.toNat) same

/-- Only a step moves the program counter. -/
theorem pc_obey {command : Command} (outside : command ≠ .step) : (c.obey command).pc = c.pc :=
  pc_eq_of_get_eq (get_pc_obey outside)

/-! ### What one step can do -/

/-- The slot holds what the step has produced. -/
theorem Stepped.pending_eq_action? (h : Stepped c result c') : c'.pending = result.action? := by
  cases h with
  | shown pending => exact pending
  | worked runs => exact runs.idle
  | dead | halted | spent | ended | faulted | acted => rfl

/-- A step executes one instruction at most. -/
theorem Stepped.executed_le (h : Stepped c result c') :
    c.executed ≤ c'.executed ∧ c'.executed ≤ c.executed + 1 := by
  cases h with
  | shown | dead | halted | spent | ended => exact ⟨Nat.le_refl _, Nat.le_succ _⟩
  | faulted | worked | acted => exact ⟨Nat.le_succ _, Nat.le_refl _⟩

/-- The machine is kept from executing anything. -/
def Barred (c : Cpu) : Prop :=
  c.registers.get .hp ≤ 0 ∨ c.halted.isSome ∨ c.opLimit ≤ c.opsThisTurn

/-- A machine that is alive, runs and has a budget is not barred. -/
theorem not_barred (alive : 0 < c.registers.get .hp) (running : c.halted = none)
    (budget : c.opsThisTurn < c.opLimit) : ¬c.Barred := by
  rintro (low | halted | spent)
  · exact absurd alive (Int32.not_lt.mpr low)
  · rw [running] at halted
    exact absurd halted (by decide)
  · exact absurd budget (Nat.not_lt.mpr spent)

/-- A machine that runs an instruction is not barred. -/
theorem Runs.not_barred {i : Instruction} (runs : c.Runs i) : ¬c.Barred :=
  Cpu.not_barred runs.alive runs.running runs.budget

/-- **Nothing is executed by a barred machine.** At most an action comes into its slot. -/
theorem Stepped.eq_of_barred (h : Stepped c result c') (barred : c.Barred) :
    c' = { c with pending := c'.pending } := by
  cases h with
  | shown | dead | halted | spent => rfl
  | ended _ alive running budget => exact absurd barred (not_barred alive running budget)
  | faulted runs | worked runs | acted runs => exact absurd barred runs.not_barred

/-- What a halted machine latches. -/
theorem Stepped.result_of_halted (h : Stepped c result c') (idle : c.pending = none)
    (halted : c.halted = some reason) :
    result = .ready (if c.registers.get .hp ≤ 0 then .dead else .halt reason) := by
  have other : c.halted ≠ none := by
    rw [halted]
    exact nofun
  cases h with
  | shown pending => exact absurd (idle.symm.trans pending) nofun
  | dead _ low => rw [if_pos low]
  | halted _ alive same =>
    obtain rfl := Option.some.inj (halted.symm.trans same)
    rw [if_neg (Int32.not_le.mpr alive)]
  | spent _ _ running | ended _ _ running => exact absurd running other
  | faulted runs | worked runs | acted runs => exact absurd runs.running other

/-! ### Machines at rest -/

/-- The machine has halted for some reason, with the program counter at some address and after some
number of instructions. -/
structure AtRest (reason : HaltReason) (address executed : Nat) (c : Cpu) : Prop where
  halted : c.halted = some reason
  pc : c.pc = address
  executed : c.executed = executed

/-- A halted machine is barred. -/
theorem barred_of_halted (h : c.halted = some reason) : c.Barred :=
  .inr (.inl (Option.isSome_of_eq_some h))

/-- Nothing wakes a machine that is at rest, and nothing moves it. -/
theorem AtRest.obey (h : AtRest reason address executed c) (command : Command) :
    AtRest reason address executed (c.obey command) := by
  have unmoved (outside : command ≠ .step) : (c.obey command).pc = address :=
    (pc_obey outside).trans h.pc
  cases command with
  | step =>
    rw [Cpu.obey, c.stepped.eq_of_barred (barred_of_halted h.halted)]
    exact ⟨h.halted, h.pc, h.executed⟩
  | sense | setRegister | clearPending =>
    exact ⟨h.halted, unmoved nofun, h.executed⟩

/-- A machine at rest stays so, whatever is commanded. -/
theorem AtRest.after (h : AtRest reason address executed c) (commands : List Command) :
    AtRest reason address executed (c.after commands) :=
  after_invariant (fun _ command rests => rests.obey command) h commands

/-- Whether a command writes registers from outside. -/
def Command.writes : Command → Bool
  | .sense _ | .setRegister _ _ => true
  | .step | .clearPending => false

/-- **The registers of a halted machine** are changed from outside only: steps and new turns make no
difference to them. -/
theorem registers_after_of_halted (halted : c.halted = some reason) (commands : List Command) :
    (c.after commands).registers = (c.after (commands.filter Command.writes)).registers := by
  -- The two runs come apart at the first step, but they go on with the same registers.
  suffices ∀ d : Cpu, c.registers = d.registers →
      (c.after commands).registers = (d.after (commands.filter Command.writes)).registers from
    this c rfl
  induction commands generalizing c with
  | nil => exact fun _ same => same
  | cons command commands ih =>
    intro d same
    have rests : (c.obey command).halted = some reason :=
      (AtRest.obey ⟨halted, rfl, rfl⟩ command).halted
    cases command with
    | step =>
      have unwritten : c.step.2.registers = c.registers := by
        rw [c.stepped.eq_of_barred (barred_of_halted halted)]
      exact ih rests d (unwritten.trans same)
    | clearPending => exact ih rests d same
    | sense s =>
      refine ih rests (d.sense s) ?_
      rw [obey, sense, sense, same]
    | setRegister r value =>
      exact ih rests (d.setRegister r value) (congrArg (·.write r value) same)

/-! ### What waits in the slot -/

/-- While the machine is halted, the slot does not say anything else, except that the tank is
destroyed. -/
def Candid (c : Cpu) : Prop :=
  ∀ reason action, c.halted = some reason → c.pending = some action →
    action = .halt reason ∨ action = .dead

/-- **A step leaves a halted machine candid.** -/
theorem Candid.step (h : c.Candid) (stepped : Stepped c result c') : c'.Candid := by
  intro reason action halted pending
  -- The slot is filled from the halt or by it, unless the tank counts as destroyed.
  cases stepped with
  | shown => exact h reason action halted pending
  | dead => exact .inr (Option.some.inj pending).symm
  | halted _ _ same =>
    obtain rfl := Option.some.inj (same.symm.trans halted)
    exact .inl (Option.some.inj pending).symm
  | spent _ _ running => exact absurd (running.symm.trans halted) nofun
  | ended | faulted =>
    obtain rfl := Option.some.inj halted
    exact .inl (Option.some.inj pending).symm
  | worked runs => exact absurd (runs.idle.symm.trans pending) nofun
  | acted =>
    obtain rfl := Option.some.inj pending
    exact .inl (Action.eq_halt_of_haltReason? halted)

/-- Any command leaves a halted machine candid. -/
theorem Candid.obey (h : c.Candid) (command : Command) : (c.obey command).Candid := by
  cases command with
  | step => exact h.step c.stepped
  | sense | setRegister => exact h
  | clearPending => exact fun _ _ _ pending => absurd pending nofun

/-- All commands leave a halted machine candid. -/
theorem Candid.after (h : c.Candid) (commands : List Command) : (c.after commands).Candid :=
  after_invariant (fun _ command candid => candid.obey command) h commands

/-! ### The whole life -/

/-- **The life of a machine**, whatever its program and its budget and whatever has been done to it.

While an action waits in the slot, a step shows it and changes nothing. What a step produces comes
into the slot, and work leaves the slot empty. Once the machine has halted it does so for good: the
reason, the program counter and the number of executed instructions never change, registers change
only as they are written from outside, and all that is ever latched is the halt, or that the tank is
destroyed where the `HP` register says so. A step with no hit points in that register, or with no
budget left, changes nothing but the slot. No step executes more than one instruction. -/
theorem lifecycle (program : Program) (opLimit : Nat) (commands : List Command) :
    let c := (start program opLimit).after commands
    (∀ action, c.pending = some action → c.step = (.ready action, c)) ∧
    c.step.2.pending = c.step.1.action? ∧
    (∀ reason, c.halted = some reason → ∀ later : List Command,
      AtRest reason c.pc c.executed (c.after later) ∧
      (c.after later).registers = (c.after (later.filter Command.writes)).registers ∧
      (∀ action, (c.after later).pending = some action →
        action = .halt reason ∨ action = .dead) ∧
      ((c.after later).pending = none →
        (c.after later).step.1 =
          .ready (if (c.after later).registers.get .hp ≤ 0 then .dead else .halt reason))) ∧
    (c.registers.get .hp ≤ 0 ∨ c.opLimit ≤ c.opsThisTurn →
      c.step.2 = { c with pending := c.step.2.pending }) ∧
    c.executed ≤ c.step.2.executed ∧ c.step.2.executed ≤ c.executed + 1 := by
  intro c
  have candid : c.Candid := by
    have fresh : (start program opLimit).Candid := fun _ _ halted => absurd halted nofun
    exact fresh.after commands
  -- What a halted machine does further on is asked at rest, the rest is what one step does.
  refine ⟨fun action pending => step_of_pending pending, c.stepped.pending_eq_action?,
    fun reason halted later => ?_, fun barred => ?_, c.stepped.executed_le⟩
  · have rests : AtRest reason c.pc c.executed (c.after later) :=
      AtRest.after ⟨halted, rfl, rfl⟩ later
    exact ⟨rests, registers_after_of_halted halted later,
      fun action pending => candid.after later reason action rests.halted pending,
      fun idle => (c.after later).stepped.result_of_halted idle rests.halted⟩
  · exact c.stepped.eq_of_barred (barred.imp_right .inr)

/-- A program that says its tank is destroyed, and halts if it goes on. -/
def playDead : Program := ⟨[⟨.mov, [.register .hp, .number 0], 1⟩, ⟨.halt, [], 2⟩], .empty⟩

/-- The machine believes what its program says until it sees its hit points again. Then it goes on
to the halt, and what is written in the next turn does not move it. -/
theorem lifecycle_playDead :
    let start := start playDead 5
    let believing := start.after [.sense ⟨1, 6, 1, 3, true⟩, .step]
    let c := start.after [.sense ⟨1, 6, 1, 3, true⟩, .step, .sense ⟨1, 6, 1, 3, true⟩, .step]
    let later : List Command := [.clearPending, .setRegister .hp 0, .setRegister .pc 7]
    believing.registers.get .hp ≤ 0 ∧ c.pending = some (.halt .instruction) ∧
      c.halted = some .instruction ∧ (c.after later).pending = none ∧
      (c.after later).registers.get .hp ≤ 0 ∧
      believing.step.2 = { believing with pending := believing.step.2.pending } ∧
      c.step = (.ready (.halt .instruction), c) ∧
      AtRest .instruction c.pc c.executed (c.after later) ∧
      (c.after later).step.1 = .ready .dead := by
  intro start believing c later
  have faked : believing.registers.get .hp ≤ 0 := by decide +kernel
  have pending : c.pending = some (.halt .instruction) := by decide +kernel
  have halted : c.halted = some .instruction := by decide +kernel
  have idle : (c.after later).pending = none := by decide +kernel
  have low : (c.after later).registers.get .hp ≤ 0 := by decide +kernel
  obtain ⟨-, -, -, barred, -⟩ := lifecycle playDead 5 [.sense ⟨1, 6, 1, 3, true⟩, .step]
  obtain ⟨shown, -, rest, -⟩ := lifecycle playDead 5
    [.sense ⟨1, 6, 1, 3, true⟩, .step, .sense ⟨1, 6, 1, 3, true⟩, .step]
  obtain ⟨rests, -, -, latched⟩ := rest .instruction halted later
  refine ⟨faked, pending, halted, idle, low, barred (.inl faked), shown _ pending, rests, ?_⟩
  rw [latched idle, if_pos low]

end Cpu

end TankDuel

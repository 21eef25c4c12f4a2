import TankDuel.Proofs.Battle.Damage
import TankDuel.Proofs.Battle.Outcome
import TankDuel.Proofs.Machine.Execution
import TankDuel.Proofs.Machine.Lifecycle

/-!
# No program fakes a death

A machine is told that its tank is destroyed when the `HP` register is not above zero, and programs
and sensor answers may write that register at any time. Still no machine is ever told so
(`Battle.dead_unreachable`).

* Before each step the register is made to show the hit points, and a tank that is stepped is alive.
  Hit points fit into the register, under all settings, as they are never more than a tank starts
  with (`Battle.Vital.hp_le_word`).
* Programs have no instruction that says so either (`Instruction.ordered_of_execute`), and what
  is shown again was latched before. So a step that says so would have to be the first one, and
  there is none (`Cpu.Stepped.ne_dead`).

Nor is a turn ever resolved for a destroyed tank. A battle that goes on has no destroyed tank, since
a turn that destroys one decides the battle (`Battle.Vital.alive`). So both tanks have an action
when a turn is resolved, and neither is idle in it.

`Battle.Vital` is the invariant. It holds under all settings, those included under which tanks start
with no hit points at all.
-/

namespace TankDuel

/-! ### Machines -/

namespace Cpu

variable {c c' : Cpu} {result : StepResult}

/-- **No instruction says that the tank is destroyed.** -/
theorem ne_dead_of_execute {i : Instruction} {regs : RegisterFile} {pc size : Nat}
    {done : Executed} (h : i.execute regs pc size = .ok done) : done.result ≠ .ready .dead := by
  intro dead
  cases Instruction.ordered_of_execute h dead

/-- A machine that sees its tank alive is not told that it is destroyed. -/
theorem Stepped.ne_dead (h : Stepped c result c') (alive : 0 < c.registers.get .hp)
    (spared : c.pending ≠ some .dead) : result ≠ .ready .dead := by
  cases h with
  | shown pending =>
    rintro ⟨⟩
    exact spared pending
  | dead _ low => exact absurd alive (Int32.not_lt.mpr low)
  | halted | spent | ended | faulted | worked => nofun
  | acted _ executed acts =>
    rw [← acts]
    exact ne_dead_of_execute executed

end Cpu

/-! ### Tanks -/

namespace Tank

/-- The machine is not told that the tank is destroyed. -/
def Spared (t : Tank) : Prop := t.pending? ≠ some .dead

variable {t t' : Tank} {ammo : Bool} {result : StepResult}

/-- The slot holds what the step has produced. -/
theorem pending?_of_step (h : t.step ammo = some (result, t')) : t'.pending? = result.action? := by
  obtain ⟨-, cpu, cpu', -, machine, rfl⟩ := step_eq_some_iff.mp h
  exact (Cpu.stepped_of_step_eq machine).pending_eq_action?

/-- A machine that is stepped is not told that its tank is destroyed. -/
private theorem ne_dead_of_step (spared : t.Spared) (hp_le : t.hp ≤ 2147483647)
    (h : t.step ammo = some (result, t')) : result ≠ .ready .dead := by
  obtain ⟨alive, cpu, cpu', hasCpu, machine, -⟩ := step_eq_some_iff.mp h
  refine (Cpu.stepped_of_step_eq machine).ne_dead (hp_sense_pos alive hp_le) ?_
  rwa [Spared, pending?, hasCpu] at spared

/-- A step spares the machine, too. -/
theorem Spared.step (spared : t.Spared) (hp_le : t.hp ≤ 2147483647)
    (h : t.step ammo = some (result, t')) : t'.Spared := by
  rw [Spared, pending?_of_step h]
  cases result with
  | working => nofun
  | ready action =>
    rintro ⟨⟩
    exact ne_dead_of_step spared hp_le h rfl

/-- An empty slot says nothing. -/
theorem Spared.of_idle (h : ∀ cpu, t.cpu = some cpu → cpu.pending = none) : t.Spared := by
  intro dead
  obtain ⟨cpu, hasCpu, pending⟩ := Option.bind_eq_some_iff.mp dead
  exact absurd ((h cpu hasCpu).symm.trans pending) nofun

end Tank

namespace Battle

variable {b b' : Battle} {side : Side}

/-! ### The invariant -/

/-- What holds of hit points and of slots under all settings. -/
structure Vital (b : Battle) : Prop where
  orderly : b.Orderly
  balanced : b.Balanced
  /-- A battle that goes on has no destroyed tank, unless there were no hit points to begin with. -/
  alive : 0 < b.config.maxHp.toInt → b.outcome = none → ∀ side, (b.tank side).isAlive
  spared : ∀ side, (b.tank side).Spared

/-- **Hit points fit into a register.** -/
theorem Vital.hp_le_word (h : b.Vital) (side : Side) : (b.tank side).hp ≤ 2147483647 := by
  have balance := h.balanced.balance side
  have word := b.config.maxHp.toInt_lt
  omega

/-- A battle starts vital, with or without hit points. -/
theorem Vital.fresh (config : Config) (arena : Arena) (programs : Option (Pair Program)) :
    (fresh config arena programs).Vital where
  orderly := .fresh ..
  balanced := .fresh ..
  alive := by
    rintro positive - (_ | _)
    · exact decide_eq_true positive
    · exact decide_eq_true positive
  spared := fun _ => .of_idle fun _ hasCpu => pending_fresh hasCpu

/-- **A turn that destroys a tank decides the battle.** -/
theorem isAlive_of_outcome_playTurn (orderly : b.Orderly) (running : b.isOver = false)
    (undecided : b.playTurn.outcome = none) (side : Side) : (b.playTurn.tank side).isAlive := by
  rw [outcome_playTurn orderly running] at undecided
  exact ((verdict_eq_none_iff _).mp undecided).1 side

/-- **Whatever happens, the battle stays vital.** -/
theorem Vital.change (change : Change b b') (h : b.Vital) : b'.Vital where
  orderly := h.orderly.change change
  balanced := h.balanced.change change h.orderly
  alive := by
    intro positive undecided side
    cases change with
    -- A step keeps `hp`, and a turn after which a tank is dead has decided the match.
    | restart arena programs => exact (Vital.fresh b.config arena programs).alive positive rfl side
    | step stepped =>
      obtain rfl := ticks_of_step stepped
      rw [Tank.isAlive_congr (pose_ticks b _ side)]
      exact h.alive positive undecided side
    | turn resolved =>
      obtain ⟨-, running, -, rfl⟩ := resolveTurn_eq_ok_iff.mp resolved
      exact isAlive_of_outcome_playTurn h.orderly running undecided side
  spared := by
    intro side
    cases change with
    -- The machine that stepped read its `hp` first, and a turn leaves no machine with an action.
    | restart arena programs => exact (Vital.fresh b.config arena programs).spared side
    | @step _ stepping result stepped =>
      obtain ⟨-, t, tankStepped, rfl⟩ := step_eq_some_iff.mp stepped
      rw [tank, Pair.get_set]
      split
      next => exact (h.spared stepping).step (h.hp_le_word stepping) tankStepped
      next => exact h.spared side
    | turn resolved =>
      obtain ⟨-, -, -, rfl⟩ := resolveTurn_eq_ok_iff.mp resolved
      exact .of_idle fun _ hasCpu => pending_playTurn hasCpu

/-- All battles that can arise are vital. -/
theorem vital_after (config : Config) (past : List Request) : ((new config).after past).Vital :=
  after_invariant (fun change h => h.change change) (.fresh ..) past

/-! ### Steps and turns -/

/-- No step tells a machine that its tank is destroyed. -/
theorem Vital.ne_dead_of_step {result : StepResult} (h : b.Vital)
    (stepped : b.step side = some (result, b')) : result ≠ .ready .dead := by
  obtain ⟨-, t, tankStepped, -⟩ := step_eq_some_iff.mp stepped
  exact Tank.ne_dead_of_step (h.spared side) (h.hp_le_word side) tankStepped

/-- **The loop of steps** does not end with the tank declared destroyed. -/
theorem Vital.ne_dead_of_runs {action : Option Action} (h : b.Vital)
    (runs : RunsUntilReady side b action b') : action ≠ some .dead := by
  induction runs with
  | refused => nofun
  | ready stepped =>
    rintro ⟨⟩
    exact h.ne_dead_of_step stepped rfl
  | working stepped _ ih => exact ih (h.change (.step stepped))

/-- **Whoever takes part in a turn is alive and has an action.** -/
theorem Vital.exists_action (h : b.Vital) (positive : 0 < b.config.maxHp.toInt)
    (resolved : b.resolveTurn = .ok b') (side : Side) :
    (b.tank side).isAlive ∧ ∃ action, b.actions.get side = some action ∧ action ≠ .dead ∧
      (b'.tank side).lastAction = action.deed := by
  obtain ⟨-, running, ready, rfl⟩ := resolveTurn_eq_ok_iff.mp resolved
  have undecided : b.outcome = none := isOver_eq_false_iff.mp running
  have alive := h.alive positive undecided side
  obtain ⟨action, pending, taken⟩ := b.exists_action_of_isReady side alive (ready side)
  refine ⟨alive, action, taken, ?_, ?_⟩
  · rintro rfl
    exact h.spared side pending
  · rw [lastAction_playTurn, taken]
    rfl

/-- **No program fakes a death.** Whatever the settings and the programs are and whatever has been
asked of the battle, neither a step nor running a machine says that the tank is destroyed, and no
slot does. Work is no action, so what else a slot could hold ends a turn; a step that comes to work
leaves it empty. Under valid settings, when a turn is resolved both tanks are alive and have an
action, so that neither is idle. -/
theorem dead_unreachable (config : Config) (past : List Request) :
    let b := (new config).after past
    (∀ number b', b.stepNumber number ≠ some (.ready .dead, b')) ∧
    (∀ number b', b.runNumberUntilReady number ≠ some (.dead, b')) ∧
    (∀ side, (b.tank side).pending? ≠ some .dead) ∧
    (∀ side result b', b.step side = some (result, b') →
      (b'.tank side).pending? = result.action?) ∧
    (config.check = .ok config → ∀ b', b.resolveTurn = .ok b' → ∀ side,
      (b.tank side).isAlive ∧ ∃ action, b.actions.get side = some action ∧ action ≠ .dead ∧
        (b'.tank side).lastAction = action.deed ∧ (b'.tank side).lastAction ≠ .idle) := by
  have vital := vital_after config past
  have sameConfig := config_after config past
  generalize (new config).after past = b at vital sameConfig
  intro b
  refine ⟨fun number b' told => ?_, fun number b' told => ?_, vital.spared, ?_, ?_⟩
  · obtain ⟨side, -, stepped⟩ := Option.bind_eq_some_iff.mp told
    exact vital.ne_dead_of_step stepped rfl
  · obtain ⟨side, -, ran⟩ := Option.bind_eq_some_iff.mp told
    exact vital.ne_dead_of_runs (runFor_runs ran) rfl
  · intro side result b' stepped
    obtain ⟨-, t, tankStepped, rfl⟩ := step_eq_some_iff.mp stepped
    rw [tank, Pair.get_set_self]
    exact Tank.pending?_of_step tankStepped
  · intro valid b' resolved side
    have positive : 0 < b.config.maxHp.toInt := by
      rw [sameConfig]
      exact (Config.check_eq_ok_iff.mp valid).2.1
    -- With checked settings both tanks are alive and have an action, and no action but a death is
    -- idle.
    obtain ⟨alive, action, taken, notDead, deed⟩ := vital.exists_action positive resolved side
    refine ⟨alive, action, taken, notDead, deed, ?_⟩
    rw [deed]
    cases action with
    | dead => exact absurd rfl notDead
    | move | rotate | fire | scan | ping | wait | halt => simp [Action.deed]

/-- A program that has the answer to its scan written over its hit points and then declares its tank
destroyed. -/
def scanAndPlayDead : Program where
  instructions :=
    [⟨.scan, [.register .hp, .register .hp], 1⟩, ⟨.mov, [.register .hp, .number 0], 2⟩,
      ⟨.halt, [], 3⟩]
  labels := .empty

/-- In the second turn of a duel of two such programs the first machine has no hit points in its
register. It halts, as its next instruction says, and the turn is resolved for both tanks. -/
theorem dead_unreachable_scanAndPlayDead :
    let past : List Request := [.install ⟨scanAndPlayDead, scanAndPlayDead⟩, .run 1, .run 2,
      .resolve, .step 1]
    let b := (new {}).after past
    let ready := (new {}).after (past ++ [.run 1, .run 2])
    ((b.tank .first).cpu.map fun cpu => cpu.registers.get .hp) = some 0 ∧
      (b.stepNumber 1).map Prod.fst = some (.ready (.halt .instruction)) ∧
      (∀ b', b.stepNumber 1 ≠ some (.ready .dead, b')) ∧
      (b.tank .first).pending? ≠ some .dead ∧
      Config.check {} = .ok {} ∧ ready.resolveTurn = .ok ready.playTurn ∧
      ∀ side, (ready.tank side).isAlive ∧ ∃ action, ready.actions.get side = some action ∧
        action ≠ .dead ∧ (ready.playTurn.tank side).lastAction = action.deed ∧
        (ready.playTurn.tank side).lastAction ≠ .idle := by
  intro past b ready
  have valid : Config.check {} = .ok {} := by decide +kernel
  have resolved : ready.resolveTurn = .ok ready.playTurn :=
    resolveTurn_eq_ok_iff.mpr ⟨by decide +kernel, by decide +kernel,
      by rintro (_ | _) <;> decide +kernel, rfl⟩
  obtain ⟨steps, -, slots, -⟩ := dead_unreachable {} past
  obtain ⟨-, -, -, -, turns⟩ := dead_unreachable {} (past ++ [.run 1, .run 2])
  exact ⟨by decide +kernel, by decide +kernel, steps 1, slots .first, valid, resolved,
    turns valid _ resolved⟩

end Battle

end TankDuel

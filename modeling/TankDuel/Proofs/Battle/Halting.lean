import TankDuel.Proofs.Battle.Soundness

/-!
# What a pending action says about the machine

The end of a battle is decided by what the tanks did in the turn, not by their machines. This file
connects the two. `Cpu.Truthful` says that the action in the slot is a halt just where the machine
has halted, with the same reason. A step keeps this as long as the `HP` register is above zero
(`Cpu.Truthful.step`): a machine that believes its tank destroyed hides whether it has halted.

The register shows the hit points of the tank exactly, as long as these fit into it, so a living
tank never believes that, whatever its program has written there. So the slots of living tanks stay
truthful in all battles (`Battle.Truthful.change`), and after a turn a living tank has halted as its
last deed iff its machine has halted (`Battle.lastAction_playTurn_eq_halt_iff`).
-/

namespace TankDuel

/-! ### Machines -/

/-- The action in the slot says whether and why the machine has halted. -/
def Cpu.Truthful (c : Cpu) : Prop :=
  ∀ action, c.pending = some action → c.halted = action.haltReason?

/-- **A step keeps the slot truthful** while the tank is alive. -/
theorem Cpu.Truthful.step {c c' : Cpu} {result : StepResult} (h : c.Truthful)
    (alive : 0 < c.registers.get .hp) (stepped : Stepped c result c') : c'.Truthful := by
  cases stepped with
  | shown => exact h
  -- Here the slot would say that the tank is destroyed, whether the machine has halted or not.
  | dead _ low => exact absurd alive (Int32.not_lt.mpr low)
  | halted _ _ halted =>
    rintro _ ⟨⟩
    exact halted
  | spent _ _ running =>
    rintro _ ⟨⟩
    exact running
  | ended | faulted | acted =>
    rintro _ ⟨⟩
    rfl
  | worked runs =>
    -- The slot was empty and stays so.
    intro action pending
    exact absurd (runs.idle.symm.trans pending) nofun

/-! ### Tanks -/

namespace Tank

/-- The slot of a living tank is truthful. -/
def Truthful (t : Tank) : Prop := t.isAlive → ∀ cpu, t.cpu = some cpu → cpu.Truthful

variable {t : Tank}

/-- An empty slot says nothing. -/
theorem Truthful.of_idle (h : ∀ cpu, t.cpu = some cpu → cpu.pending = none) : t.Truthful :=
  fun _ cpu hasCpu _ pending => absurd ((h cpu hasCpu).symm.trans pending) nofun

/-- A living tank's machine sees that it is alive. -/
theorem hp_sense_pos {cpu : Cpu} {ammo : Bool} (alive : t.isAlive) (hp_le : t.hp ≤ 2147483647) :
    0 < (cpu.sense (t.sensors ammo)).registers.get .hp := by
  have shown : (cpu.sense (t.sensors ammo)).registers.get .hp = Int32.ofInt t.hp := Cpu.get_sense ..
  have positive : 0 < t.hp := of_decide_eq_true alive
  rw [shown, Int32.lt_iff_toInt_lt, Int32.toInt_ofInt_of_le (by omega) (by omega)]
  exact positive

/-- A step of its machine keeps the slot of a tank truthful. -/
theorem Truthful.tick (h : t.Truthful) (hp_le : t.hp ≤ 2147483647) (ammo : Bool) :
    (t.tick ammo).Truthful := by
  unfold Tank.tick
  split
  next result t' stepped =>
    obtain ⟨alive, cpu, cpu', hasCpu, machine, rfl⟩ := step_eq_some_iff.mp stepped
    intro _ cpu'' hasCpu''
    -- The machine steps with the sensors shown to it, which leave the slot alone.
    obtain rfl : cpu' = cpu'' := Option.some.inj hasCpu''
    have seen : (cpu.sense (t.sensors ammo)).Truthful := h alive cpu hasCpu
    exact seen.step (hp_sense_pos alive hp_le) (Cpu.stepped_of_step_eq machine)
  next => exact h

/-- Any steps of its machine keep the slot of a tank truthful. -/
theorem Truthful.iterate (h : t.Truthful) (hp_le : t.hp ≤ 2147483647) (ammo : Bool) (n : Nat) :
    ((Tank.tick ammo)^[n] t).Truthful := by
  induction n generalizing t with
  | zero => exact h
  | succ n ih =>
    have same : (t.tick ammo).hp = t.hp := congrArg Pose.hp (pose_tick ammo t)
    exact ih (h.tick hp_le ammo) (same ▸ hp_le)

/-- Why the machine of a tank has halted, if it has. -/
def haltReason? (t : Tank) : Option HaltReason := t.cpu.bind Cpu.halted

/-- What waits in the slot of a living tank tells whether its machine has halted. -/
theorem Truthful.haltReason?_eq {action : Action} (h : t.Truthful) (alive : t.isAlive)
    (pending : t.pending? = some action) : t.haltReason? = action.haltReason? := by
  obtain ⟨cpu, hasCpu, slot⟩ := Option.bind_eq_some_iff.mp pending
  rw [haltReason?, hasCpu]
  exact h alive cpu hasCpu action slot

end Tank

/-! ### Battles -/

namespace Battle

/-- The slots of living tanks are truthful. -/
def Truthful (b : Battle) : Prop := ∀ side, (b.tank side).Truthful

variable {b b' : Battle} (side : Side)

/-- At the start the slots are empty. -/
theorem Truthful.fresh (config : Config) (arena : Arena) (programs : Option (Pair Program)) :
    (fresh config arena programs).Truthful :=
  fun _ => .of_idle fun _ hasCpu => pending_fresh hasCpu

/-- Hit points fit into a register. -/
theorem WithinLimits.hp_le_word (h : b.WithinLimits) : (b.tank side).hp ≤ 2147483647 := by
  have bound := h.hp_le side
  have word := b.config.maxHp.toInt_lt
  omega

/-- Any steps of the machines keep the slots truthful. -/
theorem Truthful.ticks (h : b.Truthful) (small : ∀ side, (b.tank side).hp ≤ 2147483647)
    (counts : Side → Nat) : (b.ticks counts).Truthful := by
  intro side
  rw [tank_ticks]
  exact (h side).iterate (small side) _ _

/-- A turn empties the slots. -/
theorem Truthful.playTurn (b : Battle) : b.playTurn.Truthful :=
  fun _ => .of_idle fun _ hasCpu => pending_playTurn hasCpu

/-- **Whatever happens, the slots stay truthful.** -/
theorem Truthful.change (change : Change b b') (small : ∀ side, (b.tank side).hp ≤ 2147483647)
    (h : b.Truthful) : b'.Truthful := by
  cases change with
  | restart arena programs => exact Truthful.fresh b.config arena programs
  | step stepped => exact ticks_of_step stepped ▸ h.ticks small _
  | turn resolved =>
    obtain ⟨-, -, -, rfl⟩ := resolveTurn_eq_ok_iff.mp resolved
    exact .playTurn b

/-! ### A turn -/

/-- After a turn, the last action of a tank is the one that it has taken. -/
theorem lastAction_playTurn :
    (b.playTurn.tank side).lastAction = ((b.actions.get side).map Action.deed).getD .idle :=
  calc (b.playTurn.tank side).lastAction
      = (b.afterMoves.tank side).lastAction := (congrArg Tank.lastAction (tank_playTurn b side) :)
    _ = (b.afterActions.tank side).lastAction :=
      (congrArg Tank.lastAction (bare_afterMoves b side) :)
    _ = ((b.actions.get side).map Action.deed).getD .idle :=
      (congrArg Tank.lastAction (bare_afterActions b side) :)

/-- A turn makes no machine halt and none run again. -/
theorem haltReason?_playTurn (orderly : b.Orderly) :
    (b.playTurn.tank side).haltReason? = (b.tank side).haltReason? := by
  have written (c : Cpu) (values : List (Register × Int)) :
      (values.foldl (fun c value => c.setRegister value.1 (Int32.ofInt value.2)) c).halted =
        c.halted := by
    induction values generalizing c with
    | nil => rfl
    | cons value values ih => exact ih _
  rw [Tank.haltReason?, Tank.haltReason?, cpu_playTurn side orderly, Tank.writeRegisters]
  dsimp only
  cases (b.tank side).cpu with
  | none => rfl
  | some cpu => exact written cpu _

/-- Nobody comes back to life. -/
theorem isAlive_of_playTurn (orderly : b.Orderly) (alive : (b.playTurn.tank side).isAlive) :
    (b.tank side).isAlive := by
  have positive : 0 < (b.playTurn.tank side).hp := of_decide_eq_true alive
  rw [hp_playTurn side orderly] at positive
  dsimp only at positive
  have before : 0 < (b.tank side).hp := by
    split_ifs at positive <;> omega
  exact decide_eq_true before

/-- An action is the deed of halting iff it says why the machine has halted. -/
private theorem deed_eq_halt_iff {action : Action} :
    action.deed = .halt ↔ action.haltReason?.isSome := by
  cases action <;> simp [Action.deed, Action.haltReason?]

/-- **After a turn** a living tank has halted as its last deed iff its machine has halted. -/
theorem lastAction_playTurn_eq_halt_iff (orderly : b.Orderly) (truthful : b.Truthful)
    (ready : b.isReady side) (alive : (b.playTurn.tank side).isAlive) :
    (b.playTurn.tank side).lastAction = .halt ↔ (b.playTurn.tank side).haltReason?.isSome := by
  have before := isAlive_of_playTurn side orderly alive
  -- The tank was alive and ready, so there is an action in its slot.
  obtain ⟨action, pending, taken⟩ := b.exists_action_of_isReady side before ready
  have told := (truthful side).haltReason?_eq before pending
  rw [lastAction_playTurn, taken, haltReason?_playTurn side orderly, told]
  exact deed_eq_halt_iff

end Battle

end TankDuel

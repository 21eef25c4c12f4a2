import TankDuel.Proofs.Battle.Turn

/-!
# The machines in a turn

Resolving a turn reads the action that waits in each machine and nothing else of it. So whatever
is done to the machines before a phase can as well be done after it: `Battle.mapCpus g` applies `g`
to both machines, and it can be moved out of every phase but one (`afterBullets_mapCpus`,
`actBoth_mapCpus`, `moveTanks_mapCpus`, `conclude_mapCpus`).

The exception is the sensor phase, which writes registers itself. What it writes does not depend on
the machines either (`view_mapCpus`), but whether it matters that `g` comes first depends on `g`.
All phases behind it are taken together in `Battle.finishTurn`.
-/

namespace TankDuel

namespace Tank

/-- Change the machine of a tank, if there is one. -/
def mapCpu (g : Cpu → Cpu) (t : Tank) : Tank := { t with cpu := t.cpu.map g }

variable (g : Cpu → Cpu) (t : Tank)

/-- Changing the machine leaves the tank where it stands. -/
@[simp] theorem pose_mapCpu : (t.mapCpu g).pose = t.pose := rfl

/-- Two changes of the machine are one. -/
theorem mapCpu_mapCpu (f : Cpu → Cpu) : (t.mapCpu f).mapCpu g = t.mapCpu (g ∘ f) := by
  simp [mapCpu]

/-- Changing the machine does not destroy the tank. -/
@[simp] theorem isAlive_mapCpu : (t.mapCpu g).isAlive = t.isAlive := rfl

/-- An action in the slot is not lost if `g` leaves the slot alone. -/
theorem pending?_mapCpu (keeps : ∀ c, (g c).pending = c.pending) :
    (t.mapCpu g).pending? = t.pending? := by
  unfold pending? mapCpu
  cases t.cpu with
  | none => rfl
  | some c => exact keeps c

/-- A tank is hit in the same way with a changed machine. -/
private theorem damage_mapCpu : (t.mapCpu g).damage = (t.damage.1, t.damage.2.mapCpu g) := by
  unfold damage
  dsimp only
  -- Whether the hit destroys the tank is decided by hit points alone.
  split
  next destroyed =>
    have destroyed : (t.isAlive && !{ t with hp := max (t.hp - 1) 0 }.isAlive) = true := destroyed
    rw [if_pos destroyed]
    rfl
  next spared =>
    have spared : ¬(t.isAlive && !{ t with hp := max (t.hp - 1) 0 }.isAlive) = true := spared
    rw [if_neg spared]
    rfl

end Tank

namespace Battle

/-- Change the machines of both tanks. -/
def mapCpus (g : Cpu → Cpu) (b : Battle) : Battle := { b with tanks := b.tanks.map (Tank.mapCpu g) }

variable (g : Cpu → Cpu) (b : Battle) (side : Side)

/-- The tanks of a battle with changed machines. -/
@[simp] theorem tank_mapCpus : (b.mapCpus g).tank side = (b.tank side).mapCpu g := Pair.get_map ..

/-- Two changes of the machines are one. -/
theorem mapCpus_mapCpus (f : Cpu → Cpu) : (b.mapCpus f).mapCpus g = b.mapCpus (g ∘ f) := by
  simp [mapCpus, Pair.map, Tank.mapCpu_mapCpu]

/-- The machines do not count for where the living tanks stand. -/
@[simp] theorem livingAt_mapCpus : (b.mapCpus g).livingAt side = b.livingAt side := by
  refine livingAt_eq_of_pose ?_
  rw [tank_mapCpus, Tank.pose_mapCpu]

/-- What is done to a tank without regard to its machine may come first or last. -/
private theorem modifyTank_mapCpus {f : Tank → Tank}
    (apart : ∀ t, f (t.mapCpu g) = (f t).mapCpu g) :
    (b.mapCpus g).modifyTank side f = (b.modifyTank side f).mapCpus g := by
  cases side <;> simp [modifyTank, mapCpus, Pair.modify, Pair.map, apart]

/-- Feedback goes to the tank, not to its machine. -/
private theorem tell_mapCpus (feedback : Feedback) :
    (b.mapCpus g).tell side feedback = (b.tell side feedback).mapCpus g :=
  modifyTank_mapCpus g b side fun _ => rfl

/-- A strike leaves the machines alone. -/
private theorem strike_mapCpus (cell : Coord) :
    (b.mapCpus g).strike side cell = (b.strike side cell).mapCpus g := by
  have damaged : ((b.mapCpus g).tank side.other).damage =
      ((b.tank side.other).damage.1, (b.tank side.other).damage.2.mapCpu g) := by
    rw [tank_mapCpus, Tank.damage_mapCpu]
  unfold strike
  dsimp only
  rw [damaged]
  -- What is left is to put the tank back and to write the logs, which hold no machines.
  obtain ⟨destroyed, hit⟩ := (b.tank side.other).damage
  cases side <;> cases destroyed <;> rfl

/-! ### Bullets -/

/-- How a bullet flies does not depend on the machines. -/
private theorem fate_mapCpus (m : Bullet Side) : (b.mapCpus g).fate m = b.fate m := by
  rw [fate, livingAt_mapCpus]
  rfl

/-- A bullet flies past the machines. -/
private theorem flyBullet_mapCpus (m : Bullet Side) :
    (b.mapCpus g).flyBullet m = ((b.flyBullet m).1, (b.flyBullet m).2.mapCpus g) := by
  refine Prod.ext ?_ ?_
  · rw [flyBullet_fst, flyBullet_fst, fate_mapCpus]
  · rw [flyBullet_snd, flyBullet_snd, fate_mapCpus]
    cases b.fate m with
    | aloft | spent | crashed => rfl
    | struck cell => exact strike_mapCpus g b m.owner cell

/-- All bullets fly past the machines. -/
private theorem flyBullets_mapCpus (ms : List (Bullet Side)) :
    (b.mapCpus g).flyBullets ms = ((b.flyBullets ms).1, (b.flyBullets ms).2.mapCpus g) := by
  induction ms generalizing b with
  | nil => rfl
  | cons m ms ih => rw [flyBullets_cons, flyBullets_cons, flyBullet_mapCpus, ih]

/-- The machines can be changed before or after the bullet phase. -/
theorem afterBullets_mapCpus : (b.mapCpus g).afterBullets = b.afterBullets.mapCpus g := by
  -- The turn is counted before the bullets fly.
  have flown := flyBullets_mapCpus g { b with turn := b.turn + 1 } b.bullets
  change { (({ b with turn := b.turn + 1 }.mapCpus g).flyBullets b.bullets).2 with
    bullets := (({ b with turn := b.turn + 1 }.mapCpus g).flyBullets b.bullets).1 } = _
  rw [flown]
  rfl

/-! ### Sensors -/

/-- What a tank sees does not depend on the machines. -/
theorem view_mapCpus : (b.mapCpus g).view side = b.view side := by
  unfold view occupants
  simp only [livingAt_mapCpus, tank_mapCpus]
  rfl

/-! ### Actions -/

/-- The machines can be changed before or after a shot. -/
private theorem fire_mapCpus : (b.mapCpus g).fire side = (b.fire side).mapCpus g := by
  -- Where the shot goes is the same, so the same is done with it.
  have shot : (b.mapCpus g).shot side = b.shot side := by
    refine shot_congr rfl rfl ?_ ?_ (livingAt_mapCpus ..)
    · rw [tank_mapCpus]
      rfl
    · rw [tank_mapCpus]
      rfl
  rw [fire_eq, fire_eq, shot]
  cases b.shot side with
  | reloading => exact tell_mapCpus ..
  | blocked cell => exact tell_mapCpus g (b.emit (.explosion cell none)) side .blocked
  | pointBlank cell => exact strike_mapCpus ..
  | launched cell =>
    rw [tank_mapCpus]
    rfl

/-- The machines can be changed before or after an action. -/
private theorem act_mapCpus (action : Option Action) :
    (b.mapCpus g).act side action = (b.act side action).mapCpus g := by
  cases action with
  | none => exact modifyTank_mapCpus g b side fun _ => rfl
  | some action =>
    have noted : (b.mapCpus g).note side action = (b.note side action).mapCpus g :=
      modifyTank_mapCpus g b side fun _ => rfl
    have before : ((b.mapCpus g).tank side).lastAction = (b.tank side).lastAction := by
      rw [tank_mapCpus]
      rfl
    rw [act_some, act_some, noted, before]
    -- From here on it does not matter that the deed was noted.
    generalize b.note side action = b
    cases action with
    | move | scan | ping => rfl
    | rotate => exact modifyTank_mapCpus g b side fun _ => rfl
    | fire => exact fire_mapCpus ..
    | wait | dead => exact tell_mapCpus ..
    | halt reason =>
      rw [carryOut, carryOut, tell_mapCpus]
      split <;> rfl

/-- The machines can be changed before or after the actions. -/
theorem actBoth_mapCpus (actions : Pair (Option Action)) :
    (b.mapCpus g).actBoth actions = (b.actBoth actions).mapCpus g := by
  rw [actBoth, act_mapCpus, act_mapCpus, actBoth]

/-- Where a tank means to go does not depend on the machines. -/
theorem intent_mapCpus (action : Option Action) :
    (b.mapCpus g).intent side action = b.intent side action := by
  unfold intent
  rw [tank_mapCpus]
  rfl

/-! ### Moves and the end -/

/-- The machines can be changed before or after the moves. -/
theorem moveTanks_mapCpus (intents : Pair (Option Coord)) :
    (b.mapCpus g).moveTanks intents = (b.moveTanks intents).mapCpus g := by
  have places : (b.mapCpus g).tanks.map Tank.position = b.tanks.map Tank.position := rfl
  have applied (t : Tank) (outcome : Option MoveOutcome) :
      applyMove (t.mapCpu g) outcome = (applyMove t outcome).mapCpu g := by
    unfold applyMove
    split
    · rfl
    · rfl
    · split <;> rfl
  unfold moveTanks
  dsimp only
  rw [places]
  simp only [tank_mapCpus, applied]
  rfl

/-- The machines can be changed before or after the destroyed tanks are marked. -/
theorem markDestroyed_mapCpus : (b.mapCpus g).markDestroyed = b.markDestroyed.mapCpus g := by
  refine congrArg (fun tanks => { b with tanks }) (Pair.ext_get fun side => ?_)
  simp only [mapCpus, markDestroyed, Pair.get_map, Tank.isAlive_mapCpu]
  split <;> rfl

/-- The verdict does not depend on the machines. -/
theorem verdict_mapCpus : (b.mapCpus g).verdict = b.verdict := by
  unfold verdict
  simp only [tank_mapCpus, Tank.isAlive_mapCpu]
  rfl

/-- The machines can be changed before or after the conclusion. -/
theorem conclude_mapCpus : (b.mapCpus g).conclude = b.conclude.mapCpus g := by
  unfold conclude
  rw [verdict_mapCpus]
  split <;> rfl

/-! ### The turn behind the sensor phase -/

/-- What is left of a turn when the sensors have answered. -/
def finishTurn (actions : Pair (Option Action)) : Battle :=
  let intents := Pair.ofFn fun side => b.intent side (actions.get side)
  ((b.actBoth actions).moveTanks intents).markDestroyed.conclude.mapCpus Cpu.clearPending

/-- A turn is its first two phases and all that is taken together behind them. -/
theorem playTurn_eq : b.playTurn = b.afterAnswers.finishTurn b.actions := rfl

end Battle

end TankDuel

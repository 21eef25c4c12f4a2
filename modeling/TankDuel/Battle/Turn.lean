import TankDuel.Arena.Ray
import TankDuel.Battle.Basic
import TankDuel.Battle.Moves

/-!
# Resolving a turn

When both tanks are ready, their actions take effect together. The phases come in a fixed order:
bullets fly, sensors answer, actions are carried out, tanks move, and the end of the battle is
decided. In each phase the first tank is handled before the second and bullets in the order in
which they were fired.

Both actions are collected before the first phase. So a tank that a bullet destroys in this turn
still acts in it, while one that was destroyed earlier does nothing.
-/

namespace TankDuel

/-- Why a turn cannot be resolved. -/
inductive TurnError where
  | noProgram
  | gameOver
  /-- A living tank has no action pending. -/
  | notReady (tank : Side)
deriving DecidableEq

/-- The wording of the error. -/
def TurnError.message : TurnError → String
  | noProgram => "no programs loaded"
  | gameOver => "the battle is over"
  | notReady tank => s!"{tank.label} has no pending action"

namespace Battle

/-- Take a hit point from the opponent of `shooter`, and log it. -/
def strike (b : Battle) (shooter : Side) (cell : Coord) : Battle :=
  let target := shooter.other
  let (destroyed, tank) := (b.tank target).damage
  let b := { b with tanks := b.tanks.set target tank }
  let b := b.emit (.explosion cell (some target))
  let b := b.report (.hit shooter target cell tank.hp)
  if destroyed then b.report (.destroyed target) else b

/-! ### Bullets -/

/-- Let one bullet fly. -/
def flyBullet (b : Battle) (bullet : Bullet Side) : Option (Bullet Side) × Battle :=
  let flight := bullet.flight b.arena.grid b.config.bulletRange.toInt b.config.bulletSpeed.toNat
    (b.livingAt bullet.owner.other)
  match flight with
  | .aloft bullet => (some bullet, b)
  | .spent => (none, b)
  | .crashed wall => (none, b.emit (.explosion wall none))
  | .struck cell => (none, b.strike bullet.owner cell)

/-- Let bullets fly one after the other, and keep those that stay in the air. -/
def flyBullets (b : Battle) : List (Bullet Side) → List (Bullet Side) × Battle
  | [] => ([], b)
  | bullet :: rest =>
    let (survivor, b) := b.flyBullet bullet
    let (survivors, b) := b.flyBullets rest
    (survivor.toList ++ survivors, b)

/-- The bullet phase. Bullets fly in the order of their numbers. This is the order in which they are
listed, so there is nothing to sort (`Battle.Orderly.mergeSort_bullets`). -/
def advanceBullets (b : Battle) : Battle :=
  let (survivors, b) := b.flyBullets b.bullets
  { b with bullets := survivors }

/-! ### Sensors -/

/-- The living tanks and where they stand. -/
def occupants (b : Battle) : List (Side × Coord) :=
  Side.all.filterMap fun side => (b.livingAt side).map fun cell => (side, cell)

/-- The ray that a tank sees along its facing. -/
def view (b : Battle) (side : Side) : Ray Side :=
  let tank := b.tank side
  b.arena.grid.castRay tank.position tank.facing.dx tank.facing.dy side b.occupants

/-- Answer a scan or a ping. If both results go to one register, the second one stays. -/
def answer (b : Battle) (side : Side) : Option Action → Battle
  | some (.scan distance kind) =>
    let ray := b.view side
    b.modifyTank side (·.writeRegisters [(distance, ray.distance), (kind, ray.hit.code)])
  | some (.ping x y) =>
    match b.livingAt side.other with
    | some cell =>
      (b.modifyTank side (·.writeRegisters [(x, cell.x), (y, cell.y)])).emit (.ping side cell)
    | none => b.modifyTank side (·.writeRegisters [(x, -1), (y, -1)])
  | _ => b

/-! ### Actions -/

/-- Set the feedback of a tank. -/
def tell (b : Battle) (side : Side) (feedback : Feedback) : Battle :=
  b.modifyTank side fun tank => { tank with lastFeedback := feedback }

/-- Fire. A tank that still has a bullet in flight reloads. If the cell ahead is not floor, the shot
explodes there; if the living opponent stands there, it is hit at once. -/
def fire (b : Battle) (side : Side) : Battle :=
  let tank := b.tank side
  let ahead := tank.position.step tank.facing
  if b.hasBullet side then b.tell side .reloading
  else if !b.arena.grid.isFloor ahead then
    (b.emit (.explosion ahead none)).tell side .blocked
  else if b.livingAt side.other = some ahead then b.strike side ahead
  else
    { b with
      nextBulletId := b.nextBulletId + 1
      bullets := b.bullets ++ [Bullet.fired b.nextBulletId ahead tank.facing side] }

/-- Carry out an action, except for moving. -/
def carryOut (b : Battle) (side : Side) (wasHalted : Bool) : Action → Battle
  | .rotate rotation =>
    b.modifyTank side fun tank => { tank with facing := tank.facing.rotate rotation }
  | .fire => b.fire side
  | .wait reason => b.tell side (.waiting reason)
  | .halt reason =>
    let b := b.tell side (.halted reason)
    if wasHalted then b else b.report (.halted side reason)
  | .dead => b.tell side .destroyed
  | .move _ | .scan _ _ | .ping _ _ => b

/-- Note what a tank does, and carry it out. -/
def act (b : Battle) (side : Side) : Option Action → Battle
  | none => b.modifyTank side fun tank => { tank with lastAction := .idle }
  | some action =>
    let wasHalted := (b.tank side).lastAction == .halt
    (b.modifyTank side fun tank =>
      { tank with lastAction := action.deed, lastFeedback := .ok }).carryOut side wasHalted action

/-- The cell that a tank wants to drive to. -/
def intent (b : Battle) (side : Side) : Option Action → Option Coord
  | some (.move heading) => some ((b.tank side).destination heading)
  | _ => none

/-! ### Movement -/

/-- Take over how a move ended. -/
def applyMove (t : Tank) : Option MoveOutcome → Tank
  | none => t
  | some (.moved cell) => { t with position := cell }
  | some outcome =>
    match outcome.refusal? with
    | some feedback => { t with lastFeedback := feedback }
    | none => t

/-- The movement phase. -/
def moveTanks (b : Battle) (intents : Pair (Option Coord)) : Battle :=
  let outcomes := resolveMoves b.arena.grid (b.tanks.map Tank.position) intents
  { b with tanks := Pair.ofFn fun side => applyMove (b.tank side) (outcomes.get side) }

/-- Destroyed tanks hear nothing else any more. -/
def markDestroyed (b : Battle) : Battle :=
  { b with
    tanks := b.tanks.map fun t => if t.isAlive then t else { t with lastFeedback := .destroyed } }

/-! ### The end of the battle -/

/-- How the battle ends after a turn, if it does. -/
def verdict (b : Battle) : Option (Outcome Side) :=
  match (b.tank .first).isAlive, (b.tank .second).isAlive with
  | false, false => some (.draw .bothDestroyed)
  | true, false => some (.winner .first)
  | false, true => some (.winner .second)
  | true, true =>
    if (b.tank .first).lastAction = .halt ∧ (b.tank .second).lastAction = .halt then
      some (.draw .stalemate)
    else if b.config.maxTurns.toNat ≤ b.turn then some (.draw .turnLimit)
    else none

/-- Decide whether the battle ends. -/
def conclude (b : Battle) : Battle :=
  match b.verdict with
  | some outcome => { b.report (.gameOver outcome) with outcome := some outcome }
  | none => b

/-! ### The turn -/

/-- Let both actions take effect. -/
def playTurn (b : Battle) : Battle :=
  -- Both actions are fixed before anything happens.
  let actions := b.tanks.map Tank.action?
  let b := { b with turn := b.turn + 1 }.advanceBullets
  let b := (b.answer .first actions.first).answer .second actions.second
  -- Driving is only noted here; it takes effect after both tanks have acted.
  let intents := Pair.ofFn fun side => b.intent side (actions.get side)
  let b := (b.act .first actions.first).act .second actions.second
  let b := ((b.moveTanks intents).markDestroyed).conclude
  { b with tanks := b.tanks.map Tank.clearPending }

/-- Resolve a turn, or say why it cannot be resolved. -/
def resolveTurn (b : Battle) : Except TurnError Battle :=
  if !b.hasPrograms then .error .noProgram
  else if b.isOver then .error .gameOver
  else if !b.isReady .first then .error (.notReady .first)
  else if !b.isReady .second then .error (.notReady .second)
  else .ok b.playTurn

end Battle

end TankDuel

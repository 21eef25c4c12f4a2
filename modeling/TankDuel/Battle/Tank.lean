import TankDuel.Arena.Basic
import TankDuel.Machine.Cpu

/-!
# Tanks

A tank has a place, a facing and hit points, and a machine once programs are installed. It
remembers what it did in the last turn and how that went; this is for players to see and decides
nothing but whether a battle has come to a standstill.
-/

namespace TankDuel

/-- How a tank's last action went. -/
inductive Feedback where
  | ok
  /-- The tank's bullet is still in flight. -/
  | reloading
  /-- The cell ahead cannot be fired at, or the opponent stands in the way. -/
  | blocked
  /-- The cell to drive to is a wall or off the grid. -/
  | wall
  /-- Both tanks wanted the same cell, or each other's. -/
  | collision
  | waiting (reason : WaitReason)
  | halted (reason : HaltReason)
  | destroyed
deriving DecidableEq

/-- The wording of feedback. -/
def Feedback.text : Feedback → String
  | ok => "ok"
  | reloading => "reloading"
  | blocked => "blocked"
  | wall => "wall"
  | collision => "collision"
  | waiting reason => "waiting: " ++ reason.text
  | halted reason => "halted: " ++ reason.text
  | destroyed => "destroyed"

/-- What a tank did in a turn. -/
inductive Deed where
  | idle
  | move (heading : Heading)
  | rotate (rotation : Rotation)
  | fire
  | scan
  | ping
  | wait
  | halt
deriving DecidableEq

/-- The wording of a deed. -/
def Deed.text : Deed → String
  | idle => "idle"
  | move .forward => "move forward"
  | move .backward => "move backward"
  | rotate .left => "rotate left"
  | rotate .right => "rotate right"
  | fire => "fire"
  | scan => "scan"
  | ping => "ping"
  | wait => "wait"
  | halt => "halt"

/-- The deed that an action comes to. -/
def Action.deed : Action → Deed
  | move heading => .move heading
  | rotate rotation => .rotate rotation
  | fire => .fire
  | scan _ _ => .scan
  | ping _ _ => .ping
  | wait _ => .wait
  | halt _ => .halt
  | dead => .idle

/-- A tank. -/
structure Tank where
  position : Coord
  facing : Direction
  hp : Int
  lastAction : Deed
  lastFeedback : Feedback
  /-- How many operations its machine has done. -/
  totalOps : Nat
  cpu : Option Cpu
deriving DecidableEq

namespace Tank

/-- A fresh tank without a machine. -/
def atSpawn (spawn : Spawn) (maxHp : Int) : Tank where
  position := spawn.position
  facing := spawn.facing
  hp := maxHp
  lastAction := .idle
  lastFeedback := .ok
  totalOps := 0
  cpu := none

/-- Whether a tank has hit points left. -/
def isAlive (t : Tank) : Bool := 0 < t.hp

/-- Take one hit point, if there is one, and say whether this destroyed the tank. -/
def damage (t : Tank) : Bool × Tank :=
  let hit := { t with hp := max (t.hp - 1) 0 }
  if t.isAlive && !hit.isAlive then (true, { hit with lastFeedback := .destroyed })
  else (false, hit)

/-- What the sensor registers of a tank show; `ammo` says whether it has no bullet in flight. -/
def sensors (t : Tank) (ammo : Bool) : Sensors where
  x := Int32.ofInt t.position.x
  y := Int32.ofInt t.position.y
  facing := Int32.ofNat t.facing.index
  hp := Int32.ofInt t.hp
  ammo := ammo

/-- Renew the sensors and do one step. A destroyed tank, or one without a machine, does none. -/
def step (t : Tank) (ammo : Bool) : Option (StepResult × Tank) :=
  if t.isAlive then
    match t.cpu with
    | none => none
    | some cpu =>
      let (result, cpu) := (cpu.sense (t.sensors ammo)).step
      let ops := if result.endsTurn then t.totalOps else t.totalOps + 1
      some (result, { t with cpu := some cpu, totalOps := ops })
  else none

/-- The action that waits for the turn to be resolved. -/
def pending? (t : Tank) : Option Action := t.cpu.bind Cpu.pending

/-- Whether the turn can be resolved as far as this tank is concerned. -/
def isReady (t : Tank) : Bool := !t.isAlive || t.pending?.isSome

/-- The action of a tank that was alive when the turn began. -/
def action? (t : Tank) : Option Action := if t.isAlive then t.pending? else none

/-- Write registers of the machine, if there is one, one after the other. -/
def writeRegisters (t : Tank) (values : List (Register × Int)) : Tank :=
  { t with
    cpu := t.cpu.map fun cpu =>
      values.foldl (fun cpu value => cpu.setRegister value.1 (Int32.ofInt value.2)) cpu }

/-- The cell that a tank drives to. -/
def destination (t : Tank) : Heading → Coord
  | .forward => t.position.step t.facing
  | .backward => t.position.step t.facing.opposite

/-- Open the next turn. -/
def clearPending (t : Tank) : Tank := { t with cpu := t.cpu.map Cpu.clearPending }

end Tank

end TankDuel

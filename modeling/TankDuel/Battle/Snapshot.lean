import TankDuel.Battle.Basic

/-!
# Snapshots

A snapshot is what an observer sees of a battle. It is plain data: its lists may hold any number of
tanks and bullets, with any identifiers and anywhere, so that boards can be drawn and sanity can be
checked of snapshots that no battle produces.
-/

namespace TankDuel

/-- What an observer sees of a tank. -/
structure TankView where
  id : Nat
  position : Coord
  facing : Direction
  hp : Int
  alive : Bool
  /-- The registers, if there is a machine. -/
  registers : Option RegisterFile
  pc : Nat
  halted : Option HaltReason
  lastAction : Deed
  lastFeedback : Feedback
  totalOps : Nat
deriving DecidableEq

/-- What an observer sees of a battle. -/
structure Snapshot where
  turn : Nat
  config : Config
  width : Int
  height : Int
  walls : List Coord
  tanks : List TankView
  bullets : List (Bullet Nat)
  events : Array Event
  messages : Array Message
  outcome : Option (Outcome Nat)
deriving DecidableEq

/-- Name the owner of a bullet differently. -/
def Bullet.mapOwner {ι κ : Type} (f : ι → κ) (b : Bullet ι) : Bullet κ where
  id := b.id
  position := b.position
  dx := b.dx
  dy := b.dy
  owner := f b.owner
  distance := b.distance

/-- What an observer sees of the tank of a side. -/
def TankView.ofTank (side : Side) (t : Tank) : TankView where
  id := side.number
  position := t.position
  facing := t.facing
  hp := t.hp
  alive := t.isAlive
  registers := t.cpu.map Cpu.registers
  pc := (t.cpu.map Cpu.pc).getD 0
  halted := t.cpu.bind Cpu.halted
  lastAction := t.lastAction
  lastFeedback := t.lastFeedback
  totalOps := t.totalOps

/-- What an observer sees of a battle. -/
def Battle.snapshot (b : Battle) : Snapshot where
  turn := b.turn
  config := b.config
  width := b.arena.grid.width
  height := b.arena.grid.height
  walls := b.arena.grid.walls
  tanks := Side.all.map fun side => .ofTank side (b.tank side)
  bullets := b.bullets.map (Bullet.mapOwner Side.number)
  events := b.events
  messages := b.messages
  outcome := b.outcome.map (Outcome.map Side.number)

namespace Snapshot

/-- Whether the battle has ended. -/
def isOver (s : Snapshot) : Bool := s.outcome.isSome

/-- The first tank with a given identifier. -/
def tank? (s : Snapshot) (id : Nat) : Option TankView := s.tanks.find? fun t => t.id = id

end Snapshot

end TankDuel

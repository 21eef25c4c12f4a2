import TankDuel.Arena.Basic

/-!
# Built-in levels

There are three levels, numbered from 1. All have the same size and the same spawns and differ in
their walls.
-/

namespace TankDuel

/-- A built-in arena. -/
inductive Level where
  /-- No walls. -/
  | openField
  /-- A block of four walls in the middle. -/
  | centerBlock
  /-- Ten scattered walls. -/
  | scattered
deriving DecidableEq

namespace Level

/-- The number of a level. -/
def number : Level → Nat
  | openField => 1
  | centerBlock => 2
  | scattered => 3

/-- The level with a given number, if there is one. -/
def ofNumber? : Nat → Option Level
  | 1 => some openField
  | 2 => some centerBlock
  | 3 => some scattered
  | _ => none

/-- The level with a given number, or the error that there is none. -/
def ofNumber (n : Nat) : Except ArenaError Level :=
  match ofNumber? n with
  | some level => .ok level
  | none => .error (.unknownLevel n)

/-- The width and height of every level. -/
def size : Int := 12

/-- The walls of a level. -/
def walls : Level → List Coord
  | openField => []
  | centerBlock => [⟨5, 5⟩, ⟨6, 5⟩, ⟨5, 6⟩, ⟨6, 6⟩]
  | scattered =>
    [⟨3, 3⟩, ⟨8, 3⟩, ⟨3, 8⟩, ⟨8, 8⟩, ⟨5, 1⟩, ⟨6, 10⟩, ⟨1, 9⟩, ⟨10, 2⟩, ⟨4, 6⟩, ⟨7, 5⟩]

/-- The spawns of every level: the tanks face each other across the arena. -/
def spawns : Pair Spawn := ⟨⟨⟨1, 6⟩, .east⟩, ⟨⟨size - 2, 6⟩, .west⟩⟩

/-- The grid of a level. -/
def grid (level : Level) : Grid := (Grid.square size).addWalls level.walls

/-- The arena of a level. -/
def arena (level : Level) : Arena where
  grid := level.grid
  spawns := spawns
  onFloor := by intro side; cases level <;> cases side <;> decide
  apart := by decide

end Level

end TankDuel

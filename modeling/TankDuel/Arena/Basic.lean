import TankDuel.Arena.Direction
import TankDuel.Arena.Grid
import TankDuel.Side

/-!
# Arenas

An arena is a grid with a spawn for each tank. Both spawn cells are floor and they differ, which is
what `Arena.ofParts` checks.
-/

namespace TankDuel

/-- Where a tank starts and which way it faces. -/
structure Spawn where
  position : Coord
  facing : Direction
deriving DecidableEq

/-- Why there is no such arena. -/
inductive ArenaError where
  | unknownLevel (number : Nat)
  /-- A map has no rows. -/
  | empty
  /-- A row of a map is not as wide as the first one. -/
  | raggedRow (row expected found : Nat)
  | unknownTile (row col : Nat) (tile : Char)
  | missingSpawn (side : Side)
  | duplicateSpawn (side : Side)
  /-- A spawn is off the grid or on a wall. -/
  | invalidSpawn (side : Side)
  | sharedSpawn
deriving DecidableEq

/-- The wording of an error. -/
def ArenaError.message : ArenaError → String
  | unknownLevel number => s!"unknown level {number}"
  | empty => "map is empty"
  | raggedRow row expected found => s!"row {row} has width {found}, expected {expected}"
  | unknownTile row col tile => s!"unknown tile '{tile}' at row {row}, column {col}"
  | missingSpawn side => s!"no spawn for {side.label}"
  | duplicateSpawn side => s!"more than one spawn for {side.label}"
  | invalidSpawn side => s!"spawn for {side.label} is off the grid or on a wall"
  | sharedSpawn => "both tanks spawn on the same cell"

/-- A grid and two spawns on different floor cells. -/
structure Arena where
  grid : Grid
  spawns : Pair Spawn
  onFloor : ∀ side, grid.isFloor (spawns.get side).position
  apart : spawns.first.position ≠ spawns.second.position
deriving DecidableEq

namespace Arena

/-- Put an arena together. The first spawn is checked before the second. -/
def ofParts (grid : Grid) (spawns : Pair Spawn) : Except ArenaError Arena :=
  if first : grid.isFloor spawns.first.position then
    if second : grid.isFloor spawns.second.position then
      if apart : spawns.first.position ≠ spawns.second.position then
        .ok ⟨grid, spawns, fun | .first => first | .second => second, apart⟩
      else .error .sharedSpawn
    else .error (.invalidSpawn .second)
  else .error (.invalidSpawn .first)

/-- The spawn of the tank with a number, if there is such a tank. -/
def spawnNumbered? (a : Arena) (number : Nat) : Option Spawn :=
  (Side.ofNumber? number).map a.spawns.get

end Arena

end TankDuel

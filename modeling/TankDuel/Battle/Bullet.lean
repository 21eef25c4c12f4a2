import TankDuel.Arena.Direction
import TankDuel.Arena.Grid

/-!
# Bullets in flight

A bullet flies straight on, cell by cell. `Flight` says how a flight over some cells ends. Only the
one living tank that does not own the bullet can be struck, so where that tank stands, if it is
alive, is all a flight has to know about tanks.

Before a bullet moves it strikes a tank that has driven onto its cell. In each step the range is
checked first, then the edge of the grid, then walls; the bullet has to enter a cell to strike the
tank there.
-/

namespace TankDuel

/-- A bullet; its owner is named by a value of type `ι`. -/
structure Bullet (ι : Type) where
  id : Nat
  position : Coord
  dx : Int
  dy : Int
  owner : ι
  /-- How many cells it has come, the one it was fired into included. -/
  distance : Int
deriving DecidableEq

/-- How a flight ends. -/
inductive Flight (ι : Type) where
  /-- The bullet is still in the air. -/
  | aloft (bullet : Bullet ι)
  /-- It has spent its range or left the grid. -/
  | spent
  /-- It has exploded at a wall. -/
  | crashed (wall : Coord)
  /-- It has struck the tank on a cell. -/
  | struck (cell : Coord)
deriving DecidableEq

namespace Bullet

variable {ι : Type}

/-- A bullet that has just been fired into a cell. -/
def fired (id : Nat) (cell : Coord) (facing : Direction) (owner : ι) : Bullet ι where
  id := id
  position := cell
  dx := facing.dx
  dy := facing.dy
  owner := owner
  distance := 1

/-- The cell that a bullet flies to next. -/
def nextCell (b : Bullet ι) : Coord := b.position.offset b.dx b.dy

/-- Fly over some further cells. -/
def fly (grid : Grid) (range : Int) (enemy : Option Coord) : (cells : Nat) → Bullet ι → Flight ι
  | 0, b => .aloft b
  | cells + 1, b =>
    let next := b.nextCell
    -- The range comes first: a bullet that has spent it does not even reach a wall.
    if range < b.distance + 1 then .spent
    else if !grid.inBounds next then .spent
    else if grid.isWall next then .crashed next
    else if enemy = some next then .struck next
    else fly grid range enemy cells { b with position := next, distance := b.distance + 1 }

/-- The flight of a bullet in one turn. -/
def flight (grid : Grid) (range : Int) (speed : Nat) (enemy : Option Coord) (b : Bullet ι) :
    Flight ι :=
  if enemy = some b.position then .struck b.position else fly grid range enemy speed b

end Bullet

end TankDuel

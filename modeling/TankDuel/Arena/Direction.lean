import TankDuel.Arena.Coord
import TankDuel.Machine.Operand

/-!
# Compass directions

The four directions are numbered clockwise from north, so a turn to the right adds one and a turn
to the left adds three, modulo four.
-/

namespace TankDuel

/-- A direction in which a tank can face. -/
inductive Direction where
  | north
  | east
  | south
  | west
deriving DecidableEq

namespace Direction

/-- The number of a direction. -/
def index : Direction → Nat
  | north => 0
  | east => 1
  | south => 2
  | west => 3

/-- The direction with a given number, modulo four. -/
def ofIndex (n : Nat) : Direction :=
  match n % 4 with
  | 0 => north
  | 1 => east
  | 2 => south
  | _ => west

/-- How many columns a step in this direction goes to the right. -/
def dx : Direction → Int
  | east => 1
  | west => -1
  | _ => 0

/-- How many rows a step in this direction goes down. -/
def dy : Direction → Int
  | north => -1
  | south => 1
  | _ => 0

/-- The direction after a quarter turn. -/
def rotate (d : Direction) : Rotation → Direction
  | .right => ofIndex (d.index + 1)
  | .left => ofIndex (d.index + 3)

/-- The opposite direction. -/
def opposite (d : Direction) : Direction := ofIndex (d.index + 2)

/-- The name of a direction. -/
def name : Direction → String
  | north => "north"
  | east => "east"
  | south => "south"
  | west => "west"

/-- The name of a direction with a capital letter. -/
def title : Direction → String
  | north => "North"
  | east => "East"
  | south => "South"
  | west => "West"

/-- Every direction, clockwise from north. -/
def all : List Direction := [north, east, south, west]

/-- The number of a direction names it. -/
@[simp] theorem ofIndex_index (d : Direction) : ofIndex d.index = d := by cases d <;> rfl

end Direction

/-- The neighbouring cell in a direction. -/
def Coord.step (c : Coord) (d : Direction) : Coord := c.offset d.dx d.dy

end TankDuel

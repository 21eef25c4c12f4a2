import TankDuel.Arena.Grid

/-!
# Rays

A ray starts beside a cell and goes on by equal steps until something stops it: the edge of the
grid, a wall, or a tank other than the one that looks. The result is the number of steps to the
cell that stopped it, and what is there.

A ray that takes steps at all meets at most as many cells of the grid in a row as the grid is wide
or high. So `castFrom` looks at that many cells and knows without looking that the next one lies
outside.
-/

namespace TankDuel

/-- What a ray meets; tanks are named by values of type `ι`. -/
inductive RayHit (ι : Type) where
  /-- The edge of the grid. -/
  | nothing
  | wall
  | tank (id : ι)
deriving DecidableEq

/-- The number that stands for a hit in a register. -/
def RayHit.code {ι : Type} : RayHit ι → Int
  | nothing => 0
  | wall => 1
  | tank _ => 2

/-- How far a ray goes and what it meets. -/
structure Ray (ι : Type) where
  distance : Int
  hit : RayHit ι
deriving DecidableEq

namespace Grid

variable {ι : Type} [DecidableEq ι]

/-- What stops a ray at a cell, if anything does. -/
def obstacle? (g : Grid) (viewer : ι) (occupants : List (ι × Coord)) (c : Coord) :
    Option (RayHit ι) :=
  if !g.inBounds c then some .nothing
  else if g.isWall c then some .wall
  else (occupants.find? fun o => o.1 ≠ viewer && o.2 = c).map fun o => .tank o.1

/-- Follow a ray over at most `cells` further cells, the next being `c` at distance `distance`. -/
def castFrom (stop : Coord → Option (RayHit ι)) (dx dy : Int) :
    (cells : Nat) → (c : Coord) → (distance : Int) → Ray ι
  | 0, _, distance => ⟨distance, .nothing⟩
  | cells + 1, c, distance =>
    match stop c with
    | some hit => ⟨distance, hit⟩
    | none => castFrom stop dx dy cells (c.offset dx dy) (distance + 1)

/-- Cast a ray from a cell. A ray without direction meets nothing at distance 0. -/
def castRay (g : Grid) (origin : Coord) (dx dy : Int) (viewer : ι)
    (occupants : List (ι × Coord)) : Ray ι :=
  if dx = 0 ∧ dy = 0 then ⟨0, .nothing⟩
  else
    castFrom (g.obstacle? viewer occupants) dx dy (max g.width g.height).toNat
      (origin.offset dx dy) 1

end Grid

end TankDuel

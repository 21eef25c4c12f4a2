import TankDuel.Arena.Grid
import TankDuel.Battle.Tank

/-!
# Simultaneous moves

Both tanks move at the same time. A move is judged by three rules, of which the first that applies
decides:

1. the cell has to be floor;
2. if both moves pass the first rule, the tanks must not want the same cell or each other's;
3. the cell must not be the one where the other tank stands, even if that tank drives away.
-/

namespace TankDuel

/-- How a move ends. -/
inductive MoveOutcome where
  | moved (cell : Coord)
  | intoWall
  | collided
  | blocked
deriving DecidableEq

/-- The feedback to a move that was refused. -/
def MoveOutcome.refusal? : MoveOutcome → Option Feedback
  | moved _ => none
  | intoWall => some .wall
  | collided => some .collision
  | blocked => some .blocked

/-- Whether two moves to floor cells exclude each other, the tanks standing on `positions`. -/
def movesCollide (positions : Pair Coord) (first second : Coord) : Bool :=
  first = second || (first = positions.second && second = positions.first)

/-- Judge the moves of both tanks. -/
def resolveMoves (grid : Grid) (positions : Pair Coord) (intents : Pair (Option Coord)) :
    Pair (Option MoveOutcome) :=
  let collision :=
    match intents.first.filter grid.isFloor, intents.second.filter grid.isFloor with
    | some first, some second => movesCollide positions first second
    | _, _ => false
  Pair.ofFn fun side =>
    (intents.get side).map fun target =>
      if !grid.isFloor target then .intoWall
      else if collision then .collided
      else if target = positions.get side.other then .blocked
      else .moved (grid.clamp target)

end TankDuel

import Mathlib.Tactic.SplitIfs
import TankDuel.Battle.Moves

/-!
# Simultaneous moves keep tanks apart

`resolveMoves_eq_moved_iff` says when a move goes through: its target is floor, the moves do not
collide, and the other tank does not stand on the target. From this follow the two facts that the
movement phase is there for. Tanks land on floor (`isFloor_landed`), and two tanks that stood apart
land apart (`landed_ne`): if only one of them moves it avoids the other, and if both move they would
have collided on a common target.

Which tank counts as the first makes no difference (`landed_swap`).
-/

namespace TankDuel

/-- The nearest cell to a cell on the grid is the cell itself. -/
theorem Grid.clamp_of_isFloor {g : Grid} {c : Coord} (h : g.isFloor c) : g.clamp c = c := by
  obtain ⟨inside, -⟩ : g.inBounds c ∧ !g.isWall c := by simpa [Grid.isFloor] using h
  obtain ⟨⟨left, right⟩, top, bottom⟩ := Coord.inside_iff.mp inside
  have sameX : max 0 (min c.x (g.width - 1)) = c.x := by omega
  have sameY : max 0 (min c.y (g.height - 1)) = c.y := by omega
  rw [Grid.clamp, sameX, sameY]

/-- Whether both moves go to floor and exclude each other. -/
def intentsCollide (grid : Grid) (positions : Pair Coord) (intents : Pair (Option Coord)) : Bool :=
  match intents.first.filter grid.isFloor, intents.second.filter grid.isFloor with
  | some first, some second => movesCollide positions first second
  | _, _ => false

variable {grid : Grid} {positions : Pair Coord} {intents : Pair (Option Coord)}

/-- What becomes of the move of one tank. -/
theorem get_resolveMoves (side : Side) :
    (resolveMoves grid positions intents).get side =
      (intents.get side).map fun target =>
        if !grid.isFloor target then .intoWall
        else if intentsCollide grid positions intents then .collided
        else if target = positions.get side.other then .blocked
        else .moved (grid.clamp target) :=
  Pair.get_ofFn _ side

/-- **When a move goes through.** -/
theorem resolveMoves_eq_moved_iff {side : Side} {cell : Coord} :
    (resolveMoves grid positions intents).get side = some (.moved cell) ↔
      intents.get side = some cell ∧ grid.isFloor cell ∧
        intentsCollide grid positions intents = false ∧ cell ≠ positions.get side.other := by
  rw [get_resolveMoves]
  cases intents.get side with
  | none => simp
  | some target =>
    rw [Option.map_some, Option.some.injEq, Option.some.injEq]
    constructor
    · intro h
      -- Only the last of the four outcomes is a move.
      split_ifs at h with wall collision blocked
      have floor : grid.isFloor target := by simpa using wall
      obtain rfl : target = cell := by
        rw [Grid.clamp_of_isFloor floor] at h
        exact MoveOutcome.moved.inj h
      exact ⟨rfl, floor, by simpa using collision, blocked⟩
    · rintro ⟨rfl, floor, collision, blocked⟩
      simp [floor, collision, blocked, Grid.clamp_of_isFloor floor]

/-- Two moves to one floor cell collide. -/
private theorem intentsCollide_of_same {cell : Coord} (floor : grid.isFloor cell)
    (h : ∀ side, intents.get side = some cell) : intentsCollide grid positions intents := by
  have first : intents.first = some cell := h .first
  have second : intents.second = some cell := h .second
  have kept : (some cell).filter grid.isFloor = some cell := by simp [Option.filter, floor]
  rw [intentsCollide, first, second, kept]
  simp [movesCollide]

/-- Where a tank is after its move. -/
def landed (grid : Grid) (positions : Pair Coord) (intents : Pair (Option Coord)) (side : Side) :
    Coord :=
  match (resolveMoves grid positions intents).get side with
  | some (.moved cell) => cell
  | _ => positions.get side

variable (grid positions intents) in
/-- A tank either stays or makes its move. -/
theorem landed_cases (side : Side) :
    landed grid positions intents side = positions.get side ∨
      (resolveMoves grid positions intents).get side =
        some (.moved (landed grid positions intents side)) := by
  unfold landed
  split
  next moved => exact .inr moved
  next => exact .inl rfl

/-- Tanks land on floor cells. -/
theorem isFloor_landed {side : Side} (floor : grid.isFloor (positions.get side)) :
    grid.isFloor (landed grid positions intents side) := by
  rcases landed_cases grid positions intents side with stays | moves
  · exact stays ▸ floor
  · exact (resolveMoves_eq_moved_iff.mp moves).2.1

/-- **Tanks that stood apart land apart.** -/
theorem landed_ne (apart : positions.first ≠ positions.second) :
    landed grid positions intents .first ≠ landed grid positions intents .second := by
  intro same
  rcases landed_cases grid positions intents .first with stays₁ | moves₁ <;>
  rcases landed_cases grid positions intents .second with stays₂ | moves₂
  · exact apart (stays₁.symm.trans (same.trans stays₂))
  · -- The second tank has driven to where the first one stands.
    exact (resolveMoves_eq_moved_iff.mp moves₂).2.2.2 (same.symm.trans stays₁)
  · exact (resolveMoves_eq_moved_iff.mp moves₁).2.2.2 (same.trans stays₂)
  · -- Both have driven to one cell, so their moves have collided.
    obtain ⟨target₁, floor, noCollision, -⟩ := resolveMoves_eq_moved_iff.mp moves₁
    obtain ⟨target₂, -⟩ := resolveMoves_eq_moved_iff.mp moves₂
    have collide : intentsCollide grid positions intents :=
      intentsCollide_of_same floor fun side => by
        cases side with
        | first => exact target₁
        | second => exact same ▸ target₂
    rw [noCollision] at collide
    exact absurd collide (by decide)

/-! ### Exchanging the tanks -/

/-- Whether moves collide does not depend on which tank comes first. -/
theorem intentsCollide_swap :
    intentsCollide grid positions.swap intents.swap = intentsCollide grid positions intents := by
  unfold intentsCollide
  change (match intents.second.filter grid.isFloor, intents.first.filter grid.isFloor with
    | some first, some second => movesCollide positions.swap first second
    | _, _ => false) = _
  -- Both intents must be steps onto floor; all other cases are the same on both sides.
  cases intents.first.filter grid.isFloor with
  | none => cases intents.second.filter grid.isFloor <;> rfl
  | some first =>
    cases intents.second.filter grid.isFloor with
    | none => rfl
    | some second =>
      have swapped : movesCollide positions.swap second first =
          (decide (second = first) ||
            (decide (second = positions.first) && decide (first = positions.second))) := rfl
      dsimp only
      rw [swapped, movesCollide, Bool.and_comm (decide (second = positions.first))]
      simp only [eq_comm (a := second) (b := first)]

/-- Which tank counts as the first makes no difference. -/
theorem landed_swap (side : Side) :
    landed grid positions.swap intents.swap side = landed grid positions intents side.other := by
  have same : (resolveMoves grid positions.swap intents.swap).get side =
      (resolveMoves grid positions intents).get side.other := by
    rw [get_resolveMoves, get_resolveMoves, intentsCollide_swap, Pair.get_swap, Pair.get_swap]
  rw [landed, landed, same, Pair.get_swap]

end TankDuel

import TankDuel.Arena.Coord

/-!
# Walled grids

A grid is a rectangle of cells, some of which are walls. It has at least one row and one column,
and so few of either that every coordinate on it fits a register. The walls are kept as a list in
reading order without repetition, all of them on the grid. So the list is determined by the set of
wall cells, and two grids of one size are equal when they have the same walls.
-/

namespace TankDuel

/-- The greatest width and height of a grid. -/
def Grid.maxSize : Int := 2147483647

/-- A rectangle of cells with walls. -/
structure Grid where
  width : Int
  height : Int
  /-- The wall cells, in reading order. -/
  walls : List Coord
  width_pos : 0 < width
  width_le : width ≤ Grid.maxSize
  height_pos : 0 < height
  height_le : height ≤ Grid.maxSize
  walls_inside : ∀ c ∈ walls, c.inside width height
  walls_ascending : walls.Pairwise fun a b => a.before b
deriving DecidableEq

namespace Grid

/-- Put a cell into a list in reading order; a cell that is there already stays single. -/
def insertCell (c : Coord) : List Coord → List Coord
  | [] => [c]
  | d :: rest =>
    if c.before d then c :: d :: rest
    else if c = d then d :: rest
    else d :: insertCell c rest

/-- Inserting a cell adds just this cell. -/
theorem mem_insertCell {c e : Coord} {l : List Coord} : e ∈ insertCell c l ↔ e = c ∨ e ∈ l := by
  induction l with
  | nil => simp [insertCell]
  | cons d rest ih =>
    rw [insertCell]
    split
    · simp
    · split
      -- The cell is there already.
      next same => subst same; simp
      next => simp only [List.mem_cons, ih]; exact or_left_comm

/-- A list in reading order stays in reading order. -/
theorem ascending_insertCell (c : Coord) {l : List Coord}
    (h : l.Pairwise fun a b => a.before b) :
    (insertCell c l).Pairwise fun a b => a.before b := by
  induction l with
  | nil => simp [insertCell]
  | cons d rest ih =>
    obtain ⟨below, rising⟩ := List.pairwise_cons.1 h
    rw [insertCell]
    split
    next less =>
      refine List.pairwise_cons.2 ⟨fun e he => ?_, h⟩
      rcases List.mem_cons.1 he with rfl | he
      · exact less
      -- What comes behind `d` comes behind the new cell, too.
      · have far := below e he
        simp only [Coord.before_iff] at less far ⊢
        omega
    next notLess =>
      split
      next => exact h
      next differs =>
        refine List.pairwise_cons.2 ⟨fun e he => ?_, ih rising⟩
        rcases mem_insertCell.1 he with rfl | he
        -- The new cell is neither before `d` nor the same, so it is behind it.
        · have apart : ¬(e.x = d.x ∧ e.y = d.y) := fun same =>
            differs (by cases e; cases d; simpa using same)
          simp only [Coord.before_iff] at notLess ⊢
          omega
        · exact below e he

/-- A grid without walls, if there is one of the given size. -/
def ofSize? (width height : Int) : Option Grid :=
  if h : 0 < width ∧ width ≤ maxSize ∧ 0 < height ∧ height ≤ maxSize then
    some
      { width, height, walls := []
        width_pos := h.1
        width_le := h.2.1
        height_pos := h.2.2.1
        height_le := h.2.2.2
        walls_inside := by simp
        walls_ascending := .nil }
  else none

/-- A square grid without walls. A size that is too small or too large gives the nearest size that
there is. -/
def square (size : Int) : Grid :=
  have low : 0 < min (max size 1) maxSize := by simp only [maxSize]; omega
  have high : min (max size 1) maxSize ≤ maxSize := Int.min_le_right _ _
  { width := min (max size 1) maxSize
    height := min (max size 1) maxSize
    walls := []
    width_pos := low
    width_le := high
    height_pos := low
    height_le := high
    walls_inside := by simp
    walls_ascending := .nil }

/-- Whether a cell lies on the grid. -/
def inBounds (g : Grid) (c : Coord) : Bool := c.inside g.width g.height

/-- Whether a cell is a wall. -/
def isWall (g : Grid) (c : Coord) : Bool := g.walls.contains c

/-- Whether a tank can stand on a cell: it lies on the grid and is no wall. -/
def isFloor (g : Grid) (c : Coord) : Bool := g.inBounds c && !g.isWall c

/-- The nearest cell on the grid. -/
def clamp (g : Grid) (c : Coord) : Coord :=
  ⟨max 0 (min c.x (g.width - 1)), max 0 (min c.y (g.height - 1))⟩

/-- Make a cell a wall; there is no such grid if the cell lies outside. -/
def addWall? (g : Grid) (c : Coord) : Option Grid :=
  if h : g.inBounds c then
    some
      { g with
        walls := insertCell c g.walls
        walls_inside := fun _ he => (mem_insertCell.1 he).elim (· ▸ h) (g.walls_inside _)
        walls_ascending := ascending_insertCell c g.walls_ascending }
  else none

/-- Make cells walls and leave out those that lie outside. -/
def addWalls (g : Grid) (cells : List Coord) : Grid :=
  cells.foldl (fun g c => (g.addWall? c).getD g) g

/-- The number of walls. -/
def wallCount (g : Grid) : Nat := g.walls.length

end Grid

end TankDuel

import Mathlib.Data.Finset.Card
import TankDuel.Proofs.Arena.Map
import TankDuel.Proofs.Arena.Obstacle

/-!
# The walls of a grid as a set

A grid is given its walls one after the other, or all in one go. Cells may be named more than once,
in any order, and also where the grid has none. What comes of it depends only on the set of cells
that are named and lie on the grid (`Grid.addWalls_eq_iff`): those are the walls, each is listed
once, and the list is in reading order (`Grid.WalledBy`).

A request for a wall is refused where the grid has no cell, and in no other case, whatever has been
asked for before (`Grid.request_eq`). Both ways to give a grid its walls are therefore the same.
-/

namespace TankDuel.Grid

variable {g : Grid} {c : Coord} {width height : Int} {cells cells' : List Coord}

/-- Ask for walls one after the other: whether each was granted, and the grid at the end. Every
request is made to the grid that the requests before it have left. -/
def request (g : Grid) : List Coord → List Bool × Grid
  | [] => ([], g)
  | c :: rest =>
    let (answers, last) := ((g.addWall? c).getD g).request rest
    ((g.addWall? c).isSome :: answers, last)

/-- A wall is granted just on the cells of the grid, whatever walls there are. -/
private theorem isSome_addWall? (g : Grid) (c : Coord) : (g.addWall? c).isSome = g.inBounds c := by
  rw [addWall?]
  split
  next inside => rw [inside, Option.isSome_some]
  next outside => rw [Bool.eq_false_iff.mpr outside, Option.isSome_none]

/-- **Requests are answered by the size of the grid alone**, and what they leave is the grid that
gets the walls in one go. -/
theorem request_eq (g : Grid) (cells : List Coord) :
    g.request cells = (cells.map g.inBounds, g.addWalls cells) := by
  induction cells generalizing g with
  | nil => rfl
  | cons c cells ih =>
    -- A request does not change the size, so it does not change how later ones are answered.
    obtain ⟨width, height, -⟩ := getD_addWall? g c
    have inBounds : ((g.addWall? c).getD g).inBounds = g.inBounds := by
      funext e
      rw [Grid.inBounds, Grid.inBounds, width, height]
    rw [request, ih, isSome_addWall?, inBounds, List.map_cons, addWalls_cons]

/-! ### What a grid looks like with walls -/

/-- A grid of the given size whose walls are the cells of a list that lie on it. -/
structure WalledBy (width height : Int) (cells : List Coord) (g : Grid) : Prop where
  width_eq : g.width = width
  height_eq : g.height = height
  isWall_iff : ∀ c, g.isWall c ↔ c.inside width height ∧ c ∈ cells
  /-- All other cells are free. -/
  isFloor_iff : ∀ c, g.isFloor c ↔ c.inside width height ∧ c ∉ cells
  /-- The list goes from top to bottom, and on one row from left to right. -/
  ascending : g.walls.Pairwise fun a b => a.y < b.y ∨ a.y = b.y ∧ a.x < b.x
  mem_walls_iff : ∀ c, c ∈ g.walls ↔ c.inside width height ∧ c ∈ cells
  once : ∀ c ∈ g.walls, g.walls.count c = 1
  wallCount_eq : g.wallCount = g.walls.length
  /-- Repeated cells and cells that are not on the grid do not count. -/
  wallCount_eq_card :
    g.wallCount = {c ∈ cells.toFinset | c.inside width height}.card

/-- The walls are listed in a strict order, so none is listed twice. -/
private theorem nodup_walls (g : Grid) : g.walls.Nodup := by
  refine g.walls_ascending.imp ?_
  rintro a _ less rfl
  exact a.not_before_self less

/-- A cell is a wall if it is listed as one. -/
theorem isWall_iff_mem : g.isWall c ↔ c ∈ g.walls := by
  rw [isWall, List.contains_iff_mem]

/-- It is enough to know which cells are listed. All else that `WalledBy` says comes from the grid
keeping its walls in order. -/
private theorem walledBy_of_mem_walls_iff (sized : g.width = width ∧ g.height = height)
    (walls : ∀ c, c ∈ g.walls ↔ c.inside width height ∧ c ∈ cells) :
    WalledBy width height cells g where
  width_eq := sized.1
  height_eq := sized.2
  isWall_iff c := isWall_iff_mem.trans (walls c)
  isFloor_iff c := by
    rw [Grid.isFloor_iff, isWall_iff_mem, walls, inBounds, sized.1, sized.2, not_and]
    exact and_congr_right imp_iff_right
  ascending := g.walls_ascending.imp Coord.before_iff.mp
  mem_walls_iff := walls
  once c hc := List.count_eq_one_of_mem g.nodup_walls hc
  wallCount_eq := rfl
  wallCount_eq_card := by
    -- Without repetitions the list has as many members as the set that it stands for.
    have same : g.walls.toFinset = {c ∈ cells.toFinset | c.inside width height} := by
      ext c
      rw [List.mem_toFinset, walls, Finset.mem_filter, List.mem_toFinset, and_comm]
    rw [← same, List.toFinset_card_of_nodup g.nodup_walls, wallCount]

/-- **Adding walls to a grid without walls.** -/
theorem walledBy_addWalls (bare : g.walls = []) (cells : List Coord) :
    WalledBy g.width g.height cells (g.addWalls cells) := by
  refine walledBy_of_mem_walls_iff ⟨width_addWalls cells, height_addWalls cells⟩ fun c => ?_
  rw [mem_walls_addWalls, bare, or_iff_right List.not_mem_nil, and_comm]
  rfl

/-- **Only the set of cells on the grid matters.** -/
theorem addWalls_eq_iff (bare : g.walls = []) :
    g.addWalls cells = g.addWalls cells' ↔ ∀ c, g.inBounds c → (c ∈ cells ↔ c ∈ cells') := by
  have walled := walledBy_addWalls bare cells
  have walled' := walledBy_addWalls bare cells'
  constructor
  · intro same c inside
    -- Equal grids have the same walls, and on the grid these are the cells asked for.
    have isWall := (walled.isWall_iff c).symm.trans (same ▸ walled'.isWall_iff c)
    exact and_congr_right_iff.mp isWall inside
  · intro same
    -- A grid is its size and the set of its walls.
    refine ext_walls (walled.width_eq.trans walled'.width_eq.symm)
      (walled.height_eq.trans walled'.height_eq.symm) fun c => ?_
    rw [walled.mem_walls_iff, walled'.mem_walls_iff]
    exact and_congr_right (same c)

/-- There is a grid without walls of every size in range. -/
private theorem exists_bare
    (sizes : (0 < width ∧ width ≤ maxSize) ∧ 0 < height ∧ height ≤ maxSize) :
    ∃ bare, ofSize? width height = some bare ∧ bare.width = width ∧ bare.height = height ∧
      bare.walls = [] :=
  ⟨_, dif_pos ⟨sizes.1.1, sizes.1.2, sizes.2⟩, rfl, rfl, rfl⟩

/-- **The walls of a grid are a set of cells.** There is a grid of every size. Of any requests for
walls just those outside of it are refused, and the walls are then the cells that were asked for and
lie on the grid, each listed once, in reading order. Two lists of requests lead to the same grid if
and only if they name the same cells on it. If they do, the lists of walls are the same, the same
cells are free, and all rays end at the same places. -/
theorem walls_form_set (width height : Int32) (wide : 0 < width.toInt) (high : 0 < height.toInt) :
    ∃ bare, ofSize? width.toInt height.toInt = some bare ∧
      (∀ cells : List Coord,
        bare.request cells =
          (cells.map (Coord.inside width.toInt height.toInt), bare.addWalls cells) ∧
        WalledBy width.toInt height.toInt cells (bare.addWalls cells)) ∧
      ∀ cells cells' : List Coord,
        (bare.addWalls cells = bare.addWalls cells' ↔
          ∀ c : Coord, c.inside width.toInt height.toInt → (c ∈ cells ↔ c ∈ cells')) ∧
        ((∀ c : Coord, c.inside width.toInt height.toInt → (c ∈ cells ↔ c ∈ cells')) →
          (bare.addWalls cells).walls = (bare.addWalls cells').walls ∧
          (∀ c, (bare.addWalls cells).isFloor c = (bare.addWalls cells').isFloor c) ∧
          ∀ (ι : Type) [DecidableEq ι] (origin : Coord) (dx dy : Int) (viewer : ι)
            (occupants : List (ι × Coord)),
            (bare.addWalls cells).castRay origin dx dy viewer occupants =
              (bare.addWalls cells').castRay origin dx dy viewer occupants) := by
  -- A positive 32-bit number is within the greatest size.
  have narrow : width.toInt ≤ maxSize := Int.le_of_lt_add_one width.toInt_lt
  have low : height.toInt ≤ maxSize := Int.le_of_lt_add_one height.toInt_lt
  obtain ⟨bare, sized, widthEq, heightEq, noWalls⟩ := exists_bare ⟨⟨wide, narrow⟩, high, low⟩
  rw [← widthEq, ← heightEq]
  refine ⟨bare, by rw [widthEq, heightEq, sized], fun cells => ?_, fun cells cells' => ?_⟩
  · exact ⟨bare.request_eq cells, walledBy_addWalls noWalls cells⟩
  · refine ⟨addWalls_eq_iff noWalls, fun same => ?_⟩
    -- Where the cells are the same, so are the grids, and with them everything that is read off a
    -- grid.
    rw [(addWalls_eq_iff noWalls).mpr same]
    exact ⟨rfl, fun _ => rfl, fun _ _ _ _ _ _ _ => rfl⟩

/-- On a small grid, a wall is asked for twice, and the same walls are asked for in another order.
Both times one request is for a cell that is not there. -/
theorem walls_form_set_repeated :
    let cells : List Coord := [⟨1, 1⟩, ⟨3, 0⟩, ⟨0, 1⟩, ⟨1, 1⟩, ⟨2, 0⟩]
    let cells' : List Coord := [⟨2, 0⟩, ⟨0, 1⟩, ⟨-1, 7⟩, ⟨1, 1⟩]
    0 < (3 : Int32).toInt ∧ 0 < (2 : Int32).toInt ∧
      ∃ bare, ofSize? 3 2 = some bare ∧
        (bare.request cells).1 = [true, false, true, true, true] ∧
        (bare.addWalls cells).walls = [⟨2, 0⟩, ⟨0, 1⟩, ⟨1, 1⟩] ∧
        bare.addWalls cells = bare.addWalls cells' := by
  intro cells cells'
  obtain ⟨bare, sized, asked, same⟩ := walls_form_set 3 2 (by decide) (by decide)
  have walls : (ofSize? 3 2).map (fun bare => (bare.addWalls cells).walls) =
      some [⟨2, 0⟩, ⟨0, 1⟩, ⟨1, 1⟩] := by decide
  have sized : ofSize? 3 2 = some bare := sized
  rw [sized, Option.map_some, Option.some.injEq] at walls
  refine ⟨by decide, by decide, bare, sized, ?_, walls,
    (same cells cells').1.mpr fun c inside => ?_⟩
  · rw [(asked cells).1]
    rfl
  -- On six cells it can be checked which of them each list names.
  · obtain ⟨x, y⟩ := c
    have inside : (0 ≤ x ∧ x < 3) ∧ 0 ≤ y ∧ y < 2 := Coord.inside_iff.mp inside
    simp only [cells, cells', List.mem_cons, Coord.mk.injEq, List.not_mem_nil, or_false]
    omega

end TankDuel.Grid

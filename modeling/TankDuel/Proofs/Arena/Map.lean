import Mathlib.Data.List.Basic
import TankDuel.Arena.Map
import TankDuel.Proofs.Text.Lines

/-!
# Reading a map back

The map of an arena shows its size, its walls and the two spawn cells, but not which way the tanks
face. Reading it gives the arena back whenever they face as on every map that is read, the first one
east and the second one west (`Arena.ofMap_toMap_eq_ok_iff`).

The map is read cell by cell in reading order. What carries the proof is `Survey.Seen`: a survey
holds just the walls and the spawns that come before the next cell. A tile of the map keeps this up
(`Seen.addTile`), hence a row does, and after all rows everything on the grid has been seen. The
grid that is built from the walls is the old one, because grids of one size are told apart by their
walls (`Grid.ext_walls`).
-/

namespace TankDuel

/-- No cell comes before itself. -/
theorem Coord.not_before_self (c : Coord) : ¬c.before c := by
  rw [before_iff]
  omega

/-! ### Grids and their walls -/

namespace Grid

variable {g h : Grid} {c e : Coord}

/-- **Grids of one size with the same walls are the same.** -/
theorem ext_walls (width : g.width = h.width) (height : g.height = h.height)
    (walls : ∀ c, c ∈ g.walls ↔ c ∈ h.walls) : g = h := by
  have distinct {a b : Coord} (less : a.before b) : a ≠ b := by
    rintro rfl
    exact a.not_before_self less
  have nodup (g : Grid) : g.walls.Nodup := g.walls_ascending.imp distinct
  have perm : g.walls.Perm h.walls := (List.perm_ext_iff_of_nodup (nodup g) (nodup h)).mpr walls
  -- Two ascending lists with the same cells list them in the same order.
  have same : g.walls = h.walls := by
    refine perm.eq_of_pairwise (fun a b _ _ less more => ?_) g.walls_ascending h.walls_ascending
    rw [Coord.before_iff] at less more
    omega
  obtain ⟨_, _, cells, _⟩ := g
  obtain rfl := width
  obtain rfl := height
  obtain rfl : cells = h.walls := same
  rfl

/-- A wall is added if it lies on the grid, and nothing else changes. -/
theorem getD_addWall? (g : Grid) (c : Coord) :
    ((g.addWall? c).getD g).width = g.width ∧ ((g.addWall? c).getD g).height = g.height ∧
      ∀ e, e ∈ ((g.addWall? c).getD g).walls ↔ e ∈ g.walls ∨ e = c ∧ g.inBounds e := by
  rw [addWall?]
  by_cases within : g.inBounds c
  · rw [dif_pos within, Option.getD_some]
    refine ⟨rfl, rfl, fun e => ?_⟩
    rw [mem_insertCell]
    constructor
    · rintro (rfl | old)
      · exact .inr ⟨rfl, within⟩
      · exact .inl old
    · rintro (old | ⟨new, -⟩)
      · exact .inr old
      · exact .inl new
  · rw [dif_neg within, Option.getD_none]
    refine ⟨rfl, rfl, fun e => (or_iff_left ?_).symm⟩
    rintro ⟨rfl, inside⟩
    exact within inside

/-- Walls are added one after another. -/
theorem addWalls_cons (cells : List Coord) :
    g.addWalls (c :: cells) = ((g.addWall? c).getD g).addWalls cells := rfl

/-- Walls leave the width of a grid as it is. -/
theorem width_addWalls (cells : List Coord) : (g.addWalls cells).width = g.width := by
  induction cells generalizing g with
  | nil => rfl
  | cons c cells ih => rw [addWalls_cons, ih, (getD_addWall? g c).1]

/-- Walls leave the height of a grid as it is. -/
theorem height_addWalls (cells : List Coord) : (g.addWalls cells).height = g.height := by
  induction cells generalizing g with
  | nil => rfl
  | cons c cells ih => rw [addWalls_cons, ih, (getD_addWall? g c).2.1]

/-- **The walls after some are added** are the old ones and those new ones that lie on the grid. -/
theorem mem_walls_addWalls {cells : List Coord} :
    e ∈ (g.addWalls cells).walls ↔ e ∈ g.walls ∨ e ∈ cells ∧ g.inBounds e := by
  induction cells generalizing g with
  | nil => simp [addWalls]
  | cons c cells ih =>
    obtain ⟨width, height, walls⟩ := getD_addWall? g c
    rw [addWalls_cons, ih, walls, inBounds, inBounds, width, height, List.mem_cons, or_and_right,
      or_assoc]

/-- A grid is made of its size and its walls. -/
private theorem exists_ofSize? (g : Grid) (cells : List Coord)
    (walls : ∀ c, c ∈ cells ↔ c ∈ g.walls) :
    ∃ bare, ofSize? g.width g.height = some bare ∧ bare.addWalls cells = g := by
  refine ⟨_, dif_pos ⟨g.width_pos, g.width_le, g.height_pos, g.height_le⟩, ?_⟩
  refine ext_walls (width_addWalls _) (height_addWalls _) fun c => ?_
  rw [mem_walls_addWalls, walls]
  constructor
  · rintro (unbuilt | ⟨wall, -⟩)
    · exact absurd unbuilt List.not_mem_nil
    · exact wall
  · intro wall
    exact .inr ⟨wall, g.walls_inside c wall⟩

end Grid

namespace Arena

variable {a : Arena}

/-- An arena is made of its parts. -/
theorem ofParts_eq_ok_iff {grid : Grid} {spawns : Pair Spawn} :
    ofParts grid spawns = .ok a ↔ a.grid = grid ∧ a.spawns = spawns := by
  rw [ofParts]
  constructor
  · intro made
    split at made
    · split at made
      · split at made
        · obtain rfl := Except.ok.inj made
          exact ⟨rfl, rfl⟩
        · cases made
      · cases made
    · cases made
  · rintro ⟨rfl, rfl⟩
    have first : a.grid.isFloor a.spawns.first.position := a.onFloor .first
    have second : a.grid.isFloor a.spawns.second.position := a.onFloor .second
    rw [dif_pos first, dif_pos second, dif_pos a.apart]

/-- The two tanks of an arena start on different cells. -/
private theorem position_ne_other (a : Arena) (side : Side) :
    (a.spawns.get side).position ≠ (a.spawns.get side.other).position := by
  cases side with
  | first => exact a.apart
  | second => exact a.apart.symm

/-- A tank starts on the grid. -/
private theorem inBounds_position (a : Arena) (side : Side) :
    a.grid.inBounds (a.spawns.get side).position := by
  have floor := a.onFloor side
  rw [Grid.isFloor, Bool.and_eq_true] at floor
  exact floor.1

/-- No tank starts on a wall. -/
private theorem position_not_mem_walls (a : Arena) (side : Side) :
    (a.spawns.get side).position ∉ a.grid.walls := by
  have floor := a.onFloor side
  rw [Grid.isFloor, Bool.and_eq_true, Bool.not_eq_true', Grid.isWall, List.contains_eq_mem,
    decide_eq_false_iff_not] at floor
  exact floor.2

end Arena

/-! ### Surveys -/

namespace Map

/-- A survey has seen what comes before a cell of an arena. -/
structure Survey.Seen (a : Arena) (next : Coord) (s : Survey) : Prop where
  walls : ∀ c, c ∈ s.walls ↔ c ∈ a.grid.walls ∧ c.before next
  spawns : ∀ side c, s.spawns.get side = some c ↔
    (a.spawns.get side).position = c ∧ c.before next

namespace Survey

variable {a : Arena} {s : Survey} {x y : Nat}

/-- Going on to the next column adds one cell to what comes before. -/
theorem before_succ {c : Coord} :
    c.before ⟨(x + 1 : Nat), y⟩ ↔ c.before ⟨x, y⟩ ∨ c = ⟨x, y⟩ := by
  obtain ⟨cx, cy⟩ := c
  rw [Coord.before_iff, Coord.before_iff, Coord.mk.injEq]
  push_cast
  omega

/-- A survey that has just started has seen the nothing that comes before the first cell. -/
theorem Seen.start (a : Arena) : Seen a ⟨(0 : Nat), (0 : Nat)⟩ .start := by
  have first {c : Coord} (within : a.grid.inBounds c) : ¬c.before ⟨(0 : Nat), (0 : Nat)⟩ := by
    rw [Grid.inBounds, Coord.inside_iff] at within
    simp only [Coord.before_iff, Int.natCast_zero]
    omega
  constructor
  · intro c
    refine iff_of_false List.not_mem_nil ?_
    rintro ⟨wall, before⟩
    exact first (a.grid.walls_inside c wall) before
  · intro side c
    refine iff_of_false (by cases side <;> exact nofun) ?_
    rintro ⟨rfl, before⟩
    exact first (a.inBounds_position side) before

/-- Noting what is at a cell is going on to the next column. -/
theorem Seen.note {t : Survey} (seen : s.Seen a ⟨x, y⟩)
    (walls : ∀ c, c ∈ t.walls ↔ c ∈ s.walls ∨ c ∈ a.grid.walls ∧ c = ⟨x, y⟩)
    (spawns : ∀ side c, t.spawns.get side = some c ↔
      s.spawns.get side = some c ∨ (a.spawns.get side).position = c ∧ c = ⟨x, y⟩) :
    t.Seen a ⟨(x + 1 : Nat), y⟩ := by
  constructor
  · intro c
    rw [walls, seen.walls, before_succ, and_or_left]
  · intro side c
    rw [spawns, seen.spawns, before_succ, and_or_left]

/-- A spawn that comes next has not been seen yet, so it can be noted. -/
theorem Seen.addSpawn (seen : s.Seen a ⟨x, y⟩) {side : Side}
    (here : (a.spawns.get side).position = ⟨x, y⟩) :
    ∃ t, s.addSpawn side ⟨x, y⟩ = .ok t ∧ t.Seen a ⟨(x + 1 : Nat), y⟩ := by
  -- If it had been seen, it would come before itself.
  have unseen : s.spawns.get side = none := by
    rw [Option.eq_none_iff_forall_ne_some]
    intro c noted
    obtain ⟨there, before⟩ := (seen.spawns side c).mp noted
    rw [← there, here] at before
    exact Coord.not_before_self _ before
  refine ⟨{ s with spawns := s.spawns.set side (some ⟨x, y⟩) }, by rw [Survey.addSpawn, unseen],
    seen.note (fun c => ?_) fun other c => ?_⟩
  · refine (or_iff_left ?_).symm
    rintro ⟨wall, rfl⟩
    exact a.position_not_mem_walls side (here ▸ wall)
  · rw [Pair.get_set]
    by_cases same : other = side
    · subst same
      rw [if_pos rfl, unseen, here, Option.some.injEq]
      constructor
      · rintro rfl
        exact .inr ⟨rfl, rfl⟩
      · rintro (noted | ⟨-, rfl⟩)
        · cases noted
        · rfl
    · rw [if_neg same]
      refine (or_iff_left ?_).symm
      rintro ⟨there, rfl⟩
      obtain rfl : other = side.other := Side.ne_iff.mp same
      exact a.position_ne_other side (here.trans there.symm)

/-- **The tile of the next cell** can be noted. -/
theorem Seen.addTile (seen : s.Seen a ⟨x, y⟩) :
    ∃ t, s.addTile y x (a.tileAt ⟨x, y⟩) = .ok t ∧ t.Seen a ⟨(x + 1 : Nat), y⟩ := by
  rw [Arena.tileAt]
  by_cases first : (⟨x, y⟩ : Coord) = a.spawns.first.position
  · have here : (a.spawns.get .first).position = ⟨x, y⟩ := first.symm
    rw [if_pos first]
    exact seen.addSpawn here
  by_cases second : (⟨x, y⟩ : Coord) = a.spawns.second.position
  · have here : (a.spawns.get .second).position = ⟨x, y⟩ := second.symm
    rw [if_neg first, if_pos second]
    exact seen.addSpawn here
  rw [if_neg first, if_neg second]
  -- No tank starts here, so the spawns stay, and the cell counts only if it is a wall.
  have spawns {t : Survey} (same : t.spawns = s.spawns) (side : Side) (c : Coord) :
      t.spawns.get side = some c ↔
        s.spawns.get side = some c ∨ (a.spawns.get side).position = c ∧ c = ⟨x, y⟩ := by
    rw [same]
    refine (or_iff_left ?_).symm
    rintro ⟨there, rfl⟩
    cases side with
    | first => exact first there.symm
    | second => exact second there.symm
  by_cases wall : a.grid.isWall ⟨x, y⟩
  · rw [if_pos wall]
    refine ⟨_, rfl, seen.note (fun c => ?_) (spawns rfl)⟩
    rw [Grid.isWall, List.contains_iff_mem] at wall
    rw [List.mem_cons, or_comm]
    exact or_congr_right (iff_and_self.mpr fun here => here ▸ wall)
  · rw [if_neg wall]
    refine ⟨_, rfl, seen.note (fun c => (or_iff_left ?_).symm) (spawns rfl)⟩
    rw [Grid.isWall, List.contains_iff_mem] at wall
    rintro ⟨listed, rfl⟩
    exact wall listed

/-- The tiles of some columns can be noted. -/
theorem Seen.addTiles (seen : s.Seen a ⟨x, y⟩) (columns : Nat) :
    ∃ t, s.addTiles y x ((List.range' x columns).map fun (x : Nat) => a.tileAt ⟨x, y⟩) = .ok t ∧
      t.Seen a ⟨(x + columns : Nat), y⟩ := by
  induction columns generalizing x s with
  | zero => exact ⟨s, rfl, seen⟩
  | succ columns ih =>
    -- The first tile moves the survey on by a column, from where the others follow.
    obtain ⟨t, noted, seen⟩ := seen.addTile
    obtain ⟨u, more, seen⟩ := ih seen
    rw [List.range'_succ, List.map_cons, Survey.addTiles, noted, Nat.add_comm columns,
      ← Nat.add_assoc]
    exact ⟨u, more, seen⟩

/-- After a row the next one starts, since nothing lies beyond the width of the grid. -/
theorem Seen.nextRow (seen : s.Seen a ⟨a.grid.width, y⟩) : s.Seen a ⟨(0 : Nat), (y + 1 : Nat)⟩ := by
  have inside {c : Coord} (within : a.grid.inBounds c) :
      c.before ⟨a.grid.width, y⟩ ↔ c.before ⟨(0 : Nat), (y + 1 : Nat)⟩ := by
    rw [Grid.inBounds, Coord.inside_iff] at within
    simp only [Coord.before_iff, Int.natCast_zero]
    push_cast
    omega
  constructor
  · intro c
    rw [seen.walls]
    exact and_congr_right fun wall => inside (a.grid.walls_inside c wall)
  · intro side c
    rw [seen.spawns]
    refine and_congr_right ?_
    rintro rfl
    exact inside (a.inBounds_position side)

/-- The tiles of some rows can be noted. -/
theorem Seen.addRows (seen : s.Seen a ⟨(0 : Nat), y⟩) (rows : Nat) :
    ∃ t, s.addRows a.grid.width.toNat y ((List.range' y rows).map a.mapRow) = .ok t ∧
      t.Seen a ⟨(0 : Nat), (y + rows : Nat)⟩ := by
  have width : ((0 + a.grid.width.toNat : Nat) : Int) = a.grid.width := by
    have := a.grid.width_pos
    omega
  induction rows generalizing y s with
  | zero => exact ⟨s, rfl, seen⟩
  | succ rows ih =>
    obtain ⟨t, noted, seen⟩ := seen.addTiles a.grid.width.toNat
    rw [width] at seen
    -- At the end of a row the survey stands beyond the last column, which is as good as the start
    -- of the next row.
    obtain ⟨u, more, seen⟩ := ih seen.nextRow
    have long : (a.mapRow y).length = a.grid.width.toNat := by
      rw [Arena.mapRow, List.length_map, List.length_range]
    rw [← List.range_eq_range', ← Arena.mapRow] at noted
    rw [List.range'_succ, List.map_cons, Survey.addRows, if_neg (not_not.mpr long), noted,
      Nat.add_comm rows, ← Nat.add_assoc]
    exact ⟨u, more, seen⟩

/-- **When everything has been seen**, the survey shows the arena, with tanks that face each other
as on every map. -/
theorem Seen.arena (seen : s.Seen a ⟨(0 : Nat), a.grid.height⟩) :
    s.arena a.grid.width.toNat a.grid.height.toNat =
      Arena.ofParts a.grid
        ⟨⟨a.spawns.first.position, .east⟩, ⟨a.spawns.second.position, .west⟩⟩ := by
  -- Every cell of the grid comes before the row below the last one, so `Seen` says of all of them
  -- what they are.
  have inside {c : Coord} (within : a.grid.inBounds c) : c.before ⟨(0 : Nat), a.grid.height⟩ := by
    rw [Grid.inBounds, Coord.inside_iff] at within
    rw [Coord.before_iff]
    exact .inl within.2.2
  have spawn (side : Side) : s.spawns.get side = some (a.spawns.get side).position :=
    (seen.spawns side _).mpr ⟨rfl, inside (a.inBounds_position side)⟩
  have walls (c : Coord) : c ∈ s.walls ↔ c ∈ a.grid.walls := by
    rw [seen.walls]
    exact and_iff_left_of_imp fun wall => inside (a.grid.walls_inside c wall)
  have first : s.spawns.first = some a.spawns.first.position := spawn .first
  have second : s.spawns.second = some a.spawns.second.position := spawn .second
  obtain ⟨bare, size, grid⟩ := a.grid.exists_ofSize? s.walls walls
  have width := Int.toNat_of_nonneg (Int.le_of_lt a.grid.width_pos)
  have height := Int.toNat_of_nonneg (Int.le_of_lt a.grid.height_pos)
  rw [Survey.arena, first, second]
  dsimp only
  rw [width, height, size, ← grid]

end Survey

/-- A map with a first row is surveyed with the width of that row. -/
theorem arenaOfRows_of_head? {rows : List (List Char)} {first : List Char}
    (head : rows.head? = some first) :
    arenaOfRows rows = (Survey.start.addRows first.length 0 rows).bind fun survey =>
      survey.arena first.length rows.length := by
  cases rows with
  | nil => cases head
  | cons row rest =>
    obtain rfl := Option.some.inj head
    rfl

end Map

/-! ### Maps of arenas -/

namespace Arena

variable (a : Arena)

/-- No tile is drawn as a blank. -/
private theorem isBlank_tileAt (c : Coord) : Text.isBlank (a.tileAt c) = false := by
  unfold tileAt
  split
  · decide
  · split
    · decide
    · split <;> decide

/-- A row of the map is as long as the grid is wide. -/
@[simp] theorem length_mapRow (y : Nat) : (a.mapRow y).length = a.grid.width.toNat := by
  rw [mapRow, List.length_map, List.length_range]

/-- No row of the map is trimmed or left out. -/
private theorem rows_toMap : Map.rows a.toMap = (List.range a.grid.height.toNat).map a.mapRow := by
  have solid {row : List Char} (drawn : row ∈ (List.range a.grid.height.toNat).map a.mapRow) :
      ∀ c ∈ row, Text.isBlank c = false := by
    obtain ⟨y, -, rfl⟩ := List.mem_map.mp drawn
    intro c hc
    obtain ⟨x, -, rfl⟩ := List.mem_map.mp hc
    exact a.isBlank_tileAt _
  have text : a.toMap.toList =
      Text.unlines ((List.range a.grid.height.toNat).map a.mapRow) := by
    rw [toMap, String.toList_ofList, Text.unlines, List.flatMap_map]
  rw [Map.rows, text, Text.lines_unlines]
  -- Rows without blanks have nothing to trim, and none of them is empty.
  · have trimmed : ((List.range a.grid.height.toNat).map a.mapRow).map Text.trimEnd =
        (List.range a.grid.height.toNat).map a.mapRow :=
      (List.map_congr_left fun row drawn => Text.trimEnd_eq_self (solid drawn)).trans
        (List.map_id _)
    rw [trimmed, List.filter_eq_self]
    intro row drawn
    obtain ⟨y, -, rfl⟩ := List.mem_map.mp drawn
    have wide := a.grid.width_pos
    rw [Bool.not_eq_true', List.isEmpty_eq_false_iff, ← List.length_pos_iff, length_mapRow]
    omega
  · intro row drawn
    constructor
    · intro feed
      cases solid drawn _ feed
    · intro last
      cases solid drawn _ (List.mem_of_getLast? last)

/-- **Reading the map of an arena** puts its parts together, but for the way the tanks face. -/
theorem ofMap_toMap :
    ofMap a.toMap = ofParts a.grid
      ⟨⟨a.spawns.first.position, .east⟩, ⟨a.spawns.second.position, .west⟩⟩ := by
  -- There is a row, so the map is not empty.
  have height : 0 < a.grid.height.toNat := by
    have := a.grid.height_pos
    omega
  have head : (Map.rows a.toMap).head? = some (a.mapRow 0) := by
    rw [rows_toMap, List.head?_map, List.head?_range, if_neg (Nat.ne_of_gt height)]
    rfl
  obtain ⟨survey, noted, seen⟩ := (Map.Survey.Seen.start a).addRows a.grid.height.toNat
  rw [ofMap, Map.arenaOfRows_of_head? head, length_mapRow, rows_toMap, List.range_eq_range', noted,
    List.length_map, List.length_range']
  have bottom : ((0 + a.grid.height.toNat : Nat) : Int) = a.grid.height := by omega
  rw [bottom] at seen
  exact seen.arena

/-- **A map gives the arena back** that it was drawn of, if and only if the tanks face each other as
they do on every map that is read: the first one east and the second one west. -/
theorem ofMap_toMap_eq_ok_iff (a : Arena) :
    ofMap a.toMap = .ok a ↔ a.spawns.first.facing = .east ∧ a.spawns.second.facing = .west := by
  -- The grid always comes back. What decides is how the tanks of the map face.
  rw [ofMap_toMap, ofParts_eq_ok_iff]
  constructor
  · rintro ⟨-, spawns⟩
    rw [spawns]
    exact ⟨rfl, rfl⟩
  · rintro ⟨first, second⟩
    rw [← first, ← second]
    exact ⟨rfl, rfl⟩

end Arena

end TankDuel

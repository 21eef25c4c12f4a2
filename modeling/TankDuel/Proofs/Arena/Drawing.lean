import TankDuel.Proofs.Arena.Map

/-!
# Which texts are maps

A map is read in one pass, which stops at the first thing that is wrong. Here the same is said
without a pass, by what is drawn where (`Map.Drawn`).

`Map.WellDrawn` is what a map has to be like. `Map.Defect` says what can be wrong with one, and
where; the width of a row is checked at its left edge, that is, before its first cell. A map with
defects is refused for the first one in reading order, and only a map without any for a missing
spawn (`Map.Refused`).

The pass keeps what `Survey.Upto` says: nothing is wrong before the next cell, and the walls and
spawns that have been seen are those that are drawn before it. Each tile is noted or is the first
defect (`Survey.Upto.addTile_cases`), so the rows are noted or there is a first defect
(`Survey.Upto.addRows`). A complete survey lacks a spawn, or it is the survey of an arena whose map
has just these rows (`Survey.Complete.exists_arena`). The checks that follow on the pass find
nothing wrong any more.
-/

namespace TankDuel

/-- Of two cells one comes before the other. -/
theorem Coord.before_trichotomy (c d : Coord) : c.before d ∨ c = d ∨ d.before c := by
  obtain ⟨cx, cy⟩ := c
  obtain ⟨dx, dy⟩ := d
  rw [before_iff, before_iff, Coord.mk.injEq]
  dsimp only
  omega

namespace Map

/-- The tiles that a map may have. -/
def legend : List Char := ['#', '.', '1', '2']

/-- The tile on which the tank of a side starts. -/
def spawnTile : Side → Char
  | .first => '1'
  | .second => '2'

/-- The tile of a cell in the rows of a map. -/
def Drawn (rows : List (List Char)) (c : Coord) (tile : Char) : Prop :=
  ∃ x y : Nat, c = ⟨x, y⟩ ∧ ∃ row, rows[y]? = some row ∧ row[x]? = some tile

/-- What is wrong with the rows of a map, and where. The width of a row is that of the first one. It
is checked to the left of the row. -/
inductive Defect (rows : List (List Char)) : Coord → ArenaError → Prop
  | ragged {y : Nat} {first row : List Char} : rows.head? = some first → rows[y]? = some row →
    row.length ≠ first.length → Defect rows ⟨-1, y⟩ (.raggedRow y first.length row.length)
  | unknown {x y : Nat} {tile : Char} : Drawn rows ⟨x, y⟩ tile → tile ∉ legend →
    Defect rows ⟨x, y⟩ (.unknownTile y x tile)
  | duplicate {c d : Coord} {side : Side} : Drawn rows d (spawnTile side) → d.before c →
    Drawn rows c (spawnTile side) → Defect rows c (.duplicateSpawn side)

/-- The defect that no other one comes before. -/
def FirstDefect (rows : List (List Char)) (e : ArenaError) : Prop :=
  ∃ c, Defect rows c e ∧ ∀ d e', Defect rows d e' → ¬d.before c

/-- Why the rows of a map are refused. Spawns are missing only where there is nothing else, and the
first one is missed first. -/
inductive Refused (rows : List (List Char)) : ArenaError → Prop
  | empty : rows = [] → Refused rows .empty
  | defect {e : ArenaError} : FirstDefect rows e → Refused rows e
  | missingFirst : rows ≠ [] → (∀ c e, ¬Defect rows c e) → (∀ c, ¬Drawn rows c '1') →
    Refused rows (.missingSpawn .first)
  | missingSecond : rows ≠ [] → (∀ c e, ¬Defect rows c e) → (∃ c, Drawn rows c '1') →
    (∀ c, ¬Drawn rows c '2') → Refused rows (.missingSpawn .second)

/-- What the rows of a map have to be like. -/
structure WellDrawn (rows : List (List Char)) : Prop where
  ne_nil : rows ≠ []
  level : ∀ row ∈ rows, ∀ row' ∈ rows, row.length = row'.length
  tiles : ∀ row ∈ rows, ∀ tile ∈ row, tile ∈ legend
  spawns : ∀ side, ∃! c, Drawn rows c (spawnTile side)

variable {rows : List (List Char)} {c d : Coord} {tile : Char} {e e' : ArenaError}

/-! ### What is drawn -/

/-- The tiles of the spawns are known ones. -/
private theorem spawnTile_mem_legend (side : Side) : spawnTile side ∈ legend := by
  cases side <;> decide

/-- The two sides have spawns of their own. -/
private theorem spawnTile_injective {side side' : Side} (same : spawnTile side = spawnTile side') :
    side = side' := by
  cases side <;> cases side' <;> first | rfl | exact absurd same (by decide)

/-- What is drawn in a cell whose column and row are natural numbers. -/
private theorem drawn_mk_iff {x y : Nat} :
    Drawn rows ⟨x, y⟩ tile ↔ ∃ row, rows[y]? = some row ∧ row[x]? = some tile := by
  constructor
  · rintro ⟨x', y', same, drawn⟩
    obtain ⟨column, row⟩ := Coord.mk.inj same
    obtain rfl := Int.ofNat.inj column
    obtain rfl := Int.ofNat.inj row
    exact drawn
  · intro drawn
    exact ⟨x, y, rfl, drawn⟩

/-- There is one tile in a cell. -/
theorem Drawn.unique {tile' : Char} (h : Drawn rows c tile) (h' : Drawn rows c tile') :
    tile = tile' := by
  obtain ⟨x, y, rfl, row, isRow, here⟩ := h
  obtain ⟨row', isRow', here'⟩ := drawn_mk_iff.mp h'
  obtain rfl := Option.some.inj (isRow.symm.trans isRow')
  exact Option.some.inj (here.symm.trans here')

/-- Nothing is drawn to the left of the rows or above them. -/
theorem Drawn.nonneg (h : Drawn rows c tile) : 0 ≤ c.x ∧ 0 ≤ c.y := by
  obtain ⟨x, y, rfl, -⟩ := h
  exact ⟨Int.natCast_nonneg x, Int.natCast_nonneg y⟩

/-- A cell in which something is drawn lies in the rows. -/
theorem Drawn.y_lt (h : Drawn rows c tile) : c.y < rows.length := by
  obtain ⟨x, y, rfl, row, isRow, -⟩ := h
  obtain ⟨bound, -⟩ := List.getElem?_eq_some_iff.mp isRow
  exact Int.ofNat_lt.mpr bound

/-- A cell in which something is drawn lies within its row. -/
theorem Drawn.x_lt {y : Nat} {row : List Char} (isRow : rows[y]? = some row)
    (h : Drawn rows c tile) (here : c.y = y) : c.x < row.length := by
  obtain ⟨x, y', rfl, row', isRow', drawn⟩ := h
  obtain rfl := Int.ofNat.inj here
  obtain rfl := Option.some.inj (isRow'.symm.trans isRow)
  obtain ⟨bound, -⟩ := List.getElem?_eq_some_iff.mp drawn
  exact Int.ofNat_lt.mpr bound

/-! ### Defects -/

/-- A defect is to the left of a row or in a cell. -/
theorem Defect.place (h : Defect rows c e) :
    (∃ (y : Nat) (first row : List Char), c = ⟨-1, y⟩ ∧ rows.head? = some first ∧
      rows[y]? = some row ∧ row.length ≠ first.length) ∨ ∃ tile, Drawn rows c tile := by
  cases h with
  | ragged head isRow differs => exact .inl ⟨_, _, _, rfl, head, isRow, differs⟩
  | unknown drawn | duplicate _ _ drawn => exact .inr ⟨_, drawn⟩

/-- One thing is wrong at a place. -/
theorem Defect.unique (h : Defect rows c e) (h' : Defect rows c e') : e = e' := by
  have edge {y : Nat} {tile : Char} (drawn : Drawn rows ⟨-1, y⟩ tile) : False := by
    have column : (0 : Int) ≤ -1 := drawn.nonneg.1
    omega
  -- Cells of rows and columns are told apart by hand, as the numbers in them are casts.
  cases h with
  | ragged head isRow =>
    generalize same : (⟨-1, _⟩ : Coord) = c at h'
    cases h' with
    | ragged head' isRow' =>
      obtain ⟨-, row⟩ := Coord.mk.inj same
      obtain rfl := Int.ofNat.inj row
      obtain rfl := Option.some.inj (head.symm.trans head')
      obtain rfl := Option.some.inj (isRow.symm.trans isRow')
      rfl
    | unknown drawn | duplicate _ _ drawn => exact (edge (same ▸ drawn)).elim
  | unknown drawn foreign =>
    generalize same : (⟨_, _⟩ : Coord) = c at h' drawn
    cases h' with
    | ragged => exact (edge drawn).elim
    | unknown drawn' =>
      obtain ⟨column, row⟩ := Coord.mk.inj same
      obtain rfl := Int.ofNat.inj column
      obtain rfl := Int.ofNat.inj row
      obtain rfl := drawn.unique drawn'
      rfl
    | duplicate _ _ drawn' => exact absurd (drawn.unique drawn' ▸ spawnTile_mem_legend _) foreign
  | duplicate _ _ drawn =>
    cases h' with
    | ragged => exact (edge drawn).elim
    | unknown drawn' foreign => exact absurd (drawn.unique drawn' ▸ spawnTile_mem_legend _) foreign
    | duplicate _ _ drawn' => rw [spawnTile_injective (drawn.unique drawn')]

/-- A tile that is wrong is unknown, or it is a spawn that has been drawn before. -/
theorem Defect.of_drawn (h : Defect rows c e) (drawn : Drawn rows c tile) :
    tile ∉ legend ∨ ∃ side d, tile = spawnTile side ∧ Drawn rows d tile ∧ d.before c := by
  cases h with
  | ragged =>
    have column : (0 : Int) ≤ -1 := drawn.nonneg.1
    omega
  | unknown drawn' foreign =>
    obtain rfl := drawn.unique drawn'
    exact .inl foreign
  | @duplicate _ d side earlier before drawn' =>
    obtain rfl := drawn.unique drawn'
    exact .inr ⟨side, d, rfl, earlier, before⟩

/-- Only one defect is the first one. -/
theorem FirstDefect.unique (h : FirstDefect rows e) (h' : FirstDefect rows e') : e = e' := by
  obtain ⟨c, defect, first⟩ := h
  obtain ⟨d, defect', first'⟩ := h'
  rcases c.before_trichotomy d with before | rfl | before
  · exact absurd before (first' c e defect)
  · exact defect.unique defect'
  · exact absurd before (first d e' defect')

/-- The first defect is one. -/
theorem FirstDefect.exists_defect (h : FirstDefect rows e) : ∃ c, Defect rows c e := by
  obtain ⟨c, defect, -⟩ := h
  exact ⟨c, defect⟩

/-- Rows with a first defect are not without defects. -/
theorem FirstDefect.not_sound (h : FirstDefect rows e) : ¬∀ c e, ¬Defect rows c e := by
  obtain ⟨c, defect⟩ := h.exists_defect
  exact fun sound => sound c e defect

/-- A defect is in one of the rows, or to the left of it. -/
theorem Defect.inside (h : Defect rows c e) : -1 ≤ c.x ∧ 0 ≤ c.y ∧ c.y < rows.length := by
  rcases h.place with ⟨y, _, row, rfl, -, isRow, -⟩ | ⟨tile, drawn⟩
  · obtain ⟨bound, -⟩ := List.getElem?_eq_some_iff.mp isRow
    dsimp only
    omega
  · obtain ⟨column, row⟩ := drawn.nonneg
    exact ⟨by omega, row, drawn.y_lt⟩

/-- Where there are no rows there is no defect. -/
theorem FirstDefect.ne_nil (h : FirstDefect rows e) : rows ≠ [] := by
  rintro rfl
  obtain ⟨c, defect⟩ := h.exists_defect
  obtain ⟨-, low, high⟩ := defect.inside
  exact absurd (Int.lt_of_le_of_lt low high) (by decide)

/-- **Rows are refused for one reason.** -/
theorem Refused.unique (h : Refused rows e) (h' : Refused rows e') : e = e' := by
  -- Each reason excludes the others: no rows, a defect, and no defect but a spawn that is missing.
  cases h with
  | empty nil =>
    cases h' with
    | empty => rfl
    | defect first => exact absurd nil first.ne_nil
    | missingFirst ne_nil | missingSecond ne_nil => exact absurd nil ne_nil
  | defect first =>
    cases h' with
    | empty nil => exact absurd nil first.ne_nil
    | defect first' => exact first.unique first'
    | missingFirst _ sound | missingSecond _ sound => exact absurd sound first.not_sound
  | missingFirst ne_nil sound missing =>
    cases h' with
    | empty nil => exact absurd nil ne_nil
    | defect first => exact absurd sound first.not_sound
    | missingFirst => rfl
    | missingSecond _ _ drawn =>
      obtain ⟨c, drawn⟩ := drawn
      exact absurd drawn (missing c)
  | missingSecond ne_nil sound drawn =>
    obtain ⟨c, drawn⟩ := drawn
    cases h' with
    | empty nil => exact absurd nil ne_nil
    | defect first => exact absurd sound first.not_sound
    | missingFirst _ _ missing => exact absurd drawn (missing c)
    | missingSecond => rfl

/-- Without defects all rows have the width of the first one. -/
private theorem length_eq_of_sound (sound : ∀ c e, ¬Defect rows c e) {first row : List Char}
    (head : rows.head? = some first) (member : row ∈ rows) : row.length = first.length := by
  by_contra differs
  obtain ⟨y, isRow⟩ := List.mem_iff_getElem?.mp member
  exact sound _ _ (.ragged head isRow differs)

/-- Without defects all tiles are known. -/
private theorem mem_legend_of_sound (sound : ∀ c e, ¬Defect rows c e) (drawn : Drawn rows c tile) :
    tile ∈ legend := by
  by_contra foreign
  obtain ⟨x, y, rfl, -⟩ := id drawn
  exact sound _ _ (.unknown drawn foreign)

/-- **Well drawn rows are those without defects that have both spawns.** -/
theorem wellDrawn_iff :
    WellDrawn rows ↔ rows ≠ [] ∧ (∀ c e, ¬Defect rows c e) ∧
      ∀ side, ∃ c, Drawn rows c (spawnTile side) := by
  constructor
  · intro h
    refine ⟨h.ne_nil, fun c e defect => ?_, fun side => (h.spawns side).exists⟩
    -- Each kind of defect breaks one of the conditions.
    cases defect with
    | ragged head isRow differs =>
      exact differs (h.level _ (List.mem_of_getElem? isRow) _ (List.mem_of_head? head))
    | unknown drawn foreign =>
      obtain ⟨row, isRow, here⟩ := drawn_mk_iff.mp drawn
      exact foreign (h.tiles row (List.mem_of_getElem? isRow) _ (List.mem_of_getElem? here))
    | duplicate earlier before drawn =>
      obtain rfl := (h.spawns _).unique earlier drawn
      exact Coord.not_before_self _ before
  · rintro ⟨ne_nil, sound, spawns⟩
    obtain ⟨first, rest, rfl⟩ := List.exists_cons_of_ne_nil ne_nil
    constructor
    · exact ne_nil
    · intro row member row' member'
      have level := length_eq_of_sound sound rfl member
      exact level.trans (length_eq_of_sound sound rfl member').symm
    · intro row member tile here
      obtain ⟨y, isRow⟩ := List.mem_iff_getElem?.mp member
      obtain ⟨x, isTile⟩ := List.mem_iff_getElem?.mp here
      exact mem_legend_of_sound sound (drawn_mk_iff.mpr ⟨row, isRow, isTile⟩)
    · intro side
      obtain ⟨c, drawn⟩ := spawns side
      refine ⟨c, drawn, fun d drawn' => ?_⟩
      -- The later one of two would be a duplicate.
      rcases d.before_trichotomy c with before | same | before
      · exact absurd (.duplicate drawn' before drawn) (sound c _)
      · exact same
      · exact absurd (.duplicate drawn before drawn') (sound d _)

/-- Well drawn rows are not refused. -/
theorem Refused.not_wellDrawn (h : Refused rows e) : ¬WellDrawn rows := by
  rw [wellDrawn_iff]
  rintro ⟨ne_nil, sound, spawns⟩
  cases h with
  | empty nil => exact ne_nil nil
  | defect first => exact first.not_sound sound
  | missingFirst _ _ missing =>
    obtain ⟨c, drawn⟩ := spawns .first
    exact missing c drawn
  | missingSecond _ _ _ missing =>
    obtain ⟨c, drawn⟩ := spawns .second
    exact missing c drawn

/-- Nothing that is wrong with a map is wrong with the parts of an arena. -/
theorem Refused.ne_of_parts (h : Refused rows e) :
    (∀ side, e ≠ .invalidSpawn side) ∧ e ≠ .sharedSpawn := by
  cases h with
  | empty | missingFirst | missingSecond => exact ⟨nofun, nofun⟩
  | defect first =>
    obtain ⟨c, defect⟩ := first.exists_defect
    cases defect <;> exact ⟨nofun, nofun⟩

/-- A map is empty if it has no rows, and for no other reason. -/
private theorem refused_empty_iff : Refused rows .empty ↔ rows = [] := by
  refine ⟨fun h => ?_, .empty⟩
  cases h with
  | empty nil => exact nil
  | defect first =>
    obtain ⟨c, defect⟩ := first.exists_defect
    cases defect

/-! ### The pass -/

/-- The survey of a map without defects has all that is drawn. -/
structure Survey.Complete (rows : List (List Char)) (s : Survey) : Prop where
  sound : ∀ c e, ¬Defect rows c e
  walls : ∀ c, c ∈ s.walls ↔ Drawn rows c '#'
  spawns : ∀ side c, s.spawns.get side = some c ↔ Drawn rows c (spawnTile side)

/-- What a pass over the rows of a map ends with. -/
def Surveyed (rows : List (List Char)) : Except ArenaError Survey → Prop
  | .ok s => s.Complete rows
  | .error e => FirstDefect rows e

/-- A survey is right about all that comes before the next place. -/
structure Survey.Upto (rows : List (List Char)) (next : Coord) (s : Survey) : Prop where
  sound : ∀ c e, Defect rows c e → ¬c.before next
  walls : ∀ c, c ∈ s.walls ↔ Drawn rows c '#' ∧ c.before next
  spawns : ∀ side c, s.spawns.get side = some c ↔ Drawn rows c (spawnTile side) ∧ c.before next

namespace Survey

variable {s t : Survey} {x y : Nat} {next : Coord}

/-- The next place may be moved on where nothing is drawn and nothing is wrong. -/
theorem Upto.move (h : s.Upto rows next) {next' : Coord}
    (same : ∀ c tile, Drawn rows c tile → (c.before next' ↔ c.before next))
    (sound : ∀ c e, Defect rows c e → ¬c.before next') : s.Upto rows next' where
  sound := sound
  walls := fun c => (h.walls c).trans (and_congr_right fun drawn => (same c _ drawn).symm)
  spawns := fun side c =>
    (h.spawns side c).trans (and_congr_right fun drawn => (same c _ drawn).symm)

/-- Nothing comes before the place to the left of the first row. -/
theorem Upto.start (rows : List (List Char)) : start.Upto rows ⟨-1, (0 : Nat)⟩ := by
  have first {c : Coord} (low : -1 ≤ c.x ∧ 0 ≤ c.y) : ¬c.before ⟨-1, (0 : Nat)⟩ := by
    rw [Coord.before_iff]
    dsimp only
    omega
  -- All that is drawn is on the grid, and hence after that place.
  have drawn {tile : Char} (c : Coord) : ¬(Drawn rows c tile ∧ c.before ⟨-1, (0 : Nat)⟩) := by
    rintro ⟨drawn, before⟩
    obtain ⟨column, row⟩ := drawn.nonneg
    exact first ⟨by omega, row⟩ before
  constructor
  · intro c e defect
    obtain ⟨column, row, -⟩ := defect.inside
    exact first ⟨column, row⟩
  · intro c
    exact iff_of_false List.not_mem_nil (drawn c)
  · intro side c
    exact iff_of_false (by cases side <;> exact nofun) (drawn c)

/-- After a row the next one starts. -/
theorem Upto.nextRow {row : List Char} (isRow : rows[y]? = some row)
    (h : s.Upto rows ⟨row.length, y⟩) : s.Upto rows ⟨-1, (y + 1 : Nat)⟩ := by
  -- No tile lies between the end of a row and the start of the next one, but the place of a ragged
  -- row does.
  have same (c : Coord) (tile : Char) (drawn : Drawn rows c tile) :
      c.before ⟨-1, (y + 1 : Nat)⟩ ↔ c.before ⟨row.length, y⟩ := by
    have short := drawn.x_lt isRow
    rw [Coord.before_iff, Coord.before_iff]
    push_cast
    have := drawn.nonneg
    omega
  refine h.move same fun c e defect before => ?_
  rcases defect.place with ⟨y', _, _, rfl, -⟩ | ⟨tile, drawn⟩
  · refine h.sound _ e defect (Coord.before_iff.mpr ?_)
    rcases Coord.before_iff.mp before with above | ⟨-, left⟩
    · dsimp only at above ⊢
      omega
    · exact absurd left (Int.lt_irrefl _)
  · exact h.sound c e defect ((same c tile drawn).mp before)

/-- The tiles of a row of the right width come next. -/
theorem Upto.startRow {first row : List Char} (head : rows.head? = some first)
    (isRow : rows[y]? = some row) (level : row.length = first.length) (h : s.Upto rows ⟨-1, y⟩) :
    s.Upto rows ⟨(0 : Nat), y⟩ := by
  -- Only the place to the left of the row has been passed. There is a defect if the row is ragged.
  have same (c : Coord) (tile : Char) (drawn : Drawn rows c tile) :
      c.before ⟨(0 : Nat), y⟩ ↔ c.before ⟨-1, y⟩ := by
    have := drawn.nonneg
    rw [Coord.before_iff, Coord.before_iff]
    dsimp only
    omega
  refine h.move same fun c e defect before => ?_
  rcases defect.place with ⟨y', _, _, rfl, head', isRow', differs⟩ | ⟨tile, drawn⟩
  · by_cases here : y' = y
    · subst here
      obtain rfl := Option.some.inj (head.symm.trans head')
      obtain rfl := Option.some.inj (isRow.symm.trans isRow')
      exact differs level
    · refine h.sound _ e defect (Coord.before_iff.mpr ?_)
      have := Coord.before_iff.mp before
      dsimp only at this ⊢
      omega
  · exact h.sound c e defect ((same c tile drawn).mp before)

/-- After the last row everything has been seen. -/
theorem Upto.complete (h : s.Upto rows ⟨-1, y⟩) (last : rows.length ≤ y) : s.Complete rows := by
  have all {c : Coord} (inside : c.y < rows.length) : c.before ⟨-1, y⟩ := by
    refine Coord.before_iff.mpr (.inl ?_)
    show c.y < (y : Int)
    omega
  constructor
  · intro c e defect
    obtain ⟨-, -, inside⟩ := defect.inside
    exact h.sound c e defect (all inside)
  · intro c
    exact (h.walls c).trans (and_iff_left_of_imp fun drawn => all drawn.y_lt)
  · intro side c
    exact (h.spawns side c).trans (and_iff_left_of_imp fun drawn => all drawn.y_lt)

/-- A defect at the next place is the first one. -/
theorem Upto.firstDefect (h : s.Upto rows next) (defect : Defect rows next e) :
    FirstDefect rows e := ⟨next, defect, h.sound⟩

/-- A tile with which nothing is wrong is noted. -/
theorem Upto.note (h : s.Upto rows ⟨x, y⟩) (drawn : Drawn rows ⟨x, y⟩ tile)
    (sound : ∀ e, ¬Defect rows ⟨x, y⟩ e)
    (walls : ∀ c, c ∈ t.walls ↔ c ∈ s.walls ∨ tile = '#' ∧ c = ⟨x, y⟩)
    (spawns : ∀ side c, t.spawns.get side = some c ↔
      s.spawns.get side = some c ∨ tile = spawnTile side ∧ c = ⟨x, y⟩) :
    t.Upto rows ⟨(x + 1 : Nat), y⟩ := by
  -- The tile is drawn in its cell and nothing else is.
  have here {c : Coord} {tile' : Char} :
      tile = tile' ∧ c = ⟨x, y⟩ ↔ Drawn rows c tile' ∧ c = ⟨x, y⟩ := by
    refine and_congr_left ?_
    rintro rfl
    exact ⟨fun same => same ▸ drawn, drawn.unique⟩
  constructor
  · intro c e defect before
    rcases before_succ.mp before with earlier | rfl
    · exact h.sound c e defect earlier
    · exact sound e defect
  · intro c
    rw [walls, h.walls, here, ← and_or_left]
    exact and_congr_right fun _ => before_succ.symm
  · intro side c
    rw [spawns, h.spawns, here, ← and_or_left]
    exact and_congr_right fun _ => before_succ.symm

/-- A spawn is noted, or it has been drawn before. -/
theorem Upto.addSpawn (h : s.Upto rows ⟨x, y⟩) {side : Side}
    (drawn : Drawn rows ⟨x, y⟩ (spawnTile side)) :
    (∃ t, s.addSpawn side ⟨x, y⟩ = .ok t ∧ t.Upto rows ⟨(x + 1 : Nat), y⟩) ∨
      s.addSpawn side ⟨x, y⟩ = .error (.duplicateSpawn side) ∧
        Defect rows ⟨x, y⟩ (.duplicateSpawn side) := by
  rw [Survey.addSpawn]
  cases noted : s.spawns.get side with
  | some d =>
    obtain ⟨earlier, before⟩ := (h.spawns side d).mp noted
    exact .inr ⟨rfl, .duplicate earlier before drawn⟩
  | none =>
    -- A spawn that had been drawn before would have been noted.
    have fresh : ∀ d, Drawn rows d (spawnTile side) → ¬d.before ⟨x, y⟩ := by
      intro d earlier before
      rw [(h.spawns side d).mpr ⟨earlier, before⟩] at noted
      cases noted
    refine .inl ⟨_, rfl, h.note drawn (fun e defect => ?_) (fun c => ?_) fun other c => ?_⟩
    · rcases defect.of_drawn drawn with foreign | ⟨_, d, -, earlier, before⟩
      · exact foreign (spawnTile_mem_legend side)
      · exact fresh d earlier before
    · refine (or_iff_left ?_).symm
      rintro ⟨wall, -⟩
      cases side <;> exact absurd wall (by decide)
    -- Of the two spawns this one is noted here, and the other one stays as it was.
    · rw [Pair.get_set]
      by_cases same : other = side
      · subst same
        rw [if_pos rfl, noted, Option.some.injEq, eq_comm]
        constructor
        · intro here
          exact .inr ⟨rfl, here⟩
        · rintro (noted | ⟨-, here⟩)
          · cases noted
          · exact here
      · rw [if_neg same]
        refine (or_iff_left ?_).symm
        rintro ⟨same', -⟩
        exact same (spawnTile_injective same').symm

/-- A wall or a floor is noted, and the spawns stay. -/
theorem Upto.noteOther (h : s.Upto rows ⟨x, y⟩) (drawn : Drawn rows ⟨x, y⟩ tile)
    (known : tile ∈ legend) (noSpawn : ∀ side, tile ≠ spawnTile side)
    (walls : ∀ c, c ∈ t.walls ↔ c ∈ s.walls ∨ tile = '#' ∧ c = ⟨x, y⟩)
    (spawns : t.spawns = s.spawns) : t.Upto rows ⟨(x + 1 : Nat), y⟩ := by
  refine h.note drawn (fun e defect => ?_) walls fun side c => ?_
  · rcases defect.of_drawn drawn with foreign | ⟨side, _, spawn, -⟩
    · exact foreign known
    · exact noSpawn side spawn
  · rw [spawns]
    exact (or_iff_left fun here => noSpawn side here.1).symm

/-- **The next tile** is noted, or it is the first defect. -/
theorem Upto.addTile_cases (h : s.Upto rows ⟨x, y⟩) (drawn : Drawn rows ⟨x, y⟩ tile) :
    (∃ t, s.addTile y x tile = .ok t ∧ t.Upto rows ⟨(x + 1 : Nat), y⟩) ∨
      ∃ e, s.addTile y x tile = .error e ∧ Defect rows ⟨x, y⟩ e := by
  -- In turn: a wall, a floor, the two spawns, and a tile that is not known.
  unfold Survey.addTile
  split
  · refine .inl ⟨_, rfl, h.noteOther drawn (by decide) (by rintro (_ | _) <;> decide) ?_ rfl⟩
    intro c
    rw [List.mem_cons, or_comm]
    exact or_congr_right (and_iff_right rfl).symm
  · refine .inl ⟨_, rfl, h.noteOther drawn (by decide) (by rintro (_ | _) <;> decide) ?_ rfl⟩
    intro c
    exact (or_iff_left fun here => absurd here.1 (by decide)).symm
  · have spawn : Drawn rows ⟨x, y⟩ (spawnTile .first) := drawn
    exact (h.addSpawn spawn).imp_right fun failed => ⟨_, failed⟩
  · have spawn : Drawn rows ⟨x, y⟩ (spawnTile .second) := drawn
    exact (h.addSpawn spawn).imp_right fun failed => ⟨_, failed⟩
  · next noWall noFloor noFirst noSecond =>
    refine .inr ⟨_, rfl, .unknown drawn ?_⟩
    simp only [legend, List.mem_cons, List.not_mem_nil, or_false, not_or]
    exact ⟨noWall, noFloor, noFirst, noSecond⟩

/-- **The tiles of a row** are noted as the rest of the map is, or there is a first defect. -/
theorem Upto.addTiles {k : Survey → Except ArenaError Survey} {done todo : List Char}
    (isRow : rows[y]? = some (done ++ todo)) (h : s.Upto rows ⟨done.length, y⟩)
    (rest : ∀ t, t.Upto rows ⟨-1, (y + 1 : Nat)⟩ → Surveyed rows (k t)) :
    Surveyed rows (s.addTiles y done.length todo >>= k) := by
  -- What follows on the row comes along as `k`, since a defect of the row is the end of it.
  induction todo generalizing done s with
  | nil =>
    rw [List.append_nil] at isRow
    exact rest s (h.nextRow isRow)
  | cons tile todo ih =>
    have drawn : Drawn rows ⟨done.length, y⟩ tile :=
      drawn_mk_iff.mpr ⟨_, isRow, by rw [List.getElem?_append_right (Nat.le_refl _)]; simp⟩
    rw [Survey.addTiles]
    rcases h.addTile_cases drawn with ⟨t, noted, next⟩ | ⟨e, failed, defect⟩
    · rw [noted]
      have split : done ++ tile :: todo = (done ++ [tile]) ++ todo := by simp
      have length : (done ++ [tile]).length = done.length + 1 := by simp
      have more := @ih t (done ++ [tile]) (split ▸ isRow) (length ▸ next)
      rw [length] at more
      exact more
    · rw [failed]
      exact h.firstDefect defect

/-- **The rows of a map** are noted, or there is a first defect. -/
theorem Upto.addRows {first : List Char} {remaining : List (List Char)}
    (head : rows.head? = some first) (drop : rows.drop y = remaining)
    (h : s.Upto rows ⟨-1, y⟩) : Surveyed rows (s.addRows first.length y remaining) := by
  induction remaining generalizing y s with
  | nil => exact h.complete (List.drop_eq_nil_iff.mp drop)
  | cons row remaining ih =>
    have isRow : rows[y]? = some row := by rw [← List.head?_drop, drop]; rfl
    have next : rows.drop (y + 1) = remaining := by rw [← List.tail_drop, drop]; rfl
    rw [Survey.addRows]
    by_cases level : row.length = first.length
    · rw [if_neg (not_not.mpr level)]
      have whole : rows[y]? = some ([] ++ row) := isRow
      exact (h.startRow head isRow level).addTiles whole fun t => ih next
    · rw [if_pos level]
      exact h.firstDefect (.ragged head isRow level)

end Survey

/-! ### The arena -/

/-- The rows of a map show an arena. -/
structure Depicts (rows : List (List Char)) (a : Arena) : Prop where
  width : ∀ row ∈ rows, a.grid.width = row.length
  height : a.grid.height = rows.length
  walls : ∀ c, a.grid.isWall c ↔ Drawn rows c '#'
  spawns : ∀ side, Drawn rows (a.spawns.get side).position (spawnTile side)

variable {a : Arena}

/-- The map of the arena has the same tiles. -/
theorem Depicts.tileAt_eq (h : Depicts rows a) (well : WellDrawn rows) (drawn : Drawn rows c tile) :
    a.tileAt c = tile := by
  have first : Drawn rows a.spawns.first.position '1' := h.spawns .first
  have second : Drawn rows a.spawns.second.position '2' := h.spawns .second
  rw [Arena.tileAt]
  by_cases isFirst : c = a.spawns.first.position
  · rw [if_pos isFirst]
    exact first.unique (isFirst ▸ drawn)
  by_cases isSecond : c = a.spawns.second.position
  · rw [if_neg isFirst, if_pos isSecond]
    exact second.unique (isSecond ▸ drawn)
  rw [if_neg isFirst, if_neg isSecond]
  by_cases wall : a.grid.isWall c
  · rw [if_pos wall]
    exact ((h.walls c).mp wall).unique drawn
  -- Each of the other tiles would make the cell what it is not.
  rw [if_neg wall]
  obtain ⟨x, y, rfl, row, isRow, isTile⟩ := id drawn
  have known := well.tiles row (List.mem_of_getElem? isRow) tile (List.mem_of_getElem? isTile)
  simp only [legend, List.mem_cons, List.not_mem_nil, or_false] at known
  rcases known with rfl | rfl | rfl | rfl
  · exact absurd ((h.walls _).mpr drawn) wall
  · rfl
  · exact absurd ((well.spawns .first).unique drawn first) isFirst
  · exact absurd ((well.spawns .second).unique drawn second) isSecond

/-- **The map of the arena has the same rows.** -/
theorem Depicts.map_mapRow (h : Depicts rows a) (well : WellDrawn rows) :
    (List.range a.grid.height.toNat).map a.mapRow = rows := by
  refine List.ext_getElem (by rw [List.length_map, List.length_range, h.height]; rfl) ?_
  intro y _ hy
  rw [List.getElem_map, List.getElem_range]
  have width := h.width _ (List.getElem_mem hy)
  refine List.ext_getElem (by rw [Arena.length_mapRow, width]; rfl) ?_
  intro x _ hx
  simp only [Arena.mapRow, List.getElem_map, List.getElem_range]
  refine h.tileAt_eq well (drawn_mk_iff.mpr ⟨rows[y], List.getElem?_eq_getElem hy, ?_⟩)
  exact List.getElem?_eq_getElem hx

/-- The map of an arena that the rows depict is the rows themselves. -/
theorem Depicts.toMap_eq (h : Depicts rows a) (well : WellDrawn rows) :
    a.toMap = String.ofList (Text.unlines rows) := by
  rw [← h.map_mapRow well, Text.unlines, List.flatMap_map]
  rfl

/-- What is drawn lies on the grid. -/
theorem WellDrawn.inside (well : WellDrawn rows) {row : List Char} (member : row ∈ rows)
    (drawn : Drawn rows c tile) : c.inside row.length rows.length := by
  obtain ⟨x, y, rfl, row', isRow, isTile⟩ := drawn
  obtain ⟨bound, -⟩ := List.getElem?_eq_some_iff.mp isRow
  obtain ⟨bound', -⟩ := List.getElem?_eq_some_iff.mp isTile
  have level := well.level row' (List.mem_of_getElem? isRow) row member
  rw [Coord.inside_iff]
  dsimp only
  omega

/-- The grid of a complete survey has the size of the rows and the walls that are drawn. -/
theorem Survey.Complete.exists_grid {s : Survey} (h : s.Complete rows) (well : WellDrawn rows)
    {first : List Char} (member : first ∈ rows) (wide : first ≠ [])
    (narrow : first.length < 2147483648) (few : rows.length < 2147483648) :
    ∃ bare, Grid.ofSize? first.length rows.length = some bare ∧
      (bare.addWalls s.walls).width = first.length ∧
      (bare.addWalls s.walls).height = rows.length ∧
      ∀ c, (bare.addWalls s.walls).isWall c ↔ Drawn rows c '#' := by
  -- The rows are neither empty nor too long, so there is a grid of their size.
  obtain ⟨bare, size, width, height, empty⟩ :
      ∃ bare, Grid.ofSize? first.length rows.length = some bare ∧ bare.width = first.length ∧
        bare.height = rows.length ∧ bare.walls = [] := by
    have := List.length_pos_iff.mpr wide
    have := List.length_pos_of_mem member
    refine ⟨_, dif_pos ?_, rfl, rfl, rfl⟩
    rw [Grid.maxSize]
    omega
  refine ⟨bare, size, (Grid.width_addWalls _).trans width, (Grid.height_addWalls _).trans height,
    fun c => ?_⟩
  rw [Grid.isWall, List.contains_iff_mem, Grid.mem_walls_addWalls, empty, h.walls, Grid.inBounds,
    width, height]
  constructor
  · rintro (unbuilt | ⟨drawn, -⟩)
    · exact absurd unbuilt List.not_mem_nil
    · exact drawn
  · intro drawn
    exact .inr ⟨drawn, well.inside member drawn⟩

/-- **The arena of a complete survey** passes all further checks, and the rows show it. -/
theorem Survey.Complete.exists_arena {s : Survey} (h : s.Complete rows) (well : WellDrawn rows)
    {first : List Char} (member : first ∈ rows) (wide : first ≠ [])
    (narrow : first.length < 2147483648) (few : rows.length < 2147483648) :
    ∃ a, s.arena first.length rows.length = .ok a ∧ Depicts rows a := by
  obtain ⟨bare, size, width, height, walls⟩ := h.exists_grid well member wide narrow few
  -- No wall is drawn where a spawn is.
  have spawn (side : Side) : ∃ c, s.spawns.get side = some c ∧ Drawn rows c (spawnTile side) ∧
      (bare.addWalls s.walls).isFloor c := by
    obtain ⟨c, drawn, -⟩ := well.spawns side
    refine ⟨c, (h.spawns side c).mpr drawn, drawn, ?_⟩
    rw [Grid.isFloor, Bool.and_eq_true, Grid.inBounds, width, height, Bool.not_eq_true',
      Bool.eq_false_iff]
    refine ⟨well.inside member drawn, fun wall => ?_⟩
    have same := drawn.unique ((walls c).mp wall)
    cases side <;> exact absurd same (by decide)
  -- So the grid and the two spawns are the parts of an arena, and it is read as that.
  obtain ⟨c₁, noted₁, drawn₁, floor₁⟩ := spawn .first
  obtain ⟨c₂, noted₂, drawn₂, floor₂⟩ := spawn .second
  have apart : c₁ ≠ c₂ := by
    rintro rfl
    exact absurd (drawn₁.unique drawn₂) (by decide)
  refine ⟨⟨bare.addWalls s.walls, ⟨⟨c₁, .east⟩, ⟨c₂, .west⟩⟩, ?_, apart⟩, ?_, ?_, height, walls, ?_⟩
  · rintro (_ | _)
    · exact floor₁
    · exact floor₂
  · have first : s.spawns.first = some c₁ := noted₁
    have second : s.spawns.second = some c₂ := noted₂
    rw [Survey.arena, first, second]
    dsimp only
    rw [size]
    exact Arena.ofParts_eq_ok_iff.mpr ⟨rfl, rfl⟩
  · intro row member'
    exact width.trans (congrArg Int.ofNat (well.level first member row member'))
  · rintro (_ | _)
    · exact drawn₁
    · exact drawn₂

/-- A complete survey that lacks a spawn is refused for that. -/
theorem Survey.Complete.arena_eq_error {s : Survey} (h : s.Complete rows) (ne_nil : rows ≠ [])
    (wanting : ¬WellDrawn rows) (width height : Nat) :
    ∃ e, s.arena width height = .error e ∧ Refused rows e := by
  rw [Survey.arena]
  cases first : s.spawns.first with
  | none =>
    refine ⟨_, rfl, .missingFirst ne_nil h.sound fun c drawn => ?_⟩
    have := (h.spawns .first c).mpr drawn
    cases first.symm.trans this
  | some c₁ =>
    have drawn₁ : Drawn rows c₁ '1' := (h.spawns .first c₁).mp first
    cases second : s.spawns.second with
    | none =>
      refine ⟨_, rfl, .missingSecond ne_nil h.sound ⟨c₁, drawn₁⟩ fun c drawn => ?_⟩
      have := (h.spawns .second c).mpr drawn
      cases second.symm.trans this
    | some c₂ =>
      have drawn₂ : Drawn rows c₂ '2' := (h.spawns .second c₂).mp second
      -- With both spawns nothing would be wanting.
      refine absurd (wellDrawn_iff.mpr ⟨ne_nil, h.sound, ?_⟩) wanting
      rintro (_ | _)
      · exact ⟨c₁, drawn₁⟩
      · exact ⟨c₂, drawn₂⟩

/-- **Rows of a map are read or refused for what is wrong with them.** -/
theorem arenaOfRows_cases (solid : [] ∉ rows) (few : rows.length < 2147483648)
    (narrow : ∀ row ∈ rows, row.length < 2147483648) :
    (WellDrawn rows ∧ ∃ a, arenaOfRows rows = .ok a ∧ Depicts rows a) ∨
      ∃ e, arenaOfRows rows = .error e ∧ Refused rows e := by
  cases head : rows.head? with
  | none =>
    obtain rfl := List.head?_eq_none_iff.mp head
    exact .inr ⟨_, rfl, .empty rfl⟩
  | some first =>
    have member : first ∈ rows := List.mem_of_head? head
    have surveyed := (Survey.Upto.start rows).addRows head rfl
    rw [arenaOfRows_of_head? head]
    rw [List.drop_zero] at surveyed
    cases noted : Survey.start.addRows first.length 0 rows with
    | error e =>
      rw [noted] at surveyed
      exact .inr ⟨e, rfl, .defect surveyed⟩
    | ok s =>
      rw [noted] at surveyed
      have complete : s.Complete rows := surveyed
      -- There is nothing wrong in any cell, so only a spawn can be missing.
      by_cases well : WellDrawn rows
      · have wide : first ≠ [] := fun empty => solid (empty ▸ member)
        exact .inl ⟨well, complete.exists_arena well member wide (narrow first member) few⟩
      · exact .inr (complete.arena_eq_error (List.ne_nil_of_mem member) well ..)

/-- A row that counts is not empty. -/
private theorem nil_not_mem_rows (text : String) : [] ∉ Map.rows text := by
  intro member
  have counts := (List.mem_filter.mp member).2
  exact absurd counts (by decide)

end Map

namespace Arena

open Map

/-- **A text is read as a map if and only if it is well drawn.** Then the map of the arena has the
rows of the text. Otherwise the text is refused for what is wrong with it: it has no rows, or for
its first defect in reading order, or for a missing spawn if there is no defect. The checks of the
parts of an arena never refuse it. -/
theorem ofMap_exact (text : String) (few : (rows text).length < 2147483648)
    (narrow : ∀ row ∈ rows text, row.length < 2147483648) :
    ((∃ a, ofMap text = .ok a) ↔ WellDrawn (rows text)) ∧
      (∀ a, ofMap text = .ok a → a.toMap = String.ofList (Text.unlines (rows text))) ∧
      (∀ e, ofMap text = .error e ↔ Refused (rows text) e) ∧
      (ofMap text = .error .empty ↔ rows text = []) ∧
      ∀ e, ofMap text = .error e → (∀ side, e ≠ .invalidSpawn side) ∧ e ≠ .sharedSpawn := by
  rw [← refused_empty_iff]
  -- Either all of it is read, or the one reason for which it is refused is told.
  rcases arenaOfRows_cases (nil_not_mem_rows text) few narrow with
    ⟨well, a, read, depicts⟩ | ⟨e, refused, cause⟩
  · have read : ofMap text = .ok a := read
    have unrefused (e : ArenaError) : ofMap text = .error e ↔ Refused (rows text) e :=
      iff_of_false (by rw [read]; exact nofun) fun cause => cause.not_wellDrawn well
    refine ⟨⟨fun _ => well, fun _ => ⟨a, read⟩⟩, ?_, unrefused, unrefused _, ?_⟩
    · intro a' read'
      obtain rfl := Except.ok.inj (read.symm.trans read')
      exact depicts.toMap_eq well
    · intro e refused
      exact ((unrefused e).mp refused).ne_of_parts
  · have refused : ofMap text = .error e := refused
    have unread (a : Arena) : ofMap text ≠ .ok a := by rw [refused]; exact nofun
    have refusal (e' : ArenaError) : ofMap text = .error e' ↔ Refused (rows text) e' := by
      rw [refused, Except.error.injEq]
      exact ⟨fun same => same ▸ cause, cause.unique⟩
    refine ⟨⟨fun ⟨a, read⟩ => absurd read (unread a), fun well => absurd well cause.not_wellDrawn⟩,
      fun a read => absurd read (unread a), refusal, refusal _, ?_⟩
    intro e' refused'
    exact ((refusal e').mp refused').ne_of_parts

/-- Empty lines and blanks at the end of a row do not count. Of the two things that are wrong with
the other text, the spawn that comes twice is told, as it comes before the unknown tile. -/
theorem ofMap_exact_blanks :
    let text := "\n1.#  \r\n\t\n..2\n"
    let wrong := "1.#\n.1?\n"
    rows text = [['1', '.', '#'], ['.', '.', '2']] ∧ WellDrawn (rows text) ∧
      (∃ a, ofMap text = .ok a ∧ a.toMap = "1.#\n..2\n") ∧
      ofMap wrong = .error (.duplicateSpawn .first) ∧
      Refused (rows wrong) (.duplicateSpawn .first) ∧ ¬WellDrawn (rows wrong) := by
  intro text wrong
  have drawn : rows text = [['1', '.', '#'], ['.', '.', '2']] := by decide +kernel
  obtain ⟨accepted, map, -⟩ := ofMap_exact text (by decide +kernel) (by decide +kernel)
  obtain ⟨-, -, refusals, -⟩ := ofMap_exact wrong (by decide +kernel) (by decide +kernel)
  have read : (ofMap text).toOption.isSome := by decide +kernel
  have refused : ofMap wrong = .error (.duplicateSpawn .first) := by decide +kernel
  -- Whether the text is read can be evaluated. An arena holds proofs, so it is not compared itself.
  obtain ⟨a, ha⟩ : ∃ a, ofMap text = .ok a := by
    cases made : ofMap text with
    | ok a => exact ⟨a, rfl⟩
    | error e =>
      rw [made] at read
      exact absurd read Bool.false_ne_true
  have cause := (refusals _).mp refused
  refine ⟨drawn, accepted.mp ⟨a, ha⟩, ⟨a, ha, ?_⟩, refused, cause, cause.not_wellDrawn⟩
  rw [map a ha, drawn]
  decide +kernel

end Arena

end TankDuel

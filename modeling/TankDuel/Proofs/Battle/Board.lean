import Mathlib.Logic.Function.Basic
import TankDuel.Battle.Board
import TankDuel.Proofs.Arena.Map

/-!
# What a board shows

A board is painted in layers, the map of an arena is decided on cell by cell. Both are pictures of
a function from cells to characters (`Board.ofFn`). To paint a cell of such a picture is to change
the function there (`Board.paint_ofFn`), also off the board, where nobody sees it. To paint a list
of things is to let each cell show the last of the things that are in it, and what it showed before
where there is none (`Board.paintAll_ofFn`).

`Snapshot.Shows` says what a cell has to show, without any painting, and `Snapshot.drawnAs_rows`
that it does. Cells off the board have no part in this, so whatever is off the board may as well be
left out (`Snapshot.render_crop`). A battle before its first turn shows its arena
(`Battle.render_fresh`).
-/

namespace TankDuel

/-! ### Pictures of functions -/

/-- Setting an entry of a row is updating the function that it is made of. -/
private theorem set_map_range {α : Type} (n i : Nat) (f : Nat → α) (a : α) :
    ((List.range n).map f).set i a = (List.range n).map (Function.update f i a) := by
  refine List.ext_getElem (by simp) fun j _ _ => ?_
  rw [List.getElem_set, List.getElem_map, List.getElem_map, List.getElem_range,
    Function.update_apply]
  exact if_congr eq_comm rfl rfl

/-- Modifying an entry of a row is updating the function that it is made of. -/
private theorem modify_map_range {α : Type} (n i : Nat) (f : Nat → α) (g : α → α) :
    ((List.range n).map f).modify i g = (List.range n).map (Function.update f i (g (f i))) := by
  refine List.ext_getElem (by simp) fun j _ _ => ?_
  rw [List.getElem_modify, List.getElem_map, List.getElem_map, List.getElem_range,
    Function.update_apply]
  by_cases here : i = j
  · rw [if_pos here, if_pos here.symm, here]
  · rw [if_neg here, if_neg (Ne.symm here)]

namespace Board

/-- The picture of a function. -/
def ofFn (width height : Int) (f : Coord → Char) : Board :=
  ⟨(List.range height.toNat).map fun (y : Nat) =>
    (List.range width.toNat).map fun (x : Nat) => f ⟨x, y⟩⟩

variable {α : Type} {width height : Int} {f g : Coord → Char} {c : Coord}

/-- A board shows only the cells inside it. -/
private theorem ofFn_congr (same : ∀ c : Coord, c.inside width height → f c = g c) :
    ofFn width height f = ofFn width height g := by
  refine congrArg Board.mk (List.map_congr_left fun y hy => List.map_congr_left fun x hx => ?_)
  rw [List.mem_range] at hx hy
  refine same _ (Coord.inside_iff.mpr ?_)
  show (0 ≤ (x : Int) ∧ (x : Int) < width) ∧ 0 ≤ (y : Int) ∧ (y : Int) < height
  omega

/-- A cell of a picture shows the value of the function. -/
private theorem cell_ofFn {x y : Nat} {ch : Char} :
    (ofFn width height f).rows[y]?.bind (·[x]?) = some ch ↔
      Coord.inside width height ⟨x, y⟩ ∧ f ⟨x, y⟩ = ch := by
  rw [Coord.inside_iff]
  dsimp only [ofFn]
  rw [List.getElem?_map]
  by_cases hy : y < height.toNat
  · rw [List.getElem?_range hy, Option.map_some, Option.bind_some, List.getElem?_map]
    by_cases hx : x < width.toNat
    · rw [List.getElem?_range hx, Option.map_some, Option.some.injEq]
      exact (and_iff_right (by omega)).symm
    · rw [List.getElem?_eq_none (by rw [List.length_range]; omega)]
      exact ⟨nofun, fun shown => by omega⟩
  · rw [List.getElem?_eq_none (by rw [List.length_range]; omega)]
    exact ⟨nofun, fun shown => by omega⟩

/-- The empty board has floor everywhere. -/
private theorem floor_eq_ofFn : floor width height = ofFn width height fun _ => '.' := by
  rw [floor, ofFn, List.map_const', List.map_const', List.length_range, List.length_range]

/-- **Painting a cell changes the function there.** -/
theorem paint_ofFn (c : Coord) (ch : Char) :
    (ofFn width height f).paint c ch = ofFn width height (Function.update f c ch) := by
  rw [paint]
  split
  · next onBoard =>
    obtain ⟨cx, cy⟩ := c
    obtain ⟨column, row⟩ : 0 ≤ cx ∧ 0 ≤ cy := onBoard
    dsimp only [ofFn]
    rw [modify_map_range, set_map_range]
    refine congrArg Board.mk (List.map_congr_left fun y _ => ?_)
    rw [Function.update_apply]
    -- The other rows stay, and so do the other cells of this row.
    split
    · next here =>
      refine List.map_congr_left fun x _ => ?_
      rw [Function.update_apply, Function.update_apply, here, Int.toNat_of_nonneg row]
      refine if_congr ?_ rfl rfl
      rw [Coord.mk.injEq]
      omega
    · next elsewhere =>
      refine List.map_congr_left fun x _ => (Function.update_of_ne ?_ ..).symm
      rw [Ne, Coord.mk.injEq]
      omega
  · next offBoard =>
    -- What is painted beside the board is not seen.
    refine ofFn_congr fun d inside => (Function.update_of_ne ?_ ..).symm
    rintro rfl
    have := Coord.inside_iff.mp inside
    omega

/-- The last one of some things that are in a cell. -/
def top? (cell : α → Coord) (items : List α) (c : Coord) : Option α :=
  items.reverse.find? fun item => cell item = c

/-- On top lies the last item of the list that is on the cell. -/
private theorem top?_eq_some_iff {cell : α → Coord} {items : List α} {item : α} :
    top? cell items c = some item ↔ ∃ before after, items = before ++ item :: after ∧
      cell item = c ∧ ∀ other ∈ after, cell other ≠ c := by
  simp only [top?, List.find?_eq_some_iff_append, decide_eq_true_eq, Bool.not_eq_true',
    decide_eq_false_iff_not]
  constructor
  · rintro ⟨here, after, before, reversed, topmost⟩
    refine ⟨before.reverse, after.reverse, ?_, here, fun other later => ?_⟩
    · rw [← List.reverse_reverse items, reversed, List.reverse_append, List.reverse_cons,
        List.append_assoc, List.singleton_append]
    · exact topmost other (List.mem_reverse.mp later)
  · rintro ⟨before, after, rfl, here, topmost⟩
    refine ⟨here, after.reverse, before.reverse, ?_, fun other later => ?_⟩
    · rw [List.reverse_append, List.reverse_cons, List.append_assoc, List.singleton_append]
    · exact topmost other (List.mem_reverse.mp later)

/-- Nothing lies on top of a cell where there is nothing. -/
private theorem top?_eq_none_iff {cell : α → Coord} {items : List α} :
    top? cell items c = none ↔ ∀ item ∈ items, cell item ≠ c := by
  simp only [top?, List.find?_eq_none, List.mem_reverse, decide_eq_true_eq, ne_eq]

/-- **Painting a list of things** lets each cell show the last one of those that are in it. -/
theorem paintAll_ofFn (cell : α → Coord) (ch : α → Char) (items : List α) :
    (ofFn width height f).paintAll cell ch items =
      ofFn width height fun c => ((top? cell items c).map ch).getD (f c) := by
  induction items generalizing f with
  | nil => rfl
  | cons item items ih =>
    show ((ofFn width height f).paint (cell item) (ch item)).paintAll cell ch items = _
    rw [paint_ofFn, ih]
    refine ofFn_congr fun c _ => ?_
    have split : top? cell (item :: items) c =
        (top? cell items c).or (if cell item = c then some item else none) := by
      rw [top?, List.reverse_cons, List.find?_append, List.find?_singleton, top?]
      simp only [decide_eq_true_eq]
    rw [split]
    -- A later one covers the first one, which otherwise is the last one if it is there.
    cases top? cell items c with
    | some later => rfl
    | none =>
      by_cases here : cell item = c
      · rw [if_pos here, here]
        exact Function.update_self ..
      · rw [if_neg here]
        exact Function.update_of_ne (Ne.symm here) ..

/-- What is not near a cell may be left out. -/
private theorem top?_filter {cell : α → Coord} {items : List α} {near : Coord → Bool}
    (kept : near c) :
    top? cell (items.filter fun item => near (cell item)) c = top? cell items c := by
  rw [top?, ← List.filter_reverse, List.find?_filter, top?]
  congr 1
  funext item
  refine decide_eq_decide.mpr ?_
  rw [decide_eq_true_eq]
  exact and_iff_right_of_imp fun here => here ▸ kept

end Board

/-! ### Boards of snapshots -/

namespace Snapshot

open Board (top? top?_eq_some_iff top?_eq_none_iff)

variable {s : Snapshot} {c : Coord} {ch : Char}

/-- What a cell of the board has to show. Of several tanks it shows the last one; a tank covers
bullets, and both cover what the cell is made of. -/
inductive Shows (s : Snapshot) (c : Coord) : Char → Prop
  | alive {before after : List TankView} {t : TankView} {ch : Char} :
    s.tanks = before ++ t :: after → t.position = c → (∀ u ∈ after, u.position ≠ c) →
      t.alive = true → ch.toNat = '0'.toNat + t.id → Shows s c ch
  | destroyed {before after : List TankView} {t : TankView} :
    s.tanks = before ++ t :: after → t.position = c → (∀ u ∈ after, u.position ≠ c) →
      t.alive = false → Shows s c 'x'
  | bullet : (∀ t ∈ s.tanks, t.position ≠ c) → (∃ b ∈ s.bullets, b.position = c) → Shows s c '*'
  | wall : (∀ t ∈ s.tanks, t.position ≠ c) → (∀ b ∈ s.bullets, b.position ≠ c) → c ∈ s.walls →
    Shows s c '#'
  | floor : (∀ t ∈ s.tanks, t.position ≠ c) → (∀ b ∈ s.bullets, b.position ≠ c) → c ∉ s.walls →
    Shows s c '.'

/-- What the layers of the board come to in a cell. -/
def glyph (s : Snapshot) (c : Coord) : Char :=
  ((top? TankView.position s.tanks c).map TankView.symbol).getD <|
    ((top? Bullet.position s.bullets c).map fun _ => '*').getD <|
      ((top? id s.walls c).map fun _ => '#').getD '.'

/-- A board shows the glyph of every cell. -/
private theorem board_eq_ofFn (s : Snapshot) : s.board = .ofFn s.width s.height s.glyph := by
  rw [board, Board.floor_eq_ofFn, Board.paintAll_ofFn, Board.paintAll_ofFn, Board.paintAll_ofFn]
  rfl

/-- A living tank is shown by the character with its number, counted from the digit zero. -/
private theorem symbol_of_alive {t : TankView} (few : t.id < 200) (alive : t.alive = true) :
    t.symbol = ch ↔ ch.toNat = '0'.toNat + t.id := by
  have value : t.symbol.toNat = '0'.toNat + t.id := by
    have valid : ('0'.toNat + t.id).isValidChar := .inl (by
      show 48 + t.id < 0xd800
      omega)
    rw [TankView.symbol, if_pos alive, Char.ofNat, dif_pos valid]
    rfl
  rw [← value, Char.toNat_inj, eq_comm]

/-- A destroyed tank is shown by a cross. -/
private theorem symbol_of_destroyed {t : TankView} (destroyed : t.alive = false) :
    t.symbol = 'x' := by
  rw [TankView.symbol, destroyed]
  rfl

/-- What lies on top of a cell is on the cell. -/
private theorem mem_of_top? {α : Type} {cell : α → Coord} {items : List α} {item : α}
    (top : top? cell items c = some item) : item ∈ items ∧ cell item = c := by
  obtain ⟨before, after, rfl, here, -⟩ := top?_eq_some_iff.mp top
  exact ⟨List.mem_append_right _ List.mem_cons_self, here⟩

/-- **The layers show what there is to be shown.** -/
theorem shows_glyph (few : ∀ t ∈ s.tanks, t.id < 200) (c : Coord) : s.Shows c (s.glyph c) := by
  -- The layers are taken off from the top.
  unfold glyph
  cases tank : top? TankView.position s.tanks c with
  | some t =>
    obtain ⟨before, after, split, here, last⟩ := top?_eq_some_iff.mp tank
    cases alive : t.alive with
    | true =>
      have small := few t (mem_of_top? tank).1
      exact .alive split here last alive ((symbol_of_alive small alive).mp rfl)
    | false =>
      rw [Option.map_some, Option.getD_some, symbol_of_destroyed alive]
      exact .destroyed split here last alive
  | none =>
    have noTank := top?_eq_none_iff.mp tank
    cases bullet : top? Bullet.position s.bullets c with
    | some b => exact .bullet noTank ⟨b, mem_of_top? bullet⟩
    | none =>
      have noBullet := top?_eq_none_iff.mp bullet
      cases wall : top? id s.walls c with
      | some d =>
        obtain ⟨listed, rfl⟩ := mem_of_top? wall
        exact .wall noTank noBullet listed
      | none => exact .floor noTank noBullet fun listed => top?_eq_none_iff.mp wall c listed rfl

/-- A cell has one thing to show. -/
theorem Shows.glyph_eq (shows : s.Shows c ch) (few : ∀ t ∈ s.tanks, t.id < 200) :
    s.glyph c = ch := by
  unfold glyph
  -- Tanks are drawn over bullets, bullets over walls, and walls over the floor.
  cases shows with
  | alive split here last alive value =>
    rw [top?_eq_some_iff.mpr ⟨_, _, split, here, last⟩]
    have small := few _ (split ▸ List.mem_append_right _ List.mem_cons_self)
    exact (symbol_of_alive small alive).mpr value
  | destroyed split here last destroyed =>
    rw [top?_eq_some_iff.mpr ⟨_, _, split, here, last⟩]
    exact symbol_of_destroyed destroyed
  | bullet noTank flying =>
    rw [top?_eq_none_iff.mpr noTank]
    cases bullet : top? Bullet.position s.bullets c with
    | some b => rfl
    | none =>
      obtain ⟨b, member, here⟩ := flying
      exact absurd here (top?_eq_none_iff.mp bullet b member)
  | wall noTank noBullet listed =>
    rw [top?_eq_none_iff.mpr noTank, top?_eq_none_iff.mpr noBullet]
    cases wall : top? id s.walls c with
    | some d => rfl
    | none => exact absurd rfl (top?_eq_none_iff.mp wall c listed)
  | floor noTank noBullet unlisted =>
    have noWall : top? id s.walls c = none :=
      top?_eq_none_iff.mpr fun d listed (here : d = c) => unlisted (here ▸ listed)
    rw [top?_eq_none_iff.mpr noTank, top?_eq_none_iff.mpr noBullet, noWall]
    rfl

/-- No cell shows what ends a line. -/
theorem Shows.ne_of_toNat_lt (shows : s.Shows c ch) {control : Char} (low : control.toNat < 32) :
    ch ≠ control := by
  rintro rfl
  cases shows with
  | alive _ _ _ _ value =>
    rw [value] at low
    exact absurd low (by show ¬48 + _ < 32; omega)
  | destroyed | bullet | wall | floor => exact absurd low (by decide)

/-- The rows of a board are what is written on the lines of its text, one cell after the other. -/
structure DrawnAs (s : Snapshot) (rows : List (List Char)) : Prop where
  height : (rows.length : Int) = max s.height 0
  width : ∀ row ∈ rows, (row.length : Int) = max s.width 0
  cell_iff : ∀ (x y : Nat) ch, rows[y]?.bind (·[x]?) = some ch ↔
    Coord.inside s.width s.height ⟨x, y⟩ ∧ s.Shows ⟨x, y⟩ ch

/-- The rows of a board are drawn as the snapshot says. -/
theorem drawnAs_rows (few : ∀ t ∈ s.tanks, t.id < 200) : s.DrawnAs s.board.rows := by
  rw [board_eq_ofFn]
  constructor
  · rw [Board.ofFn, List.length_map, List.length_range]
    omega
  · intro row drawn
    obtain ⟨y, -, rfl⟩ := List.mem_map.mp drawn
    rw [List.length_map, List.length_range]
    omega
  · intro x y ch
    rw [Board.cell_ofFn]
    refine and_congr_right fun _ => ⟨?_, fun shows => shows.glyph_eq few⟩
    rintro rfl
    exact shows_glyph few _

/-- **The text of a board** is cut at the line feeds into the rows that are drawn. -/
theorem render_drawnAs (few : ∀ t ∈ s.tanks, t.id < 200) :
    ∃ rows, s.DrawnAs rows ∧ s.render = String.ofList (Text.unlines rows) ∧
      Text.lines s.render.toList = rows := by
  have drawn := drawnAs_rows few
  refine ⟨s.board.rows, drawn, rfl, ?_⟩
  have text : s.render.toList = Text.unlines s.board.rows := String.toList_ofList
  rw [text]
  refine Text.lines_unlines fun row member => ?_
  -- Every character of a row is shown by a cell.
  have shown : ∀ ch ∈ row, ∃ c, s.Shows c ch := by
    intro ch hch
    obtain ⟨y, hy⟩ := List.mem_iff_getElem?.mp member
    obtain ⟨x, hx⟩ := List.mem_iff_getElem?.mp hch
    have cell : s.board.rows[y]?.bind (·[x]?) = some ch := by rw [hy]; exact hx
    exact ⟨_, ((drawn.cell_iff x y ch).mp cell).2⟩
  constructor
  · intro feed
    obtain ⟨c, shows⟩ := shown _ feed
    exact shows.ne_of_toNat_lt (by decide) rfl
  · intro last
    obtain ⟨c, shows⟩ := shown _ (List.mem_of_getLast? last)
    exact shows.ne_of_toNat_lt (by decide) rfl

/-- The part of a snapshot that is on the board. -/
def crop (s : Snapshot) : Snapshot :=
  { s with
    walls := s.walls.filter (Coord.inside s.width s.height)
    bullets := s.bullets.filter fun b => b.position.inside s.width s.height
    tanks := s.tanks.filter fun t => t.position.inside s.width s.height }

/-- **What is off the board is not drawn**, and changes nothing of what is drawn. -/
theorem render_crop (s : Snapshot) : s.crop.render = s.render := by
  have same : s.crop.board = s.board := by
    rw [board_eq_ofFn, board_eq_ofFn]
    refine Board.ofFn_congr fun c (inside : c.inside s.width s.height) => ?_
    have tanks : top? TankView.position s.crop.tanks c = top? TankView.position s.tanks c :=
      Board.top?_filter inside
    have bullets : top? Bullet.position s.crop.bullets c = top? Bullet.position s.bullets c :=
      Board.top?_filter inside
    have walls : top? id s.crop.walls c = top? id s.walls c := Board.top?_filter inside
    rw [glyph, glyph, tanks, bullets, walls]
  rw [render, render, same]

end Snapshot

/-! ### Boards of battles -/

namespace Battle

/-- **Before the first turn each cell shows its tile** of the map. -/
theorem shows_fresh (config : Config) (arena : Arena) (programs : Option (Pair Program))
    (alive : 1 ≤ config.maxHp.toInt) (c : Coord) :
    (fresh config arena programs).snapshot.Shows c (arena.tileAt c) := by
  -- Both tanks are alive, and each of them is where it starts.
  let tank (side : Side) : TankView := .ofTank side (spawnTank config arena programs side)
  have hp (side : Side) : (tank side).alive = true :=
    decide_eq_true (Int.lt_of_lt_of_le Int.zero_lt_one alive)
  rw [Arena.tileAt]
  by_cases first : c = arena.spawns.first.position
  · have split : (fresh config arena programs).snapshot.tanks =
        [] ++ tank .first :: [tank .second] := rfl
    rw [if_pos first]
    refine .alive split first.symm ?_ (hp .first) rfl
    intro other later there
    obtain rfl := List.mem_singleton.mp later
    exact arena.apart (first.symm.trans there.symm)
  by_cases second : c = arena.spawns.second.position
  · have split : (fresh config arena programs).snapshot.tanks =
        [tank .first] ++ tank .second :: [] := rfl
    rw [if_neg first, if_pos second]
    exact .alive split second.symm (fun _ later => absurd later List.not_mem_nil) (hp .second) rfl
  rw [if_neg first, if_neg second]
  -- No tank starts at the cell, and there are no bullets, so the grid shows through.
  have noTank : ∀ t ∈ (fresh config arena programs).snapshot.tanks, t.position ≠ c := by
    intro t ht
    rcases List.mem_pair.mp ht with rfl | rfl
    · exact Ne.symm first
    · exact Ne.symm second
  have noBullet : ∀ b ∈ (fresh config arena programs).snapshot.bullets, b.position ≠ c :=
    fun _ flying => absurd flying List.not_mem_nil
  by_cases wall : arena.grid.isWall c
  · rw [if_pos wall]
    exact .wall noTank noBullet (List.contains_iff_mem.mp wall)
  · rw [if_neg wall]
    exact .floor noTank noBullet fun listed => wall (List.contains_iff_mem.mpr listed)

/-- **A battle before its first turn shows its arena.** -/
theorem render_fresh (config : Config) (arena : Arena) (programs : Option (Pair Program))
    (alive : 1 ≤ config.maxHp.toInt) :
    (fresh config arena programs).snapshot.render = arena.toMap := by
  have few : ∀ t ∈ (fresh config arena programs).snapshot.tanks, t.id < 200 := by
    intro t ht
    obtain ⟨side, -, rfl⟩ := List.mem_map.mp ht
    show side.number < 200
    cases side <;> decide
  have glyph : (fresh config arena programs).snapshot.glyph = arena.tileAt :=
    funext fun c => (shows_fresh config arena programs alive c).glyph_eq few
  rw [Snapshot.render, Snapshot.board_eq_ofFn, glyph]
  exact congrArg String.ofList (List.flatMap_map ..)

end Battle

/-- **Boards are drawn exactly.** The text of a board has a line for each row and on it a character
for each cell, which is what the cell has to show; what is off the board does not matter. Before the
first turn of a battle this is the map of the arena. So the arena can be read from it if the tanks
face each other as on every map that is read. -/
theorem render_exact :
    (∀ s : Snapshot, (∀ t ∈ s.tanks, t.id < 200) →
      ∃ rows, s.DrawnAs rows ∧ s.render = String.ofList (Text.unlines rows) ∧
        Text.lines s.render.toList = rows) ∧
    (∀ s : Snapshot, s.crop.render = s.render) ∧
    ∀ (b b' : Battle) (arena : Arena), 1 ≤ b.config.maxHp.toInt →
      (b' = b.setArena arena ∨ ∃ programs, b' = (b.setArena arena).install programs) →
        b'.snapshot.render = arena.toMap ∧
          (Arena.ofMap b'.snapshot.render = .ok arena ↔
            arena.spawns.first.facing = .east ∧ arena.spawns.second.facing = .west) := by
  refine ⟨fun s => Snapshot.render_drawnAs, Snapshot.render_crop, ?_⟩
  intro b b' arena alive setUp
  have isFresh : ∃ programs, b' = .fresh b.config arena programs := by
    rcases setUp with rfl | ⟨programs, rfl⟩
    · exact ⟨b.programs, rfl⟩
    · exact ⟨some programs, rfl⟩
  -- Either way the battle is a fresh one, in which no tank has moved and there are no bullets.
  obtain ⟨programs, rfl⟩ := isFresh
  have map := Battle.render_fresh b.config arena programs alive
  refine ⟨map, ?_⟩
  rw [map, Arena.ofMap_toMap, Arena.ofParts_eq_ok_iff]
  constructor
  · rintro ⟨-, spawns⟩
    rw [spawns]
    exact ⟨rfl, rfl⟩
  · rintro ⟨first, second⟩
    rw [← first, ← second]
    exact ⟨rfl, rfl⟩

/-- Of two tanks in one cell the later one is shown, here a destroyed one. A bullet covers a wall,
and a tank beyond the edge is not drawn. -/
theorem render_exact_crowded :
    let tank : TankView :=
      { id := 1, position := ⟨1, 1⟩, facing := .east, hp := 3, alive := true, registers := none
        pc := 0, halted := none, lastAction := .idle, lastFeedback := .ok, totalOps := 0 }
    let s : Snapshot :=
      { turn := 5, config := {}, width := 3, height := 2, walls := [⟨0, 0⟩, ⟨2, 1⟩]
        tanks := [tank, { tank with id := 2, hp := 0, alive := false },
          { tank with id := 199, position := ⟨2, 0⟩ }, { tank with position := ⟨-1, 0⟩ }]
        bullets := [⟨7, ⟨0, 0⟩, 1, 0, 2, 3⟩], events := #[], messages := #[], outcome := none }
    let arena : Arena :=
      { grid := Grid.square 2, spawns := ⟨⟨⟨0, 0⟩, .east⟩, ⟨⟨1, 1⟩, .west⟩⟩
        onFloor := by rintro (_ | _) <;> decide
        apart := by decide }
    s.render = "*.÷\n.x#\n" ∧ (∃ rows, s.DrawnAs rows ∧ Text.lines s.render.toList = rows) ∧
      s.crop.render = s.render ∧
      ((Battle.new {}).setArena arena).snapshot.render = "1.\n.2\n" ∧
      Arena.ofMap "1.\n.2\n" = .ok arena := by
  intro tank s arena
  obtain ⟨drawn, cropped, fresh⟩ := render_exact
  obtain ⟨rows, exact, -, lines⟩ := drawn s (by decide)
  obtain ⟨map, reads⟩ := fresh (.new {}) _ arena (by decide) (.inl rfl)
  have text : ((Battle.new {}).setArena arena).snapshot.render = "1.\n.2\n" := by decide +kernel
  exact ⟨by decide +kernel, ⟨rows, exact, lines⟩, cropped s, text,
    text ▸ reads.mpr ⟨rfl, rfl⟩⟩

end TankDuel

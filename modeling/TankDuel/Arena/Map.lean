import TankDuel.Arena.Basic
import TankDuel.Text.Lines

/-!
# Maps

A map draws an arena with one character for each cell: `#` is a wall, `.` is floor, and `1` and `2`
are the spawns of the two tanks, which face east and west. Blanks at the end of a row and rows
without anything else do not count.

A map is read row by row. The width of a row is checked before its tiles are, and missing spawns
are reported last. `Arena.toMap` draws the map of an arena.
-/

namespace TankDuel

namespace Map

/-- What has been seen of a map so far. -/
structure Survey where
  walls : List Coord
  spawns : Pair (Option Coord)
deriving DecidableEq

/-- Nothing has been seen yet. -/
def Survey.start : Survey := ⟨[], ⟨none, none⟩⟩

/-- Note the spawn of a side. -/
def Survey.addSpawn (s : Survey) (side : Side) (c : Coord) : Except ArenaError Survey :=
  match s.spawns.get side with
  | some _ => .error (.duplicateSpawn side)
  | none => .ok { s with spawns := s.spawns.set side (some c) }

/-- Note a tile. -/
def Survey.addTile (row col : Nat) (s : Survey) (tile : Char) : Except ArenaError Survey :=
  match tile with
  | '#' => .ok { s with walls := ⟨col, row⟩ :: s.walls }
  | '.' => .ok s
  | '1' => s.addSpawn .first ⟨col, row⟩
  | '2' => s.addSpawn .second ⟨col, row⟩
  | _ => .error (.unknownTile row col tile)

/-- Note the tiles of a row from a column on. -/
def Survey.addTiles (row : Nat) : (col : Nat) → List Char → Survey → Except ArenaError Survey
  | _, [], s => .ok s
  | col, tile :: rest, s => do
    let s ← s.addTile row col tile
    addTiles row (col + 1) rest s

/-- Note rows of a given width from a row number on. -/
def Survey.addRows (width : Nat) :
    (row : Nat) → List (List Char) → Survey → Except ArenaError Survey
  | _, [], s => .ok s
  | row, tiles :: rest, s =>
    if tiles.length ≠ width then .error (.raggedRow row width tiles.length)
    else do
      let s ← s.addTiles row 0 tiles
      addRows width (row + 1) rest s

/-- The rows of a map that count. -/
def rows (text : String) : List (List Char) :=
  ((Text.lines text.toList).map Text.trimEnd).filter (!·.isEmpty)

/-- The arena of a finished survey. -/
def Survey.arena (s : Survey) (width height : Nat) : Except ArenaError Arena :=
  match s.spawns.first, s.spawns.second with
  | none, _ => .error (.missingSpawn .first)
  | _, none => .error (.missingSpawn .second)
  | some first, some second =>
    match Grid.ofSize? width height with
    | none => .error .empty
    | some grid => Arena.ofParts (grid.addWalls s.walls) ⟨⟨first, .east⟩, ⟨second, .west⟩⟩

/-- The arena of the rows of a map. -/
def arenaOfRows (rows : List (List Char)) : Except ArenaError Arena :=
  match rows with
  | [] => .error .empty
  | first :: _ => do
    let survey ← Survey.start.addRows first.length 0 rows
    survey.arena first.length rows.length

end Map

namespace Arena

/-- Read an arena from a map. -/
def ofMap (text : String) : Except ArenaError Arena := Map.arenaOfRows (Map.rows text)

/-- The character that stands for a cell on the map of an arena. -/
def tileAt (a : Arena) (c : Coord) : Char :=
  if c = a.spawns.first.position then '1'
  else if c = a.spawns.second.position then '2'
  else if a.grid.isWall c then '#'
  else '.'

/-- The row of the map of an arena with a given number. -/
def mapRow (a : Arena) (y : Nat) : List Char :=
  (List.range a.grid.width.toNat).map fun (x : Nat) => a.tileAt ⟨x, y⟩

/-- The map of an arena; each row ends with a line feed. -/
def toMap (a : Arena) : String :=
  String.ofList ((List.range a.grid.height.toNat).flatMap fun y => a.mapRow y ++ ['\n'])

end Arena

end TankDuel

import TankDuel.Battle.Snapshot

/-!
# Boards

A board is a picture of a battle with one character for each cell. It is painted in layers: floor,
then walls, then bullets, then tanks, so that what is painted later covers what is below. Painting
outside the board has no effect.
-/

namespace TankDuel

/-- A picture, row by row. -/
structure Board where
  rows : List (List Char)
deriving DecidableEq

namespace Board

/-- A board of floor. A size below zero counts as zero. -/
def floor (width height : Int) : Board :=
  ⟨List.replicate height.toNat (List.replicate width.toNat '.')⟩

/-- Paint a cell. -/
def paint (board : Board) (c : Coord) (ch : Char) : Board :=
  if 0 ≤ c.x ∧ 0 ≤ c.y then ⟨board.rows.modify c.y.toNat fun row => row.set c.x.toNat ch⟩
  else board

/-- Paint one cell for each member of a list. -/
def paintAll {α : Type} (board : Board) (cell : α → Coord) (ch : α → Char) (items : List α) :
    Board :=
  items.foldl (fun board item => board.paint (cell item) (ch item)) board

/-- The text of a board; each row ends with a line feed. -/
def text (board : Board) : String := String.ofList (board.rows.flatMap fun row => row ++ ['\n'])

end Board

/-- The character of a tank: its number, or a cross when it is destroyed. -/
def TankView.symbol (t : TankView) : Char :=
  if t.alive then Char.ofNat ('0'.toNat + t.id) else 'x'

/-- The board of a snapshot. -/
def Snapshot.board (s : Snapshot) : Board :=
  (((Board.floor s.width s.height).paintAll id (fun _ => '#') s.walls).paintAll
    Bullet.position (fun _ => '*') s.bullets).paintAll TankView.position TankView.symbol s.tanks

/-- The board of a snapshot as text. -/
def Snapshot.render (s : Snapshot) : String := s.board.text

end TankDuel

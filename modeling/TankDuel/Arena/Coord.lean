import TankDuel.Text.Blank
import TankDuel.Text.Decimal

/-!
# Cells of the plane

A cell has a column `x`, counted to the right, and a row `y`, counted downward. Its text is `x,y`.
Reading takes blanks around either number; the first comma is the one that separates them.

Cells are listed in **reading order**, row by row and from left to right.
-/

namespace TankDuel

/-- A cell of the plane. -/
structure Coord where
  x : Int
  y : Int
deriving DecidableEq

/-- A text that is not a cell. -/
structure CoordError where
  text : String
deriving DecidableEq

/-- The wording of the error. -/
def CoordError.message (e : CoordError) : String :=
  s!"invalid coordinate '{e.text}': expected \"x,y\""

namespace Coord

/-- The cell that lies `dx` columns to the right and `dy` rows below. -/
def offset (c : Coord) (dx dy : Int) : Coord := ⟨c.x + dx, c.y + dy⟩

/-- Whether a cell comes before another one in reading order. -/
def before (a b : Coord) : Bool := a.y < b.y || (a.y = b.y && a.x < b.x)

/-- Whether a cell lies in the rectangle of a given width and height at the origin. -/
def inside (width height : Int) (c : Coord) : Bool :=
  0 ≤ c.x && c.x < width && 0 ≤ c.y && c.y < height

/-- The text of a cell. -/
def text (c : Coord) : String := toString c.x ++ "," ++ toString c.y

/-- Read a number of a cell, with blanks around it. -/
def number? (cs : List Char) : Option Int := Text.word? (Text.trim cs)

/-- Read a cell. -/
def ofText? (text : String) : Option Coord :=
  match text.toList.dropWhile (· ≠ ',') with
  | [] => none
  | _ :: right => do
    let x ← number? (text.toList.takeWhile (· ≠ ','))
    let y ← number? right
    return ⟨x, y⟩

/-- Read a cell, or say which text is none. -/
def read (text : String) : Except CoordError Coord :=
  match ofText? text with
  | some c => .ok c
  | none => .error ⟨text⟩

/-- Reading order goes by the rows first. -/
theorem before_iff {a b : Coord} : a.before b ↔ a.y < b.y ∨ a.y = b.y ∧ a.x < b.x := by
  simp [before]

/-- A cell lies in a rectangle if its column and its row do. -/
theorem inside_iff {width height : Int} {c : Coord} :
    c.inside width height ↔ (0 ≤ c.x ∧ c.x < width) ∧ 0 ≤ c.y ∧ c.y < height := by
  simp [inside, and_assoc]

end Coord

end TankDuel

import TankDuel.Battle.Snapshot

/-!
# Sanity of snapshots

`Snapshot.violations` lists everything about a snapshot that cannot be in a battle: first tank by
tank, then bullet by bullet, then the battle as a whole. A bullet is compared with the bullets that
are listed before it.
-/

namespace TankDuel

/-- Something that cannot be in a battle. -/
inductive Violation where
  | tankOffGrid (tank : Nat) (cell : Coord)
  | tankInWall (tank : Nat) (cell : Coord)
  | hpOutOfRange (tank : Nat) (hp maxHp : Int)
  /-- A tank counts as alive without hit points, or the other way round. -/
  | aliveDisagrees (tank : Nat) (hp : Int)
  | sharedCell (cell : Coord)
  | secondBullet (owner : Nat)
  | repeatedBullet (id : Nat)
  | distanceOutOfRange (id : Nat) (distance range : Int)
  | bulletOffFloor (id : Nat) (cell : Coord)
  | endedBeforeStart (outcome : Outcome Nat)
  | turnPastLimit (turn limit : Nat)
deriving DecidableEq

/-- The wording of a violation. -/
def Violation.message : Violation → String
  | tankOffGrid tank cell => s!"P{tank} at {cell.text} is off the grid"
  | tankInWall tank cell => s!"P{tank} at {cell.text} is inside a wall"
  | hpOutOfRange tank hp maxHp => s!"P{tank} has hp {hp} outside [0, {maxHp}]"
  | aliveDisagrees tank hp => s!"P{tank} alive flag disagrees with hp {hp}"
  | sharedCell cell => s!"both tanks share cell {cell.text}"
  | secondBullet owner => s!"P{owner} has more than one live bullet"
  | repeatedBullet id => s!"bullet id {id} is not unique"
  | distanceOutOfRange id distance range =>
    s!"bullet {id} has travelled {distance} cells, range is {range}"
  | bulletOffFloor id cell => s!"bullet {id} at {cell.text} is off the floor"
  | endedBeforeStart outcome => s!"battle ended ({outcome.text}) before any turn was played"
  | turnPastLimit turn limit => s!"turn {turn} exceeds the limit of {limit}"

/-- The wording of a violation that is reported by itself. -/
def Violation.report (v : Violation) : String := "Invariant violation: " ++ v.message

namespace Snapshot

/-- A violation if a condition holds. -/
def violationIf (condition : Bool) (v : Violation) : List Violation :=
  if condition then [v] else []

/-- Whether a cell lies on the grid. -/
def inBounds (s : Snapshot) (c : Coord) : Bool := c.inside s.width s.height

/-- What is wrong with a tank. -/
def tankViolations (s : Snapshot) (t : TankView) : List Violation :=
  let maxHp := s.config.maxHp.toInt
  violationIf (!s.inBounds t.position) (.tankOffGrid t.id t.position)
    ++ violationIf (s.walls.contains t.position) (.tankInWall t.id t.position)
    ++ violationIf (t.hp < 0 || maxHp < t.hp) (.hpOutOfRange t.id t.hp maxHp)
    ++ violationIf (t.alive != decide (0 < t.hp)) (.aliveDisagrees t.id t.hp)

/-- Two tanks must not share a cell. -/
def sharedCellViolations : List TankView → List Violation
  | [a, b] => violationIf (a.position = b.position) (.sharedCell a.position)
  | _ => []

/-- What is wrong with a bullet that is listed behind others. -/
def bulletViolations (s : Snapshot) (earlier : List (Bullet Nat)) (b : Bullet Nat) :
    List Violation :=
  let range := s.config.bulletRange.toInt
  violationIf (earlier.any fun e => e.owner = b.owner) (.secondBullet b.owner)
    ++ violationIf (earlier.any fun e => e.id = b.id) (.repeatedBullet b.id)
    ++ violationIf (b.distance < 1 || range < b.distance)
      (.distanceOutOfRange b.id b.distance range)
    ++ violationIf (!s.inBounds b.position || s.walls.contains b.position)
      (.bulletOffFloor b.id b.position)

/-- What is wrong with bullets that are listed behind others. -/
def allBulletViolations (s : Snapshot) (earlier : List (Bullet Nat)) :
    List (Bullet Nat) → List Violation
  | [] => []
  | b :: rest => s.bulletViolations earlier b ++ s.allBulletViolations (b :: earlier) rest

/-- A battle cannot have ended before its first turn. -/
def outcomeViolations (s : Snapshot) : List Violation :=
  match s.outcome with
  | some outcome => violationIf (s.turn = 0) (.endedBeforeStart outcome)
  | none => []

/-- The number of turns is limited. -/
def turnViolations (s : Snapshot) : List Violation :=
  let limit := s.config.maxTurns.toNat
  violationIf (limit < s.turn) (.turnPastLimit s.turn limit)

/-- Everything that cannot be in a battle. -/
def violations (s : Snapshot) : List Violation :=
  s.tanks.flatMap s.tankViolations ++ sharedCellViolations s.tanks
    ++ s.allBulletViolations [] s.bullets ++ s.outcomeViolations ++ s.turnViolations

/-- All violations in one text, if there are any. -/
def alarm? (s : Snapshot) : Option String :=
  match s.violations with
  | [] => none
  | vs =>
    some ("Battle invariant violations:\n  - "
      ++ String.intercalate "\n  - " (vs.map Violation.message))

end Snapshot

end TankDuel

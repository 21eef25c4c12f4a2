import TankDuel.Battle.Board
import TankDuel.Battle.Play

/-!
# Battles as text
-/

namespace TankDuel.Report

/-- A tank after a turn. -/
def tankLine (t : TankView) : String :=
  s!"P{t.id} at {t.position.text} facing {t.facing.title}, hp {t.hp}: "
    ++ s!"{t.lastAction.text} -> {t.lastFeedback.text}\n"

/-- A bullet after a turn. -/
def bulletLine (b : Bullet Nat) : String :=
  s!"bullet {b.id} (P{b.owner}) at {b.position.text}, travelled {b.distance}\n"

/-- A battle after a turn: the board, then the tanks, then the bullets. -/
def turnText (s : Snapshot) : String :=
  s!"--- turn {s.turn} ---\n" ++ s.render ++ String.join (s.tanks.map tankLine)
    ++ String.join (s.bullets.map bulletLine)

/-- How a battle ended. -/
def outcomeLine (names : Pair String) : Outcome Side → String
  | .winner side => s!"  Winner: {side.label} ({names.get side})\n"
  | .draw reason => s!"  Result: {(Outcome.draw reason).text}\n"

/-- How a tank came out of a battle. -/
def statsLine (side : Side) (name : String) (t : TankStats) : String :=
  let halted :=
    match t.halted with
    | some reason => s!" [{reason.text}]"
    | none => ""
  s!"  {side.label} ({name}): hp {t.finalHp}, {t.totalOps} ops{halted}\n"

/-- The result of a battle. -/
def resultText (r : BattleResult) (names : Pair String) (arena : String) : String :=
  s!"Battle Result ({arena})\n" ++ outcomeLine names r.outcome ++ s!"  Turns: {r.turnsPlayed}\n\n"
    ++ String.join
      (Side.all.map fun side => statsLine side (names.get side) (r.tanks.get side))

end TankDuel.Report

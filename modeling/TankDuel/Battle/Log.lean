import TankDuel.Arena.Coord
import TankDuel.Machine.Action
import TankDuel.Side

/-!
# Outcomes, events and messages

Events are for showing a battle and messages are for reading about it. The battle writes both and
reads neither.
-/

namespace TankDuel

/-- Why a battle has no winner. -/
inductive DrawReason where
  | bothDestroyed
  /-- Both machines have halted. -/
  | stalemate
  | turnLimit
deriving DecidableEq

/-- The wording of a reason. -/
def DrawReason.text : DrawReason → String
  | bothDestroyed => "both destroyed"
  | stalemate => "stalemate"
  | turnLimit => "turn limit"

/-- How a battle ended; tanks are named by values of type `ι`. -/
inductive Outcome (ι : Type) where
  | winner (tank : ι)
  | draw (reason : DrawReason)
deriving DecidableEq

namespace Outcome

variable {ι κ : Type}

/-- The winner, if there is one. -/
def winner? : Outcome ι → Option ι
  | winner tank => some tank
  | draw _ => none

/-- Name the tanks differently. -/
def map (f : ι → κ) : Outcome ι → Outcome κ
  | winner tank => .winner (f tank)
  | draw reason => .draw reason

/-- The wording of an outcome, tanks being named by numbers. -/
def text : Outcome Nat → String
  | winner tank => s!"P{tank} wins"
  | draw reason => s!"draw ({reason.text})"

end Outcome

/-- Something to be shown. -/
inductive Event.Kind where
  /-- An explosion on a cell, and the tank it hit. -/
  | explosion (cell : Coord) (tank : Option Side)
  /-- A tank has located its opponent. -/
  | ping (source : Side) (target : Coord)
deriving DecidableEq

/-- An event. Events are numbered from 0 in the order in which they happen. -/
structure Event where
  id : Nat
  turn : Nat
  kind : Event.Kind
deriving DecidableEq

/-- Something to be told. -/
inductive Report where
  | hit (shooter target : Side) (cell : Coord) (hp : Int)
  | destroyed (tank : Side)
  | halted (tank : Side) (reason : HaltReason)
  | gameOver (outcome : Outcome Side)
deriving DecidableEq

/-- The wording of a report. -/
def Report.text : Report → String
  | hit shooter target cell hp =>
    s!"{shooter.label} hit {target.label} at {cell.text} (hp {hp})"
  | destroyed tank => s!"{tank.label} destroyed"
  | halted tank reason => s!"{tank.label} {reason.text}"
  | gameOver outcome => s!"game over: {(outcome.map Side.number).text}"

/-- A report and the turn it belongs to. -/
structure Message where
  turn : Nat
  report : Report
deriving DecidableEq

/-- The wording of a message. -/
def Message.text (m : Message) : String := s!"[{m.turn}] {m.report.text}"

end TankDuel

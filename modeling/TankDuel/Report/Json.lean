import TankDuel.Battle.Snapshot
import TankDuel.Text.Json
import TankDuel.Tournament.Basic

/-!
# Results and snapshots as JSON

Cells, deeds, feedback and messages are given by their texts, tanks by their numbers.
-/

namespace TankDuel.Report

open Text (Json)

/-- A cell. -/
def cellJson (c : Coord) : Json := .string c.text

/-- Battle settings. -/
def configJson (c : Config) : Json :=
  .object
    [("max_turns", .nat c.maxTurns.toNat),
      ("max_hp", .number c.maxHp.toInt),
      ("bullet_speed", .nat c.bulletSpeed.toNat),
      ("bullet_range", .number c.bulletRange.toInt),
      ("max_ops_per_turn", .nat c.maxOpsPerTurn.toNat),
      ("message_limit", .nat c.messageLimit.toNat)]

/-- The key of a draw reason. -/
def drawKey : DrawReason → String
  | .bothDestroyed => "both_destroyed"
  | .stalemate => "stalemate"
  | .turnLimit => "turn_limit"

/-- An outcome. -/
def outcomeJson : Outcome Nat → Json
  | .winner tank => .object [("result", .string "winner"), ("tank", .nat tank)]
  | .draw reason => .object [("result", .string "draw"), ("reason", .string (drawKey reason))]

/-- A machine's registers by name; none without a machine. -/
def registersJson : Option RegisterFile → Json
  | some regs => .object (Register.all.map fun r => (r.name, .number (regs.get r).toInt))
  | none => .object []

/-- A tank. -/
def tankJson (t : TankView) : Json :=
  .object
    [("id", .nat t.id),
      ("position", cellJson t.position),
      ("facing", .string t.facing.name),
      ("hp", .number t.hp),
      ("alive", .bool t.alive),
      ("registers", registersJson t.registers),
      ("pc", .nat t.pc),
      ("halted", .ofOption (fun reason => .string reason.text) t.halted),
      ("last_action", .string t.lastAction.text),
      ("last_feedback", .string t.lastFeedback.text),
      ("total_ops", .nat t.totalOps)]

/-- A bullet. -/
def bulletJson (b : Bullet Nat) : Json :=
  .object
    [("id", .nat b.id),
      ("position", cellJson b.position),
      ("dx", .number b.dx),
      ("dy", .number b.dy),
      ("owner", .nat b.owner),
      ("distance", .number b.distance)]

/-- What an event adds to its number and turn. -/
def eventKindMembers : Event.Kind → List (String × Json)
  | .explosion cell tank =>
    [("type", .string "EXPLOSION"),
      ("at", cellJson cell),
      ("tank", .ofOption (fun side => .nat side.number) tank)]
  | .ping source target =>
    [("type", .string "PING"),
      ("from", .nat source.number),
      ("target", cellJson target)]

/-- An event. -/
def eventJson (e : Event) : Json :=
  .object ([("id", .nat e.id), ("turn", .nat e.turn)] ++ eventKindMembers e.kind)

/-- A snapshot. -/
def snapshotJson (s : Snapshot) : Json :=
  .object
    [("turn", .nat s.turn),
      ("config", configJson s.config),
      ("width", .number s.width),
      ("height", .number s.height),
      ("walls", .array (s.walls.map cellJson)),
      ("tanks", .array (s.tanks.map tankJson)),
      ("bullets", .array (s.bullets.map bulletJson)),
      ("events", .array (s.events.toList.map eventJson)),
      ("messages", .array (s.messages.toList.map fun m => .string m.text)),
      ("outcome", .ofOption outcomeJson s.outcome)]

/-- How a tank came out of a battle. -/
def statsJson (side : Side) (t : TankStats) : Json :=
  .object
    [("id", .nat side.number),
      ("final_hp", .number t.finalHp),
      ("total_ops", .nat t.totalOps),
      ("halted", .ofOption (fun reason => .string reason.text) t.halted)]

/-- The result of a battle. -/
def resultJson (r : BattleResult) : Json :=
  .object
    [("outcome", outcomeJson (r.outcome.map Side.number)),
      ("turns_played", .nat r.turnsPlayed),
      ("tanks", .array (Side.all.map fun side => statsJson side (r.tanks.get side)))]

/-- A standing. -/
def standingJson (s : Standing) : Json :=
  .object
    [("name", .string s.name),
      ("played", .nat s.played),
      ("wins", .nat s.wins),
      ("losses", .nat s.losses),
      ("draws", .nat s.draws),
      ("points", .nat s.points)]

/-- A match. -/
def matchJson (m : MatchRecord) : Json :=
  .object
    [("first", .nat m.first),
      ("second", .nat m.second),
      ("level", .nat m.level.number),
      ("result", resultJson m.result)]

/-- The result of a tournament. -/
def tournamentJson (r : TournamentResult) : Json :=
  .object
    [("standings", .array (r.standings.map standingJson)),
      ("matches", .array (r.records.map matchJson))]

/-- The result of a battle with its last snapshot. The snapshots of all turns are added only if
there are any. -/
def battleJson (names : Pair String) (arena : String) (result : BattleResult) (state : Snapshot)
    (trace : List Snapshot) : Json :=
  .object
    ([("players", .array (names.toList.map .string)),
      ("arena", .string arena),
      ("result", resultJson result),
      ("state", snapshotJson state)]
      ++ if trace.isEmpty then [] else [("trace", .array (trace.map snapshotJson))])

end TankDuel.Report

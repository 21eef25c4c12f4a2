import TankDuel.Text.Column
import TankDuel.Tournament.Basic

/-!
# Tournaments as tables

The table for reading has columns of fixed width. The table for other programs has one record on
each line and commas between the fields, the names being written as they are.
-/

namespace TankDuel.Report

/-- A row of the table for reading. -/
def tableRow (rank name played wins draws losses points : String) : String :=
  "  " ++ Text.padRight 4 rank ++ Text.padRight 20 name ++ Text.padLeft 6 played
    ++ Text.padLeft 6 wins ++ Text.padLeft 6 draws ++ Text.padLeft 6 losses
    ++ Text.padLeft 8 points ++ "\n"

/-- The row of a standing; ranks are counted from 1. -/
def standingRow (rank : Nat) (s : Standing) : String :=
  tableRow (toString rank) s.name (toString s.played) (toString s.wins) (toString s.draws)
    (toString s.losses) (toString s.points)

/-- The record of a standing. -/
def standingRecord (rank : Nat) (s : Standing) : String :=
  s!"{rank},{s.name},{s.played},{s.wins},{s.draws},{s.losses},{s.points}\n"

/-- Write standings one after the other with their ranks, the first of which is given. -/
def ranked (row : Nat → Standing → String) (rank : Nat) : List Standing → String
  | [] => ""
  | s :: rest => row rank s ++ ranked row (rank + 1) rest

/-- The number of turns of all battles together. -/
def totalTurns (records : List MatchRecord) : Nat :=
  records.foldl (fun turns m => turns + m.result.turnsPlayed) 0

/-- The average length of the battles, rounded down; no battles have no average. -/
def averageLine (records : List MatchRecord) : String :=
  if records.isEmpty then ""
  else
    let average := totalTurns records / records.length
    s!"\nAverage Battle Length: {average} turns\n"

/-- The table for reading. -/
def tournamentText (r : TournamentResult) : String :=
  s!"Tournament Results ({r.records.length} battles)\n"
    ++ "========================================\n\n"
    ++ tableRow "#" "program" "P" "W" "D" "L" "pts"
    ++ ranked standingRow 1 r.standings
    ++ averageLine r.records

/-- The table for other programs. -/
def tournamentCsv (r : TournamentResult) : String :=
  "rank,program,played,wins,draws,losses,points\n" ++ ranked standingRecord 1 r.standings

end TankDuel.Report

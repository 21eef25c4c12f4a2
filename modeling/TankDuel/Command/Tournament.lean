import TankDuel.Command.Files
import TankDuel.Report.Json
import TankDuel.Report.Tournament

/-!
# The command that plays a tournament

All programs are read first, then the levels are looked up, then the settings are read. The result
is printed as a table, as JSON, or as comma separated values.
-/

namespace TankDuel.Command

/-- The form of a printed tournament. -/
inductive TournamentFormat where
  | text
  | json
  | csv
deriving DecidableEq

/-- What to play and how to print it. -/
structure TournamentOptions where
  bots : List String
  levels : List Nat := [1, 2, 3]
  config : Option String := none
  turns : Option UInt32 := none
  format : TournamentFormat := .text

/-- Read the entry of a program. -/
def readEntry (files : Files) (name : String) : Except Error Entry := do
  let program ← readProgram files name
  return ⟨botName name, program⟩

/-- Print a tournament. -/
def tournamentOutput (format : TournamentFormat) (r : TournamentResult) : String :=
  match format with
  | .text => "\n" ++ Report.tournamentText r
  | .json => (Report.tournamentJson r).text ++ "\n"
  | .csv => Report.tournamentCsv r

/-- Play a tournament. -/
def tournament (files : Files) (o : TournamentOptions) : Response :=
  .ofExcept do
    let entries ← o.bots.mapM (readEntry files)
    let levels ← o.levels.mapM fun n => (Level.ofNumber n).mapError Error.arena
    let config ← settings files o.config o.turns
    let result ← (runTournament entries levels config).mapError Error.tournament
    return tournamentOutput o.format result

end TankDuel.Command

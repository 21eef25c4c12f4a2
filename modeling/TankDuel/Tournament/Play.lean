import TankDuel.Tournament.Basic

/-!
# Playing a tournament

A tournament needs two entries and a level. Every match of the schedule is played, and the records
are tallied.
-/

namespace TankDuel

/-- Play a match. -/
def playMatch (entries : List Entry) (config : Config) (f : Fixture entries.length) :
    Except TurnError MatchRecord := do
  let programs := ⟨entries[f.first].program, entries[f.second].program⟩
  let result ← runBattle programs f.level.arena config
  return ⟨f.first, f.second, f.level, result⟩

/-- Play a match and add it to a tally. -/
def Tally.play (entries : List Entry) (config : Config) (t : Tally)
    (f : Fixture entries.length) : Tally :=
  match playMatch entries config f with
  | .ok record => t.add record
  | .error error => t.fail error

/-- Play a tournament. -/
def runTournament (entries : List Entry) (levels : List Level) (config : Config) :
    Except TournamentError TournamentResult :=
  if entries.length < 2 then .error (.tooFewEntries entries.length)
  else if levels.isEmpty then .error .noLevels
  else
    ((schedule entries.length levels).foldl (Tally.play entries config)
      (Tally.start entries)).finish

end TankDuel

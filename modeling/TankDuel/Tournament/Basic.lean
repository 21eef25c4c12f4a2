import TankDuel.Battle.Play

/-!
# Tournaments: schedule and tally

Everyone plays everyone else on every level, in either seat. A **tally** collects the records of
played matches and counts them for each entry. Tallies of different parts of a tournament can be
merged. Points are given only when a tally is finished, and only then are standings and matches put
into order, so it does not matter in which order or in how many parts the matches were counted.

A match that could not be played to its end spoils the tally that it belongs to, and every tally
that this one is merged into.
-/

namespace TankDuel

/-- A program that takes part, under a name that need not be its own. -/
structure Entry where
  name : String
  program : Program
deriving DecidableEq

/-- A match to be played between two of `n` entries. -/
structure Fixture (n : Nat) where
  first : Fin n
  second : Fin n
  level : Level
deriving DecidableEq

/-- A match that has been played; entries are named by their position. -/
structure MatchRecord where
  first : Nat
  second : Nat
  level : Level
  result : BattleResult
deriving DecidableEq

/-- How an entry stands. -/
structure Standing where
  name : String
  played : Nat := 0
  wins : Nat := 0
  losses : Nat := 0
  draws : Nat := 0
  points : Nat := 0
deriving DecidableEq

/-- Every match between `n` entries on some levels: the first seat changes slowest, the level
fastest. -/
def schedule (n : Nat) (levels : List Level) : List (Fixture n) :=
  (List.finRange n).flatMap fun first =>
    ((List.finRange n).filter (· ≠ first)).flatMap fun second =>
      levels.map fun level => ⟨first, second, level⟩

namespace Standing

/-- The points for a win. -/
def winPoints : Nat := 3

/-- The points for a draw. -/
def drawPoints : Nat := 1

/-- Count a win. -/
def addWin (s : Standing) : Standing := { s with played := s.played + 1, wins := s.wins + 1 }

/-- Count a loss. -/
def addLoss (s : Standing) : Standing := { s with played := s.played + 1, losses := s.losses + 1 }

/-- Count a draw. -/
def addDraw (s : Standing) : Standing := { s with played := s.played + 1, draws := s.draws + 1 }

/-- Add the counts of two standings of one entry. -/
def merge (s t : Standing) : Standing :=
  { s with
    played := s.played + t.played
    wins := s.wins + t.wins
    losses := s.losses + t.losses
    draws := s.draws + t.draws }

/-- Give the points. -/
def award (s : Standing) : Standing :=
  { s with points := s.wins * winPoints + s.draws * drawPoints }

/-- Whether a standing may be listed before another one: more points first, then more wins, then the
name that comes first. -/
def ranksBefore (s t : Standing) : Bool :=
  t.points < s.points ||
    (s.points = t.points && (t.wins < s.wins || (s.wins = t.wins && s.name ≤ t.name)))

end Standing

/-- Whether a record may be listed before another one: by the seats, then by the level. -/
def MatchRecord.listedBefore (a b : MatchRecord) : Bool :=
  a.first < b.first ||
    (a.first = b.first &&
      (a.second < b.second || (a.second = b.second && a.level.number ≤ b.level.number)))

/-- The counts of some matches. -/
structure Tally where
  /-- One standing for each entry, in the order of the entries. -/
  standings : List Standing
  records : List MatchRecord
  /-- Why a match could not be played; of several reasons the first one stays. -/
  error : Option TurnError
deriving DecidableEq

/-- The result of a tournament. -/
structure TournamentResult where
  standings : List Standing
  records : List MatchRecord
deriving DecidableEq

/-- Why there is no tournament. -/
inductive TournamentError where
  | tooFewEntries (entries : Nat)
  | noLevels
  | battle (error : TurnError)
deriving DecidableEq

/-- The wording of the error. -/
def TournamentError.message : TournamentError → String
  | tooFewEntries entries => s!"Too few entries: {entries} (minimum 2)"
  | noLevels => "No levels selected"
  | battle error => s!"Battle failed: {error.message}"

namespace Tally

/-- Nothing has been played yet. -/
def start (entries : List Entry) : Tally where
  standings := entries.map fun e => { name := e.name }
  records := []
  error := none

/-- Count a match for the entries in its two seats. -/
def count (standings : List Standing) (r : MatchRecord) : List Standing :=
  match r.result.outcome.winner? with
  | some .first => (standings.modify r.first Standing.addWin).modify r.second Standing.addLoss
  | some .second => (standings.modify r.second Standing.addWin).modify r.first Standing.addLoss
  | none => (standings.modify r.first Standing.addDraw).modify r.second Standing.addDraw

/-- Add a record. -/
def add (t : Tally) (r : MatchRecord) : Tally :=
  { t with standings := count t.standings r, records := t.records ++ [r] }

/-- Note that a match could not be played. -/
def fail (t : Tally) (error : TurnError) : Tally := { t with error := t.error.or (some error) }

/-- Merge the tallies of two parts of a tournament. -/
def merge (t u : Tally) : Tally where
  standings := t.standings.zipWith Standing.merge u.standings
  records := t.records ++ u.records
  error := t.error.or u.error

/-- Give the points and put everything into order. Entries that are equal in all respects stay in
the order in which they were entered. -/
def finish (t : Tally) : Except TournamentError TournamentResult :=
  match t.error with
  | some error => .error (.battle error)
  | none =>
    .ok
      { standings := (t.standings.map Standing.award).mergeSort Standing.ranksBefore
        records := t.records.mergeSort MatchRecord.listedBefore }

end Tally

end TankDuel

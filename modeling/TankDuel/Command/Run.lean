import TankDuel.Command.Files
import TankDuel.Report.Battle
import TankDuel.Report.Json

/-!
# The command that plays a battle

Both programs are read first, then the settings, then the map or level. The result is printed as
text or as JSON, with a trace of all turns if one is wanted.
-/

namespace TankDuel.Command

/-- The form of a printed battle. -/
inductive BattleFormat where
  | text
  | json
deriving DecidableEq

/-- What to play and how to print it. -/
structure RunOptions where
  bots : Pair String
  level : Nat := 1
  /-- A map to play on in place of the level. -/
  map : Option String := none
  config : Option String := none
  turns : Option UInt32 := none
  format : BattleFormat := .text
  trace : Bool := false

/-- What is noted of a battle while it is played. -/
structure RunNotes where
  /-- The snapshots after all turns, if a trace is wanted. -/
  trace : Array Snapshot
  /-- The snapshot after the latest turn. -/
  last : Option Snapshot

/-- Note a turn. -/
def RunNotes.add (keep : Bool) (notes : RunNotes) (b : Battle) : RunNotes :=
  let s := b.snapshot
  ⟨if keep then notes.trace.push s else notes.trace, some s⟩

/-- The arena to play on, and its name. -/
def arenaOf (files : Files) (o : RunOptions) : Except Error (Arena × String) :=
  match o.map with
  | some name => do
    let text ← readFile files name
    let arena ← (Arena.ofMap text).mapError Error.arena
    return (arena, name)
  | none => do
    let level ← (Level.ofNumber o.level).mapError Error.arena
    return (level.arena, s!"level {o.level}")

/-- A battle as text. -/
def battleText (o : RunOptions) (names : Pair String) (arena : String) (result : BattleResult)
    (notes : RunNotes) : String :=
  let trace :=
    if o.trace then String.join (notes.trace.toList.map Report.turnText) ++ "\n" else ""
  trace ++ Report.resultText result names arena

/-- Print a battle. -/
def battleOutput (o : RunOptions) (names : Pair String) (arena : String) (result : BattleResult)
    (notes : RunNotes) : Except Error String :=
  match o.format, notes.last with
  | .text, _ => .ok (battleText o names arena result notes)
  | .json, some state =>
    .ok ((Report.battleJson names arena result state notes.trace.toList).text ++ "\n")
  | .json, none => .error .unplayed

/-- Play a battle and give its printed form. -/
def runOutput (files : Files) (o : RunOptions) : Except Error String := do
  let first ← readProgram files o.bots.first
  let second ← readProgram files o.bots.second
  let config ← settings files o.config o.turns
  let (arena, arenaName) ← arenaOf files o
  let (result, notes) ←
    (runObserved ⟨first, second⟩ arena config (RunNotes.add o.trace) ⟨#[], none⟩).mapError
      Error.battle
  battleOutput o (o.bots.map botName) arenaName result notes

/-- Play a battle. -/
def run (files : Files) (o : RunOptions) : Response := .ofExcept (runOutput files o)

end TankDuel.Command

import TankDuel.Arena.Map
import TankDuel.Arena.Level
import TankDuel.Assembly.Compile
import TankDuel.Config.Read
import TankDuel.Tournament.Play

/-!
# Named files and what can go wrong with them

A command sees the files as a function from names to contents. It ends with what it has printed
and, if it failed, with an error.
-/

namespace TankDuel.Command

open Assembly

/-- Why a file cannot be read. -/
inductive ReadError where
  | missing
  /-- The contents are not UTF-8. -/
  | notText
  | other (reason : String)
deriving DecidableEq

/-- The wording of the error. -/
def ReadError.message : ReadError → String
  | missing => "No such file or directory (os error 2)"
  | notText => "stream did not contain valid UTF-8"
  | other reason => reason

/-- The contents of files by name. -/
abbrev Files := String → Except ReadError String

/-- Why a command failed. -/
inductive Error where
  | unreadable (name : String) (error : ReadError)
  | program (name : String) (error : CompileError)
  | config (error : ConfigError)
  | arena (error : ArenaError)
  | battle (error : TurnError)
  | tournament (error : TournamentError)
  /-- A battle ended before there was anything to show. -/
  | unplayed
  | failedPrograms (failed total : Nat)
deriving DecidableEq

/-- The wording of an error. -/
def Error.message : Error → String
  | unreadable name error => s!"Failed to read {name}: {error.message}"
  | program name error => s!"{name}: {error.message}"
  | config error => error.message
  | arena error => s!"Invalid arena: {error.message}"
  | battle error => s!"Battle failed: {error.message}"
  | tournament error => error.message
  | unplayed => "battle ended before its first turn"
  | failedPrograms failed total => s!"{failed} of {total} programs failed to compile"

/-- What a command has printed, and why it failed if it did. -/
structure Response where
  output : String
  error : Option Error
deriving DecidableEq

/-- The response of a command that prints nothing unless it succeeds. -/
def Response.ofExcept : Except Error String → Response
  | .ok output => ⟨output, none⟩
  | .error error => ⟨"", some error⟩

/-- Read a file. -/
def readFile (files : Files) (name : String) : Except Error String :=
  (files name).mapError (.unreadable name)

/-- Read and compile a program. -/
def readProgram (files : Files) (name : String) : Except Error Program := do
  let source ← readFile files name
  (compile source).mapError (.program name)

/-- Read a settings document. -/
def readConfig (files : Files) (name : String) : Except ConfigError Config :=
  match files name with
  | .ok text => Config.read text
  | .error error => .error (.unreadable s!"{name}: {error.message}")

/-- The settings of a command: from a document if one is named, with another number of turns if one
is given. They are checked once more at the end. -/
def settings (files : Files) (name : Option String) (turns : Option UInt32) :
    Except Error Config := do
  let config ←
    match name with
    | some name => (readConfig files name).mapError Error.config
    | none => pure {}
  let config :=
    match turns with
    | some turns => { config with maxTurns := turns }
    | none => config
  config.check.mapError Error.config

/-- The name of the last component of a path, if it has a proper one. -/
def lastComponent? (path : List Char) : Option (List Char) :=
  let parts := (path.splitOn '/').filter fun part => !part.isEmpty && part ≠ ['.']
  parts.getLast?.filter (· ≠ ['.', '.'])

/-- A file name without its ending. The ending begins with the last full stop, but not with one at
the start of the name. -/
def stem (name : List Char) : List Char :=
  let ending := name.reverse.takeWhile (· ≠ '.')
  let front := name.take (name.length - ending.length - 1)
  if ending.length = name.length || front.isEmpty then name else front

/-- The name that a program goes by. -/
def botName (path : String) : String :=
  match lastComponent? path.toList with
  | some name => String.ofList (stem name)
  | none => "unknown"

end TankDuel.Command

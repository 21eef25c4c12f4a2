import TankDuel.Command.Check
import TankDuel.Command.Run
import TankDuel.Command.Tournament

/-!
# Command lines

A command line is the name of a command, followed by file names and options in any order. Options
come in three forms:

* `--name value` or `--name=value`, by the long name;
* `-n value` or `-nvalue`, by the letter, for options that have one;
* a **switch** stands alone and has no value.

Behind the argument `--` everything is a file name. An option is given once at most.

`Invocation.ofArguments` reads a command line. `Invocation.fileNames` names the files that it may
read, and `Invocation.perform` carries it out once their contents are known.
-/

namespace TankDuel.Command

/-! ### Options -/

/-- The options of all commands. -/
inductive Flag where
  | level
  | levels
  | map
  | config
  | turns
  | format
  | trace
  | listing
deriving DecidableEq

namespace Flag

/-- The long name of an option. -/
def name : Flag → String
  | level => "level"
  | levels => "levels"
  | map => "map"
  | config => "config"
  | turns => "turns"
  | format => "format"
  | trace => "trace"
  | listing => "listing"

/-- The letter of an option, if it has one. -/
def letter? : Flag → Option Char
  | level => some 'l'
  | map => some 'm'
  | config => some 'c'
  | turns => some 't'
  | format => some 'f'
  | levels | trace | listing => none

/-- Whether an option has no value. -/
def isSwitch : Flag → Bool
  | trace | listing => true
  | _ => false

end Flag

/-- The commands. -/
inductive Verb where
  | run
  | check
  | tournament
deriving DecidableEq

namespace Verb

/-- The name of a command. -/
def name : Verb → String
  | run => "run"
  | check => "check"
  | tournament => "tournament"

/-- Every command. -/
def all : List Verb := [run, check, tournament]

/-- The options that a command knows. -/
def flags : Verb → List Flag
  | run => [.level, .map, .config, .turns, .format, .trace]
  | check => [.listing]
  | tournament => [.levels, .config, .turns, .format]

end Verb

/-! ### Errors -/

/-- Why a command line cannot be carried out. -/
inductive UsageError where
  | noCommand
  | unknownCommand (name : String)
  | unknownOption (text : String)
  | missingValue (flag : Flag)
  /-- A switch is given a value. -/
  | surplusValue (flag : Flag)
  | badValue (flag : Flag) (text : String)
  | repeated (flag : Flag)
  /-- Two options exclude each other. -/
  | conflict (a b : Flag)
  /-- A command is given too few or too many files. -/
  | fileCount (verb : Verb) (found : Nat)
deriving DecidableEq

/-- The wording of an error. -/
def UsageError.message : UsageError → String
  | noCommand => "no command is given"
  | unknownCommand name => s!"unknown command '{name}'"
  | unknownOption text => s!"unknown option '{text}'"
  | missingValue flag => s!"option --{flag.name} needs a value"
  | surplusValue flag => s!"option --{flag.name} takes no value"
  | badValue flag text => s!"invalid value '{text}' for --{flag.name}"
  | repeated flag => s!"option --{flag.name} is given more than once"
  | conflict a b => s!"options --{a.name} and --{b.name} exclude each other"
  | fileCount verb found => s!"wrong number of files for {verb.name}: {found}"

/-! ### Sorting the arguments -/

/-- What a single argument is. -/
inductive Word where
  | file (name : String)
  /-- An option, with a value if one is attached. -/
  | option (flag : Flag) (value : Option String)
  /-- The mark behind which only files follow. -/
  | filesOnly
deriving DecidableEq

/-- Recognise an argument of a command. -/
def Word.read (verb : Verb) (text : String) : Except UsageError Word :=
  match text.toList with
  | ['-', '-'] => .ok .filesOnly
  | '-' :: '-' :: long =>
    let name := String.ofList (long.takeWhile (· ≠ '='))
    match verb.flags.find? fun flag => flag.name = name, long.dropWhile (· ≠ '=') with
    | none, _ => .error (.unknownOption text)
    | some flag, [] => .ok (.option flag none)
    | some flag, _ :: value => .ok (.option flag (some (String.ofList value)))
  | '-' :: letter :: value =>
    match verb.flags.find? fun flag => flag.letter? = some letter with
    | none => .error (.unknownOption text)
    | some flag => .ok (.option flag (if value.isEmpty then none else some (String.ofList value)))
  | _ => .ok (.file text)

/-- The arguments of a command, sorted. -/
structure Arguments where
  files : List String
  /-- The options with their values; a switch has an empty one. -/
  options : List (Flag × String)
deriving DecidableEq

namespace Arguments

/-- Add an option that is not there yet. -/
def addOption (a : Arguments) (flag : Flag) (value : String) : Except UsageError Arguments :=
  if a.options.any fun given => given.1 = flag then .error (.repeated flag)
  else .ok { a with options := a.options ++ [(flag, value)] }

/-- Sort further arguments. -/
def sortInto (verb : Verb) (a : Arguments) : List String → Except UsageError Arguments
  | [] => .ok a
  | text :: rest => do
    match ← Word.read verb text with
    | .filesOnly => return { a with files := a.files ++ rest }
    | .file name => sortInto verb { a with files := a.files ++ [name] } rest
    | .option flag (some value) =>
      if flag.isSwitch then throw (.surplusValue flag)
      sortInto verb (← a.addOption flag value) rest
    | .option flag none =>
      if flag.isSwitch then sortInto verb (← a.addOption flag "") rest
      else
        match rest with
        | [] => throw (.missingValue flag)
        | value :: rest => sortInto verb (← a.addOption flag value) rest

/-- Sort the arguments of a command. -/
def sort (verb : Verb) (args : List String) : Except UsageError Arguments :=
  sortInto verb ⟨[], []⟩ args

/-- The value of an option, if it is given. -/
def value? (a : Arguments) (flag : Flag) : Option String := a.options.lookup flag

/-- Whether an option is given. -/
def has (a : Arguments) (flag : Flag) : Bool := (a.value? flag).isSome

/-- Read the value of an option, if it is given. -/
def read? {α : Type} (a : Arguments) (flag : Flag) (read : String → Option α) :
    Except UsageError (Option α) :=
  match a.value? flag with
  | none => .ok none
  | some text =>
    match read text with
    | some value => .ok (some value)
    | none => .error (.badValue flag text)

end Arguments

/-! ### Values of options -/

/-- Read a number. -/
def number? (text : String) : Option Nat := Text.natural? text.toList

/-- Read a number of turns. -/
def turns? (text : String) : Option UInt32 := do Config.unsigned32? (← number? text)

/-- Read numbers with commas between them. -/
def numbers? (text : String) : Option (List Nat) :=
  (text.toList.splitOn ',').mapM Text.natural?

/-- Read the form of a printed battle. -/
def BattleFormat.ofName? : String → Option BattleFormat
  | "text" => some .text
  | "json" => some .json
  | _ => none

/-- Read the form of a printed tournament. -/
def TournamentFormat.ofName? : String → Option TournamentFormat
  | "text" => some .text
  | "json" => some .json
  | "csv" => some .csv
  | _ => none

/-! ### Invocations -/

/-- A command with everything it needs to know. -/
inductive Invocation where
  | run (o : RunOptions)
  | check (names : List String) (listing : Bool)
  | tournament (o : TournamentOptions)

namespace Invocation

/-- A battle takes two files. A level and a map exclude each other. -/
def ofRun (a : Arguments) : Except UsageError Invocation :=
  match a.files with
  | [first, second] => do
    let level ← a.read? .level number?
    let turns ← a.read? .turns turns?
    let format ← a.read? .format BattleFormat.ofName?
    if a.has .level && a.has .map then .error (.conflict .level .map)
    else
      return .run
        { bots := ⟨first, second⟩
          level := level.getD 1
          map := a.value? .map
          config := a.value? .config
          turns := turns
          format := format.getD .text
          trace := a.has .trace }
  | files => .error (.fileCount .run files.length)

/-- A check takes a file or more. -/
def ofCheck (a : Arguments) : Except UsageError Invocation :=
  if a.files.isEmpty then .error (.fileCount .check 0)
  else .ok (.check a.files (a.has .listing))

/-- A tournament takes two files or more. -/
def ofTournament (a : Arguments) : Except UsageError Invocation :=
  if a.files.length < 2 then .error (.fileCount .tournament a.files.length)
  else do
    let levels ← a.read? .levels numbers?
    let turns ← a.read? .turns turns?
    let format ← a.read? .format TournamentFormat.ofName?
    return .tournament
      { bots := a.files
        levels := levels.getD [1, 2, 3]
        config := a.value? .config
        turns := turns
        format := format.getD .text }

/-- Read a command line. -/
def ofArguments : List String → Except UsageError Invocation
  | [] => .error .noCommand
  | name :: args =>
    match Verb.all.find? fun verb => verb.name = name with
    | none => .error (.unknownCommand name)
    | some verb => do
      let a ← Arguments.sort verb args
      match verb with
      | .run => ofRun a
      | .check => ofCheck a
      | .tournament => ofTournament a

/-- The files that a command may read. -/
def fileNames : Invocation → List String
  | run o => o.bots.toList ++ o.config.toList ++ o.map.toList
  | check names _ => names
  | tournament o => o.bots ++ o.config.toList

/-- Carry out a command. -/
def perform (files : Files) : Invocation → Response
  | run o => Command.run files o
  | check names listing => Command.check files names listing
  | tournament o => Command.tournament files o

end Invocation

end TankDuel.Command

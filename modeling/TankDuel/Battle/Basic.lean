import TankDuel.Arena.Level
import TankDuel.Assembly.Compile
import TankDuel.Battle.Bullet
import TankDuel.Config.Basic
import TankDuel.Battle.Log
import TankDuel.Battle.Tank

/-!
# Battles: setting up and single steps

A `Battle` holds everything about a duel: settings, arena, tanks, bullets, logs, the turn and the
outcome. Installing programs, changing the arena and `reset` all start the duel afresh.

Between two turns the machines are stepped one operation at a time, in any order, until both tanks
are ready. `runUntilReady` steps one machine as often as it takes; its budget of operations bounds
the number of steps. Turn resolution is in `TankDuel.Battle.Turn`.
-/

namespace TankDuel

open Assembly

/-- The state of a duel. -/
structure Battle where
  config : Config
  arena : Arena
  tanks : Pair Tank
  bullets : List (Bullet Side)
  events : Array Event
  messages : Array Message
  /-- How many turns have been resolved. The limit on turns is a 32-bit number, and a battle that
  has reached it is over. -/
  turn : Nat
  outcome : Option (Outcome Side)
  programs : Option (Pair Program)
  /-- The number of the next bullet. Like that of the next event it stands for a 32-bit counter, and
  agrees with it as long as there have been fewer than 2³⁰ turns (`Battle.numbers_in_order`). -/
  nextBulletId : Nat
  /-- The number of the next event. -/
  nextEventId : Nat
deriving DecidableEq

/-- A source text is not a program, and the tank that it was meant for. -/
structure LoadError where
  tank : Side
  error : CompileError
deriving DecidableEq

/-- The wording of the error. -/
def LoadError.message (e : LoadError) : String := s!"{e.tank.label} {e.error.message}"

namespace Battle

/-! ### Setting up -/

/-- A fresh tank on its spawn, with a machine if programs are installed. -/
def spawnTank (config : Config) (arena : Arena) (programs : Option (Pair Program)) (side : Side) :
    Tank :=
  { Tank.atSpawn (arena.spawns.get side) config.maxHp.toInt with
    cpu := programs.map fun p => Cpu.start (p.get side) config.maxOpsPerTurn.toNat }

/-- A duel before its first turn. -/
def fresh (config : Config) (arena : Arena) (programs : Option (Pair Program)) : Battle where
  config := config
  arena := arena
  tanks := Pair.ofFn (spawnTank config arena programs)
  bullets := []
  events := #[]
  messages := #[]
  turn := 0
  outcome := none
  programs := programs
  nextBulletId := 0
  nextEventId := 0

/-- A duel on the first level without programs. -/
def new (config : Config) : Battle := fresh config Level.openField.arena none

/-- Start the duel afresh, with the same settings, arena and programs. -/
def reset (b : Battle) : Battle := fresh b.config b.arena b.programs

/-- Change the arena and start afresh. -/
def setArena (b : Battle) (arena : Arena) : Battle := { b with arena }.reset

/-- Change to a built-in arena and start afresh. -/
def setLevel (b : Battle) (level : Level) : Battle := b.setArena level.arena

/-- Install programs and start afresh. -/
def install (b : Battle) (programs : Pair Program) : Battle :=
  { b with programs := some programs }.reset

/-- Compile two source texts, the first tank's first. -/
def compilePair (sources : Pair String) : Except LoadError (Pair Program) :=
  match compile sources.first with
  | .error error => .error ⟨.first, error⟩
  | .ok first =>
    match compile sources.second with
    | .error error => .error ⟨.second, error⟩
    | .ok second => .ok ⟨first, second⟩

/-- Compile and install two source texts. -/
def load (b : Battle) (sources : Pair String) : Except LoadError Battle :=
  (compilePair sources).map b.install

/-! ### Asking -/

/-- The tank of a side. -/
def tank (b : Battle) (side : Side) : Tank := b.tanks.get side

/-- Whether the battle has ended. -/
def isOver (b : Battle) : Bool := b.outcome.isSome

/-- Whether programs are installed. -/
def hasPrograms (b : Battle) : Bool := b.programs.isSome

/-- Whether a bullet of a side is in flight. -/
def hasBullet (b : Battle) (side : Side) : Bool := b.bullets.any fun bullet => bullet.owner = side

/-- Whether a tank is destroyed or has an action pending. -/
def isReady (b : Battle) (side : Side) : Bool := (b.tank side).isReady

/-- Where a tank stands, if it is alive. -/
def livingAt (b : Battle) (side : Side) : Option Coord :=
  if (b.tank side).isAlive then some (b.tank side).position else none

/-! ### Changing -/

/-- Change the tank of a side. -/
def modifyTank (b : Battle) (side : Side) (f : Tank → Tank) : Battle :=
  { b with tanks := b.tanks.modify side f }

/-- Append an event. -/
def emit (b : Battle) (kind : Event.Kind) : Battle :=
  { b with
    nextEventId := b.nextEventId + 1
    events := b.events.push ⟨b.nextEventId, b.turn, kind⟩ }

/-- Append a message and forget the oldest ones beyond the limit. -/
def report (b : Battle) (r : Report) : Battle :=
  let messages := b.messages.push ⟨b.turn, r⟩
  let forgotten := messages.size - b.config.messageLimit.toNat
  { b with messages := messages.extract forgotten messages.size }

/-! ### Stepping -/

/-- Step the machine of a side. Refused when the battle is over, the tank is destroyed or no
programs are installed. -/
def step (b : Battle) (side : Side) : Option (StepResult × Battle) :=
  if b.isOver then none
  else
    match (b.tank side).step (!b.hasBullet side) with
    | none => none
    | some (result, tank) => some (result, { b with tanks := b.tanks.set side tank })

/-- Step the machine of a side at most `steps` times and stop as soon as it is ready. -/
def runFor (side : Side) : (steps : Nat) → Battle → Option (Action × Battle)
  | 0, _ => none
  | steps + 1, b =>
    match b.step side with
    | none => none
    | some (.ready action, b) => some (action, b)
    | some (.working, b) => runFor side steps b

/-- The number of steps after which the machine of a side is ready for certain. -/
def stepsLeft (b : Battle) (side : Side) : Nat :=
  match (b.tank side).cpu with
  | some cpu => cpu.budgetLeft + 1
  | none => 0

/-- Step the machine of a side until it is ready. Refused when single steps are. -/
def runUntilReady (b : Battle) (side : Side) : Option (Action × Battle) :=
  runFor side (b.stepsLeft side) b

/-- Let the machine of a side get ready, if it can be stepped. -/
def prepare (b : Battle) (side : Side) : Battle :=
  match b.runUntilReady side with
  | some (_, b) => b
  | none => b

/-! ### Tanks by number

Players know the tanks by their numbers. What is asked of a number that no tank has is refused. -/

/-- The tank with a number. -/
def tankNumbered? (b : Battle) (number : Nat) : Option Tank :=
  (Side.ofNumber? number).map b.tank

/-- Whether there is a tank with a number and it is destroyed or has an action pending. -/
def isNumberReady (b : Battle) (number : Nat) : Bool :=
  ((Side.ofNumber? number).map b.isReady).getD false

/-- Step the machine of the tank with a number. -/
def stepNumber (b : Battle) (number : Nat) : Option (StepResult × Battle) :=
  (Side.ofNumber? number).bind b.step

/-- Step the machine of the tank with a number until it is ready. -/
def runNumberUntilReady (b : Battle) (number : Nat) : Option (Action × Battle) :=
  (Side.ofNumber? number).bind b.runUntilReady

end Battle

end TankDuel

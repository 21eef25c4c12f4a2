/-!
# Battle settings

Every setting has a default. The words of the settings are as wide as the numbers a settings
document may hold; a battle works with any of them, but only those that `Config.check` accepts
describe a sensible duel.
-/

namespace TankDuel

/-- The settings of a battle. -/
structure Config where
  /-- The battle is a draw after this many turns. -/
  maxTurns : UInt32 := 200
  /-- The hit points of a fresh tank. -/
  maxHp : Int32 := 3
  /-- How many cells a bullet flies in a turn. -/
  bulletSpeed : UInt32 := 2
  /-- How many cells a bullet flies at most. -/
  bulletRange : Int32 := 8
  /-- How many operations a machine may do in a turn; zero counts as one. -/
  maxOpsPerTurn : UInt32 := 100
  /-- How many of the latest messages are kept. -/
  messageLimit : UInt64 := 64
deriving DecidableEq

/-- Why there are no usable settings. -/
inductive ConfigError where
  /-- The settings document could not be read; the text says which one and why. -/
  | unreadable (reason : String)
  /-- The document is no settings document. -/
  | malformed
  | noTurns
  | noHp
  | noRange
deriving DecidableEq

/-- The wording of an error. -/
def ConfigError.message : ConfigError → String
  | unreadable reason => "cannot read config: " ++ reason
  | malformed => "invalid config: (TOML)"
  | noTurns => "invalid config: max_turns must be at least 1"
  | noHp => "invalid config: max_hp must be at least 1"
  | noRange => "invalid config: bullet_range must be at least 1"

/-- Check settings; the turns are checked first and the range last. -/
def Config.check (c : Config) : Except ConfigError Config :=
  if c.maxTurns = 0 then .error .noTurns
  else if c.maxHp ≤ 0 then .error .noHp
  else if c.bulletRange ≤ 0 then .error .noRange
  else .ok c

end TankDuel

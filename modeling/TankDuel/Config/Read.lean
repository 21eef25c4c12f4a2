import TankDuel.Config.Basic
import TankDuel.Config.Document

/-!
# Reading settings

A settings document names the settings that differ from the defaults. Each setting may be named
once, nothing else may be named, and every number has to fit its setting.
-/

namespace TankDuel.Config

/-- A number of 32 bits without sign. -/
def unsigned32? (n : Int) : Option UInt32 :=
  if 0 ≤ n ∧ n < 4294967296 then some (UInt32.ofNat n.toNat) else none

/-- A number of 32 bits with sign. -/
def signed32? (n : Int) : Option Int32 :=
  if -2147483648 ≤ n ∧ n < 2147483648 then some (Int32.ofInt n) else none

/-- A number of 64 bits without sign. -/
def unsigned64? (n : Int) : Option UInt64 :=
  if 0 ≤ n ∧ n < 18446744073709551616 then some (UInt64.ofNat n.toNat) else none

/-- Change one setting. -/
def assign? (c : Config) (key : String) (value : Int) : Option Config :=
  match key with
  | "max_turns" => (unsigned32? value).map fun n => { c with maxTurns := n }
  | "max_hp" => (signed32? value).map fun n => { c with maxHp := n }
  | "bullet_speed" => (unsigned32? value).map fun n => { c with bulletSpeed := n }
  | "bullet_range" => (signed32? value).map fun n => { c with bulletRange := n }
  | "max_ops_per_turn" => (unsigned32? value).map fun n => { c with maxOpsPerTurn := n }
  | "message_limit" => (unsigned64? value).map fun n => { c with messageLimit := n }
  | _ => none

/-- Change settings one after the other, those in `seen` being settled already. -/
def assignAll? (c : Config) (seen : List String) : List (String × Int) → Option Config
  | [] => some c
  | (key, value) :: rest =>
    if seen.contains key then none
    else do
      let c ← c.assign? key value
      assignAll? c (key :: seen) rest

/-- Read settings from a document and check them. -/
def read (text : String) : Except ConfigError Config :=
  match (Document.read? text).bind (assignAll? {} []) with
  | some c => c.check
  | none => .error .malformed

end TankDuel.Config

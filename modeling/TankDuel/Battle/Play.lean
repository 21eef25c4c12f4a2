import TankDuel.Battle.Turn

/-!
# Whole battles

`Battle.playOn` plays turn after turn: both machines get ready, the turn is resolved, and an
observer sees the battle. It stops as soon as the battle is over. A battle ends by its turn limit
at the latest, so `runObserved` allows that many turns, and one turn where the limit is zero.
-/

namespace TankDuel

/-- How a tank came out of a battle. -/
structure TankStats where
  finalHp : Int
  totalOps : Nat
  halted : Option HaltReason
deriving DecidableEq

/-- The result of a battle. -/
structure BattleResult where
  outcome : Outcome Side
  turnsPlayed : Nat
  tanks : Pair TankStats
deriving DecidableEq

/-- How a tank comes out of a battle. -/
def Tank.stats (t : Tank) : TankStats where
  finalHp := t.hp
  totalOps := t.totalOps
  halted := t.cpu.bind Cpu.halted

namespace Battle

/-- The result of a battle. One that has used up its turns without an outcome is a draw. -/
def result (b : Battle) : BattleResult where
  outcome := b.outcome.getD (.draw .turnLimit)
  turnsPlayed := b.turn
  tanks := b.tanks.map Tank.stats

/-- Let both machines get ready and resolve a turn. -/
def nextTurn (b : Battle) : Except TurnError Battle :=
  ((b.prepare .first).prepare .second).resolveTurn

/-- Play at most `turns` turns, and stop when the battle is over. The observer sees the battle after
each turn and carries along what it has noted. -/
def playOn {σ : Type} (observe : σ → Battle → σ) :
    (turns : Nat) → Battle → (notes : σ) → Except TurnError (Battle × σ)
  | 0, b, notes => .ok (b, notes)
  | turns + 1, b, notes =>
    if b.isOver then .ok (b, notes)
    else do
      let b ← b.nextTurn
      playOn observe turns b (observe notes b)

/-- A duel of two programs before its first turn. -/
def setUp (programs : Pair Program) (arena : Arena) (config : Config) : Battle :=
  ((new config).setArena arena).install programs

/-- The greatest number of turns that a battle can take. -/
def turnBound (config : Config) : Nat := max 1 config.maxTurns.toNat

end Battle

/-- Play a battle of two programs under the eyes of an observer. -/
def runObserved {σ : Type} (programs : Pair Program) (arena : Arena) (config : Config)
    (observe : σ → Battle → σ) (notes : σ) : Except TurnError (BattleResult × σ) := do
  let (b, notes) ←
    (Battle.setUp programs arena config).playOn observe (Battle.turnBound config) notes
  return (b.result, notes)

/-- Play a battle of two programs. -/
def runBattle (programs : Pair Program) (arena : Arena) (config : Config) :
    Except TurnError BattleResult := do
  let (result, _) ← runObserved programs arena config (fun _ _ => ()) ()
  return result

end TankDuel

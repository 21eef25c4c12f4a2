import TankDuel.Proofs.Battle.Ending
import TankDuel.Proofs.Battle.Mirror

/-!
# It does not matter who plays first

Exchange the programs and the spawns of a battle. `runBattle_swap` says that this exchanges the
result and changes nothing else: who wins, wins from the other side, a draw stays the draw that it
was, and the battle takes as many turns. So playing as the first or as the second tank is neither an
advantage nor a disadvantage, although every phase handles the first tank before the second.

The proof carries the mirror image (`Battle.Mirror`) from the first turn to the last. Turns keep it,
but there is one more thing to see to between the turns. In both battles the first machine gets
ready before the second, so the steps that one battle does are not the mirror image of those that
the other one does, neither in order nor, for all that is known, in number. This is where
`Battle.Poised.ticks_eq` comes in: there is only one battle with both tanks ready that micro-steps
lead to, however they are done.
-/

namespace TankDuel

/-- The arena with the spawns exchanged. -/
def Arena.swap (arena : Arena) : Arena where
  grid := arena.grid
  spawns := arena.spawns.swap
  onFloor := fun side => by
    rw [Pair.get_swap]
    exact arena.onFloor side.other
  apart := arena.apart.symm

/-- The result with the tanks exchanged. -/
def BattleResult.swap (result : BattleResult) : BattleResult where
  outcome := result.outcome.map Side.other
  turnsPlayed := result.turnsPlayed
  tanks := result.tanks.swap

namespace Battle

variable {b b' : Battle}

/-- Battles start as mirror images. -/
theorem Mirror.setUp (programs : Pair Program) (arena : Arena) (config : Config) :
    Mirror (setUp programs arena config) (setUp programs.swap arena.swap config) := by
  constructor
  · exact
      { config := rfl
        grid := rfl
        turn := rfl
        outcome := rfl
        bullets := .nil }
  · rintro (_ | _) <;> rfl

/-- The results of mirror images are mirror images. -/
theorem Mirror.result (h : Mirror b b') : b'.result = b.result.swap := by
  have outcome : b'.outcome = b.outcome.map (Outcome.map Side.other) := h.frame.outcome
  have turn : b'.turn = b.turn := h.frame.turn
  have stats : b'.tanks.map Tank.stats = (b.tanks.map Tank.stats).swap := by
    refine Pair.ext_get fun side => ?_
    have mirrored := h.tank side.other
    rw [Side.other_other] at mirrored
    rw [Pair.get_swap, Pair.get_map, Pair.get_map]
    exact (congrArg Tank.stats mirrored :)
  unfold Battle.result BattleResult.swap
  rw [outcome, turn, stats]
  cases b.outcome <;> rfl

/-- **The next turn keeps the mirror image.** -/
theorem Mirror.nextTurn (h : Mirror b b') (playable : b.Playable) (playable' : b'.Playable)
    (running : b.isOver = false) :
    ∃ c c', b.nextTurn = .ok c ∧ b'.nextTurn = .ok c' ∧ Mirror c c' ∧ c.Playable ∧
      c'.Playable := by
  have running' : b'.isOver = false := by
    have outcome : b'.outcome = b.outcome.map (Outcome.map Side.other) := h.frame.outcome
    rw [isOver, outcome, Option.isSome_map]
    exact running
  obtain ⟨counts, ready, -, resolved⟩ := playable.nextTurn running
  obtain ⟨counts', ready', -, resolved'⟩ := playable'.nextTurn running'
  -- The steps that get the tanks of one battle ready, done by the machines that take their places,
  -- get the tanks of the other one ready as well.
  have mirrored := h.ticks counts
  have readyAlso (side : Side) : (b'.ticks fun side => counts side.other).isReady side := by
    have same := mirrored.isReady side.other
    rw [Side.other_other] at same
    rw [same]
    exact ready side.other
  have same : b'.ticks counts' = b'.ticks fun side => counts side.other :=
    playable'.poised.ticks_eq ready' readyAlso
  -- So it makes no difference that the other battle has done others.
  rw [← same] at mirrored
  have before := playable.ticks counts
  have before' := playable'.ticks counts'
  exact ⟨_, _, resolved, resolved', mirrored.playTurn before.orderly before'.orderly,
    before.playTurn running, before'.playTurn running'⟩

/-- **Playing on keeps the mirror image**, whoever observes. -/
theorem Mirror.playOn {σ τ : Type} (observe : σ → Battle → σ) (observe' : τ → Battle → τ)
    (turns : Nat) (notes : σ) (notes' : τ) (h : Mirror b b') (playable : b.Playable)
    (playable' : b'.Playable) :
    ∃ c m c' m', b.playOn observe turns notes = .ok (c, m) ∧
      b'.playOn observe' turns notes' = .ok (c', m') ∧ Mirror c c' := by
  induction turns generalizing b b' notes notes' with
  | zero => exact ⟨b, notes, b', notes', rfl, rfl, h⟩
  | succ turns ih =>
    -- Battles that mirror each other end at the same time.
    have alike : b'.isOver = b.isOver := by
      have outcome : b'.outcome = b.outcome.map (Outcome.map Side.other) := h.frame.outcome
      rw [isOver, isOver, outcome, Option.isSome_map]
    rw [Battle.playOn, Battle.playOn, alike]
    by_cases ended : b.isOver
    · rw [if_pos ended, if_pos ended]
      exact ⟨b, notes, b', notes', rfl, rfl, h⟩
    · rw [if_neg ended, if_neg ended]
      obtain ⟨c, c', played, played', mirrored, next, next'⟩ :=
        h.nextTurn playable playable' (Bool.eq_false_iff.mpr ended)
      rw [played, played']
      exact ih (observe notes c) (observe' notes' c') mirrored next next'

end Battle

open Battle

/-- **It does not matter who plays first.** Exchanging the programs and the spawns exchanges the
result. -/
theorem runBattle_swap (programs : Pair Program) (arena : Arena) (config : Config) :
    ∃ result, runBattle programs arena config = .ok result ∧
      runBattle programs.swap arena.swap config = .ok result.swap := by
  obtain ⟨c, m, c', m', played, played', mirrored⟩ :=
    (Mirror.setUp programs arena config).playOn (fun _ _ => ()) (fun _ _ => ()) (turnBound config)
      () ()
      (.setUp programs arena config) (.setUp programs.swap arena.swap config)
  refine ⟨c.result, ?_, ?_⟩
  · rw [runBattle, runObserved, played]
    rfl
  · rw [runBattle, runObserved, played', ← mirrored.result]
    rfl

end TankDuel

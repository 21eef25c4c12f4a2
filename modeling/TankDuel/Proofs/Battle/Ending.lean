import TankDuel.Battle.Play
import TankDuel.Proofs.Battle.Stepping

/-!
# Every battle comes to an end

A battle is played in two nested loops. The inner one steps a machine until it is ready, the outer
one gets both machines ready and resolves the turn until the battle is over. Neither loop counts
anything. `Battle.RunsUntilReady` and `Battle.PlaysOut` describe them as they are, by what they do
when they leave and when they go round once more; a loop that goes on forever stands in neither
relation to any result.

`Battle.prepare` and `Battle.playOn` run the same loops with a bound on the rounds. The main
statements say that the bounds are never what ends them.

* `prepare_runs` — the budget of operations ends the inner loop: `prepare` does just what it does.
* `Playable.nextTurn` — the turn that follows is never refused. Both tanks are ready by then, also
  the destroyed, the halted and the faulty ones.
* `playOn_plays_out` — the limit of turns ends the outer loop: as long as a battle goes on there are
  rounds left to `playOn`, so it ends with the battle over.
* `runBattle_eq_ok` — a battle of any two programs, in any arena and under any settings, ends within
  its limit of turns, and no turn is refused. Where the limit is zero it ends after one turn.

`Battle.Playable` is what a battle has to be like for its next turn to be played, and is kept by
that turn.
-/

namespace TankDuel

namespace Battle

/-! ### The loops -/

/-- The loop that steps a machine until it is ready. -/
inductive RunsUntilReady (side : Side) : Battle → Option Action → Battle → Prop
  | refused {b : Battle} : b.step side = none → RunsUntilReady side b none b
  | ready {b b' : Battle} {action : Action} :
    b.step side = some (.ready action, b') → RunsUntilReady side b (some action) b'
  | working {b b₁ b' : Battle} {action : Option Action} :
    b.step side = some (.working, b₁) → RunsUntilReady side b₁ action b' →
      RunsUntilReady side b action b'

/-- Both machines get ready, the first one first. -/
def RunsBoth (b b' : Battle) : Prop :=
  ∃ first second b₁, RunsUntilReady .first b first b₁ ∧ RunsUntilReady .second b₁ second b'

/-- The loop that plays turns until the battle is over. -/
inductive PlaysOut : Battle → Except TurnError Battle → Prop
  | ended {b : Battle} : b.isOver → PlaysOut b (.ok b)
  | refused {b b₁ : Battle} {error : TurnError} : b.isOver = false → RunsBoth b b₁ →
    b₁.resolveTurn = .error error → PlaysOut b (.error error)
  | turn {b b₁ b₂ : Battle} {result : Except TurnError Battle} : b.isOver = false →
    RunsBoth b b₁ → b₁.resolveTurn = .ok b₂ → PlaysOut b₂ result → PlaysOut b result

variable {b b' : Battle} {side : Side}

/-- A loop of steps ends in one way. -/
theorem RunsUntilReady.unique {action action' : Option Action} {b₁ b₂ : Battle}
    (h : RunsUntilReady side b action b₁) (h' : RunsUntilReady side b action' b₂) :
    action = action' ∧ b₁ = b₂ := by
  induction h with
  | refused step =>
    cases h' with
    | refused => exact ⟨rfl, rfl⟩
    | ready step' | working step' => exact absurd (step.symm.trans step') (by simp)
  | ready step =>
    cases h' with
    | ready step' =>
      obtain ⟨⟨⟩, rfl⟩ := Prod.mk.inj (Option.some.inj (step.symm.trans step'))
      exact ⟨rfl, rfl⟩
    | refused step' | working step' => exact absurd (step.symm.trans step') (by simp)
  | working step _ ih =>
    cases h' with
    | working step' rest =>
      obtain ⟨-, rfl⟩ := Prod.mk.inj (Option.some.inj (step.symm.trans step'))
      exact ih rest
    | refused step' | ready step' => exact absurd (step.symm.trans step') (by simp)

/-- Running both machines ends in one way. -/
theorem RunsBoth.unique {b₁ b₂ : Battle} (h : RunsBoth b b₁) (h' : RunsBoth b b₂) : b₁ = b₂ := by
  obtain ⟨_, _, c, first, second⟩ := h
  obtain ⟨_, _, c', first', second'⟩ := h'
  obtain ⟨-, rfl⟩ := first.unique first'
  exact (second.unique second').2

/-- **The loops have at most one result.** -/
theorem PlaysOut.unique {result result' : Except TurnError Battle} (h : PlaysOut b result)
    (h' : PlaysOut b result') : result = result' := by
  induction h with
  -- Both go the same way at each step, as what they look at is the same.
  | ended ended =>
    cases h' with
    | ended => rfl
    | refused running | turn running => exact absurd (ended.symm.trans running) (by decide)
  | refused running ran refused =>
    cases h' with
    | ended ended => exact absurd (ended.symm.trans running) (by decide)
    | refused _ ran' refused' =>
      obtain rfl := ran.unique ran'
      obtain rfl := Except.error.inj (refused.symm.trans refused')
      rfl
    | turn _ ran' resolved =>
      obtain rfl := ran.unique ran'
      exact absurd (refused.symm.trans resolved) (by simp)
  | turn running ran resolved _ ih =>
    cases h' with
    | ended ended => exact absurd (ended.symm.trans running) (by decide)
    | refused _ ran' refused =>
      obtain rfl := ran.unique ran'
      exact absurd (refused.symm.trans resolved) (by simp)
    | turn _ ran' resolved' rest =>
      obtain rfl := ran.unique ran'
      obtain rfl := Except.ok.inj (resolved.symm.trans resolved')
      exact ih rest

/-! ### The inner loop ends -/

/-- A counted run that comes to an action is the loop of steps. -/
theorem runFor_runs {steps : Nat} {action : Action} (h : runFor side steps b = some (action, b')) :
    RunsUntilReady side b (some action) b' := by
  induction steps generalizing b with
  | zero => exact absurd h (by simp [runFor])
  | succ steps ih =>
    rw [runFor] at h
    split at h
    · exact absurd h (by simp)
    · next stepped =>
      obtain ⟨rfl, rfl⟩ := Prod.mk.inj (Option.some.inj h)
      exact .ready stepped
    · next stepped => exact .working stepped (ih h)

/-- **The budget of operations ends the inner loop.** -/
theorem prepare_runs (b : Battle) (side : Side) :
    ∃ action, RunsUntilReady side b action (b.prepare side) := by
  cases stepped : b.step side with
  | none =>
    refine ⟨none, ?_⟩
    rw [prepare, runUntilReady_of_refused stepped]
    exact .refused stepped
  | some outcome =>
    obtain ⟨action, count, ran, -⟩ := runUntilReady_of_step stepped
    refine ⟨some action, ?_⟩
    rw [prepare, ran]
    exact runFor_runs ran

/-- Preparing both tanks runs both machines. -/
private theorem prepareBoth_runs (b : Battle) :
    RunsBoth b ((b.prepare .first).prepare .second) := by
  obtain ⟨first, ran⟩ := prepare_runs b .first
  obtain ⟨second, ran'⟩ := prepare_runs (b.prepare .first) .second
  exact ⟨first, second, _, ran, ran'⟩

/-! ### The outer loop ends -/

/-- What a battle has to be like to be played on. -/
structure Playable (b : Battle) : Prop where
  orderly : b.Orderly
  poised : b.Poised
  installed : b.hasPrograms
  /-- A battle that goes on has a turn left. -/
  turn_lt : b.isOver = false → b.turn < turnBound b.config
  turn_le : b.turn ≤ turnBound b.config
  /-- A battle that is over has had a turn. -/
  started : b.isOver → 1 ≤ b.turn

/-- A battle that has been set up can be played. -/
theorem Playable.setUp (programs : Pair Program) (arena : Arena) (config : Config) :
    (setUp programs arena config).Playable where
  orderly := .fresh ..
  poised := .fresh ..
  installed := rfl
  turn_lt := fun _ => Nat.le_max_left ..
  turn_le := Nat.zero_le _
  started := fun ended => absurd ended Bool.false_ne_true

/-- A battle can be played after any steps of its machines. -/
theorem Playable.ticks (h : b.Playable) (counts : Side → Nat) : (b.ticks counts).Playable where
  orderly := h.orderly.ticks counts
  poised := h.poised.ticks counts
  installed := h.installed
  turn_lt := h.turn_lt
  turn_le := h.turn_le
  started := h.started

/-- A battle can be played on after a turn. -/
theorem Playable.playTurn (h : b.Playable) (running : b.isOver = false) :
    b.playTurn.Playable := by
  -- A turn adds one to the counter, and all else that counts here stays.
  have turn := frame_playTurn h.orderly
  have sameConfig : b.playTurn.config = b.config := congrArg Frame.config turn
  have samePrograms : b.playTurn.programs = b.programs := congrArg Frame.programs turn
  have counted : b.playTurn.turn = b.turn + 1 := congrArg Frame.turn turn
  constructor
  · exact h.orderly.playTurn
  · exact h.poised.playTurn h.orderly
  · rw [hasPrograms, samePrograms]
    exact h.installed
  · intro undecided
    calc b.playTurn.turn
        < b.playTurn.config.maxTurns.toNat := turn_playTurn_lt h.orderly undecided
      _ ≤ turnBound b.playTurn.config := Nat.le_max_right ..
  · rw [counted, sameConfig]
    exact h.turn_lt running
  · intro _
    rw [counted]
    exact Nat.le_add_left ..

/-- **No turn is refused.** Both machines get ready, and the turn is played. -/
theorem Playable.nextTurn (h : b.Playable) (running : b.isOver = false) :
    ∃ counts, (∀ side, (b.ticks counts).isReady side) ∧
      (b.prepare .first).prepare .second = b.ticks counts ∧
      b.nextTurn = .ok (b.ticks counts).playTurn := by
  obtain ⟨counts, prepared, ready⟩ := h.poised.prepareBoth h.installed running
  refine ⟨counts, ready, prepared, ?_⟩
  rw [Battle.nextTurn, prepared]
  exact resolveTurn_eq_ok_iff.mpr ⟨h.installed, running, ready, rfl⟩

/-- **The limit of turns ends the outer loop.** With enough rounds for the turns that are left, the
battle is over at the end. -/
theorem playOn_plays_out {σ : Type} (observe : σ → Battle → σ) {turns : Nat} (notes : σ)
    (h : b.Playable) (enough : turnBound b.config ≤ b.turn + turns) :
    ∃ b' notes', b.playOn observe turns notes = .ok (b', notes') ∧ PlaysOut b (.ok b') ∧
      b'.Playable ∧ b'.isOver ∧ b'.config = b.config := by
  induction turns generalizing b notes with
  | zero =>
    -- No round is left, so no turn is, and the battle is over.
    have ended : b.isOver := by
      refine Bool.of_not_eq_false fun running => ?_
      have left := h.turn_lt running
      omega
    exact ⟨b, notes, rfl, .ended ended, h, ended, rfl⟩
  | succ turns ih =>
    rw [playOn]
    by_cases ended : b.isOver
    · rw [if_pos ended]
      exact ⟨b, notes, rfl, .ended ended, h, ended, rfl⟩
    · have running : b.isOver = false := Bool.eq_false_iff.mpr ended
      obtain ⟨counts, ready, prepared, resolved⟩ := h.nextTurn running
      rw [if_neg ended, resolved]
      -- One round is used up and one turn more is counted.
      have played := (h.ticks counts).playTurn running
      have turn := frame_playTurn (h.ticks counts).orderly
      have sameConfig : (b.ticks counts).playTurn.config = b.config := congrArg Frame.config turn
      have counted : (b.ticks counts).playTurn.turn = b.turn + 1 := congrArg Frame.turn turn
      obtain ⟨b', notes', rest, playsOut, playable, ended', config⟩ :=
        ih (observe notes (b.ticks counts).playTurn) played (by rw [sameConfig, counted]; omega)
      refine ⟨b', notes', rest, ?_, playable, ended', config.trans sameConfig⟩
      refine .turn running (prepareBoth_runs b) ?_ playsOut
      rw [prepared]
      exact resolveTurn_eq_ok_iff.mpr ⟨h.installed, running, ready, rfl⟩

end Battle

open Battle

/-- A battle under the eyes of an observer comes to an end. -/
theorem runObserved_plays_out {σ : Type} (programs : Pair Program) (arena : Arena) (config : Config)
    (observe : σ → Battle → σ) (notes : σ) :
    ∃ b notes', runObserved programs arena config observe notes = .ok (b.result, notes') ∧
      PlaysOut (setUp programs arena config) (.ok b) ∧ b.Playable ∧ b.isOver ∧
      b.config = config := by
  obtain ⟨b, notes', played, rest⟩ := playOn_plays_out observe notes
    (Playable.setUp programs arena config) (Nat.le_add_left (turnBound config) 0)
  refine ⟨b, notes', ?_, rest⟩
  rw [runObserved, played]
  rfl

/-- **Every battle comes to an end.** Whatever the programs, the arena and the settings are, the
loops end with one battle, which is over, and no turn is refused on the way. It has had a turn, and
no more than the settings allow. -/
theorem runBattle_eq_ok (programs : Pair Program) (arena : Arena) (config : Config) :
    ∃ b : Battle, (∀ result, PlaysOut (setUp programs arena config) result ↔ result = .ok b) ∧
      runBattle programs arena config = .ok b.result ∧ b.outcome = some b.result.outcome ∧
      1 ≤ b.result.turnsPlayed ∧ b.result.turnsPlayed ≤ max 1 config.maxTurns.toNat := by
  obtain ⟨b, notes, played, playsOut, playable, ended, sameConfig⟩ :=
    runObserved_plays_out programs arena config (fun _ _ => ()) ()
  refine ⟨b, fun result => ⟨fun h => h.unique playsOut, fun h => h ▸ playsOut⟩, ?_, ?_, ?_, ?_⟩
  · rw [runBattle, played]
    rfl
  · obtain ⟨outcome, decided⟩ := Option.isSome_iff_exists.mp ended
    rw [result, decided]
    rfl
  · exact playable.started ended
  · -- The limit is that of the settings the battle has ended with, which are the given ones.
    rw [← sameConfig]
    exact playable.turn_le

end TankDuel

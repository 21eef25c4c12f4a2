import TankDuel.Battle.Snapshot
import TankDuel.Proofs.Battle.Ending

/-!
# What an observer sees

`Battle.playOn` hands each battle that a turn leads to on to an observer and then looks at the
outcome. `Battle.Turns` is the list of these battles, which is there before anybody looks at it: an
observer that takes notes folds its notes over the list (`Turns.playOn_eq`), and whatever it notes
the battles are the same.

* `Playable.exists_turns` — every battle that can be played on has such a list, as no turn is
  refused and the turns are limited.
* `Turns.map_turn` — the turns are counted one by one along it.
* `Turns.outcome_eq_none` — no battle but the last one is over.
* `Snapshot.Agrees` — a snapshot and a result tell the same of turns, outcome and tanks; the
  snapshot of a battle that is over agrees with its result (`snapshot_agrees_result`).
* `exists_seenThrough` — a battle of any two programs is seen turn by turn up to its result, by
  every observer alike.
-/

namespace TankDuel

/-- A snapshot tells the same of a battle as its result. -/
structure Snapshot.Agrees (s : Snapshot) (r : BattleResult) : Prop where
  turn_eq : s.turn = r.turnsPlayed
  outcome_eq : s.outcome = some (r.outcome.map Side.number)
  tanks_eq : ∀ side, ∃ t, s.tank? side.number = some t ∧
    r.tanks.get side = { finalHp := t.hp, totalOps := t.totalOps, halted := t.halted }

namespace Battle

/-- The battles that a battle comes to turn after turn, until it is over. -/
inductive Turns : Battle → List Battle → Prop
  | ended {b : Battle} : b.isOver → Turns b []
  | turn {b b' : Battle} {seen : List Battle} : b.isOver = false → b.nextTurn = .ok b' →
    Turns b' seen → Turns b (b' :: seen)

variable {b b' : Battle} {seen : List Battle}

/-! ### A turn after the other -/

/-- The next turn leads to a battle that can be played on in turn. -/
theorem Playable.exists_turn (h : b.Playable) (running : b.isOver = false) :
    ∃ b', b.nextTurn = .ok b' ∧ b'.Playable ∧ b'.config = b.config ∧ b'.turn = b.turn + 1 := by
  obtain ⟨counts, -, -, played⟩ := h.nextTurn running
  have frame := frame_playTurn (h.ticks counts).orderly
  exact ⟨_, played, (h.ticks counts).playTurn running, congrArg Frame.config frame,
    congrArg Frame.turn frame⟩

/-- A battle that can be played on comes to an end, with no more turns than its limit leaves. -/
theorem Playable.exists_turns (h : b.Playable) :
    ∃ seen, Turns b seen ∧ b.turn + seen.length ≤ turnBound b.config := by
  -- The turns that are left become fewer.
  generalize left : turnBound b.config - b.turn = n
  induction n using Nat.strongRecOn generalizing b with
  | ind n ih =>
    by_cases ended : b.isOver
    · exact ⟨[], .ended ended, h.turn_le⟩
    · have running : b.isOver = false := Bool.eq_false_iff.mpr ended
      obtain ⟨b', played, playable, sameConfig, counted⟩ := h.exists_turn running
      have room := h.turn_lt running
      obtain ⟨seen, turns, bound⟩ := ih _ (by rw [sameConfig, counted]; omega) playable rfl
      refine ⟨b' :: seen, .turn running played turns, ?_⟩
      rw [sameConfig, counted] at bound
      rw [List.length_cons]
      omega

/-- **The observer only looks on.** It takes its notes of all the battles that there are, one after
the other, and changes none of them. -/
theorem Turns.playOn_eq {σ : Type} (h : Turns b seen) (observe : σ → Battle → σ) {turns : Nat}
    (enough : seen.length ≤ turns) (notes : σ) :
    b.playOn observe turns notes = .ok (seen.getLastD b, seen.foldl observe notes) := by
  induction h generalizing turns notes with
  | ended ended =>
    cases turns with
    | zero => rfl
    | succ turns => rw [playOn, if_pos ended]; rfl
  | @turn b b' seen running played _ ih =>
    cases turns with
    | zero => exact absurd enough (by simp)
    | succ turns =>
      rw [playOn, running, played, if_neg Bool.false_ne_true]
      show b'.playOn observe turns (observe notes b') = _
      rw [ih (Nat.le_of_succ_le_succ enough), List.getLastD_cons, List.foldl_cons]

/-- Each battle that is seen is the next turn of the one before it. -/
theorem Turns.chain (h : Turns b seen) :
    (b :: seen).IsChain fun b b' => b.nextTurn = .ok b' := by
  induction h with
  | ended => exact .singleton _
  | turn _ played _ ih => exact .cons_cons played ih

/-- The turns are counted one by one. -/
theorem Turns.map_turn (h : Turns b seen) (playable : b.Playable) :
    seen.map Battle.turn = List.range' (b.turn + 1) seen.length := by
  induction h with
  | ended => rfl
  | turn running played _ ih =>
    obtain ⟨b', played', playable', -, counted⟩ := playable.exists_turn running
    obtain rfl := Except.ok.inj (played.symm.trans played')
    rw [List.map_cons, List.length_cons, List.range'_succ, ih playable', counted]

/-- No battle but the last one is over. -/
theorem Turns.outcome_eq_none (h : Turns b seen) : ∀ b' ∈ seen.dropLast, b'.outcome = none := by
  induction h with
  | ended => exact fun _ hc => absurd hc List.not_mem_nil
  | turn _ _ rest ih =>
    cases rest with
    | ended => exact fun _ hc => absurd hc List.not_mem_nil
    | turn running =>
      -- Another turn follows, so the battle after this one goes on.
      intro c hc
      rw [List.dropLast_cons_cons] at hc
      rcases List.mem_cons.mp hc with rfl | hc
      · exact Option.not_isSome_iff_eq_none.mp (ne_true_of_eq_false running)
      · exact ih c hc

/-- The last battle is over. -/
theorem Turns.isOver_getLastD (h : Turns b seen) : (seen.getLastD b).isOver := by
  induction h with
  | ended ended => exact ended
  | turn _ _ _ ih => rwa [List.getLastD_cons]

/-! ### The result -/

/-- The snapshot shows the tank of a side by its number. -/
private theorem tank?_snapshot (b : Battle) (side : Side) :
    b.snapshot.tank? side.number = some (.ofTank side (b.tank side)) := by
  cases side <;> rfl

/-- **What is seen of a battle that is over is what comes out of it.** -/
theorem snapshot_agrees_result (ended : b.isOver) : b.snapshot.Agrees b.result := by
  obtain ⟨outcome, decided⟩ := Option.isSome_iff_exists.mp ended
  constructor
  · rfl
  · show b.outcome.map _ = some ((b.outcome.getD _).map _)
    rw [decided]
    rfl
  · intro side
    refine ⟨_, tank?_snapshot b side, ?_⟩
    show (b.tanks.map Tank.stats).get side = _
    rw [Pair.get_map]
    rfl

/-- What there is to see of a battle from its start up to its result. -/
structure SeenThrough (start : Battle) (seen : List Battle) (r : BattleResult) : Prop where
  /-- Each battle is what a turn makes of the one before. -/
  chain : (start :: seen).IsChain fun b b' => b.nextTurn = .ok b'
  /-- There is one battle for each turn. -/
  length_eq : seen.length = r.turnsPlayed
  turn_eq : ∀ k b, seen[k]? = some b → b.turn = k + 1
  /-- The battle goes on until the last turn and is over with it. -/
  outcome_eq_none : ∀ b ∈ seen.dropLast, b.outcome = none
  outcome_eq : ∃ last, seen.getLast? = some last ∧ last.outcome = some r.outcome ∧
    last.snapshot.Agrees r

/-- A battle that starts with the first turn and is not over is seen through turn by turn. -/
theorem Turns.seenThrough (h : Turns b seen) (playable : b.Playable) (unplayed : b.turn = 0)
    (running : b.isOver = false) : SeenThrough b seen (seen.getLastD b).result := by
  have counted := h.map_turn playable
  rw [unplayed] at counted
  -- The battles are seen turn by turn from the first on.
  have turn_eq : ∀ k c, seen[k]? = some c → c.turn = k + 1 := by
    intro k c hc
    obtain ⟨bound, -⟩ := List.getElem?_eq_some_iff.mp hc
    have entry : (seen.map Battle.turn)[k]? = some c.turn := by rw [List.getElem?_map, hc]; rfl
    rw [counted, List.getElem?_range' bound] at entry
    have := Option.some.inj entry
    omega
  -- There is a last battle, as the battle is not over at its start.
  have played : seen ≠ [] := by
    rintro rfl
    exact ne_true_of_eq_false running h.isOver_getLastD
  have last : seen.getLast? = some (seen.getLastD b) := by
    rw [List.getLastD_eq_getLast?, List.getLast?_eq_some_getLast played]
    rfl
  have ended := h.isOver_getLastD
  refine ⟨h.chain, ?_, turn_eq, h.outcome_eq_none, _, last, ?_, snapshot_agrees_result ended⟩
  · show seen.length = (seen.getLastD b).turn
    rw [List.getLast?_eq_getElem?] at last
    rw [turn_eq _ _ last]
    have := List.length_pos_iff.mpr played
    omega
  · obtain ⟨outcome, decided⟩ := Option.isSome_iff_exists.mp ended
    rw [result, decided]
    rfl

end Battle

open Battle

/-- **Every battle is seen through**, by every observer alike, and with the result that it has when
nobody looks on. -/
theorem exists_seenThrough (programs : Pair Program) (arena : Arena) (config : Config) :
    ∃ seen r, SeenThrough (setUp programs arena config) seen r ∧
      runBattle programs arena config = .ok r ∧
      ∀ (σ : Type) (observe : σ → Battle → σ) (notes : σ),
        runObserved programs arena config observe notes = .ok (r, seen.foldl observe notes) := by
  have playable := Playable.setUp programs arena config
  obtain ⟨seen, turns, bound⟩ := playable.exists_turns
  have enough : seen.length ≤ turnBound config := Nat.le_trans (Nat.le_add_left ..) bound
  have observed : ∀ (σ : Type) (observe : σ → Battle → σ) (notes : σ),
      runObserved programs arena config observe notes
        = .ok ((seen.getLastD (setUp programs arena config)).result, seen.foldl observe notes) := by
    intro σ observe notes
    rw [runObserved, turns.playOn_eq observe enough]
    rfl
  refine ⟨seen, _, turns.seenThrough playable rfl rfl, ?_, observed⟩
  rw [runBattle, observed]
  rfl

end TankDuel

import TankDuel.Proofs.Battle.Ending
import TankDuel.Proofs.Battle.Halting
import TankDuel.Proofs.Battle.Machines

/-!
# Outcomes are right

The end of a battle is decided at the end of a turn, by hit points, by what the tanks did last and
by the number of turns. `Judged last b` says what the outcome of `b` has to be in terms of the tanks
that are alive, the machines that had halted when the last turn was resolved, and the limit of
turns; `last` is the battle right after that turn. It has to be mentioned, as a machine may halt in
a micro-step after the turn and that decides nothing before the next one.

* `judged_of_verdict` — the verdict is right if the tanks that halted last are those whose machines
  have halted. That they are is the main statement of `TankDuel.Proofs.Battle.Halting`, and needs
  the invariant `Sincere`.
* `Remembers.after` — micro-steps change nothing that the outcome goes by, so it stays right until
  the next turn. The battle right after the last turn is remembered along the run
  (`Battle.lastTurn?`).
* `after_of_isOver` — a battle that is over stands still.
* `outcome_correct` puts these together for all runs and draws the conclusion for whole battles,
  which end with a turn.
-/

namespace TankDuel

/-- Requests that play a battle on and do not start it afresh. -/
def Request.PlaysOn : Request → Prop
  | .step _ | .run _ | .resolve => True
  | .setLevel _ | .setArena _ | .load _ | .install _ | .reset => False

namespace Battle

/-! ### What the outcome has to be -/

/-- **The outcome of a battle is the right one**, given the battle right after the turn that was
resolved last. -/
structure Judged (last b : Battle) : Prop where
  undecided : b.outcome = none ↔
    (∀ side, (b.tank side).isAlive) ∧ ¬(∀ side, (last.tank side).haltReason?.isSome) ∧
      b.turn < b.config.maxTurns.toNat
  winner : ∀ side, b.outcome = some (.winner side) ↔
    (b.tank side).isAlive ∧ ¬(b.tank side.other).isAlive
  bothDestroyed : b.outcome = some (.draw .bothDestroyed) ↔ ∀ side, ¬(b.tank side).isAlive
  stalemate : b.outcome = some (.draw .stalemate) ↔
    (∀ side, (b.tank side).isAlive) ∧ ∀ side, (last.tank side).haltReason?.isSome
  turnLimit : b.outcome = some (.draw .turnLimit) ↔
    (∀ side, (b.tank side).isAlive) ∧ ¬(∀ side, (last.tank side).haltReason?.isSome) ∧
      b.turn = b.config.maxTurns.toNat

variable {b b' last : Battle}

/-- Micro-steps after the turn do not change what the outcome goes by. -/
theorem Judged.ticks (h : Judged last b) (counts : Side → Nat) : Judged last (b.ticks counts) := by
  have alive (side : Side) : ((b.ticks counts).tank side).isAlive = (b.tank side).isAlive :=
    Tank.isAlive_congr (pose_ticks b counts side)
  constructor
  all_goals simp only [alive]
  exacts [h.undecided, h.winner, h.bothDestroyed, h.stalemate, h.turnLimit]

/-- The verdict goes by the battle as it is at the end of the turn. -/
theorem outcome_playTurn (orderly : b.Orderly) (running : b.isOver = false) :
    b.playTurn.outcome = b.playTurn.verdict := by
  have undecided : b.outcome = none := isOver_eq_false_iff.mp running
  have decided : b.playTurn.outcome = b.afterMoves.verdict := by
    have turn : b.playTurn.outcome = b.afterMoves.verdict.or b.outcome :=
      congrArg Frame.outcome (frame_playTurn orderly)
    rw [turn, undecided, Option.or_none]
  have same : b.afterMoves.conclude.verdict = b.afterMoves.verdict := by
    have frame := frame_conclude b.afterMoves
    have config : b.afterMoves.conclude.config = b.afterMoves.config := congrArg Frame.config frame
    have turn : b.afterMoves.conclude.turn = b.afterMoves.turn := congrArg Frame.turn frame
    unfold verdict
    rw [tank_conclude, tank_conclude, config, turn]
  -- Opening the slots does not show in the verdict either.
  have cleared : b.playTurn = b.afterMoves.conclude.mapCpus Cpu.clearPending := rfl
  rw [decided, cleared, verdict_mapCpus, same]

/-- **A verdict is right** if those that have halted are those whose machines have halted. -/
theorem judged_of_verdict (decided : b.outcome = b.verdict)
    (turn_le : b.turn ≤ b.config.maxTurns.toNat)
    (halts : ∀ side, (b.tank side).isAlive →
      ((b.tank side).lastAction = .halt ↔ (b.tank side).haltReason?.isSome)) : Judged b b := by
  unfold verdict at decided
  -- One case for each answer to who is alive.
  split at decided
  next first second =>
    constructor <;> simp [decided, Side.forall_iff, first, second]
  next first second =>
    constructor <;> simp [decided, Side.forall_iff, Side.other, first, second]
  next first second =>
    constructor <;> simp [decided, Side.forall_iff, Side.other, first, second]
  next first second =>
    have someSide : Nonempty Side := ⟨.first⟩
    have alive : ∀ side, (b.tank side).isAlive := Side.forall_iff.mpr ⟨first, second⟩
    have halted : (b.tank .first).lastAction = .halt ∧ (b.tank .second).lastAction = .halt ↔
        ∀ side, (b.tank side).haltReason?.isSome := by
      rw [Side.forall_iff, halts .first first, halts .second second]
    split at decided
    next both =>
      have both := halted.mp both
      constructor <;> simp [decided, alive, both]
    next notBoth =>
      have notBoth := mt halted.mpr notBoth
      -- The number of turns decides.
      split at decided
      next spent =>
        have turn : b.turn = b.config.maxTurns.toNat := Nat.le_antisymm turn_le spent
        constructor <;> simp only [decided, alive, notBoth, turn] <;> simp
      next left =>
        have turn : b.turn < b.config.maxTurns.toNat := Nat.lt_of_not_le left
        have notLast : b.turn ≠ b.config.maxTurns.toNat := Nat.ne_of_lt turn
        constructor <;> simp only [decided, alive, notBoth, turn, notLast] <;> simp

/-! ### The invariant -/

/-- What has to hold of a battle for the outcome of its next turn to be right. -/
structure Sincere (b : Battle) : Prop where
  sound : b.Sound
  limits : b.WithinLimits
  truthful : b.Truthful

/-- A battle starts sincere under settings that have been checked. -/
theorem Sincere.fresh {config : Config} (valid : config.check = .ok config) (arena : Arena)
    (programs : Option (Pair Program)) : (fresh config arena programs).Sincere :=
  ⟨.fresh .., .fresh valid .., Truthful.fresh config arena programs⟩

/-- **Whatever happens, the battle stays sincere.** -/
theorem Sincere.change (change : Change b b') (h : b.Sincere) : b'.Sincere :=
  ⟨h.sound.change change, h.limits.change change h.sound,
    h.truthful.change change h.limits.hp_le_word⟩

/-- A turn leaves the battle sincere. -/
theorem Sincere.playTurn (h : b.Sincere) (running : b.isOver = false) : b.playTurn.Sincere :=
  ⟨h.sound.playTurn, h.limits.playTurn h.sound running, .playTurn b⟩

/-- **The outcome of a turn is right.** -/
theorem Sincere.judged_playTurn (h : b.Sincere) (running : b.isOver = false)
    (ready : ∀ side, b.isReady side) : Judged b.playTurn b.playTurn := by
  have orderly := h.sound.order
  refine judged_of_verdict (outcome_playTurn orderly running) (h.playTurn running).limits.turn_le ?_
  intro side alive
  exact lastAction_playTurn_eq_halt_iff side orderly h.truthful (ready side) alive

/-! ### The last turn -/

/-- The battle right after the turn that was resolved last, once a further request is served. A
battle that starts afresh forgets it. -/
def remember (b : Battle) (last : Option Battle) : Request → Option Battle
  | .resolve =>
    match b.resolveTurn with
    | .ok b' => some b'
    | .error _ => last
  | .load sources =>
    match b.load sources with
    | .ok _ => none
    | .error _ => last
  | .setLevel _ | .setArena _ | .install _ | .reset => none
  | .step _ | .run _ => last

/-- The battle right after the turn that was resolved last in a run. -/
def lastTurn? (b : Battle) (last : Option Battle) : List Request → Option Battle
  | [] => last
  | request :: requests => (b.serve request).2.lastTurn? (b.remember last request) requests

/-- What is remembered fits the battle. -/
def Remembers (b : Battle) : Option Battle → Prop
  | none => b.turn = 0
  | some last => Judged last b

/-- Steps of the machines leave the last turn where it was. -/
theorem Remembers.ticks {last : Option Battle} (h : b.Remembers last) (counts : Side → Nat) :
    (b.ticks counts).Remembers last := by
  cases last with
  | none => exact h
  | some last => exact Judged.ticks h counts

/-- A micro-step request comes to micro-steps. -/
theorem exists_ticks_of_serve_step (b : Battle) (number : Nat) :
    ∃ counts, (b.serve (.step number)).2 = b.ticks counts := by
  rw [serve]
  split
  next stepped =>
    obtain ⟨side, -, stepped⟩ := Option.bind_eq_some_iff.mp stepped
    exact ⟨_, ticks_of_step stepped⟩
  next => exact ⟨_, (ticks_zero b).symm⟩

/-- A request to run a machine comes to some steps of the machines. -/
theorem exists_ticks_of_serve_run (b : Battle) (number : Nat) :
    ∃ counts, (b.serve (.run number)).2 = b.ticks counts := by
  rw [serve]
  split
  next action b' ran =>
    obtain ⟨side, -, ran⟩ := Option.bind_eq_some_iff.mp ran
    cases stepped : b.step side with
    | none => exact absurd ((runUntilReady_of_refused stepped).symm.trans ran) (by simp)
    | some outcome =>
      obtain ⟨action', count, ran', -⟩ := runUntilReady_of_step stepped
      obtain ⟨-, rfl⟩ := Prod.mk.inj (Option.some.inj (ran'.symm.trans ran))
      exact ⟨_, rfl⟩
  next => exact ⟨_, (ticks_zero b).symm⟩

/-- **Inversion of a request that plays on.** It comes to micro-steps or resolves the turn. -/
theorem serve_of_playsOn (b : Battle) {request : Request} (playsOn : request.PlaysOn) :
    (∃ counts, (b.serve request).2 = b.ticks counts) ∨
      b.resolveTurn = .ok (b.serve request).2 := by
  cases request with
  | setLevel | setArena | load | install | reset => exact playsOn.elim
  | step number => exact .inl (exists_ticks_of_serve_step b number)
  | run number => exact .inl (exists_ticks_of_serve_run b number)
  | resolve =>
    rw [serve]
    cases resolved : b.resolveTurn with
    | error error => exact .inl ⟨_, (ticks_zero b).symm⟩
    | ok b' => exact .inr rfl

/-- A request keeps in mind which turn was the last one. -/
theorem Remembers.serve {last : Option Battle} (sincere : b.Sincere) (h : b.Remembers last)
    (request : Request) : (b.serve request).2.Remembers (b.remember last request) := by
  -- A restart forgets the turn, steps keep it, and a turn takes its place.
  cases request with
  | setLevel | setArena | install | reset => exact rfl
  | load sources =>
    rw [Battle.serve, remember]
    cases loaded : b.load sources with
    | error error => exact h
    | ok b' =>
      obtain ⟨programs, -, rfl⟩ := load_eq_ok_iff.mp loaded
      exact rfl
  | step number =>
    obtain ⟨counts, same⟩ := exists_ticks_of_serve_step b number
    rw [same]
    exact h.ticks counts
  | run number =>
    obtain ⟨counts, same⟩ := exists_ticks_of_serve_run b number
    rw [same]
    exact h.ticks counts
  | resolve =>
    rw [Battle.serve, remember]
    cases resolved : b.resolveTurn with
    | error error => exact h
    | ok b' =>
      obtain ⟨-, running, ready, rfl⟩ := resolveTurn_eq_ok_iff.mp resolved
      exact sincere.judged_playTurn running ready

/-- A request leaves the battle sincere. -/
theorem Sincere.serve (h : b.Sincere) (request : Request) : (b.serve request).2.Sincere :=
  after_invariant (fun change h => h.change change) h [request]

/-- **What is remembered fits the battle throughout a run.** -/
theorem Remembers.after {last : Option Battle} (sincere : b.Sincere) (h : b.Remembers last)
    (requests : List Request) : (b.after requests).Remembers (b.lastTurn? last requests) := by
  induction requests generalizing b last with
  | nil => exact h
  | cons request requests ih => exact ih (sincere.serve request) (h.serve sincere request)

/-! ### Battles that are over -/

/-- When the battle is over no machine is stepped. -/
private theorem step_of_isOver (ended : b.isOver) (side : Side) : b.step side = none := by
  rw [step, if_pos ended]

/-- Nothing can be played on. -/
private theorem serve_of_isOver (ended : b.isOver) {request : Request} (playsOn : request.PlaysOn) :
    (b.serve request).2 = b := by
  -- Without a restart there is nothing left that could be served.
  cases request with
  | setLevel | setArena | load | install | reset => exact playsOn.elim
  | step number =>
    rw [serve, stepNumber]
    cases Side.ofNumber? number with
    | none => rfl
    | some side => rw [Option.bind_some, step_of_isOver ended side]
  | run number =>
    rw [serve, runNumberUntilReady]
    cases Side.ofNumber? number with
    | none => rfl
    | some side =>
      rw [Option.bind_some, runUntilReady_of_refused (step_of_isOver ended side)]
  | resolve =>
    rw [serve]
    cases resolved : b.resolveTurn with
    | error error => rfl
    | ok b' =>
      obtain ⟨-, running, -⟩ := resolveTurn_eq_ok_iff.mp resolved
      exact absurd (ended.symm.trans running) (by decide)

/-- **A battle that is over stays as it is**, unless it is restarted. -/
theorem after_of_isOver (ended : b.isOver) {requests : List Request}
    (playOn : ∀ request ∈ requests, request.PlaysOn) : b.after requests = b := by
  induction requests with
  | nil => rfl
  | cons request requests ih =>
    rw [after_cons, serve_of_isOver ended (playOn request List.mem_cons_self)]
    exact ih fun request h => playOn request (List.mem_cons_of_mem _ h)

/-! ### Whole battles -/

/-- Running a machine comes to some changes. -/
theorem RunsUntilReady.changes {side : Side} {action : Option Action}
    (h : RunsUntilReady side b action b') : Relation.ReflTransGen Change b b' := by
  induction h with
  | refused => exact .refl
  | ready stepped => exact .single (.step stepped)
  | working stepped _ ih => exact .head (.step stepped) ih

/-- Playing a battle out comes to some changes. -/
theorem PlaysOut.changes {result : Except TurnError Battle} (h : PlaysOut b result)
    (ok : result = .ok b') : Relation.ReflTransGen Change b b' := by
  induction h with
  | ended =>
    obtain rfl := Except.ok.inj ok
    exact .refl
  | refused => exact absurd ok nofun
  | turn _ ran resolved _ ih =>
    obtain ⟨_, _, _, first, second⟩ := ran
    exact first.changes.trans (second.changes.trans (.head (.turn resolved) (ih ok)))

/-- A battle that is over is so since its last turn, which was judged rightly. -/
private theorem judged_of_changes (changes : Relation.ReflTransGen Change b b')
    (sincere : b.Sincere) (running : b.isOver = false) :
    b'.Sincere ∧ (b'.isOver → Judged b' b') := by
  -- The induction is at the end of the run: only its last change can have ended the battle.
  induction changes with
  | refl => exact ⟨sincere, fun ended => absurd (ended.symm.trans running) (by decide)⟩
  | tail _ change ih =>
    refine ⟨ih.1.change change, fun ended => ?_⟩
    cases change with
    | restart => exact absurd ended Bool.false_ne_true
    | step stepped =>
      -- A battle that is over cannot be stepped.
      obtain ⟨running, _, -, rfl⟩ := step_eq_some_iff.mp stepped
      exact absurd (ended.symm.trans running) (by decide)
    | turn resolved =>
      obtain ⟨-, running, ready, rfl⟩ := resolveTurn_eq_ok_iff.mp resolved
      exact ih.1.judged_playTurn running ready

end Battle

/-- A result is consistent in itself. -/
structure BattleResult.Consistent (config : Config) (r : BattleResult) : Prop where
  winner : ∀ side, r.outcome = .winner side →
    0 < (r.tanks.get side).finalHp ∧ (r.tanks.get side.other).finalHp = 0
  bothDestroyed : r.outcome = .draw .bothDestroyed → ∀ side, (r.tanks.get side).finalHp = 0
  stalemate : r.outcome = .draw .stalemate → ∀ side, (r.tanks.get side).halted.isSome
  turnLimit : r.outcome = .draw .turnLimit → r.turnsPlayed = config.maxTurns.toNat

namespace Battle

variable {b : Battle}

/-- A rightly judged battle has a consistent result. -/
theorem Judged.consistent (h : Judged b b) (limits : b.WithinLimits) (ended : b.isOver) :
    b.result.Consistent b.config := by
  have decided : b.outcome = some b.result.outcome := by
    obtain ⟨outcome, decided⟩ := Option.isSome_iff_exists.mp ended
    rw [result, decided]
    rfl
  have stats (side : Side) : b.result.tanks.get side = (b.tank side).stats := Pair.get_map ..
  -- Hit points do not go below zero, so a destroyed tank has none.
  have noneLeft {side : Side} (dead : ¬(b.tank side).isAlive) : (b.tank side).hp = 0 := by
    have low : ¬0 < (b.tank side).hp := fun positive => dead (decide_eq_true positive)
    have bound := limits.hp_nonneg side
    omega
  constructor
  · intro side won
    rw [won] at decided
    obtain ⟨alive, dead⟩ := (h.winner side).mp decided
    rw [stats, stats]
    exact ⟨of_decide_eq_true alive, noneLeft dead⟩
  · intro drawn side
    rw [drawn] at decided
    rw [stats]
    exact noneLeft (h.bothDestroyed.mp decided side)
  · intro drawn side
    rw [drawn] at decided
    rw [stats]
    exact (h.stalemate.mp decided).2 side
  · intro drawn
    rw [drawn] at decided
    exact (h.turnLimit.mp decided).2.2

/-- **Outcomes are right.** Under valid settings, in every battle that has had a turn the outcome is
the one that fits the tanks and what the machines had come to when the last turn was resolved. Once
there is an outcome, playing on changes nothing. So the result of a whole battle is consistent. -/
theorem outcome_correct (config : Config) (valid : config.check = .ok config) :
    (∀ requests, 1 ≤ ((new config).after requests).turn →
      ∃ last, (new config).lastTurn? none requests = some last ∧
        Judged last ((new config).after requests)) ∧
    (∀ requests, ((new config).after requests).isOver →
      ∀ more : List Request, (∀ request ∈ more, request.PlaysOn) →
        ((new config).after requests).after more = (new config).after requests) ∧
    ∀ programs arena, ∃ r, runBattle programs arena config = .ok r ∧ r.Consistent config := by
  refine ⟨fun requests started => ?_, fun _ ended _ playOn => after_of_isOver ended playOn,
    fun programs arena => ?_⟩
  · have remembers : ((new config).after requests).Remembers
        ((new config).lastTurn? none requests) := by
      have noTurn : (new config).Remembers none := rfl
      exact noTurn.after (.fresh valid Level.openField.arena none) requests
    cases last : (new config).lastTurn? none requests with
    | none =>
      -- Where nothing is remembered there was no turn.
      rw [last] at remembers
      have noTurn : ((new config).after requests).turn = 0 := remembers
      omega
    | some last' =>
      rw [last] at remembers
      exact ⟨last', rfl, remembers⟩
  · obtain ⟨b, _, played, playsOut, -, ended, rfl⟩ :=
      runObserved_plays_out programs arena config (fun _ _ => ()) ()
    have start : (setUp programs arena b.config).Sincere := .fresh valid arena (some programs)
    obtain ⟨sincere, judged⟩ := judged_of_changes (playsOut.changes rfl) start rfl
    refine ⟨b.result, ?_, (judged ended).consistent sincere.limits ended⟩
    rw [runBattle, played]
    rfl

/-- A program that has come to its end and one that halts. -/
theorem outcome_correct_stalemate :
    let config : Config := { maxTurns := 3, maxHp := 1, bulletRange := 1 }
    let past : List Request :=
      [.install ⟨⟨[], .empty⟩, ⟨[⟨.halt, [], 1⟩], .empty⟩⟩, .run 1, .run 2, .resolve]
    let b := (new config).after past
    config.check = .ok config ∧ b.outcome = some (.draw .stalemate) ∧
      (∃ last, (new config).lastTurn? none past = some last ∧ Judged last b) ∧
      b.after [.resolve, .step 1, .run 7] = b := by
  intro config past b
  have valid : config.check = .ok config := by decide +kernel
  have correct := outcome_correct config valid
  have ended : b.isOver := by decide +kernel
  exact ⟨valid, by decide +kernel, correct.1 past (by decide +kernel),
    correct.2.1 past ended _ (by simp [Request.PlaysOn])⟩

end Battle

end TankDuel

import TankDuel.Proofs.Battle.Phases
import TankDuel.Proofs.Battle.Request

/-!
# A whole turn

`Battle.playTurn` runs the phases one after the other. This file names the battle after each of them
(`afterBullets`, `afterAnswers`, `afterActions`, `afterMoves`) and puts the statements about single
phases together:

* `bare_afterActions_eq` — until the movement phase a tank stays where it is, gets the answer to its
  question, does its deed, and is hit at most twice, once by a bullet and once by a shot from the
  cell beside it;
* `bare_playTurn` — the whole turn adds to this where the tank has landed;
* `position_playTurn`, `hp_playTurn`, `cpu_playTurn` — what is left of place, hit points and
  machine at the end of the turn;
* `frame_playTurn` — what a turn does to everything but tanks and logs.

They hold of battles in which no tank has two bullets in flight (`Battle.Orderly.owners`). Of such
battles nothing else is needed here, so the invariant is set up in this file: bullets are listed by
rising numbers below the next one, one for each owner at most, whatever the settings.
-/

namespace TankDuel

/-- What holds of both sides. -/
theorem Side.forall_iff {P : Side → Prop} : (∀ side, P side) ↔ P .first ∧ P .second := by
  constructor
  · intro h
    exact ⟨h .first, h .second⟩
  · rintro ⟨first, second⟩ (_ | _)
    · exact first
    · exact second

namespace Battle

/-- Bullets are in order. -/
structure Orderly (b : Battle) : Prop where
  /-- No tank has two bullets in flight. -/
  owners : b.bullets.Pairwise fun m n => m.owner ≠ n.owner
  /-- Bullets are listed in the order in which they were fired. -/
  ids : b.bullets.Pairwise fun m n => m.id < n.id
  /-- The next number is a new one. -/
  ids_lt : ∀ m ∈ b.bullets, m.id < b.nextBulletId

variable (b : Battle) (side : Side)

/-! ### The battle after each phase -/

/-- The actions that take effect in a turn. -/
def actions : Pair (Option Action) := b.tanks.map Tank.action?

/-- The battle after the bullet phase of a turn. -/
def afterBullets : Battle := { b with turn := b.turn + 1 }.advanceBullets

/-- The battle after the sensor phase. -/
def afterAnswers : Battle := b.afterBullets.answerBoth b.actions

/-- The battle after the actions. -/
def afterActions : Battle := b.afterAnswers.actBoth b.actions

/-- Where the tanks want to drive to. -/
def intents : Pair (Option Coord) :=
  Pair.ofFn fun side => b.afterAnswers.intent side (b.actions.get side)

/-- The battle after the moves, in which destroyed tanks have been marked. -/
def afterMoves : Battle := (b.afterActions.moveTanks b.intents).markDestroyed

/-- A living tank takes part with the action in its slot. -/
theorem get_actions (alive : (b.tank side).isAlive) :
    b.actions.get side = (b.tank side).pending? := by
  rw [actions, Pair.get_map]
  exact if_pos alive

/-- A living tank that is ready takes part. -/
theorem exists_action_of_isReady (alive : (b.tank side).isAlive) (ready : b.isReady side) :
    ∃ action, (b.tank side).pending? = some action ∧ b.actions.get side = some action := by
  have latched : (b.tank side).pending?.isSome := by
    simpa [isReady, Tank.isReady, alive] using ready
  obtain ⟨action, pending⟩ := Option.isSome_iff_exists.mp latched
  exact ⟨action, pending, (b.get_actions side alive).trans pending⟩

/-- A turn ends with empty slots. -/
theorem tank_playTurn : b.playTurn.tank side = (b.afterMoves.tank side).clearPending := by
  have cleared : b.playTurn.tank side = (b.afterMoves.conclude.tank side).clearPending :=
    Pair.get_map _ b.afterMoves.conclude.tanks side
  rw [cleared, tank_conclude]

/-- The bullets that stay in the air. -/
def survivors : List (Bullet Side) := b.bullets.filterMap fun m => (b.fate m).survivor?

/-- The bullets that are launched in a turn. -/
def launched : List (Bullet Side) := b.afterAnswers.launches b.actions

/-- **When a battle is undecided** at the end of a turn. -/
theorem verdict_eq_none_iff :
    b.verdict = none ↔
      (∀ side, (b.tank side).isAlive) ∧ ¬(∀ side, (b.tank side).lastAction = .halt) ∧
        b.turn < b.config.maxTurns.toNat := by
  unfold verdict
  simp only [Side.forall_iff]
  split
  next first second => simp [first]
  next first second => simp [second]
  next first second => simp [first]
  next first second =>
    -- With two living tanks it depends on their last deeds and on the number of turns.
    split_ifs with halted limit
    · simp [halted]
    · simp [limit]
    · simp [first, second, halted, Nat.lt_of_not_le limit]

/-! ### Tanks -/

/-- **The sensor phase** writes the answer to its action to each machine. -/
theorem tank_afterAnswers :
    b.afterAnswers.tank side =
      (b.afterBullets.tank side).writeRegisters
        (b.afterBullets.reading side (b.actions.get side)) :=
  tank_answerBoth ..

/-- **The actions** turn a tank if it rotates, and hurt it if its opponent is beside it and fires.
-/
theorem bare_afterActions :
    (b.afterActions.tank side).bare =
      ((b.afterAnswers.tank side).bare.enact (b.actions.get side)).hurt
        (b.afterAnswers.shootsPointBlank side.other (b.actions.get side.other)) :=
  bare_actBoth ..

/-- **The moves** bring a tank to where it lands. -/
theorem bare_afterMoves :
    (b.afterMoves.tank side).bare =
      { (b.afterActions.tank side).bare with
        position :=
          landed b.afterActions.arena.grid (b.afterActions.tanks.map Tank.position) b.intents
            side } := by
  rw [afterMoves, bare_markDestroyed, bare_moveTanks]

variable {b}

section Orderly

variable (h : b.Orderly)

include h

/-- **The bullet phase** hurts the tanks that are hit. -/
theorem bare_afterBullets :
    (b.afterBullets.tank side).bare = (b.tank side).bare.hurt (b.isHit side) :=
  bare_advanceBullets { b with turn := b.turn + 1 } side h.owners

/-- Place and facing stay as they are until the tanks act. -/
theorem place_afterAnswers :
    (b.afterAnswers.tank side).position = (b.tank side).position ∧
      (b.afterAnswers.tank side).facing = (b.tank side).facing := by
  have flown := bare_afterBullets side h
  rw [tank_afterAnswers]
  exact ⟨(congrArg Tank.position flown :), (congrArg Tank.facing flown :)⟩

/-- Where a tank would drive to is settled before the turn. -/
private theorem destination_afterAnswers (heading : Heading) :
    (b.afterAnswers.tank side).destination heading = (b.tank side).destination heading := by
  obtain ⟨position, facing⟩ := place_afterAnswers side h
  unfold Tank.destination
  rw [position, facing]

/-- Only a tank whose deed is a move wants to drive anywhere. -/
theorem get_intents_eq_some_iff {cell : Coord} :
    b.intents.get side = some cell ↔ ∃ heading, b.actions.get side = some (.move heading) ∧
      (b.tank side).destination heading = cell := by
  rw [intents, Pair.get_ofFn]
  constructor
  · intro wants
    unfold intent at wants
    split at wants
    next heading drives =>
      rw [destination_afterAnswers side h] at wants
      exact ⟨heading, drives, Option.some.inj wants⟩
    next => cases wants
  · rintro ⟨heading, drives, rfl⟩
    rw [drives, intent, destination_afterAnswers side h]

/-- **Until the movement phase** a tank gets its answer, does its deed, and is hit at most twice. -/
theorem bare_afterActions_eq :
    (b.afterActions.tank side).bare =
      ((((b.tank side).bare.hurt (b.isHit side)).writeRegisters
        (b.afterBullets.reading side (b.actions.get side))).enact (b.actions.get side)).hurt
          (b.afterAnswers.shootsPointBlank side.other (b.actions.get side.other)) := by
  rw [bare_afterActions, tank_afterAnswers, Tank.bare_writeRegisters, bare_afterBullets side h]

/-- No tank is moved before the moves. -/
private theorem position_afterActions :
    (b.afterActions.tank side).position = (b.tank side).position :=
  (congrArg Tank.position (bare_afterActions_eq side h) :)

/-- **Hit points.** A tank loses at most one to a bullet, and at most one to a shot from the cell
beside it. -/
theorem hp_playTurn :
    (b.playTurn.tank side).hp =
      let hp := if b.isHit side then max ((b.tank side).hp - 1) 0 else (b.tank side).hp
      if b.afterAnswers.shootsPointBlank side.other (b.actions.get side.other) then max (hp - 1) 0
      else hp :=
  calc (b.playTurn.tank side).hp
      = (b.afterMoves.tank side).hp := (congrArg Tank.hp (tank_playTurn b side) :)
    _ = (b.afterActions.tank side).hp := (congrArg Tank.hp (bare_afterMoves b side) :)
    _ = _ := (congrArg Tank.hp (bare_afterActions_eq side h) :)

/-- **Machines.** A machine gets the answer to its question and its slot is opened. -/
theorem cpu_playTurn :
    (b.playTurn.tank side).cpu =
      ((b.tank side).writeRegisters (b.afterBullets.reading side (b.actions.get side))).cpu.map
        Cpu.clearPending := by
  have moved : (b.afterMoves.tank side).cpu = (b.afterActions.tank side).cpu :=
    (congrArg Tank.cpu (bare_afterMoves b side) :)
  -- Neither a hit nor a deed changes the machine.
  have acted := (congrArg Tank.cpu (bare_afterActions_eq side h) :)
  rw [tank_playTurn, Tank.clearPending]
  dsimp only
  rw [moved]
  exact congrArg (Option.map Cpu.clearPending) acted

/-! ### Everything else -/

/-- After the bullet phase the turn is counted and the bullets that survive are left. -/
theorem frame_afterBullets :
    b.afterBullets.frame = { b.frame with turn := b.turn + 1, bullets := b.survivors } :=
  frame_advanceBullets { b with turn := b.turn + 1 } h.owners

/-- The sensor phase adds nothing to this. -/
theorem frame_afterAnswers :
    b.afterAnswers.frame = { b.frame with turn := b.turn + 1, bullets := b.survivors } := by
  rw [← frame_afterBullets h]
  exact frame_answerBoth ..

/-- The actions add the bullets that are launched. -/
theorem frame_afterActions :
    b.afterActions.frame =
      { b.frame with turn := b.turn + 1, bullets := b.survivors }.add b.launched := by
  rw [← frame_afterAnswers h]
  exact frame_actBoth ..

/-- **Everything but tanks and logs.** -/
theorem frame_playTurn :
    b.playTurn.frame =
      { b.frame with
        turn := b.turn + 1
        outcome := b.afterMoves.verdict.or b.outcome
        bullets := b.survivors }.add b.launched := by
  -- Moves change tanks only, and before the end of the turn nothing decides the battle.
  have moved : b.afterMoves.frame = b.afterActions.frame := rfl
  have concluded := frame_conclude b.afterMoves
  have outcome : b.afterMoves.outcome = b.outcome :=
    congrArg Frame.outcome (frame_afterActions h)
  rw [moved, frame_afterActions h, outcome] at concluded
  exact concluded

/-- Moves are judged on the grid and on the places that were there when the turn began. -/
theorem arena_afterActions : b.afterActions.arena = b.arena :=
  congrArg Frame.arena (frame_afterActions h)

/-- Before the moves both tanks are where they were before the turn. -/
theorem positions_afterActions :
    b.afterActions.tanks.map Tank.position = b.tanks.map Tank.position := by
  refine Pair.ext_get fun side => ?_
  rw [Pair.get_map, Pair.get_map]
  exact position_afterActions side h

/-- **Places.** Only the moves change them. -/
theorem position_playTurn :
    (b.playTurn.tank side).position =
      landed b.arena.grid (b.tanks.map Tank.position) b.intents side := by
  rw [tank_playTurn, ← arena_afterActions h, ← positions_afterActions h]
  exact (congrArg Tank.position (bare_afterMoves b side) :)

/-- **A tank after a turn**, but for the feedback that it gets. -/
theorem bare_playTurn :
    (b.playTurn.tank side).bare =
      Tank.clearPending
        { ((((b.tank side).bare.hurt (b.isHit side)).writeRegisters
            (b.afterBullets.reading side (b.actions.get side))).enact (b.actions.get side)).hurt
              (b.afterAnswers.shootsPointBlank side.other (b.actions.get side.other)) with
          position := landed b.arena.grid (b.tanks.map Tank.position) b.intents side } := by
  have cleared : (b.playTurn.tank side).bare = (b.afterMoves.tank side).bare.clearPending := by
    rw [tank_playTurn]
    rfl
  have place : landed b.afterActions.arena.grid (b.afterActions.tanks.map Tank.position) b.intents
      side = landed b.arena.grid (b.tanks.map Tank.position) b.intents side := by
    have moved := position_playTurn side h
    rw [tank_playTurn] at moved
    exact (congrArg Tank.position (bare_afterMoves b side) :).symm.trans moved
  rw [cleared, bare_afterMoves, bare_afterActions_eq side h, place]

/-- A turn that leaves the outcome open has not used up the turns. -/
theorem turn_playTurn_lt (undecided : b.playTurn.isOver = false) :
    b.playTurn.turn < b.playTurn.config.maxTurns.toNat := by
  have turn := frame_playTurn h
  have moves := frame_afterActions h
  have outcome : b.playTurn.outcome = b.afterMoves.verdict.or b.outcome :=
    congrArg Frame.outcome turn
  have sameTurn : b.playTurn.turn = b.afterMoves.turn :=
    (congrArg Frame.turn turn).trans (congrArg Frame.turn moves).symm
  have sameConfig : b.playTurn.config = b.afterMoves.config :=
    (congrArg Frame.config turn).trans (congrArg Frame.config moves).symm
  rw [isOver, outcome, Option.isSome_or, Bool.or_eq_false_iff] at undecided
  rw [sameTurn, sameConfig]
  have noVerdict := Option.isNone_iff_eq_none.mp (Option.isSome_eq_false_iff.mp undecided.1)
  exact ((verdict_eq_none_iff _).mp noVerdict).2.2

/-! ### Bullets stay in order -/

/-- Bullets that stay in the air do so in their order, and keep their owners and numbers. -/
theorem Orderly.survivors :
    (b.survivors.Pairwise fun m n => m.owner ≠ n.owner) ∧
      (b.survivors.Pairwise fun m n => m.id < n.id) ∧
      ∀ m ∈ b.survivors, m.id < b.nextBulletId := by
  refine ⟨?_, ?_, ?_⟩
  · refine List.pairwise_filterMap.mpr (h.owners.imp ?_)
    intro m n differ m' survives n' survives'
    rw [(Bullet.survives survives).2.1, (Bullet.survives survives').2.1]
    exact differ
  · refine List.pairwise_filterMap.mpr (h.ids.imp ?_)
    intro m n rising m' survives n' survives'
    rw [(Bullet.survives survives).1, (Bullet.survives survives').1]
    exact rising
  · intro m' hm'
    obtain ⟨m, hm, survives⟩ := List.mem_filterMap.mp hm'
    rw [(Bullet.survives survives).1]
    exact h.ids_lt m hm

/-- **A turn keeps bullets in order.** Those that stay in the air do so in their order, and a tank
launches one only if none of its own is among them. -/
theorem Orderly.playTurn : b.playTurn.Orderly := by
  have turn := frame_playTurn h
  have answers := frame_afterAnswers h
  have bullets : b.playTurn.bullets = b.survivors ++ b.launched := congrArg Frame.bullets turn
  have next : b.playTurn.nextBulletId = b.nextBulletId + b.launched.length :=
    congrArg Frame.nextBulletId turn
  have inFlight : b.afterAnswers.bullets = b.survivors := congrArg Frame.bullets answers
  have firstNew : b.afterAnswers.nextBulletId = b.nextBulletId :=
    congrArg Frame.nextBulletId answers
  -- Those that stay in the air keep their numbers, so the next number is new to them.
  obtain ⟨owners, ids, old⟩ := h.survivors
  -- Those that are launched have no owner among them, and a number from the next one on.
  have new : ∀ n ∈ b.launched, (∀ m ∈ b.survivors, m.owner ≠ n.owner) ∧
      b.nextBulletId ≤ n.id ∧ n.id < b.nextBulletId + b.launched.length := by
    intro n hn
    obtain ⟨side, id, cell, rfl, unloaded, -, low, high⟩ := mem_launches b.afterAnswers hn
    rw [firstNew] at low high
    refine ⟨fun m hm => ?_, low, high⟩
    rw [hasBullet, inFlight, List.any_eq_false] at unloaded
    have apart : m.owner ≠ side := by simpa using unloaded m hm
    exact apart
  have newOrder := pairwise_launches b.afterAnswers b.actions
  constructor
  · rw [bullets]
    exact List.pairwise_append.mpr
      ⟨owners, newOrder.imp And.left, fun m hm n hn => (new n hn).1 m hm⟩
  · rw [bullets]
    refine List.pairwise_append.mpr ⟨ids, newOrder.imp And.right, fun m hm n hn => ?_⟩
    exact Nat.lt_of_lt_of_le (old m hm) (new n hn).2.1
  · rw [bullets, next]
    intro m hm
    rcases List.mem_append.mp hm with survived | fresh
    · exact Nat.lt_of_lt_of_le (old m survived) (Nat.le_add_right _ _)
    · exact (new m fresh).2.2

end Orderly

/-- At the start there are no bullets. -/
theorem Orderly.fresh (config : Config) (arena : Arena) (programs : Option (Pair Program)) :
    (fresh config arena programs).Orderly where
  owners := .nil
  ids := .nil
  ids_lt := fun _ h => absurd h List.not_mem_nil

/-- **Whatever happens, the bullets stay in order.** -/
theorem Orderly.change {b' : Battle} (change : Change b b') (h : b.Orderly) : b'.Orderly := by
  cases change with
  | restart arena programs => exact .fresh ..
  | step stepped =>
    obtain ⟨-, tank, -, rfl⟩ := step_eq_some_iff.mp stepped
    exact ⟨h.owners, h.ids, h.ids_lt⟩
  | turn resolved =>
    obtain ⟨-, -, -, rfl⟩ := resolveTurn_eq_ok_iff.mp resolved
    exact h.playTurn

end Battle

end TankDuel

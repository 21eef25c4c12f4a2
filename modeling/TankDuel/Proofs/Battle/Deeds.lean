import TankDuel.Proofs.Battle.Feedback
import TankDuel.Proofs.Battle.Living
import TankDuel.Proofs.Battle.Priority
import TankDuel.Proofs.Battle.Sight

/-!
# Deeds and what is told of them

In a turn each tank does one deed. This file says what is left of it when the turn is over, whatever
the other tank does in the same turn, and that the tank is told the truth about it
(`Battle.ActsTruly`, `Battle.deeds_told_truly`).

* A tank turns just if that is its deed, and drives only if that is its deed; whether it gets there
  is up to the rules for moves (`Battle.told_of_move`).
* A shot comes to one of four ends (`Battle.ShotEnds`), and just one: the condition that decides it
  says which (`Battle.ShotEnds.eq_shot`). What it leaves behind is seen in three accounts of the
  turn. The bullets of a tank are those that have survived the bullet phase and the one that it has
  launched (`Battle.exists_ownBullets_playTurn`). Behind the bullet phase its opponent loses a hit
  point just if it is shot point-blank (`Battle.suffers_playTurn`). And the events of the turn are
  the explosions of bullets, the pings and the explosions of shots, in this order and nothing else
  (`Battle.logs_playTurn`).

A tank that a bullet has destroyed in this turn does its deed all the same, but it is not told how
that went.
-/

namespace TankDuel

/-- How many cells a tank moves along its facing. -/
def Heading.sign : Heading → Int
  | forward => 1
  | backward => -1

/-- A tank drives along its facing, or against it if it drives backward. -/
theorem Tank.destination_eq (t : Tank) (heading : Heading) :
    t.destination heading =
      ⟨t.position.x + heading.sign * t.facing.dx, t.position.y + heading.sign * t.facing.dy⟩ := by
  obtain ⟨position, facing⟩ := t
  cases heading <;> cases facing <;>
    simp [destination, Coord.step, Coord.offset, Heading.sign, Direction.opposite,
      Direction.ofIndex, Direction.index, Direction.dx, Direction.dy]

/-- A tank does not drive to where it is. -/
theorem Tank.destination_ne (t : Tank) (heading : Heading) :
    t.destination heading ≠ t.position := by
  intro same
  rw [destination_eq] at same
  have x := congrArg Coord.x same
  have y := congrArg Coord.y same
  dsimp only at x y
  cases heading <;> cases facing : t.facing <;>
    simp only [facing, Heading.sign, Direction.dx, Direction.dy] at x y <;> omega

/-- A quarter turn changes the direction. -/
theorem Direction.rotate_ne (d : Direction) (r : Rotation) : d.rotate r ≠ d := by
  cases d <;> cases r <;> decide

namespace Battle

/-! ### The events of a turn -/

/-- The explosions that a shot makes at once. -/
def Shot.blasts (enemy : Side) : Shot → List Event.Kind
  | blocked cell => [.explosion cell none]
  | pointBlank cell => [.explosion cell (some enemy)]
  | reloading | launched _ => []

variable (b : Battle) (side : Side)

/-- The ping of a tank that locates its living opponent. -/
def pings : Option Action → List Event.Kind
  | some (.ping _ _) => ((b.livingAt side.other).map (Event.Kind.ping side)).toList
  | _ => []

/-- The explosions that a deed makes. -/
def blasts : Option Action → List Event.Kind
  | some .fire => (b.shot side).blasts side.other
  | _ => []

/-- An answer logs the ping that it stands for, and nothing else. -/
theorem logs_answer (action : Option Action) :
    Logs (b.pings side action) b (b.answer side action) := by
  cases action with
  | none => exact .of_eq rfl rfl rfl
  | some action =>
    cases action with
    | move | rotate | fire | scan | wait | halt | dead => exact .of_eq rfl rfl rfl
    | ping x y =>
      rw [pings, answer]
      cases b.livingAt side.other with
      | none => exact .of_eq rfl rfl rfl
      | some cell =>
        have logged := logs_emit b (.ping side cell)
        exact ⟨logged.turn, logged.nextEventId, logged.events⟩

/-- Answers move nobody. -/
private theorem livingAt_answer (action : Option Action) (t : Side) :
    (b.answer side action).livingAt t = b.livingAt t := by
  refine livingAt_eq_of_pose ?_
  rw [tank_answer]
  split
  · exact Tank.pose_writeRegisters ..
  · rfl

/-- Both answers log their pings in turn. -/
private theorem logs_answerBoth (actions : Pair (Option Action)) :
    Logs (b.pings .first actions.first ++ b.pings .second actions.second) b
      (b.answerBoth actions) := by
  have early := logs_answer b .first actions.first
  have late := logs_answer (b.answer .first actions.first) .second actions.second
  -- The first answer does not move or hurt a tank, so it does not change the second one.
  have same (action : Option Action) :
      (b.answer .first actions.first).pings .second action = b.pings .second action := by
    unfold pings
    rw [livingAt_answer]
  rw [same] at late
  exact early.trans late

/-- A shot logs the explosions that it makes. -/
private theorem logs_fire : Logs ((b.shot side).blasts side.other) b (b.fire side) := by
  rw [fire_eq]
  cases b.shot side with
  | reloading => exact .of_eq rfl rfl rfl
  | blocked cell =>
    have logged := logs_emit b (.explosion cell none)
    exact ⟨logged.turn, logged.nextEventId, logged.events⟩
  | pointBlank cell => exact logs_strike ..
  | launched cell => exact .of_eq rfl rfl rfl

/-- An action logs the explosions that it makes. -/
private theorem logs_act (action : Option Action) :
    Logs (b.blasts side action) b (b.act side action) := by
  cases action with
  | none => exact .of_eq rfl rfl rfl
  | some action =>
    rw [act_some]
    -- Only a shot logs anything.
    cases action with
    | move | rotate | scan | ping | wait | dead => exact .of_eq rfl rfl rfl
    | halt reason =>
      rw [carryOut]
      split
      · exact .of_eq rfl rfl rfl
      · exact .of_eq rfl rfl rfl
    | fire =>
      -- The shot is made after the action is noted, which changes nothing that a shot depends on.
      have noted : Logs [] b (b.note side .fire) := .of_eq rfl rfl rfl
      have fired := logs_fire (b.note side .fire) side
      rw [shot_note] at fired
      exact noted.trans fired

/-- Both actions log their explosions in turn. -/
private theorem logs_actBoth (actions : Pair (Option Action)) :
    Logs (b.blasts .first actions.first ++ b.blasts .second actions.second) b
      (b.actBoth actions) := by
  have early := logs_act b .first actions.first
  have late := logs_act (b.act .first actions.first) .second actions.second
  have same (action : Option Action) :
      (b.act .first actions.first).blasts .second action = b.blasts .second action := by
    unfold blasts
    rw [show (b.act .first actions.first).shot .second = b.shot .second from shot_act b .first _]
  rw [same] at late
  exact early.trans late

/-- **The events of a turn**: the explosions of bullets, the pings, and the explosions of shots. -/
theorem logs_playTurn {b : Battle} (h : b.Orderly) :
    Logs (b.bullets.filterMap b.blast? ++
        (b.afterBullets.pings .first b.actions.first ++
          b.afterBullets.pings .second b.actions.second) ++
        (b.afterAnswers.blasts .first b.actions.first ++
          b.afterAnswers.blasts .second b.actions.second))
      b.begun b.playTurn := by
  have flown : Logs (b.bullets.filterMap b.blast?) b.begun b.afterBullets :=
    logs_advanceBullets h.begun.owners
  have answered : Logs _ b.afterBullets b.afterAnswers := logs_answerBoth b.afterBullets b.actions
  have acted : Logs _ b.afterAnswers b.afterActions := logs_actBoth b.afterAnswers b.actions
  -- Moves log nothing, and the end of a battle is no event.
  have ended : Logs [] b.afterActions b.playTurn := by
    have concluded (b : Battle) : Logs [] b b.conclude := by
      unfold conclude
      split
      · exact .of_eq rfl rfl rfl
      · exact .of_eq rfl rfl rfl
    have last := concluded b.afterMoves
    exact ⟨last.turn, last.nextEventId, last.events⟩
  have all := ((flown.trans answered).trans acted).trans ended
  rwa [List.append_nil] at all

/-! ### The bullets of a tank -/

/-- The bullets of a tank that are in flight. -/
def ownBullets : List (Bullet Side) := b.bullets.filter fun m => m.owner = side

/-- A tank without a bullet has none of its own in flight. -/
theorem ownBullets_eq_nil (unloaded : b.hasBullet side = false) : b.ownBullets side = [] := by
  rw [ownBullets, List.filter_eq_nil_iff]
  exact List.any_eq_false.mp unloaded

/-- What a tank launches is its own. -/
private theorem filter_launch (id : Nat) (action : Option Action) (t : Side) :
    (b.launch side id action).filter (fun m => m.owner = t) =
      if side = t then b.launch side id action else [] := by
  rcases launch_cases b side id action with nothing | ⟨cell, one, -⟩
  · rw [nothing]
    split <;> rfl
  · rw [one, List.filter_singleton]
    have owner : (Bullet.fired id cell (b.tank side).facing side).owner = side := rfl
    rw [owner]
    by_cases own : side = t <;> simp [own]

/-- **The bullets of a tank after a turn** are those that have survived the bullet phase, and behind
them the one that it has launched, under a new number. -/
theorem exists_ownBullets_playTurn {b : Battle} (h : b.Orderly) (side : Side) :
    ∃ id, b.nextBulletId ≤ id ∧ b.playTurn.ownBullets side =
      b.afterBullets.ownBullets side ++ b.afterAnswers.launch side id (b.actions.get side) := by
  have bullets : b.playTurn.bullets = b.survivors ++ b.launched :=
    congrArg Frame.bullets (frame_playTurn h)
  have survived : b.afterBullets.bullets = b.survivors :=
    congrArg Frame.bullets (frame_afterBullets h)
  have next : b.afterAnswers.nextBulletId = b.nextBulletId :=
    congrArg Frame.nextBulletId (frame_afterAnswers h)
  unfold ownBullets
  rw [bullets, survived, List.filter_append, launched, launches, List.filter_append, filter_launch,
    filter_launch, next]
  cases side with
  | first => exact ⟨_, Nat.le_refl _, congrArg _ (List.append_nil _)⟩
  | second => exact ⟨_, Nat.le_add_right _ _, rfl⟩

/-! ### Shots -/

/-- How a shot ends in the turn from `b` to `b'`: the condition that decides it, and all that it
leaves behind. That are the bullets of the tank, the hit points of its opponent since the bullet
phase, and the explosions `blasts`. -/
inductive ShotEnds (b b' : Battle) (side : Side) (blasts : List Event.Kind) : Shot → Prop
  /-- A bullet of the tank has survived the bullet phase. Nothing else happens. -/
  | reloading :
    b.afterBullets.hasBullet side = true →
    b'.ownBullets side = b.afterBullets.ownBullets side →
    (b'.tank side.other).hp = (b.afterBullets.tank side.other).hp →
    blasts = [] → ShotEnds b b' side blasts .reloading
  /-- The cell ahead is off the grid or a wall. There is one explosion, which hits nobody. -/
  | blocked :
    b.afterBullets.hasBullet side = false →
    ¬b.arena.grid.inBounds (b.cellAhead side 1) ∨ b.arena.grid.isWall (b.cellAhead side 1) →
    b'.ownBullets side = [] →
    (b'.tank side.other).hp = (b.afterBullets.tank side.other).hp →
    blasts = [.explosion (b.cellAhead side 1) none] →
    ShotEnds b b' side blasts (.blocked (b.cellAhead side 1))
  /-- The living opponent stands in the cell ahead. It loses one hit point. -/
  | pointBlank :
    b.afterBullets.hasBullet side = false →
    b.arena.grid.isFloor (b.cellAhead side 1) →
    b.afterBullets.livingAt side.other = some (b.cellAhead side 1) →
    b'.ownBullets side = [] →
    (b'.tank side.other).hp = (b.afterBullets.tank side.other).hp - 1 →
    blasts = [.explosion (b.cellAhead side 1) (some side.other)] →
    ShotEnds b b' side blasts (.pointBlank (b.cellAhead side 1))
  /-- Nothing is in the cell ahead. There is one new bullet. -/
  | launched {id : Nat} :
    b.afterBullets.hasBullet side = false →
    b.arena.grid.isFloor (b.cellAhead side 1) →
    b.afterBullets.livingAt side.other ≠ some (b.cellAhead side 1) →
    b.nextBulletId ≤ id →
    b'.ownBullets side =
      [{ id := id
         position := b.cellAhead side 1
         dx := (b.tank side).facing.dx
         dy := (b.tank side).facing.dy
         owner := side
         distance := 1 }] →
    (b'.tank side.other).hp = (b.afterBullets.tank side.other).hp →
    blasts = [] → ShotEnds b b' side blasts (.launched (b.cellAhead side 1))

section Orderly

variable {b : Battle} (h : b.Orderly)

include h

/-- A tank shoots from where it is at the beginning of the turn, at what the bullet phase has left
there. -/
private theorem shot_afterAnswers :
    b.afterAnswers.shot side =
      if b.afterBullets.hasBullet side then .reloading
      else if !b.arena.grid.isFloor (b.cellAhead side 1) then .blocked (b.cellAhead side 1)
      else if b.afterBullets.livingAt side.other = some (b.cellAhead side 1) then
        .pointBlank (b.cellAhead side 1)
      else .launched (b.cellAhead side 1) := by
  obtain ⟨position, facing⟩ := place_afterAnswers side h
  have ahead : (b.tank side).position.step (b.tank side).facing = b.cellAhead side 1 :=
    (Coord.along_one ..).symm
  have sameBullets : b.afterAnswers.bullets = b.afterBullets.bullets :=
    congrArg Frame.bullets (frame_answerBoth b.afterBullets b.actions)
  have sameArena : b.afterAnswers.arena = b.arena := congrArg Frame.arena (frame_afterAnswers h)
  have sameEnemy : b.afterAnswers.livingAt side.other = b.afterBullets.livingAt side.other := by
    refine livingAt_eq_of_pose ?_
    rw [tank_afterAnswers]
    exact Tank.pose_writeRegisters ..
  rw [shot, position, facing, ahead, hasBullet, sameBullets, sameArena, sameEnemy]
  rfl

/-- The condition decides which end it is. -/
theorem ShotEnds.eq_shot {b' : Battle} {blasts : List Event.Kind} {shot : Shot}
    (ends : b.ShotEnds b' side blasts shot) : shot = b.afterAnswers.shot side := by
  rw [shot_afterAnswers side h]
  cases ends with
  | reloading loaded => rw [if_pos loaded]
  | blocked unloaded off =>
    have noFloor := Grid.not_isFloor_iff.mpr off
    rw [unloaded, if_neg Bool.false_ne_true, if_pos (by simpa using noFloor)]
  | pointBlank unloaded floor there =>
    rw [unloaded, if_neg Bool.false_ne_true, floor, if_neg (by decide), if_pos there]
  | launched unloaded floor apart =>
    rw [unloaded, if_neg Bool.false_ne_true, floor, if_neg (by decide), if_neg apart]

/-- **A shot comes to one of its ends.** -/
theorem shotEnds_playTurn (shoots : b.actions.get side = some .fire) :
    b.ShotEnds b.playTurn side (b.afterAnswers.blasts side (b.actions.get side))
      (b.afterAnswers.shot side) := by
  obtain ⟨id, new, bullets⟩ := exists_ownBullets_playTurn h side
  have facing := (place_afterAnswers side h).2
  have hp := (b.suffers_playTurn (t := side.other)).hp
  rw [Side.other_other, shoots, shootsPointBlank] at hp
  rw [shoots, launch] at bullets
  rw [shoots, Battle.blasts]
  -- The four cases of a shot, in the order in which they are asked for.
  have becomes := shot_afterAnswers side h
  split at becomes
  next loaded =>
    rw [becomes] at bullets hp ⊢
    exact .reloading loaded (bullets.trans (List.append_nil _)) (hp.trans (Int.sub_zero _)) rfl
  next unloaded =>
    have unloaded : b.afterBullets.hasBullet side = false := by simpa using unloaded
    rw [ownBullets_eq_nil _ _ unloaded] at bullets
    split at becomes
    next off =>
      rw [becomes] at bullets hp ⊢
      exact .blocked unloaded (Grid.not_isFloor_iff.mp (by simpa using off)) bullets
        (hp.trans (Int.sub_zero _)) rfl
    next floor =>
      have floor : b.arena.grid.isFloor (b.cellAhead side 1) := by simpa using floor
      split at becomes
      next there =>
        rw [becomes] at bullets hp ⊢
        exact .pointBlank unloaded floor there bullets hp rfl
      next apart =>
        rw [becomes] at bullets hp ⊢
        rw [facing] at bullets
        exact .launched unloaded floor apart new bullets (hp.trans (Int.sub_zero _)) rfl

/-- What is no shot leaves nothing of the kind behind. -/
private theorem quiet_playTurn {action : Action} (acts : b.actions.get side = some action)
    (quiet : action ≠ .fire) :
    b.afterAnswers.blasts side (b.actions.get side) = [] ∧
      b.playTurn.ownBullets side = b.afterBullets.ownBullets side ∧
      (b.playTurn.tank side.other).hp = (b.afterBullets.tank side.other).hp := by
  obtain ⟨id, -, bullets⟩ := exists_ownBullets_playTurn h side
  have hp := (b.suffers_playTurn (t := side.other)).hp
  rw [Side.other_other, acts] at hp
  rw [acts] at bullets ⊢
  cases action with
  | fire => exact absurd rfl quiet
  | move | rotate | scan | ping | wait | halt | dead =>
    exact ⟨rfl, bullets.trans (List.append_nil _), hp.trans (Int.sub_zero _)⟩

/-! ### Moves and turns -/

/-- **A tank drives only if that is its deed**, and then to the next cell. -/
theorem drives_playTurn
    (away : (b.playTurn.tank side).position ≠ (b.tank side).position) :
    ∃ heading, b.actions.get side = some (.move heading) ∧
      (b.playTurn.tank side).position = (b.tank side).destination heading := by
  rw [position_playTurn side h] at away ⊢
  rcases landed_cases b.arena.grid (b.tanks.map Tank.position) b.intents side with stays | moves
  · exact absurd (stays.trans (Pair.get_map ..)) away
  · obtain ⟨intent, -⟩ := resolveMoves_eq_moved_iff.mp moves
    obtain ⟨heading, drives, there⟩ := (get_intents_eq_some_iff side h).mp intent
    exact ⟨heading, drives, there.symm⟩

/-- **A tank is told whether it has moved**, and if not, why. -/
theorem told_of_move {heading : Heading} (drives : b.actions.get side = some (.move heading))
    (alive : (b.playTurn.tank side).isAlive) :
    ((b.playTurn.tank side).lastFeedback = .ok ↔
        (b.playTurn.tank side).position ≠ (b.tank side).position) ∧
      ((b.playTurn.tank side).lastFeedback ≠ .ok →
        (b.playTurn.tank side).lastFeedback ∈ [.wall, .collision, .blocked]) := by
  have intent := (get_intents_eq_some_iff side h).mpr ⟨heading, drives, rfl⟩
  obtain ⟨outcome, verdict⟩ := exists_moveVerdict b.arena.grid (b.tanks.map Tank.position)
    b.intents side ((b.tank side).destination heading)
  have judged := verdict.get_resolveMoves intent
  have stays : (b.tanks.map Tank.position).get side = (b.tank side).position := Pair.get_map ..
  rw [lastFeedback_playTurn side h drives, if_pos alive, position_playTurn side h, landed, refusal?,
    judged, stays]
  cases verdict with
  | intoWall | collided | blocked => simp [MoveOutcome.refusal?]
  | moved =>
    have away := (b.tank side).destination_ne heading
    simpa [MoveOutcome.refusal?, told] using away

/-- **A tank turns just if that is its deed.** -/
theorem facing_playTurn :
    (b.playTurn.tank side).facing = ((b.tank side).enact (b.actions.get side)).facing :=
  (congrArg Tank.facing (bare_playTurn side h) :)

end Orderly

/-! ### The truth about deeds -/

/-- What a tank does in the turn from `b` to `b'` is what its action says, and it is told how that
went; `blasts` are the explosions that it makes. -/
structure ActsTruly (b b' : Battle) (side : Side) (blasts : List Event.Kind) (action : Action) :
    Prop where
  /-- Its facing changes just if it rotates, ... -/
  turns : (b'.tank side).facing ≠ (b.tank side).facing ↔ ∃ rotation, action = .rotate rotation
  /-- ... and then by a quarter turn to the side that it says. -/
  rotates : ∀ rotation, action = .rotate rotation →
    (b'.tank side).facing = (b.tank side).facing.rotate rotation
  /-- Its place changes only if it moves, and then by one cell along its facing or against it. -/
  drives : (b'.tank side).position ≠ (b.tank side).position →
    ∃ heading, action = .move heading ∧ (b'.tank side).position =
      ⟨(b.tank side).position.x + heading.sign * (b.tank side).facing.dx,
        (b.tank side).position.y + heading.sign * (b.tank side).facing.dy⟩
  /-- A tank that moves is told whether it has moved, or else why not. -/
  moves : ∀ heading, action = .move heading → (b'.tank side).isAlive →
    ((b'.tank side).lastFeedback = .ok ↔ (b'.tank side).position ≠ (b.tank side).position) ∧
      ((b'.tank side).lastFeedback ≠ .ok →
        (b'.tank side).lastFeedback ∈ [.wall, .collision, .blocked])
  /-- The shot of a tank that fires comes to exactly one end, and that is what it is told. -/
  fires : action = .fire → ∃! shot, ShotEnds b b' side blasts shot ∧
    ((b'.tank side).isAlive → (b'.tank side).lastFeedback = shot.feedback)
  /-- A tank that does not fire makes no explosion, launches no bullet and hurts nobody. -/
  quiet : action ≠ .fire → blasts = [] ∧ b'.ownBullets side = b.afterBullets.ownBullets side ∧
    (b'.tank side.other).hp = (b.afterBullets.tank side.other).hp
  /-- A tank that is destroyed is told that it is. -/
  destroyed : (b'.tank side).isAlive = false → (b'.tank side).lastFeedback = .destroyed

/-- **A turn does to a tank what its action says**, and tells it so. -/
theorem Orderly.actsTruly {b : Battle} (h : b.Orderly) {action : Action}
    (acts : b.actions.get side = some action) :
    ActsTruly b b.playTurn side (b.afterAnswers.blasts side (b.actions.get side)) action where
  turns := by
    rw [facing_playTurn side h, acts]
    constructor
    · intro turned
      cases action with
      | rotate rotation => exact ⟨rotation, rfl⟩
      | move | fire | scan | ping | wait | halt | dead => exact absurd rfl turned
    · rintro ⟨rotation, rfl⟩
      exact Direction.rotate_ne _ rotation
  rotates := by
    rintro rotation rfl
    rw [facing_playTurn side h, acts]
    rfl
  drives := by
    intro away
    -- A tank that is elsewhere after the turn has asked for a move.
    obtain ⟨heading, moves, there⟩ := drives_playTurn side h away
    rw [Tank.destination_eq] at there
    exact ⟨heading, Option.some.inj (acts.symm.trans moves), there⟩
  moves := by
    rintro heading rfl alive
    exact told_of_move side h acts alive
  fires := by
    rintro rfl
    refine ⟨b.afterAnswers.shot side, ⟨shotEnds_playTurn side h acts, fun alive => ?_⟩,
      fun shot ends => ends.1.eq_shot side h⟩
    -- A tank that fires does not want to drive anywhere, so nothing writes over what it is told.
    have stays : b.intents.get side = none := by
      rw [intents, Pair.get_ofFn, acts]
      rfl
    rw [lastFeedback_playTurn side h acts, if_pos alive, refusal?, get_resolveMoves, stays]
    rfl
  quiet := quiet_playTurn side h acts
  destroyed := by
    intro dead
    rw [lastFeedback_playTurn side h acts, dead, if_neg Bool.false_ne_true]

/-- **The truth is told about deeds.** Under valid settings, whatever the programs are and whatever
has been asked of the battle: when a turn is resolved, both tanks have an action, and what each of
them does in the turn is what its action says and what it is told. The explosions of bullets, the
pings and the explosions of these two deeds are all that the turn logs. -/
theorem deeds_told_truly (config : Config) (valid : config.check = .ok config)
    (past : List Request) (b' : Battle) :
    let b := (new config).after past
    b.resolveTurn = .ok b' → ∃ blasts : Pair (List Event.Kind),
      Logs (b.bullets.filterMap b.blast? ++
          (b.afterBullets.pings .first b.actions.first ++
            b.afterBullets.pings .second b.actions.second) ++
          (blasts.first ++ blasts.second)) b.begun b' ∧
      ∀ side, ∃ action, (b.tank side).pending? = some action ∧
        ActsTruly b b' side (blasts.get side) action := by
  intro b resolved
  have vital := vital_after config past
  have orderly : b.Orderly := vital.orderly
  -- The settings are checked, so no tank starts without hit points.
  have positive : 0 < b.config.maxHp.toInt := by
    rw [config_after config past]
    exact (Config.check_eq_ok_iff.mp valid).2.1
  have acting := vital.exists_action positive resolved
  obtain ⟨-, -, -, rfl⟩ := resolveTurn_eq_ok_iff.mp resolved
  refine ⟨Pair.ofFn fun side => b.afterAnswers.blasts side (b.actions.get side),
    logs_playTurn orderly, fun side => ?_⟩
  obtain ⟨alive, action, acts, -⟩ := acting side
  refine ⟨action, (b.get_actions side alive).symm.trans acts, ?_⟩
  rw [Pair.get_ofFn]
  exact orderly.actsTruly side acts

/-- The second turn of a duel of tanks with one hit point each. The bullet that the first tank has
fired in the first turn destroys the second one, which turns to the left all the same; and the first
tank fires again, since its bullet is gone. -/
theorem deeds_told_truly_destroyed :
    let config : Config := { maxHp := 1 }
    let arena : Arena :=
      { grid := Grid.square 4
        spawns := ⟨⟨⟨0, 0⟩, .east⟩, ⟨⟨3, 0⟩, .west⟩⟩
        onFloor := by rintro (_ | _) <;> decide
        apart := by decide }
    let gunner : Program := ⟨[⟨.fire, [], 1⟩, ⟨.fire, [], 2⟩], .empty⟩
    let turner : Program := ⟨[⟨.wait, [], 1⟩, ⟨.rotate, [.rotation .left], 2⟩], .empty⟩
    let past : List Request :=
      [.setArena arena, .install ⟨gunner, turner⟩, .run 1, .run 2, .resolve, .run 1, .run 2]
    let b := (new config).after past
    config.check = .ok config ∧ b.resolveTurn = .ok b.playTurn ∧
      (b.tank .second).facing = .west ∧ (b.playTurn.tank .second).facing = .south ∧
      (b.playTurn.tank .second).isAlive = false ∧
      (b.playTurn.tank .second).lastFeedback = .destroyed ∧
      ∃ blasts, ∃! shot, ShotEnds b b.playTurn .first blasts shot ∧
        ((b.playTurn.tank .first).isAlive →
          (b.playTurn.tank .first).lastFeedback = shot.feedback) := by
  intro config arena gunner turner past b
  have valid : config.check = .ok config := by decide +kernel
  have resolved : b.resolveTurn = .ok b.playTurn :=
    resolveTurn_eq_ok_iff.mpr
      ⟨by decide +kernel, by decide +kernel, by rintro (_ | _) <;> decide +kernel, rfl⟩
  have fires : (b.tank .first).pending? = some .fire := by decide +kernel
  have rotates : (b.tank .second).pending? = some (.rotate .left) := by decide +kernel
  have west : (b.tank .second).facing = .west := by decide +kernel
  have dead : (b.playTurn.tank .second).isAlive = false := by decide +kernel
  -- The second tank is struck after it has turned. It is told that it is destroyed, and not how it
  -- turned.
  obtain ⟨blasts, -, truly⟩ := deeds_told_truly config valid past _ resolved
  obtain ⟨action, pending, gunnerActs⟩ := truly .first
  obtain rfl := Option.some.inj (fires.symm.trans pending)
  obtain ⟨action, pending, turnerActs⟩ := truly .second
  obtain rfl := Option.some.inj (rotates.symm.trans pending)
  have turned := turnerActs.rotates .left rfl
  have south : (b.playTurn.tank .second).facing = .south := by
    rw [turned]
    exact congrArg (Direction.rotate · .left) west
  exact ⟨valid, resolved, west, south, dead, turnerActs.destroyed dead, _, gunnerActs.fires rfl⟩

end Battle

end TankDuel

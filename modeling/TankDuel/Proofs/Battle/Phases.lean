import Mathlib.Data.List.Basic
import Mathlib.Tactic.SplitIfs
import TankDuel.Battle.Turn
import TankDuel.Proofs.Arena.Ray
import TankDuel.Proofs.Battle.Flight
import TankDuel.Proofs.Battle.Moves

/-!
# What the phases of a turn do

The phases of a turn handle one tank after the other and one bullet after the other, and write logs
on the way. This file says what each phase comes to, side by side and without the logs, so that
nothing below has to unfold the phases again.

Three views of a battle carry the statements:

* `Battle.frame` — everything but tanks and logs. Only bullets change in it while the phases go on;
  the start of a turn counts the turn on and its end may set the outcome.
* `Tank.pose` — place, facing and hit points. All that a phase reads of a tank is its pose.
* `Tank.bare` — a tank without the feedback to its last action. Nothing reads the feedback, and it
  is the one thing about a tank that depends on who is handled first.

The main statements are

* `bare_advanceBullets` and `frame_advanceBullets` — a tank is hit iff a bullet of its opponent
  strikes it where it stood before the phase (`Battle.isHit`), and the bullets that stay in the air
  are those that would do so alone;
* `tank_answerBoth` — each tank gets the answer to its own question, as things stand before either
  is answered (`Battle.reading`);
* `bare_actBoth` and `frame_actBoth` — each tank does its own deed and is hit iff the opponent
  shoots point-blank (`Battle.shootsPointBlank`); bullets are launched behind those in flight
  (`Battle.launch`);
* `bare_moveTanks` — the moves change places only.

The bullet phase needs that no tank has two bullets in flight. That is what makes the flights
independent: a bullet strikes only its owner's opponent, so with one bullet for each owner no flight
changes what another one can strike.
-/

namespace TankDuel

/-! ### The three views -/

/-- A battle without its tanks and logs. -/
structure Frame where
  config : Config
  arena : Arena
  programs : Option (Pair Program)
  turn : Nat
  outcome : Option (Outcome Side)
  bullets : List (Bullet Side)
  nextBulletId : Nat

/-- What is left of a battle without its tanks and logs. -/
def Battle.frame (b : Battle) : Frame where
  config := b.config
  arena := b.arena
  programs := b.programs
  turn := b.turn
  outcome := b.outcome
  bullets := b.bullets
  nextBulletId := b.nextBulletId

/-- Some more bullets are in flight. -/
def Frame.add (f : Frame) (bullets : List (Bullet Side)) : Frame :=
  { f with
    bullets := f.bullets ++ bullets
    nextBulletId := f.nextBulletId + bullets.length }

/-- Adding no bullets changes nothing. -/
@[simp] theorem Frame.add_nil (f : Frame) : f.add [] = f := by simp [add]

/-- Bullets can be added in two goes. -/
theorem Frame.add_add (f : Frame) (bullets more : List (Bullet Side)) :
    (f.add bullets).add more = f.add (bullets ++ more) := by
  simp [add, Nat.add_assoc]

/-- Where a tank stands and faces, and its hit points. -/
structure Pose where
  position : Coord
  facing : Direction
  hp : Int

namespace Tank

/-- The pose of a tank. -/
def pose (t : Tank) : Pose := ⟨t.position, t.facing, t.hp⟩

/-- A tank without the feedback to its last action. -/
def bare (t : Tank) : Tank := { t with lastFeedback := .ok }

/-- A tank that loses a hit point, if it is hit and has one. -/
def hurt (t : Tank) (hit : Bool) : Tank := { t with hp := if hit then max (t.hp - 1) 0 else t.hp }

/-- A tank that has noted what it does, and has turned if that is what it does. -/
def enact (t : Tank) (action : Option Action) : Tank :=
  { t with
    lastAction := (action.map Action.deed).getD .idle
    facing :=
      match action with
      | some (.rotate rotation) => t.facing.rotate rotation
      | _ => t.facing }

/-- The pose does not depend on the feedback. -/
@[simp] theorem pose_bare (t : Tank) : t.bare.pose = t.pose := rfl

/-- A tank that is not hit stays as it is. -/
@[simp] theorem hurt_false (t : Tank) : t.hurt false = t := rfl

/-- Tanks that differ in their feedback only have one pose. -/
theorem pose_eq_of_bare {t u : Tank} (h : t.bare = u.bare) : t.pose = u.pose := by
  rw [← pose_bare t, h, pose_bare]

/-- Damage takes a hit point; whether that destroys the tank shows in the feedback only. -/
private theorem bare_damage (t : Tank) : t.damage.2.bare = t.bare.hurt true := by
  unfold damage
  dsimp only
  split <;> rfl

/-- Writing registers does not move a tank. -/
@[simp] theorem pose_writeRegisters (t : Tank) (values : List (Register × Int)) :
    (t.writeRegisters values).pose = t.pose := rfl

/-- Writing registers does not touch the feedback. -/
theorem bare_writeRegisters (t : Tank) (values : List (Register × Int)) :
    (t.writeRegisters values).bare = t.bare.writeRegisters values := rfl

/-- Writing no registers changes nothing. -/
@[simp] theorem writeRegisters_nil (t : Tank) : t.writeRegisters [] = t := by
  obtain ⟨_, _, _, _, _, _, cpu⟩ := t
  cases cpu <;> rfl

end Tank

namespace Battle

variable (b : Battle) (side : Side)

/-! ### Logs, feedback and hits -/

/-- Logging an event leaves the tanks alone. -/
@[simp] theorem tank_emit (kind : Event.Kind) : (b.emit kind).tank side = b.tank side := rfl

/-- Logging an event changes the log only. -/
@[simp] theorem frame_emit (kind : Event.Kind) : (b.emit kind).frame = b.frame := rfl

/-- Reporting leaves the tanks alone. -/
@[simp] theorem tank_report (r : Report) : (b.report r).tank side = b.tank side := rfl

/-- The tanks after one of them has been changed. -/
theorem tank_modifyTank (f : Tank → Tank) (t : Side) :
    (b.modifyTank side f).tank t = if t = side then f (b.tank t) else b.tank t :=
  Pair.get_modify _ _ _ _

/-- Changing a tank changes nothing else. -/
@[simp] theorem frame_modifyTank (f : Tank → Tank) : (b.modifyTank side f).frame = b.frame := rfl

/-- A tank has the feedback that it is told. -/
@[simp] theorem lastFeedback_tell (feedback : Feedback) :
    ((b.tell side feedback).tank side).lastFeedback = feedback := by
  rw [tell, tank_modifyTank, if_pos rfl]

/-- Telling a tank something changes its feedback only. -/
@[simp] theorem bare_tell (feedback : Feedback) (t : Side) :
    ((b.tell side feedback).tank t).bare = (b.tank t).bare := by
  rw [tell, tank_modifyTank]
  split <;> rfl

/-- Whether a hit destroys the tank only decides about one more message. -/
theorem tank_strike (cell : Coord) (t : Side) :
    (b.strike side cell).tank t =
      if t = side.other then (b.tank side.other).damage.2 else b.tank t := by
  unfold strike
  dsimp only
  split <;> exact Pair.get_set _ _ _ _

/-- A strike hurts the opponent of the shooter. -/
theorem bare_strike (cell : Coord) (t : Side) :
    ((b.strike side cell).tank t).bare = (b.tank t).bare.hurt (t = side.other) := by
  rw [tank_strike]
  split
  next same => rw [Tank.bare_damage, decide_eq_true same, same]
  next differs => rw [decide_eq_false differs, Tank.hurt_false]

/-- A strike changes tanks and logs only. -/
@[simp] theorem frame_strike (cell : Coord) : (b.strike side cell).frame = b.frame := by
  unfold strike
  dsimp only
  split <;> rfl

/-! ### The bullet phase -/

/-- Where a tank stands, and whether it is alive, is told by its cell and its hit points. -/
theorem livingAt_congr {b b' : Battle} {s s' : Side}
    (position : (b'.tank s').position = (b.tank s).position)
    (hp : (b'.tank s').hp = (b.tank s).hp) : b'.livingAt s' = b.livingAt s := by
  unfold livingAt Tank.isAlive
  rw [position, hp]

/-- Where a living tank stands is told by its pose. -/
theorem livingAt_eq_of_pose {b b' : Battle} {s s' : Side}
    (pose : (b'.tank s').pose = (b.tank s).pose) : b'.livingAt s' = b.livingAt s :=
  livingAt_congr (congrArg Pose.position pose) (congrArg Pose.hp pose)

/-- How a bullet flies if it is the only one. -/
def fate (m : Bullet Side) : Flight Side :=
  m.flight b.arena.grid b.config.bulletRange.toInt b.config.bulletSpeed.toNat
    (b.livingAt m.owner.other)

/-- Whether a bullet of the opponent strikes a tank. -/
def isHit : Bool := b.bullets.any fun m => m.owner = side.other && (b.fate m).strikes

variable {b}

/-- How a bullet flies depends on the frame and on the pose of its enemy. -/
private theorem fate_congr {b' : Battle} {m : Bullet Side} (frame : b'.frame = b.frame)
    (pose : (b'.tank m.owner.other).pose = (b.tank m.owner.other).pose) :
    b'.fate m = b.fate m := by
  have sameArena : b'.arena = b.arena := congrArg Frame.arena frame
  have sameConfig : b'.config = b.config := congrArg Frame.config frame
  rw [fate, fate, sameArena, sameConfig, livingAt_eq_of_pose pose]

variable (b)

/-- What is left of a bullet is what survives of it. -/
theorem flyBullet_fst (m : Bullet Side) : (b.flyBullet m).1 = (b.fate m).survivor? := by
  unfold flyBullet
  dsimp only
  rw [← fate]
  cases b.fate m <;> rfl

/-- What a bullet does to the battle is told by how it flies. -/
theorem flyBullet_snd (m : Bullet Side) :
    (b.flyBullet m).2 =
      match b.fate m with
      | .aloft _ | .spent => b
      | .crashed wall => b.emit (.explosion wall none)
      | .struck cell => b.strike m.owner cell := by
  unfold flyBullet
  dsimp only
  rw [← fate]
  cases b.fate m <;> rfl

/-- A bullet that flies changes tanks and logs only. -/
@[simp] theorem frame_flyBullet (m : Bullet Side) : (b.flyBullet m).2.frame = b.frame := by
  rw [flyBullet_snd]
  cases b.fate m with
  | aloft | spent => rfl
  | crashed => exact frame_emit ..
  | struck => exact frame_strike ..

/-- A bullet hurts the opponent of its owner if it strikes. -/
private theorem bare_flyBullet (m : Bullet Side) (t : Side) :
    ((b.flyBullet m).2.tank t).bare =
      (b.tank t).bare.hurt (m.owner = t.other && (b.fate m).strikes) := by
  rw [flyBullet_snd]
  cases b.fate m with
  | aloft | spent | crashed => simp [Flight.strikes]
  | struck cell => simp [Flight.strikes, bare_strike, Side.other_eq_iff, eq_comm (a := t)]

/-- A bullet does not change what the bullets of the other owner can strike. -/
theorem fate_flyBullet {m n : Bullet Side} (apart : m.owner ≠ n.owner) :
    (b.flyBullet m).2.fate n = b.fate n := by
  refine fate_congr (b.frame_flyBullet m) (Tank.pose_eq_of_bare ?_)
  -- The enemy of `n` is the owner of `m`, and a bullet does not strike its owner.
  rw [bare_flyBullet, Side.other_other]
  simp [apart]

/-- Bullets fly one after another. -/
theorem flyBullets_cons (m : Bullet Side) (ms : List (Bullet Side)) :
    b.flyBullets (m :: ms) =
      ((b.flyBullet m).1.toList ++ ((b.flyBullet m).2.flyBullets ms).1,
        ((b.flyBullet m).2.flyBullets ms).2) := rfl

/-- Bullets that fly change tanks and logs only. -/
@[simp] theorem frame_flyBullets (ms : List (Bullet Side)) :
    (b.flyBullets ms).2.frame = b.frame := by
  induction ms generalizing b with
  | nil => rfl
  | cons m ms ih => rw [flyBullets_cons, ih, frame_flyBullet]

/-- Of bullets with different owners those are left that survive, as if each flew alone. -/
private theorem flyBullets_fst {ms : List (Bullet Side)}
    (apart : ms.Pairwise fun m n => m.owner ≠ n.owner) :
    (b.flyBullets ms).1 = ms.filterMap fun m => (b.fate m).survivor? := by
  induction ms generalizing b with
  | nil => rfl
  | cons m ms ih =>
    obtain ⟨head, tail⟩ := List.pairwise_cons.mp apart
    have rest : ms.filterMap (fun n => ((b.flyBullet m).2.fate n).survivor?) =
        ms.filterMap fun n => (b.fate n).survivor? :=
      List.filterMap_congr fun n hn => by rw [fate_flyBullet b (head n hn)]
    rw [flyBullets_cons, ih _ tail, rest, flyBullet_fst, List.filterMap_cons]
    cases (b.fate m).survivor? <;> rfl

/-- A tank is hurt if any bullet of its opponent strikes. -/
private theorem bare_flyBullets {ms : List (Bullet Side)}
    (apart : ms.Pairwise fun m n => m.owner ≠ n.owner) (t : Side) :
    ((b.flyBullets ms).2.tank t).bare =
      (b.tank t).bare.hurt (ms.any fun m => m.owner = t.other && (b.fate m).strikes) := by
  induction ms generalizing b with
  | nil => rfl
  | cons m ms ih =>
    obtain ⟨head, tail⟩ := List.pairwise_cons.mp apart
    -- The first bullet does not change how those of the other owner fly.
    have rest : (ms.any fun n => n.owner = t.other && ((b.flyBullet m).2.fate n).strikes) =
        ms.any fun n => n.owner = t.other && (b.fate n).strikes := by
      rw [Bool.eq_iff_iff, List.any_eq_true, List.any_eq_true]
      refine exists_congr fun n => and_congr_right fun hn => ?_
      rw [fate_flyBullet b (head n hn)]
    rw [flyBullets_cons, ih _ tail, rest, List.any_cons, bare_flyBullet]
    by_cases own : m.owner = t.other
    · -- This is the one bullet that can strike the tank, so the others count for nothing.
      have spared : (ms.any fun n => n.owner = t.other && (b.fate n).strikes) = false := by
        rw [List.any_eq_false]
        intro n hn
        have differs : n.owner ≠ t.other := own ▸ (head n hn).symm
        simp [differs]
      rw [spared, Bool.or_false, Tank.hurt_false]
    · -- The bullet is the tank's own and leaves it as it is.
      rw [decide_eq_false own, Bool.false_and, Bool.false_or, Tank.hurt_false]

/-- **The bullet phase, bullets.** Those that stay in the air are those that would alone. -/
theorem frame_advanceBullets (apart : b.bullets.Pairwise fun m n => m.owner ≠ n.owner) :
    b.advanceBullets.frame =
      { b.frame with bullets := b.bullets.filterMap fun m => (b.fate m).survivor? } := by
  rw [← flyBullets_fst b apart, ← frame_flyBullets b b.bullets]
  rfl

/-- **The bullet phase, tanks.** A tank is hit iff a bullet of its opponent strikes it where it
stood before the phase. -/
theorem bare_advanceBullets (apart : b.bullets.Pairwise fun m n => m.owner ≠ n.owner) :
    (b.advanceBullets.tank side).bare = (b.tank side).bare.hurt (b.isHit side) :=
  bare_flyBullets b apart side

/-! ### The sensor phase -/

/-- What a tank is told, and the registers that it goes to. -/
def reading : Option Action → List (Register × Int)
  | some (.scan distance kind) =>
    [(distance, (b.view side).distance), (kind, (b.view side).hit.code)]
  | some (.ping x y) =>
    match b.livingAt side.other with
    | some cell => [(x, cell.x), (y, cell.y)]
    | none => [(x, -1), (y, -1)]
  | _ => []

/-- The battle after both actions have been answered. -/
def answerBoth (actions : Pair (Option Action)) : Battle :=
  (b.answer .first actions.first).answer .second actions.second

/-- An answer is written to the registers of the machine that has asked. -/
theorem tank_answer (action : Option Action) (t : Side) :
    (b.answer side action).tank t =
      if t = side then (b.tank t).writeRegisters (b.reading side action) else b.tank t := by
  -- Answers differ in what is written only; the ping that is logged does not show in a tank.
  have written (values : List (Register × Int)) :
      (b.modifyTank side (·.writeRegisters values)).tank t =
        if t = side then (b.tank t).writeRegisters values else b.tank t :=
    tank_modifyTank b side _ t
  have silent : b.tank t = if t = side then (b.tank t).writeRegisters [] else b.tank t := by simp
  cases action with
  | none => exact silent
  | some action =>
    cases action with
    | scan distance kind => exact written _
    | ping x y =>
      simp only [answer, reading]
      cases b.livingAt side.other with
      | none => exact written _
      | some cell => exact written _
    | move | rotate | fire | wait | halt | dead => exact silent

/-- An answer changes a tank and the log only. -/
@[simp] theorem frame_answer (action : Option Action) :
    (b.answer side action).frame = b.frame := by
  unfold answer
  split
  next => exact frame_modifyTank ..
  next =>
    split
    next => rw [frame_emit, frame_modifyTank]
    next => exact frame_modifyTank ..
  next => rfl

/-- What a tank is told of a cell on its ray. It can be told of no tank but its opponent. -/
private theorem code_obstacle? (c : Coord) :
    (b.arena.grid.obstacle? side b.occupants c).map RayHit.code =
      if !b.arena.grid.inBounds c then some 0
      else if b.arena.grid.isWall c then some 1
      else if b.livingAt side.other = some c then some 2
      else none := by
  have found : ((b.occupants.find? fun o => o.1 ≠ side && o.2 = c).map fun o =>
      (RayHit.tank o.1).code) = if b.livingAt side.other = some c then some 2 else none := by
    unfold occupants Side.all
    cases side <;> cases first : b.livingAt .first <;> cases second : b.livingAt .second <;>
      simp [-List.find?_filterMap, first, second, Side.other, RayHit.code, List.find?_cons]
    -- What is left are the cases with a living opponent, who may stand elsewhere.
    all_goals split <;> simp_all
  unfold Grid.obstacle?
  split
  · rfl
  split
  · rfl
  rw [Option.map_map]
  exact found

variable {b}

/-- What a tank is told depends on where it stands and faces, and on where the opponent stands, if
it is alive. -/
theorem reading_congr {b' : Battle} {s s' : Side} (grid : b'.arena.grid = b.arena.grid)
    (position : (b'.tank s').position = (b.tank s).position)
    (facing : (b'.tank s').facing = (b.tank s).facing)
    (enemy : b'.livingAt s'.other = b.livingAt s.other) (action : Option Action) :
    b'.reading s' action = b.reading s action := by
  have sameView : (b'.view s').told = (b.view s).told := by
    unfold view
    dsimp only
    rw [grid, position, facing]
    refine Grid.castRay_congr (fun c => ?_) _ _ _
    have seen := b'.code_obstacle? s' c
    rw [grid, enemy] at seen
    rw [seen, code_obstacle?]
  have distance : (b'.view s').distance = (b.view s).distance := congrArg Prod.fst sameView
  have code : (b'.view s').hit.code = (b.view s).hit.code := congrArg Prod.snd sameView
  unfold reading
  rw [distance, code, enemy]

variable (b)

/-- **The sensor phase.** Each tank gets the answer to its own question, as things stand before
either is answered. -/
theorem tank_answerBoth (actions : Pair (Option Action)) :
    (b.answerBoth actions).tank side =
      (b.tank side).writeRegisters (b.reading side (actions.get side)) := by
  have sameArena : (b.answer .first actions.first).arena = b.arena :=
    congrArg Frame.arena (frame_answer ..)
  have samePose (s : Side) : ((b.answer .first actions.first).tank s).pose = (b.tank s).pose := by
    rw [tank_answer]
    split
    · exact Tank.pose_writeRegisters ..
    · rfl
  -- The first answer writes registers, and no answer depends on those.
  have sameReading (s : Side) (action : Option Action) :
      (b.answer .first actions.first).reading s action = b.reading s action :=
    reading_congr (congrArg Arena.grid sameArena) (congrArg Pose.position (samePose s))
      (congrArg Pose.facing (samePose s)) (livingAt_eq_of_pose (samePose s.other)) action
  rw [answerBoth, tank_answer, tank_answer, sameReading]
  cases side <;> rfl

/-- The answers change tanks and the log only. -/
@[simp] theorem frame_answerBoth (actions : Pair (Option Action)) :
    (b.answerBoth actions).frame = b.frame := by
  rw [answerBoth, frame_answer, frame_answer]

/-! ### The action phase -/

/-- What becomes of a shot. -/
inductive Shot where
  /-- The tank still has a bullet in flight. -/
  | reloading
  | blocked (cell : Coord)
  /-- The living opponent stands in the cell ahead. -/
  | pointBlank (cell : Coord)
  | launched (cell : Coord)

/-- What becomes of a shot that a tank fires. -/
def shot : Shot :=
  let ahead := (b.tank side).position.step (b.tank side).facing
  if b.hasBullet side then .reloading
  else if !b.arena.grid.isFloor ahead then .blocked ahead
  else if b.livingAt side.other = some ahead then .pointBlank ahead
  else .launched ahead

/-- The bullet that a tank launches, if it launches one; it gets the number `id`. -/
def launch (id : Nat) : Option Action → List (Bullet Side)
  | some .fire =>
    match b.shot side with
    | .launched cell => [Bullet.fired id cell (b.tank side).facing side]
    | _ => []
  | _ => []

/-- Whether a tank hits its opponent in the cell ahead. -/
def shootsPointBlank : Option Action → Bool
  | some .fire =>
    match b.shot side with
    | .pointBlank _ => true
    | _ => false
  | _ => false

/-- What a shot does to the battle is told by what it comes to. -/
theorem fire_eq :
    b.fire side =
      match b.shot side with
      | .reloading => b.tell side .reloading
      | .blocked cell => (b.emit (.explosion cell none)).tell side .blocked
      | .pointBlank cell => b.strike side cell
      | .launched cell =>
        { b with
          nextBulletId := b.nextBulletId + 1
          bullets := b.bullets ++
            [Bullet.fired b.nextBulletId cell (b.tank side).facing side] } := by
  unfold fire shot
  dsimp only
  split
  · rfl
  split
  · rfl
  split <;> rfl

variable {b}

/-- What becomes of a shot depends on where the tank stands and faces, on whether it has a bullet
in flight, and on where the opponent stands, if it is alive. -/
theorem shot_congr {b' : Battle} {s s' : Side} (grid : b'.arena.grid = b.arena.grid)
    (bullet : b'.hasBullet s' = b.hasBullet s)
    (position : (b'.tank s').position = (b.tank s).position)
    (facing : (b'.tank s').facing = (b.tank s).facing)
    (enemy : b'.livingAt s'.other = b.livingAt s.other) : b'.shot s' = b.shot s := by
  unfold shot
  rw [grid, bullet, position, facing, enemy]

variable (b)

/-- A shot hurts the opponent if it is at point-blank range. -/
private theorem bare_fire (t : Side) :
    ((b.fire side).tank t).bare =
      (b.tank t).bare.hurt (t = side.other && b.shootsPointBlank side (some .fire)) := by
  rw [fire_eq, shootsPointBlank]
  cases b.shot side with
  | reloading => simp
  | blocked cell => simp
  | pointBlank cell => simp [bare_strike]
  | launched cell =>
    rw [Bool.and_false]
    rfl

/-- A shot adds what it launches to the bullets. -/
theorem frame_fire :
    (b.fire side).frame = b.frame.add (b.launch side b.nextBulletId (some .fire)) := by
  rw [fire_eq, launch]
  cases b.shot side with
  | reloading => exact b.frame.add_nil.symm
  | blocked cell => exact b.frame.add_nil.symm
  | pointBlank cell => exact (frame_strike ..).trans b.frame.add_nil.symm
  | launched cell => rfl

/-- A tank notes its deed before it does it. -/
def note (action : Action) : Battle :=
  b.modifyTank side fun tank => { tank with lastAction := action.deed, lastFeedback := .ok }

/-- An action is noted first and then carried out. -/
theorem act_some (action : Action) :
    b.act side (some action) =
      (b.note side action).carryOut side ((b.tank side).lastAction == .halt) action := rfl

/-- Noting an action changes the last action of the tank, and its feedback. -/
private theorem bare_note (action : Action) (t : Side) :
    ((b.note side action).tank t).bare =
      if t = side then { (b.tank t).bare with lastAction := action.deed } else (b.tank t).bare := by
  rw [note, tank_modifyTank]
  split <;> rfl

/-- Noting an action moves nobody. -/
theorem pose_note (action : Action) (t : Side) :
    ((b.note side action).tank t).pose = (b.tank t).pose := by
  rw [note, tank_modifyTank]
  split <;> rfl

/-- What a shot comes to does not depend on what is noted. -/
theorem shot_note (action : Action) : (b.note side action).shot side = b.shot side := by
  have pose := pose_note b side action
  exact shot_congr rfl rfl (congrArg Pose.position (pose side))
    (congrArg Pose.facing (pose side)) (livingAt_eq_of_pose (pose side.other))

/-- **A deed, tanks.** A tank does its own deed and hits nobody but its opponent. -/
theorem bare_act (action : Option Action) (t : Side) :
    ((b.act side action).tank t).bare =
      if t = side then (b.tank t).bare.enact action
      else (b.tank t).bare.hurt (b.shootsPointBlank side action) := by
  cases action with
  | none =>
    rw [act, tank_modifyTank]
    split <;> rfl
  | some action =>
    rw [act_some]
    have noted := bare_note b side action t
    cases action with
    | move | scan | ping =>
      rw [carryOut, noted]
      split <;> rfl
    | rotate rotation =>
      rw [carryOut, tank_modifyTank]
      split
      next same =>
        rw [if_pos same] at noted
        have turned :=
          congrArg (fun u : Tank => { u with facing := u.facing.rotate rotation }) noted
        exact turned
      next differs =>
        rw [if_neg differs] at noted
        exact noted
    | fire =>
      have sameShot : (b.note side .fire).shootsPointBlank side (some .fire) =
          b.shootsPointBlank side (some .fire) := by
        rw [shootsPointBlank, shootsPointBlank, shot_note]
      -- Noting the deed does not change where the shot goes.
      rw [carryOut, bare_fire, sameShot, noted]
      by_cases own : t = side
      · -- Nobody hits itself.
        have notEnemy : t ≠ side.other := own ▸ (Side.other_ne side).symm
        rw [if_pos own, if_pos own, decide_eq_false notEnemy, Bool.false_and, Tank.hurt_false]
        rfl
      · have enemy : t = side.other := Side.ne_iff.mp own
        rw [if_neg own, if_neg own, decide_eq_true enemy, Bool.true_and]
    | wait | dead =>
      rw [carryOut, bare_tell, noted]
      split <;> rfl
    | halt reason =>
      -- Whether the tank had halted before only decides about a message.
      have told : (((b.note side (.halt reason)).carryOut side
          ((b.tank side).lastAction == .halt) (.halt reason)).tank t).bare =
            ((b.note side (.halt reason)).tank t).bare := by
        rw [carryOut]
        split
        · exact bare_tell ..
        · rw [tank_report, bare_tell]
      rw [told, noted]
      split <;> rfl

/-- **A deed, bullets.** The only bullet that a deed launches goes behind those in flight. -/
theorem frame_act (action : Option Action) :
    (b.act side action).frame = b.frame.add (b.launch side b.nextBulletId action) := by
  cases action with
  | none => exact b.frame.add_nil.symm
  | some action =>
    rw [act_some]
    cases action with
    | move | scan | ping | rotate | wait | dead => exact b.frame.add_nil.symm
    | fire =>
      -- The shot is made from the noted battle, in which the tank stands and faces as before.
      have sameLaunch : (b.note side .fire).launch side b.nextBulletId (some .fire) =
          b.launch side b.nextBulletId (some .fire) := by
        have facing : ((b.note side .fire).tank side).facing = (b.tank side).facing :=
          congrArg Pose.facing (pose_note b side .fire side)
        rw [launch, launch, shot_note, facing]
      have sameId : (b.note side .fire).nextBulletId = b.nextBulletId := rfl
      rw [carryOut, frame_fire, sameId, sameLaunch]
      rfl
    | halt reason =>
      refine Eq.trans ?_ b.frame.add_nil.symm
      rw [carryOut]
      split
      · rfl
      · rfl

/-- **Inversion of a launch.** There is no bullet, or there is one, fired into floor by a tank that
had none in flight. -/
theorem launch_cases (id : Nat) (action : Option Action) :
    b.launch side id action = [] ∨
      ∃ cell, b.launch side id action = [Bullet.fired id cell (b.tank side).facing side] ∧
        b.hasBullet side = false ∧ b.arena.grid.isFloor cell := by
  unfold launch
  split
  · unfold shot
    dsimp only
    split_ifs with loaded floor enemy
    · exact .inl rfl
    · exact .inl rfl
    · exact .inl rfl
    · exact .inr ⟨_, rfl, by simpa using loaded, by simpa using floor⟩
  · exact .inl rfl

/-- What a tank launches starts ahead of it, on floor, and only if it has no other bullet in
flight. -/
theorem mem_launch {id : Nat} {action : Option Action} {m : Bullet Side}
    (h : m ∈ b.launch side id action) :
    ∃ cell, m = Bullet.fired id cell (b.tank side).facing side ∧ b.hasBullet side = false ∧
      b.arena.grid.isFloor cell := by
  rcases launch_cases b side id action with nothing | ⟨cell, one, unloaded, floor⟩
  · rw [nothing] at h
    exact absurd h List.not_mem_nil
  · rw [one, List.mem_singleton] at h
    exact ⟨cell, h, unloaded, floor⟩

/-- A tank launches at most one bullet. -/
theorem pairwise_launch {R : Bullet Side → Bullet Side → Prop} (id : Nat)
    (action : Option Action) : (b.launch side id action).Pairwise R := by
  rcases launch_cases b side id action with nothing | ⟨cell, one, -⟩
  · rw [nothing]
    exact .nil
  · rw [one]
    exact List.pairwise_singleton ..

/-- A deed does not take away or bring a bullet of the opponent. -/
private theorem hasBullet_act (action : Option Action) :
    (b.act side action).hasBullet side.other = b.hasBullet side.other := by
  have bullets : (b.act side action).bullets = b.bullets ++ b.launch side b.nextBulletId action :=
    congrArg Frame.bullets (frame_act b side action)
  have foreign :
      ((b.launch side b.nextBulletId action).any fun m => m.owner = side.other) = false := by
    rw [List.any_eq_false]
    intro m hm
    obtain ⟨cell, rfl, -⟩ := mem_launch b side hm
    simp [Bullet.fired, eq_comm (a := side)]
  rw [hasBullet, hasBullet, bullets, List.any_append, foreign, Bool.or_false]

/-- What becomes of the opponent's shot is settled before a tank acts. -/
theorem shot_act (action : Option Action) :
    (b.act side action).shot side.other = b.shot side.other := by
  have own := bare_act b side action side
  have enemy := bare_act b side action side.other
  rw [if_pos rfl] at own
  rw [if_neg (Side.other_ne side)] at enemy
  have sameArena : (b.act side action).arena = b.arena := congrArg Frame.arena (frame_act ..)
  refine shot_congr (congrArg Arena.grid sameArena) (hasBullet_act b side action) ?_ ?_ ?_
  · -- A hit leaves place and facing of the opponent as they are.
    exact (congrArg Tank.position enemy :)
  · exact (congrArg Tank.facing enemy :)
  · rw [Side.other_other]
    exact livingAt_congr (congrArg Tank.position own :) (congrArg Tank.hp own :)

/-- Whether the opponent shoots at point-blank range is settled before a tank acts. -/
theorem shootsPointBlank_act (action reply : Option Action) :
    (b.act side action).shootsPointBlank side.other reply =
      b.shootsPointBlank side.other reply := by
  unfold shootsPointBlank
  rw [shot_act]

/-- What the opponent launches is settled before a tank acts. -/
private theorem launch_act (id : Nat) (action reply : Option Action) :
    (b.act side action).launch side.other id reply = b.launch side.other id reply := by
  have enemy := bare_act b side action side.other
  rw [if_neg (Side.other_ne side)] at enemy
  have facing : ((b.act side action).tank side.other).facing = (b.tank side.other).facing :=
    (congrArg Tank.facing enemy :)
  unfold launch
  rw [shot_act, facing]

/-- The battle after both actions. -/
def actBoth (actions : Pair (Option Action)) : Battle :=
  (b.act .first actions.first).act .second actions.second

/-- The bullets that both tanks launch. -/
def launches (actions : Pair (Option Action)) : List (Bullet Side) :=
  let early := b.launch .first b.nextBulletId actions.first
  early ++ b.launch .second (b.nextBulletId + early.length) actions.second

/-- A launched bullet comes from a tank that had none in flight and gets one of the next numbers. -/
theorem mem_launches {actions : Pair (Option Action)} {m : Bullet Side}
    (h : m ∈ b.launches actions) :
    ∃ side id cell, m = Bullet.fired id cell (b.tank side).facing side ∧
      b.hasBullet side = false ∧ b.arena.grid.isFloor cell ∧
      b.nextBulletId ≤ id ∧ id < b.nextBulletId + (b.launches actions).length := by
  unfold launches at h ⊢
  dsimp only at h ⊢
  rw [List.length_append]
  rcases List.mem_append.mp h with early | late
  · -- A tank launches at most one bullet, so the numbers that are given are the next ones.
    obtain ⟨cell, rfl, unloaded, floor⟩ := mem_launch b .first early
    have launched := List.length_pos_of_mem early
    exact ⟨.first, _, cell, rfl, unloaded, floor, Nat.le_refl _, by omega⟩
  · obtain ⟨cell, rfl, unloaded, floor⟩ := mem_launch b .second late
    have launched := List.length_pos_of_mem late
    exact ⟨.second, _, cell, rfl, unloaded, floor, by omega, by omega⟩

/-- Launched bullets have different owners and rising numbers. -/
theorem pairwise_launches (actions : Pair (Option Action)) :
    (b.launches actions).Pairwise fun m n => m.owner ≠ n.owner ∧ m.id < n.id := by
  refine List.pairwise_append.mpr ⟨pairwise_launch .., pairwise_launch .., ?_⟩
  intro m hm n hn
  have launched := List.length_pos_of_mem hm
  obtain ⟨cell, rfl, -⟩ := mem_launch b .first hm
  obtain ⟨cell', rfl, -⟩ := mem_launch b .second hn
  exact ⟨Side.noConfusion, Nat.lt_add_of_pos_right launched⟩

/-- **The action phase, tanks.** Each tank does its own deed, and is hit iff the opponent shoots
point-blank. Neither depends on who acts first. -/
theorem bare_actBoth (actions : Pair (Option Action)) :
    ((b.actBoth actions).tank side).bare =
      ((b.tank side).bare.enact (actions.get side)).hurt
        (b.shootsPointBlank side.other (actions.get side.other)) := by
  obtain ⟨one, two⟩ := actions
  have early := bare_act b .first one
  have late := bare_act (b.act .first one) .second two
  have sameShot :
      (b.act .first one).shootsPointBlank .second two = b.shootsPointBlank .second two :=
    shootsPointBlank_act b .first one two
  rw [actBoth]
  cases side with
  | first =>
    -- It has done its own deed when the shot of the second tank comes.
    have own : ((b.act .first one).tank .first).bare = (b.tank .first).bare.enact one :=
      early .first
    have hit := late .first
    rw [if_neg (by decide), sameShot, own] at hit
    exact hit
  | second =>
    -- It is hit before it does its own deed, which it does all the same.
    have hit := early .second
    have own := late .second
    rw [if_neg (by decide)] at hit
    rw [if_pos rfl, hit] at own
    exact own

/-- **The action phase, bullets.** -/
theorem frame_actBoth (actions : Pair (Option Action)) :
    (b.actBoth actions).frame = b.frame.add (b.launches actions) := by
  obtain ⟨one, two⟩ := actions
  have early := frame_act b .first one
  have late := frame_act (b.act .first one) .second two
  have next : (b.act .first one).nextBulletId =
      b.nextBulletId + (b.launch .first b.nextBulletId one).length :=
    congrArg Frame.nextBulletId early
  have launched (id : Nat) : (b.act .first one).launch .second id two = b.launch .second id two :=
    launch_act b .first id one two
  rw [actBoth, late, early, launched, next, Frame.add_add]
  rfl

/-! ### The movement phase -/

/-- **The movement phase.** It changes places only. -/
theorem bare_moveTanks (intents : Pair (Option Coord)) :
    ((b.moveTanks intents).tank side).bare =
      { (b.tank side).bare with
        position := landed b.arena.grid (b.tanks.map Tank.position) intents side } := by
  have moved : (b.moveTanks intents).tank side = applyMove (b.tank side)
      ((resolveMoves b.arena.grid (b.tanks.map Tank.position) intents).get side) :=
    Pair.get_ofFn _ side
  rw [moved, landed, Pair.get_map]
  generalize (resolveMoves b.arena.grid (b.tanks.map Tank.position) intents).get side = outcome
  cases outcome with
  | none => rfl
  | some outcome => cases outcome <;> rfl

/-- Marking the destroyed tanks changes their feedback only. -/
@[simp] theorem bare_markDestroyed : (b.markDestroyed.tank side).bare = (b.tank side).bare := by
  have marked : b.markDestroyed.tank side =
      if (b.tank side).isAlive then b.tank side
      else { b.tank side with lastFeedback := .destroyed } :=
    Pair.get_map _ b.tanks side
  rw [marked]
  split <;> rfl

/-! ### The end of a turn -/

/-- The conclusion leaves the tanks alone. -/
@[simp] theorem tank_conclude : b.conclude.tank side = b.tank side := by
  unfold conclude
  split <;> rfl

/-- The conclusion brings the outcome, if there is a verdict. -/
theorem frame_conclude :
    b.conclude.frame = { b.frame with outcome := b.verdict.or b.outcome } := by
  unfold conclude
  split
  next ended =>
    rw [ended]
    rfl
  next undecided =>
    rw [undecided]
    rfl

end Battle

end TankDuel

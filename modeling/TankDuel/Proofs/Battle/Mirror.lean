import Mathlib.Data.List.Perm.Basic
import TankDuel.Proofs.Battle.Stepping

/-!
# Exchanging the tanks

`Battle.Mirror b b'` says that `b'` is `b` with the tanks exchanged: what is true of one tank in `b`
is true of the other one in `b'`. This file shows that turns keep it so (`Mirror.playTurn`), and
micro-steps do (`Mirror.ticks`), although every phase handles the first tank before the second.

Two things do depend on who is handled first, and `Mirror` leaves them out. One is the feedback,
which is why tanks are compared by `Tank.bare`; the other are the numbers of bullets. Bullets are
listed by their numbers, so with the numbers the order of the list goes as well, and the lists are
compared up to a permutation.

All the work has been done in `TankDuel.Proofs.Battle.Phases`: what a phase comes to is stated there
side by side. So a phase keeps the mirror image if what it depends on is mirrored, and there is one
lemma for each such thing: where the living tanks stand, who has a bullet in flight, how bullets
fly, what a tank is told, what becomes of a shot, and where tanks land.
-/

namespace TankDuel

namespace Bullet

/-- A bullet without its number. -/
def anonymous (m : Bullet Side) : Bullet Side := m.relabel 0 m.owner

/-- The bullet that flies in its place when the tanks are exchanged, without its number. -/
def mirror (m : Bullet Side) : Bullet Side := m.relabel 0 m.owner.other

end Bullet

namespace Tank

/-- Nothing that a micro-step does depends on the feedback. -/
private theorem step_bare (t : Tank) (ammo : Bool) :
    t.bare.step ammo = (t.step ammo).map fun outcome => (outcome.1, outcome.2.bare) := by
  have sameLife : t.bare.isAlive = t.isAlive := rfl
  unfold step
  rw [sameLife]
  cases t.isAlive with
  | false => rfl
  | true =>
    obtain ⟨_, _, _, _, _, _, cpu⟩ := t
    cases cpu <;> rfl

/-- A step does not depend on the feedback. -/
private theorem bare_tick (ammo : Bool) (t : Tank) : (t.tick ammo).bare = t.bare.tick ammo := by
  unfold tick
  rw [step_bare]
  cases t.step ammo <;> rfl

/-- Any steps do not depend on the feedback. -/
private theorem bare_iterate (ammo : Bool) (n : Nat) (t : Tank) :
    ((tick ammo)^[n] t).bare = (tick ammo)^[n] t.bare :=
  (show Function.Semiconj bare (tick ammo) (tick ammo) from bare_tick ammo).iterate_right n t

end Tank

/-- What `Battle.Mirror` says of everything but tanks and logs. -/
structure Frame.Mirror (f f' : Frame) : Prop where
  config : f'.config = f.config
  grid : f'.arena.grid = f.arena.grid
  turn : f'.turn = f.turn
  outcome : f'.outcome = f.outcome.map (Outcome.map Side.other)
  bullets : (f'.bullets.map Bullet.anonymous).Perm (f.bullets.map Bullet.mirror)

/-- Bullets that mirror each other can be added on both sides. -/
theorem Frame.Mirror.add {f f' : Frame} {bullets bullets' : List (Bullet Side)} (h : f.Mirror f')
    (alike : (bullets'.map Bullet.anonymous).Perm (bullets.map Bullet.mirror)) :
    (f.add bullets).Mirror (f'.add bullets') := by
  refine { h with bullets := ?_ }
  unfold Frame.add
  rw [List.map_append, List.map_append]
  exact h.bullets.append alike

namespace Battle

/-- The second battle is the first one with the tanks exchanged. -/
structure Mirror (b b' : Battle) : Prop where
  frame : b.frame.Mirror b'.frame
  tank : ∀ side, (b'.tank side.other).bare = (b.tank side).bare

variable {b b' : Battle}

/-- How a bullet flies does not depend on its number. -/
private theorem fate_anonymous (m : Bullet Side) :
    b.fate m.anonymous = (b.fate m).map (Bullet.relabel 0 m.owner) :=
  Bullet.flight_relabel ..

namespace Mirror

variable (h : Mirror b b') (side : Side)

include h

/-! ### What is mirrored -/

/-- The settings are the same. -/
theorem config : b'.config = b.config := h.frame.config

/-- The grid is the same. -/
theorem grid : b'.arena.grid = b.arena.grid := h.frame.grid

/-- The tanks stand in each other's places. -/
theorem pose : (b'.tank side.other).pose = (b.tank side).pose :=
  Tank.pose_eq_of_bare (h.tank side)

/-- The tanks stand on each other's cells. -/
theorem position : (b'.tank side.other).position = (b.tank side).position :=
  congrArg Pose.position (h.pose side)

/-- The tanks face each other's way. -/
theorem facing : (b'.tank side.other).facing = (b.tank side).facing :=
  congrArg Pose.facing (h.pose side)

/-- Where the living tanks stand. -/
theorem livingAt : b'.livingAt side.other = b.livingAt side :=
  livingAt_eq_of_pose (h.pose side)

/-- What does not look at numbers finds the same among the bullets of both battles. -/
private theorem any_bullets {p p' : Bullet Side → Bool} (anonymous : ∀ m, p' m.anonymous = p' m)
    (mirror : ∀ m, p' m.mirror = p m) : b'.bullets.any p' = b.bullets.any p :=
  calc b'.bullets.any p'
      = (b'.bullets.map Bullet.anonymous).any p' := by
        rw [List.any_map]
        exact congrArg b'.bullets.any (funext fun m => (anonymous m).symm)
    _ = (b.bullets.map Bullet.mirror).any p' := h.frame.bullets.any_eq
    _ = b.bullets.any p := by
        rw [List.any_map]
        exact congrArg b.bullets.any (funext mirror)

/-- Who has a bullet in flight. -/
theorem hasBullet : b'.hasBullet side.other = b.hasBullet side := by
  refine h.any_bullets (fun m => rfl) fun m => ?_
  exact decide_eq_decide.mpr Side.other_inj

/-- How bullets fly. -/
theorem fate (m : Bullet Side) :
    b'.fate m.mirror = (b.fate m).map (Bullet.relabel 0 m.owner.other) := by
  have enemy : b'.livingAt m.owner.other.other = b.livingAt m.owner.other :=
    h.livingAt m.owner.other
  rw [Battle.fate, Battle.fate, ← Bullet.flight_relabel, h.config, h.grid]
  exact congrArg (Bullet.flight _ _ _ · m.mirror) enemy

/-- Who is hit by bullets. -/
theorem isHit : b'.isHit side.other = b.isHit side := by
  refine h.any_bullets (fun m => ?_) fun m => ?_
  · rw [fate_anonymous, Flight.strikes_map]
    rfl
  · have owner : m.mirror.owner = side.other.other ↔ m.owner = side.other := Side.other_inj
    rw [h.fate, Flight.strikes_map]
    simp only [owner]

/-- **Bullets stay in the air in both battles alike.** -/
theorem survivors :
    (b'.survivors.map Bullet.anonymous).Perm (b.survivors.map Bullet.mirror) := by
  have left : b'.survivors.map Bullet.anonymous =
      (b'.bullets.map Bullet.anonymous).filterMap fun m => (b'.fate m).survivor? := by
    rw [Battle.survivors, List.map_filterMap, List.filterMap_map]
    refine List.filterMap_congr fun m _ => ?_
    rw [Function.comp_apply, fate_anonymous, Flight.survivor?_map]
    -- A survivor has the owner that it had before.
    refine Option.map_congr fun n survives => ?_
    rw [Bullet.anonymous, (Bullet.survives survives).2.1]
  have right : b.survivors.map Bullet.mirror =
      (b.bullets.map Bullet.mirror).filterMap fun m => (b'.fate m).survivor? := by
    rw [Battle.survivors, List.map_filterMap, List.filterMap_map]
    refine List.filterMap_congr fun m _ => ?_
    -- In the mirror image it has the other owner, before and after.
    rw [Function.comp_apply, h.fate, Flight.survivor?_map]
    refine Option.map_congr fun n survives => ?_
    rw [Bullet.mirror, (Bullet.survives survives).2.1]
  rw [left, right]
  exact h.frame.bullets.filterMap _

/-- What the sensors answer. -/
theorem reading (action : Option Action) :
    b'.reading side.other action = b.reading side action :=
  reading_congr h.grid (h.position side) (h.facing side) (h.livingAt side.other) action

/-- What a shot comes to. -/
theorem shot : b'.shot side.other = b.shot side :=
  shot_congr h.grid (h.hasBullet side) (h.position side) (h.facing side) (h.livingAt side.other)

/-- Who shoots at point-blank range. -/
theorem shootsPointBlank (action : Option Action) :
    b'.shootsPointBlank side.other action = b.shootsPointBlank side action := by
  unfold Battle.shootsPointBlank
  rw [h.shot]

/-- What is launched, but for its number. -/
theorem launch (id id' : Nat) (action : Option Action) :
    (b'.launch side.other id' action).map Bullet.anonymous =
      (b.launch side id action).map Bullet.mirror := by
  unfold Battle.launch
  rw [h.shot, h.facing]
  split
  · split <;> rfl
  · rfl

/-- **Bullets are launched in both battles alike**, only in the other order. -/
theorem launches (actions : Pair (Option Action)) :
    ((b'.launches actions.swap).map Bullet.anonymous).Perm
      ((b.launches actions).map Bullet.mirror) := by
  have first (id id' : Nat) :
      (b'.launch .second id' actions.first).map Bullet.anonymous =
        (b.launch .first id actions.first).map Bullet.mirror := h.launch .first id id' _
  have second (id id' : Nat) :
      (b'.launch .first id' actions.second).map Bullet.anonymous =
        (b.launch .second id actions.second).map Bullet.mirror := h.launch .second id id' _
  unfold Battle.launches
  dsimp only [Pair.swap]
  -- The bullet of the second tank comes last in one battle and first in the other one.
  rw [List.map_append, List.map_append, first b.nextBulletId, second]
  exact List.perm_append_comm

/-- The tanks take each other's actions. -/
theorem actions : b'.actions = b.actions.swap := by
  refine Pair.ext_get fun side => ?_
  rw [Pair.get_swap, Battle.actions, Battle.actions, Pair.get_map, Pair.get_map]
  have mirrored := h.tank side.other
  rw [Side.other_other] at mirrored
  exact (congrArg Tank.action? mirrored :)

/-- Where the tanks mean to go. -/
theorem intent (action : Option Action) : b'.intent side.other action = b.intent side action := by
  have destination (heading : Heading) :
      (b'.tank side.other).destination heading = (b.tank side).destination heading := by
    unfold Tank.destination
    rw [h.position, h.facing]
  unfold Battle.intent
  simp only [destination]

/-- Who is alive. -/
theorem isAlive : (b'.tank side.other).isAlive = (b.tank side).isAlive :=
  Tank.isAlive_congr (h.pose side)

/-- The same verdict, with the tanks exchanged. -/
theorem verdict : b'.verdict = b.verdict.map (Outcome.map Side.other) := by
  have first : (b'.tank .second).isAlive = (b.tank .first).isAlive := h.isAlive .first
  have second : (b'.tank .first).isAlive = (b.tank .second).isAlive := h.isAlive .second
  have firstDeed : (b'.tank .second).lastAction = (b.tank .first).lastAction :=
    (congrArg Tank.lastAction (h.tank .first) :)
  have secondDeed : (b'.tank .first).lastAction = (b.tank .second).lastAction :=
    (congrArg Tank.lastAction (h.tank .second) :)
  have turn : b'.turn = b.turn := h.frame.turn
  unfold Battle.verdict
  rw [first, second, firstDeed, secondDeed, h.config, turn]
  cases (b.tank .first).isAlive <;> cases (b.tank .second).isAlive
  -- With a destroyed tank the verdict is read off at once.
  · rfl
  · rfl
  · rfl
  · -- Two living tanks are looked at together, in either order.
    dsimp only
    rw [if_congr and_comm rfl rfl]
    split
    · rfl
    split <;> rfl

end Mirror

/-! ### Phases keep the mirror image -/

namespace Mirror

variable (h : Mirror b b') (orderly : b.Orderly) (orderly' : b'.Orderly)

include h orderly orderly'

/-- **After the bullet phase** the battles still mirror each other. -/
theorem afterBullets : Mirror b.afterBullets b'.afterBullets := by
  constructor
  · rw [frame_afterBullets orderly, frame_afterBullets orderly']
    have counted : b'.turn + 1 = b.turn + 1 := congrArg (· + 1) h.frame.turn
    exact { h.frame with turn := counted, bullets := h.survivors }
  · intro side
    rw [bare_afterBullets _ orderly, bare_afterBullets _ orderly', h.isHit, h.tank]

/-- After the sensor phase they still do. -/
theorem afterAnswers : Mirror b.afterAnswers b'.afterAnswers := by
  have bullets := h.afterBullets orderly orderly'
  constructor
  · have frame : b.afterAnswers.frame = b.afterBullets.frame := frame_answerBoth ..
    have frame' : b'.afterAnswers.frame = b'.afterBullets.frame := frame_answerBoth ..
    rw [frame, frame']
    exact bullets.frame
  · intro side
    rw [tank_afterAnswers, tank_afterAnswers, Tank.bare_writeRegisters, Tank.bare_writeRegisters,
      bullets.tank, bullets.reading, h.actions, Pair.get_swap, Side.other_other]

/-- After the actions they still do. -/
theorem afterActions : Mirror b.afterActions b'.afterActions := by
  have answers := h.afterAnswers orderly orderly'
  have launched := answers.launches b.actions
  rw [← h.actions] at launched
  constructor
  · have frame : b.afterActions.frame = b.afterAnswers.frame.add b.launched := frame_actBoth ..
    have frame' : b'.afterActions.frame = b'.afterAnswers.frame.add b'.launched := frame_actBoth ..
    rw [frame, frame']
    exact answers.frame.add launched
  · intro side
    rw [bare_afterActions, bare_afterActions, answers.shootsPointBlank, answers.tank, h.actions,
      Pair.get_swap, Pair.get_swap, Side.other_other]

/-- After the moves they still do. -/
theorem afterMoves : Mirror b.afterMoves b'.afterMoves := by
  have answers := h.afterAnswers orderly orderly'
  have acted := h.afterActions orderly orderly'
  -- Tanks that mean to go to each other's cells, from each other's cells, land on each other's
  -- cells.
  have intents : b'.intents = b.intents.swap := by
    refine Pair.ext_get fun side => ?_
    have mirrored := answers.intent side.other (b.actions.get side.other)
    rw [Side.other_other] at mirrored
    rw [Pair.get_swap, Battle.intents, Battle.intents, Pair.get_ofFn, Pair.get_ofFn, h.actions,
      Pair.get_swap, mirrored]
  have positions : b'.afterActions.tanks.map Tank.position =
      (b.afterActions.tanks.map Tank.position).swap := by
    refine Pair.ext_get fun side => ?_
    have mirrored := acted.position side.other
    rw [Side.other_other] at mirrored
    rw [Pair.get_swap, Pair.get_map, Pair.get_map]
    exact mirrored
  constructor
  · exact acted.frame
  · intro side
    rw [bare_afterMoves, bare_afterMoves, acted.tank, acted.grid, positions, intents, landed_swap,
      Side.other_other]

/-- **A turn keeps the mirror image.** -/
theorem playTurn : Mirror b.playTurn b'.playTurn := by
  have moved := h.afterMoves orderly orderly'
  constructor
  -- The conclusion brings the verdict, which names the other tank, and adds nothing else to the
  -- frame.
  · have frame : b.playTurn.frame =
        { b.afterMoves.frame with outcome := b.afterMoves.verdict.or b.afterMoves.outcome } :=
      frame_conclude _
    have frame' : b'.playTurn.frame =
        { b'.afterMoves.frame with outcome := b'.afterMoves.verdict.or b'.afterMoves.outcome } :=
      frame_conclude _
    have outcome : b'.afterMoves.outcome = b.afterMoves.outcome.map (Outcome.map Side.other) :=
      moved.frame.outcome
    rw [frame, frame']
    refine { moved.frame with outcome := ?_ }
    dsimp only
    rw [moved.verdict, outcome, Option.map_or]
  · intro side
    have cleared (t : Tank) : t.clearPending.bare = t.bare.clearPending := rfl
    rw [tank_playTurn, tank_playTurn, cleared, cleared, moved.tank]

omit orderly orderly'

/-! ### Micro-steps keep the mirror image -/

/-- Who is ready. -/
theorem isReady (side : Side) : b'.isReady side.other = b.isReady side :=
  (congrArg Tank.isReady (h.tank side) :)

/-- **Micro-steps keep the mirror image**, if each machine does those of the one whose place it
takes. -/
theorem ticks (counts : Side → Nat) :
    Mirror (b.ticks counts) (b'.ticks fun side => counts side.other) := by
  constructor
  · exact h.frame
  · intro side
    rw [tank_ticks, tank_ticks, Tank.bare_iterate, Tank.bare_iterate, h.hasBullet, h.tank,
      Side.other_other]

end Mirror

end Battle

end TankDuel

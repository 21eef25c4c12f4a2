import Mathlib.Algebra.Order.Floor.Div
import TankDuel.Proofs.Battle.BulletPhase

/-!
# Bullets from turn to turn

A bullet takes as many bullet phases as it needs. This file follows it from one to the next, while
its enemy stays where it is.

What happens in between matters only in so far as it leaves the bullet and the enemy as they are.
`Battle.Lull` says no more than that, and `Battle.Later` is a battle before a further bullet phase
when some have gone by, with a lull after each. If the first end of a flight (`Bullet.FirstEnd`) is
known, this says what every bullet phase does to the bullet (`Battle.Carries`): it stays in the air
(`Battle.Later.carries_on`) up to the last one, in which it comes to that end
(`Battle.Later.carries_out`). The number of bullet phases is the number of steps divided by the
speed and rounded up.

Lulls are what a battle is made of:

* there may be nothing between two bullet phases (`Battle.Orderly.later_iterate`);
* the rest of a turn and the steps of the machines up to the next turn are a lull for a tank with a
  bullet in flight, if its opponent stays where it is (`Battle.Later.turn`);
* so is what comes after a shot in its own turn (`Battle.Orderly.later_shot`).
-/

namespace TankDuel

namespace Battle

variable {b b₀ b' : Battle} {side : Side} {m m' : Bullet Side} {f : Flight Side} {k last : Nat}

/-! ### One bullet phase -/

/-- What one bullet phase makes of a bullet. -/
structure Carries (b : Battle) (m : Bullet Side) (f : Flight Side) : Prop where
  flying : m ∈ b.bullets
  fate : b.fate m = f
  /-- Its owner has a bullet in flight afterwards iff this one stays in the air. -/
  bullets : ∀ m', (m' ∈ b.advanceBullets.bullets ∧ m'.owner = m.owner) ↔ f = .aloft m'
  /-- The opponent loses exactly one hit point if it is struck, and none otherwise. -/
  hp : (b.advanceBullets.tank m.owner.other).hp = (b.tank m.owner.other).hp - f.strikes.toNat
  /-- At most one explosion is that of the bullet; others are those of the opponent's bullets. -/
  explosions : ∃ before after, b.bullets = before ++ m :: after ∧
    (∀ n ∈ before ++ after, n.owner = m.owner.other) ∧
    Logs (before.filterMap b.blast? ++ (f.blast? m.owner.other).toList ++
      after.filterMap b.blast?) b b.advanceBullets

/-- The bullet phase carries each bullet on by itself. -/
theorem Orderly.carries (h : b.Orderly) (hm : m ∈ b.bullets) : b.Carries m (b.fate m) where
  flying := hm
  fate := rfl
  bullets := by
    intro m'
    rw [h.mem_advanceBullets_iff]
    constructor
    · rintro ⟨⟨n, hn, aloft, -, sameOwner⟩, same⟩
      exact h.eq_of_owner hn hm (sameOwner.symm.trans same) ▸ aloft
    · intro aloft
      have kept := Bullet.survives (Flight.survivor?_eq_some_iff.mpr aloft)
      exact ⟨⟨m, hm, aloft, kept.1, kept.2.1⟩, kept.2.1⟩
  hp := h.hp_advanceBullets hm
  explosions := by
    -- The other bullets stand before it and behind it in the list.
    obtain ⟨before, after, split⟩ := List.append_of_mem hm
    have owners := h.owners
    have logs := logs_advanceBullets h.owners
    rw [split, List.pairwise_middle Ne.symm] at owners
    rw [split, List.filterMap_append, List.filterMap_cons] at logs
    refine ⟨before, after, split, fun n hn => ?_, ?_⟩
    · have differs := (List.pairwise_cons.mp owners).1 n hn
      exact Side.ne_iff.mp differs.symm
    · -- What is logged is sorted by bullets, and this one comes in between.
      rw [List.append_assoc]
      change Logs (before.filterMap b.blast? ++ ((b.blast? m).toList ++ _)) _ _
      cases blast : b.blast? m with
      | none => simpa [blast] using logs
      | some kind => simpa [blast] using logs

/-! ### From one bullet phase to the next -/

/-- Between two bullet phases the bullets of a tank stay where they are, and so does its opponent,
alive or destroyed. -/
structure Lull (side : Side) (b b' : Battle) : Prop where
  config : b'.config = b.config
  arena : b'.arena = b.arena
  /-- Bullets are in order, as they are in every battle. -/
  orderly : b'.Orderly
  bullets : ∀ m ∈ b.bullets, m.owner = side → m ∈ b'.bullets
  enemy : b'.livingAt side.other = b.livingAt side.other

/-- A battle before a bullet phase, if so many bullet phases have gone by since an earlier one. -/
inductive Later (side : Side) (b₀ : Battle) : Nat → Battle → Prop
  | none {b : Battle} : Lull side b₀ b → Later side b₀ 0 b
  | more {k : Nat} {b b' : Battle} : Later side b₀ k b → Lull side b.advanceBullets b' →
    Later side b₀ (k + 1) b'

/-- Where nothing happens, nothing happens to the bullets. -/
theorem Lull.refl (orderly : b.Orderly) : Lull side b b where
  config := rfl
  arena := rfl
  orderly := orderly
  bullets := fun _ hm _ => hm
  enemy := rfl

/-- Two lulls in a row are one. -/
theorem Lull.trans {b₁ : Battle} (h : Lull side b b₁) (h' : Lull side b₁ b') : Lull side b b' where
  config := h'.config.trans h.config
  arena := h'.arena.trans h.arena
  orderly := h'.orderly
  bullets := fun m hm own => h'.bullets m (h.bullets m hm own) own
  enemy := h'.enemy.trans h.enemy

/-- A later battle is in order. -/
theorem Later.orderly (h : Later side b₀ k b) : b.Orderly := by
  cases h with
  | none lull => exact lull.orderly
  | more _ lull => exact lull.orderly

/-! ### The bullet on its way -/

/-- A battle in which a bullet is in flight, and in which all that its flight depends on is as it
was in an earlier one. -/
structure InFlight (b₀ : Battle) (m : Bullet Side) (b : Battle) : Prop where
  config : b.config = b₀.config
  arena : b.arena = b₀.arena
  orderly : b.Orderly
  flying : m ∈ b.bullets
  enemy : b.livingAt m.owner.other = b₀.livingAt m.owner.other

/-- The bullet flies as it would have in the earlier battle. -/
theorem InFlight.carries (h : InFlight b₀ m b) (ends : b₀.fate m = f) : b.Carries m f := by
  have sameFate : b.fate m = b₀.fate m := by
    rw [fate, fate, h.config, h.arena, h.enemy]
  have carries := h.orderly.carries h.flying
  rwa [sameFate, ends] at carries

/-- The bullet is still in flight after a lull. -/
theorem InFlight.lull (h : InFlight b₀ m b) (lull : Lull m.owner b b') : InFlight b₀ m b' where
  config := lull.config.trans h.config
  arena := lull.arena.trans h.arena
  orderly := lull.orderly
  flying := lull.bullets m h.flying rfl
  enemy := lull.enemy.trans h.enemy

/-- A bullet phase in which the bullet stays in the air takes it on. -/
theorem InFlight.advanceBullets (h : InFlight b₀ m b) (aloft : b₀.fate m = .aloft m') :
    InFlight b₀ m' b.advanceBullets := by
  -- In this battle the fate of the bullet is still the one that it had in the earlier battle.
  have carries := h.carries aloft
  obtain ⟨flying, sameOwner⟩ := (carries.bullets m').mpr rfl
  have frame := frame_advanceBullets b h.orderly.owners
  have tank := bare_advanceBullets b m.owner.other h.orderly.owners
  constructor
  · exact (congrArg Frame.config frame).trans h.config
  · exact (congrArg Frame.arena frame).trans h.arena
  · exact h.orderly.advanceBullets
  · exact flying
  · -- It has struck nobody, so its enemy is where it was.
    rw [sameOwner, ← h.enemy]
    refine livingAt_congr (congrArg Tank.position tank :) ?_
    rw [carries.hp]
    exact Int.sub_zero _

/-- **The way of the bullet.** As long as it has not come to its end, each bullet phase takes it on
by as many cells as it is fast. -/
theorem Later.inFlight (h : Later m.owner b₀ k b) (flying : m ∈ b₀.bullets)
    (first : m.FirstEnd b₀.arena.grid b₀.config.bulletRange.toInt
      (b₀.livingAt m.owner.other) last f)
    (apart : b₀.livingAt m.owner.other ≠ some m.position)
    (before : k * b₀.config.bulletSpeed.toNat < last) :
    InFlight b₀ (m.advance (k * b₀.config.bulletSpeed.toNat)) b := by
  -- By induction on the bullet phases that have gone by, each of which has to end in the air.
  induction h with
  | none lull =>
    rw [Nat.zero_mul, Bullet.advance_zero]
    exact ⟨lull.config, lull.arena, lull.orderly, lull.bullets m flying rfl, lull.enemy⟩
  | @more k b b' _ lull ih =>
    rw [Nat.succ_mul] at before ⊢
    have here := ih (by omega)
    have aloft := Bullet.flight_eq_iff.mpr (first.flies_on apart before)
    exact (here.advanceBullets aloft).lull lull

/-- Turns before the last one do not suffice for all steps. -/
private theorem lt_ceilDiv_iff {steps speed : Nat} (fast : 1 ≤ speed) :
    k < steps ⌈/⌉ speed ↔ k * speed < steps := by
  rw [← Nat.not_le, ← Nat.not_le, ceilDiv_le_iff_le_mul fast, Nat.mul_comm]

/-- The last turn is the one in which the last step is made. -/
theorem bounds_of_eq_ceilDiv {steps speed : Nat} (fast : 1 ≤ speed)
    (now : k + 1 = steps ⌈/⌉ speed) : k * speed < steps ∧ steps ≤ k * speed + speed := by
  have before : k < steps ⌈/⌉ speed := now ▸ Nat.lt_succ_self k
  have soon : ¬k + 1 < steps ⌈/⌉ speed := Nat.not_lt.mpr (Nat.le_of_eq now.symm)
  rw [lt_ceilDiv_iff fast] at before soon
  rw [Nat.succ_mul, Nat.not_lt] at soon
  exact ⟨before, soon⟩

section Way

variable (h : Later m.owner b₀ k b) (flying : m ∈ b₀.bullets)
  (first : m.FirstEnd b₀.arena.grid b₀.config.bulletRange.toInt
    (b₀.livingAt m.owner.other) last f)
  (apart : b₀.livingAt m.owner.other ≠ some m.position)
  (fast : 1 ≤ b₀.config.bulletSpeed.toNat)

include h flying first apart fast

/-- Before the bullet phase in which it comes to its end the bullet stays in the air. -/
theorem Later.carries_on (before : k + 1 < last ⌈/⌉ b₀.config.bulletSpeed.toNat) :
    b.Carries (m.advance (k * b₀.config.bulletSpeed.toNat))
      (.aloft (m.advance ((k + 1) * b₀.config.bulletSpeed.toNat))) := by
  rw [lt_ceilDiv_iff fast] at before
  rw [Nat.succ_mul] at before ⊢
  have here := h.inFlight flying first apart (by omega)
  exact here.carries (Bullet.flight_eq_iff.mpr (first.flies_on apart before))

/-- In that bullet phase it comes to its end. -/
theorem Later.carries_out (now : k + 1 = last ⌈/⌉ b₀.config.bulletSpeed.toNat) :
    b.Carries (m.advance (k * b₀.config.bulletSpeed.toNat)) f := by
  obtain ⟨before, soon⟩ := bounds_of_eq_ceilDiv fast now
  have here := h.inFlight flying first apart before
  exact here.carries (Bullet.flight_eq_iff.mpr (first.flies_out apart before soon))

end Way

/-! ### Lulls -/

/-- **Bullet phases in a row**, with nothing in between. -/
theorem Orderly.later_iterate (h : b.Orderly) (k : Nat) :
    Later side b k (Battle.advanceBullets^[k] b) := by
  induction k with
  | zero => exact .none (.refl h)
  | succ k ih =>
    rw [Function.iterate_succ_apply']
    exact .more ih (.refl ih.orderly.advanceBullets)

/-- When a turn is over, machines may be stepped until the next one begins. -/
theorem Orderly.lull_begun (h : b.Orderly) (counts : Side → Nat) :
    Lull side b (b.ticks counts).begun where
  config := rfl
  arena := rfl
  orderly := (h.ticks counts).begun
  bullets := fun _ hm _ => hm
  enemy := livingAt_eq_of_pose (pose_ticks b counts _)

/-- **The rest of a turn** is a lull for a tank whose opponent stays where it is, and so are the
steps of the machines up to the next turn. -/
theorem Later.turn (h : Later side b₀ k b.begun) (orderly : b.Orderly) (counts : Side → Nat)
    (stays : b.playTurn.livingAt side.other = b.afterBullets.livingAt side.other) :
    Later side b₀ (k + 1) (b.playTurn.ticks counts).begun := by
  have turn := frame_playTurn orderly
  have phase := frame_afterBullets orderly
  have before : b.begun.advanceBullets.bullets = b.survivors := congrArg Frame.bullets phase
  have after : b.playTurn.bullets = b.survivors ++ b.launched := congrArg Frame.bullets turn
  -- What is left of the turn behind the bullet phase takes no bullet away and moves no target.
  have rest : Lull side b.begun.advanceBullets b.playTurn := by
    refine ⟨?_, ?_, orderly.playTurn, fun m hm _ => ?_, stays⟩
    · exact (congrArg Frame.config turn).trans (congrArg Frame.config phase).symm
    · exact (congrArg Frame.arena turn).trans (congrArg Frame.arena phase).symm
    · rw [before] at hm
      rw [after]
      exact List.mem_append_left _ hm
  exact .more h (rest.trans (orderly.playTurn.lull_begun counts))

/-- The battle at the moment at which a tank fires in a turn. -/
def atShot (b : Battle) : Side → Battle
  | .first => b.afterAnswers.note .first .fire
  | .second => (b.afterAnswers.act .first b.actions.first).note .second .fire

/-- After a shot the action phase may still launch the second tank's bullet. -/
private theorem exists_frame_afterActions (shoots : b.actions.get side = some .fire) :
    ∃ more, b.afterActions.frame = ((b.atShot side).fire side).frame.add more := by
  cases side with
  | first =>
    have action : b.actions.first = some .fire := shoots
    have shot : (b.atShot .first).fire .first = b.afterAnswers.act .first b.actions.first := by
      rw [action]
      rfl
    rw [shot]
    exact ⟨_, frame_act ..⟩
  -- The second tank acts last, so nothing is launched behind it.
  | second =>
    have action : b.actions.second = some .fire := shoots
    have shot : (b.atShot .second).fire .second = b.afterActions := by
      rw [afterActions, actBoth, action]
      rfl
    rw [shot]
    exact ⟨[], (Frame.add_nil _).symm⟩

/-- **The turn of a shot.** What comes after the shot is a lull, too. -/
theorem Orderly.later_shot (h : b.Orderly) (shoots : b.actions.get side = some .fire)
    (counts : Side → Nat)
    (stays : b.playTurn.livingAt side.other = ((b.atShot side).fire side).livingAt side.other) :
    Later side ((b.atShot side).fire side) 0 (b.playTurn.ticks counts).begun := by
  have turn := frame_playTurn h
  obtain ⟨more, fired⟩ := exists_frame_afterActions shoots
  rw [frame_afterActions h] at fired
  -- After the shot bullets are only added, by the shot of the other tank if it fires too.
  have bullets : b.playTurn.bullets = ((b.atShot side).fire side).bullets ++ more :=
    calc b.playTurn.bullets
        = b.survivors ++ b.launched := congrArg Frame.bullets turn
      _ = ((b.atShot side).fire side).bullets ++ more := congrArg Frame.bullets fired
  have rest : Lull side ((b.atShot side).fire side) b.playTurn := by
    refine ⟨?_, ?_, h.playTurn, fun m hm _ => ?_, stays⟩
    · exact (congrArg Frame.config turn).trans (congrArg Frame.config fired)
    · exact (congrArg Frame.arena turn).trans (congrArg Frame.arena fired)
    · rw [bullets]
      exact List.mem_append_left _ hm
  exact .none (rest.trans (h.playTurn.lull_begun counts))

end Battle

end TankDuel

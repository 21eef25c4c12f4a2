import TankDuel.Proofs.Battle.Lull
import TankDuel.Proofs.Battle.Sight

/-!
# A shot goes where the tank looks

A scan looks along a ray and is done; a bullet takes as many turns as it needs. This file says that
both come to the same cell and find the same there, as long as the enemy stays where it was seen
(`Battle.fire_as_seen`).

The two halves of this are in other files: what a shot and a ray have in common at the moment of the
shot (`Battle.firstEnd_shell`), and how a bullet goes on from one bullet phase to the next
(`Battle.Later.carries_on`, `Battle.Later.carries_out`). What is left is to put them together
(`Battle.Sees.carries_on`, `Battle.Sees.carries_out`) and to read off where and when the bullet
ends.
-/

namespace TankDuel

namespace Battle

variable {b b' : Battle} {side : Side} {hit : RayHit Side} {d k : Nat}

/-- **A shot keeps bullets in order.** -/
theorem Orderly.fire (h : b.Orderly) (side : Side) : (b.fire side).Orderly := by
  have frame := frame_fire b side
  have bullets : (b.fire side).bullets = b.bullets ++ b.launch side b.nextBulletId (some .fire) :=
    congrArg Frame.bullets frame
  have next : (b.fire side).nextBulletId =
      b.nextBulletId + (b.launch side b.nextBulletId (some .fire)).length :=
    congrArg Frame.nextBulletId frame
  constructor
  · rw [bullets]
    refine List.pairwise_append.mpr ⟨h.owners, pairwise_launch .., fun m hm n hn => ?_⟩
    -- A tank launches a bullet only if it has none in flight.
    obtain ⟨cell, rfl, unloaded, -⟩ := mem_launch b side hn
    have other : m.owner ≠ side := by simpa using List.any_eq_false.mp unloaded m hm
    exact other
  · rw [bullets]
    refine List.pairwise_append.mpr ⟨h.ids, pairwise_launch .., fun m hm n hn => ?_⟩
    obtain ⟨cell, rfl, -⟩ := mem_launch b side hn
    exact h.ids_lt m hm
  · rw [bullets, next]
    intro m hm
    rcases List.mem_append.mp hm with old | new
    · exact Nat.lt_add_right _ (h.ids_lt m old)
    · have launched := List.length_pos_of_mem new
      obtain ⟨cell, rfl, -⟩ := mem_launch b side new
      exact Nat.lt_add_of_pos_right launched

/-- What becomes of a shot that a tank fires, having seen some obstacle ahead. -/
structure FiresAsSeen (b : Battle) (side : Side) (d : Nat) (hit : RayHit Side) : Prop where
  pos : 1 ≤ d
  /-- The opponent in the cell ahead is hit at once, and there is no bullet. -/
  pointBlank : d = 1 → ∀ id, hit = .tank id → id = side.other ∧
    (b.fire side).bullets = b.bullets ∧
    ((b.fire side).tank id).hp = (b.tank id).hp - 1 ∧
    Logs [.explosion (b.cellAhead side 1) (some id)] b (b.fire side)
  /-- At a wall or the edge in the cell ahead the shot explodes, and there is no bullet. -/
  blocked : d = 1 → hit = .wall ∨ hit = .nothing →
    (b.fire side).bullets = b.bullets ∧
    (∀ s, ((b.fire side).tank s).hp = (b.tank s).hp) ∧
    ((b.fire side).tank side).lastFeedback = .blocked ∧
    Logs [.explosion (b.cellAhead side 1) none] b (b.fire side)
  /-- Otherwise a bullet is launched into the cell ahead, and nothing else happens. -/
  launches : 2 ≤ d → b.fire side = b.afterLaunch side
  /-- Bullet phases may follow at once. -/
  phases : b.Orderly → ∀ k, Later side (b.fire side) k (advanceBullets^[k] (b.fire side))
  /-- Before the last one of its bullet phases it flies on. -/
  aloft : 2 ≤ d → ∀ k b', Later side (b.fire side) k b' →
    k + 1 < b.lastStep d ⌈/⌉ b.config.bulletSpeed.toNat →
    b'.Carries ((b.shell side).advance (k * b.config.bulletSpeed.toNat))
      (.aloft ((b.shell side).advance ((k + 1) * b.config.bulletSpeed.toNat)))
  /-- The opponent, within range, is struck where it was seen. -/
  tank : 2 ≤ d → ∀ id, hit = .tank id → d ≤ b.config.bulletRange.toInt → id = side.other ∧
    ∀ k b', Later side (b.fire side) k b' → k + 1 = (d - 1) ⌈/⌉ b.config.bulletSpeed.toNat →
      b'.Carries ((b.shell side).advance (k * b.config.bulletSpeed.toNat))
        (.struck (b.cellAhead side d))
  /-- At a wall within range the bullet explodes. -/
  wall : 2 ≤ d → hit = .wall → d ≤ b.config.bulletRange.toInt →
    ∀ k b', Later side (b.fire side) k b' → k + 1 = (d - 1) ⌈/⌉ b.config.bulletSpeed.toNat →
      b'.Carries ((b.shell side).advance (k * b.config.bulletSpeed.toNat))
        (.crashed (b.cellAhead side d))
  /-- Otherwise it is gone without a trace. It has come as many cells as its range allows, or as
  there are up to the edge. -/
  spent : 2 ≤ d → hit = .nothing ∨ b.config.bulletRange.toInt < d →
    ∀ k b', Later side (b.fire side) k b' →
      k + 1 = b.lastStep d ⌈/⌉ b.config.bulletSpeed.toNat →
      let bullet := (b.shell side).advance (k * b.config.bulletSpeed.toNat)
      b'.Carries bullet .spent ∧
        ∃ steps < b.config.bulletSpeed.toNat,
          (∀ i, 1 ≤ i → i ≤ steps → bullet.Clear b.arena.grid b.config.bulletRange.toInt
            (b.livingAt side.other) i) ∧
          bullet.distance + steps = min b.config.bulletRange.toInt (d - 1)

section Launched

variable (sees : b.Sees side d hit) (unloaded : b.hasBullet side = false) (away : 2 ≤ d)
  (reach : 1 ≤ b.config.bulletRange.toInt) (fast : 1 ≤ b.config.bulletSpeed.toNat)
  (later : Later side (b.fire side) k b')

include sees unloaded away reach fast later

/-- Before its last bullet phase the bullet flies on. -/
theorem Sees.carries_on (before : k + 1 < b.lastStep d ⌈/⌉ b.config.bulletSpeed.toNat) :
    b'.Carries ((b.shell side).advance (k * b.config.bulletSpeed.toNat))
      (.aloft ((b.shell side).advance ((k + 1) * b.config.bulletSpeed.toNat))) := by
  rw [sees.launches unloaded away] at later
  have carries := Later.carries_on (m := b.shell side) later (shell_mem_afterLaunch b side)
    (firstEnd_shell sees away reach) (sees.apart away) fast before
  exact carries

/-- In its last bullet phase the bullet comes to its end. -/
theorem Sees.carries_out (now : k + 1 = b.lastStep d ⌈/⌉ b.config.bulletSpeed.toNat) :
    b'.Carries ((b.shell side).advance (k * b.config.bulletSpeed.toNat))
      (if b.config.bulletRange.toInt < d then .spent else hit.ending (b.cellAhead side d)) := by
  rw [sees.launches unloaded away] at later
  have carries := Later.carries_out (m := b.shell side) later (shell_mem_afterLaunch b side)
    (firstEnd_shell sees away reach) (sees.apart away) fast now
  exact carries

end Launched

/-- What becomes of a shot can be seen beforehand. -/
theorem Sees.firesAsSeen (sees : b.Sees side d hit) (unloaded : b.hasBullet side = false)
    (reach : 1 ≤ b.config.bulletRange.toInt) (fast : 1 ≤ b.config.bulletSpeed.toNat) :
    b.FiresAsSeen side d hit where
  pos := sees.pos
  pointBlank := fun beside _ tank => sees.pointBlank unloaded beside tank
  blocked := sees.blocked unloaded
  launches := sees.launches unloaded
  phases := fun orderly => (orderly.fire side).later_iterate
  aloft := fun away _ _ later => sees.carries_on unloaded away reach fast later
  tank := by
    rintro away id rfl near
    refine ⟨(livingAt_of_stops sees.stops).1, fun k b' later now => ?_⟩
    rw [← lastStep_of_le away near] at now
    have carries := sees.carries_out unloaded away reach fast later now
    rwa [if_neg (Int.not_lt.mpr near)] at carries
  wall := by
    rintro away rfl near k b' later now
    rw [← lastStep_of_le away near] at now
    have carries := sees.carries_out unloaded away reach fast later now
    rwa [if_neg (Int.not_lt.mpr near)] at carries
  spent := by
    intro away lost k b' later now bullet
    have carries := sees.carries_out unloaded away reach fast later now
    have ends : (if b.config.bulletRange.toInt < d then .spent
        else hit.ending (b.cellAhead side d)) = Flight.spent := by
      rcases lost with rfl | far
      · exact ite_self _
      · exact if_pos far
    rw [ends] at carries
    -- In this phase the bullet still comes as far as it may before it is gone.
    obtain ⟨before, soon⟩ := bounds_of_eq_ceilDiv fast now
    have left := (firstEnd_shell sees away reach).advance before
    refine ⟨carries, b.lastStep d - k * b.config.bulletSpeed.toNat - 1, by omega, ?_, ?_⟩
    · intro i begun early
      exact left.clear i begun (by omega)
    · rw [Bullet.distance_advance, distance_shell]
      unfold lastStep at before ⊢
      omega

/-- **A shot goes where the tank looks.** A tank that has no bullet in flight fires, and the ray
that it would see at that moment says what becomes of the shot. It is decided at once if the ray
ends in the cell ahead. Otherwise a bullet is launched; while the enemy stays where it is, the
bullet comes to the end of the ray after as many bullet phases as it takes to go there at its speed,
or to the end of its range if that comes first. -/
theorem fire_as_seen (b : Battle) (side : Side) (unloaded : b.hasBullet side = false)
    (reach : 1 ≤ b.config.bulletRange.toInt) (fast : 1 ≤ b.config.bulletSpeed.toNat) :
    ∃ (d : Nat) (hit : RayHit Side), b.view side = ⟨d, hit⟩ ∧ b.FiresAsSeen side d hit := by
  obtain ⟨d, hit, ray, sees⟩ := exists_sees b side
  exact ⟨d, hit, ray, sees.firesAsSeen unloaded reach fast⟩

/-- A tank sees its opponent four cells ahead and fires. The bullet is launched three cells before
the opponent and flies two cells in a turn, so the second turn after the shot is its last one, with
one step to go. -/
theorem fire_as_seen_uneven :
    let arena : Arena :=
      { grid := Grid.square 5
        spawns := ⟨⟨⟨0, 0⟩, .east⟩, ⟨⟨4, 0⟩, .west⟩⟩
        onFloor := by rintro (_ | _) <;> decide
        apart := by decide }
    let gunner : Program := ⟨[⟨.fire, [], 1⟩, ⟨.wait, [], 2⟩, ⟨.wait, [], 3⟩], .empty⟩
    let target : Program := ⟨[⟨.wait, [], 1⟩, ⟨.wait, [], 2⟩, ⟨.wait, [], 3⟩], .empty⟩
    let past : List Request := [.setArena arena, .install ⟨gunner, target⟩, .run 1, .run 2]
    let b := (new {}).after past
    let next := b.playTurn.ticks fun _ => 1
    let last := (next.playTurn.ticks fun _ => 1).begun
    (b.atShot .first).hasBullet .first = false ∧
      1 ≤ (b.atShot .first).config.bulletRange.toInt ∧
      1 ≤ (b.atShot .first).config.bulletSpeed.toNat ∧
      (b.atShot .first).view .first = ⟨4, .tank .second⟩ ∧
      Later .first ((b.atShot .first).fire .first) 1 last ∧
      last.Carries ⟨0, ⟨3, 0⟩, 1, 0, .first, 3⟩ (.struck ⟨4, 0⟩) ∧
      (last.advanceBullets.tank .second).hp = (last.tank .second).hp - 1 := by
  intro arena gunner target past b next last
  have unloaded : (b.atShot .first).hasBullet .first = false := by decide +kernel
  have reach : 1 ≤ (b.atShot .first).config.bulletRange.toInt := by decide +kernel
  have fast : 1 ≤ (b.atShot .first).config.bulletSpeed.toNat := by decide +kernel
  have ray : (b.atShot .first).view .first = ⟨4, .tank .second⟩ := by decide +kernel
  have orderly : b.Orderly := (poised_after {} past).1
  -- The first bullet phase of the bullet belongs to the next turn.
  have later : Later .first ((b.atShot .first).fire .first) 1 last := by
    have shot : Later .first ((b.atShot .first).fire .first) 0 next.begun :=
      orderly.later_shot (by decide +kernel) _ (by decide +kernel)
    exact shot.turn (orderly.playTurn.ticks _) _ (by decide +kernel)
  obtain ⟨d, hit, seen, law⟩ := fire_as_seen (b.atShot .first) .first unloaded reach fast
  obtain ⟨distance, rfl⟩ : (4 : Int) = d ∧ RayHit.tank Side.second = hit := by
    simpa using ray.symm.trans seen
  obtain rfl : d = 4 := by omega
  have carries := (law.tank (by decide) .second rfl (by decide +kernel)).2 1 last later
    (by decide +kernel)
  have bullet : ((b.atShot .first).shell .first).advance
      (1 * (b.atShot .first).config.bulletSpeed.toNat) = ⟨0, ⟨3, 0⟩, 1, 0, .first, 3⟩ := by
    decide +kernel
  have cell : (b.atShot .first).cellAhead .first 4 = ⟨4, 0⟩ := by decide +kernel
  rw [bullet, cell] at carries
  exact ⟨unloaded, reach, fast, ray, later, carries, carries.hp⟩

end Battle

end TankDuel

import TankDuel.Proofs.Battle.BulletPhase

/-!
# What a tank sees, and what it shoots at

The ray that a tank sees ends at the first obstacle ahead of it (`Battle.Sees`). This file compares
that with a shot of the tank at the same moment:

* what is in the cell ahead is hit at once or stops the shot there (`Battle.Sees.pointBlank`,
  `Battle.Sees.blocked`);
* otherwise a bullet is launched into that cell and nothing else happens
  (`Battle.Sees.launches`), and the bullet comes to its end where the ray does, unless its range is
  spent before (`Battle.firstEnd_shell`).

The end of the bullet is that of `Bullet.FirstEnd`, which does not know of turns.
-/

namespace TankDuel

/-- How a bullet that comes to the cell where a ray ends comes to its own end there. -/
def RayHit.ending (c : Coord) : RayHit Side → Flight Side
  | .nothing => .spent
  | .wall => .crashed c
  | .tank _ => .struck c

namespace Battle

variable {b : Battle} {side : Side} {c : Coord} {hit : RayHit Side} {d : Nat}

/-! ### What a tank sees -/

/-- The cell that lies some steps ahead of a tank. -/
def cellAhead (b : Battle) (side : Side) (steps : Nat) : Coord :=
  (b.tank side).position.along (b.tank side).facing.dx (b.tank side).facing.dy steps

/-- The first obstacle ahead of a tank, and how far away it is. -/
def Sees (b : Battle) (side : Side) (d : Nat) (hit : RayHit Side) : Prop :=
  b.arena.grid.FirstObstacle side b.occupants (b.tank side).position (b.tank side).facing.dx
    (b.tank side).facing.dy d hit

/-- The ray of a tank ends at the first obstacle ahead of it. -/
theorem exists_sees (b : Battle) (side : Side) :
    ∃ (d : Nat) (hit : RayHit Side), b.view side = ⟨d, hit⟩ ∧ b.Sees side d hit := by
  refine Grid.exists_firstObstacle _ _ _ _ ?_
  cases (b.tank side).facing <;> decide

/-- The cells that are occupied are those of the living tanks. -/
private theorem mem_occupants_iff : (side, c) ∈ b.occupants ↔ b.livingAt side = some c := by
  unfold occupants
  rw [List.mem_filterMap]
  constructor
  · rintro ⟨s, -, there⟩
    obtain ⟨cell, alive, same⟩ := Option.map_eq_some_iff.mp there
    obtain ⟨rfl, rfl⟩ := Prod.mk.inj same
    exact alive
  · intro alive
    refine ⟨side, by cases side <;> decide, ?_⟩
    rw [alive]
    rfl

/-- Where a ray passes, the opponent does not stand. -/
theorem livingAt_ne_of_passes (h : b.arena.grid.Passes side b.occupants c) :
    b.livingAt side.other ≠ some c := by
  intro there
  exact absurd (h.free _ (mem_occupants_iff.mpr there) rfl) (Side.other_ne side)

/-- No tank but the opponent stops a ray. -/
theorem livingAt_of_stops {id : Side} (h : b.arena.grid.Stops side b.occupants c (.tank id)) :
    id = side.other ∧ b.livingAt side.other = some c := by
  cases h with
  | tank inside noWall split differs earlier =>
    -- The one tank that a ray passes through is the one that looks.
    have other : id = side.other := Side.ne_iff.mp differs
    refine ⟨other, ?_⟩
    rw [← other, ← mem_occupants_iff, split]
    exact List.mem_append_right _ List.mem_cons_self

/-! ### What becomes of a shot -/

/-- The bullet that a tank launches if nothing is in its way. -/
def shell (b : Battle) (side : Side) : Bullet Side :=
  .fired b.nextBulletId (b.cellAhead side 1) (b.tank side).facing side

/-- The battle once it is launched. -/
def afterLaunch (b : Battle) (side : Side) : Battle :=
  { b with
    nextBulletId := b.nextBulletId + 1
    bullets := b.bullets ++ [b.shell side] }

/-- A launched bullet is in flight. -/
theorem shell_mem_afterLaunch (b : Battle) (side : Side) :
    b.shell side ∈ (b.afterLaunch side).bullets :=
  List.mem_append_right _ (List.mem_singleton_self _)

/-- What becomes of a shot depends on the cell ahead. -/
private theorem shot_eq (unloaded : b.hasBullet side = false) :
    b.shot side =
      if !b.arena.grid.isFloor (b.cellAhead side 1) then .blocked (b.cellAhead side 1)
      else if b.livingAt side.other = some (b.cellAhead side 1) then
        .pointBlank (b.cellAhead side 1)
      else .launched (b.cellAhead side 1) := by
  have ahead : (b.tank side).position.step (b.tank side).facing = b.cellAhead side 1 :=
    (Coord.along_one ..).symm
  rw [shot, ahead, unloaded, if_neg Bool.false_ne_true]

/-- A tank that sees the opponent in the cell ahead hits it. -/
private theorem shot_of_tank {id : Side} (sees : b.Sees side 1 (.tank id))
    (unloaded : b.hasBullet side = false) : b.shot side = .pointBlank (b.cellAhead side 1) := by
  have stops : b.arena.grid.Stops side b.occupants (b.cellAhead side 1) (.tank id) := sees.stops
  obtain ⟨-, there⟩ := livingAt_of_stops stops
  cases stops with
  | tank inside noWall =>
    have floor := Grid.isFloor_iff.mpr ⟨inside, noWall⟩
    rw [shot_eq unloaded, floor, if_neg (by decide), if_pos there]

/-- A tank that sees no other tank in the cell ahead, but something, cannot shoot there. -/
private theorem shot_of_blocked (sees : b.Sees side 1 hit) (noTank : hit = .wall ∨ hit = .nothing)
    (unloaded : b.hasBullet side = false) : b.shot side = .blocked (b.cellAhead side 1) := by
  have stops : b.arena.grid.Stops side b.occupants (b.cellAhead side 1) hit := sees.stops
  have noFloor : ¬b.arena.grid.isFloor (b.cellAhead side 1) := by
    rw [Grid.isFloor_iff]
    rintro ⟨inside, floor⟩
    -- A wall is no floor, and neither is a cell outside the grid.
    rcases noTank with rfl | rfl
    · cases stops with
      | wall _ wall => exact floor wall
    · cases stops with
      | edge outside => exact outside inside
  rw [shot_eq unloaded, if_pos (by simpa using noFloor)]

/-- The opponent does not stand in the cell ahead if a tank sees further. -/
theorem Sees.apart (sees : b.Sees side d hit) (away : 2 ≤ d) :
    b.livingAt side.other ≠ some (b.cellAhead side 1) :=
  livingAt_ne_of_passes (sees.passes 1 (Nat.le_refl 1) away)

/-- A tank that sees nothing in the cell ahead launches a bullet into it. -/
private theorem shot_of_away (sees : b.Sees side d hit) (away : 2 ≤ d)
    (unloaded : b.hasBullet side = false) : b.shot side = .launched (b.cellAhead side 1) := by
  have passes : b.arena.grid.Passes side b.occupants (b.cellAhead side 1) :=
    sees.passes 1 (Nat.le_refl 1) away
  have floor := Grid.isFloor_iff.mpr ⟨passes.inBounds, passes.noWall⟩
  rw [shot_eq unloaded, floor, if_neg (by decide), if_neg (sees.apart away)]

section Sees

variable (sees : b.Sees side d hit) (unloaded : b.hasBullet side = false)

include sees unloaded

/-- A shot at the opponent in the cell ahead. -/
theorem Sees.pointBlank (beside : d = 1) {id : Side} (tank : hit = .tank id) :
    id = side.other ∧ (b.fire side).bullets = b.bullets ∧
      ((b.fire side).tank id).hp = (b.tank id).hp - 1 ∧
      Logs [.explosion (b.cellAhead side 1) (some id)] b (b.fire side) := by
  subst beside tank
  have shot := shot_of_tank sees unloaded
  have alive := b.isAlive_of_shot shot
  obtain rfl : id = side.other := (livingAt_of_stops sees.stops).1
  rw [fire_eq, shot]
  refine ⟨rfl, congrArg Frame.bullets (frame_strike ..), ?_, logs_strike ..⟩
  -- A hit takes one hit point from the tank that is struck.
  have hp : ((b.strike side (b.cellAhead side 1)).tank side.other).hp =
      (b.tank side.other).hp - (decide (side.other = side.other)).toNat :=
    (b.suffers_strike alive).hp
  rwa [decide_eq_true rfl] at hp

/-- A shot at a wall or at the edge in the cell ahead. -/
theorem Sees.blocked (beside : d = 1) (noTank : hit = .wall ∨ hit = .nothing) :
    (b.fire side).bullets = b.bullets ∧
      (∀ s, ((b.fire side).tank s).hp = (b.tank s).hp) ∧
      ((b.fire side).tank side).lastFeedback = .blocked ∧
      Logs [.explosion (b.cellAhead side 1) none] b (b.fire side) := by
  subst beside
  have shot : b.fire side = (b.emit (.explosion (b.cellAhead side 1) none)).tell side .blocked := by
    rw [fire_eq, shot_of_blocked sees noTank unloaded]
  rw [shot]
  refine ⟨rfl, fun s => ?_, lastFeedback_tell .., ?_⟩
  · exact (congrArg Tank.hp (bare_tell ..) :)
  · have logged := logs_emit b (.explosion (b.cellAhead side 1) none)
    exact ⟨logged.turn, logged.nextEventId, logged.events⟩

/-- A shot into an empty cell ahead. -/
theorem Sees.launches (away : 2 ≤ d) : b.fire side = b.afterLaunch side := by
  rw [fire_eq, shot_of_away sees away unloaded]
  rfl

end Sees

/-! ### The end of the bullet -/

/-- The cells that the bullet comes to are those of the ray. -/
private theorem cell_shell (steps : Nat) :
    (b.shell side).cell steps = b.cellAhead side (steps + 1) := by
  rw [cellAhead, Nat.add_comm, ← Coord.along_along]
  rfl

/-- A launched bullet has come one cell already. -/
theorem distance_shell (steps : Nat) :
    (b.shell side).distance + steps = ((steps + 1 : Nat) : Int) := by
  have one : (b.shell side).distance = 1 := rfl
  omega

/-- The number of steps after which a bullet that a tank launches comes to its end. -/
def lastStep (b : Battle) (d : Nat) : Nat := (min (b.config.bulletRange.toInt + 1) d - 1).toNat

/-- An obstacle within range is what ends the flight. -/
theorem lastStep_of_le (away : 2 ≤ d) (near : d ≤ b.config.bulletRange.toInt) :
    b.lastStep d = d - 1 := by
  unfold lastStep
  omega

/-- **The end of the bullet** is that of the ray, unless its range ends before. -/
theorem firstEnd_shell (sees : b.Sees side d hit) (away : 2 ≤ d)
    (reach : 1 ≤ b.config.bulletRange.toInt) :
    (b.shell side).FirstEnd b.arena.grid b.config.bulletRange.toInt (b.livingAt side.other)
      (b.lastStep d)
      (if b.config.bulletRange.toInt < d then .spent else hit.ending (b.cellAhead side d)) where
  pos := by
    unfold lastStep
    omega
  clear := by
    unfold lastStep
    intro i begun before
    -- The bullet starts in the cell ahead, so its steps are one behind those of the ray.
    have passes : b.arena.grid.Passes side b.occupants (b.cellAhead side (i + 1)) :=
      sees.passes (i + 1) (by omega) (by omega)
    rw [← cell_shell] at passes
    refine ⟨?_, passes.inBounds, passes.noWall, livingAt_ne_of_passes passes⟩
    rw [distance_shell]
    omega
  ends := by
    rw [distance_shell, cell_shell]
    split
    next far =>
      -- The ray goes on behind the range.
      refine .range ?_
      unfold lastStep
      omega
    next near =>
      have inRange : (d : Int) ≤ b.config.bulletRange.toInt := Int.not_lt.mp near
      have arrives : b.lastStep d + 1 = d := by
        unfold lastStep
        omega
      rw [arrives]
      have stops : b.arena.grid.Stops side b.occupants (b.cellAhead side d) hit := sees.stops
      cases hit with
      | nothing =>
        cases stops with
        | edge outside => exact .edge inRange outside
      | wall =>
        cases stops with
        | wall inside wall => exact .wall inRange inside wall
      | tank id =>
        obtain ⟨-, there⟩ := livingAt_of_stops stops
        cases stops with
        | tank inside noWall => exact .tank inRange inside noWall there

end Battle

end TankDuel

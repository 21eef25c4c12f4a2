import TankDuel.Proofs.Battle.Sanity
import TankDuel.Proofs.Battle.Stepping

/-!
# No request leads to an insane battle

`Battle.violations_after` says that a battle under valid settings never shows a violation, whatever
is asked of it and in whatever order.

What a snapshot shows is kept true by two invariants.

* `Battle.Sound` holds under all settings. Tanks stand on floor and apart, bullets are over floor
  and in order, and a battle that is over has had a turn.
* `Battle.WithinLimits` needs valid settings. Hit points, distances and turns keep their bounds. The
  bound on turns has to be carried in a stronger form: as long as there is no outcome there is room
  for another turn. A turn that uses up the last one sets an outcome, since `Battle.verdict` has no
  other way to be undecided.

Both are kept by every change (`Sound.change`, `WithinLimits.change`). Restarting and micro-steps
are immediate, so all the work is in `Sound.playTurn` and `WithinLimits.playTurn`, which read it off
the statements about a whole turn.
-/

namespace TankDuel

/-- Valid settings leave room for a turn, a hit point and a cell. -/
theorem Config.check_eq_ok_iff {c : Config} :
    c.check = .ok c ↔ 0 < c.maxTurns.toNat ∧ 0 < c.maxHp.toInt ∧ 0 < c.bulletRange.toInt := by
  have turns : c.maxTurns = 0 ↔ ¬0 < c.maxTurns.toNat := by
    rw [← UInt32.toNat_inj, UInt32.toNat_zero]
    omega
  have hp : c.maxHp ≤ 0 ↔ ¬0 < c.maxHp.toInt := by
    rw [Int32.le_iff_toInt_le, Int32.toInt_zero]
    omega
  have range : c.bulletRange ≤ 0 ↔ ¬0 < c.bulletRange.toInt := by
    rw [Int32.le_iff_toInt_le, Int32.toInt_zero]
    omega
  -- The three checks are made in this order, and each one is settled by the first that fails.
  unfold check
  simp only [turns, hp, range]
  split
  next noTurns => exact ⟨nofun, fun valid => absurd valid.1 noTurns⟩
  split
  next noHp => exact ⟨nofun, fun valid => absurd valid.2.1 noHp⟩
  split
  next noRange => exact ⟨nofun, fun valid => absurd valid.2.2 noRange⟩
  next someTurns someHp someRange =>
    exact ⟨fun _ => ⟨not_not.mp someTurns, not_not.mp someHp, not_not.mp someRange⟩, fun _ => rfl⟩

namespace Battle

/-- What holds of a battle under all settings. -/
structure Sound (b : Battle) : Prop where
  order : b.Orderly
  /-- Tanks stand on floor, alive or not. -/
  onFloor : ∀ side, b.arena.grid.isFloor (b.tank side).position
  apart : (b.tank .first).position ≠ (b.tank .second).position
  bullets_onFloor : ∀ m ∈ b.bullets, b.arena.grid.isFloor m.position
  /-- The cell that a bullet is fired into counts. -/
  distance_pos : ∀ m ∈ b.bullets, 1 ≤ m.distance
  /-- No battle is over before its first turn. -/
  started : b.isOver → 0 < b.turn

/-- What holds of a battle under valid settings. -/
structure WithinLimits (b : Battle) : Prop where
  valid : b.config.check = .ok b.config
  hp_nonneg : ∀ side, 0 ≤ (b.tank side).hp
  hp_le : ∀ side, (b.tank side).hp ≤ b.config.maxHp.toInt
  distance_le : ∀ m ∈ b.bullets, m.distance ≤ b.config.bulletRange.toInt
  /-- As long as there is no outcome there is room for another turn. -/
  turn_lt : b.isOver = false → b.turn < b.config.maxTurns.toNat
  turn_le : b.turn ≤ b.config.maxTurns.toNat

/-! ### Fresh battles -/

/-- A battle starts sound, as the arena is. -/
theorem Sound.fresh (config : Config) (arena : Arena) (programs : Option (Pair Program)) :
    (fresh config arena programs).Sound where
  order := .fresh ..
  onFloor := by
    rintro (_ | _)
    · exact arena.onFloor .first
    · exact arena.onFloor .second
  apart := arena.apart
  bullets_onFloor := fun _ h => absurd h List.not_mem_nil
  distance_pos := fun _ h => absurd h List.not_mem_nil
  started := fun h => absurd h Bool.false_ne_true

/-- A battle starts within its limits under settings that have been checked. -/
theorem WithinLimits.fresh {config : Config} (valid : config.check = .ok config) (arena : Arena)
    (programs : Option (Pair Program)) : (fresh config arena programs).WithinLimits := by
  obtain ⟨turns, hp, -⟩ := Config.check_eq_ok_iff.mp valid
  have full (side : Side) : ((Battle.fresh config arena programs).tank side).hp =
      config.maxHp.toInt := by cases side <;> rfl
  exact
    { valid := valid
      hp_nonneg := fun side => (full side).symm ▸ Int.le_of_lt hp
      hp_le := fun side => Int.le_of_eq (full side)
      distance_le := fun _ h => absurd h List.not_mem_nil
      turn_lt := fun _ => turns
      turn_le := Nat.zero_le _ }

/-! ### A turn -/

variable {b : Battle}

/-- What becomes of the bullets in a turn: they are over floor, and have come further within their
range, or not moved at all, or have just been fired. -/
private theorem mem_bullets_playTurn (h : b.Sound) {m : Bullet Side} (hm : m ∈ b.playTurn.bullets) :
    b.arena.grid.isFloor m.position ∧ 1 ≤ m.distance ∧
      (m.distance = 1 ∨ m ∈ b.bullets ∨ m.distance ≤ b.config.bulletRange.toInt) := by
  have bullets : b.playTurn.bullets = b.survivors ++ b.launched :=
    congrArg Frame.bullets (frame_playTurn h.order)
  have sameArena : b.afterAnswers.arena = b.arena :=
    congrArg Frame.arena (frame_afterAnswers h.order)
  rw [bullets] at hm
  rcases List.mem_append.mp hm with old | new
  · -- It was in the air before, and may have come further.
    obtain ⟨m₀, hm₀, survives⟩ := List.mem_filterMap.mp old
    obtain ⟨-, -, rfl | ⟨further, near, floor⟩⟩ := Bullet.survives survives
    · exact ⟨h.bullets_onFloor m hm₀, h.distance_pos m hm₀, .inr (.inl hm₀)⟩
    · have start := h.distance_pos m₀ hm₀
      exact ⟨floor, by omega, .inr (.inr near)⟩
  · -- It has just been fired into a floor cell.
    obtain ⟨side, id, cell, rfl, -, floor, -⟩ := mem_launches b.afterAnswers new
    rw [sameArena] at floor
    exact ⟨floor, Int.le_refl 1, .inl rfl⟩

/-- **A turn leaves the battle sound.** -/
theorem Sound.playTurn (h : b.Sound) : b.playTurn.Sound := by
  have turn := frame_playTurn h.order
  have sameArena : b.playTurn.arena = b.arena := congrArg Frame.arena turn
  have counted : b.playTurn.turn = b.turn + 1 := congrArg Frame.turn turn
  constructor
  · exact h.order.playTurn
  · -- Both the cells that tanks come from and those that they drive to are floor.
    intro side
    rw [sameArena, position_playTurn side h.order]
    refine isFloor_landed ?_
    rw [Pair.get_map]
    exact h.onFloor side
  · rw [position_playTurn .first h.order, position_playTurn .second h.order]
    exact landed_ne h.apart
  · intro m hm
    rw [sameArena]
    exact (mem_bullets_playTurn h hm).1
  · intro m hm
    exact (mem_bullets_playTurn h hm).2.1
  · intro _
    rw [counted]
    exact Nat.succ_pos _

/-- **A turn stays within the limits.** -/
theorem WithinLimits.playTurn (sound : b.Sound) (h : b.WithinLimits) (running : b.isOver = false) :
    b.playTurn.WithinLimits := by
  obtain ⟨-, -, range⟩ := Config.check_eq_ok_iff.mp h.valid
  have turn := frame_playTurn sound.order
  have sameConfig : b.playTurn.config = b.config := congrArg Frame.config turn
  have counted : b.playTurn.turn = b.turn + 1 := congrArg Frame.turn turn
  have room := h.turn_lt running
  constructor
  · rw [sameConfig]
    exact h.valid
  · -- Hits take hit points, but none that are not there.
    intro side
    have start := h.hp_nonneg side
    rw [hp_playTurn side sound.order]
    dsimp only
    split_ifs <;> omega
  · intro side
    have start := h.hp_nonneg side
    have bound := h.hp_le side
    rw [hp_playTurn side sound.order, sameConfig]
    dsimp only
    split_ifs <;> omega
  · intro m hm
    rw [sameConfig]
    obtain ⟨-, -, new | old | near⟩ := mem_bullets_playTurn sound hm
    · -- A bullet that has just been fired has come one cell, and valid settings allow for that.
      omega
    · exact h.distance_le m old
    · exact near
  · exact turn_playTurn_lt sound.order
  · -- The battle was going on, so there was room for this turn.
    rw [counted, sameConfig]
    exact room

/-! ### Micro-steps -/

/-- Steps of the machines leave the battle sound. -/
theorem Sound.ticks (h : b.Sound) (counts : Side → Nat) : (b.ticks counts).Sound := by
  have place (side : Side) : ((b.ticks counts).tank side).position = (b.tank side).position :=
    congrArg Pose.position (pose_ticks b counts side)
  refine ⟨h.order.ticks counts, fun side => ?_, ?_, h.bullets_onFloor, h.distance_pos, h.started⟩
  · rw [place]
    exact h.onFloor side
  · rw [place, place]
    exact h.apart

/-- Steps of the machines stay within the limits. -/
theorem WithinLimits.ticks (h : b.WithinLimits) (counts : Side → Nat) :
    (b.ticks counts).WithinLimits := by
  have hp (side : Side) : ((b.ticks counts).tank side).hp = (b.tank side).hp :=
    congrArg Pose.hp (pose_ticks b counts side)
  refine ⟨h.valid, fun side => ?_, fun side => ?_, h.distance_le, h.turn_lt, h.turn_le⟩
  · rw [hp]
    exact h.hp_nonneg side
  · rw [hp]
    exact h.hp_le side

/-! ### Every change -/

variable {b' : Battle}

/-- Whatever happens, the battle stays sound. -/
theorem Sound.change (change : Change b b') (h : b.Sound) : b'.Sound := by
  cases change with
  | restart arena programs => exact .fresh ..
  | step stepped => exact ticks_of_step stepped ▸ h.ticks _
  | turn resolved =>
    obtain ⟨-, -, -, rfl⟩ := resolveTurn_eq_ok_iff.mp resolved
    exact h.playTurn

/-- Whatever happens, the battle stays within its limits. -/
theorem WithinLimits.change (change : Change b b') (sound : b.Sound) (h : b.WithinLimits) :
    b'.WithinLimits := by
  cases change with
  | restart arena programs => exact .fresh h.valid ..
  | step stepped => exact ticks_of_step stepped ▸ h.ticks _
  | turn resolved =>
    obtain ⟨-, running, -, rfl⟩ := resolveTurn_eq_ok_iff.mp resolved
    exact h.playTurn sound running

/-! ### Snapshots -/

/-- **The invariants rule out every violation.** -/
theorem violations_snapshot (sound : b.Sound) (limits : b.WithinLimits) :
    b.snapshot.violations = [] := by
  -- A snapshot lists the walls of the grid and shows its size.
  have floor {cell : Coord} (h : b.arena.grid.isFloor cell) :
      b.snapshot.inBounds cell ∧ cell ∉ b.snapshot.walls := by
    rw [Grid.isFloor, Bool.and_eq_true] at h
    have clear : cell ∉ b.arena.grid.walls := by simpa [Grid.isWall] using h.2
    exact ⟨h.1, clear⟩
  refine Snapshot.violations_eq_nil_iff.mpr ⟨?_, ?_, ?_, ?_, ?_, limits.turn_le⟩
  · intro t ht
    obtain ⟨side, -, rfl⟩ := List.mem_map.mp ht
    exact
      { inBounds := (floor (sound.onFloor side)).1
        notInWall := (floor (sound.onFloor side)).2
        hp_nonneg := limits.hp_nonneg side
        hp_le := limits.hp_le side
        alive_eq := rfl }
  · intro t u two
    obtain ⟨rfl, rfl⟩ : TankView.ofTank .first (b.tank .first) = t ∧
        TankView.ofTank .second (b.tank .second) = u := by
      simpa [snapshot, Side.all] using two
    exact sound.apart
  · -- Bullets of different owners show different numbers.
    refine List.pairwise_map.mpr ((sound.order.owners.and sound.order.ids).imp ?_)
    rintro m n ⟨owners, ids⟩
    exact ⟨fun same => owners (Side.number_injective same), Nat.ne_of_lt ids⟩
  · intro m' hm'
    obtain ⟨m, hm, rfl⟩ := List.mem_map.mp hm'
    exact
      { distance_pos := sound.distance_pos m hm
        distance_le := limits.distance_le m hm
        inBounds := (floor (sound.bullets_onFloor m hm)).1
        notInWall := (floor (sound.bullets_onFloor m hm)).2 }
  · intro ended
    refine sound.started ?_
    rw [Snapshot.isOver, snapshot, Option.isSome_map] at ended
    exact ended

/-- **No request leads to an insane battle.** Under valid settings a snapshot shows no violation,
whatever has been asked of the battle, in whatever order, and whether it was refused or not. So it
is as a snapshot should be. -/
theorem violations_after (config : Config) (valid : config.check = .ok config)
    (requests : List Request) :
    let s := ((new config).after requests).snapshot
    s.violations = [] ∧ s.Sane := by
  intro s
  have kept : ((new config).after requests).Sound ∧ ((new config).after requests).WithinLimits :=
    after_invariant (P := fun b => b.Sound ∧ b.WithinLimits)
      (fun change h => ⟨h.1.change change, h.2.change change h.1⟩)
      ⟨.fresh .., .fresh valid ..⟩ requests
  have clean : s.violations = [] := violations_snapshot kept.1 kept.2
  exact ⟨clean, Snapshot.violations_eq_nil_iff_sane.mp clean⟩

/-- The tightest valid settings, under which a shot into the air is spent at once. -/
theorem violations_after_one_turn :
    let config : Config := { maxTurns := 1, maxHp := 1, bulletRange := 1 }
    let played := (new config).after
      [.install ⟨countAndFire, countAndFire⟩, .step 3, .resolve, .run 2, .run 1, .resolve, .run 1]
    config.check = .ok config ∧ played.isOver ∧ played.bullets.length = 2 ∧
      played.snapshot.violations = [] ∧ played.snapshot.Sane := by
  intro config played
  have valid : config.check = .ok config := by decide +kernel
  exact ⟨valid, by decide +kernel, by decide +kernel, violations_after config valid _⟩

end Battle

end TankDuel

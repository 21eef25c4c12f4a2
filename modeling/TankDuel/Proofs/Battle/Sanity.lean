import Mathlib.Data.Finset.Card
import Mathlib.Data.Finset.Dedup
import TankDuel.Battle.Sanity

/-!
# What it means that nothing is wrong with a snapshot

`Snapshot.violations` goes through a snapshot and lists what is wrong. This file says what a
snapshot is like when the list is empty: `Snapshot.violations_eq_nil_iff` splits it into statements
about each tank (`TankView.Sane`), about each bullet (`Bullet.Sane`), about any two bullets, and
about the battle as a whole.

The statements are equivalences, so nothing is lost. Bullets are gone through with those before them
at hand; that no two of them clash is found by the induction in
`allBulletViolations_eq_nil_iff`.

The list also says how often bullets clash. Bullets that share an owner, or an id, with one before
them are counted by `Snapshot.repeats`; whatever has been seen so far, the repeated ones and the
different ones make up all the bullets (`repeats_add_card`). `Snapshot.violations_exact` says both
in terms of the snapshot alone.
-/

namespace TankDuel

/-- Nothing is wrong with a tank. -/
structure TankView.Sane (s : Snapshot) (t : TankView) : Prop where
  inBounds : s.inBounds t.position
  notInWall : t.position ∉ s.walls
  hp_nonneg : 0 ≤ t.hp
  hp_le : t.hp ≤ s.config.maxHp.toInt
  alive_eq : t.alive = decide (0 < t.hp)

/-- Nothing is wrong with a bullet. -/
structure Bullet.Sane (s : Snapshot) (m : Bullet Nat) : Prop where
  distance_pos : 1 ≤ m.distance
  distance_le : m.distance ≤ s.config.bulletRange.toInt
  inBounds : s.inBounds m.position
  notInWall : m.position ∉ s.walls

/-- Two bullets can be in flight at the same time. -/
def Bullet.Distinct (m n : Bullet Nat) : Prop := m.owner ≠ n.owner ∧ m.id ≠ n.id

namespace Snapshot

variable {s : Snapshot}

/-- Nothing is reported where the condition does not hold. -/
private theorem violationIf_eq_nil_iff {condition : Bool} {v : Violation} :
    violationIf condition v = [] ↔ condition = false := by
  cases condition <;> simp [violationIf]

/-- Nothing is reported of a tank if and only if it is sane. -/
private theorem tankViolations_eq_nil_iff {t : TankView} : s.tankViolations t = [] ↔ t.Sane s := by
  unfold tankViolations
  simp only [List.append_eq_nil_iff, violationIf_eq_nil_iff]
  -- One check stands for each field of a sane tank, but for the two bounds of its hit points, which
  -- share one.
  constructor
  · rintro ⟨⟨⟨inBounds, notInWall⟩, hp⟩, alive⟩
    rw [Bool.or_eq_false_iff, decide_eq_false_iff_not, decide_eq_false_iff_not] at hp
    exact
      { inBounds := by simpa using inBounds
        notInWall := by simpa using notInWall
        hp_nonneg := Int.not_lt.mp hp.1
        hp_le := Int.not_lt.mp hp.2
        alive_eq := by simpa using alive }
  · intro sane
    have nonneg := sane.hp_nonneg
    have le := sane.hp_le
    refine ⟨⟨⟨?_, ?_⟩, ?_⟩, ?_⟩
    · rw [sane.inBounds]
      rfl
    · simpa using sane.notInWall
    · rw [Bool.or_eq_false_iff, decide_eq_false_iff_not, decide_eq_false_iff_not]
      omega
    · rw [sane.alive_eq]
      exact bne_self_eq_false _

/-- Nothing is reported of a bullet if and only if it is sane and clashes with none before it. -/
private theorem bulletViolations_eq_nil_iff {earlier : List (Bullet Nat)} {m : Bullet Nat} :
    s.bulletViolations earlier m = [] ↔ (∀ e ∈ earlier, e.Distinct m) ∧ m.Sane s := by
  unfold bulletViolations
  simp only [List.append_eq_nil_iff, violationIf_eq_nil_iff, List.any_eq_false,
    decide_eq_true_eq, Bool.or_eq_false_iff, decide_eq_false_iff_not]
  -- The bounds of the distance share a check. The clashes are those with earlier bullets.
  constructor
  · rintro ⟨⟨⟨owner, id⟩, low, high⟩, inBounds, notInWall⟩
    refine ⟨fun e he => ⟨owner e he, id e he⟩, ?_⟩
    exact
      { distance_pos := Int.not_lt.mp low
        distance_le := Int.not_lt.mp high
        inBounds := by simpa using inBounds
        notInWall := by simpa using notInWall }
  · rintro ⟨distinct, sane⟩
    have low := sane.distance_pos
    have high := sane.distance_le
    refine ⟨⟨⟨fun e he => (distinct e he).1, fun e he => (distinct e he).2⟩, ?_⟩, ?_, ?_⟩
    · omega
    · rw [sane.inBounds]
      rfl
    · simpa using sane.notInWall

/-- Going through the bullets compares each with all those before it. -/
theorem allBulletViolations_eq_nil_iff {earlier bullets : List (Bullet Nat)} :
    s.allBulletViolations earlier bullets = [] ↔
      (∀ e ∈ earlier, ∀ m ∈ bullets, e.Distinct m) ∧ bullets.Pairwise Bullet.Distinct ∧
        ∀ m ∈ bullets, m.Sane s := by
  induction bullets generalizing earlier with
  | nil => simp [allBulletViolations]
  | cons m rest ih =>
    rw [allBulletViolations, List.append_eq_nil_iff, bulletViolations_eq_nil_iff, ih,
      List.pairwise_cons]
    simp only [List.forall_mem_cons]
    constructor
    · rintro ⟨⟨here, sane⟩, ⟨head, before⟩, tail, later⟩
      exact ⟨fun e he => ⟨here e he, before e he⟩, ⟨head, tail⟩, sane, later⟩
    · rintro ⟨before, ⟨head, tail⟩, sane, later⟩
      exact ⟨⟨fun e he => (before e he).1, sane⟩, ⟨head, fun e he => (before e he).2⟩, tail, later⟩

/-- **What it means that nothing is wrong.** -/
theorem violations_eq_nil_iff :
    s.violations = [] ↔
      (∀ t ∈ s.tanks, t.Sane s) ∧ (∀ t u, s.tanks = [t, u] → t.position ≠ u.position) ∧
        s.bullets.Pairwise Bullet.Distinct ∧ (∀ m ∈ s.bullets, m.Sane s) ∧
        (s.isOver → 0 < s.turn) ∧ s.turn ≤ s.config.maxTurns.toNat := by
  have shared : sharedCellViolations s.tanks = [] ↔
      ∀ t u, s.tanks = [t, u] → t.position ≠ u.position := by
    unfold sharedCellViolations
    split
    next a b two =>
      rw [violationIf_eq_nil_iff, decide_eq_false_iff_not]
      -- The list has no other way to be a list of two.
      refine ⟨fun apart t u same => ?_, fun apart => apart a b two⟩
      obtain ⟨rfl, rfl⟩ : a = t ∧ b = u := by simpa using two.symm.trans same
      exact apart
    next other => exact iff_of_true rfl fun t u two => absurd two (other t u)
  have ended : s.outcomeViolations = [] ↔ (s.isOver → 0 < s.turn) := by
    unfold outcomeViolations isOver
    split
    next outcome decided => simp [violationIf_eq_nil_iff, decided, Nat.pos_iff_ne_zero]
    next undecided => simp [undecided]
  have limit : s.turnViolations = [] ↔ s.turn ≤ s.config.maxTurns.toNat := by
    rw [turnViolations, violationIf_eq_nil_iff, decide_eq_false_iff_not, Nat.not_lt]
  unfold violations
  simp only [List.append_eq_nil_iff, List.flatMap_eq_nil_iff, tankViolations_eq_nil_iff,
    allBulletViolations_eq_nil_iff, shared, ended, limit, List.not_mem_nil, false_implies,
    implies_true, true_and, and_assoc]

end Snapshot

/-! ### How often bullets clash -/

/-- What two bullets must not share. -/
inductive Clash where
  | owner
  | id

namespace Clash

/-- What the bullets are compared by. -/
def key : Clash → Bullet Nat → Nat
  | owner => Bullet.owner
  | id => Bullet.id

/-- Whether a violation tells of a bullet that clashes with an earlier one. -/
def isReported : Clash → Violation → Bool
  | owner, .secondBullet _ => true
  | id, .repeatedBullet _ => true
  | _, _ => false

end Clash

namespace Snapshot

variable {s : Snapshot} {clash : Clash}

/-- How many bullets clash with one before them, the bullets in `earlier` being before them all. -/
def repeats (clash : Clash) (earlier : List (Bullet Nat)) : List (Bullet Nat) → Nat
  | [] => 0
  | m :: rest =>
    (if clash.key m ∈ earlier.map clash.key then 1 else 0) + repeats clash (m :: earlier) rest

/-- A bullet either repeats a key or has one that has not been seen before. -/
theorem repeats_add_card (clash : Clash) (earlier bullets : List (Bullet Nat)) :
    repeats clash earlier bullets + ((earlier ++ bullets).map clash.key).toFinset.card =
      bullets.length + (earlier.map clash.key).toFinset.card := by
  induction bullets generalizing earlier with
  | nil => simp [repeats]
  | cons m rest ih =>
    -- `m` moves to the bullets that have been seen, where it may or may not add a key.
    have moved : ((earlier ++ m :: rest).map clash.key).toFinset =
        ((m :: earlier ++ rest).map clash.key).toFinset :=
      List.toFinset_eq_of_perm _ _ (List.perm_middle.map clash.key)
    have rest_seen := ih (m :: earlier)
    rw [List.map_cons, List.toFinset_cons] at rest_seen
    rw [repeats, moved, List.length_cons]
    by_cases seen : clash.key m ∈ earlier.map clash.key
    · rw [Finset.insert_eq_of_mem (List.mem_toFinset.mpr seen)] at rest_seen
      rw [if_pos seen]
      omega
    · rw [Finset.card_insert_of_notMem (mt List.mem_toFinset.mp seen)] at rest_seen
      rw [if_neg seen]
      omega

/-- A check adds one report or none. -/
private theorem countP_violationIf {which : Violation → Bool} (condition : Bool) (v : Violation) :
    (violationIf condition v).countP which = if condition && which v then 1 else 0 := by
  cases condition <;> simp [violationIf, List.countP_singleton]

/-- A bullet adds one report of a clash if its key has been there before. -/
private theorem countP_bulletViolations (earlier : List (Bullet Nat)) (m : Bullet Nat) :
    (s.bulletViolations earlier m).countP clash.isReported =
      if clash.key m ∈ earlier.map clash.key then 1 else 0 := by
  unfold bulletViolations
  cases clash with
  | owner => simp [countP_violationIf, Clash.isReported, Clash.key]
  | id => simp [countP_violationIf, Clash.isReported, Clash.key]

/-- As many clashes are reported as keys are repeated. -/
private theorem countP_allBulletViolations (earlier bullets : List (Bullet Nat)) :
    (s.allBulletViolations earlier bullets).countP clash.isReported =
      repeats clash earlier bullets := by
  induction bullets generalizing earlier with
  | nil => rfl
  | cons m rest ih =>
    rw [allBulletViolations, List.countP_append, countP_bulletViolations, ih, repeats]

/-- Nothing but bullets clashes. -/
private theorem countP_violations :
    s.violations.countP clash.isReported = repeats clash [] s.bullets := by
  -- Only the checks of bullets report clashes.
  have tanks : (s.tanks.flatMap s.tankViolations).countP clash.isReported = 0 := by
    rw [List.countP_eq_zero]
    intro v found
    obtain ⟨t, -, found⟩ := List.mem_flatMap.mp found
    have none_here : (s.tankViolations t).countP clash.isReported = 0 := by
      simp [tankViolations, countP_violationIf, Clash.isReported]
    exact List.countP_eq_zero.mp none_here v found
  have shared : (sharedCellViolations s.tanks).countP clash.isReported = 0 := by
    unfold sharedCellViolations
    split <;> simp [countP_violationIf, Clash.isReported]
  have outcome : s.outcomeViolations.countP clash.isReported = 0 := by
    unfold outcomeViolations
    split <;> simp [countP_violationIf, Clash.isReported]
  have turn : s.turnViolations.countP clash.isReported = 0 := by
    simp [turnViolations, countP_violationIf, Clash.isReported]
  rw [violations]
  simp only [List.countP_append, tanks, shared, outcome, turn, countP_allBulletViolations,
    Nat.zero_add, Nat.add_zero]

/-- No two bullets clash in either way. -/
private theorem pairwise_distinct_iff {bullets : List (Bullet Nat)} :
    bullets.Pairwise Bullet.Distinct ↔ ∀ clash : Clash, (bullets.map clash.key).Nodup := by
  simp only [List.Nodup, List.pairwise_map]
  constructor
  · intro distinct clash
    cases clash with
    | owner => exact distinct.imp And.left
    | id => exact distinct.imp And.right
  · intro apart
    exact (apart .owner).and (apart .id)

/-! ### The list is exact -/

/-- A cell lies on the grid and is no wall. -/
def OnFloor (s : Snapshot) (c : Coord) : Prop :=
  (0 ≤ c.x ∧ c.x < s.width) ∧ (0 ≤ c.y ∧ c.y < s.height) ∧ c ∉ s.walls

/-- A cell is on floor if it lies in bounds and is no wall. -/
private theorem onFloor_iff {c : Coord} : s.OnFloor c ↔ s.inBounds c = true ∧ c ∉ s.walls := by
  rw [inBounds, Coord.inside_iff, and_assoc]
  exact Iff.rfl

/-- What makes a tank sane. -/
private theorem tank_sane_iff {t : TankView} :
    t.Sane s ↔ s.OnFloor t.position ∧ (0 ≤ t.hp ∧ t.hp ≤ s.config.maxHp.toInt) ∧
      (t.alive = true ↔ 0 < t.hp) := by
  rw [onFloor_iff]
  constructor
  · intro sane
    refine ⟨⟨sane.inBounds, sane.notInWall⟩, ⟨sane.hp_nonneg, sane.hp_le⟩, ?_⟩
    rw [sane.alive_eq, decide_eq_true_eq]
  · rintro ⟨⟨inBounds, notInWall⟩, ⟨nonneg, le⟩, alive⟩
    have alive_eq : t.alive = decide (0 < t.hp) :=
      Bool.eq_iff_iff.mpr (alive.trans decide_eq_true_iff.symm)
    exact ⟨inBounds, notInWall, nonneg, le, alive_eq⟩

/-- What makes a bullet sane. -/
private theorem bullet_sane_iff {m : Bullet Nat} :
    m.Sane s ↔
      s.OnFloor m.position ∧ 1 ≤ m.distance ∧ m.distance ≤ s.config.bulletRange.toInt := by
  rw [onFloor_iff]
  constructor
  · intro sane
    exact ⟨⟨sane.inBounds, sane.notInWall⟩, sane.distance_pos, sane.distance_le⟩
  · rintro ⟨⟨inBounds, notInWall⟩, pos, le⟩
    exact ⟨pos, le, inBounds, notInWall⟩

/-- **What a snapshot should be like.** -/
structure Sane (s : Snapshot) : Prop where
  tank_place : ∀ t ∈ s.tanks, s.OnFloor t.position
  tank_hp : ∀ t ∈ s.tanks, 0 ≤ t.hp ∧ t.hp ≤ s.config.maxHp.toInt
  tank_alive : ∀ t ∈ s.tanks, t.alive = true ↔ 0 < t.hp
  /-- This is asked of two tanks only. -/
  tanks_apart : ∀ t u, s.tanks = [t, u] → t.position ≠ u.position
  bullet_owners : (s.bullets.map Bullet.owner).Nodup
  bullet_ids : (s.bullets.map Bullet.id).Nodup
  bullet_place : ∀ m ∈ s.bullets, s.OnFloor m.position
  bullet_distance : ∀ m ∈ s.bullets, 1 ≤ m.distance ∧ m.distance ≤ s.config.bulletRange.toInt
  started : s.outcome = none ∨ s.turn ≠ 0
  turn_le : s.turn ≤ s.config.maxTurns.toNat

/-- **Nothing is reported if and only if the snapshot is sane.** -/
theorem violations_eq_nil_iff_sane : s.violations = [] ↔ s.Sane := by
  -- That a battle that is over has started is checked by the turn not being zero.
  have started : (s.isOver → 0 < s.turn) ↔ s.outcome = none ∨ s.turn ≠ 0 := by
    rw [Nat.pos_iff_ne_zero, isOver]
    cases s.outcome <;> simp
  rw [violations_eq_nil_iff, pairwise_distinct_iff, started]
  simp only [tank_sane_iff, bullet_sane_iff]
  constructor
  · rintro ⟨tanks, apart, clashes, bullets, started, limit⟩
    exact
      { tank_place := fun t ht => (tanks t ht).1
        tank_hp := fun t ht => (tanks t ht).2.1
        tank_alive := fun t ht => (tanks t ht).2.2
        tanks_apart := apart
        bullet_owners := clashes .owner
        bullet_ids := clashes .id
        bullet_place := fun m hm => (bullets m hm).1
        bullet_distance := fun m hm => (bullets m hm).2
        started := started
        turn_le := limit }
  · intro sane
    refine ⟨fun t ht => ⟨sane.tank_place t ht, sane.tank_hp t ht, sane.tank_alive t ht⟩,
      sane.tanks_apart, fun clash => ?_,
      fun m hm => ⟨sane.bullet_place m hm, sane.bullet_distance m hm⟩, sane.started, sane.turn_le⟩
    cases clash with
    | owner => exact sane.bullet_owners
    | id => exact sane.bullet_ids

/-- **The list of violations is exact.** It is empty for a snapshot that is as it should be and for
no other, and the clashes it reports make up, with the different owners or ids, all the bullets. -/
theorem violations_exact (s : Snapshot) :
    (s.violations = [] ↔ s.Sane) ∧
      ∀ clash : Clash, s.violations.countP clash.isReported +
        (s.bullets.map clash.key).toFinset.card = s.bullets.length := by
  refine ⟨violations_eq_nil_iff_sane, fun clash => ?_⟩
  have total := repeats_add_card clash [] s.bullets
  rw [countP_violations]
  simpa only [List.nil_append, List.map_nil, List.toFinset_nil, Finset.card_empty,
    Nat.add_zero] using total

end Snapshot

end TankDuel

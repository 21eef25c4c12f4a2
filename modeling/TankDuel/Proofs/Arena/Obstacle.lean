import Mathlib.Data.List.Basic
import TankDuel.Arena.Ray

/-!
# The first obstacle of a ray

A ray ends at the first cell behind its origin that does not let it pass. `Grid.Stops` says what
stops a ray at a cell, by the order in which this is decided, and `Grid.Passes` when nothing does.
`Grid.FirstObstacle` puts them together along the ray: with so many steps it comes to a cell that
stops it, and it has passed over all cells before.

`Grid.castRay_first_obstacle` says that a ray with a direction ends at its first obstacle, wherever
it starts. That there always is one is a matter of the size of the grid: between two cells of the
grid on one ray there are fewer steps than the grid is wide or high (`Grid.steps_lt_of_inBounds`).

`castFrom` relies on this and does not look at more cells than that. `Grid.Walks` is the walk as a
loop that counts no cells; it stands in no relation to any result if it goes on forever. The main
statement also says that it comes to an end, and with the same result.
-/

namespace TankDuel

namespace Coord

/-- The cell to which some equal steps lead. -/
def along (c : Coord) (dx dy : Int) (steps : Nat) : Coord := c.offset (steps * dx) (steps * dy)

variable (c : Coord) (dx dy : Int)

/-- Without a step a ray is at its origin. -/
@[simp] theorem along_zero : c.along dx dy 0 = c := by
  simp [along, offset]

/-- Steps can be taken in two goes. -/
theorem along_along (steps more : Nat) :
    (c.along dx dy steps).along dx dy more = c.along dx dy (steps + more) := by
  simp only [along, offset, Int.natCast_add, Int.add_mul, Int.add_assoc]

/-- One step along a ray is a step. -/
theorem along_one : c.along dx dy 1 = c.offset dx dy := by
  simp [along]

/-- The first step can be taken beforehand. -/
private theorem along_succ (steps : Nat) :
    c.along dx dy (steps + 1) = (c.offset dx dy).along dx dy steps := by
  rw [← along_one, along_along, Nat.add_comm]

end Coord

namespace Grid

/-- A cell is free if it lies on the grid and is no wall. -/
theorem isFloor_iff {g : Grid} {c : Coord} : g.isFloor c ↔ g.inBounds c ∧ ¬g.isWall c := by
  simp [isFloor]

variable {ι : Type} [DecidableEq ι]

/-! ### What stops a ray -/

/-- What stops a ray at a cell. Of several tanks on the cell it is the first one in the list. -/
inductive Stops (g : Grid) (viewer : ι) (occupants : List (ι × Coord)) (c : Coord) :
    RayHit ι → Prop
  | edge : ¬g.inBounds c → Stops g viewer occupants c .nothing
  | wall : g.inBounds c → g.isWall c → Stops g viewer occupants c .wall
  | tank {id : ι} {before after : List (ι × Coord)} : g.inBounds c → ¬g.isWall c →
    occupants = before ++ (id, c) :: after → id ≠ viewer →
    (∀ o ∈ before, o.2 = c → o.1 = viewer) → Stops g viewer occupants c (.tank id)

/-- Nothing stops a ray at a cell. -/
structure Passes (g : Grid) (viewer : ι) (occupants : List (ι × Coord)) (c : Coord) : Prop where
  inBounds : g.inBounds c
  noWall : ¬g.isWall c
  /-- The tank that looks does not see itself. -/
  free : ∀ o ∈ occupants, o.2 = c → o.1 = viewer

variable {g : Grid} {viewer : ι} {occupants : List (ι × Coord)} {c : Coord} {hit : RayHit ι}

/-- The search for an obstacle finds none on a cell that the ray passes over. -/
private theorem obstacle?_eq_none_iff :
    g.obstacle? viewer occupants c = none ↔ g.Passes viewer occupants c := by
  unfold obstacle?
  constructor
  · intro h
    split at h
    · exact absurd h nofun
    next inside =>
    split at h
    · exact absurd h nofun
    next noWall =>
    refine ⟨by simpa using inside, noWall, fun o ho here => ?_⟩
    have notFound := List.find?_eq_none.mp (Option.map_eq_none_iff.mp h) o ho
    simpa [here] using notFound
  · rintro ⟨inside, noWall, free⟩
    rw [if_neg (by simpa using inside), if_neg noWall, Option.map_eq_none_iff, List.find?_eq_none]
    intro o ho found
    obtain ⟨other, here⟩ : o.1 ≠ viewer ∧ o.2 = c := by simpa using found
    exact other (free o ho here)

/-- The search for an obstacle finds what stops the ray at a cell. -/
private theorem obstacle?_eq_some_iff :
    g.obstacle? viewer occupants c = some hit ↔ g.Stops viewer occupants c hit := by
  unfold obstacle?
  constructor
  · intro h
    split at h
    next outside =>
      obtain rfl := Option.some.inj h
      exact .edge (by simpa using outside)
    next inside =>
    split at h
    next wall =>
      obtain rfl := Option.some.inj h
      exact .wall (by simpa using inside) wall
    next noWall =>
    obtain ⟨⟨id, cell⟩, found, rfl⟩ := Option.map_eq_some_iff.mp h
    -- The search takes the first tank of the list that is on the cell and does not look itself.
    obtain ⟨other, before, after, split, earlier⟩ := List.find?_eq_some_iff_append.mp found
    obtain ⟨stranger, rfl⟩ : id ≠ viewer ∧ cell = c := by simpa using other
    refine .tank (by simpa using inside) noWall split stranger fun o ho here => ?_
    simpa [here] using earlier o ho
  · rintro (outside | ⟨inside, wall⟩ | ⟨inside, noWall, split, other, earlier⟩)
    · rw [if_pos (by simpa using outside)]
    · rw [if_neg (by simpa using inside), if_pos wall]
    · rw [if_neg (by simpa using inside), if_neg noWall, Option.map_eq_some_iff]
      refine ⟨_, List.find?_eq_some_iff_append.mpr ⟨by simpa using other, _, _, split, ?_⟩, rfl⟩
      intro o ho
      have notHere : o.1 ≠ viewer → o.2 ≠ c := mt (earlier o ho)
      simpa [Classical.or_iff_not_imp_left] using notHere

/-! ### Rays leave the grid -/

/-- Between two cells of the grid on one ray there are fewer steps than the grid is wide or high. -/
theorem steps_lt_of_inBounds {dx dy : Int} {steps : Nat} (moving : ¬(dx = 0 ∧ dy = 0))
    (near : g.inBounds c) (far : g.inBounds (c.along dx dy steps)) :
    (steps : Int) < max g.width g.height := by
  obtain ⟨⟨left, right⟩, top, bottom⟩ := Coord.inside_iff.mp near
  obtain ⟨⟨left', right'⟩, top', bottom'⟩ := Coord.inside_iff.mp far
  simp only [Coord.along, Coord.offset] at left' right' top' bottom'
  have count : (0 : Int) ≤ steps := Int.natCast_nonneg steps
  -- A ray that takes steps at all takes steps of one cell at least, to either side or up or down.
  have step (d : Int) (nonzero : d ≠ 0) : (steps : Int) ≤ steps * d ∨ steps * d ≤ -steps := by
    rcases Int.lt_or_gt_of_ne nonzero with back | ahead
    · have far := Int.mul_le_mul_of_nonneg_left (show d ≤ -1 by omega) count
      exact .inr (by omega)
    · have far := Int.mul_le_mul_of_nonneg_left (show 1 ≤ d by omega) count
      exact .inl (by omega)
  by_cases level : dx = 0
  · have further := step dy fun upright => moving ⟨level, upright⟩
    omega
  · have further := step dx level
    omega

/-! ### Casting a ray -/

omit [DecidableEq ι] in
/-- Where a ray ends, if it is followed over some cells: at the first one that stops it, or behind
the last one. -/
private theorem castFrom_eq (stop : Coord → Option (RayHit ι)) (dx dy : Int) (cells : Nat)
    (c : Coord) (distance : Int) :
    ∃ steps ≤ cells, (∀ j < steps, stop (c.along dx dy j) = none) ∧
      ((steps = cells ∧ castFrom stop dx dy cells c distance = ⟨distance + steps, .nothing⟩) ∨
        ∃ hit, stop (c.along dx dy steps) = some hit ∧
          castFrom stop dx dy cells c distance = ⟨distance + steps, hit⟩) := by
  induction cells generalizing c distance with
  | zero => exact ⟨0, Nat.le_refl 0, by simp, .inl ⟨rfl, by simp [castFrom]⟩⟩
  | succ cells ih =>
    rw [castFrom]
    -- Either the ray ends at the very first cell, or it is the one from the next cell with a step
    -- added.
    cases here : stop c with
    | some hit => exact ⟨0, Nat.zero_le _, by simp, .inr ⟨hit, by simpa using here, by simp⟩⟩
    | none =>
      -- The ray goes on, and what comes behind this cell is one step further from it.
      obtain ⟨steps, few, passed, ends⟩ := ih (c.offset dx dy) (distance + 1)
      have further : distance + 1 + (steps : Int) = distance + ((steps + 1 : Nat) : Int) := by
        omega
      rw [← Coord.along_succ, further] at ends
      refine ⟨steps + 1, Nat.succ_le_succ few, fun j hj => ?_, ?_⟩
      · cases j with
        | zero => simpa using here
        | succ j =>
          rw [Coord.along_succ]
          exact passed j (Nat.lt_of_succ_lt_succ hj)
      · exact ends.imp_left fun ⟨all, ray⟩ => ⟨congrArg Nat.succ all, ray⟩

/-- The first obstacle of a ray: with so many steps it comes to a cell that stops it, and it has
passed over all cells before. -/
structure FirstObstacle (g : Grid) (viewer : ι) (occupants : List (ι × Coord)) (origin : Coord)
    (dx dy : Int) (steps : Nat) (hit : RayHit ι) : Prop where
  /-- The origin itself does not count. -/
  pos : 1 ≤ steps
  stops : g.Stops viewer occupants (origin.along dx dy steps) hit
  passes : ∀ j, 1 ≤ j → j < steps → g.Passes viewer occupants (origin.along dx dy j)

/-- A ray with a direction ends at its first obstacle. -/
theorem exists_firstObstacle (g : Grid) (viewer : ι) (occupants : List (ι × Coord))
    (origin : Coord) {dx dy : Int} (moving : ¬(dx = 0 ∧ dy = 0)) :
    ∃ (steps : Nat) (hit : RayHit ι),
      g.castRay origin dx dy viewer occupants = ⟨steps, hit⟩ ∧
        g.FirstObstacle viewer occupants origin dx dy steps hit := by
  obtain ⟨steps, few, passed, ends⟩ :=
    castFrom_eq (g.obstacle? viewer occupants) dx dy (max g.width g.height).toNat
      (origin.offset dx dy) 1
  have passes : ∀ j, 1 ≤ j → j < steps + 1 → g.Passes viewer occupants (origin.along dx dy j) := by
    intro j begun hj
    obtain ⟨j, rfl⟩ := Nat.exists_eq_add_of_le' begun
    rw [Coord.along_succ]
    exact obstacle?_eq_none_iff.mp (passed j (Nat.lt_of_succ_lt_succ hj))
  have count : (1 : Int) + steps = ((steps + 1 : Nat) : Int) := by omega
  rw [castRay, if_neg moving]
  rcases ends with ⟨all, ray⟩ | ⟨hit, stopped, ray⟩
  · -- The ray has passed over as many cells as the grid has room for.
    refine ⟨steps + 1, .nothing, count ▸ ray, Nat.succ_pos _, .edge fun far => ?_, passes⟩
    have wide := g.width_pos
    have first : g.Passes viewer occupants (origin.along dx dy 1) :=
      passes 1 (Nat.le_refl 1) (by omega)
    have behind : g.inBounds ((origin.along dx dy 1).along dx dy steps) := by
      rwa [Coord.along_along, Nat.add_comm]
    have room := steps_lt_of_inBounds moving first.inBounds behind
    omega
  · rw [← Coord.along_succ] at stopped
    exact ⟨steps + 1, hit, count ▸ ray, Nat.succ_pos _, obstacle?_eq_some_iff.mp stopped, passes⟩

omit [DecidableEq ι] in
/-- A ray that starts on the grid takes at most as many steps as the grid is wide or high. -/
theorem FirstObstacle.steps_le {origin : Coord} {dx dy : Int} {steps : Nat}
    (first : g.FirstObstacle viewer occupants origin dx dy steps hit)
    (moving : ¬(dx = 0 ∧ dy = 0)) (inside : g.inBounds origin) :
    (steps : Int) ≤ max g.width g.height := by
  obtain ⟨before, rfl⟩ := Nat.exists_eq_add_of_le' first.pos
  -- The last cell that the ray has passed over is on the grid, as the origin is.
  have last : g.inBounds (origin.along dx dy before) := by
    by_cases begun : 1 ≤ before
    · exact (first.passes before begun (Nat.lt_succ_self _)).inBounds
    · obtain rfl : before = 0 := by omega
      simpa using inside
  have room := steps_lt_of_inBounds moving inside last
  omega

/-! ### The walk as a loop -/

/-- The walk of a ray as a loop: go on by a step, and see whether the cell stops it. -/
inductive Walks (stop : Coord → Option (RayHit ι)) (dx dy : Int) : Coord → Int → Ray ι → Prop
  | stopped {c : Coord} {distance : Int} {hit : RayHit ι} : stop (c.offset dx dy) = some hit →
    Walks stop dx dy c distance ⟨distance + 1, hit⟩
  | on {c : Coord} {distance : Int} {ray : Ray ι} : stop (c.offset dx dy) = none →
    Walks stop dx dy (c.offset dx dy) (distance + 1) ray → Walks stop dx dy c distance ray

omit [DecidableEq ι] in
/-- The walk of a ray ends in one way only. -/
theorem Walks.unique {stop : Coord → Option (RayHit ι)} {dx dy distance : Int} {ray ray' : Ray ι}
    (h : Walks stop dx dy c distance ray) (h' : Walks stop dx dy c distance ray') :
    ray = ray' := by
  induction h with
  | stopped here =>
    cases h' with
    | stopped here' => rw [Option.some.inj (here.symm.trans here')]
    | on here' => exact absurd (here.symm.trans here') nofun
  | on here _ ih =>
    cases h' with
    | stopped here' => exact absurd (here.symm.trans here') nofun
    | on _ rest => exact ih rest

omit [DecidableEq ι] in
/-- A loop that comes to a cell that stops it ends there. -/
private theorem walks_of_stopped {stop : Coord → Option (RayHit ι)} {dx dy : Int} {steps : Nat}
    (passed : ∀ j, 1 ≤ j → j < steps + 1 → stop (c.along dx dy j) = none)
    (stopped : stop (c.along dx dy (steps + 1)) = some hit) (distance : Int) :
    Walks stop dx dy c distance ⟨distance + (steps + 1 : Nat), hit⟩ := by
  induction steps generalizing c distance with
  | zero => exact .stopped (by rwa [Coord.along_one] at stopped)
  | succ steps ih =>
    have further : distance + ((steps + 1 + 1 : Nat) : Int) =
        distance + 1 + ((steps + 1 : Nat) : Int) := by omega
    rw [further]
    -- The first cell is passed over, and from there the obstacle is one step nearer.
    refine .on ?_ (ih (fun j begun hj => ?_) ?_ _)
    · rw [← Coord.along_one]
      exact passed 1 (Nat.le_refl 1) (by omega)
    · rw [← Coord.along_succ]
      exact passed (j + 1) (by omega) (by omega)
    · rwa [← Coord.along_succ]

/-- **A ray ends at its first obstacle.** Wherever a ray starts, on the grid or off it, if it has a
direction it comes to a cell that stops it, and the first such cell is where it ends. The walk
that counts no cells ends there, too. A ray that starts on the grid takes at most as many steps as
the grid is wide or high. -/
theorem castRay_first_obstacle (g : Grid) (origin : Coord) {dx dy : Int}
    (moving : ¬(dx = 0 ∧ dy = 0)) (viewer : ι) (occupants : List (ι × Coord)) :
    let ray := g.castRay origin dx dy viewer occupants
    (∀ ray', Walks (g.obstacle? viewer occupants) dx dy origin 0 ray' ↔ ray' = ray) ∧
      ∃ steps : Nat, ray.distance = steps ∧
        g.FirstObstacle viewer occupants origin dx dy steps ray.hit ∧
        (g.inBounds origin → ray.distance ≤ max g.width g.height) := by
  intro ray
  obtain ⟨steps, hit, ends, first⟩ := g.exists_firstObstacle viewer occupants origin moving
  have ends : ray = ⟨steps, hit⟩ := ends
  obtain ⟨before, rfl⟩ := Nat.exists_eq_add_of_le' first.pos
  -- The counted ray has a first obstacle, and the uncounted walk comes to the same one.
  have walks : Walks (g.obstacle? viewer occupants) dx dy origin 0 ray := by
    have walked := walks_of_stopped
      (fun j begun hj => obstacle?_eq_none_iff.mpr (first.passes j begun hj))
      (obstacle?_eq_some_iff.mpr first.stops) 0
    rwa [Int.zero_add, ← ends] at walked
  refine ⟨fun ray' => ⟨fun walks' => walks'.unique walks, fun same => same ▸ walks⟩,
    before + 1, congrArg Ray.distance ends, (congrArg Ray.hit ends).symm ▸ first, fun inside => ?_⟩
  rw [ends]
  exact first.steps_le moving inside

/-- A ray that leaves a tank to the lower right passes over the tank itself and ends at the first of
two tanks on one cell. -/
theorem castRay_first_obstacle_two_tanks :
    let g := (Grid.square 5).addWalls [⟨4, 3⟩]
    let occupants : List (Nat × Coord) := [(7, ⟨1, 0⟩), (7, ⟨2, 1⟩), (3, ⟨3, 2⟩), (5, ⟨3, 2⟩)]
    ¬((1 : Int) = 0 ∧ (1 : Int) = 0) ∧ g.castRay ⟨1, 0⟩ 1 1 7 occupants = ⟨2, .tank 3⟩ ∧
      Walks (g.obstacle? 7 occupants) 1 1 ⟨1, 0⟩ 0 ⟨2, .tank 3⟩ ∧
      g.FirstObstacle 7 occupants ⟨1, 0⟩ 1 1 2 (.tank 3) := by
  intro g occupants
  have moving : ¬((1 : Int) = 0 ∧ (1 : Int) = 0) := by decide
  have ray : g.castRay ⟨1, 0⟩ 1 1 7 occupants = ⟨2, .tank 3⟩ := by decide +kernel
  obtain ⟨walks, steps, distance, first, -⟩ := castRay_first_obstacle g ⟨1, 0⟩ moving 7 occupants
  rw [ray] at walks distance first
  obtain rfl : steps = 2 := by
    dsimp only at distance
    omega
  exact ⟨moving, ray, (walks _).mpr rfl, first⟩

end Grid

end TankDuel

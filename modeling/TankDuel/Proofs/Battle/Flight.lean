import TankDuel.Battle.Bullet

/-!
# Flights

What a flight in one turn leaves: the bullet itself if it stays in the air
(`Flight.survivor?`), or a hit (`Flight.strikes`).

`Bullet.survives` says what a bullet that stays in the air looks like: it is the same bullet, either
where it was or further on, on floor and within its range.

A flight does not look at the number or at the owner of the bullet; the owner only decides which
enemy it is given (`Bullet.flight_relabel`).
-/

namespace TankDuel

namespace Flight

variable {ι κ : Type}

/-- The bullet, if it is still in the air. -/
def survivor? : Flight ι → Option (Bullet ι)
  | aloft bullet => some bullet
  | _ => none

/-- Whether the bullet has struck a tank. -/
def strikes : Flight ι → Bool
  | struck _ => true
  | _ => false

/-- Change the bullet that is still in the air. -/
def map (f : Bullet ι → Bullet κ) : Flight ι → Flight κ
  | aloft bullet => .aloft (f bullet)
  | spent => .spent
  | crashed wall => .crashed wall
  | struck cell => .struck cell

/-- A bullet survives under any name. -/
@[simp] theorem survivor?_map (f : Bullet ι → Bullet κ) (flight : Flight ι) :
    (flight.map f).survivor? = flight.survivor?.map f := by cases flight <;> rfl

/-- A bullet strikes under any name. -/
@[simp] theorem strikes_map (f : Bullet ι → Bullet κ) (flight : Flight ι) :
    (flight.map f).strikes = flight.strikes := by cases flight <;> rfl

/-- The bullets that stay in the air survive. -/
theorem survivor?_eq_some_iff {flight : Flight ι} {bullet : Bullet ι} :
    flight.survivor? = some bullet ↔ flight = .aloft bullet := by cases flight <;> simp [survivor?]

end Flight

namespace Bullet

variable {ι κ : Type}

/-- The same bullet with another number and owner. -/
def relabel (id : Nat) (owner : κ) (m : Bullet ι) : Bullet κ where
  id := id
  position := m.position
  dx := m.dx
  dy := m.dy
  owner := owner
  distance := m.distance

variable {grid : Grid} {range : Int} {enemy : Option Coord}

/-- How a bullet can stay in the air over some cells. -/
private theorem fly_eq_aloft {cells : Nat} {m m' : Bullet ι}
    (h : m.fly grid range enemy cells = .aloft m') :
    m'.id = m.id ∧ m'.owner = m.owner ∧
      (m' = m ∨ m.distance < m'.distance ∧ m'.distance ≤ range ∧ grid.isFloor m'.position) := by
  induction cells generalizing m with
  | zero =>
    obtain rfl : m = m' := by simpa [fly] using h
    exact ⟨rfl, rfl, .inl rfl⟩
  | succ cells ih =>
    rw [fly] at h
    -- The bullet passes every check, for else it would not be in the air.
    split at h
    · exact absurd h (by simp)
    next inRange =>
    split at h
    · exact absurd h (by simp)
    next inBounds =>
    split at h
    · exact absurd h (by simp)
    next noWall =>
    split at h
    · exact absurd h (by simp)
    obtain ⟨sameId, sameOwner, same | ⟨further, near, floor⟩⟩ := ih h
    · -- The turn of the bullet ends on the next cell.
      subst same
      have floor : grid.isFloor m.nextCell := by
        simpa [Grid.isFloor, noWall] using inBounds
      exact ⟨rfl, rfl, .inr ⟨Int.lt_succ _, Int.not_lt.mp inRange, floor⟩⟩
    · refine ⟨sameId, sameOwner, .inr ⟨?_, near, floor⟩⟩
      have step : m.distance + 1 < m'.distance := further
      omega

/-- **A bullet that stays in the air** keeps its number and its owner. It is where it was, or
further on, within its range and on floor. -/
theorem survives {speed : Nat} {m m' : Bullet ι}
    (h : (m.flight grid range speed enemy).survivor? = some m') :
    m'.id = m.id ∧ m'.owner = m.owner ∧
      (m' = m ∨ m.distance < m'.distance ∧ m'.distance ≤ range ∧ grid.isFloor m'.position) := by
  rw [Flight.survivor?_eq_some_iff, flight] at h
  split at h
  · exact absurd h (by simp)
  · exact fly_eq_aloft h

/-- How a bullet flies does not depend on its number or its owner. -/
private theorem fly_relabel (id : Nat) (owner : κ) (cells : Nat) (m : Bullet ι) :
    (m.relabel id owner).fly grid range enemy cells =
      (m.fly grid range enemy cells).map (relabel id owner) := by
  induction cells generalizing m with
  | zero => rfl
  | succ cells ih =>
    rw [fly, fly]
    -- All that is asked at a cell is the place and the distance, which are the same.
    have sameCell : (m.relabel id owner).nextCell = m.nextCell := rfl
    have sameDistance : (m.relabel id owner).distance = m.distance := rfl
    rw [sameCell, sameDistance]
    split
    · rfl
    split
    · rfl
    split
    · rfl
    split
    · rfl
    exact ih { m with position := m.nextCell, distance := m.distance + 1 }

/-- A flight looks at neither number nor owner. -/
theorem flight_relabel (id : Nat) (owner : κ) (speed : Nat) (m : Bullet ι) :
    (m.relabel id owner).flight grid range speed enemy =
      (m.flight grid range speed enemy).map (relabel id owner) := by
  unfold flight
  have samePlace : (m.relabel id owner).position = m.position := rfl
  rw [samePlace]
  split
  · rfl
  · exact fly_relabel id owner speed m

end Bullet

end TankDuel

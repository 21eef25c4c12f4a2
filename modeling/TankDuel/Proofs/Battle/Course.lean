import TankDuel.Proofs.Arena.Obstacle
import TankDuel.Proofs.Battle.Flight

/-!
# The course of a bullet

A flight goes cell by cell and checks each cell as it comes to it. This file says what comes of that
without going through the cells. A bullet strikes a tank that is on its own cell. Otherwise its
flight ends at the first step that something ends (`Bullet.FirstEnd`), and if there is no such step
in this turn, the bullet stays in the air, as many cells further on as it is fast. `Bullet.Flies`
puts these cases together; `Bullet.flight_eq_iff` says that this is how bullets fly.

Two things follow. No tank is flown through: a bullet strikes iff its enemy stands on one of the
cells that the bullet can reach in this turn (`Bullet.strikes_flight_iff`). And the flights of
several turns are one flight in pieces: where each of them starts makes no difference to where the
bullet ends (`Bullet.FirstEnd.flies_on` and `Bullet.FirstEnd.flies_out`).
-/

namespace TankDuel

namespace Flight

variable {ι : Type} (grid : Grid) (range : Int) (enemy : Option Coord) (distance : Int) (c : Coord)

/-- A bullet that has come so far flies on over a cell. -/
structure Passes : Prop where
  inRange : distance ≤ range
  inBounds : grid.inBounds c
  noWall : ¬grid.isWall c
  free : enemy ≠ some c

/-- How the flight of a bullet that has come so far ends at a cell. The range comes first and the
edge of the grid second; neither leaves a trace. -/
inductive EndsAt : Flight ι → Prop
  | range : range < distance → EndsAt .spent
  | edge : distance ≤ range → ¬grid.inBounds c → EndsAt .spent
  | wall : distance ≤ range → grid.inBounds c → grid.isWall c → EndsAt (.crashed c)
  | tank : distance ≤ range → grid.inBounds c → ¬grid.isWall c → enemy = some c →
    EndsAt (.struck c)

variable {grid range enemy distance c} {f f' : Flight ι}

/-- A bullet does not end where it passes. -/
theorem EndsAt.not_passes (h : EndsAt grid range enemy distance c f) :
    ¬Passes grid range enemy distance c := by
  intro passes
  cases h with
  | range far => exact absurd passes.inRange (Int.not_le.mpr far)
  | edge _ outside => exact outside passes.inBounds
  | wall _ _ wall => exact passes.noWall wall
  | tank _ _ _ there => exact passes.free there

/-- A bullet ends in one way at a place. -/
theorem EndsAt.unique (h : EndsAt grid range enemy distance c f)
    (h' : EndsAt grid range enemy distance c f') : f = f' := by
  cases h with
  | range far =>
    cases h' with
    | range | edge => rfl
    | wall near | tank near => exact absurd near (Int.not_le.mpr far)
  | edge near outside =>
    cases h' with
    | range | edge => rfl
    | wall _ inside | tank _ inside => exact absurd inside outside
  | wall near inside wall =>
    cases h' with
    | range far => exact absurd near (Int.not_le.mpr far)
    | edge _ outside => exact absurd inside outside
    | wall => rfl
    | tank _ _ noWall => exact absurd wall noWall
  | tank near inside noWall =>
    cases h' with
    | range far => exact absurd near (Int.not_le.mpr far)
    | edge _ outside => exact absurd inside outside
    | wall _ _ wall => exact absurd wall noWall
    | tank => rfl

end Flight

namespace Bullet

variable {ι : Type}

/-- The cell that a bullet comes to after some steps. -/
def cell (m : Bullet ι) (steps : Nat) : Coord := m.position.along m.dx m.dy steps

/-- A bullet that has flown on by some steps. -/
def advance (m : Bullet ι) (steps : Nat) : Bullet ι :=
  { m with
    position := m.cell steps
    distance := m.distance + steps }

section Steps

variable (m : Bullet ι) (i j : Nat)

/-- At the start a bullet is where it is. -/
@[simp] theorem cell_zero : m.cell 0 = m.position := Coord.along_zero ..

/-- The first cell that a bullet comes to is the next one. -/
private theorem cell_one : m.cell 1 = m.nextCell := Coord.along_one ..

/-- The cells of a bullet that has been moved on are those further on. -/
private theorem cell_advance : (m.advance i).cell j = m.cell (i + j) := Coord.along_along ..

/-- The distance grows by one with each cell. -/
theorem distance_advance : (m.advance i).distance + j = m.distance + (i + j : Nat) := by
  rw [advance, Int.natCast_add, Int.add_assoc]

/-- A bullet that is moved on by nothing stays. -/
@[simp] theorem advance_zero : m.advance 0 = m := by
  simp [advance]

/-- A bullet can be moved on in two goes. -/
theorem advance_advance : (m.advance i).advance j = m.advance (i + j) := by
  rw [advance, cell_advance, distance_advance]
  rfl

end Steps

/-! ### The first end -/

variable (grid : Grid) (range : Int) (enemy : Option Coord) (m : Bullet ι)

/-- Nothing ends a flight at its `j`-th step. -/
def Clear (j : Nat) : Prop := Flight.Passes grid range enemy (m.distance + j) (m.cell j)

/-- A flight ends at its `j`-th step, and nothing has ended it before. -/
structure FirstEnd (j : Nat) (f : Flight ι) : Prop where
  /-- The cell where the bullet is does not count. -/
  pos : 1 ≤ j
  clear : ∀ i, 1 ≤ i → i < j → m.Clear grid range enemy i
  ends : Flight.EndsAt grid range enemy (m.distance + j) (m.cell j) f

/-- How a bullet flies in one turn. -/
inductive Flies (speed : Nat) : Flight ι → Prop
  /-- The enemy is where the bullet is. -/
  | onTank : enemy = some m.position → Flies speed (.struck m.position)
  | ends {j : Nat} {f : Flight ι} : enemy ≠ some m.position → m.FirstEnd grid range enemy j f →
    j ≤ speed → Flies speed f
  | goesOn : enemy ≠ some m.position → (∀ i, 1 ≤ i → i ≤ speed → m.Clear grid range enemy i) →
    Flies speed (.aloft (m.advance speed))

variable {grid : Grid} {range : Int} {enemy : Option Coord} {m : Bullet ι} {i j speed : Nat}
  {f f' : Flight ι}

/-- A flight has one end only. -/
theorem FirstEnd.unique (h : m.FirstEnd grid range enemy i f)
    (h' : m.FirstEnd grid range enemy j f') : i = j ∧ f = f' := by
  rcases Nat.lt_trichotomy i j with less | rfl | more
  · exact absurd (h'.clear i h.pos less) h.ends.not_passes
  · exact ⟨rfl, h.ends.unique h'.ends⟩
  · exact absurd (h.clear j h'.pos more) h'.ends.not_passes

/-- A flight has one result. -/
theorem Flies.unique (h : m.Flies grid range enemy speed f)
    (h' : m.Flies grid range enemy speed f') : f = f' := by
  -- A bullet that is on a tank goes nowhere, and one whose course is clear comes to no end.
  cases h with
  | onTank here =>
    cases h' with
    | onTank => rfl
    | ends apart | goesOn apart => exact absurd here apart
  | ends apart first soon =>
    cases h' with
    | onTank here => exact absurd here apart
    | ends _ first' => exact (first.unique first').2
    | goesOn _ clear => exact absurd (clear _ first.pos soon) first.ends.not_passes
  | goesOn apart clear =>
    cases h' with
    | onTank here => exact absurd here apart
    | ends _ first soon => exact absurd (clear _ first.pos soon) first.ends.not_passes
    | goesOn => rfl

/-! ### A flight in pieces -/

/-- The course of a bullet that has been moved on is the rest of its course. -/
private theorem clear_advance_iff :
    (m.advance i).Clear grid range enemy j ↔ m.Clear grid range enemy (i + j) := by
  rw [Clear, Clear, distance_advance, cell_advance]

/-- A step later the end is a step nearer. -/
theorem FirstEnd.of_advance (clear : ∀ k, 1 ≤ k → k ≤ i → m.Clear grid range enemy k)
    (h : (m.advance i).FirstEnd grid range enemy j f) : m.FirstEnd grid range enemy (i + j) f where
  pos := Nat.le_trans h.pos (Nat.le_add_left j i)
  clear := by
    intro k begun before
    by_cases early : k ≤ i
    · exact clear k begun early
    · obtain ⟨k, rfl⟩ := Nat.exists_eq_add_of_le (Nat.le_of_not_le early)
      exact clear_advance_iff.mp (h.clear k (by omega) (by omega))
  ends := by
    have ends := h.ends
    rwa [distance_advance, cell_advance] at ends

/-- A step later the first end is a step nearer. -/
theorem FirstEnd.advance (h : m.FirstEnd grid range enemy j f) (before : i < j) :
    (m.advance i).FirstEnd grid range enemy (j - i) f where
  pos := Nat.le_sub_of_add_le' before
  clear := by
    intro k begun early
    exact clear_advance_iff.mpr (h.clear (i + k) (by omega) (by omega))
  ends := by
    rw [distance_advance, cell_advance, Nat.add_sub_cancel' (Nat.le_of_lt before)]
    exact h.ends

/-- The enemy is neither where the bullet is nor on a cell that the bullet flies over. -/
private theorem ne_cell (apart : enemy ≠ some m.position)
    (clear : 1 ≤ j → m.Clear grid range enemy j) : enemy ≠ some (m.cell j) := by
  cases j with
  | zero => rwa [cell_zero]
  | succ j => exact (clear (Nat.succ_pos j)).free

/-- **A flight in pieces.** A turn in which a bullet does not come to its end takes it on. -/
theorem FirstEnd.flies_on (h : m.FirstEnd grid range enemy j f) (apart : enemy ≠ some m.position)
    (before : i + speed < j) :
    (m.advance i).Flies grid range enemy speed (.aloft (m.advance (i + speed))) := by
  rw [← advance_advance]
  refine .goesOn (ne_cell apart fun begun => h.clear i begun (by omega)) fun k begun early => ?_
  exact clear_advance_iff.mpr (h.clear (i + k) (by omega) (by omega))

/-- **A flight in pieces.** In the turn in which a bullet comes to its end, it ends as it would have
in one flight. -/
theorem FirstEnd.flies_out (h : m.FirstEnd grid range enemy j f) (apart : enemy ≠ some m.position)
    (before : i < j) (soon : j ≤ i + speed) : (m.advance i).Flies grid range enemy speed f :=
  .ends (ne_cell apart fun begun => h.clear i begun before) (h.advance before)
    (Nat.sub_le_iff_le_add'.mpr soon)

/-! ### How bullets fly -/

/-- Some cells flown over one by one: a flight comes to its end, or to the last of them. -/
private theorem fly_eq_end_or_aloft (grid : Grid) (range : Int) (enemy : Option Coord) (cells : Nat)
    (m : Bullet ι) :
    (∃ j ≤ cells, m.FirstEnd grid range enemy j (m.fly grid range enemy cells)) ∨
      (∀ i, 1 ≤ i → i ≤ cells → m.Clear grid range enemy i) ∧
        m.fly grid range enemy cells = .aloft (m.advance cells) := by
  induction cells generalizing m with
  | zero =>
    refine .inr ⟨fun i begun late => by omega, ?_⟩
    rw [fly, advance_zero]
  | succ cells ih =>
    -- What ends the flight on the next cell is its end.
    have ends {f : Flight ι}
        (here : Flight.EndsAt grid range enemy (m.distance + 1) m.nextCell f) :
        ∃ j ≤ cells + 1, m.FirstEnd grid range enemy j f := by
      refine ⟨1, Nat.succ_pos cells, Nat.le_refl 1, fun i begun late => by omega, ?_⟩
      rwa [cell_one]
    rw [fly]
    split
    next far => exact .inl (ends (.range far))
    next near =>
    have near : m.distance + 1 ≤ range := Int.not_lt.mp near
    split
    next outside => exact .inl (ends (.edge near (by simpa using outside)))
    next inside =>
    have inside : grid.inBounds m.nextCell := by simpa using inside
    split
    next wall => exact .inl (ends (.wall near inside wall))
    next noWall =>
    split
    next there => exact .inl (ends (.tank near inside noWall there))
    next free =>
    -- Otherwise it goes on from there, and what it meets then is one step further away.
    have first : m.Clear grid range enemy 1 := by
      rw [Clear, cell_one]
      exact ⟨near, inside, noWall, free⟩
    have onward : { m with position := m.nextCell, distance := m.distance + 1 } = m.advance 1 := by
      rw [advance, cell_one]
      rfl
    rw [onward]
    rcases ih (m.advance 1) with ⟨j, soon, first'⟩ | ⟨clear, aloft⟩
    · refine .inl ⟨1 + j, by omega, first'.of_advance fun k begun last => ?_⟩
      obtain rfl : k = 1 := Nat.le_antisymm last begun
      exact first
    · refine .inr ⟨fun i begun last => ?_, ?_⟩
      · obtain ⟨i, rfl⟩ := Nat.exists_eq_add_of_le begun
        by_cases next : i = 0
        · exact next ▸ first
        · exact clear_advance_iff.mp (clear i (by omega) (by omega))
      · rw [aloft, advance_advance, Nat.add_comm]

/-- **How bullets fly.** -/
theorem flight_eq_iff :
    m.flight grid range speed enemy = f ↔ m.Flies grid range enemy speed f := by
  have flies : m.Flies grid range enemy speed (m.flight grid range speed enemy) := by
    rw [flight]
    split
    next here => exact .onTank here
    next apart =>
    rcases fly_eq_end_or_aloft grid range enemy speed m with ⟨j, soon, first⟩ | ⟨clear, aloft⟩
    · exact .ends apart first soon
    · rw [aloft]
      exact .goesOn apart clear
  constructor
  · intro same
    exact same ▸ flies
  · intro flies'
    exact flies.unique flies'

/-- **No tank is flown through.** A bullet strikes iff its enemy stands where it is, or on a cell
that it comes to in this turn, within its range and over floor only. -/
theorem strikes_flight_iff :
    (m.flight grid range speed enemy).strikes ↔
      ∃ j ≤ speed, enemy = some (m.cell j) ∧
        ∀ i, 1 ≤ i → i ≤ j → m.distance + i ≤ range ∧ grid.isFloor (m.cell i) := by
  have flies := flight_eq_iff.mp (Eq.refl (m.flight grid range speed enemy))
  generalize m.flight grid range speed enemy = f at flies
  constructor
  · intro struck
    cases flies with
    | onTank here =>
      refine ⟨0, Nat.zero_le speed, ?_, fun i begun late => by omega⟩
      rwa [cell_zero]
    | @ends j _ apart first soon =>
      -- Of the ways in which a flight ends, one is a hit.
      cases first.ends with
      | range | edge | wall => exact absurd struck Bool.false_ne_true
      | tank near inside noWall there =>
        refine ⟨j, soon, there, fun i begun last => ?_⟩
        rcases Nat.lt_or_eq_of_le last with before | rfl
        · have clear := first.clear i begun before
          exact ⟨clear.inRange, Grid.isFloor_iff.mpr ⟨clear.inBounds, clear.noWall⟩⟩
        · exact ⟨near, Grid.isFloor_iff.mpr ⟨inside, noWall⟩⟩
    | goesOn => exact absurd struck Bool.false_ne_true
  · rintro ⟨j, soon, there, reach⟩
    cases flies with
    | onTank => rfl
    | @ends last _ apart first =>
      -- The flight cannot end behind the enemy, and up to there nothing else ends it.
      have reached : last ≤ j := by
        by_contra behind
        exact ne_cell apart (fun begun => first.clear j begun (by omega)) there
      obtain ⟨near, floor⟩ := reach last first.pos reached
      obtain ⟨inside, noWall⟩ := Grid.isFloor_iff.mp floor
      cases first.ends with
      | range far => exact absurd near (Int.not_le.mpr far)
      | edge _ outside => exact absurd inside outside
      | wall _ _ wall => exact absurd wall noWall
      | tank => rfl
    | goesOn apart clear =>
      exact absurd there (ne_cell apart fun begun => clear j begun soon)

end Bullet

end TankDuel

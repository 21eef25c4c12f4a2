/-!
# The two sides of a duel

A duel has exactly two tanks. `Side` names them, `Pair α` holds one `α` for each of them.
A side is shown to players by its number, 1 or 2, and `Side.ofNumber?` reads a number back:
every other number names no tank.
-/

namespace TankDuel

/-- The tank that is handled **first** or **second** in every phase of a turn. -/
inductive Side where
  | first
  | second
deriving DecidableEq

namespace Side

/-- The opponent. -/
def other : Side → Side
  | first => second
  | second => first

/-- The number players know a side by. -/
def number : Side → Nat
  | first => 1
  | second => 2

/-- The side with a given number, if there is one. -/
def ofNumber? : Nat → Option Side
  | 1 => some first
  | 2 => some second
  | _ => none

/-- The short name of a side in messages. -/
def label (side : Side) : String := s!"P{side.number}"

/-- Both sides, in the order in which phases handle them. -/
def all : List Side := [first, second]

/-- The opponent of the opponent is the tank itself. -/
@[simp] theorem other_other (side : Side) : side.other.other = side := by cases side <;> rfl

/-- A side is found by its own number. -/
@[simp] theorem ofNumber?_number (side : Side) : ofNumber? side.number = some side := by
  cases side <;> rfl

/-- No tank is its own opponent. -/
@[simp] theorem other_ne (side : Side) : side.other ≠ side := by cases side <;> decide

/-- There are only two sides. -/
theorem ne_iff {a b : Side} : a ≠ b ↔ a = b.other := by cases a <;> cases b <;> decide

/-- Being the opponent goes both ways. -/
theorem other_eq_iff {a b : Side} : a.other = b ↔ a = b.other := by
  cases a <;> cases b <;> decide

/-- Different tanks have different opponents. -/
@[simp] theorem other_inj {a b : Side} : a.other = b.other ↔ a = b := by
  rw [other_eq_iff, other_other]

/-- The numbers tell the sides apart. -/
theorem number_injective {a b : Side} (h : a.number = b.number) : a = b := by
  cases a <;> cases b <;> first | rfl | exact absurd h (by decide)

/-- A number that a side has is the number of that side only. -/
theorem ofNumber?_eq_some_iff {n : Nat} {side : Side} :
    ofNumber? n = some side ↔ n = side.number := by
  constructor
  · intro h
    unfold ofNumber? at h
    split at h
    · exact Option.some.inj h ▸ rfl
    · exact Option.some.inj h ▸ rfl
    · exact absurd h (by simp)
  · rintro rfl
    exact ofNumber?_number side

end Side

/-- One value for each side. -/
structure Pair (α : Type) where
  first : α
  second : α
deriving DecidableEq

namespace Pair

variable {α β : Type}

/-- The value of one side. -/
def get (p : Pair α) : Side → α
  | .first => p.first
  | .second => p.second

/-- Replace the value of one side. -/
def set (p : Pair α) (side : Side) (a : α) : Pair α :=
  match side with
  | .first => { p with first := a }
  | .second => { p with second := a }

/-- Change the value of one side. -/
def modify (p : Pair α) (side : Side) (f : α → α) : Pair α :=
  match side with
  | .first => { p with first := f p.first }
  | .second => { p with second := f p.second }

/-- Apply a function on both sides. -/
def map (f : α → β) (p : Pair α) : Pair β := ⟨f p.first, f p.second⟩

/-- Build a pair from a function of the side. -/
def ofFn (f : Side → α) : Pair α := ⟨f .first, f .second⟩

/-- Exchange the two sides. -/
def swap (p : Pair α) : Pair α := ⟨p.second, p.first⟩

/-- Both values, the first side's first. -/
def toList (p : Pair α) : List α := [p.first, p.second]

/-- A pair that is built from a function has its values. -/
@[simp] theorem get_ofFn (f : Side → α) (side : Side) : (ofFn f).get side = f side := by
  cases side <;> rfl

/-- Applying a function on both sides applies it on each. -/
@[simp] theorem get_map (f : α → β) (p : Pair α) (side : Side) :
    (p.map f).get side = f (p.get side) := by cases side <;> rfl

/-- The side that was replaced has the new value. -/
@[simp] theorem get_set_self (p : Pair α) (side : Side) (a : α) : (p.set side a).get side = a := by
  cases side <;> rfl

/-- After an exchange each side has the value of the other. -/
@[simp] theorem get_swap (p : Pair α) (side : Side) : p.swap.get side = p.get side.other := by
  cases side <;> rfl

/-- The other side keeps its value. -/
theorem get_set (p : Pair α) (a b : Side) (x : α) :
    (p.set a x).get b = if b = a then x else p.get b := by
  cases a <;> cases b <;> rfl

/-- The other side keeps its value. -/
theorem get_modify (p : Pair α) (a b : Side) (f : α → α) :
    (p.modify a f).get b = if b = a then f (p.get b) else p.get b := by
  cases a <;> cases b <;> rfl

/-- A pair is determined by its values. -/
theorem ext_get {p q : Pair α} (h : ∀ side, p.get side = q.get side) : p = q := by
  obtain ⟨a, b⟩ := p
  obtain ⟨c, d⟩ := q
  obtain rfl : a = c := h .first
  obtain rfl : b = d := h .second
  rfl

end Pair

end TankDuel

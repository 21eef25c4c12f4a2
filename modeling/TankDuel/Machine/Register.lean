import TankDuel.Text.Caseless

/-!
# Registers

A tank's machine has fourteen named registers. Eight are free for the program's use. `PC` holds
the address of the next instruction and can be read but not written. Five are **sensors**: they
show the tank's own state and are renewed before every step, so what a program writes there is
lost again before anything reads it.
-/

namespace TankDuel

/-- The registers, in slot order. -/
inductive Register where
  | acc
  | cmp
  | r0
  | r1
  | r2
  | r3
  | r4
  | r5
  | pc
  | px
  | py
  | dir
  | hp
  | ammo
deriving DecidableEq

namespace Register

/-- Every register, in slot order. -/
def all : List Register := [acc, cmp, r0, r1, r2, r3, r4, r5, pc, px, py, dir, hp, ammo]

/-- The spelling of a register in a program. -/
def name : Register → String
  | acc => "ACC"
  | cmp => "CMP"
  | r0 => "R0"
  | r1 => "R1"
  | r2 => "R2"
  | r3 => "R3"
  | r4 => "R4"
  | r5 => "R5"
  | pc => "PC"
  | px => "PX"
  | py => "PY"
  | dir => "DIR"
  | hp => "HP"
  | ammo => "AMMO"

/-- The slot of a register. -/
def index : Register → Fin 14
  | acc => 0
  | cmp => 1
  | r0 => 2
  | r1 => 3
  | r2 => 4
  | r3 => 5
  | r4 => 6
  | r5 => 7
  | pc => 8
  | px => 9
  | py => 10
  | dir => 11
  | hp => 12
  | ammo => 13

/-- The register a word names, letter case ignored. -/
def ofName? (word : String) : Option Register := Text.findNamed? name all word

/-- Whether a program may name this register as a destination. -/
def isWritable (r : Register) : Bool := r ≠ pc

/-- Whether this register shows the tank's own state. -/
def isSensor : Register → Bool
  | px | py | dir | hp | ammo => true
  | _ => false

/-- Registers are told apart by their numbers. -/
theorem index_injective {r s : Register} (h : r.index = s.index) : r = s := by
  cases r <;> cases s <;> first | rfl | exact absurd h (by decide)

end Register

end TankDuel

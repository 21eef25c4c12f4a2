import TankDuel.Machine.Register

/-!
# The register file

Registers hold 32-bit signed words. `write` is the way programs and sensors change a register and
leaves `PC` alone; `setPc` moves the program counter. Addresses beyond the largest word are stored
as that word.

`get_write`, `get_setPc` and `pc_setPc` say what every register holds afterwards.
-/

namespace TankDuel

/-- The contents of the fourteen registers, by slot. -/
structure RegisterFile where
  slots : Vector Int32 14
deriving DecidableEq

namespace RegisterFile

/-- All registers hold zero. -/
def zero : RegisterFile := ⟨Vector.replicate 14 0⟩

/-- The contents of a register. -/
def get (regs : RegisterFile) (r : Register) : Int32 := regs.slots[r.index]

/-- Put a word into a slot, whichever it is. -/
def store (regs : RegisterFile) (r : Register) (value : Int32) : RegisterFile :=
  ⟨regs.slots.set r.index.val value r.index.isLt⟩

/-- Write a register; a write to `PC` has no effect. -/
def write (regs : RegisterFile) (r : Register) (value : Int32) : RegisterFile :=
  if r = .pc then regs else regs.store r value

/-- The address in `PC`. -/
def pc (regs : RegisterFile) : Nat := (regs.get .pc).toInt.toNat

/-- Move the program counter. -/
def setPc (regs : RegisterFile) (address : Nat) : RegisterFile :=
  regs.store .pc (Int32.ofNat (min address 2147483647))

/-- The contents of all registers, in slot order. -/
def toList (regs : RegisterFile) : List Int32 := Register.all.map regs.get

/-- A register that is stored has the value, and the others stay. -/
theorem get_store (regs : RegisterFile) (r s : Register) (value : Int32) :
    (regs.store r value).get s = if r = s then value else regs.get s := by
  simp only [store, get, Fin.getElem_fin, Vector.getElem_set]
  by_cases same : r = s
  · simp [same]
  · have apart : r.index.val ≠ s.index.val :=
      fun h => same (Register.index_injective (Fin.ext h))
    simp [same, apart]

/-- A register that is written has the value, unless it is the program counter. -/
theorem get_write (regs : RegisterFile) (r s : Register) (value : Int32) :
    (regs.write r value).get s = if r = s ∧ r ≠ .pc then value else regs.get s := by
  by_cases h : r = .pc <;> simp [write, h, get_store]

/-- Setting the program counter changes no other register. -/
theorem get_setPc (regs : RegisterFile) (address : Nat) {s : Register} (h : s ≠ .pc) :
    (regs.setPc address).get s = regs.get s := by
  simp [setPc, get_store, Ne.symm h]

/-- The program counter goes as far as a word can tell. -/
theorem pc_setPc (regs : RegisterFile) (address : Nat) :
    (regs.setPc address).pc = min address 2147483647 := by
  have small : min address 2147483647 < 2 ^ 31 := by omega
  rw [pc, setPc, get_store, if_pos rfl, Int32.toInt_ofNat_of_lt small, Int.toNat_natCast]

end RegisterFile

end TankDuel

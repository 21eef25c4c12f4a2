import Mathlib.Data.Int.ModEq
import TankDuel.Proofs.Machine.Execution

/-!
# Arithmetic on signed words

What an instruction of arithmetic has to compute is said of numbers without bounds, while a register
holds a 32-bit signed word. This file says how the two go together (`Instruction.arithmetic_exact`).

* **Results.** `Instruction.Calculates` says what each of the eight instructions has to come to. The
  destination is left with that number modulo `2 ^ 32`, brought between `-2 ^ 31` and `2 ^ 31 - 1`
  as `Int.bmod` does, and no other register changes (`Instruction.Calculates.execute_eq`). All
  values are read before the result is written, so a source may as well be the destination.
* **Division.** Quotient and remainder of two words belong together (`IsDivision`). The quotient is
  cut toward zero, so it is a word but for one case: the least word divided by `-1` is one more than
  the greatest word, and wraps around to the least word again.
-/

namespace TankDuel

/-! ### Results -/

/-- The result of an operation on numbers without bounds. A quotient is cut toward zero, and a
remainder takes the sign of the dividend. -/
def Arithmetic.exact : Arithmetic → Int → Int → Int
  | add, a, b => a + b
  | sub, a, b => a - b
  | mul, a, b => a * b
  | div, a, b => a.tdiv b
  | mod, a, b => a.tmod b

/-- **What an instruction has to compute**: the register that the result goes to, and the result as
a number without bounds. There is none for a division by zero. -/
inductive Instruction.Calculates (i : Instruction) (regs : RegisterFile) (d : Register) :
    Int → Prop
  | assign {s : Operand} {value : Int32} : i.opcode = .mov → i.operands = [.register d, s] →
    s.value? regs = some value → Calculates i regs d value.toInt
  | compute {f : Arithmetic} {s : Operand} {value : Int32} : i.opcode = f.opcode →
    i.operands = [.register d, s] → s.value? regs = some value →
    (f = .div ∨ f = .mod → value ≠ 0) →
    Calculates i regs d (f.exact (regs.get d).toInt value.toInt)
  | increment : i.opcode = .inc → i.operands = [.register d] →
    Calculates i regs d ((regs.get d).toInt + 1)
  | decrement : i.opcode = .dec → i.operands = [.register d] →
    Calculates i regs d ((regs.get d).toInt - 1)

/-- **Arithmetic on words** is that on numbers, modulo `2 ^ 32`. -/
theorem Arithmetic.toInt_of_apply? {f : Arithmetic} {a b value : Int32}
    (h : f.apply? a b = some value) :
    value.toInt = (f.exact a.toInt b.toInt).bmod (2 ^ 32) := by
  cases f with
  | add =>
    obtain rfl := Option.some.inj h
    exact Int32.toInt_add a b
  | sub =>
    obtain rfl := Option.some.inj h
    exact Int32.toInt_sub a b
  | mul =>
    obtain rfl := Option.some.inj h
    exact Int32.toInt_mul a b
  | div =>
    obtain ⟨-, same⟩ := Option.ite_none_left_eq_some.mp h
    obtain rfl := Option.some.inj same
    exact Int32.toInt_div a b
  | mod =>
    obtain ⟨-, same⟩ := Option.ite_none_left_eq_some.mp h
    obtain rfl := Option.some.inj same
    -- A remainder is a word as it is.
    rw [exact, ← Int32.toInt_mod]
    exact (Int32.toInt_bmod _).symm

namespace Instruction

variable {i : Instruction} {regs : RegisterFile} {d : Register} {exact : Int}

/-- **An instruction leaves the number that it has to compute, as a word**, and goes on. -/
theorem Calculates.execute_eq (calculates : i.Calculates regs d exact) (writable : d.isWritable)
    (pc size : Nat) :
    ∃ value : Int32, value.toInt = exact.bmod (2 ^ 32) ∧
      i.execute regs pc size = .ok ⟨regs.write d value, pc + 1, .working⟩ := by
  cases calculates with
  | assign names written read =>
    obtain ⟨s, rfl, rfl⟩ := Operand.value?_eq_some_iff.mp read
    have spelled : (Operation.assign d s).Spelled i.opcode i.operands := by
      rw [names, written]
      exact .assign writable
    exact ⟨s.value regs, (Int32.toInt_bmod _).symm, execute_of_spelled spelled⟩
  | @compute f _ _ names written read divides =>
    obtain ⟨s, rfl, rfl⟩ := Operand.value?_eq_some_iff.mp read
    have spelled : (Operation.compute f d s).Spelled i.opcode i.operands := by
      rw [written]
      exact .compute names writable
    -- There is a result, as no division by zero is asked for.
    have divisible : f.apply? (regs.get d) (s.value regs) ≠ none := by
      rw [ne_eq, Arithmetic.apply?_eq_none_iff]
      exact fun ⟨division, zero⟩ => divides division zero
    obtain ⟨value, result⟩ := Option.ne_none_iff_exists'.mp divisible
    refine ⟨value, Arithmetic.toInt_of_apply? result, ?_⟩
    rw [execute_of_spelled spelled, Operation.run_compute, result]
  | increment names written =>
    have spelled : (Operation.increment d).Spelled i.opcode i.operands := by
      rw [names, written]
      exact .increment writable
    exact ⟨regs.get d + 1, Int32.toInt_add _ 1, execute_of_spelled spelled⟩
  | decrement names written =>
    have spelled : (Operation.decrement d).Spelled i.opcode i.operands := by
      rw [names, written]
      exact .decrement writable
    exact ⟨regs.get d - 1, Int32.toInt_sub _ 1, execute_of_spelled spelled⟩

end Instruction

/-! ### Division -/

/-- Two numbers are quotient and remainder of two signed words. -/
structure IsDivision (lhs rhs quotient remainder : Int) : Prop where
  sum : (quotient * rhs + remainder) % 2 ^ 32 = lhs % 2 ^ 32
  smaller : remainder.natAbs < rhs.natAbs
  sign : remainder = 0 ∨ remainder.sign = lhs.sign
  /-- The one quotient that is no word wraps around. -/
  overflow : lhs = -2 ^ 31 → rhs = -1 → quotient = -2 ^ 31 ∧ remainder = 0

/-- **What divisions leave belongs together**, whether the quotient has wrapped around or not. -/
theorem isDivision (lhs : Int) {rhs : Int} (nonzero : rhs ≠ 0)
    {quotient remainder : Int} (quotient_eq : quotient = (lhs.tdiv rhs).bmod (2 ^ 32))
    (remainder_eq : remainder = lhs.tmod rhs) : IsDivision lhs rhs quotient remainder := by
  subst quotient_eq remainder_eq
  constructor
  · -- Modulo `2 ^ 32` it does not show whether the quotient has wrapped around.
    have wrapped : (lhs.tdiv rhs).bmod (2 ^ 32) ≡ lhs.tdiv rhs [ZMOD 2 ^ 32] := Int.bmod_emod
    have sum := (wrapped.mul_right rhs).add_right (lhs.tmod rhs)
    rwa [Int.tdiv_mul_add_tmod] at sum
  · rw [Int.natAbs_tmod]
    exact Nat.mod_lt _ (Int.natAbs_pos.mpr nonzero)
  · have sign := Int.sign_tmod lhs rhs
    split at sign
    · exact .inl (Int.sign_eq_zero_iff_zero.mp sign)
    · exact .inr sign
  · rintro rfl rfl
    decide

namespace Instruction

/-- **Arithmetic is exact up to overflow.** Whatever the registers hold and whichever of them are
named, an instruction of arithmetic is executed unless it divides by zero. Then the destination
holds the result modulo `2 ^ 32`, as a signed word, and all other registers hold what they have
held. The quotient and the remainder of the same two words belong together. -/
theorem arithmetic_exact (regs : RegisterFile) (pc size : Nat) {d : Register}
    (writable : d.isWritable) :
    (∀ (i : Instruction) (exact : Int), i.Calculates regs d exact →
      ∃ done, i.execute regs pc size = .ok done ∧
        (done.registers.get d).toInt = exact.bmod (2 ^ 32) ∧
        ∀ r, r ≠ d → done.registers.get r = regs.get r) ∧
    ∀ (s : Operand) (rhs : Int32) (line line' : Nat), s.value? regs = some rhs → rhs ≠ 0 →
      ∃ divided reduced,
        (⟨.div, [.register d, s], line⟩ : Instruction).execute regs pc size = .ok divided ∧
        (⟨.mod, [.register d, s], line'⟩ : Instruction).execute regs pc size = .ok reduced ∧
        IsDivision (regs.get d).toInt rhs.toInt (divided.registers.get d).toInt
          (reduced.registers.get d).toInt := by
  -- The one register that a write does not reach is the program counter, which is not writable.
  have notPc : d ≠ .pc := by simpa [Register.isWritable] using writable
  have results (i : Instruction) (exact : Int) (calculates : i.Calculates regs d exact) :
      ∃ done, i.execute regs pc size = .ok done ∧
        (done.registers.get d).toInt = exact.bmod (2 ^ 32) ∧
        ∀ r, r ≠ d → done.registers.get r = regs.get r := by
    obtain ⟨value, result, executed⟩ := calculates.execute_eq writable pc size
    refine ⟨_, executed, ?_, fun r apart => ?_⟩
    · rw [RegisterFile.get_write, if_pos ⟨rfl, notPc⟩, result]
    · rw [RegisterFile.get_write, if_neg fun both => apart both.1.symm]
  refine ⟨results, fun s rhs line line' read nonzero => ?_⟩
  obtain ⟨divided, executed, quotient, -⟩ :=
    results ⟨.div, [.register d, s], line⟩ _ (.compute (f := .div) rfl rfl read fun _ => nonzero)
  obtain ⟨reduced, executed', remainder, -⟩ :=
    results ⟨.mod, [.register d, s], line'⟩ _ (.compute (f := .mod) rfl rfl read fun _ => nonzero)
  refine ⟨divided, reduced, executed, executed', isDivision _ ?_ quotient ?_⟩
  · exact fun zero => nonzero (Int32.toInt_inj.mp zero)
  · rw [remainder, Arithmetic.exact, ← Int32.toInt_mod]
    exact Int32.toInt_bmod _

/-- The least word divided by `-1`, where the quotient wraps around. The destination is `CMP`, and
the divisor comes from a sensor register. -/
theorem arithmetic_exact_least_word :
    let regs := (RegisterFile.zero.write .cmp (-2147483648)).write .ammo (-1)
    let divide : Instruction := ⟨.div, [.register .cmp, .register .ammo], 1⟩
    let add : Instruction := ⟨.add, [.register .cmp, .register .cmp], 2⟩
    Register.cmp.isWritable ∧
      (Operand.register .ammo).value? regs = some (-1) ∧ (-1 : Int32) ≠ 0 ∧
      (∃ divided, divide.execute regs 0 2 = .ok divided ∧
        (divided.registers.get .cmp).toInt = -2147483648 ∧ divided.registers.get .ammo = -1) ∧
      (∃ doubled, add.execute regs 1 2 = .ok doubled ∧ (doubled.registers.get .cmp).toInt = 0) ∧
      ∃ divided reduced, divide.execute regs 0 2 = .ok divided ∧
        (⟨.mod, [.register .cmp, .register .ammo], 3⟩ : Instruction).execute regs 0 2 =
          .ok reduced ∧
        IsDivision (-2147483648) (-1) (divided.registers.get .cmp).toInt
          (reduced.registers.get .cmp).toInt := by
  intro regs divide add
  have writable : Register.cmp.isWritable := by decide
  have read : (Operand.register .ammo).value? regs = some (-1) := by decide +kernel
  have nonzero : (-1 : Int32) ≠ 0 := by decide
  obtain ⟨results, divisions⟩ := arithmetic_exact regs 0 2 writable
  obtain ⟨results', -⟩ := arithmetic_exact regs 1 2 writable
  obtain ⟨divided, executed, quotient, kept⟩ :=
    results divide _ (.compute (f := .div) rfl rfl read fun _ => nonzero)
  obtain ⟨doubled, executed', sum, -⟩ :=
    results' add _ (.compute (f := .add) rfl rfl rfl fun division => absurd division (by decide))
  have least : (regs.get .cmp).toInt = -2147483648 := by decide +kernel
  have minusOne : regs.get .ammo = -1 := by decide +kernel
  refine ⟨writable, read, nonzero, ⟨divided, executed, ?_, ?_⟩, ⟨doubled, executed', ?_⟩, ?_⟩
  · rw [quotient, least]
    decide
  · rw [kept .ammo (by decide), minusOne]
  · rw [sum, least]
    decide
  · exact least ▸ divisions _ _ 1 3 read nonzero

end Instruction

end TankDuel

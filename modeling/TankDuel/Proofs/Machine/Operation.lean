import Mathlib.Data.List.Forall2
import TankDuel.Machine.Execute

/-!
# Which operation an instruction stands for

The signature of an opcode is a table, and `Instruction.operation?` is a second one that takes
operands apart. They agree: there is an operation just where every operand is what its slot asks
for (`Instruction.isSome_operation?_iff`). The opcodes fall into eight shapes, so the agreement is
shown once for each shape and then read off opcode by opcode.

`Operation.Spelled` reads the table the other way round: it lists which opcode and which operands
stand for an operation. An operation that is found is spelled as its instruction says
(`Instruction.spelled_of_operation?`): it divides only where a division is written, jumps only to
the address that is written, and halts only as a halt. And what is spelled so is found
(`Instruction.operation?_of_spelled`).
-/

namespace TankDuel

/-- Operands are one by one what slots ask for. -/
def Slot.Admit (slots : List Slot) (operands : List Operand) : Prop :=
  List.Forall₂ (fun (slot : Slot) o => slot.admits o) slots operands

variable {i : Instruction} {operands : List Operand} {op : Operation}

/-! ### When there is an operation -/

namespace Operation

open Slot (Admit)

/-- The operands that can be destinations are those that the slot admits. -/
private theorem isSome_destination? (o : Operand) :
    o.destination?.isSome = Slot.destination.admits o := by
  cases o with
  | register r => cases h : r.isWritable <;> simp [Operand.destination?, Slot.admits, h]
  | number | address | heading | rotation => rfl

/-- The operands that can be sources are those that the slot admits. -/
private theorem isSome_source? (o : Operand) : o.source?.isSome = Slot.source.admits o := by
  cases o <;> rfl

/-- Two operands are there if each of them is. -/
private theorem isSome_bind_map {α β γ : Type} (x : Option α) (y : Option β) (f : α → β → γ) :
    (x.bind fun a => y.bind fun b => some (f a b)).isSome = (x.isSome && y.isSome) := by
  cases x <;> cases y <;> rfl

/-- Without operands. -/
private theorem isSome_ofNone : (ofNone op operands).isSome ↔ Admit [] operands := by
  cases operands <;> simp [ofNone, Admit]

/-- With a destination. -/
private theorem isSome_ofDestination {op : Register → Operation} :
    (ofDestination op operands).isSome ↔ Admit [.destination] operands := by
  rcases operands with _ | ⟨a, _ | ⟨b, rest⟩⟩ <;>
    simp [ofDestination, isSome_destination?, Admit]

/-- With a destination and a source. -/
private theorem isSome_ofDestinationSource {op : Register → Source → Operation} :
    (ofDestinationSource op operands).isSome ↔ Admit [.destination, .source] operands := by
  rcases operands with _ | ⟨a, _ | ⟨b, _ | ⟨c, rest⟩⟩⟩ <;>
    simp [ofDestinationSource, isSome_bind_map, isSome_destination?, isSome_source?, Admit]

/-- With two sources. -/
private theorem isSome_ofSources {op : Source → Source → Operation} :
    (ofSources op operands).isSome ↔ Admit [.source, .source] operands := by
  rcases operands with _ | ⟨a, _ | ⟨b, _ | ⟨c, rest⟩⟩⟩ <;>
    simp [ofSources, isSome_bind_map, isSome_source?, Admit]

/-- With two destinations. -/
private theorem isSome_ofDestinations {op : Register → Register → Operation} :
    (ofDestinations op operands).isSome ↔ Admit [.destination, .destination] operands := by
  rcases operands with _ | ⟨a, _ | ⟨b, _ | ⟨c, rest⟩⟩⟩ <;>
    simp [ofDestinations, isSome_bind_map, isSome_destination?, Admit]

/-- With a target. -/
private theorem isSome_ofTarget {condition : Condition} :
    (ofTarget condition operands).isSome ↔ Admit [.target] operands := by
  rcases operands with _ | ⟨_ | _ | _ | _ | _, _ | ⟨b, rest⟩⟩ <;>
    simp [ofTarget, Admit, Slot.admits]

/-- With a heading. -/
private theorem isSome_ofHeading : (ofHeading operands).isSome ↔ Admit [.heading] operands := by
  rcases operands with _ | ⟨_ | _ | _ | _ | _, _ | ⟨b, rest⟩⟩ <;>
    simp [ofHeading, Admit, Slot.admits]

/-- With a rotation. -/
private theorem isSome_ofRotation : (ofRotation operands).isSome ↔ Admit [.rotation] operands := by
  rcases operands with _ | ⟨_ | _ | _ | _ | _, _ | ⟨b, rest⟩⟩ <;>
    simp [ofRotation, Admit, Slot.admits]

end Operation

namespace Instruction

open Operation

/-- **An instruction stands for an operation just where its operands match the signature.** -/
theorem isSome_operation?_iff : i.operation?.isSome ↔ Slot.Admit i.opcode.signature i.operands := by
  obtain ⟨opcode, operands, line⟩ := i
  cases opcode with
  | mov | add | sub | mul | div | mod => exact isSome_ofDestinationSource
  | inc | dec => exact isSome_ofDestination
  | cmp => exact isSome_ofSources
  | jmp | je | jne | jg | jl | jge | jle => exact isSome_ofTarget
  | nop | halt | fire | wait => exact isSome_ofNone
  | move => exact isSome_ofHeading
  | rotate => exact isSome_ofRotation
  | scan | ping => exact isSome_ofDestinations

end Instruction

/-! ### What the opcode and the operands tell about the operation -/

/-- The opcode of an arithmetic operation. -/
def Arithmetic.opcode : Arithmetic → Opcode
  | add => .add
  | sub => .sub
  | mul => .mul
  | div => .div
  | mod => .mod

/-- The instruction divides. -/
def Instruction.Divides (i : Instruction) : Prop := i.opcode = .div ∨ i.opcode = .mod

/-- The opcode of a jump. -/
def Condition.opcode : Condition → Opcode
  | always => .jmp
  | equal => .je
  | different => .jne
  | greater => .jg
  | less => .jl
  | greaterOrEqual => .jge
  | lessOrEqual => .jle

/-- The operand that a value is written as. -/
def Source.operand : Source → Operand
  | register r => .register r
  | number value => .number value

/-- **How an operation is spelled**, that is which opcode and which operands stand for it. -/
inductive Operation.Spelled : Operation → Opcode → List Operand → Prop
  | assign {d : Register} {s : Source} : d.isWritable →
    Spelled (.assign d s) .mov [.register d, s.operand]
  | compute {f : Arithmetic} {opcode : Opcode} {d : Register} {s : Source} :
    opcode = f.opcode → d.isWritable → Spelled (.compute f d s) opcode [.register d, s.operand]
  | increment {d : Register} : d.isWritable → Spelled (.increment d) .inc [.register d]
  | decrement {d : Register} : d.isWritable → Spelled (.decrement d) .dec [.register d]
  | compare {a b : Source} : Spelled (.compare a b) .cmp [a.operand, b.operand]
  | jump {condition : Condition} {opcode : Opcode} {target : Nat} :
    opcode = condition.opcode → Spelled (.jump condition target) opcode [.address target]
  | nop : Spelled .nop .nop []
  | halt : Spelled .halt .halt []
  | move {h : Heading} : Spelled (.act (.move h)) .move [.heading h]
  | rotate {r : Rotation} : Spelled (.act (.rotate r)) .rotate [.rotation r]
  | fire : Spelled (.act .fire) .fire []
  | scan {d k : Register} : d.isWritable → k.isWritable →
    Spelled (.act (.scan d k)) .scan [.register d, .register k]
  | ping {x y : Register} : x.isWritable → y.isWritable →
    Spelled (.act (.ping x y)) .ping [.register x, .register y]
  | wait : Spelled (.act (.wait .requested)) .wait []

/-- The destinations are the registers that can be written. -/
theorem Operand.destination?_eq_some_iff {o : Operand} {d : Register} :
    o.destination? = some d ↔ d.isWritable ∧ o = .register d := by
  cases o with
  | register r =>
    rw [destination?, register.injEq]
    split
    next writable =>
      constructor
      · rintro ⟨⟩
        exact ⟨writable, rfl⟩
      · rintro ⟨-, rfl⟩
        rfl
    next readOnly =>
      constructor
      · nofun
      · rintro ⟨writable, rfl⟩
        exact absurd writable readOnly
  | number | address | heading | rotation => simp [destination?]

/-- A source is told by its operand. -/
theorem Operand.source?_eq_some_iff {o : Operand} {s : Source} :
    o.source? = some s ↔ o = s.operand := by
  cases o <;> cases s <;> simp [source?, Source.operand]

namespace Operation

/-- Without operands there is one operation. -/
private theorem eq_of_ofNone {f : Operation} (h : ofNone f operands = some op) :
    operands = [] ∧ op = f := by
  unfold ofNone at h
  split at h
  · exact ⟨rfl, (Option.some.inj h).symm⟩
  · exact absurd h nofun

/-- The operation of a destination. -/
private theorem exists_of_ofDestination {f : Register → Operation}
    (h : ofDestination f operands = some op) :
    ∃ d, d.isWritable ∧ operands = [.register d] ∧ op = f d := by
  unfold ofDestination at h
  split at h
  · obtain ⟨d, written, same⟩ := Option.map_eq_some_iff.mp h
    obtain ⟨writable, rfl⟩ := Operand.destination?_eq_some_iff.mp written
    exact ⟨d, writable, rfl, same.symm⟩
  · exact absurd h nofun

/-- The operation of a destination and a source. -/
private theorem exists_of_ofDestinationSource {f : Register → Source → Operation}
    (h : ofDestinationSource f operands = some op) :
    ∃ d s, d.isWritable ∧ operands = [.register d, s.operand] ∧ op = f d s := by
  unfold ofDestinationSource at h
  split at h
  · obtain ⟨d, written, rest⟩ := Option.bind_eq_some_iff.mp h
    obtain ⟨s, read, same⟩ := Option.bind_eq_some_iff.mp rest
    obtain ⟨writable, rfl⟩ := Operand.destination?_eq_some_iff.mp written
    obtain rfl := Operand.source?_eq_some_iff.mp read
    exact ⟨d, s, writable, rfl, (Option.some.inj same).symm⟩
  · exact absurd h nofun

/-- The operation of two sources. -/
private theorem exists_of_ofSources {f : Source → Source → Operation}
    (h : ofSources f operands = some op) :
    ∃ a b, operands = [a.operand, b.operand] ∧ op = f a b := by
  unfold ofSources at h
  split at h
  · obtain ⟨a, left, rest⟩ := Option.bind_eq_some_iff.mp h
    obtain ⟨b, right, same⟩ := Option.bind_eq_some_iff.mp rest
    obtain rfl := Operand.source?_eq_some_iff.mp left
    obtain rfl := Operand.source?_eq_some_iff.mp right
    exact ⟨a, b, rfl, (Option.some.inj same).symm⟩
  · exact absurd h nofun

/-- The operation of two destinations. -/
private theorem exists_of_ofDestinations {f : Register → Register → Operation}
    (h : ofDestinations f operands = some op) :
    ∃ a b, a.isWritable ∧ b.isWritable ∧ operands = [.register a, .register b] ∧ op = f a b := by
  unfold ofDestinations at h
  split at h
  · obtain ⟨a, left, rest⟩ := Option.bind_eq_some_iff.mp h
    obtain ⟨b, right, same⟩ := Option.bind_eq_some_iff.mp rest
    obtain ⟨writable, rfl⟩ := Operand.destination?_eq_some_iff.mp left
    obtain ⟨writable', rfl⟩ := Operand.destination?_eq_some_iff.mp right
    exact ⟨a, b, writable, writable', rfl, (Option.some.inj same).symm⟩
  · exact absurd h nofun

/-- The operation of a target. -/
private theorem exists_of_ofTarget {condition : Condition}
    (h : ofTarget condition operands = some op) :
    ∃ target, operands = [.address target] ∧ op = .jump condition target := by
  unfold ofTarget at h
  split at h
  next target => exact ⟨target, rfl, (Option.some.inj h).symm⟩
  next => exact absurd h nofun

/-- The operation of a heading. -/
private theorem exists_of_ofHeading (h : ofHeading operands = some op) :
    ∃ d, operands = [.heading d] ∧ op = .act (.move d) := by
  unfold ofHeading at h
  split at h
  next d => exact ⟨d, rfl, (Option.some.inj h).symm⟩
  next => exact absurd h nofun

/-- The operation of a rotation. -/
private theorem exists_of_ofRotation (h : ofRotation operands = some op) :
    ∃ r, operands = [.rotation r] ∧ op = .act (.rotate r) := by
  unfold ofRotation at h
  split at h
  next r => exact ⟨r, rfl, (Option.some.inj h).symm⟩
  next => exact absurd h nofun

end Operation

namespace Instruction

open Operation

/-- **Inversion of an instruction.** The operation that it stands for is spelled as it says. -/
theorem spelled_of_operation? (h : i.operation? = some op) : op.Spelled i.opcode i.operands := by
  obtain ⟨opcode, operands, line⟩ := i
  -- One case for each shape of operands.
  cases opcode with
  | mov =>
    obtain ⟨d, s, writable, rfl, rfl⟩ := exists_of_ofDestinationSource h
    exact .assign writable
  | add | sub | mul | div | mod =>
    obtain ⟨d, s, writable, rfl, rfl⟩ := exists_of_ofDestinationSource h
    exact .compute rfl writable
  | inc =>
    obtain ⟨d, writable, rfl, rfl⟩ := exists_of_ofDestination h
    exact .increment writable
  | dec =>
    obtain ⟨d, writable, rfl, rfl⟩ := exists_of_ofDestination h
    exact .decrement writable
  | cmp =>
    obtain ⟨a, b, rfl, rfl⟩ := exists_of_ofSources h
    exact .compare
  | jmp | je | jne | jg | jl | jge | jle =>
    obtain ⟨target, rfl, rfl⟩ := exists_of_ofTarget h
    exact .jump rfl
  | nop =>
    obtain ⟨rfl, rfl⟩ := eq_of_ofNone h
    exact .nop
  | halt =>
    obtain ⟨rfl, rfl⟩ := eq_of_ofNone h
    exact .halt
  | fire =>
    obtain ⟨rfl, rfl⟩ := eq_of_ofNone h
    exact .fire
  | wait =>
    obtain ⟨rfl, rfl⟩ := eq_of_ofNone h
    exact .wait
  | move =>
    obtain ⟨d, rfl, rfl⟩ := exists_of_ofHeading h
    exact .move
  | rotate =>
    obtain ⟨r, rfl, rfl⟩ := exists_of_ofRotation h
    exact .rotate
  | scan =>
    obtain ⟨d, k, writable, writable', rfl, rfl⟩ := exists_of_ofDestinations h
    exact .scan writable writable'
  | ping =>
    obtain ⟨x, y, writable, writable', rfl, rfl⟩ := exists_of_ofDestinations h
    exact .ping writable writable'

/-- What is spelled so stands for the operation. -/
theorem operation?_of_spelled (spelled : op.Spelled i.opcode i.operands) :
    i.operation? = some op := by
  have destination {d : Register} (writable : d.isWritable) :
      (Operand.register d).destination? = some d :=
    Operand.destination?_eq_some_iff.mpr ⟨writable, rfl⟩
  have source (s : Source) : s.operand.source? = some s := Operand.source?_eq_some_iff.mpr rfl
  obtain ⟨opcode, operands, line⟩ := i
  -- The operands are read as they have been spelled.
  cases spelled with
  | assign writable =>
    simp [operation?, ofDestinationSource, destination writable, source]
  | @compute f _ d s same writable =>
    obtain rfl := same
    cases f <;>
      simp [operation?, Arithmetic.opcode, ofDestinationSource, destination writable, source]
  | increment writable | decrement writable =>
    simp [operation?, ofDestination, destination writable]
  | compare => simp [operation?, ofSources, source]
  | @jump condition _ target same =>
    obtain rfl := same
    cases condition <;> rfl
  | nop | halt | move | rotate | fire | wait => rfl
  | scan writable writable' | ping writable writable' =>
    simp [operation?, ofDestinations, destination writable, destination writable']

end Instruction

end TankDuel

import TankDuel.Proofs.Assembly.Grammar
import TankDuel.Proofs.Machine.Operation

/-!
# What is read is well-formed

In a program that was read, every instruction has the operands that its opcode asks for, and no
address lies beyond the end. The first holds since operands are read by the same signature that
they are checked against; the second since an address can only be written as a label, and a label
stands in front of an instruction or at the end.
-/

namespace TankDuel

/-- Every instruction has the operands its opcode asks for, and jumps stay within the program. -/
structure Program.WellFormed (p : Program) : Prop where
  operands : ∀ i ∈ p.instructions, Slot.Admit i.opcode.signature i.operands
  inside : ∀ i ∈ p.instructions, ∀ target, .address target ∈ i.operands → target ≤ p.size

namespace Assembly

variable {items : List Item} {labels : Labels} {p : Program}

/-- What an operand stands for fits the slot. -/
theorem Stands.admits {slot : Slot} {kind : Token.Kind} {a : Argument} {o : Operand}
    (stands : Stands slot kind a) (means : a.Means labels o) : slot.admits o := by
  cases stands with
  | destination named writable =>
    cases means
    exact decide_eq_true writable
  | register | number | label | rotation | heading =>
    cases means
    rfl

/-- Operands that fill the slots fit them. -/
theorem Fill.admits {slots : List Slot} {ts : List Token} {as : List Argument}
    {os : List Operand} (fill : Fill slots ts as)
    (means : List.Forall₂ (Argument.Means labels) as os) : Slot.Admit slots os := by
  induction fill generalizing os with
  | nil =>
    cases means
    exact .nil
  | cons stands _ ih =>
    obtain _ | ⟨head, tail⟩ := means
    exact .cons (stands.admits head) (ih tail)

/-- The operands that an opcode takes fit its signature. -/
theorem Takes.admits {opcode : Opcode} {ts : List Token} {as : List Argument}
    {os : List Operand} (takes : Takes opcode ts as)
    (means : List.Forall₂ (Argument.Means labels) as os) : Slot.Admit opcode.signature os := by
  cases takes with
  | written fill => exact fill.admits means
  | implied =>
    obtain _ | ⟨⟨⟩, ⟨⟩⟩ := means
    exact .cons rfl .nil

/-- Nothing that is written stands for an address by itself. -/
theorem Stands.ne_address {slot : Slot} {kind : Token.Kind} {a : Argument} {target : Nat}
    (stands : Stands slot kind a) : a ≠ .operand (.address target) := by
  cases stands <;> simp

/-- A label that is referred to is no register's name. -/
theorem Stands.ofName?_eq_none {slot : Slot} {kind : Token.Kind} {name : String}
    (stands : Stands slot kind (.label name)) : Register.ofName? name = none := by
  cases stands with
  | label nameless => exact Register.ofName?_eq_none_iff.mpr nameless

/-- An address among the operands is the one of a label that is no register's name. -/
theorem Takes.find?_eq_some {opcode : Opcode} {ts : List Token} {as : List Argument}
    {os : List Operand} {target : Nat} (takes : Takes opcode ts as)
    (means : List.Forall₂ (Argument.Means labels) as os) (h : .address target ∈ os) :
    ∃ name, labels.find? name = some target ∧ Register.ofName? name = none := by
  cases takes with
  | implied =>
    obtain _ | ⟨⟨⟩, ⟨⟩⟩ := means
    exact absurd h (by simp)
  | written fill =>
    -- The induction is on the slots, whichever opcode they belong to.
    generalize opcode.signature = slots at fill
    induction fill generalizing os with
    | nil =>
      cases means
      exact absurd h List.not_mem_nil
    | cons stands _ ih =>
      obtain _ | ⟨head, tail⟩ := means
      rcases List.mem_cons.mp h with rfl | h
      · cases head with
        | operand => exact absurd rfl stands.ne_address
        | label found => exact ⟨_, found, stands.ofName?_eq_none⟩
      · exact ih tail h

/-- The arguments of every draft are taken from tokens. -/
theorem Splits.takes {tokens : List Token} (splits : Splits tokens items) :
    ∀ draft ∈ drafts items, ∃ ts, Takes draft.opcode ts draft.arguments := by
  induction splits with
  | nil => exact nofun
  | label _ ih => exact ih
  | instruction _ _ takes _ ih =>
    intro draft hd
    rcases List.mem_cons.mp hd with rfl | hd
    · exact ⟨_, takes⟩
    · exact ih draft hd

/-- A label stands in front of an instruction or at the end. -/
theorem DefinedAt.le_length {name : String} {target : Nat} (h : DefinedAt items name target) :
    target ≤ (drafts items).length := by
  obtain ⟨before, after, rfl, rfl⟩ := h
  rw [drafts_append, List.length_append]
  exact Nat.le_add_right _ _

/-- **What is read is well-formed.** -/
theorem wellFormed_of_parse {tokens : List Token} (parsed : parse tokens = .ok p) :
    p.WellFormed := by
  obtain ⟨items, splits, -, describes⟩ := parse_eq_ok_iff_describes.mp parsed
  -- Every instruction comes from a draft, and every draft from tokens.
  have source : ∀ i ∈ p.instructions, ∃ draft ∈ drafts items, Draft.Yields p.labels draft i :=
    exists_of_forall₂ describes.instructions.flip
  constructor
  · intro i hi
    obtain ⟨draft, hd, yields⟩ := source i hi
    obtain ⟨ts, takes⟩ := splits.takes draft hd
    rw [yields.opcode]
    exact takes.admits yields.operands
  · intro i hi target jumps
    obtain ⟨draft, hd, yields⟩ := source i hi
    obtain ⟨ts, takes⟩ := splits.takes draft hd
    obtain ⟨name, found, -⟩ := takes.find?_eq_some yields.operands jumps
    calc target ≤ (drafts items).length := ((describes.labels name target).mp found).le_length
      _ = p.size := describes.instructions.length_eq

end Assembly

end TankDuel

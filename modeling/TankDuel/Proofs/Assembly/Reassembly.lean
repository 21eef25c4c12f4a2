import TankDuel.Proofs.Assembly.Listing
import TankDuel.Proofs.Assembly.WellFormed

/-!
# A listing reassembles

A program that was read can be listed, and the listing can be read again once it has labels where it
shows addresses (`exists_compile_of_symbolic`). Only the line numbers change.

What the proof needs to know of the program is gathered in `Program.Readable`, and every program
that was read has it (`readable_of_compile`). The rest is about the rows of the listing:

* `exists_splits` — the lines are read one by one, each row as one item. An operand is read back
  because its word is plain and stands for it in its slot (`exists_stands`);
* `definedAt_iff_of_becomes`, `nodup_definedNames_of_becomes` — the items define the labels of the
  program, each of them once and at its address. The induction is on the instructions: in front of
  each one stand the labels of its address, and behind the last one those of the end;
* `exists_yields_of_becomes` — the items have the instructions of the program.
-/

namespace TankDuel

open Assembly

/-- The names of all labels are identifiers. -/
def Labels.Identifiers (labels : Labels) : Prop :=
  ∀ name target, labels.find? name = some target → isIdentifier name.toList

/-- What makes a program readable from its listing: the names of its labels are identifiers, no
label lies beyond the end, every instruction has the operands that its opcode asks for, and every
address among them has a label that is no register's name. -/
structure Program.Readable (p : Program) : Prop where
  identifiers : p.labels.Identifiers
  inside : ∀ name target, p.labels.find? name = some target → target ≤ p.size
  operands : ∀ i ∈ p.instructions, Slot.Admit i.opcode.signature i.operands
  labelled : ∀ i ∈ p.instructions, ∀ target, .address target ∈ i.operands →
    ∃ name, p.labels.find? name = some target ∧ Register.ofName? name = none

/-- The instruction without its line number. -/
def Instruction.code (i : Instruction) : Opcode × List Operand := (i.opcode, i.operands)

namespace Assembly

variable {labels : Labels} {items : List Item} {name : String} {target address : Nat}
  {p : Program}

/-! ### Programs that were read -/

/-- A label that is defined has been written. -/
theorem Splits.exists_label {tokens : List Token} (splits : Splits tokens items)
    (h : .label name ∈ items) : ∃ line, ⟨.label name, line⟩ ∈ tokens := by
  induction splits with
  | nil => cases h
  | @label _ line _ _ _ ih =>
    rcases List.mem_cons.mp h with here | later
    · obtain rfl := Item.label.inj here
      exact ⟨line, List.mem_cons_self⟩
    · obtain ⟨line, written⟩ := ih later
      exact ⟨line, List.mem_cons_of_mem _ written⟩
  | instruction _ _ _ _ ih =>
    rcases List.mem_cons.mp h with here | later
    · cases here
    · obtain ⟨line, written⟩ := ih later
      exact ⟨line, List.mem_cons_of_mem _ (List.mem_append_right _ written)⟩

/-- **What was read can be read from its listing.** -/
theorem readable_of_compile {source : String} (compiled : compile source = .ok p) :
    p.Readable := by
  obtain ⟨items, splits, -, describes⟩ := parse_eq_ok_iff_describes.mp compiled
  have defined {name : String} {target : Nat} (found : p.labels.find? name = some target) :
      DefinedAt items name target := (describes.labels name target).mp found
  -- Labels are identifiers, they are in range, operands fit their slots, and jumps go to labels.
  refine ⟨fun name target found => ?_, fun name target found => ?_,
    (wellFormed_of_parse compiled).operands, fun i hi target jumps => ?_⟩
  · obtain ⟨before, after, rfl, -⟩ := defined found
    obtain ⟨line, written⟩ :=
      splits.exists_label (List.mem_append_right before (List.mem_cons_self (l := after)))
    exact isIdentifier_of_mem_linesTokens written rfl
  · calc target ≤ (drafts items).length := (defined found).le_length
      _ = p.size := describes.instructions.length_eq
  · obtain ⟨draft, hd, yields⟩ := exists_of_forall₂ describes.instructions.flip i hi
    obtain ⟨ts, takes⟩ := splits.takes draft hd
    exact takes.find?_eq_some yields.operands jumps

/-! ### Reading operands -/

/-- An identifier that stands behind an opcode. -/
private theorem ofWord_toList {word : String} (identifier : isIdentifier word.toList) :
    Token.Kind.ofWord false word.toList = .word word := by
  rw [ofWord_of_isIdentifier identifier, String.ofList_toList]

/-- **An operand that was written is read** in a slot that admits it. -/
theorem exists_stands (identifiers : labels.Identifiers) {slot : Slot} {o : Operand}
    {word : List Char} (admits : slot.admits o) (written : o.Written labels word) :
    ∃ a, Stands slot (.ofWord false word) a ∧ a.Means labels o := by
  cases written with
  | @address target name found nameless =>
    -- Only a target admits an address, and no register takes the label away from it.
    rw [ofWord_toList (identifiers name target found)]
    cases slot with
    | target => exact ⟨_, .label (Register.ofName?_eq_none_iff.mp nameless), .label found⟩
    | destination | source | rotation | heading => cases admits
  | plain other =>
    refine ⟨.operand o, ?_, .operand⟩
    cases o with
    | address target => exact absurd rfl (other target)
    | number value =>
      rw [Operand.text, ofWord_number]
      cases slot with
      | source => exact .number
      | destination | target | rotation | heading => cases admits
    | register r =>
      rw [Operand.text, ofWord_toList (by cases r <;> decide)]
      cases slot with
      | destination => exact .destination (Text.sameWord_self _) (of_decide_eq_true admits)
      | source => exact .register (Text.sameWord_self _)
      | target | rotation | heading => cases admits
    | heading h =>
      rw [Operand.text, ofWord_toList (by cases h <;> decide)]
      cases slot with
      | heading => exact .heading (Text.sameWord_self _)
      | destination | source | target | rotation => cases admits
    | rotation r =>
      rw [Operand.text, ofWord_toList (by cases r <;> decide)]
      cases slot with
      | rotation => exact .rotation (Text.sameWord_self _)
      | destination | source | target | heading => cases admits

/-- What an operand may be written as is a plain word. -/
private theorem plain_of_written (identifiers : labels.Identifiers) {o : Operand} {word : List Char}
    (written : o.Written labels word) : Plain word := by
  cases written with
  | plain other => exact Operand.plain_text other
  | address found _ => exact plain_of_isIdentifier (identifiers _ _ found)

/-- Operands are read one by one. -/
private theorem exists_fill (identifiers : labels.Identifiers) {slots : List Slot}
    {os : List Operand} {words : List (List Char)} (fits : Slot.Admit slots os)
    (written : List.Forall₂ (Operand.Written labels) os words) (line : Nat) :
    ∃ as, Fill slots (words.map fun word => ⟨.ofWord false word, line⟩) as ∧
      List.Forall₂ (Argument.Means labels) as os := by
  unfold Slot.Admit at fits
  induction fits generalizing words with
  | nil =>
    cases written
    exact ⟨[], .nil, .nil⟩
  | cons admits _ ih =>
    obtain _ | ⟨first, others⟩ := written
    obtain ⟨a, stands, means⟩ := exists_stands identifiers admits first
    obtain ⟨as, fill, each⟩ := ih others
    exact ⟨a :: as, .cons stands fill, .cons means each⟩

/-! ### Reading rows -/

/-- The item that is read from a row. -/
inductive Becomes (labels : Labels) : Row → Item → Prop
  | label {name : String} : Becomes labels (.label name) (.label name)
  | instruction {address : Nat} {i : Instruction} {draft : Draft} : draft.opcode = i.opcode →
    List.Forall₂ (Argument.Means labels) draft.arguments i.operands →
    Becomes labels (.instruction address i) (.instruction draft)

/-- **Rows that were written are read one by one.** -/
theorem exists_splits (identifiers : labels.Identifiers) {rows : List Row} {ls : List (List Char)}
    (written : List.Forall₂ (Row.Written labels) rows ls) (named : ∀ row ∈ rows, row.Named)
    (fits : ∀ address i, .instruction address i ∈ rows →
      Slot.Admit i.opcode.signature i.operands) (number : Nat) :
    ∃ items, Splits (linesTokens number ls) items ∧ List.Forall₂ (Becomes labels) rows items := by
  induction written generalizing number with
  | nil => exact ⟨[], .nil, .nil⟩
  | @cons row line rows ls here _ ih =>
    obtain ⟨items, splits, becomes⟩ := ih (fun row hr => named row (List.mem_cons_of_mem _ hr))
      (fun address i hi => fits address i (List.mem_cons_of_mem _ hi)) (number + 1)
    -- A row is a line of its own: a label, or an instruction whose operands fill its slots.
    cases here with
    | @label name =>
      rw [linesTokens, lineTokens_label (named _ List.mem_cons_self), String.ofList_toList]
      exact ⟨.label name :: items, .label splits, .cons .label becomes⟩
    | @instruction address i words operands =>
      have plain : ∀ word ∈ words, Plain word := by
        intro word hw
        obtain ⟨o, -, written⟩ := exists_of_forall₂ operands.flip word hw
        exact plain_of_written identifiers written
      obtain ⟨arguments, fill, means⟩ :=
        exists_fill identifiers (fits address i List.mem_cons_self) operands number
      rw [linesTokens, lineTokens_instruction plain, List.cons_append]
      refine ⟨.instruction ⟨i.opcode, arguments, number⟩ :: items,
        .instruction ?_ ?_ (.written fill) splits, .cons (.instruction rfl means) becomes⟩
      · intro t ht
        obtain ⟨word, -, rfl⟩ := List.mem_map.mp ht
        rfl
      · -- What follows stands on a later line.
        intro t ht
        have later := le_line_of_mem_linesTokens (List.mem_of_mem_head? ht)
        omega

/-! ### Labels and instructions of the rows -/

/-- The names at an address are those that the table finds it under. -/
private theorem mem_namesAt_iff :
    name ∈ labels.namesAt target ↔ labels.find? name = some target := by
  rw [Labels.namesAt, List.mem_map, Labels.find?_eq_some_iff]
  constructor
  · rintro ⟨⟨other, address⟩, listed, rfl⟩
    obtain ⟨listed, here⟩ := List.mem_filter.mp listed
    rwa [← of_decide_eq_true here]
  · intro listed
    exact ⟨(name, target), List.mem_filter.mpr ⟨listed, decide_eq_true rfl⟩, rfl⟩

/-- No name is listed twice at an address. -/
private theorem nodup_namesAt (labels : Labels) (target : Nat) : (labels.namesAt target).Nodup :=
  labels.nodup_names.sublist (List.filter_sublist.map _)

/-- Rows of labels become those labels. -/
private theorem exists_of_becomes_append {names : List String} {rows : List Row}
    (becomes : List.Forall₂ (Becomes labels) (names.map .label ++ rows) items) :
    ∃ more, items = names.map .label ++ more ∧ List.Forall₂ (Becomes labels) rows more := by
  induction names generalizing items with
  | nil => exact ⟨items, rfl, becomes⟩
  | cons name names ih =>
    obtain _ | ⟨⟨⟩, others⟩ := becomes
    obtain ⟨more, rfl, becomes⟩ := ih others
    exact ⟨more, rfl, becomes⟩

/-- Behind the last instruction there are only labels. -/
private theorem eq_of_becomes_rowsFrom_nil
    (becomes : List.Forall₂ (Becomes labels) (labels.rowsFrom address []) items) :
    items = (labels.namesAt address).map .label := by
  rw [Labels.rowsFrom, Labels.rowsAt, ← List.append_nil (List.map _ _)] at becomes
  obtain ⟨more, rfl, rest⟩ := exists_of_becomes_append becomes
  cases rest
  exact List.append_nil _

/-- An instruction stands behind the labels of its address. -/
private theorem exists_of_becomes_rowsFrom_cons {i : Instruction} {rest : List Instruction}
    (becomes : List.Forall₂ (Becomes labels) (labels.rowsFrom address (i :: rest)) items) :
    ∃ draft more, items = (labels.namesAt address).map .label ++ .instruction draft :: more ∧
      Becomes labels (.instruction address i) (.instruction draft) ∧
      List.Forall₂ (Becomes labels) (labels.rowsFrom (address + 1) rest) more := by
  obtain ⟨_, rfl, _ | ⟨here, others⟩⟩ := exists_of_becomes_append becomes
  cases here with
  | instruction opcode means => exact ⟨_, _, rfl, .instruction opcode means, others⟩

/-- Labels in front of items are defined at their beginning. -/
private theorem definedAt_append_iff {names : List String} :
    DefinedAt (names.map .label ++ items) name target ↔
      name ∈ names ∧ target = 0 ∨ DefinedAt items name target := by
  induction names with
  | nil => simp
  | cons other names ih =>
    rw [List.map_cons, List.cons_append, definedAt_label_iff, ih, List.mem_cons, ← or_assoc,
      ← or_and_right, eq_comm]

/-- **The labels of the rows** are the ones of the program, with the addresses they have there. -/
theorem definedAt_iff_of_becomes {instructions : List Instruction}
    (becomes : List.Forall₂ (Becomes labels) (labels.rowsFrom address instructions) items) :
    DefinedAt items name target ↔
      labels.find? name = some (address + target) ∧ target ≤ instructions.length := by
  induction instructions generalizing address items target with
  | nil =>
    obtain rfl := eq_of_becomes_rowsFrom_nil becomes
    -- Behind the last instruction only the labels of the end are left.
    have last : ¬DefinedAt [] name target := by
      rintro ⟨before, after, split, -⟩
      exact absurd split (by simp)
    rw [← List.append_nil (List.map _ _), definedAt_append_iff, or_iff_left last, mem_namesAt_iff]
    constructor
    · rintro ⟨found, rfl⟩
      exact ⟨found, Nat.le_refl 0⟩
    · rintro ⟨found, atStart⟩
      obtain rfl := Nat.le_zero.mp atStart
      exact ⟨found, rfl⟩
  | cons i rest ih =>
    obtain ⟨draft, more, rfl, -, becomes⟩ := exists_of_becomes_rowsFrom_cons becomes
    rw [definedAt_append_iff, definedAt_instruction_iff, mem_namesAt_iff]
    -- The label is either defined here or behind the instruction.
    constructor
    · rintro (⟨found, rfl⟩ | ⟨n, rfl, defined⟩)
      · exact ⟨found, Nat.zero_le _⟩
      · obtain ⟨found, inside⟩ := (ih becomes).mp defined
        rw [Nat.add_right_comm] at found
        exact ⟨found, Nat.succ_le_succ inside⟩
    · rintro ⟨found, inside⟩
      cases target with
      | zero => exact .inl ⟨found, rfl⟩
      | succ n =>
        refine .inr ⟨n, rfl, (ih becomes).mpr ⟨?_, Nat.le_of_succ_le_succ inside⟩⟩
        rw [Nat.add_right_comm]
        exact found

/-- No label is defined twice. -/
theorem nodup_definedNames_of_becomes {instructions : List Instruction}
    (becomes : List.Forall₂ (Becomes labels) (labels.rowsFrom address instructions) items) :
    (definedNames items).Nodup := by
  induction instructions generalizing address items with
  | nil =>
    obtain rfl := eq_of_becomes_rowsFrom_nil becomes
    rw [definedNames_labels]
    exact nodup_namesAt labels address
  | cons i rest ih =>
    obtain ⟨draft, more, rfl, -, becomes⟩ := exists_of_becomes_rowsFrom_cons becomes
    rw [definedNames_append, definedNames_labels, definedNames_instruction, List.nodup_append]
    refine ⟨nodup_namesAt labels address, ih becomes, fun name here other there same => ?_⟩
    subst same
    -- Its address would be this one and a later one.
    obtain ⟨target, defined⟩ := mem_definedNames_iff.mp there
    have later := ((definedAt_iff_of_becomes becomes).mp defined).1
    rw [mem_namesAt_iff.mp here] at later
    have := Option.some.inj later
    omega

/-- **The instructions of the rows** are the ones of the program, but for the lines. -/
theorem exists_yields_of_becomes {instructions : List Instruction}
    (becomes : List.Forall₂ (Becomes labels) (labels.rowsFrom address instructions) items) :
    ∃ is, List.Forall₂ (Draft.Yields labels) (drafts items) is ∧
      is.map Instruction.code = instructions.map Instruction.code := by
  induction instructions generalizing address items with
  | nil =>
    obtain rfl := eq_of_becomes_rowsFrom_nil becomes
    refine ⟨[], ?_, rfl⟩
    rw [drafts_labels]
    exact .nil
  | cons i rest ih =>
    -- The labels of this address come first. They add no instruction.
    obtain ⟨draft, more, rfl, here, becomes⟩ := exists_of_becomes_rowsFrom_cons becomes
    obtain ⟨is, yields, same⟩ := ih becomes
    cases here with
    | instruction opcode means =>
      refine ⟨⟨i.opcode, i.operands, draft.line⟩ :: is, ?_, ?_⟩
      · rw [drafts_append, drafts_labels, List.nil_append]
        exact .cons ⟨opcode.symm, means, rfl⟩ yields
      · rw [List.map_cons, List.map_cons, same]
        rfl

/-! ### The whole listing -/

/-- What is in the rows of a program. -/
private theorem mem_rowsFrom {instructions : List Instruction} {row : Row}
    (h : row ∈ labels.rowsFrom address instructions) :
    (∃ name target, labels.find? name = some target ∧ row = .label name) ∨
      ∃ target, ∃ i ∈ instructions, row = .instruction target i := by
  -- The rows of an address are labels, and its instruction follows them.
  have names {address : Nat} (h : row ∈ labels.rowsAt address) :
      ∃ name target, labels.find? name = some target ∧ row = .label name := by
    obtain ⟨name, listed, rfl⟩ := List.mem_map.mp h
    exact ⟨name, address, mem_namesAt_iff.mp listed, rfl⟩
  induction instructions generalizing address with
  | nil => exact .inl (names h)
  | cons i rest ih =>
    rw [Labels.rowsFrom, List.mem_append, List.mem_cons] at h
    rcases h with here | rfl | later
    · exact .inl (names here)
    · exact .inr ⟨address, i, List.mem_cons_self, rfl⟩
    · refine (ih later).imp_right ?_
      rintro ⟨target, i, hi, rfl⟩
      exact ⟨target, i, List.mem_cons_of_mem _ hi, rfl⟩

end Assembly

namespace Program.Readable

variable {p : Program} {ls : List (List Char)}

/-- The labels in the rows of a readable program are names. -/
theorem named (readable : p.Readable) : ∀ row ∈ p.rows, row.Named := by
  intro row hr
  rcases mem_rowsFrom hr with ⟨name, target, found, rfl⟩ | ⟨target, i, -, rfl⟩
  · exact readable.identifiers name target found
  · trivial

/-- Every row can be written with labels for addresses. -/
private theorem exists_written (readable : p.Readable) :
    ∃ ls, List.Forall₂ (Row.Written p.labels) p.rows ls := by
  refine exists_forall₂ fun row hr => ?_
  rcases mem_rowsFrom hr with ⟨name, target, -, rfl⟩ | ⟨target, i, hi, rfl⟩
  · exact ⟨_, .label⟩
  · have operand : ∀ o ∈ i.operands, ∃ word, o.Written p.labels word := by
      intro o ho
      by_cases address : ∃ target, o = .address target
      · obtain ⟨target, rfl⟩ := address
        obtain ⟨name, found, nameless⟩ := readable.labelled i hi target ho
        exact ⟨_, .address found nameless⟩
      · exact ⟨_, .plain fun target same => address ⟨target, same⟩⟩
    obtain ⟨words, written⟩ := exists_forall₂ operand
    exact ⟨_, .instruction written⟩

/-- Rows are written on lines of their own. -/
private theorem lines_written (readable : p.Readable)
    (written : List.Forall₂ (Row.Written p.labels) p.rows ls) :
    Text.lines (Text.unlines ls) = ls := by
  refine Text.lines_unlines fun line hl => PlainLine.clean ?_
  obtain ⟨row, hr, written⟩ := exists_of_forall₂ written.flip line hl
  cases written with
  | label => exact (plain_of_isIdentifier (readable.named _ hr)).label_line
  | @instruction address i words operands =>
    refine (plain_mnemonic i.opcode).line.instructionLine fun word hw => ?_
    obtain ⟨o, -, written⟩ := exists_of_forall₂ operands.flip word hw
    exact (plain_of_written readable.identifiers written).line

/-- **The written rows are read as the program**, but for the lines. -/
theorem exists_compile (readable : p.Readable)
    (written : List.Forall₂ (Row.Written p.labels) p.rows ls) :
    ∃ q, compile (String.ofList (Text.unlines ls)) = .ok q ∧ q.labels = p.labels ∧
      q.instructions.map Instruction.code = p.instructions.map Instruction.code := by
  have fits : ∀ address i, .instruction address i ∈ p.rows →
      Slot.Admit i.opcode.signature i.operands := by
    intro address i hr
    rcases mem_rowsFrom hr with ⟨_, _, -, same⟩ | ⟨_, _, hi, same⟩
    · cases same
    · cases same
      exact readable.operands i hi
  -- The items of the lines have the labels and the instructions of the program.
  obtain ⟨items, splits, becomes⟩ :=
    exists_splits readable.identifiers written readable.named fits 1
  obtain ⟨is, yields, same⟩ := exists_yields_of_becomes becomes
  refine ⟨⟨is, p.labels⟩, ?_, rfl, same⟩
  rw [compile, tokenize, String.toList_ofList, readable.lines_written written]
  refine parse_eq_ok_iff_describes.mpr
    ⟨items, splits, nodup_definedNames_of_becomes becomes, yields, fun name target => ?_⟩
  rw [definedAt_iff_of_becomes becomes, Nat.zero_add]
  exact (and_iff_left_of_imp (readable.inside name target)).symm

end Program.Readable

/-- **A listing reassembles.** Take the listing of a program that was read, leave out the column of
addresses, and write in the place of each address a label that is defined there and is no register's
name. Every address has such a label, so there is such a text; and every such text is read as a
program with the same labels and with the same opcodes and operands in the same order. -/
theorem exists_compile_of_symbolic {source : String} {p : Program}
    (compiled : compile source = .ok p) :
    (∀ i ∈ p.instructions, ∀ target, .address target ∈ i.operands →
        ∃ name, p.labels.find? name = some target ∧ Register.ofName? name = none) ∧
      (∃ text, p.labels.Symbolic p.bareListing text) ∧
      ∀ text, p.labels.Symbolic p.bareListing text →
        ∃ q, compile (String.ofList text) = .ok q ∧ q.labels = p.labels ∧
          q.instructions.map Instruction.code = p.instructions.map Instruction.code := by
  have readable := readable_of_compile compiled
  refine ⟨readable.labelled, ?_, fun text symbolic => ?_⟩
  · obtain ⟨ls, written⟩ := readable.exists_written
    exact ⟨_, (Program.symbolic_bareListing_iff readable.named).mpr ⟨ls, rfl, written⟩⟩
  · obtain ⟨ls, rfl, written⟩ := (Program.symbolic_bareListing_iff readable.named).mp symbolic
    exact readable.exists_compile written

/-- Two labels share an address, one of them with the name of an opcode and one with the name of a
register, and a third label stands at the end. -/
theorem exists_compile_of_symbolic_two_labels :
    let source := "R0: ADD: MOV ACC, -7\nJMP ADD\nend:"
    let text := "ADD:\nR0:\nMOV ACC, -7\nJMP ADD\nend:\n"
    let p : Program :=
      ⟨[⟨.mov, [.register .acc, .number (-7)], 1⟩, ⟨.jmp, [.address 0], 2⟩],
        .ofList [("ADD", 0), ("R0", 0), ("end", 2)]⟩
    compile source = .ok p ∧ p.listing = "ADD:\nR0:\n   0  MOV ACC, -7\n   1  JMP @0\nend:\n" ∧
      p.labels.Symbolic p.bareListing text.toList ∧
      ∃ q, compile text = .ok q ∧ q.labels = p.labels ∧
        q.instructions.map Instruction.code = p.instructions.map Instruction.code := by
  intro source text p
  have compiled : compile source = .ok p := toOption_eq_some_iff.mp (by decide +kernel)
  have listing : p.listing = "ADD:\nR0:\n   0  MOV ACC, -7\n   1  JMP @0\nend:\n" := by
    decide +kernel
  -- Only the address is written in another way. The rest is kept on both sides of it.
  have symbolic : p.labels.Symbolic p.bareListing text.toList := by
    have bare : p.bareListing = "ADD:\nR0:\nMOV ACC, -7\nJMP ".toList ++
        '@' :: ((toString 0).toList ++ "\nend:\n".toList) := by decide +kernel
    have written : text.toList = "ADD:\nR0:\nMOV ACC, -7\nJMP ".toList ++
        ("ADD".toList ++ "\nend:\n".toList) := by decide
    have kept {cs : List Char} (noAddress : '@' ∉ cs) : p.labels.Symbolic cs cs :=
      (Labels.symbolic_iff_eq noAddress).mpr rfl
    rw [bare, written]
    refine (kept (by decide)).append (.address ?_ ?_ (by simp) (kept (by decide))) (by simp)
    · decide +kernel
    · decide
  have reads := (exists_compile_of_symbolic compiled).2.2 text.toList symbolic
  rw [String.ofList_toList] at reads
  exact ⟨compiled, listing, symbolic, reads⟩

end TankDuel

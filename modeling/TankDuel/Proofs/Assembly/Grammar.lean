import Mathlib.Data.List.TakeWhile
import TankDuel.Assembly.Compile
import TankDuel.Proofs.Assembly.Operands
import TankDuel.Proofs.Machine.Labels

/-!
# The grammar of programs

A text is a program if its tokens split into items, no label is defined twice, and every label that
is referred to is defined. An **item** is the definition of a label, or an opcode with all the
tokens behind it on its line, which have to be its operands (`Splits`). The program has one
instruction for each opcode, and a label stands for the number of instructions before its
definition (`Describes`).

Reading goes through the tokens once, with the number of instructions placed so far and the labels
defined so far. The induction is on the statements it sees, for any such number and any such
labels: `assemble_eq_ok_iff` says that it succeeds just where the tokens split into items with new
labels, and `find?_tableFrom` says what is in the table then. So `parse_eq_ok_iff_grammatical`
holds: reading accepts the texts of the grammar and no others, and yields their programs.
-/

namespace TankDuel.Assembly

/-! ### Items -/

/-- An item of a program text. -/
inductive Item where
  /-- The definition of a label. -/
  | label (name : String)
  | instruction (draft : Draft)

/-- The name that an item defines. -/
def Item.label? : Item → Option String
  | label name => some name
  | instruction _ => none

/-- The instruction that an item adds to the program. -/
def Item.draft? : Item → Option Draft
  | label _ => none
  | instruction draft => some draft

/-- Tokens split, from left to right, into items. -/
inductive Splits : List Token → List Item → Prop
  | nil : Splits [] []
  | label {name : String} {line : Nat} {rest : List Token} {items : List Item} :
    Splits rest items → Splits (⟨.label name, line⟩ :: rest) (.label name :: items)
  | instruction {opcode : Opcode} {line : Nat} {operands rest : List Token}
    {arguments : List Argument} {items : List Item} :
    (∀ t ∈ operands, t.line = line) → (∀ t ∈ rest.head?, t.line ≠ line) →
    Takes opcode operands arguments → Splits rest items →
    Splits (⟨.opcode opcode, line⟩ :: (operands ++ rest))
      (.instruction ⟨opcode, arguments, line⟩ :: items)

/-- The labels that are defined, in order. -/
def definedNames (items : List Item) : List String := items.filterMap Item.label?

/-- The instructions, in order. -/
def drafts (items : List Item) : List Draft := items.filterMap Item.draft?

/-- An instruction defines no name. -/
@[simp] theorem definedNames_instruction (draft : Draft) (items : List Item) :
    definedNames (.instruction draft :: items) = definedNames items :=
  rfl

/-- Of two parts, both define names. -/
@[simp] theorem definedNames_append (items items' : List Item) :
    definedNames (items ++ items') = definedNames items ++ definedNames items' :=
  List.filterMap_append

/-- Of two parts, both add instructions. -/
@[simp] theorem drafts_append (items items' : List Item) :
    drafts (items ++ items') = drafts items ++ drafts items' :=
  List.filterMap_append

/-- Labels alone define their names. -/
@[simp] theorem definedNames_labels (names : List String) :
    definedNames (names.map .label) = names := by
  rw [definedNames, List.filterMap_map]
  exact List.filterMap_some

/-- Labels alone add no instruction. -/
@[simp] theorem drafts_labels (names : List String) : drafts (names.map .label) = [] := by
  rw [drafts, List.filterMap_map]
  exact List.filterMap_eq_nil_iff.mpr fun _ _ => rfl

/-- The label table of items behind `placed` instructions and `labels`. -/
def tableFrom : (placed : Nat) → (labels : Labels) → List Item → Labels
  | _, labels, [] => labels
  | placed, labels, .label name :: items => tableFrom placed (labels.insert name placed) items
  | placed, labels, .instruction _ :: items => tableFrom (placed + 1) labels items

/-- The items define no label twice, and none that is in the table already. -/
structure Fresh (labels : Labels) (items : List Item) : Prop where
  nodup : (definedNames items).Nodup
  unused : ∀ name ∈ definedNames items, labels.find? name = none

variable {labels : Labels} {items : List Item} {name : String} {placed : Nat}

/-- A label is fresh if nothing has its name so far and nothing behind it will. -/
private theorem fresh_label_iff :
    Fresh labels (.label name :: items) ↔
      labels.find? name = none ∧ Fresh (labels.insert name placed) items := by
  have names : definedNames (.label name :: items) = name :: definedNames items := rfl
  -- Behind the label its name counts as taken, so `Fresh` there rules out a second definition.
  constructor
  · rintro ⟨nodup, unused⟩
    rw [names] at nodup unused
    obtain ⟨new, nodup⟩ := List.nodup_cons.mp nodup
    refine ⟨unused name List.mem_cons_self, nodup, fun other defined => ?_⟩
    have apart : other ≠ name := fun same => new (same ▸ defined)
    rw [Labels.find?_insert, if_neg apart]
    exact unused other (List.mem_cons_of_mem _ defined)
  · rintro ⟨free, nodup, unused⟩
    have apart : ∀ other ∈ definedNames items, other ≠ name := by
      rintro other defined rfl
      have taken := unused other defined
      rw [Labels.find?_insert, if_pos rfl] at taken
      exact absurd taken (by simp)
    constructor
    · rw [names]
      exact List.nodup_cons.mpr ⟨fun defined => apart name defined rfl, nodup⟩
    · rw [names]
      intro other defined
      rcases List.mem_cons.mp defined with rfl | defined
      · exact free
      · have unusedOther := unused other defined
        rwa [Labels.find?_insert, if_neg (apart other defined)] at unusedOther

/-- An instruction takes no name. -/
private theorem fresh_instruction_iff {draft : Draft} :
    Fresh labels (.instruction draft :: items) ↔ Fresh labels items :=
  ⟨fun h => ⟨h.nodup, h.unused⟩, fun h => ⟨h.nodup, h.unused⟩⟩

/-- The tokens of one line in front of a token of another line are the ones that are taken. -/
theorem takeWhile_line {line : Nat} {run rest : List Token} (same : ∀ t ∈ run, t.line = line)
    (stops : ∀ t ∈ rest.head?, t.line ≠ line) :
    (run ++ rest).takeWhile (fun u => u.line = line) = run ∧
      (run ++ rest).dropWhile (fun u => u.line = line) = rest := by
  have inside : ∀ t ∈ run, decide (t.line = line) = true := fun t ht => decide_eq_true (same t ht)
  rw [List.takeWhile_append_of_pos inside, List.dropWhile_append_of_pos inside]
  cases rest with
  | nil => exact ⟨List.append_nil run, rfl⟩
  | cons t rest =>
    have stop : ¬t.line = line := stops t rfl
    simp [stop]

/-- What is taken ends where the line does. -/
theorem line_ne_of_head?_dropWhile {line : Nat} {tokens : List Token} :
    ∀ t ∈ (tokens.dropWhile fun u => u.line = line).head?, t.line ≠ line := by
  intro t ht
  have stop := List.head?_dropWhile_not (fun u : Token => decide (u.line = line)) tokens
  rw [ht] at stop
  simpa using stop

/-- **Reading statements.** It succeeds where the tokens split into items that define only new
labels, each one once, and what it yields are the instructions and the table of the items. -/
theorem assemble_eq_ok_iff {tokens : List Token} {ds : List Draft} {labels' : Labels} :
    assemble placed labels (statements tokens) = .ok (ds, labels') ↔
      ∃ items, Splits tokens items ∧ Fresh labels items ∧ ds = drafts items ∧
        labels' = tableFrom placed labels items := by
  -- The three cases are the end, an opcode with its line, and a token that is not an opcode.
  induction tokens using statements.induct generalizing placed labels ds with
  | case1 =>
    rw [statements, assemble]
    constructor
    · intro h
      obtain ⟨rfl, rfl⟩ := Prod.mk.inj (Except.ok.inj h)
      exact ⟨[], .nil, ⟨.nil, nofun⟩, rfl, rfl⟩
    · rintro ⟨_, ⟨⟩, -, rfl, rfl⟩
      rfl
  | case2 t rest opcode isOpcode ih =>
    obtain ⟨kind, line⟩ := t
    obtain rfl : kind = .opcode opcode := isOpcode
    rw [statements, assemble]
    dsimp only at ih ⊢
    constructor
    · intro h
      split at h
      next => exact absurd h (by simp)
      next arguments read =>
        obtain ⟨⟨ds', table⟩, assembled, h⟩ := bind_eq_ok_iff.mp h
        obtain ⟨rfl, rfl⟩ := Prod.mk.inj (Except.ok.inj h)
        obtain ⟨items, splits, fresh, rfl, rfl⟩ := ih.mp assembled
        refine ⟨.instruction ⟨opcode, arguments, line⟩ :: items, ?_,
          fresh_instruction_iff.mpr fresh, rfl, rfl⟩
        -- What was taken and what was left make up the tokens behind the opcode.
        rw [← List.takeWhile_append_dropWhile (p := fun u : Token => u.line = line) (l := rest)]
        exact .instruction (fun t ht => by simpa using List.mem_takeWhile_imp ht)
          line_ne_of_head?_dropWhile (argumentsOf_eq_ok_iff.mp read) splits
    · rintro ⟨_, splits, fresh, rfl, rfl⟩
      cases splits with
      | instruction same stops takes splits =>
        -- The reader takes exactly the operands of the item, by the conditions on lines.
        obtain ⟨taken, left⟩ := takeWhile_line same stops
        rw [left] at ih
        rw [taken, left, argumentsOf_eq_ok_iff.mpr takes]
        have assembled := ih.mpr ⟨_, splits, fresh_instruction_iff.mp fresh, rfl, rfl⟩
        exact bind_eq_ok_iff.mpr ⟨_, assembled, rfl⟩
  | case3 t rest notOpcode ih =>
    obtain ⟨kind, line⟩ := t
    rw [statements]
    cases kind with
    | opcode opcode => exact absurd rfl (notOpcode opcode)
    | word | number | unknown =>
      constructor
      · intro h
        exact absurd h nofun
      · rintro ⟨_, ⟨⟩, -⟩
    | label name =>
      dsimp only
      rw [assemble]
      dsimp only
      rw [Labels.contains]
      constructor
      · intro h
        split at h
        next => exact absurd h (by simp)
        next free =>
          obtain ⟨items, splits, fresh, rfl, rfl⟩ := ih.mp h
          have unused : labels.find? name = none := by simpa using free
          exact ⟨.label name :: items, .label splits, fresh_label_iff.mpr ⟨unused, fresh⟩, rfl, rfl⟩
      · rintro ⟨_, splits, fresh, rfl, rfl⟩
        cases splits with
        | label splits =>
          obtain ⟨unused, fresh⟩ := fresh_label_iff.mp fresh
          rw [unused]
          exact ih.mpr ⟨_, splits, fresh, rfl, rfl⟩

/-! ### Labels -/

/-- The label is defined behind so many instructions. -/
def DefinedAt (items : List Item) (name : String) (target : Nat) : Prop :=
  ∃ before after, items = before ++ .label name :: after ∧ target = (drafts before).length

variable {target : Nat}

/-- A name is defined by the first label, or further on. -/
theorem definedAt_label_iff {other : String} :
    DefinedAt (.label other :: items) name target ↔
      other = name ∧ target = 0 ∨ DefinedAt items name target := by
  constructor
  · rintro ⟨before, after, split, rfl⟩
    cases before with
    | nil =>
      obtain ⟨same, -⟩ := List.cons.inj split
      exact .inl ⟨Item.label.inj same, rfl⟩
    | cons first before =>
      obtain ⟨rfl, rfl⟩ := List.cons.inj split
      exact .inr ⟨before, after, rfl, rfl⟩
  · rintro (⟨rfl, rfl⟩ | ⟨before, after, rfl, rfl⟩)
    · exact ⟨[], items, rfl, rfl⟩
    · exact ⟨.label other :: before, after, rfl, rfl⟩

/-- Behind an instruction all labels stand for addresses one higher. -/
theorem definedAt_instruction_iff {draft : Draft} :
    DefinedAt (.instruction draft :: items) name target ↔
      ∃ n, target = n + 1 ∧ DefinedAt items name n := by
  constructor
  · rintro ⟨before, after, split, rfl⟩
    cases before with
    | nil => exact absurd (List.cons.inj split).1 nofun
    | cons first before =>
      obtain ⟨rfl, rfl⟩ := List.cons.inj split
      exact ⟨(drafts before).length, rfl, before, after, rfl, rfl⟩
  · rintro ⟨_, rfl, before, after, rfl, rfl⟩
    exact ⟨.instruction draft :: before, after, rfl, rfl⟩

/-- A name is defined if it is defined somewhere. -/
theorem mem_definedNames_iff :
    name ∈ definedNames items ↔ ∃ target, DefinedAt items name target := by
  rw [definedNames, List.mem_filterMap]
  constructor
  · rintro ⟨item, hi, isLabel⟩
    cases item with
    | instruction => exact absurd isLabel nofun
    | label other =>
      obtain rfl := Option.some.inj isLabel
      obtain ⟨before, after, rfl⟩ := List.append_of_mem hi
      exact ⟨_, before, after, rfl, rfl⟩
  · rintro ⟨_, before, after, rfl, -⟩
    exact ⟨.label name, List.mem_append_right _ List.mem_cons_self, rfl⟩

/-- **The table of items.** -/
theorem find?_tableFrom (fresh : Fresh labels items) :
    (tableFrom placed labels items).find? name = some target ↔
      labels.find? name = some target ∨ ∃ n, target = placed + n ∧ DefinedAt items name n := by
  induction items generalizing placed labels with
  | nil =>
    refine (or_iff_left ?_).symm
    rintro ⟨n, -, before, after, split, -⟩
    exact absurd split (by simp)
  | cons item items ih =>
    cases item with
    | instruction draft =>
      rw [tableFrom, ih (fresh_instruction_iff.mp fresh)]
      simp only [definedAt_instruction_iff]
      -- The instruction is counted by `placed` on one side and by the address on the other.
      refine or_congr_right ⟨?_, ?_⟩
      · rintro ⟨n, rfl, defined⟩
        exact ⟨n + 1, by omega, n, rfl, defined⟩
      · rintro ⟨_, rfl, n, rfl, defined⟩
        exact ⟨n, by omega, defined⟩
    | label other =>
      obtain ⟨free, rest⟩ : labels.find? other = none ∧ Fresh (labels.insert other placed) items :=
        fresh_label_iff.mp fresh
      rw [tableFrom, ih rest, Labels.find?_insert]
      simp only [definedAt_label_iff]
      by_cases same : name = other
      · subst same
        -- The label is not defined again, so its address is the present one.
        have last : ∀ n, ¬DefinedAt items name n := fun n defined => by
          have unused := rest.unused name (mem_definedNames_iff.mpr ⟨n, defined⟩)
          rw [Labels.find?_insert, if_pos rfl] at unused
          exact absurd unused (by simp)
        simp [last, free, eq_comm]
      · simp [same, Ne.symm same]

/-! ### Programs -/

/-- The operand that an argument comes to. -/
inductive Argument.Means (labels : Labels) : Argument → Operand → Prop
  | operand {o : Operand} : Means labels (.operand o) o
  | label {name : String} {target : Nat} : labels.find? name = some target →
    Means labels (.label name) (.address target)

/-- The instruction that a draft comes to. -/
structure Draft.Yields (labels : Labels) (draft : Draft) (i : Instruction) : Prop where
  opcode : i.opcode = draft.opcode
  operands : List.Forall₂ (Argument.Means labels) draft.arguments i.operands
  line : i.line = draft.line

/-- No label is defined twice, and all that are referred to are defined. -/
structure Grammatical (items : List Item) : Prop where
  once : (definedNames items).Nodup
  defined : ∀ draft ∈ drafts items, ∀ name, .label name ∈ draft.arguments →
    name ∈ definedNames items

/-- The program of items. -/
structure Describes (items : List Item) (p : Program) : Prop where
  instructions : List.Forall₂ (Draft.Yields p.labels) (drafts items) p.instructions
  labels : ∀ name target, p.labels.find? name = some target ↔ DefinedAt items name target

/-- An argument is resolved to what it means. -/
theorem Argument.resolve_eq_ok_iff {a : Argument} {o : Operand} :
    a.resolve labels = .ok o ↔ a.Means labels o := by
  cases a with
  | operand o' =>
    constructor
    · intro h
      obtain rfl := Except.ok.inj h
      exact .operand
    · rintro ⟨⟩
      rfl
  | label name =>
    rw [Argument.resolve]
    constructor
    · intro h
      split at h
      next found =>
        obtain rfl := Except.ok.inj h
        exact .label found
      next => exact absurd h (by simp)
    · rintro (_ | found)
      rw [found]

/-- A draft is resolved to the instruction that it yields. -/
theorem Draft.resolve_eq_ok_iff {draft : Draft} {i : Instruction} :
    draft.resolve labels = .ok i ↔ draft.Yields labels i := by
  -- All operands are resolved if each of them is.
  have operands {os : List Operand} :
      draft.arguments.mapM (Argument.resolve labels) = .ok os ↔
        List.Forall₂ (Argument.Means labels) draft.arguments os := by
    simp only [mapM_eq_ok_iff, Argument.resolve_eq_ok_iff]
  rw [Draft.resolve]
  constructor
  · intro h
    split at h
    next os resolved =>
      obtain rfl := Except.ok.inj h
      exact ⟨rfl, operands.mp resolved, rfl⟩
    next => exact absurd h (by simp)
  · obtain ⟨opcode, os, line⟩ := i
    rintro ⟨rfl, means, rfl⟩
    rw [operands.mpr means]

variable {p : Program} {tokens : List Token}

/-- Before anything is defined, names must only differ from each other. -/
private theorem fresh_empty_iff : Fresh .empty items ↔ (definedNames items).Nodup :=
  ⟨Fresh.nodup, fun nodup => ⟨nodup, fun _ _ => Labels.find?_empty⟩⟩

/-- Nothing but the items decides about the label table. -/
theorem labels_eq_tableFrom_iff (once : (definedNames items).Nodup) :
    p.labels = tableFrom 0 .empty items ↔
      ∀ name target, p.labels.find? name = some target ↔ DefinedAt items name target := by
  have table (name : String) (target : Nat) :
      (tableFrom 0 .empty items).find? name = some target ↔ DefinedAt items name target := by
    rw [find?_tableFrom (fresh_empty_iff.mpr once)]
    simp
  constructor
  · intro same name target
    rw [same, table]
  · intro h
    refine Labels.ext_find? fun name => Option.ext fun target => ?_
    rw [h, table]

/-- **Reading a program.** -/
theorem parse_eq_ok_iff_describes :
    parse tokens = .ok p ↔
      ∃ items, Splits tokens items ∧ (definedNames items).Nodup ∧ Describes items p := by
  rw [parse, bind_eq_ok_iff]
  -- Parsing has two parts: the assembly finds the items, and resolving them finds the instructions.
  constructor
  · rintro ⟨⟨ds, table⟩, assembled, h⟩
    obtain ⟨is, resolved, h⟩ := bind_eq_ok_iff.mp h
    obtain rfl := Except.ok.inj h
    obtain ⟨items, splits, fresh, rfl, rfl⟩ := assemble_eq_ok_iff.mp assembled
    refine ⟨items, splits, fresh.nodup, ?_, (labels_eq_tableFrom_iff fresh.nodup).mp rfl⟩
    exact (mapM_eq_ok_iff.mp resolved).imp fun _ _ => Draft.resolve_eq_ok_iff.mp
  · rintro ⟨items, splits, once, describes⟩
    have table := (labels_eq_tableFrom_iff once).mpr describes.labels
    refine ⟨(drafts items, p.labels), ?_, ?_⟩
    · exact assemble_eq_ok_iff.mpr ⟨items, splits, fresh_empty_iff.mpr once, rfl, table⟩
    · have resolved := mapM_eq_ok_iff.mpr
        (describes.instructions.imp fun _ _ => Draft.resolve_eq_ok_iff.mpr)
      exact bind_eq_ok_iff.mpr ⟨p.instructions, resolved, rfl⟩

/-- The labels that a program refers to are defined. -/
theorem Describes.grammatical (h : Describes items p) (once : (definedNames items).Nodup) :
    Grammatical items := by
  refine ⟨once, fun draft hd name refers => ?_⟩
  obtain ⟨i, -, yields⟩ := exists_of_forall₂ h.instructions draft hd
  obtain ⟨o, -, means⟩ := exists_of_forall₂ yields.operands _ refers
  cases means with
  | label found => exact mem_definedNames_iff.mpr ⟨_, (h.labels name _).mp found⟩

/-- Grammatical items have a program. -/
theorem Grammatical.exists_describes (h : Grammatical items) : ∃ p, Describes items p := by
  have table := (labels_eq_tableFrom_iff (p := ⟨[], tableFrom 0 .empty items⟩) h.once).mp rfl
  have yields : ∀ draft ∈ drafts items, ∃ i, Draft.Yields (tableFrom 0 .empty items) draft i := by
    intro draft hd
    have means : ∀ a ∈ draft.arguments, ∃ o, Argument.Means (tableFrom 0 .empty items) a o := by
      intro a ha
      cases a with
      | operand o => exact ⟨o, .operand⟩
      | label name =>
        -- The label is defined somewhere, before or after.
        obtain ⟨target, defined⟩ := mem_definedNames_iff.mp (h.defined draft hd name ha)
        exact ⟨.address target, .label ((table name target).mpr defined)⟩
    obtain ⟨os, operands⟩ := exists_forall₂ means
    exact ⟨⟨draft.opcode, os, draft.line⟩, rfl, operands, rfl⟩
  obtain ⟨is, instructions⟩ := exists_forall₂ yields
  exact ⟨⟨is, tableFrom 0 .empty items⟩, instructions, table⟩

/-- **A text is a program just where the grammar says so.** -/
theorem parse_eq_ok_iff_grammatical (tokens : List Token) :
    ((∃ p, parse tokens = .ok p) ↔ ∃ items, Splits tokens items ∧ Grammatical items) ∧
      ∀ p, parse tokens = .ok p ↔
        ∃ items, Splits tokens items ∧ Grammatical items ∧ Describes items p := by
  constructor
  · constructor
    · rintro ⟨p, parsed⟩
      obtain ⟨items, splits, once, describes⟩ := parse_eq_ok_iff_describes.mp parsed
      exact ⟨items, splits, describes.grammatical once⟩
    · rintro ⟨items, splits, grammatical⟩
      obtain ⟨p, describes⟩ := grammatical.exists_describes
      exact ⟨p, parse_eq_ok_iff_describes.mpr ⟨items, splits, grammatical.once, describes⟩⟩
  · intro p
    rw [parse_eq_ok_iff_describes]
    constructor
    · rintro ⟨items, splits, once, describes⟩
      exact ⟨items, splits, describes.grammatical once, describes⟩
    · rintro ⟨items, splits, grammatical, describes⟩
      exact ⟨items, splits, grammatical.once, describes⟩

end TankDuel.Assembly

import Mathlib.Data.List.Forall2
import TankDuel.Machine.Program
import TankDuel.Proofs.Assembly.Lexing
import TankDuel.Proofs.Machine.Labels
import TankDuel.Proofs.Text.Lines

/-!
# Listings with labels for addresses

The listing of a program shows a row for each label and each instruction. An instruction has its
address in a column in front of it, and a jump shows the address it goes to as `@` and a number. No
program can be read from that. This file leaves out the column (`Program.bareListing`) and puts
labels in the place of the addresses (`Labels.Symbolic`, a relation, because an address may have
several labels).

The main statement is `Program.symbolic_bareListing_iff`: the texts that come out are the rows,
written one by one with labels for addresses (`Row.Written`). A text is made symbolic part by part
(`Labels.symbolic_append_iff`), if no part begins with a digit, which could belong to the number of
an address at the end of the part before.
-/

namespace TankDuel

/-! ### Labels for addresses -/

/-- A text with a label in the place of every address. The label stands for the address and is no
name of a register. Where an address is written twice, the labels need not be the same. -/
inductive Labels.Symbolic (labels : Labels) : List Char → List Char → Prop
  | nil : Symbolic labels [] []
  | kept {c : Char} {cs ds : List Char} : c ≠ '@' → Symbolic labels cs ds →
    Symbolic labels (c :: cs) (c :: ds)
  | address {name : String} {target : Nat} {cs ds : List Char} : labels.find? name = some target →
    Register.ofName? name = none → (∀ c ∈ cs.head?, c.isDigit = false) → Symbolic labels cs ds →
    Symbolic labels ('@' :: ((toString target).toList ++ cs)) (name.toList ++ ds)

namespace Labels

variable {labels : Labels} {cs cs' ds ds' t : List Char}

/-- Two texts are written with labels part by part, if no address runs on into the second part. -/
theorem Symbolic.append (front : labels.Symbolic cs ds) (back : labels.Symbolic cs' ds')
    (noDigit : ∀ c ∈ cs'.head?, c.isDigit = false) : labels.Symbolic (cs ++ cs') (ds ++ ds') := by
  induction front with
  | nil => exact back
  | kept other _ ih => exact .kept other ih
  | @address name target cs ds found nameless ends _ ih =>
    rw [List.cons_append, List.append_assoc, List.append_assoc]
    refine .address found nameless ?_ ih
    cases cs with
    | nil => exact noDigit
    | cons c cs => exact ends

/-- The digits of an address all belong to the part in which they begin, if the next part does not
begin with a digit. -/
private theorem exists_of_digits_append {target : Nat} {rest : List Char}
    (noDigit : ∀ c ∈ cs'.head?, c.isDigit = false)
    (parts : cs ++ cs' = (toString target).toList ++ rest) :
    ∃ more, cs = (toString target).toList ++ more ∧ rest = more ++ cs' := by
  rcases List.append_eq_append_iff.mp parts with ⟨more, digits, rfl⟩ | ⟨more, split, rfl⟩
  · cases more with
    | nil =>
      rw [List.append_nil] at digits
      exact ⟨[], by rw [digits, List.append_nil], rfl⟩
    | cons c more =>
      have digit : c.isDigit :=
        Text.isDigit_of_mem_toString (digits ▸ List.mem_append_right _ List.mem_cons_self)
      exact absurd digit (by simp [noDigit c rfl])
  · exact ⟨more, split, rfl⟩

/-- A text that is put together is made symbolic part by part, if the second part does not go on
with the digits of an address. -/
theorem Symbolic.exists_append (noDigit : ∀ c ∈ cs'.head?, c.isDigit = false)
    (whole : labels.Symbolic (cs ++ cs') t) :
    ∃ ds ds', t = ds ++ ds' ∧ labels.Symbolic cs ds ∧ labels.Symbolic cs' ds' := by
  -- The induction is on how the whole text was made symbolic, wherever it is cut.
  generalize parts : cs ++ cs' = all at whole
  induction whole generalizing cs with
  | nil =>
    obtain ⟨rfl, rfl⟩ := List.append_eq_nil_iff.mp parts
    exact ⟨[], [], rfl, .nil, .nil⟩
  | @kept c rest ds other tail ih =>
    cases cs with
    | nil =>
      refine ⟨[], c :: ds, rfl, .nil, ?_⟩
      rw [List.nil_append] at parts
      rw [parts]
      exact .kept other tail
    | cons d cs =>
      obtain ⟨rfl, tailParts⟩ := List.cons.inj parts
      obtain ⟨front, back, rfl, first, second⟩ := ih tailParts
      exact ⟨d :: front, back, rfl, .kept other first, second⟩
  | @address name target rest ds found nameless ends tail ih =>
    cases cs with
    | nil =>
      refine ⟨[], name.toList ++ ds, rfl, .nil, ?_⟩
      rw [List.nil_append] at parts
      rw [parts]
      exact .address found nameless ends tail
    | cons d cs =>
      obtain ⟨rfl, tailParts⟩ := List.cons.inj parts
      -- The cut does not go through an address, as the second part does not begin with a digit.
      obtain ⟨more, rfl, rfl⟩ := exists_of_digits_append noDigit tailParts
      obtain ⟨front, back, rfl, first, second⟩ := ih rfl
      refine ⟨name.toList ++ front, back, (List.append_assoc _ _ _).symm, ?_, second⟩
      refine .address found nameless ?_ first
      cases more with
      | nil => exact nofun
      | cons c more => exact ends

/-- A text in two parts is written with labels part by part. -/
theorem symbolic_append_iff (noDigit : ∀ c ∈ cs'.head?, c.isDigit = false) :
    labels.Symbolic (cs ++ cs') t ↔
      ∃ ds ds', t = ds ++ ds' ∧ labels.Symbolic cs ds ∧ labels.Symbolic cs' ds' := by
  constructor
  · exact Symbolic.exists_append noDigit
  · rintro ⟨ds, ds', rfl, front, back⟩
    exact front.append back noDigit

/-- A text without addresses stays as it is. -/
theorem symbolic_iff_eq (noAddress : '@' ∉ cs) : labels.Symbolic cs t ↔ t = cs := by
  constructor
  · intro h
    induction h with
    | nil => rfl
    | kept _ _ ih => rw [ih fun later => noAddress (List.mem_cons_of_mem _ later)]
    | address => exact absurd List.mem_cons_self noAddress
  · rintro rfl
    induction t with
    | nil => exact .nil
    | cons c cs ih =>
      obtain ⟨other, noAddress⟩ := List.ne_and_not_mem_of_not_mem_cons noAddress
      exact .kept other.symm (ih noAddress)

/-- Any character but the sign of an address stays. -/
private theorem symbolic_cons_iff {c : Char} (other : c ≠ '@') :
    labels.Symbolic (c :: cs) t ↔ ∃ ds, t = c :: ds ∧ labels.Symbolic cs ds := by
  constructor
  · intro h
    cases h with
    | kept _ tail => exact ⟨_, rfl, tail⟩
    | address => exact absurd rfl other
  · rintro ⟨ds, rfl, tail⟩
    exact .kept other tail

/-- Lines are made symbolic one by one. -/
private theorem symbolic_unlines_iff {ls : List (List Char)} :
    labels.Symbolic (Text.unlines ls) t ↔
      ∃ ts, t = Text.unlines ts ∧ List.Forall₂ labels.Symbolic ls ts := by
  induction ls generalizing t with
  | nil =>
    constructor
    · rintro ⟨⟩
      exact ⟨[], rfl, .nil⟩
    · rintro ⟨_, rfl, ⟨⟩⟩
      exact .nil
  | cons line ls ih =>
    have text (line : List Char) (ls : List (List Char)) :
        Text.unlines (line :: ls) = line ++ '\n' :: Text.unlines ls := by
      rw [Text.unlines, List.flatMap_cons, List.append_assoc, List.singleton_append]
      rfl
    -- A line feed is no digit, so an address ends with its line.
    rw [text, symbolic_append_iff (by simp)]
    constructor
    · rintro ⟨front, back, rfl, first, rest⟩
      obtain ⟨more, rfl, tail⟩ := (symbolic_cons_iff (by decide)).mp rest
      obtain ⟨ts, rfl, others⟩ := ih.mp tail
      exact ⟨front :: ts, (text _ _).symm, .cons first others⟩
    · rintro ⟨_, rfl, _ | ⟨first, others⟩⟩
      refine ⟨_, _, text _ _, first, (symbolic_cons_iff (by decide)).mpr ⟨_, rfl, ?_⟩⟩
      exact ih.mpr ⟨_, rfl, others⟩

/-- Words in a row are made symbolic one by one. -/
private theorem symbolic_intercalate_iff {words : List (List Char)} :
    labels.Symbolic (List.intercalate [',', ' '] words) t ↔
      ∃ ts, t = List.intercalate [',', ' '] ts ∧ List.Forall₂ labels.Symbolic words ts := by
  induction words generalizing t with
  | nil =>
    constructor
    · rintro ⟨⟩
      exact ⟨[], rfl, .nil⟩
    · rintro ⟨_, rfl, ⟨⟩⟩
      exact .nil
  | cons word words ih =>
    cases words with
    | nil =>
      rw [List.intercalate_singleton]
      constructor
      · intro h
        exact ⟨[t], List.intercalate_singleton.symm, .cons h .nil⟩
      · rintro ⟨_, rfl, _ | ⟨first, ⟨⟩⟩⟩
        rw [List.intercalate_singleton]
        exact first
    | cons next words =>
      have text (word next : List Char) (words : List (List Char)) :
          List.intercalate [',', ' '] (word :: next :: words) =
            word ++ ',' :: ' ' :: List.intercalate [',', ' '] (next :: words) := by
        rw [List.intercalate_cons_cons, List.append_assoc]
        rfl
      -- A comma is no digit, so an address ends with its word.
      rw [text, symbolic_append_iff (by simp)]
      constructor
      · rintro ⟨front, back, rfl, first, rest⟩
        obtain ⟨_, rfl, rest'⟩ := (symbolic_cons_iff (by decide)).mp rest
        obtain ⟨more, rfl, tail⟩ := (symbolic_cons_iff (by decide)).mp rest'
        obtain ⟨_ | ⟨t, ts⟩, rfl, others⟩ := ih.mp tail
        · cases others
        · exact ⟨front :: t :: ts, (text _ _ _).symm, .cons first others⟩
      · rintro ⟨_, rfl, _ | ⟨first, _ | ⟨second, others⟩⟩⟩
        refine ⟨_, _, text _ _ _, first, ?_⟩
        rw [symbolic_cons_iff (by decide)]
        refine ⟨_, rfl, ?_⟩
        rw [symbolic_cons_iff (by decide)]
        exact ⟨_, rfl, ih.mpr ⟨_, rfl, .cons second others⟩⟩

end Labels

/-! ### Operands -/

/-- How an operand is written with labels for addresses. -/
inductive Operand.Written (labels : Labels) : Operand → List Char → Prop
  | plain {o : Operand} : (∀ target, o ≠ .address target) → Written labels o o.text.toList
  | address {target : Nat} {name : String} : labels.find? name = some target →
    Register.ofName? name = none → Written labels (.address target) name.toList

open Assembly (Plain PlainLine instructionLine)

variable {labels : Labels} {t : List Char}

/-- The text of an operand other than an address is a plain word. -/
theorem Operand.plain_text {o : Operand} (other : ∀ target, o ≠ .address target) :
    Plain o.text.toList := by
  cases o with
  | register r => cases r <;> exact ⟨by decide, by decide⟩
  | number value => exact Assembly.plain_toString value.toInt
  | address target => exact absurd rfl (other target)
  | heading h => cases h <;> exact ⟨by decide, by decide⟩
  | rotation r => cases r <;> exact ⟨by decide, by decide⟩

/-- An address is written with a sign in front. -/
theorem Operand.toList_text_address (target : Nat) :
    (Operand.address target).text.toList = '@' :: (toString target).toList := by
  rw [text, String.toList_append]
  rfl

/-- Making the text of an operand symbolic. -/
theorem Operand.symbolic_text_iff {o : Operand} :
    labels.Symbolic o.text.toList t ↔ o.Written labels t := by
  by_cases address : ∃ target, o = .address target
  · obtain ⟨target, rfl⟩ := address
    rw [toList_text_address]
    constructor
    · intro h
      generalize written : '@' :: (toString target).toList = all at h
      cases h with
      | nil => cases written
      | kept other _ => exact absurd (List.cons.inj written).1.symm other
      | @address name target' cs ds found nameless ends tail =>
        have digits : (toString target).toList = (toString target').toList ++ cs :=
          (List.cons.inj written).2
        cases cs with
        | cons c cs =>
          -- No digit is left over.
          have digit : c.isDigit :=
            Text.isDigit_of_mem_toString (digits ▸ List.mem_append_right _ List.mem_cons_self)
          exact absurd digit (by simp [ends c rfl])
        | nil =>
          rw [List.append_nil] at digits
          obtain rfl := Text.toString_injective digits
          cases tail
          rw [List.append_nil]
          exact .address found nameless
    · intro written
      cases written with
      | plain other => exact absurd rfl (other target)
      | @address _ name found nameless =>
        rw [← List.append_nil (toString target).toList, ← List.append_nil name.toList]
        exact .address found nameless (by simp) .nil
  -- Any other operand is a plain word, and plain words stay as they are.
  · have other (target : Nat) : o ≠ .address target := fun same => address ⟨target, same⟩
    have noAddress : '@' ∉ o.text.toList := fun at' =>
      absurd ((plain_text other).isPlain _ at') (by decide)
    rw [Labels.symbolic_iff_eq noAddress]
    constructor
    · rintro rfl
      exact .plain other
    · rintro (_ | _)
      · rfl
      · exact absurd rfl (other _)

/-- The text of an instruction is its mnemonic and the texts of its operands. -/
theorem Instruction.toList_text (i : Instruction) :
    i.text.toList =
      instructionLine i.opcode.mnemonic.toList (i.operands.map fun o => o.text.toList) := by
  rw [Instruction.text, instructionLine, List.isEmpty_map]
  split
  · rfl
  · rw [String.toList_append, String.toList_append, String.toList_intercalate, List.map_map,
      List.append_assoc]
    rfl

/-- Making an instruction symbolic. -/
theorem Instruction.symbolic_text_iff {i : Instruction} :
    labels.Symbolic i.text.toList t ↔
      ∃ words, t = instructionLine i.opcode.mnemonic.toList words ∧
        List.Forall₂ (Operand.Written labels) i.operands words := by
  have mnemonic : '@' ∉ i.opcode.mnemonic.toList := fun at' =>
    absurd ((Assembly.plain_mnemonic i.opcode).isPlain _ at') (by decide)
  rw [toList_text]
  cases i.operands with
  | nil =>
    -- There is nothing but the mnemonic, and it stays.
    change labels.Symbolic i.opcode.mnemonic.toList t ↔ _
    rw [Labels.symbolic_iff_eq mnemonic]
    constructor
    · rintro rfl
      exact ⟨[], rfl, .nil⟩
    · rintro ⟨_, rfl, ⟨⟩⟩
      rfl
  | cons o operands =>
    have operandWise (words : List (List Char)) :
        List.Forall₂ labels.Symbolic ((o :: operands).map fun o => o.text.toList) words ↔
          List.Forall₂ (Operand.Written labels) (o :: operands) words := by
      simp only [List.forall₂_map_left_iff, Operand.symbolic_text_iff]
    rw [instructionLine, if_neg (by simp), Labels.symbolic_append_iff (by simp)]
    -- The mnemonic and the blank behind it stay, so the words are all that changes.
    constructor
    · rintro ⟨_, rest, rfl, first, others⟩
      obtain rfl := (Labels.symbolic_iff_eq mnemonic).mp first
      obtain ⟨back, rfl, row⟩ := (Labels.symbolic_cons_iff (by decide)).mp others
      obtain ⟨words, rfl, each⟩ := Labels.symbolic_intercalate_iff.mp row
      have written := (operandWise words).mp each
      refine ⟨words, ?_, written⟩
      cases written
      rw [instructionLine, if_neg (by simp)]
    · rintro ⟨words, rfl, written⟩
      have each := (operandWise words).mpr written
      refine ⟨_, _, ?_, (Labels.symbolic_iff_eq mnemonic).mpr rfl,
        (Labels.symbolic_cons_iff (by decide)).mpr
          ⟨_, rfl, Labels.symbolic_intercalate_iff.mpr ⟨words, rfl, each⟩⟩⟩
      cases written
      rw [instructionLine, if_neg (by simp)]

/-! ### Rows of a listing -/

/-- A row of a listing. -/
inductive Row where
  | label (name : String)
  | instruction (address : Nat) (i : Instruction)

namespace Row

/-- A row as it is listed. -/
def listed : Row → List Char
  | label name => name.toList ++ [':']
  | instruction address i => (Text.padLeft 4 (toString address) ++ "  ").toList ++ i.text.toList

/-- A row without its address. -/
def bare : Row → List Char
  | label name => name.toList ++ [':']
  | instruction _ i => i.text.toList

/-- How a row without its address is written with labels for addresses. -/
inductive Written (labels : Labels) : Row → List Char → Prop
  | label {name : String} : Written labels (.label name) (name.toList ++ [':'])
  | instruction {address : Nat} {i : Instruction} {words : List (List Char)} :
    List.Forall₂ (Operand.Written labels) i.operands words →
    Written labels (.instruction address i) (instructionLine i.opcode.mnemonic.toList words)

/-- The name in a row is one that can be read. -/
def Named : Row → Prop
  | label name => Assembly.isIdentifier name.toList
  | instruction _ _ => True

end Row

/-- The rows of the labels of an address. -/
def Labels.rowsAt (labels : Labels) (address : Nat) : List Row :=
  (labels.namesAt address).map .label

/-- The rows of a listing from an address on. -/
def Labels.rowsFrom (labels : Labels) (address : Nat) : List Instruction → List Row
  | [] => labels.rowsAt address
  | i :: rest =>
    labels.rowsAt address ++ .instruction address i :: labels.rowsFrom (address + 1) rest

/-- The rows of the listing of a program. -/
def Program.rows (p : Program) : List Row := p.labels.rowsFrom 0 p.instructions

/-- Leave out the address of a listed instruction. The rows of labels stay, because no name begins
with a digit. -/
def withoutAddress (line : List Char) : List Char := line.dropWhile fun c => c = ' ' || c.isDigit

/-- The listing of a program without the column of addresses. -/
def Program.bareListing (p : Program) : List Char :=
  Text.unlines ((Text.lines p.listing.toList).map withoutAddress)

/-- A listing is made of its rows. -/
private theorem toList_listingFrom (labels : Labels) (address : Nat)
    (instructions : List Instruction) :
    (Program.listingFrom labels address instructions).toList =
      Text.unlines ((labels.rowsFrom address instructions).map Row.listed) := by
  -- The labels of an address stand above its instruction.
  have labelLines (address : Nat) :
      (Program.listingFrom.labelLines labels address).toList =
        Text.unlines ((labels.rowsAt address).map Row.listed) := by
    rw [Program.listingFrom.labelLines, String.toList_join, Labels.rowsAt, List.map_map,
      Text.unlines, List.flatMap_map, List.flatMap_map]
    refine List.flatMap_congr fun name _ => ?_
    rw [String.toList_append]
    simp [Row.listed]
  induction instructions generalizing address with
  | nil => exact labelLines address
  | cons i rest ih =>
    rw [Program.listingFrom, Labels.rowsFrom]
    simp only [String.toList_append, labelLines, ih, Text.unlines, List.map_append, List.map_cons,
      List.flatMap_append, List.flatMap_cons, Row.listed, List.append_assoc]
    rfl

/-- The column of addresses has blanks and digits in it. -/
private theorem mem_column {address : Nat} {c : Char}
    (hc : c ∈ (Text.padLeft 4 (toString address) ++ "  ").toList) : c = ' ' ∨ c.isDigit := by
  rw [Text.padLeft, String.toList_append, String.toList_append, String.toList_ofList,
    List.mem_append, List.mem_append] at hc
  rcases hc with (blank | digit) | blank
  · exact .inl (List.eq_of_mem_replicate blank)
  · exact .inr (Text.isDigit_of_mem_toString digit)
  · exact .inl (by simpa using blank)

/-- A line that starts with a name has no address to lose. -/
private theorem withoutAddress_append {word : List Char} (identifier : Assembly.isIdentifier word)
    (rest : List Char) : withoutAddress (word ++ rest) = word ++ rest := by
  cases word with
  | nil => exact absurd identifier (by decide)
  | cons c word =>
    have plain := (Assembly.plain_of_isIdentifier identifier).isPlain c List.mem_cons_self
    have blank : c ≠ ' ' := by
      rintro rfl
      exact absurd plain (by decide)
    have digit := (Assembly.identifier_first identifier).2.2
    exact List.dropWhile_cons_of_neg (by simp [blank, digit])

/-- Without its address a listed row is a bare one. -/
private theorem withoutAddress_listed {row : Row} (named : row.Named) :
    withoutAddress row.listed = row.bare := by
  cases row with
  | label name => exact withoutAddress_append named _
  | instruction address i =>
    -- The address is written in blanks and digits, and the instruction begins with neither.
    have column : ∀ c ∈ (Text.padLeft 4 (toString address) ++ "  ").toList,
        (c = ' ' || c.isDigit) = true := fun c hc => by simpa using mem_column hc
    have mnemonic : Assembly.isIdentifier i.opcode.mnemonic.toList := by
      cases i.opcode <;> decide
    obtain ⟨rest, text⟩ : ∃ rest, i.text.toList = i.opcode.mnemonic.toList ++ rest := by
      rw [Instruction.toList_text, instructionLine]
      split
      · exact ⟨[], (List.append_nil _).symm⟩
      · exact ⟨_, rfl⟩
    calc withoutAddress (Row.instruction address i).listed
        = withoutAddress i.text.toList := List.dropWhile_append_of_pos column
      _ = i.text.toList := by rw [text, withoutAddress_append mnemonic]

/-- A listed row is a plain line. -/
private theorem plainLine_listed {row : Row} (named : row.Named) : PlainLine row.listed := by
  cases row with
  | label name => exact (Assembly.plain_of_isIdentifier named).label_line
  | instruction address i =>
    have column : PlainLine (Text.padLeft 4 (toString address) ++ "  ").toList := by
      intro c hc
      rcases mem_column hc with rfl | digit
      · exact .inr (by decide)
      · exact .inl (Assembly.isPlain_of_isDigit digit)
    -- An operand is a plain word, but for the sign in front of an address.
    have operand (o : Operand) : PlainLine o.text.toList := by
      by_cases other : ∀ target, o ≠ .address target
      · exact (Operand.plain_text other).line
      · obtain ⟨target, same⟩ := not_forall.mp other
        rw [not_not.mp same, Operand.toList_text_address]
        intro c hc
        rcases List.mem_cons.mp hc with rfl | hc
        · exact .inr (by decide)
        · exact .inl (Assembly.isPlain_of_isDigit (Text.isDigit_of_mem_toString hc))
    rw [Row.listed, Instruction.toList_text]
    refine column.append ((Assembly.plain_mnemonic i.opcode).line.instructionLine ?_)
    intro word hw
    obtain ⟨o, -, rfl⟩ := List.mem_map.mp hw
    exact operand o

/-- The listing without addresses is made of the bare rows. -/
theorem Program.bareListing_eq {p : Program} (named : ∀ row ∈ p.rows, row.Named) :
    p.bareListing = Text.unlines (p.rows.map Row.bare) := by
  have clean : ∀ line ∈ p.rows.map Row.listed, '\n' ∉ line ∧ line.getLast? ≠ some '\r' := by
    intro line hl
    obtain ⟨row, hr, rfl⟩ := List.mem_map.mp hl
    exact (plainLine_listed (named row hr)).clean
  rw [bareListing, listing, toList_listingFrom, ← rows, Text.lines_unlines clean, List.map_map]
  refine congrArg Text.unlines (List.map_congr_left fun row hr => ?_)
  exact withoutAddress_listed (named row hr)

/-- What a row may be written as with labels. -/
theorem Row.symbolic_bare_iff {row : Row} (named : row.Named) :
    labels.Symbolic row.bare t ↔ row.Written labels t := by
  cases row with
  | label name =>
    -- A label is written as it is, since its name has no sign of an address.
    have noAddress : '@' ∉ name.toList ++ [':'] := by
      intro at'
      rcases List.mem_append.mp at' with at' | at'
      · exact absurd ((Assembly.plain_of_isIdentifier named).isPlain _ at') (by decide)
      · exact absurd at' (by decide)
    rw [bare, Labels.symbolic_iff_eq noAddress]
    constructor
    · rintro rfl
      exact .label
    · rintro ⟨⟩
      rfl
  | instruction address i =>
    rw [bare, Instruction.symbolic_text_iff]
    constructor
    · rintro ⟨words, rfl, written⟩
      exact .instruction written
    · rintro (_ | written)
      exact ⟨_, rfl, written⟩

/-- **What a listing is turned into**: its rows, written with labels for addresses. -/
theorem Program.symbolic_bareListing_iff {p : Program} (named : ∀ row ∈ p.rows, row.Named) :
    p.labels.Symbolic p.bareListing t ↔
      ∃ ts, t = Text.unlines ts ∧ List.Forall₂ (Row.Written p.labels) p.rows ts := by
  rw [bareListing_eq named, Labels.symbolic_unlines_iff]
  refine exists_congr fun ts => and_congr_right fun _ => ?_
  rw [List.forall₂_map_left_iff]
  constructor
  · intro each
    exact ((List.forall₂_and_left _ _).mpr ⟨named, each⟩).imp fun row line ⟨named, symbolic⟩ =>
      (Row.symbolic_bare_iff named).mp symbolic
  · intro each
    exact ((List.forall₂_and_left _ _).mpr ⟨named, each⟩).imp fun row line ⟨named, written⟩ =>
      (Row.symbolic_bare_iff named).mpr written

end TankDuel

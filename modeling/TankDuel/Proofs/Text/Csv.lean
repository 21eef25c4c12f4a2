import Mathlib.Data.List.Forall2

/-!
# Comma separated values

A text in this form is made of records, each of which is ended by a line feed. A record is made of
one or more fields with commas between them. A field stands for itself if it has no comma, no quote
and no line feed in it; otherwise it is put between quotes, and every quote in it is written twice.

`Csv.Table` says which texts are read as which records. There is at most one way to read a text
(`Csv.Table.unique`), and any records can be written so that they are read (`Csv.table_quoted`). If
their fields are written as they are, they are read if and only if no field needs quotes
(`Csv.table_joined_iff`): a field with a quote in front does not stand for itself either, as it
would have to begin with more and more quotes (`Csv.ne_quoted`).
-/

namespace TankDuel.Text.Csv

variable {f g cs ds rest rest' text text' : List Char} {c d : Char}

/-! ### The form -/

/-- A character that does not stand for itself outside of quotes. -/
def isSpecial (c : Char) : Bool := c = ',' || c = '"' || c = '\n'

/-- A field that stands for itself. -/
def Plain (field : List Char) : Prop := ∀ c ∈ field, isSpecial c = false

/-- Whether a field is plain can be checked. -/
instance (field : List Char) : Decidable (Plain field) :=
  decidable_of_iff (field.all fun c => !isSpecial c) (by simp [Plain])

/-- Every quote written twice. -/
def doubled (field : List Char) : List Char :=
  field.flatMap fun c => if c = '"' then ['"', '"'] else [c]

/-- A field between quotes. -/
def quoted (field : List Char) : List Char := '"' :: (doubled field ++ ['"'])

/-- How a field can be written. -/
inductive Field : (text value : List Char) → Prop
  | plain {field : List Char} : Plain field → Field field field
  | quoted (field : List Char) : Field (quoted field) field

/-- How a record can be written. -/
inductive Record : (text : List Char) → (row : List (List Char)) → Prop
  | last {text value : List Char} : Field text value → Record (text ++ ['\n']) [value]
  | more {text value rest : List Char} {row : List (List Char)} : Field text value →
    Record rest row → Record (text ++ ',' :: rest) (value :: row)

/-- How records can be written. -/
inductive Table : (text : List Char) → (rows : List (List (List Char))) → Prop
  | nil : Table [] []
  | cons {text rest : List Char} {row : List (List Char)} {rows : List (List (List Char))} :
    Record text row → Table rest rows → Table (text ++ rest) (row :: rows)

/-- What stands behind a field. -/
def Ends (c : Char) : Prop := c = ',' ∨ c = '\n'

/-- What ends a field is special. -/
theorem Ends.isSpecial (ends : Ends c) : isSpecial c = true := by
  rcases ends with rfl | rfl <;> rfl

/-- No quote ends a field. -/
theorem Ends.ne_quote (ends : Ends c) : c ≠ '"' := by
  rcases ends with rfl | rfl <;> decide

/-- A plain field has no special characters. -/
theorem Plain.ne (plain : Plain cs) (special : isSpecial c) : ∀ e ∈ cs, e ≠ c := by
  rintro e he rfl
  exact absurd special (Bool.eq_false_iff.mp (plain e he))

/-- Quotes are doubled one by one. -/
private theorem doubled_cons (c : Char) (cs : List Char) :
    doubled (c :: cs) = (if c = '"' then ['"', '"'] else [c]) ++ doubled cs :=
  List.flatMap_cons

/-! ### Reading is unique -/

/-- A plain field goes on until its end. -/
private theorem plain_unique (plain : Plain cs) (plain' : Plain ds) (ends : Ends c) (ends' : Ends d)
    (same : cs ++ c :: rest = ds ++ d :: rest') : cs = ds ∧ c = d ∧ rest = rest' := by
  -- In step through both fields. Where one has ended, the other one would go on with what ends it.
  induction cs generalizing ds with
  | nil =>
    cases ds with
    | nil => exact ⟨rfl, List.cons.inj same⟩
    | cons e ds =>
      exact absurd (List.cons.inj same).1.symm (plain'.ne ends.isSpecial e List.mem_cons_self)
  | cons e cs ih =>
    cases ds with
    | nil => exact absurd (List.cons.inj same).1 (plain.ne ends'.isSpecial e List.mem_cons_self)
    | cons e' ds =>
      obtain ⟨rfl, more⟩ := List.cons.inj same
      obtain ⟨rfl, behind⟩ := ih (fun a ha => plain a (List.mem_cons_of_mem _ ha))
        (fun a ha => plain' a (List.mem_cons_of_mem _ ha)) more
      exact ⟨rfl, behind⟩

/-- The closing quote is the first one that does not come twice. -/
private theorem doubled_unique (ends : Ends c) (ends' : Ends d)
    (same : doubled cs ++ '"' :: c :: rest = doubled ds ++ '"' :: d :: rest') :
    cs = ds ∧ c = d ∧ rest = rest' := by
  -- Where one text has ended, the other one cannot go on.
  have stop {e c d : Char} {cs rest rest' : List Char} (ends : Ends c) :
      '"' :: c :: rest ≠ doubled (e :: cs) ++ '"' :: d :: rest' := by
    intro same
    rw [doubled_cons] at same
    split at same
    · exact ends.ne_quote (List.cons.inj (List.cons.inj same).2).1
    next other => exact other (List.cons.inj same).1.symm
  induction cs generalizing ds with
  | nil =>
    cases ds with
    | nil => exact ⟨rfl, List.cons.inj (List.cons.inj same).2⟩
    | cons e ds => exact absurd same (stop ends)
  | cons e cs ih =>
    cases ds with
    | nil => exact absurd same.symm (stop ends')
    | cons e' ds =>
      have inside : e = e' ∧ doubled cs ++ '"' :: c :: rest = doubled ds ++ '"' :: d :: rest' := by
        rw [doubled_cons, doubled_cons] at same
        split at same <;> split at same
        next isQuote isQuote' =>
          exact ⟨isQuote.trans isQuote'.symm, (List.cons.inj (List.cons.inj same).2).2⟩
        next other => exact absurd (List.cons.inj same).1.symm other
        next other _ => exact absurd (List.cons.inj same).1 other
        next => exact List.cons.inj same
      obtain ⟨rfl, behind⟩ := ih inside.2
      exact ⟨congrArg (· :: cs) inside.1, behind⟩

/-- A plain field and a quoted one begin in different ways. -/
private theorem plain_ne_quoted (plain : Plain cs) (ends : Ends c) :
    cs ++ c :: rest ≠ quoted ds ++ rest' := by
  intro same
  cases cs with
  | nil => exact ends.ne_quote (List.cons.inj same).1
  | cons e cs => exact plain.ne rfl e List.mem_cons_self (List.cons.inj same).1

/-- **A field ends in one place**, and is one field. -/
theorem Field.unique (field : Field text f) (field' : Field text' g) (ends : Ends c)
    (ends' : Ends d) (same : text ++ c :: rest = text' ++ d :: rest') :
    f = g ∧ c = d ∧ rest = rest' := by
  cases field with
  | plain plain =>
    cases field' with
    | plain plain' => exact plain_unique plain plain' ends ends' same
    | quoted => exact absurd same (plain_ne_quoted plain ends)
  | quoted =>
    cases field' with
    | plain plain' => exact absurd same.symm (plain_ne_quoted plain' ends')
    | quoted =>
      refine doubled_unique ends ends' ?_
      simpa [Csv.quoted] using same

/-- **A record ends in one place**, and is one record. -/
theorem Record.unique {row row' : List (List Char)} (record : Record text row)
    (record' : Record text' row') (same : text ++ rest = text' ++ rest') :
    row = row' ∧ rest = rest' := by
  -- Field by field: both end in the same place, and with the same character.
  induction record generalizing text' row' with
  | last field =>
    cases record' with
    | last field' =>
      obtain ⟨rfl, -, behind⟩ := field.unique field' (.inr rfl) (.inr rfl) (by simpa using same)
      exact ⟨rfl, behind⟩
    | more field' _ =>
      have := field.unique field' (.inr rfl) (.inl rfl) (by simpa using same)
      cases this.2.1
  | more field _ ih =>
    cases record' with
    | last field' =>
      have := field.unique field' (.inl rfl) (.inr rfl) (by simpa using same)
      cases this.2.1
    | more field' record' =>
      obtain ⟨rfl, -, behind⟩ := field.unique field' (.inl rfl) (.inl rfl) (by simpa using same)
      obtain ⟨rfl, behind⟩ := ih record' behind
      exact ⟨rfl, behind⟩

/-- A record is no empty text. -/
theorem Record.text_ne_nil {row : List (List Char)} (record : Record text row) : text ≠ [] := by
  cases record <;> simp

/-- A record has fields. -/
theorem Record.ne_nil {row : List (List Char)} (record : Record text row) : row ≠ [] := by
  cases record <;> exact List.cons_ne_nil _ _

/-- **There is one way to read a text** at most. -/
theorem Table.unique {rows rows' : List (List (List Char))} (table : Table text rows)
    (table' : Table text rows') : rows = rows' := by
  induction table generalizing rows' with
  | nil =>
    generalize same : ([] : List Char) = text at table'
    cases table' with
    | nil => rfl
    | cons record _ => exact absurd (List.append_eq_nil_iff.mp same.symm).1 record.text_ne_nil
  | @cons front rest row rows record _ ih =>
    generalize same : front ++ rest = text at table'
    cases table' with
    | nil => exact absurd (List.append_eq_nil_iff.mp same).1 record.text_ne_nil
    | cons record' table' =>
      obtain ⟨rfl, rfl⟩ := record.unique record' same
      rw [ih table']

/-! ### Writing -/

/-- The text of a record from the texts of its fields. -/
def joined : List (List Char) → List Char
  | [] => ['\n']
  | [field] => field ++ ['\n']
  | field :: row => field ++ ',' :: joined row

/-- The fields of a row are joined by commas. -/
private theorem joined_cons {row : List (List Char)} (nonempty : row ≠ []) :
    joined (f :: row) = f ++ ',' :: joined row := by
  cases row with
  | nil => exact absurd rfl nonempty
  | cons g row => rfl

/-- Fields that are joined are read as one record. -/
private theorem record_joined {texts row : List (List Char)} (fields : List.Forall₂ Field texts row)
    (nonempty : row ≠ []) : Record (joined texts) row := by
  induction fields with
  | nil => exact absurd rfl nonempty
  | @cons _ _ texts row field fields ih =>
    cases fields with
    | nil => exact .last field
    | cons next fields => exact .more field (ih (List.cons_ne_nil _ _))

/-- **All records can be written**, with every field between quotes. -/
theorem table_quoted {rows : List (List (List Char))} (nonempty : ∀ row ∈ rows, row ≠ []) :
    Table (rows.flatMap fun row => joined (row.map quoted)) rows := by
  induction rows with
  | nil => exact .nil
  | cons row rows ih =>
    obtain ⟨here, more⟩ := List.forall_mem_cons.mp nonempty
    have fields : List.Forall₂ Field (row.map quoted) row :=
      List.forall₂_map_left_iff.mpr (List.forall₂_same.mpr fun f _ => .quoted f)
    exact .cons (record_joined fields here) (ih more)

/-! ### Fields that are written as they are -/

/-- Where a field stands without quotes it is not read as if it had them. Otherwise there would
always be one more quote to come before the field ends. -/
theorem ne_quoted (ends : Ends c) : f ++ c :: rest ≠ quoted f ++ rest' := by
  -- In step through the field and what it would be read from, which is ahead by some quotes.
  have behind {f rest' : List Char} (quotes : Nat) :
      f ++ c :: rest ≠ List.replicate (quotes + 1) '"' ++ (doubled f ++ rest') := by
    induction f generalizing quotes with
    | nil =>
      intro same
      exact ends.ne_quote (List.cons.inj same).1
    | cons e f ih =>
      intro same
      obtain ⟨rfl, more⟩ := List.cons.inj same
      -- One quote has been read, and there are two for it in what is left.
      have two : List.replicate quotes '"' ++ List.replicate 2 '"' =
          List.replicate (quotes + 2) '"' := List.replicate_append_replicate
      refine ih (quotes + 1) (more.trans ?_)
      change List.replicate quotes '"' ++ (doubled ('"' :: f) ++ rest') =
        List.replicate (quotes + 2) '"' ++ (doubled f ++ rest')
      rw [doubled_cons, if_pos rfl, ← two, List.append_assoc, List.append_assoc]
      rfl
  have front : quoted f ++ rest' = List.replicate 1 '"' ++ (doubled f ++ ('"' :: rest')) := by
    simp [quoted]
  rw [front]
  exact behind 0

/-- A field that is read as it is written is plain. -/
theorem Field.plain_of_append (field : Field text f) (ends : Ends d)
    (same : text ++ c :: rest = f ++ d :: rest') : Plain f ∧ rest = rest' := by
  cases field with
  | plain plain => exact ⟨plain, (List.cons.inj (List.append_cancel_left same)).2⟩
  | quoted => exact absurd same.symm (ne_quoted ends)

/-- A record that is read as it is written has plain fields. -/
theorem Record.plain_of_append {row : List (List Char)} (record : Record text row)
    (same : text ++ rest = joined row ++ rest') : (∀ f ∈ row, Plain f) ∧ rest = rest' := by
  induction record with
  | last field =>
    obtain ⟨plain, behind⟩ := field.plain_of_append (.inr rfl) (by simpa [joined] using same)
    exact ⟨by simpa using plain, behind⟩
  | more field record ih =>
    obtain ⟨plain, behind⟩ := field.plain_of_append (.inl rfl)
      (by simpa [joined_cons record.ne_nil] using same)
    obtain ⟨plainRow, behind⟩ := ih behind
    exact ⟨List.forall_mem_cons.mpr ⟨plain, plainRow⟩, behind⟩

/-- **Records that are written as they are** are read if and only if all their fields are plain. -/
theorem table_joined_iff {rows : List (List (List Char))} (nonempty : ∀ row ∈ rows, row ≠ []) :
    Table (rows.flatMap joined) rows ↔ ∀ row ∈ rows, ∀ f ∈ row, Plain f := by
  induction rows with
  | nil => exact iff_of_true .nil nofun
  | cons row rows ih =>
    obtain ⟨here, more⟩ := List.forall_mem_cons.mp nonempty
    rw [List.flatMap_cons, List.forall_mem_cons, ← ih more]
    constructor
    · intro table
      -- The first record of the table is the first row, since its fields are what the commas leave.
      generalize same : joined row ++ rows.flatMap joined = text at table
      cases table with
      | cons record table =>
        obtain ⟨plain, rfl⟩ := record.plain_of_append same.symm
        exact ⟨plain, table⟩
    · rintro ⟨plain, table⟩
      have fields : List.Forall₂ Field row row :=
        List.forall₂_same.mpr fun f hf => .plain (plain f hf)
      exact .cons (record_joined fields here) table

end TankDuel.Text.Csv

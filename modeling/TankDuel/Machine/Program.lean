import TankDuel.Machine.Operand
import TankDuel.Text.Column

/-!
# Label tables and programs

A label table is a finite map from names to addresses. Its entries are kept in ascending order of
the names, character by character, so a table does not depend on the order in which its labels were
put in, and a listing shows the labels of an address in a fixed order.

A program is a list of instructions with a label table. Labels serve the listing only: a jump
already holds the address it goes to.
-/

namespace TankDuel

/-- A finite map from label names to addresses. -/
structure Labels where
  /-- The entries, in ascending order of the names. -/
  entries : List (String × Nat)
  ascending : entries.Pairwise fun a b => a.1 < b.1
deriving DecidableEq

namespace Labels

/-- Put an entry into an ascending list; it takes the place of an entry with the same name. -/
def insertInto (name : String) (target : Nat) : List (String × Nat) → List (String × Nat)
  | [] => [(name, target)]
  | entry :: rest =>
    if name < entry.1 then (name, target) :: entry :: rest
    else if name = entry.1 then (name, target) :: rest
    else entry :: insertInto name target rest

/-- What is in the table after an entry is made was there before, or is that entry. -/
theorem mem_insertInto {name : String} {target : Nat} {e : String × Nat} {l : List (String × Nat)}
    (h : e ∈ insertInto name target l) : e = (name, target) ∨ e ∈ l := by
  induction l with
  | nil => simpa [insertInto] using h
  | cons entry rest ih =>
    rw [insertInto] at h
    split at h
    · simpa using h
    · split at h
      · rcases List.mem_cons.1 h with h | h
        · exact .inl h
        · exact .inr (List.mem_cons_of_mem _ h)
      · rcases List.mem_cons.1 h with h | h
        · exact .inr (h ▸ List.mem_cons_self)
        · exact (ih h).imp_right (List.mem_cons_of_mem _)

/-- An entry is made where it belongs, so the names go on to ascend. -/
theorem ascending_insertInto (name : String) (target : Nat) {l : List (String × Nat)}
    (h : l.Pairwise fun a b => a.1 < b.1) :
    (insertInto name target l).Pairwise fun a b => a.1 < b.1 := by
  induction l with
  | nil => simp [insertInto]
  | cons entry rest ih =>
    obtain ⟨below, rising⟩ := List.pairwise_cons.1 h
    rw [insertInto]
    split
    next less =>
      refine List.pairwise_cons.2 ⟨fun e he => ?_, h⟩
      rcases List.mem_cons.1 he with rfl | he
      · exact less
      · exact String.lt_trans less (below e he)
    next notLess =>
      split
      next same => exact List.pairwise_cons.2 ⟨fun e he => same ▸ below e he, rising⟩
      next differs =>
        refine List.pairwise_cons.2 ⟨fun e he => ?_, ih rising⟩
        rcases mem_insertInto he with rfl | he
        · exact Std.lt_of_le_of_ne (String.not_lt.1 notLess) (Ne.symm differs)
        · exact below e he

/-- The table without entries. -/
def empty : Labels := ⟨[], .nil⟩

/-- Put an entry into a table. -/
def insert (labels : Labels) (name : String) (target : Nat) : Labels :=
  ⟨insertInto name target labels.entries, ascending_insertInto name target labels.ascending⟩

/-- The table of a list of entries; of two entries with one name the later one stays. -/
def ofList (entries : List (String × Nat)) : Labels :=
  entries.foldl (fun labels entry => labels.insert entry.1 entry.2) empty

/-- The address of a label. -/
def find? (labels : Labels) (name : String) : Option Nat :=
  (labels.entries.find? fun entry => entry.1 = name).map (·.2)

/-- Whether a label is in the table. -/
def contains (labels : Labels) (name : String) : Bool := (labels.find? name).isSome

/-- The number of labels. -/
def size (labels : Labels) : Nat := labels.entries.length

/-- The names of an address, in ascending order. -/
def namesAt (labels : Labels) (target : Nat) : List String :=
  (labels.entries.filter fun entry => entry.2 = target).map (·.1)

end Labels

/-- A program: instructions by address, and the labels. -/
structure Program where
  instructions : List Instruction
  labels : Labels
deriving DecidableEq

namespace Program

/-- The number of instructions. -/
def size (p : Program) : Nat := p.instructions.length

/-- The instruction at an address. -/
def fetch? (p : Program) (address : Nat) : Option Instruction := p.instructions[address]?

/-- The lines of a listing from an address on: each instruction after the labels of its address,
and last the labels of the address behind the program. -/
def listingFrom (labels : Labels) (address : Nat) : List Instruction → String
  | [] => labelLines
  | i :: rest =>
    labelLines ++ Text.padLeft 4 (toString address) ++ "  " ++ i.text ++ "\n"
      ++ listingFrom labels (address + 1) rest
where
  labelLines : String := String.join ((labels.namesAt address).map (· ++ ":\n"))

/-- The listing of a program. Labels beyond the end of the program are not shown. -/
def listing (p : Program) : String := listingFrom p.labels 0 p.instructions

end Program

end TankDuel

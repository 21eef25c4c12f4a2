import Mathlib.Data.List.Nodup
import TankDuel.Assembly.Statement
import TankDuel.Proofs.Sequence

/-!
# How operands are written

`Stands slot kind a` is the table of what a token may stand for in a slot: the keywords, the
registers and the words that are neither. `Takes opcode operands arguments` says that the tokens
behind an opcode stand one by one in the slots of its signature, or that a move has none and goes
forward. Operands are read just where this holds, and then as it says (`argumentsOf_eq_ok_iff`).

The table mentions names of registers and keywords, where the reader searches lists for them. The
two agree since no two of the names are the same up to letter case.
-/

namespace TankDuel

/-! ### Words -/

/-- What is found under a word is the one value that has the word for a name. -/
theorem Text.findNamed?_eq_some_iff {α : Type} {name : α → String} {values : List α}
    {word : String} {v : α} (distinct : (values.map fun v => folded (name v)).Nodup) :
    findNamed? name values word = some v ↔ v ∈ values ∧ sameWord (name v) word := by
  have found_named {u : α} (found : findNamed? name values word = some u) :
      u ∈ values ∧ sameWord (name u) word :=
    ⟨List.mem_of_find?_eq_some found, List.find?_some (p := fun v => sameWord (name v) word) found⟩
  refine ⟨found_named, ?_⟩
  rintro ⟨listed, named⟩
  obtain ⟨u, found⟩ : ∃ u, findNamed? name values word = some u :=
    Option.isSome_iff_exists.mp (List.find?_isSome.mpr ⟨v, listed, named⟩)
  obtain ⟨foundListed, foundNamed⟩ := found_named found
  -- The value that is found has the same name up to letter case.
  have same : folded (name u) = folded (name v) :=
    (beq_iff_eq.mp foundNamed).trans (beq_iff_eq.mp named).symm
  obtain rfl : u = v := List.inj_on_of_nodup_map distinct foundListed listed same
  exact found

/-- A word names a register in any case. -/
theorem Register.ofName?_eq_some_iff {word : String} {r : Register} :
    ofName? word = some r ↔ Text.sameWord r.name word := by
  rw [ofName?, Text.findNamed?_eq_some_iff (by decide)]
  exact and_iff_right (by cases r <;> decide)

/-- A word names no register if it is the name of none in any case. -/
theorem Register.ofName?_eq_none_iff {word : String} :
    ofName? word = none ↔ ∀ r : Register, ¬Text.sameWord r.name word := by
  rw [Option.eq_none_iff_forall_ne_some]
  exact forall_congr' fun r => not_congr ofName?_eq_some_iff

/-- A word names a rotation in any case. -/
theorem Rotation.ofKeyword?_eq_some_iff {word : String} {r : Rotation} :
    ofKeyword? word = some r ↔ Text.sameWord r.keyword word := by
  rw [ofKeyword?, Text.findNamed?_eq_some_iff (by decide)]
  exact and_iff_right (by cases r <;> decide)

/-- A word names a heading in any case. -/
theorem Heading.ofKeyword?_eq_some_iff {word : String} {h : Heading} :
    ofKeyword? word = some h ↔ Text.sameWord h.keyword word := by
  rw [ofKeyword?, Text.findNamed?_eq_some_iff (by decide)]
  exact and_iff_right (by cases h <;> decide)

namespace Assembly

/-! ### Slots -/

/-- What a token stands for in a slot. -/
inductive Stands : Slot → Token.Kind → Argument → Prop
  | destination {word : String} {r : Register} : Text.sameWord r.name word → r ≠ .pc →
    Stands .destination (.word word) (.operand (.register r))
  | register {word : String} {r : Register} : Text.sameWord r.name word →
    Stands .source (.word word) (.operand (.register r))
  | number {value : Int32} : Stands .source (.number value) (.operand (.number value))
  | label {word : String} : (∀ r : Register, ¬Text.sameWord r.name word) →
    Stands .target (.word word) (.label word)
  | rotation {word : String} {r : Rotation} : Text.sameWord r.keyword word →
    Stands .rotation (.word word) (.operand (.rotation r))
  | heading {word : String} {h : Heading} : Text.sameWord h.keyword word →
    Stands .heading (.word word) (.operand (.heading h))

/-- What is read from a word may stand in the slot. -/
private theorem stands_of_ofWord? {slot : Slot} {word : String} {a : Argument}
    (h : Argument.ofWord? slot word = .ok (some a)) : Stands slot (.word word) a := by
  -- Every slot has its own words, and a target has all that name no register.
  cases slot with
  | destination =>
    rw [Argument.ofWord?] at h
    split at h
    next r named =>
      split at h
      next writable =>
        obtain rfl := Option.some.inj (Except.ok.inj h)
        exact .destination (Register.ofName?_eq_some_iff.mp named) (of_decide_eq_true writable)
      next => exact absurd h (by simp)
    next => exact absurd h (by simp)
  | source =>
    obtain ⟨r, named, rfl⟩ := Option.map_eq_some_iff.mp (Except.ok.inj h)
    exact .register (Register.ofName?_eq_some_iff.mp named)
  | target =>
    rw [Argument.ofWord?] at h
    split at h
    next => exact absurd h (by simp)
    next nameless =>
      obtain rfl := Option.some.inj (Except.ok.inj h)
      refine .label fun r named => nameless ?_
      rw [Register.ofName?_eq_some_iff.mpr named]
      rfl
  | rotation =>
    obtain ⟨r, named, rfl⟩ := Option.map_eq_some_iff.mp (Except.ok.inj h)
    exact .rotation (Rotation.ofKeyword?_eq_some_iff.mp named)
  | heading =>
    obtain ⟨h, named, rfl⟩ := Option.map_eq_some_iff.mp (Except.ok.inj h)
    exact .heading (Heading.ofKeyword?_eq_some_iff.mp named)

/-- A word that may stand in a slot is read as what it stands for. -/
theorem Stands.ofWord? {slot : Slot} {word : String} {a : Argument}
    (h : Stands slot (.word word) a) : Argument.ofWord? slot word = .ok (some a) := by
  cases h with
  | destination named writable =>
    rw [Argument.ofWord?, Register.ofName?_eq_some_iff.mpr named]
    exact if_pos (decide_eq_true writable)
  | register named =>
    rw [Argument.ofWord?, Register.ofName?_eq_some_iff.mpr named]
    rfl
  | label nameless =>
    rw [Argument.ofWord?, Register.ofName?_eq_none_iff.mpr nameless]
    rfl
  | rotation named =>
    rw [Argument.ofWord?, Rotation.ofKeyword?_eq_some_iff.mpr named]
    rfl
  | heading named =>
    rw [Argument.ofWord?, Heading.ofKeyword?_eq_some_iff.mpr named]
    rfl

/-- **A token is read as what it stands for.** -/
theorem read_eq_ok_iff {slot : Slot} {kind : Token.Kind} {a : Argument} :
    Argument.read slot kind = .ok a ↔ Stands slot kind a := by
  -- Only numbers and words are operands.
  cases kind with
  | opcode | label | unknown => exact ⟨nofun, nofun⟩
  | number value =>
    constructor
    · intro h
      rw [Argument.read] at h
      split at h
      next source =>
        obtain rfl := Except.ok.inj h
        exact source ▸ .number
      next => exact absurd h (by simp)
    · rintro ⟨⟩
      rfl
  | word word =>
    constructor
    · intro h
      rw [Argument.read] at h
      split at h
      next found =>
        obtain rfl := Except.ok.inj h
        exact stands_of_ofWord? found
      next => exact absurd h (by simp)
      next => exact absurd h (by simp)
    · intro h
      rw [Argument.read, h.ofWord?]

/-- Tokens stand one by one in slots. -/
inductive Fill : List Slot → List Token → List Argument → Prop
  | nil : Fill [] [] []
  | cons {slot : Slot} {slots : List Slot} {t : Token} {ts : List Token} {a : Argument}
    {as : List Argument} : Stands slot t.kind a → Fill slots ts as →
    Fill (slot :: slots) (t :: ts) (a :: as)

/-- The operands of an opcode. There is one for each slot of the signature, but a move may leave
its heading out and goes forward then. -/
inductive Takes : Opcode → List Token → List Argument → Prop
  | written {opcode : Opcode} {operands : List Token} {arguments : List Argument} :
    Fill opcode.signature operands arguments → Takes opcode operands arguments
  | implied : Takes .move [] [.operand (.heading .forward)]

/-- As many words fill the slots as there are slots. -/
theorem Fill.length_eq {slots : List Slot} {ts : List Token} {as : List Argument}
    (h : Fill slots ts as) : ts.length = slots.length := by
  induction h with
  | nil => rfl
  | cons _ _ ih => exact congrArg (· + 1) ih

/-- If there is a token for each slot, the tokens are read one by one. -/
private theorem readAll_eq_ok_iff {opcode : Opcode} {slots : List Slot} {ts : List Token}
    {as : List Argument} (enough : ts.length = slots.length) :
    Argument.readAll opcode slots ts = .ok as ↔ Fill slots ts as := by
  induction slots generalizing ts as with
  | nil =>
    obtain rfl := List.length_eq_zero_iff.mp enough
    constructor
    · intro h
      obtain rfl := Except.ok.inj h
      exact .nil
    · rintro ⟨⟩
      rfl
  | cons slot slots ih =>
    -- With as many words as slots none is left out and none is implied.
    obtain ⟨t, ts, rfl⟩ := List.exists_cons_of_length_eq_add_one enough
    have rest := Nat.succ.inj enough
    rw [Argument.readAll, bind_eq_ok_iff]
    constructor
    · rintro ⟨a, read, h⟩
      obtain ⟨others, readOthers, h⟩ := bind_eq_ok_iff.mp h
      obtain rfl := Except.ok.inj h
      exact .cons (read_eq_ok_iff.mp read) ((ih rest).mp readOthers)
    · rintro (_ | ⟨stands, fill⟩)
      exact ⟨_, read_eq_ok_iff.mpr stands, bind_eq_ok_iff.mpr ⟨_, (ih rest).mpr fill, rfl⟩⟩

/-- Only a heading can be left out. -/
private theorem heading_mem_of_readAll {opcode : Opcode} {slots : List Slot} {ts : List Token}
    {as : List Argument} (short : ts.length < slots.length)
    (h : Argument.readAll opcode slots ts = .ok as) : .heading ∈ slots := by
  induction slots generalizing ts as with
  | nil => exact absurd short (Nat.not_lt_zero _)
  | cons slot slots ih =>
    cases ts with
    | nil =>
      rw [Argument.readAll] at h
      obtain ⟨a, implied, -⟩ := bind_eq_ok_iff.mp h
      -- Only a heading can be left out.
      cases slot with
      | heading => exact List.mem_cons_self
      | destination | source | target | rotation => exact absurd implied nofun
    | cons t ts =>
      rw [Argument.readAll] at h
      obtain ⟨a, -, h⟩ := bind_eq_ok_iff.mp h
      obtain ⟨others, readOthers, -⟩ := bind_eq_ok_iff.mp h
      exact List.mem_cons_of_mem _ (ih (Nat.lt_of_succ_lt_succ short) readOthers)

/-- **Operands are read as the signature says.** -/
theorem argumentsOf_eq_ok_iff {opcode : Opcode} {operands : List Token}
    {arguments : List Argument} :
    argumentsOf opcode operands = .ok arguments ↔ Takes opcode operands arguments := by
  constructor
  · intro h
    rw [argumentsOf] at h
    split at h
    next few =>
      -- Either all operands are written, or one is implied.
      rcases Nat.eq_or_lt_of_le few with enough | short
      · exact .written ((readAll_eq_ok_iff enough).mp h)
      · -- The one opcode with a heading is the move, which takes nothing else.
        have heading := heading_mem_of_readAll short h
        obtain rfl : opcode = .move := by
          cases opcode <;> first | rfl | exact absurd heading (by decide)
        obtain rfl : operands = [] := List.length_eq_zero_iff.mp (Nat.lt_one_iff.mp short)
        obtain rfl := Except.ok.inj h
        exact .implied
    next =>
      split at h
      · exact absurd h (by simp)
      · exact absurd h (by simp)
  · rintro (fill | _)
    · have few : operands.length ≤ opcode.arity := Nat.le_of_eq fill.length_eq
      rw [argumentsOf, if_pos few]
      exact (readAll_eq_ok_iff fill.length_eq).mpr fill
    · rfl

end Assembly

end TankDuel

import Mathlib.Data.List.DropRight
import Mathlib.Data.List.TakeWhile
import Mathlib.Data.Nat.Digits.Defs
import Mathlib.Tactic.Ring
import TankDuel.Proofs.Text.Decimal
import TankDuel.Text.Blank

/-!
# Numerals and the blanks around them

A text is read as a number if it is a **numeral**: one or more ASCII digits, with a plus or a minus
sign in front or none. Nothing else is read, and the number is the one that the digits denote
(`integer?_eq_some_iff`); a register takes it if it is in range (`word?_eq_some_iff`).

Trimming takes away the blanks at both ends and no more (`trimmed_iff`). There are no blanks in a
numeral (`Numeral.solid`), so trimming leaves it as it is.
-/

namespace TankDuel.Text

variable {cs core : List Char}

/-! ### Numerals -/

/-- One or more ASCII digits and the number that they denote. The last digit counts ones. -/
structure Digits (cs : List Char) (n : Nat) : Prop where
  ne_nil : cs ≠ []
  digits : ∀ c ∈ cs, c.isDigit
  value : n = Nat.ofDigits 10 (cs.reverse.map fun c => c.toNat - '0'.toNat)

/-- Digits with one sign in front or none, and the number that they denote. -/
inductive Numeral : List Char → Int → Prop
  | unsigned {cs : List Char} {n : Nat} : Digits cs n → Numeral cs n
  | plus {cs : List Char} {n : Nat} : Digits cs n → Numeral ('+' :: cs) n
  | minus {cs : List Char} {n : Nat} : Digits cs n → Numeral ('-' :: cs) (-n)

/-- The digits are read from the front, those read before being worth the more the more there are
behind them. -/
private theorem ofDigitChars_eq_ofDigits (cs : List Char) (start : Nat) :
    Nat.ofDigitChars 10 cs start =
      Nat.ofDigits 10 (cs.reverse.map fun c => c.toNat - '0'.toNat) + 10 ^ cs.length * start := by
  induction cs generalizing start with
  | nil => simp [Nat.ofDigitChars]
  | cons c cs ih =>
    rw [Nat.ofDigitChars_cons, ih, List.reverse_cons, List.map_append, Nat.ofDigits_append,
      List.map_singleton, Nat.ofDigits_singleton, List.length_map, List.length_reverse,
      List.length_cons]
    ring

/-- **Digits are read as the number that they denote**, and nothing else is read. -/
private theorem natural?_eq_some_iff {n : Nat} : natural? cs = some n ↔ Digits cs n := by
  -- The number is read from the left, and denoted from the right.
  have value : Nat.ofDigitChars 10 cs 0 =
      Nat.ofDigits 10 (cs.reverse.map fun c => c.toNat - '0'.toNat) :=
    ofDigitChars_eq_ofDigits cs 0
  rw [natural?]
  constructor
  · intro read
    split at read
    next shape =>
      rw [Bool.and_eq_true, Bool.not_eq_true', List.isEmpty_eq_false_iff, List.all_eq_true] at shape
      exact ⟨shape.1, shape.2, (Option.some.inj read).symm.trans value⟩
    next => cases read
  · rintro ⟨ne_nil, digits, rfl⟩
    have shape : (!cs.isEmpty && cs.all Char.isDigit) = true := by
      rw [Bool.and_eq_true, Bool.not_eq_true', List.isEmpty_eq_false_iff, List.all_eq_true]
      exact ⟨ne_nil, digits⟩
    rw [if_pos shape, value]

/-- Digits have no sign in front. -/
private theorem integer?_of_digits {n : Nat} (digits : Digits cs n) : integer? cs = some n := by
  cases cs with
  | nil => exact absurd rfl digits.ne_nil
  | cons c cs =>
    rw [integer?_of_isDigit (digits.digits c List.mem_cons_self), natural?_eq_some_iff.mpr digits]
    rfl

/-- **Just the numerals are read**, each as the number that it denotes. -/
theorem integer?_eq_some_iff {n : Int} : integer? cs = some n ↔ Numeral cs n := by
  -- The three ways to read a number differ in what they make of the digits.
  have denoted {ds : List Char} {sign : Int → Int}
      (read : Option.map sign (natural? ds) = some n) : ∃ m : Nat, Digits ds m ∧ sign m = n := by
    cases found : natural? ds with
    | none =>
      rw [found] at read
      cases read
    | some m =>
      rw [found] at read
      exact ⟨m, natural?_eq_some_iff.mp found, Option.some.inj read⟩
  constructor
  · intro read
    unfold integer? at read
    split at read <;> obtain ⟨m, digits, rfl⟩ := denoted read
    · exact .minus digits
    · exact .plus digits
    · exact .unsigned digits
  · intro numeral
    cases numeral with
    | unsigned digits => exact integer?_of_digits digits
    | plus digits =>
      rw [integer?, natural?_eq_some_iff.mpr digits]
      rfl
    | minus digits =>
      rw [integer?, natural?_eq_some_iff.mpr digits]
      rfl

/-- The numbers that fit into a word. -/
private theorem fitsWord_iff {n : Int} : fitsWord n ↔ -2 ^ 31 ≤ n ∧ n < 2 ^ 31 := by
  rw [fitsWord, Bool.and_eq_true, decide_eq_true_iff, decide_eq_true_iff]
  omega

/-- **A register takes** the numerals that are in range. -/
theorem word?_eq_some_iff {n : Int} :
    word? cs = some n ↔ Numeral cs n ∧ -2 ^ 31 ≤ n ∧ n < 2 ^ 31 := by
  rw [word?, Option.filter_eq_some_iff, integer?_eq_some_iff, fitsWord_iff]

/-- What is written for a number is a numeral. -/
theorem numeral_toString (n : Int) : Numeral (toString n).toList n :=
  integer?_eq_some_iff.mp (integer?_toString n)

/-- A numeral is made of digits and signs. -/
theorem Numeral.mem {n : Int} (numeral : Numeral cs n) {c : Char} (hc : c ∈ cs) :
    c.isDigit ∨ c = '+' ∨ c = '-' := by
  cases numeral with
  | unsigned digits => exact .inl (digits.digits c hc)
  | plus digits =>
    rcases List.mem_cons.mp hc with sign | hc
    · exact .inr (.inl sign)
    · exact .inl (digits.digits c hc)
  | minus digits =>
    rcases List.mem_cons.mp hc with sign | hc
    · exact .inr (.inr sign)
    · exact .inl (digits.digits c hc)

/-! ### Blanks -/

/-- No digit is a blank. -/
private theorem isBlank_of_isDigit {c : Char} (digit : c.isDigit) : isBlank c = false := by
  rw [Char.isDigit_iff_toNat] at digit
  change 48 ≤ c.toNat ∧ c.toNat ≤ 57 at digit
  simp only [isBlank, Bool.or_eq_false_iff, Bool.and_eq_false_iff, beq_eq_false_iff_ne,
    decide_eq_false_iff_not]
  omega

/-- There are no blanks in a numeral. -/
theorem Numeral.solid {n : Int} (numeral : Numeral cs n) : ∀ c ∈ cs, isBlank c = false := by
  intro c hc
  rcases numeral.mem hc with digit | rfl | rfl
  · exact isBlank_of_isDigit digit
  · decide
  · decide

/-- `core` is the text without the blanks at both ends. -/
structure Trimmed (cs core : List Char) : Prop where
  /-- Just blanks are taken away. -/
  blanks : ∃ left right, cs = left ++ core ++ right ∧ (∀ c ∈ left, isBlank c) ∧
    ∀ c ∈ right, isBlank c
  /-- All of them are. -/
  head : ∀ c ∈ core.head?, isBlank c = false
  last : ∀ c ∈ core.getLast?, isBlank c = false

/-- Where no blank comes first, nothing is dropped. -/
private theorem trimStart_eq_self (head : ∀ c ∈ cs.head?, isBlank c = false) :
    trimStart cs = cs := by
  cases cs with
  | nil => rfl
  | cons c cs => exact List.dropWhile_cons_of_neg (by simp [head c rfl])

/-- The blanks behind a text are trimmed. -/
private theorem trimEnd_append_blanks {blanks : List Char}
    (last : ∀ c ∈ core.getLast?, isBlank c = false) (blank : ∀ c ∈ blanks, isBlank c) :
    trimEnd (core ++ blanks) = core := by
  have kept : trimStart core.reverse = core.reverse :=
    trimStart_eq_self fun c hc => last c (by rwa [List.head?_reverse] at hc)
  have dropped : trimStart (blanks.reverse ++ core.reverse) = trimStart core.reverse :=
    List.dropWhile_append_of_pos fun c hc => blank c (List.mem_reverse.mp hc)
  rw [trimEnd, List.reverse_append, dropped, kept, List.reverse_reverse]

/-- No blank is left in front. -/
private theorem head_trimStart (cs : List Char) :
    ∀ c ∈ (trimStart cs).head?, isBlank c = false := by
  intro c hc
  have first := List.head?_dropWhile_not isBlank cs
  rw [Option.mem_def, trimStart] at hc
  rw [hc] at first
  exact first

/-- **Trimming** takes away the blanks at both ends and nothing else. -/
theorem trimmed_iff : Trimmed cs core ↔ core = trim cs := by
  constructor
  · rintro ⟨⟨left, right, rfl, blankLeft, blankRight⟩, head, last⟩
    have front : trimStart (left ++ core ++ right) = trimStart (core ++ right) := by
      rw [List.append_assoc]
      exact List.dropWhile_append_of_pos blankLeft
    rw [trim, front]
    -- If nothing is left, all of the text is dropped at the front.
    cases core with
    | nil =>
      have all : trimStart right = [] := List.dropWhile_eq_nil_iff.mpr blankRight
      rw [List.nil_append, all]
      rfl
    | cons c core =>
      have kept : trimStart (c :: core ++ right) = c :: core ++ right :=
        trimStart_eq_self fun d hd => head d hd
      rw [kept, trimEnd_append_blanks last blankRight]
  · rintro rfl
    -- What is dropped at the back of what is left of the text.
    have back : trim cs ++ (trimStart cs).rtakeWhile isBlank = trimStart cs :=
      List.rdropWhile_append_rtakeWhile
    refine ⟨⟨cs.takeWhile isBlank, (trimStart cs).rtakeWhile isBlank, ?_,
      fun c hc => List.mem_takeWhile_imp hc, fun c hc => List.mem_rtakeWhile_imp hc⟩,
      fun c hc => ?_, fun c hc => ?_⟩
    · rw [List.append_assoc, back]
      exact List.takeWhile_append_dropWhile.symm
    · refine head_trimStart cs c ?_
      rw [← back]
      exact List.mem_head?_append_of_mem_head? hc
    · refine head_trimStart (trimStart cs).reverse c ?_
      rwa [trim, trimEnd, List.getLast?_reverse] at hc

/-- A text without blanks is trimmed already. -/
theorem trimmed_self (solid : ∀ c ∈ cs, isBlank c = false) : Trimmed cs cs :=
  ⟨⟨[], [], (List.append_nil cs).symm, nofun, nofun⟩,
    fun c hc => solid c (List.mem_of_mem_head? hc), fun c hc => solid c (List.mem_of_getLast? hc)⟩

end TankDuel.Text

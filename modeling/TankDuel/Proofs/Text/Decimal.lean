import TankDuel.Text.Decimal

/-!
# Decimal numbers read back

What is written for a number is read as that number, whatever the number (`integer?_toString`); so
every value of a register survives being written and read (`word?_toString`).
-/

namespace TankDuel.Text

/-- A number is written in digits. -/
theorem isDigit_of_mem_toString {n : Nat} {c : Char} (hc : c ∈ (toString n).toList) :
    c.isDigit := by
  rw [Nat.toString_eq_ofList_toDigits, String.toList_ofList] at hc
  exact Nat.isDigit_of_mem_toDigits (by decide) (by decide) hc

/-- A number is not written as an empty text. -/
theorem toList_toString_ne_nil (n : Nat) : (toString n).toList ≠ [] := by
  rw [Nat.toString_eq_ofList_toDigits, String.toList_ofList]
  exact Nat.toDigits_ne_nil

/-- A number is written with a digit first. -/
theorem exists_digit_cons (n : Nat) : ∃ c rest, (toString n).toList = c :: rest ∧ c.isDigit := by
  obtain ⟨c, rest, written⟩ := List.exists_cons_of_ne_nil (toList_toString_ne_nil n)
  exact ⟨c, rest, written, isDigit_of_mem_toString (written ▸ List.mem_cons_self)⟩

/-- A number is read as it is written. -/
private theorem natural?_toString (n : Nat) : natural? (toString n).toList = some n := by
  have digits : (toString n).toList.all Char.isDigit :=
    List.all_eq_true.mpr fun c hc => isDigit_of_mem_toString hc
  have nonempty : (toString n).toList.isEmpty = false :=
    List.isEmpty_eq_false_iff.mpr (toList_toString_ne_nil n)
  rw [natural?, digits, nonempty]
  rw [Nat.toString_eq_ofList_toDigits, String.toList_ofList, Nat.ofDigitChars_ten_toDigits]
  rfl

/-- Different numbers are written differently. -/
theorem toString_injective {n m : Nat} (same : (toString n).toList = (toString m).toList) :
    n = m := by
  have read := natural?_toString n
  rw [same, natural?_toString] at read
  exact (Option.some.inj read).symm

/-- Where a digit comes first, no sign is read. -/
theorem integer?_of_isDigit {c : Char} {rest : List Char} (digit : c.isDigit) :
    integer? (c :: rest) = (natural? (c :: rest)).map fun n => (n : Int) := by
  unfold integer?
  split
  next same => exact absurd digit (by rw [(List.cons.inj same).1]; decide)
  next same => exact absurd digit (by rw [(List.cons.inj same).1]; decide)
  next => rfl

/-- A negative number is written with a minus sign. -/
theorem toList_toString_negSucc (n : Nat) :
    (toString (Int.negSucc n)).toList = '-' :: (toString (n + 1)).toList :=
  String.toList_append

/-- **Reading a number that was written.** -/
theorem integer?_toString (n : Int) : integer? (toString n).toList = some n := by
  cases n with
  | ofNat n =>
    change integer? (toString n).toList = some (n : Int)
    obtain ⟨c, rest, written, digit⟩ := exists_digit_cons n
    rw [written, integer?_of_isDigit digit, ← written, natural?_toString]
    rfl
  | negSucc n =>
    rw [toList_toString_negSucc, integer?, natural?_toString]
    rfl

/-- **Every value of a register can be written and read.** -/
theorem word?_toString (value : Int32) :
    word? (toString value.toInt).toList = some value.toInt := by
  have low := value.le_toInt
  have high := value.toInt_lt
  have fits : fitsWord value.toInt := by
    rw [fitsWord, Bool.and_eq_true, decide_eq_true_iff, decide_eq_true_iff]
    omega
  rw [word?, integer?_toString, Option.filter_some, if_pos fits]

end TankDuel.Text

import TankDuel.Arena.Coord
import TankDuel.Proofs.Text.Numerals

/-!
# Texts of cells

The text of a cell on or off the board is read as that cell, as long as both of its numbers fit a
register. A text that somebody else wrote may look different: there can be blanks around either
number, plus signs and zeros in front. `Coord.read_exact` says what such a text looks like. It is
cut at its first comma, and both parts, trimmed, are numerals (`Coord.Names`). So a second comma is
part of what should be a numeral, and nothing is read.
-/

namespace TankDuel.Coord

open Text (Numeral Trimmed)

/-- The text names a number of a cell: without the blanks around it, it is a numeral in the range of
a register. -/
def Names (part : List Char) (n : Int) : Prop :=
  ∃ core, Trimmed part core ∧ Numeral core n ∧ -2 ^ 31 ≤ n ∧ n < 2 ^ 31

/-- A part is read by trimming it first, so what it names is the numeral that is left. -/
private theorem number?_eq_some_iff {part : List Char} {n : Int} :
    number? part = some n ↔ Names part n := by
  rw [number?, Text.word?_eq_some_iff]
  constructor
  · intro read
    exact ⟨Text.trim part, Text.trimmed_iff.mpr rfl, read⟩
  · rintro ⟨core, trimmed, read⟩
    rwa [← Text.trimmed_iff.mp trimmed]

/-- A number that is written names itself. -/
private theorem names_toString {n : Int} (low : -2 ^ 31 ≤ n) (high : n < 2 ^ 31) :
    Names (toString n).toList n :=
  ⟨_, Text.trimmed_self (Text.numeral_toString n).solid, Text.numeral_toString n, low, high⟩

/-- The first comma is found where it is. -/
private theorem ofText?_of_split {s : String} {left right : List Char}
    (split : s.toList = left ++ ',' :: right) (first : ',' ∉ left) :
    ofText? s = do
      let x ← number? left
      let y ← number? right
      return ⟨x, y⟩ := by
  have passes : ∀ c ∈ left, decide (c ≠ ',') = true := by
    intro c hc
    rw [decide_eq_true_iff]
    rintro rfl
    exact first hc
  -- Behind the first part the comma is the next character, so it ends what is taken there.
  have comma : (',' :: right).takeWhile (· ≠ ',') = [] :=
    List.takeWhile_cons_of_neg (by simp)
  have stop : (',' :: right).dropWhile (· ≠ ',') = ',' :: right :=
    List.dropWhile_cons_of_neg (by simp)
  rw [ofText?, split, List.dropWhile_append_of_pos passes, List.takeWhile_append_of_pos passes,
    comma, stop, List.append_nil]

/-- A text with a comma is cut at the first one. -/
private theorem exists_split {s : String} {right : List Char} {c : Char}
    (found : s.toList.dropWhile (· ≠ ',') = c :: right) :
    s.toList = s.toList.takeWhile (· ≠ ',') ++ ',' :: right ∧
      ',' ∉ s.toList.takeWhile (· ≠ ',') := by
  -- What is left after dropping begins with a character that is not dropped.
  have stop := List.head?_dropWhile_not (fun c : Char => decide (c ≠ ',')) s.toList
  rw [found] at stop
  obtain rfl : c = ',' := by simpa using stop
  constructor
  · rw [← found, List.takeWhile_append_dropWhile]
  · intro comma
    have := List.mem_takeWhile_imp comma
    simp at this

/-- **Which texts are cells.** -/
theorem ofText?_eq_some_iff {s : String} {c : Coord} :
    ofText? s = some c ↔ ∃ left right, s.toList = left ++ ',' :: right ∧ ',' ∉ left ∧
      Names left c.x ∧ Names right c.y := by
  -- The two numbers are read one after the other, and neither depends on the other.
  have parts {left right : List Char} :
      (do
        let x ← number? left
        let y ← number? right
        return (⟨x, y⟩ : Coord)) = some c ↔ Names left c.x ∧ Names right c.y := by
    rw [← number?_eq_some_iff, ← number?_eq_some_iff]
    cases c
    cases number? left <;> cases number? right <;> simp
  constructor
  · intro read
    cases found : s.toList.dropWhile (· ≠ ',') with
    | nil =>
      rw [ofText?, found] at read
      cases read
    | cons d right =>
      obtain ⟨split, first⟩ := exists_split found
      rw [ofText?_of_split split first] at read
      exact ⟨_, right, split, first, parts.mp read⟩
  · rintro ⟨left, right, split, first, named⟩
    rw [ofText?_of_split split first]
    exact parts.mpr named

/-- Reading differs from `ofText?` only in that it says why it fails. -/
theorem read_eq_ok_iff {s : String} {c : Coord} : read s = .ok c ↔ ofText? s = some c := by
  rw [read]
  split
  next found => rw [found, Except.ok.injEq, Option.some.injEq]
  next refused =>
    rw [refused]
    exact iff_of_false nofun nofun

/-- A cell whose numbers fit a register is read back. -/
private theorem read_text {c : Coord} (x : -2 ^ 31 ≤ c.x ∧ c.x < 2 ^ 31)
    (y : -2 ^ 31 ≤ c.y ∧ c.y < 2 ^ 31) : read c.text = .ok c := by
  -- A numeral has digits and a sign, so the first comma is the one between the numbers.
  have noComma : ',' ∉ (toString c.x).toList := by
    intro comma
    rcases (Text.numeral_toString c.x).mem comma with digit | plus | minus
    · exact absurd digit (by decide)
    · exact absurd plus (by decide)
    · exact absurd minus (by decide)
  have split : c.text.toList = (toString c.x).toList ++ ',' :: (toString c.y).toList := by
    rw [text, String.toList_append, String.toList_append, List.append_assoc]
    rfl
  rw [read_eq_ok_iff, ofText?_eq_some_iff]
  exact ⟨_, _, split, noComma, names_toString x.1 x.2, names_toString y.1 y.2⟩

/-- **Reading cells.** The text of a cell is read as that cell, whatever values of a register its
numbers are. In general a text is a cell if it has a comma and the parts before and behind the first
comma are numerals in range, blanks around them left out; then the numerals tell which cell it is. A
cell that was read can be written and is read again. -/
theorem read_exact :
    (∀ x y : Int32, read (text ⟨x.toInt, y.toInt⟩) = .ok ⟨x.toInt, y.toInt⟩) ∧
    (∀ (s : String) (c : Coord), read s = .ok c ↔
      ∃ left right, s.toList = left ++ ',' :: right ∧ ',' ∉ left ∧
        Names left c.x ∧ Names right c.y) ∧
    ∀ (s : String) (c : Coord), read s = .ok c → read c.text = .ok c := by
  refine ⟨fun x y => read_text ⟨x.le_toInt, x.toInt_lt⟩ ⟨y.le_toInt, y.toInt_lt⟩,
    fun s c => read_eq_ok_iff.trans ofText?_eq_some_iff, fun s c read => ?_⟩
  -- What was read is in range.
  obtain ⟨_, _, -, -, ⟨_, -, -, x⟩, ⟨_, -, -, y⟩⟩ :=
    ofText?_eq_some_iff.mp (read_eq_ok_iff.mp read)
  exact read_text x y

/-- Blanks that are not ASCII, a sign and zeros in front, and the least value of a register. -/
theorem read_exact_blanks :
    let s := "\u3000+007 ,\t-2147483648\u2003"
    read s = .ok ⟨7, -2147483648⟩ ∧ read (text ⟨7, -2147483648⟩) = .ok ⟨7, -2147483648⟩ := by
  intro s
  -- The text is closed, so reading it is a computation.
  have named : read s = .ok ⟨7, -2147483648⟩ := by decide +kernel
  exact ⟨named, read_exact.2.2 s _ named⟩

end TankDuel.Coord

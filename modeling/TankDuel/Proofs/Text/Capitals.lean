import TankDuel.Text.Blank
import TankDuel.Text.Caseless
import TankDuel.Text.Decimal
import TankDuel.Text.Lines

/-!
# Writing a text in capitals

`Char.toUpper` and `String.toUpper` make ASCII letters big and leave all other characters as they
are. Texts are cut and read by characters that are no letters, so cutting and reading go on as
before when a text is written in capitals, and words that are compared without regard to letter
case stay what they are.

* `Text.toUpper_eq_iff` — no character comes to be, or ceases to be, any that is not a letter;
* `Text.lines_toUpper`, `Text.word?_toUpper` — a text has the same lines and reads as the same
  number;
* `Text.sameWord_toUpper` — a word names what it named before.

All that has to be known of single characters is checked on the twenty-six small letters
(`Text.toUpper_induction`).
-/

namespace TankDuel.Text

/-! ### Characters -/

/-- The letters that change, by their number in the alphabet. -/
def smallLetter (n : Nat) : Char := Char.ofNat ('a'.toNat + n)

/-- What holds of the characters that stay as they are, and of the small letters, holds of all. -/
theorem toUpper_induction {P : Char → Char → Prop} (same : ∀ c, P c c)
    (small : ∀ n < 26, P (smallLetter n) (smallLetter n).toUpper) (c : Char) : P c c.toUpper := by
  by_cases letter : 'a'.val ≤ c.val ∧ c.val ≤ 'z'.val
  · have low : 'a'.toNat ≤ c.toNat := UInt32.le_iff_toNat_le.mp letter.1
    have high : c.toNat ≤ 'a'.toNat + 25 := UInt32.le_iff_toNat_le.mp letter.2
    have numbered : smallLetter (c.toNat - 'a'.toNat) = c := by
      rw [smallLetter, Nat.add_sub_cancel' low, Char.ofNat_toNat]
    have holds := small (c.toNat - 'a'.toNat) (by omega)
    rwa [numbered] at holds
  · have kept : c.toUpper = c := dif_neg letter
    rw [kept]
    exact same c

/-- A character that is not a letter is nothing that another one turns into. -/
theorem toUpper_eq_iff {c x : Char} (notLetter : x.isAlpha = false) : c.toUpper = x ↔ c = x := by
  refine toUpper_induction (P := fun c upper => upper = x ↔ c = x) (fun _ => Iff.rfl) ?_ c
  intro n small
  have letters : ∀ n < 26, (smallLetter n).isAlpha ∧ (smallLetter n).toUpper.isAlpha := by decide
  have apart {d : Char} (letter : d.isAlpha) : d ≠ x := by
    rintro rfl
    exact absurd (letter.symm.trans notLetter) (by decide)
  exact iff_of_false (apart (letters n small).2) (apart (letters n small).1)

/-- A character that is no letter is the same in capitals, and no other becomes it. -/
theorem map_toUpper_eq_some_iff {o : Option Char} {x : Char} (notLetter : x.isAlpha = false) :
    o.map Char.toUpper = some x ↔ o = some x := by
  rw [Option.map_eq_some_iff]
  simp only [toUpper_eq_iff notLetter, exists_eq_right]

/-- The capitals are letters. -/
@[simp] theorem isAlpha_toUpper (c : Char) : c.toUpper.isAlpha = c.isAlpha :=
  toUpper_induction (P := fun c upper => upper.isAlpha = c.isAlpha) (fun _ => rfl) (by decide) c

/-- Digits have no capitals. -/
@[simp] theorem isDigit_toUpper (c : Char) : c.toUpper.isDigit = c.isDigit :=
  toUpper_induction (P := fun c upper => upper.isDigit = c.isDigit) (fun _ => rfl) (by decide) c

/-- Letters and digits stay such in capitals. -/
@[simp] theorem isAlphanum_toUpper (c : Char) : c.toUpper.isAlphanum = c.isAlphanum := by
  rw [Char.isAlphanum, isAlpha_toUpper, isDigit_toUpper, Char.isAlphanum]

/-- Blanks have no capitals. -/
@[simp] theorem isBlank_toUpper (c : Char) : isBlank c.toUpper = isBlank c :=
  toUpper_induction (P := fun c upper => isBlank upper = isBlank c) (fun _ => rfl) (by decide) c

/-- Capitals have the same small letters. -/
private theorem toLower_toUpper (c : Char) : c.toUpper.toLower = c.toLower :=
  toUpper_induction (P := fun c upper => upper.toLower = c.toLower) (fun _ => rfl) (by decide) c

/-! ### Words -/

/-- The characters of a text in capitals. -/
theorem toList_toUpper (text : String) : text.toUpper.toList = text.toList.map Char.toUpper :=
  String.toList_map

/-- A text can be put in capitals character by character. -/
theorem ofList_map_toUpper (cs : List Char) :
    String.ofList (cs.map Char.toUpper) = (String.ofList cs).toUpper := by
  rw [← String.toList_inj, toList_toUpper, String.toList_ofList, String.toList_ofList]

/-- Folding a word takes its capitals away. -/
private theorem folded_toUpper (word : String) : folded word.toUpper = folded word := by
  rw [folded, toList_toUpper, List.map_map, folded]
  exact List.map_congr_left fun c _ => toLower_toUpper c

/-- **Letter case is ignored** where words are compared without regard to it. -/
@[simp] theorem sameWord_toUpper (name word : String) :
    sameWord name word.toUpper = sameWord name word := by
  rw [sameWord, folded_toUpper, sameWord]

/-- A name is found in capitals, too. -/
@[simp] theorem findNamed?_toUpper {α : Type} (name : α → String) (values : List α)
    (word : String) : findNamed? name values word.toUpper = findNamed? name values word := by
  simp only [findNamed?, sameWord_toUpper]

/-! ### Numbers -/

/-- Digits are their own capitals. -/
private theorem map_toUpper_of_digits {cs : List Char} (digits : cs.all Char.isDigit) :
    cs.map Char.toUpper = cs := by
  have kept (c : Char) : c.isDigit → c.toUpper = c :=
    toUpper_induction (P := fun c upper => c.isDigit → upper = c) (fun _ _ => rfl) (by decide) c
  calc cs.map Char.toUpper
      = cs.map id := List.map_congr_left fun c hc => kept c (List.all_eq_true.mp digits c hc)
    _ = cs := List.map_id cs

/-- Digits are read in capitals as they are. -/
private theorem natural?_toUpper (cs : List Char) :
    natural? (cs.map Char.toUpper) = natural? cs := by
  have digits : (cs.map Char.toUpper).all Char.isDigit = cs.all Char.isDigit := by
    simp only [List.all_map, Function.comp_def, isDigit_toUpper]
  unfold natural?
  rw [digits, List.isEmpty_map]
  split
  next reads => rw [map_toUpper_of_digits (Bool.and_eq_true_iff.mp reads).2]
  next => rfl

/-- Without a sign an integer is a natural number. -/
private theorem integer?_of_unsigned {c : Char} {rest : List Char} (minus : c ≠ '-')
    (plus : c ≠ '+') :
    integer? (c :: rest) = (natural? (c :: rest)).map fun n => (n : Int) := by
  unfold integer?
  split
  next same => exact absurd (List.cons.inj same).1 minus
  next same => exact absurd (List.cons.inj same).1 plus
  next => rfl

/-- Integers are read in capitals as they are. -/
private theorem integer?_toUpper (cs : List Char) :
    integer? (cs.map Char.toUpper) = integer? cs := by
  cases cs with
  | nil => rfl
  | cons c rest =>
    rw [List.map_cons]
    by_cases minus : c = '-'
    · rw [minus, (toUpper_eq_iff rfl).mpr rfl, integer?, integer?, natural?_toUpper]
    by_cases plus : c = '+'
    · rw [plus, (toUpper_eq_iff rfl).mpr rfl, integer?, integer?, natural?_toUpper]
    -- There is no sign in front, and none comes to be there.
    have minus' : c.toUpper ≠ '-' := mt (toUpper_eq_iff rfl).mp minus
    have plus' : c.toUpper ≠ '+' := mt (toUpper_eq_iff rfl).mp plus
    rw [integer?_of_unsigned minus' plus', ← List.map_cons, natural?_toUpper,
      integer?_of_unsigned minus plus]

/-- **A number is read as before.** -/
theorem word?_toUpper (cs : List Char) : word? (cs.map Char.toUpper) = word? cs := by
  rw [word?, integer?_toUpper, word?]

/-! ### Lines -/

/-- A line that does not end with a carriage return keeps all its characters. -/
private theorem endedLine_of_ne {c : Char} {rest : List Char} (back : c ≠ '\r') :
    endedLine (c :: rest) = (c :: rest).reverse := by
  unfold endedLine
  split
  next same => exact absurd (List.cons.inj same).1 back
  next => rfl

/-- The end of a line is no letter. -/
private theorem endedLine_toUpper (held : List Char) :
    endedLine (held.map Char.toUpper) = (endedLine held).map Char.toUpper := by
  cases held with
  | nil => rfl
  | cons c rest =>
    rw [List.map_cons]
    by_cases back : c = '\r'
    · rw [back, (toUpper_eq_iff rfl).mpr rfl, endedLine, endedLine, List.map_reverse]
    · have back' : c.toUpper ≠ '\r' := mt (toUpper_eq_iff rfl).mp back
      rw [endedLine_of_ne back', ← List.map_cons, endedLine_of_ne back, List.map_reverse]

/-- Capitals may be made before or after a text is cut into lines. -/
private theorem linesFrom_toUpper (held cs : List Char) :
    linesFrom (held.map Char.toUpper) (cs.map Char.toUpper) =
      (linesFrom held cs).map (List.map Char.toUpper) := by
  induction cs generalizing held with
  | nil =>
    rw [List.map_nil, linesFrom, linesFrom, List.isEmpty_map, ← List.map_reverse]
    split <;> rfl
  | cons c rest ih =>
    rw [List.map_cons, linesFrom, linesFrom]
    by_cases ends : c = '\n'
    · rw [if_pos ends, if_pos ((toUpper_eq_iff rfl).mpr ends), endedLine_toUpper, List.map_cons]
      exact congrArg _ (ih [])
    · rw [if_neg ends, if_neg (mt (toUpper_eq_iff rfl).mp ends)]
      exact ih (c :: held)

/-- **A text is cut into the same lines.** -/
theorem lines_toUpper (cs : List Char) :
    lines (cs.map Char.toUpper) = (lines cs).map (List.map Char.toUpper) :=
  linesFrom_toUpper [] cs

end TankDuel.Text

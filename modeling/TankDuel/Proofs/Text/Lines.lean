import Mathlib.Data.List.Basic
import TankDuel.Text.Blank
import TankDuel.Text.Lines

/-!
# Texts made of lines

Lines are put together to a text by ending each of them with a line feed (`Text.unlines`). Cutting
the text gives the lines back, if no line has a line feed in it or ends with a carriage return
(`Text.lines_unlines`). Trimming a line changes nothing where it has no blank
(`Text.trimEnd_eq_self`).
-/

namespace TankDuel.Text

/-- The text of some lines: each one is ended by a line feed. -/
def unlines (ls : List (List Char)) : List Char := ls.flatMap (· ++ ['\n'])

/-- What stands before the next line feed is held. -/
private theorem linesFrom_append {line : List Char} (oneLine : '\n' ∉ line)
    (held rest : List Char) :
    linesFrom held (line ++ rest) = linesFrom (line.reverse ++ held) rest := by
  induction line generalizing held with
  | nil => rfl
  | cons c line ih =>
    obtain ⟨other, oneLine⟩ := List.ne_and_not_mem_of_not_mem_cons oneLine
    rw [List.cons_append, linesFrom, if_neg other.symm, ih oneLine, List.reverse_cons,
      List.append_assoc, List.singleton_append]

/-- A line without a carriage return at its end is kept as it is. -/
private theorem endedLine_reverse {line : List Char} (noReturn : line.getLast? ≠ some '\r') :
    endedLine line.reverse = line := by
  rw [← List.head?_reverse] at noReturn
  unfold endedLine
  split
  next same => exact absurd (by rw [same]; rfl) noReturn
  next => exact List.reverse_reverse line

/-- **Lines that are put together can be cut apart again.** -/
theorem lines_unlines {ls : List (List Char)}
    (clean : ∀ line ∈ ls, '\n' ∉ line ∧ line.getLast? ≠ some '\r') : lines (unlines ls) = ls := by
  induction ls with
  | nil => rfl
  | cons line ls ih =>
    obtain ⟨oneLine, noReturn⟩ := clean line List.mem_cons_self
    have more := ih fun l hl => clean l (List.mem_cons_of_mem _ hl)
    rw [lines, unlines, List.flatMap_cons, List.append_assoc, linesFrom_append oneLine,
      List.append_nil, List.singleton_append, linesFrom, if_pos rfl, endedLine_reverse noReturn]
    exact congrArg (line :: ·) more

/-- A line that is not ended is a line. -/
theorem lines_singleton {line : List Char} (oneLine : '\n' ∉ line) (ne_nil : line ≠ []) :
    lines line = [line] := by
  have held := linesFrom_append oneLine [] []
  rw [List.append_nil, List.append_nil, linesFrom, if_neg (by simpa using ne_nil),
    List.reverse_reverse] at held
  exact held

/-- Each line but the last one is ended by a line feed. -/
theorem length_linesFrom_le (held text : List Char) :
    (linesFrom held text).length ≤ text.count '\n' + 1 := by
  induction text generalizing held with
  | nil =>
    rw [linesFrom]
    split
    · exact Nat.zero_le _
    · exact Nat.le_refl 1
  | cons c text ih =>
    rw [linesFrom]
    by_cases feed : c = '\n'
    · rw [if_pos feed, feed, List.count_cons_self, List.length_cons]
      exact Nat.succ_le_succ (ih [])
    · rw [if_neg feed, List.count_cons_of_ne feed]
      exact ih (c :: held)

/-- A line without blanks is not trimmed. -/
theorem trimEnd_eq_self {cs : List Char} (solid : ∀ c ∈ cs, isBlank c = false) :
    trimEnd cs = cs := by
  have kept : trimStart cs.reverse = cs.reverse := by
    cases reversed : cs.reverse with
    | nil => rfl
    | cons c rest =>
      have : c ∈ cs := List.mem_reverse.mp (reversed ▸ List.mem_cons_self)
      rw [trimStart, List.dropWhile_cons_of_neg (by simp [solid c this])]
  rw [trimEnd, kept, List.reverse_reverse]

end TankDuel.Text

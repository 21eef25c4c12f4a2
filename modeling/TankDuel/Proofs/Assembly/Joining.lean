import Mathlib.Data.List.Basic
import TankDuel.Proofs.Assembly.Lexing

/-!
# Texts that are joined

Nothing that is read on one line matters on another. Hence the tokens of two texts with a line feed
between them are those of the first text and behind them those of the second, further down by the
lines of the first (`tokenize_append_newline`).

The one place where the line feed could be felt is in front of it: a carriage return there belongs
to the end of the line if a line feed follows, and to its text otherwise. As a separator at the end
of a line it makes no token (`lineTokens_concat_separator`).
-/

namespace TankDuel.Assembly

variable {number : Nat} {ls ls' : List (List Char)}

/-! ### Where the tokens are -/

/-- Lines that follow others are numbered on from them. -/
theorem linesTokens_append :
    linesTokens number (ls ++ ls') =
      linesTokens number ls ++ linesTokens (number + ls.length) ls' := by
  induction ls generalizing number with
  | nil => rfl
  | cons text ls ih =>
    rw [List.cons_append, linesTokens, ih, linesTokens, List.append_assoc, List.length_cons,
      Nat.add_right_comm, Nat.add_assoc]

/-- No token stands behind the last line. -/
theorem line_lt_of_mem_linesTokens {t : Token} (h : t ∈ linesTokens number ls) :
    t.line < number + ls.length := by
  induction ls generalizing number with
  | nil => cases h
  | cons text ls ih =>
    rw [List.length_cons]
    rcases List.mem_append.mp h with here | later
    · obtain ⟨kind, -, rfl⟩ := List.mem_map.mp here
      change number < _
      omega
    · have := ih later
      omega

/-- The token, so many lines further down. -/
def Token.lowered (count : Nat) (t : Token) : Token := { t with line := t.line + count }

/-- On a later line the tokens are the same, with another number. -/
private theorem lineTokens_lowered (count : Nat) (text : List Char) :
    lineTokens (number + count) text = (lineTokens number text).map (Token.lowered count) := by
  rw [lineTokens, lineTokens, List.map_map]
  rfl

/-- On later lines the tokens are the same, with other numbers. -/
private theorem linesTokens_lowered (count : Nat) :
    linesTokens (number + count) ls = (linesTokens number ls).map (Token.lowered count) := by
  induction ls generalizing number with
  | nil => rfl
  | cons text ls ih =>
    rw [linesTokens, linesTokens, List.map_append, lineTokens_lowered, Nat.add_right_comm, ih]

/-! ### A separator at the end of a line -/

/-- A separator at the end is part of the comment, if there is one. -/
private theorem code_concat_separator {c : Char} (separates : isSeparator c) (cs : List Char) :
    code (cs ++ [c]) = code cs ∨ code (cs ++ [c]) = code cs ++ [c] := by
  -- No character that starts a comment separates words.
  obtain ⟨semicolon, hash, slash⟩ : c ≠ ';' ∧ c ≠ '#' ∧ c ≠ '/' := by
    refine ⟨?_, ?_, ?_⟩ <;>
    · rintro rfl
      exact absurd separates (by decide)
  induction cs with
  | nil =>
    have noMark : ¬(c = ';' || c = '#') = true := by simp [semicolon, hash]
    have noSlashes : ¬(c = '/' && [].head? = some '/') = true := by simp
    right
    change code [c] = [c]
    rw [code, if_neg noMark, if_neg noSlashes, code]
  | cons d cs ih =>
    -- Whether a slash follows does not depend on the separator.
    have next : (cs ++ [c]).head? = some '/' ↔ cs.head? = some '/' := by
      cases cs with
      | nil => simpa using slash
      | cons e cs => rfl
    simp only [List.cons_append, code, next]
    by_cases mark : (d = ';' || d = '#') = true
    · left
      rw [if_pos mark, if_pos mark]
    rw [if_neg mark, if_neg mark]
    by_cases slashes : (d = '/' && cs.head? = some '/') = true
    · left
      rw [if_pos slashes, if_pos slashes]
    · rw [if_neg slashes, if_neg slashes]
      exact ih.imp (congrArg (d :: ·)) (congrArg (d :: ·))

/-- A separator at the end adds no word. -/
private theorem lexemesFrom_concat_separator {c : Char} (separates : isSeparator c)
    (held cs : List Char) : lexemesFrom held (cs ++ [c]) = lexemesFrom held cs := by
  induction cs generalizing held with
  | nil =>
    change lexemesFrom held [c] = release held
    rw [lexemesFrom, if_pos separates]
    exact List.append_nil (release held)
  | cons d cs ih => simp only [List.cons_append, lexemesFrom, ih]

/-- A separator at the end of a line adds no token. -/
theorem lineTokens_concat_separator {c : Char} (separates : isSeparator c) (text : List Char) :
    lineTokens number (text ++ [c]) = lineTokens number text := by
  rw [lineTokens, lineTokens]
  rcases code_concat_separator separates text with same | longer
  · rw [same]
  · rw [longer, lexemes, lexemesFrom_concat_separator separates, lexemes]

/-- The tokens of a line do not tell whether the line was ended. -/
private theorem lineTokens_endedLine (held : List Char) :
    lineTokens number (Text.endedLine held) = linesTokens number (Text.linesFrom held []) := by
  have last {text : List Char} : linesTokens number [text] = lineTokens number text :=
    List.append_nil _
  unfold Text.endedLine
  split
  next rest =>
    change _ = linesTokens number [('\r' :: rest).reverse]
    rw [last, List.reverse_cons, lineTokens_concat_separator (by decide)]
  next =>
    cases held with
    | nil => rfl
    | cons c held => exact last.symm

/-! ### A line feed between two texts -/

/-- The induction is on the first text, for any line that is begun. -/
theorem linesTokens_linesFrom_append (held front back : List Char) :
    linesTokens number (Text.linesFrom held (front ++ '\n' :: back)) =
      linesTokens number (Text.linesFrom held front) ++
        linesTokens (number + (front.count '\n' + 1)) (Text.lines back) := by
  induction front generalizing held number with
  | nil =>
    have ended : Text.linesFrom held ('\n' :: back) = Text.endedLine held :: Text.lines back :=
      if_pos rfl
    rw [List.nil_append, ended, linesTokens, lineTokens_endedLine]
    rfl
  | cons c front ih =>
    rw [List.cons_append, Text.linesFrom, Text.linesFrom]
    by_cases feed : c = '\n'
    · rw [if_pos feed, if_pos feed, linesTokens, linesTokens, ih, List.append_assoc, feed,
        List.count_cons_self, Nat.add_assoc, Nat.add_comm 1]
    · rw [if_neg feed, if_neg feed, ih, List.count_cons_of_ne feed]

/-- **Texts with a line feed between them.** -/
theorem tokenize_append_newline (front back : String) :
    tokenize (front ++ "\n" ++ back) =
      tokenize front ++ (tokenize back).map (Token.lowered (front.toList.count '\n' + 1)) := by
  have chars : (front ++ "\n" ++ back).toList = front.toList ++ '\n' :: back.toList := by
    rw [String.toList_append, String.toList_append, List.append_assoc]
    rfl
  rw [tokenize, chars, Text.lines, linesTokens_linesFrom_append, linesTokens_lowered]
  rfl

end TankDuel.Assembly

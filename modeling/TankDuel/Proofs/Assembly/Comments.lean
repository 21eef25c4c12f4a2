import Mathlib.Data.List.Basic
import TankDuel.Proofs.Assembly.Joining
import TankDuel.Proofs.Assembly.Printing

/-!
# Comments and commas

A comment says nothing, and a comma says no more than a blank does. So a line of a text may be cut
off before its comment, written with blanks for commas and given another comment, and the tokens of
the text stay as they are, with their lines (`comments_and_commas_idle`).

What stands before the comment of a line is said without looking at how it is found: what is left
out is a comment, and no comment starts earlier (`CodeOf`). It is the same as `code`
(`codeOf_iff`).

Where the line stands does not matter. Around any line that is put between the same texts there are
the same tokens (`exists_tokens_around`), so only the tokens of the line are left to compare
(`lineTokens_recommented`). The new comment begins with a semicolon, for a slash at the end of the
code must not become part of a comment; a semicolon is no slash.
-/

namespace TankDuel.Assembly

variable {line front before after : List Char} {number : Nat}

/-! ### The part of a line before its comment -/

/-- A comment starts here. -/
def StartsComment (cs : List Char) : Prop := [';'] <+: cs ∨ ['#'] <+: cs ∨ ['/', '/'] <+: cs

/-- Whether a comment starts can be seen. -/
instance (cs : List Char) : Decidable (StartsComment cs) :=
  inferInstanceAs (Decidable (_ ∨ _ ∨ _))

/-- `front` is the part of a line before its first comment, the whole line if there is none. -/
structure CodeOf (line front : List Char) : Prop where
  /-- What is left out is a comment, if anything is. -/
  leaves : ∃ rest, line = front ++ rest ∧ (rest = [] ∨ StartsComment rest)
  /-- No comment starts earlier. -/
  first : ∀ k < front.length, ¬StartsComment (line.drop k)

/-- What starts a comment is told by two characters. -/
private theorem startsComment_cons_iff {c : Char} {cs : List Char} :
    StartsComment (c :: cs) ↔ (c = ';' ∨ c = '#') ∨ c = '/' ∧ cs.head? = some '/' := by
  cases cs <;> simp [StartsComment, List.cons_prefix_cons, eq_comm, or_assoc]

/-- A comment is no code. -/
private theorem code_of_startsComment {cs : List Char} (starts : StartsComment cs) :
    code cs = [] := by
  cases cs with
  | nil => rfl
  | cons c cs =>
    rw [code]
    rcases startsComment_cons_iff.mp starts with mark | slashes
    · rw [if_pos (by simpa using mark)]
    · have isSlashes : (c = '/' && cs.head? = some '/') = true := by simpa using slashes
      rw [if_pos isSlashes, ite_self]

/-- A character that starts no comment is code. -/
private theorem code_cons_of_not_startsComment {c : Char} {cs : List Char}
    (goesOn : ¬StartsComment (c :: cs)) : code (c :: cs) = c :: code cs := by
  rw [startsComment_cons_iff, not_or] at goesOn
  rw [code, if_neg (by simpa using goesOn.1), if_neg (by simpa using goesOn.2)]

/-- **The code of a line** is what stands before its comment. -/
theorem codeOf_iff : CodeOf line front ↔ front = code line := by
  constructor
  · rintro ⟨⟨rest, rfl, cut⟩, first⟩
    -- By induction on what stands before the comment; the comment stays where it is.
    induction front with
    | nil =>
      rcases cut with rfl | starts
      · rfl
      · exact (code_of_startsComment starts).symm
    | cons c front ih =>
      have goesOn : ¬StartsComment (c :: (front ++ rest)) := first 0 (Nat.succ_pos _)
      have later := ih fun k hk => first (k + 1) (Nat.succ_lt_succ hk)
      rw [List.cons_append, code_cons_of_not_startsComment goesOn, ← later]
  · rintro rfl
    induction line with
    | nil => exact ⟨⟨[], rfl, .inl rfl⟩, nofun⟩
    | cons c line ih =>
      by_cases starts : StartsComment (c :: line)
      · rw [code_of_startsComment starts]
        exact ⟨⟨c :: line, rfl, .inr starts⟩, nofun⟩
      · obtain ⟨⟨rest, split, cut⟩, first⟩ := ih
        rw [code_cons_of_not_startsComment starts]
        refine ⟨⟨rest, congrArg (c :: ·) split, cut⟩, fun k hk => ?_⟩
        cases k with
        | zero => exact starts
        | succ k => exact first k (Nat.lt_of_succ_lt_succ hk)

/-! ### Another comment, and blanks for commas -/

/-- A blank in place of a comma. -/
def spaced (c : Char) : Char := if c = ',' then ' ' else c

/-- Only separators are replaced by blanks. -/
private theorem spaced_of_not_separates {c : Char} (solid : ¬isSeparator c) : spaced c = c := by
  refine if_neg ?_
  rintro rfl
  exact solid (by decide)

/-- A separator is replaced by another one. -/
private theorem separates_spaced {c : Char} (separates : isSeparator c) :
    isSeparator (spaced c) := by
  unfold spaced
  split
  · decide
  · exact separates

/-- Only commas become something else, and they become blanks. -/
private theorem spaced_eq_iff {c d : Char} (noBlank : d ≠ ' ') (noComma : d ≠ ',') :
    spaced c = d ↔ c = d := by
  unfold spaced
  split
  next comma => simp [comma, noBlank.symm, noComma.symm]
  next => rfl

/-- It does not matter which separators stand between the words. -/
private theorem lexemesFrom_map_spaced (held cs : List Char) :
    lexemesFrom held (cs.map spaced) = lexemesFrom held cs := by
  induction cs generalizing held with
  | nil => rfl
  | cons c cs ih =>
    rw [List.map_cons, lexemesFrom, lexemesFrom]
    -- A comma ends what is held as a blank does. All other characters stay the same.
    by_cases separates : isSeparator c
    · rw [if_pos (separates_spaced separates), if_pos separates, ih]
    · rw [spaced_of_not_separates separates, if_neg separates, if_neg separates, ih, ih]

/-- A line with blanks for the commas of its code, and with another comment. -/
def recommented (front comment : List Char) : List Char := front.map spaced ++ ';' :: comment

/-- Blanks in place of commas start no comment. -/
theorem Uncommented.map_spaced {cs : List Char} (uncommented : Uncommented cs) :
    Uncommented (cs.map spaced) := by
  induction cs with
  | nil => rfl
  | cons c cs ih =>
    obtain ⟨semicolon, hash, slashes, rest⟩ := uncommented_cons_iff.mp uncommented
    rw [List.map_cons, uncommented_cons_iff, ne_eq, ne_eq, spaced_eq_iff (by decide) (by decide),
      spaced_eq_iff (by decide) (by decide), spaced_eq_iff (by decide) (by decide)]
    refine ⟨semicolon, hash, ?_, ih rest⟩
    rintro ⟨slash, next⟩
    rw [List.head?_map, Option.map_eq_some_iff] at next
    -- No comma has become a slash, so the next character was one before.
    obtain ⟨d, head, same⟩ := next
    obtain rfl := (spaced_eq_iff (by decide) (by decide)).mp same
    exact slashes ⟨slash, head⟩

/-- A semicolon starts a comment wherever it stands, also behind a slash. -/
theorem Uncommented.code_append_semicolon {cs : List Char} (uncommented : Uncommented cs)
    (comment : List Char) : code (cs ++ ';' :: comment) = cs := by
  induction cs with
  | nil => exact code_of_startsComment (.inl ⟨comment, rfl⟩)
  | cons c cs ih =>
    obtain ⟨semicolon, hash, slashes, rest⟩ := uncommented_cons_iff.mp uncommented
    have goesOn : ¬StartsComment (c :: (cs ++ ';' :: comment)) := by
      rw [startsComment_cons_iff]
      rintro ((mark | mark) | ⟨slash, next⟩)
      · exact semicolon mark
      · exact hash mark
      · -- The last character of the code is followed by the semicolon, which is no slash.
        cases cs with
        | nil => exact absurd (Option.some.inj next) (by decide)
        | cons d cs => exact slashes ⟨slash, next⟩
    rw [List.cons_append, code_cons_of_not_startsComment goesOn, ih rest]

/-- **The tokens of a line** are those of its code with any comment behind it. -/
theorem lineTokens_recommented (codeOf : CodeOf line front) (comment : List Char) :
    lineTokens number (recommented front comment) = lineTokens number line := by
  obtain rfl := codeOf_iff.mp codeOf
  have uncommented := uncommented_code line
  rw [lineTokens, recommented, uncommented.map_spaced.code_append_semicolon, lexemes,
    lexemesFrom_map_spaced, ← lexemes, ← lineTokens]

/-! ### Lines in their place -/

/-- A line of a text: what comes before it is ended by a line feed, and behind it comes the end of
the line or of the text. Whether a carriage return before the line feed belongs to the line is left
open. -/
structure IsLine (before line after : List Char) : Prop where
  starts : before = [] ∨ ['\n'] <:+ before
  single : '\n' ∉ line
  ends : after = [] ∨ ['\n'] <+: after ∨ ['\r', '\n'] <+: after

/-- Whatever stands on the lines before, a line stays a line. -/
theorem IsLine.lower (isLine : IsLine before line after) (above : List Char) :
    IsLine (above ++ '\n' :: before) line after where
  starts := by
    right
    rcases isLine.starts with rfl | ended
    · exact List.suffix_append above _
    · exact ended.trans ((List.suffix_cons _ _).trans (List.suffix_append above _))
  single := isLine.single
  ends := isLine.ends

/-- The first line of a text that is ended. -/
private theorem exists_isLine_endedLine {held : List Char} (single : '\n' ∉ held)
    (text : List Char) :
    ∃ after, held.reverse ++ '\n' :: text = Text.endedLine held ++ after ∧
      IsLine [] (Text.endedLine held) after := by
  unfold Text.endedLine
  split
  next held =>
    refine ⟨'\r' :: '\n' :: text, by simp, .inl rfl, ?_, .inr (.inr ⟨text, rfl⟩)⟩
    exact fun feed => single (List.mem_cons_of_mem _ (List.mem_reverse.mp feed))
  next =>
    refine ⟨'\n' :: text, rfl, .inl rfl, ?_, .inr (.inl ⟨text, rfl⟩)⟩
    exact fun feed => single (List.mem_reverse.mp feed)

/-- What is held is the beginning of the first line. -/
private theorem exists_isLine_of_linesFrom {k : Nat} {held text : List Char} (single : '\n' ∉ held)
    (found : (Text.linesFrom held text)[k]? = some line) :
    ∃ before after, held.reverse ++ text = before ++ line ++ after ∧ before.count '\n' = k ∧
      IsLine before line after := by
  induction text generalizing held k with
  | nil =>
    rw [Text.linesFrom] at found
    split at found
    next => cases found
    next =>
      cases k with
      | zero =>
        obtain rfl : held.reverse = line := Option.some.inj found
        exact ⟨[], [], rfl, rfl, .inl rfl, fun feed => single (List.mem_reverse.mp feed), .inl rfl⟩
      | succ k => cases found
  | cons c text ih =>
    rw [Text.linesFrom] at found
    by_cases feed : c = '\n'
    · rw [if_pos feed] at found
      subst feed
      cases k with
      | zero =>
        obtain rfl : Text.endedLine held = line := Option.some.inj found
        obtain ⟨after, same, isLine⟩ := exists_isLine_endedLine single text
        exact ⟨[], after, same, rfl, isLine⟩
      | succ k =>
        -- The line is one of the text behind the line feed, where nothing is held.
        obtain ⟨before, after, same, count, isLine⟩ := ih List.not_mem_nil found
        obtain rfl : text = before ++ line ++ after := same
        refine ⟨held.reverse ++ '\n' :: before, after, ?_, ?_, isLine.lower held.reverse⟩
        · simp only [List.append_assoc, List.cons_append]
        · have unfed : held.reverse.count '\n' = 0 :=
            List.count_eq_zero_of_not_mem fun feed => single (List.mem_reverse.mp feed)
          rw [List.count_append, unfed, List.count_cons_self, count, Nat.zero_add]
    · rw [if_neg feed] at found
      obtain ⟨before, after, same, place⟩ :=
        ih (List.not_mem_cons_of_ne_of_not_mem (Ne.symm feed) single) found
      refine ⟨before, after, ?_, place⟩
      rw [← same, List.reverse_cons, List.append_assoc, List.singleton_append]

/-- **Every line of a text** stands between what comes before it and what comes after it. Before it
there are as many line feeds as lines. -/
theorem exists_isLine {k : Nat} {text : List Char} (found : (Text.lines text)[k]? = some line) :
    ∃ before after, text = before ++ line ++ after ∧ before.count '\n' = k ∧
      IsLine before line after := by
  have nothing : '\n' ∉ ([] : List Char) := List.not_mem_nil
  exact exists_isLine_of_linesFrom nothing found

/-- A line alone has its own tokens. -/
private theorem linesTokens_lines_single (single : '\n' ∉ line) :
    linesTokens number (Text.lines line) = lineTokens number line := by
  cases line with
  | nil => rfl
  | cons c line =>
    rw [Text.lines_singleton single (List.cons_ne_nil c line)]
    exact List.append_nil _

/-- A line at the front of a text. -/
private theorem exists_tokens_behind (number : Nat)
    (ends : after = [] ∨ ['\n'] <+: after ∨ ['\r', '\n'] <+: after) :
    ∃ behind, ∀ line, '\n' ∉ line →
      linesTokens number (Text.lines (line ++ after)) = lineTokens number line ++ behind := by
  -- After a line feed the rest is cut into lines of its own, whatever stands before it.
  have fed {line rest : List Char} (single : '\n' ∉ line) :
      linesTokens number (Text.lines (line ++ '\n' :: rest)) =
        lineTokens number line ++ linesTokens (number + 1) (Text.lines rest) := by
    rw [Text.lines, linesTokens_linesFrom_append, ← Text.lines, linesTokens_lines_single single,
      List.count_eq_zero_of_not_mem single, Nat.zero_add]
  rcases ends with rfl | ⟨rest, rfl⟩ | ⟨rest, rfl⟩
  · refine ⟨[], fun line single => ?_⟩
    rw [List.append_nil, List.append_nil, linesTokens_lines_single single]
  · exact ⟨_, fun line single => fed single⟩
  · -- The carriage return goes with the line, where it separates nothing.
    refine ⟨linesTokens (number + 1) (Text.lines rest), fun line single => ?_⟩
    have ended : '\n' ∉ line ++ ['\r'] := by simpa using single
    have moved : line ++ (['\r', '\n'] ++ rest) = line ++ ['\r'] ++ '\n' :: rest := by simp
    rw [moved, fed ended, lineTokens_concat_separator (by decide)]

/-- Around a line there are the same tokens, whatever the line. -/
theorem exists_tokens_around (starts : before = [] ∨ ['\n'] <:+ before)
    (ends : after = [] ∨ ['\n'] <+: after ∨ ['\r', '\n'] <+: after) :
    ∃ ahead number behind, ∀ line, '\n' ∉ line →
      linesTokens 1 (Text.lines (before ++ line ++ after)) =
        ahead ++ lineTokens number line ++ behind := by
  rcases starts with rfl | ⟨before, rfl⟩
  · obtain ⟨behind, tokens⟩ := exists_tokens_behind 1 ends
    exact ⟨[], 1, behind, tokens⟩
  · obtain ⟨behind, tokens⟩ := exists_tokens_behind (1 + (before.count '\n' + 1)) ends
    refine ⟨linesTokens 1 (Text.lines before), 1 + (before.count '\n' + 1), behind,
      fun line single => ?_⟩
    have moved : before ++ ['\n'] ++ line ++ after = before ++ '\n' :: (line ++ after) := by simp
    rw [moved, Text.lines, linesTokens_linesFrom_append, tokens line single, ← Text.lines,
      List.append_assoc]

/-- The tokens of a text that is given by its characters. -/
private theorem tokenize_ofList (text : List Char) :
    tokenize (String.ofList text) = linesTokens 1 (Text.lines text) := by
  rw [tokenize, String.toList_ofList]

/-- **Comments and commas carry no meaning.** A line can be written without its comment, with blanks
for commas and with any other comment, and all tokens of the text stay as they are, wherever the
line stands; and every line of a text stands somewhere in it. No line is affected by another one:
the tokens of two texts with a line feed between them are those of the first, and then those of the
second, further down by the lines of the first. -/
theorem comments_and_commas_idle :
    (∀ before line after front comment : List Char, IsLine before line after →
      CodeOf line front → '\n' ∉ comment →
        tokenize (String.ofList (before ++ recommented front comment ++ after)) =
          tokenize (String.ofList (before ++ line ++ after))) ∧
    (∀ (source : String) (k : Nat) (line : List Char), (Text.lines source.toList)[k]? = some line →
      ∃ before after front, source = String.ofList (before ++ line ++ after) ∧
        before.count '\n' = k ∧ IsLine before line after ∧ CodeOf line front) ∧
    ∀ first second : String, tokenize (first ++ "\n" ++ second) =
      tokenize first ++ (tokenize second).map (Token.lowered (first.toList.count '\n' + 1)) := by
  refine ⟨fun before line after front comment isLine codeOf single => ?_,
    fun source k line found => ?_, tokenize_append_newline⟩
  · -- The new line is a single line too: no character of the code becomes a line feed.
    have newSingle : '\n' ∉ recommented front comment := by
      obtain ⟨⟨rest, rfl, -⟩, -⟩ := codeOf
      have code : '\n' ∉ front := fun feed => isLine.single (List.mem_append_left _ feed)
      rw [recommented, List.mem_append, List.mem_map, List.mem_cons]
      rintro (⟨c, hc, same⟩ | same | feed)
      · rw [spaced_eq_iff (by decide) (by decide)] at same
        exact code (same ▸ hc)
      · cases same
      · exact single feed
    -- Both texts have the same tokens before and behind the line, so only the line itself counts.
    obtain ⟨ahead, number, behind, tokens⟩ := exists_tokens_around isLine.starts isLine.ends
    rw [tokenize_ofList, tokenize_ofList, tokens _ newSingle, tokens line isLine.single,
      lineTokens_recommented codeOf]
  · obtain ⟨before, after, same, count, isLine⟩ := exists_isLine found
    refine ⟨before, after, code line, ?_, count, isLine, codeOf_iff.mpr rfl⟩
    rw [← same, String.ofList_toList]

/-- A line whose code ends with a lone slash. It is ended by a carriage return and a line feed, and
its comment has other marks of a comment in it. -/
theorem comments_and_commas_idle_lone_slash :
    let before := "NOP\n".toList
    let line := "loop: MOV R0,5,/#x // y; z".toList
    let front := "loop: MOV R0,5,/".toList
    let comment := "/ five, # not six".toList
    let after := "\r\nHALT".toList
    let source := String.ofList (before ++ line ++ after)
    IsLine before line after ∧ CodeOf line front ∧ '\n' ∉ comment ∧
      recommented front comment = "loop: MOV R0 5 /;/ five, # not six".toList ∧
      tokenize (String.ofList (before ++ recommented front comment ++ after)) = tokenize source ∧
      (Text.lines source.toList)[1]? = some line ∧
      ∃ before after front, source = String.ofList (before ++ line ++ after) ∧
        before.count '\n' = 1 ∧ IsLine before line after ∧ CodeOf line front := by
  intro before line front comment after source
  have isLine : IsLine before line after := ⟨.inr (by decide), by decide, .inr (.inr (by decide))⟩
  have codeOf : CodeOf line front := codeOf_iff.mpr (by decide)
  have single : '\n' ∉ comment := by decide
  have found : (Text.lines source.toList)[1]? = some line := by decide
  obtain ⟨idle, everyLine, -⟩ := comments_and_commas_idle
  exact ⟨isLine, codeOf, single, by decide,
    idle before line after front comment isLine codeOf single, found,
    everyLine source 1 line found⟩

end TankDuel.Assembly

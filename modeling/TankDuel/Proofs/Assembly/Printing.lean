import Mathlib.Data.List.Basic
import TankDuel.Assembly.Compile
import TankDuel.Proofs.Assembly.Lexing
import TankDuel.Proofs.Text.Lines

/-!
# Tokens written and read again

A source text can be written anew from its tokens alone: every token on its line as an author would
write it, with single blanks in between. Comments, commas, signs that are not needed and the case of
opcodes are lost, and the tokens are the same (`tokenize_of_lines_eq_printedLines`).

Three things have to be seen.

* **Lexemes.** What is cut out of a line is `Solid`: no character in it could cut it again or start
  a comment, except for a colon at its end (`solid_of_mem_lexemes`). So solid words with blanks
  between them are the lexemes of their line (`spaced_intercalate`).
* **Kinds.** A token is written as the lexeme that it comes from, or, if it is an opcode or a
  number, as a plain word that is taken for the same token in the same place (`text_ofLexeme`). What
  stands in front of it is of the same kind as before, so it is again at the head of an instruction
  or not.
* **Lines.** A text is known by the tokens on each of its lines (`linesTokens_congr`), and lines
  without tokens at the end of the text make no difference.
-/

namespace TankDuel.Assembly

/-! ### What has no comment in it -/

/-- Nothing in a text starts a comment. -/
def Uncommented (cs : List Char) : Prop := code cs = cs

variable {c : Char} {cs ds word held : List Char}

/-- A text without comments has none at its first character and none behind it. -/
theorem uncommented_cons_iff :
    Uncommented (c :: cs) ↔
      c ≠ ';' ∧ c ≠ '#' ∧ ¬(c = '/' ∧ cs.head? = some '/') ∧ Uncommented cs := by
  unfold Uncommented
  by_cases mark : c = ';' ∨ c = '#'
  · rw [code, if_pos (by simpa using mark)]
    rcases mark with rfl | rfl <;> simp
  · obtain ⟨semicolon, hash⟩ := not_or.mp mark
    by_cases slashes : c = '/' ∧ cs.head? = some '/'
    · rw [code, if_neg (by simpa using mark), if_pos (by simpa using slashes)]
      simp [slashes]
    · rw [code, if_neg (by simpa using mark), if_neg (by simpa using slashes)]
      simp [semicolon, hash, slashes]

/-- What stands before the comment has none. -/
theorem uncommented_code (cs : List Char) : Uncommented (code cs) := by
  induction cs with
  | nil => rfl
  | cons c cs ih =>
    rw [code]
    split
    next => rfl
    next mark =>
      split
      next => rfl
      next slashes =>
        obtain ⟨semicolon, hash⟩ : c ≠ ';' ∧ c ≠ '#' := by simpa using mark
        refine uncommented_cons_iff.mpr ⟨semicolon, hash, ?_, ih⟩
        -- What is left of the text begins as before, if it begins with a slash.
        rintro ⟨slash, next⟩
        have same : cs.head? = some '/' := by
          cases cs with
          | nil => exact next
          | cons d cs =>
            rw [code] at next
            split at next
            · exact absurd next (by simp)
            · split at next
              · exact absurd next (by simp)
              · exact next
        exact slashes (by simp [slash, same])

/-- Both parts of a text without comments have none. -/
theorem Uncommented.of_append (h : Uncommented (cs ++ ds)) : Uncommented cs ∧ Uncommented ds := by
  induction cs with
  | nil => exact ⟨rfl, h⟩
  | cons c cs ih =>
    rw [List.cons_append] at h
    obtain ⟨semicolon, hash, slashes, rest⟩ := uncommented_cons_iff.mp h
    refine ⟨uncommented_cons_iff.mpr ⟨semicolon, hash, ?_, (ih rest).1⟩, (ih rest).2⟩
    rintro ⟨slash, next⟩
    exact slashes ⟨slash, by rw [List.head?_append, next, Option.some_or]⟩

/-- A blank keeps two slashes apart. -/
theorem Uncommented.append_blank (front : Uncommented cs) (back : Uncommented ds) :
    Uncommented (cs ++ ' ' :: ds) := by
  induction cs with
  | nil => exact uncommented_cons_iff.mpr ⟨by decide, by decide, by simp, back⟩
  | cons c cs ih =>
    obtain ⟨semicolon, hash, slashes, rest⟩ := uncommented_cons_iff.mp front
    rw [List.cons_append]
    refine uncommented_cons_iff.mpr ⟨semicolon, hash, ?_, ih rest⟩
    rintro ⟨slash, next⟩
    cases cs with
    | nil => exact absurd (Option.some.inj next) (by decide)
    | cons d cs => exact slashes ⟨slash, next⟩

/-! ### Lexemes -/

/-- A word that no lexer state can take apart: there is no separator in it, no start of a comment,
and no colon but at its end. -/
structure Solid (word : List Char) : Prop where
  ne_nil : word ≠ []
  unseparated : ∀ c ∈ word, isSeparator c = false
  colon : ':' ∉ word.dropLast
  uncommented : Uncommented word

/-- Characters that can be held make a solid word, with a colon behind them or not. -/
private theorem solid_of_uncut (uncut : ∀ c ∈ word, isSeparator c = false ∧ c ≠ ':')
    (ne_nil : word ≠ []) (uncommented : Uncommented word) : Solid word :=
  ⟨ne_nil, fun c hc => (uncut c hc).1,
    fun inside => (uncut ':' (List.dropLast_subset _ inside)).2 rfl, uncommented⟩

/-- A plain word is solid. -/
theorem Plain.solid (plain : Plain word) : Solid word :=
  solid_of_uncut
    (fun c hc => ⟨isSeparator_of_isPlain (plain.isPlain c hc),
      ne_colon_of_isPlain (plain.isPlain c hc)⟩)
    plain.ne_nil (code_eq_self plain.line)

/-- **Lexemes are solid**, if nothing starts a comment. -/
theorem solid_of_mem_lexemesFrom (uncut : ∀ c ∈ held, isSeparator c = false ∧ c ≠ ':')
    (uncommented : Uncommented (held.reverse ++ cs)) (h : word ∈ lexemesFrom held cs) :
    Solid word := by
  -- The characters that are held are part of the text that is left.
  have released {held : List Char} (uncut : ∀ c ∈ held, isSeparator c = false ∧ c ≠ ':')
      (uncommented : Uncommented held.reverse) (h : word ∈ release held) : Solid word := by
    unfold release at h
    split at h
    · exact absurd h List.not_mem_nil
    next nonempty =>
      obtain rfl := List.mem_singleton.mp h
      exact solid_of_uncut (fun c hc => uncut c (List.mem_reverse.mp hc))
        (by simpa using nonempty) uncommented
  induction cs generalizing held with
  | nil => exact released uncut (by simpa using uncommented) h
  -- What is held goes into the induction: each character of the text is held or ends a lexeme.
  | cons c cs ih =>
    obtain ⟨before, behind⟩ := uncommented.of_append
    have rest : Uncommented cs := (uncommented_cons_iff.mp behind).2.2.2
    rw [lexemesFrom] at h
    split at h
    next =>
      rcases List.mem_append.mp h with here | later
      · exact released uncut before here
      · exact @ih [] (List.forall_mem_nil _) rest later
    next solid =>
      have solid : isSeparator c = false := by simpa using solid
      split at h
      next colon =>
        rcases List.mem_cons.mp h with rfl | later
        · have whole : Uncommented (held.reverse ++ [c]) := by
            rw [← List.singleton_append, ← List.append_assoc] at uncommented
            exact uncommented.of_append.1
          refine ⟨by simp, fun d hd => ?_, ?_, by rwa [List.reverse_cons]⟩
          · rcases List.mem_cons.mp (List.mem_reverse.mp hd) with rfl | hd
            · exact solid
            · exact (uncut d hd).1
          · rw [List.reverse_cons, List.dropLast_concat]
            exact fun inside => (uncut ':' (List.mem_reverse.mp inside)).2 rfl
        · exact @ih [] (List.forall_mem_nil _) rest later
      next colon =>
        refine @ih (c :: held) (fun d hd => ?_) ?_ h
        · rcases List.mem_cons.mp hd with rfl | hd
          · exact ⟨solid, colon⟩
          · exact uncut d hd
        · rwa [List.reverse_cons, List.append_assoc, List.singleton_append]

/-- The words of a line are solid. -/
theorem solid_of_mem_lexemes (h : word ∈ lexemes (code cs)) : Solid word :=
  @solid_of_mem_lexemesFrom _ _ [] (List.forall_mem_nil _) (uncommented_code cs) h

/-- A solid word is cut off as it is, if a separator follows or nothing. -/
theorem Solid.lexemes_append (solid : Solid word) (rest : List Char)
    (ends : ∀ c ∈ rest.head?, isSeparator c) : lexemes (word ++ rest) = word :: lexemes rest := by
  -- Everything is held up to the last character.
  obtain ⟨front, last, rfl⟩ := (List.eq_nil_or_concat' word).resolve_left solid.ne_nil
  have uncut : ∀ c ∈ front, isSeparator c = false ∧ c ≠ ':' := by
    intro c hc
    refine ⟨solid.unseparated c (List.mem_append_left _ hc), ?_⟩
    rintro rfl
    exact solid.colon (by rwa [List.dropLast_concat])
  have lastSolid : isSeparator last = false :=
    solid.unseparated last (List.mem_append_right _ (List.mem_singleton_self last))
  have released : release (last :: front.reverse) = [front ++ [last]] := by
    rw [release, if_neg (by simp), List.reverse_cons, List.reverse_reverse]
  rw [lexemes, List.append_assoc, lexemesFrom_append_of_uncut uncut, List.append_nil,
    List.singleton_append, lexemesFrom, lastSolid, if_neg Bool.false_ne_true]
  split
  next => rw [List.reverse_cons, List.reverse_reverse, lexemes]
  next =>
    cases rest with
    | nil =>
      rw [lexemesFrom, released]
      rfl
    | cons c rest =>
      have separates := ends c rfl
      rw [lexemesFrom, if_pos separates, released, lexemes, lexemesFrom, if_pos separates]
      rfl

variable {words : List (List Char)}

/-- A line without a comment that blanks alone cut into words. -/
structure Spaced (words : List (List Char)) (line : List Char) : Prop where
  lexemes : lexemes line = words
  uncommented : Uncommented line
  blank : ∀ c ∈ line, isSeparator c → c = ' '

namespace Spaced

variable {line : List Char}

/-- No words are an empty line. -/
theorem nil : Spaced [] [] := ⟨rfl, rfl, nofun⟩

/-- One word is a line. -/
theorem single (solid : Solid word) : Spaced [word] word where
  lexemes := by
    have alone := solid.lexemes_append [] nofun
    rwa [List.append_nil] at alone
  uncommented := solid.uncommented
  blank c hc separates := absurd separates (by rw [solid.unseparated c hc]; decide)

/-- A word and a blank come before a line. -/
theorem cons (solid : Solid word) (spaced : Spaced words line) :
    Spaced (word :: words) (word ++ ' ' :: line) where
  lexemes := by
    -- The blank ends the word, and it adds no word itself.
    have separates : ∀ c ∈ (' ' :: line).head?, isSeparator c := by
      rintro _ ⟨⟩
      decide
    have blank : Assembly.lexemes (' ' :: line) = Assembly.lexemes line := by
      rw [Assembly.lexemes, lexemesFrom, if_pos (by decide)]
      rfl
    rw [solid.lexemes_append _ separates, blank, spaced.lexemes]
  uncommented := solid.uncommented.append_blank spaced.uncommented
  blank c hc separates := by
    rcases List.mem_append.mp hc with front | back
    · exact absurd separates (by rw [solid.unseparated c front]; decide)
    · rcases List.mem_cons.mp back with here | later
      · exact here
      · exact spaced.blank c later separates

/-- Nothing ends the line before its end. -/
theorem clean (spaced : Spaced words line) : '\n' ∉ line ∧ line.getLast? ≠ some '\r' :=
  ⟨fun feed => absurd (spaced.blank _ feed (by decide)) (by decide),
    fun last => absurd (spaced.blank _ (List.mem_of_getLast? last) (by decide)) (by decide)⟩

end Spaced

/-- **Solid words with blanks between them** are cut into just these words. -/
theorem spaced_intercalate (solid : ∀ word ∈ words, Solid word) :
    Spaced words (List.intercalate [' '] words) := by
  induction words with
  | nil => exact .nil
  | cons word words ih =>
    have here := solid word List.mem_cons_self
    have more := ih fun w hw => solid w (List.mem_cons_of_mem _ hw)
    cases words with
    | nil =>
      rw [List.intercalate_singleton]
      exact .single here
    | cons next words =>
      rw [List.intercalate_cons_cons, List.append_assoc]
      exact .cons here more

/-! ### Kinds -/

/-- What is written for a word that defines no label is the word, if it is taken for neither a
number nor an opcode. -/
private theorem text_ofWord (atHead : Bool) (word : List Char) :
    (Token.Kind.ofWord atHead word).text.toList = word ∨
      (∃ value, Token.Kind.ofWord atHead word = .number value) ∨
        atHead = true ∧ ∃ opcode, Token.Kind.ofWord atHead word = .opcode opcode := by
  unfold Token.Kind.ofWord
  dsimp only
  split
  · split
    · exact .inr (.inl ⟨_, rfl⟩)
    · exact .inl String.toList_ofList
  · split
    · exact .inl String.toList_ofList
    · split
      · exact .inr (.inr ⟨rfl, _, rfl⟩)
      · exact .inl String.toList_ofList

/-- **What is written for a token** is the lexeme that it comes from, or a plain word that is taken
for the same token in the same place. -/
theorem text_ofLexeme (atHead : Bool) (word : List Char) :
    (Token.Kind.ofLexeme atHead word).text.toList = word ∨
      Plain (Token.Kind.ofLexeme atHead word).text.toList ∧
        Token.Kind.ofWord atHead (Token.Kind.ofLexeme atHead word).text.toList =
          Token.Kind.ofLexeme atHead word := by
  unfold Token.Kind.ofLexeme
  split
  next name named =>
    -- The name of a label and its colon are all of the lexeme.
    left
    rw [labelName?] at named
    split at named
    next label =>
      obtain ⟨last, -⟩ := Bool.and_eq_true_iff.mp label
      obtain rfl := Option.some.inj named
      rw [Token.Kind.text, String.toList_append, String.toList_ofList]
      exact List.dropLast_append_getLast? ':' (of_decide_eq_true last)
    next => exact absurd named (by simp)
  next =>
    rcases text_ofWord atHead word with same | ⟨value, number⟩ | ⟨rfl, opcode, mnemonic⟩
    · exact .inl same
    · rw [number]
      exact .inr ⟨plain_toString value.toInt, ofWord_number atHead value⟩
    · rw [mnemonic]
      exact .inr ⟨plain_mnemonic opcode, ofWord_mnemonic opcode⟩

/-- What is written for a token is taken for this token, in the same place. -/
private theorem ofLexeme_text (atHead : Bool) (word : List Char) :
    Token.Kind.ofLexeme atHead (Token.Kind.ofLexeme atHead word).text.toList =
      Token.Kind.ofLexeme atHead word := by
  rcases text_ofLexeme atHead word with same | ⟨plain, read⟩
  · rw [same]
  -- A plain word defines no label.
  · generalize Token.Kind.ofLexeme atHead word = kind at plain read
    rw [Token.Kind.ofLexeme, plain.labelName?_eq_none]
    exact read

/-- A token of a solid word is written as a solid word. -/
theorem Solid.text (solid : Solid word) (atHead : Bool) :
    Solid (Token.Kind.ofLexeme atHead word).text.toList := by
  rcases text_ofLexeme atHead word with same | ⟨plain, -⟩
  · rwa [same]
  · exact plain.solid

/-- The tokens of solid words are written as solid words. -/
private theorem solid_of_mem_kindsOf {atHead : Bool} {kind : Token.Kind}
    (solid : ∀ word ∈ words, Solid word) (h : kind ∈ kindsOf atHead words) :
    Solid kind.text.toList := by
  induction words generalizing atHead with
  | nil => exact absurd h List.not_mem_nil
  | cons word words ih =>
    rcases List.mem_cons.mp h with rfl | later
    · exact (solid word List.mem_cons_self).text atHead
    · exact ih (fun w hw => solid w (List.mem_cons_of_mem _ hw)) later

/-- **Kinds that are written are read again.** Each one is followed by the same kinds as before, so
it leaves the reader at the head of an instruction or not, as before. -/
theorem kindsOf_text (atHead : Bool) (words : List (List Char)) :
    kindsOf atHead ((kindsOf atHead words).map fun kind => kind.text.toList) =
      kindsOf atHead words := by
  induction words generalizing atHead with
  | nil => rfl
  | cons word words ih => rw [kindsOf, List.map_cons, kindsOf, ofLexeme_text, ih]

/-! ### Lines -/

/-- Tokens on a line, with single blanks between them. -/
def written (tokens : List Token) : List Char :=
  List.intercalate [' '] (tokens.map fun t => t.text.toList)

/-- The line with a number, written from its tokens. -/
def printedLine (tokens : List Token) (number : Nat) : List Char :=
  written (tokens.filter fun t => t.line = number)

/-- The last line with a token on it; zero if there is no token. -/
def lastLine (tokens : List Token) : Nat := ((tokens.map Token.line).max?).getD 0

/-- The lines of a text, up to the last one with a token on it. -/
def printedLines (tokens : List Token) : List (List Char) :=
  (List.range' 1 (lastLine tokens)).map (printedLine tokens)

/-- A text that is written from tokens, each line ended by a line feed. -/
def printed (tokens : List Token) : String := String.ofList (Text.unlines (printedLines tokens))

/-- The tokens of a line are written as solid words. -/
private theorem solid_of_mem_lineTokens {number : Nat} {text : List Char} {t : Token}
    (h : t ∈ lineTokens number text) : Solid t.text.toList := by
  obtain ⟨kind, here, rfl⟩ := List.mem_map.mp h
  exact solid_of_mem_kindsOf (fun _ => solid_of_mem_lexemes) here

/-- The tokens of a line are written with blanks between them. -/
private theorem spaced_written (number : Nat) (text : List Char) :
    Spaced ((lineTokens number text).map fun t => t.text.toList)
      (written (lineTokens number text)) := by
  refine spaced_intercalate fun word hw => ?_
  obtain ⟨t, ht, rfl⟩ := List.mem_map.mp hw
  exact solid_of_mem_lineTokens ht

/-- **A line that is written from its tokens** has these tokens. -/
theorem lineTokens_written (number : Nat) (text : List Char) :
    lineTokens number (written (lineTokens number text)) = lineTokens number text := by
  have spaced := spaced_written number text
  rw [lineTokens, spaced.uncommented, spaced.lexemes, lineTokens, List.map_map]
  exact congrArg (List.map _) (kindsOf_text true (lexemes (code text)))

/-- The tokens on one line of a text. -/
private theorem filter_linesTokens (first : Nat) (ls : List (List Char)) (i : Nat) :
    (linesTokens first ls).filter (fun t => t.line = first + i) =
      lineTokens (first + i) (ls[i]?.getD []) := by
  induction ls generalizing first i with
  | nil => rfl
  | cons text ls ih =>
    rw [linesTokens, List.filter_append]
    cases i with
    | zero =>
      -- The first line is asked for, and all later tokens have greater line numbers.
      have here : (lineTokens first text).filter (fun t => t.line = first + 0) =
          lineTokens first text := by
        refine List.filter_eq_self.mpr fun t ht => ?_
        obtain ⟨kind, -, rfl⟩ := List.mem_map.mp ht
        exact decide_eq_true rfl
      have later : (linesTokens (first + 1) ls).filter (fun t => t.line = first + 0) = [] := by
        refine List.filter_eq_nil_iff.mpr fun t ht same => ?_
        have := le_line_of_mem_linesTokens ht
        have := of_decide_eq_true same
        omega
      rw [here, later, List.append_nil]
      rfl
    | succ i =>
      have here : (lineTokens first text).filter (fun t => t.line = first + (i + 1)) = [] := by
        refine List.filter_eq_nil_iff.mpr fun t ht same => ?_
        obtain ⟨kind, -, rfl⟩ := List.mem_map.mp ht
        have : first = first + (i + 1) := of_decide_eq_true same
        omega
      -- A later line is asked for, and the numbers of the others start one further on.
      have next : first + (i + 1) = first + 1 + i := by omega
      rw [here, List.nil_append, next, ih, List.getElem?_cons_succ]

/-- The tokens of some lines, line by line, where there may be more numbers than lines. -/
private theorem linesTokens_eq_flatMap {count : Nat} {ls : List (List Char)}
    (enough : ls.length ≤ count) (first : Nat) :
    linesTokens first ls =
      (List.range count).flatMap fun i => lineTokens (first + i) (ls[i]?.getD []) := by
  induction ls generalizing first count with
  | nil => exact (List.flatMap_eq_nil_iff.mpr fun _ _ => rfl).symm
  | cons text ls ih =>
    obtain ⟨count, rfl⟩ : ∃ m, count = m + 1 :=
      Nat.exists_eq_add_one.mpr (Nat.lt_of_lt_of_le (Nat.succ_pos _) enough)
    rw [linesTokens, ih (Nat.le_of_succ_le_succ enough), List.range_succ_eq_map, List.flatMap_cons,
      List.flatMap_map]
    refine congrArg (lineTokens first text ++ ·) ?_
    refine List.flatMap_congr fun i _ => ?_
    rw [Nat.succ_eq_add_one, List.getElem?_cons_succ, Nat.add_assoc, Nat.add_comm 1 i]

/-- **A text is known by the tokens on each of its lines.** -/
theorem linesTokens_congr {first : Nat} {ls ls' : List (List Char)}
    (same : ∀ i, lineTokens (first + i) (ls[i]?.getD []) =
      lineTokens (first + i) (ls'[i]?.getD [])) :
    linesTokens first ls = linesTokens first ls' := by
  rw [linesTokens_eq_flatMap (Nat.le_max_left _ ls'.length),
    linesTokens_eq_flatMap (Nat.le_max_right ls.length _)]
  exact List.flatMap_congr fun i _ => same i

/-- No token stands behind the last line. -/
private theorem line_le_lastLine {tokens : List Token} {t : Token} (h : t ∈ tokens) :
    t.line ≤ lastLine tokens :=
  List.le_max?_getD_of_mem (List.mem_map_of_mem h)

/-- The printed line with a given number, which is empty behind the last one. -/
private theorem getElem?_printedLines (tokens : List Token) (i : Nat) :
    (printedLines tokens)[i]?.getD [] = printedLine tokens (1 + i) := by
  rw [printedLines, List.getElem?_map]
  by_cases inside : i < lastLine tokens
  · rw [List.getElem?_range' inside, Nat.one_mul]
    rfl
  -- Behind the last line that is written there is nothing, and there is no token either.
  · have noTokens : (tokens.filter fun t => t.line = 1 + i) = [] := by
      refine List.filter_eq_nil_iff.mpr fun t ht same => ?_
      have := line_le_lastLine ht
      have := of_decide_eq_true same
      omega
    rw [printedLine, noTokens, List.getElem?_eq_none (by simpa using inside)]
    rfl

/-- The lines that are written for the tokens of a text have these tokens. -/
private theorem linesTokens_printedLines (ls : List (List Char)) :
    linesTokens 1 (printedLines (linesTokens 1 ls)) = linesTokens 1 ls := by
  refine linesTokens_congr fun i => ?_
  rw [getElem?_printedLines, printedLine, filter_linesTokens, lineTokens_written]

/-- Nothing that is written on a line ends it. -/
private theorem clean_of_mem_printedLines {ls : List (List Char)} {line : List Char}
    (h : line ∈ printedLines (linesTokens 1 ls)) : '\n' ∉ line ∧ line.getLast? ≠ some '\r' := by
  obtain ⟨number, inside, rfl⟩ := List.mem_map.mp h
  obtain ⟨i, -, rfl⟩ := List.mem_range'.mp inside
  rw [Nat.one_mul, printedLine, filter_linesTokens]
  exact (spaced_written (1 + i) (ls[i]?.getD [])).clean

/-- **Tokens that are written and read again** are the same, with the same line numbers. The lines
that are written for the tokens of a source text are the lines of some text, `printed`; and every
text with these lines, however they are ended, has the tokens of the source, and so it is the same
program or has the same fault. -/
theorem tokenize_of_lines_eq_printedLines (source : String) :
    Text.lines (printed (tokenize source)).toList = printedLines (tokenize source) ∧
      ∀ text : String, Text.lines text.toList = printedLines (tokenize source) →
        tokenize text = tokenize source ∧ compile text = compile source := by
  have lines : Text.lines (printed (tokenize source)).toList = printedLines (tokenize source) := by
    rw [printed, String.toList_ofList]
    exact Text.lines_unlines fun line => clean_of_mem_printedLines
  -- The tokens of a text depend on its lines alone.
  refine ⟨lines, fun text same => ?_⟩
  have tokens : tokenize text = tokenize source := by
    rw [tokenize, same]
    exact linesTokens_printedLines (Text.lines source.toList)
  exact ⟨tokens, congrArg parse tokens⟩

/-- A sign and zeros that are not needed, small letters, comments, a comma, an empty line and a
number that is too large; the text that is read again has no line feed at its end. -/
theorem tokenize_of_lines_eq_printedLines_unkempt :
    let source := "mov cmp, +007 // tail\r\n\n5: loop:cmp a,-0;x\n : a/ /b 4294967296 #\n\n"
    let text := "MOV cmp 7\n\n5: loop: CMP a 0\n: a/ /b 4294967296"
    Text.lines text.toList = printedLines (tokenize source) ∧
      tokenize text = tokenize source ∧ compile text = compile source := by
  intro source text
  have lines : Text.lines text.toList = printedLines (tokenize source) := by decide +kernel
  exact ⟨lines, (tokenize_of_lines_eq_printedLines source).2 text lines⟩

end TankDuel.Assembly

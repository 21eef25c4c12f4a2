import Mathlib.Data.List.Basic
import TankDuel.Assembly.Token
import TankDuel.Proofs.Text.Decimal

/-!
# Reading the tokens of a plain line

A **plain** word is made of ASCII letters, digits, underscores and minus signs. What a listing shows
on a line is such a word with a colon, or a word with others behind it that are separated by commas.
Nothing there starts a comment or cuts a word, so the lexemes are the words that the line was made
of (`lexemes_instructionLine`), and the tokens are read off them one by one:

* `lineTokens_label` — the definition of a label is one token;
* `lineTokens_instruction` — an opcode and its operands are one token each.

What a word is taken for is said at the end, for identifiers and for numbers. In the other
direction, whatever text there is, the names in its tokens are identifiers
(`isIdentifier_of_mem_linesTokens`).
-/

namespace TankDuel.Assembly

/-! ### Plain words -/

/-- A character of a plain word. -/
def isPlain (c : Char) : Bool := c.isAlphanum || c = '_' || c = '-'

/-- A word of plain characters, at least one. -/
structure Plain (word : List Char) : Prop where
  ne_nil : word ≠ []
  all : word.all isPlain

variable {c : Char} {word : List Char}

/-- All characters of a plain word are plain. -/
theorem Plain.isPlain (plain : Plain word) : ∀ c ∈ word, isPlain c := List.all_eq_true.mp plain.all

/-- The code points of the letters. -/
private theorem isAlpha_iff_toNat :
    c.isAlpha ↔ 65 ≤ c.toNat ∧ c.toNat ≤ 90 ∨ 97 ≤ c.toNat ∧ c.toNat ≤ 122 := by
  change (decide ('A'.val ≤ c.val ∧ c.val ≤ 'Z'.val) ||
    (decide ('a'.val ≤ c.val) && decide (c.val ≤ 'z'.val))) = true ↔ _
  simp only [Bool.or_eq_true, Bool.and_eq_true, decide_eq_true_iff, UInt32.le_iff_toNat_le]
  rfl

/-- The code points of the digits. -/
theorem isDigit_iff_toNat : c.isDigit ↔ 48 ≤ c.toNat ∧ c.toNat ≤ 57 := by
  rw [Char.isDigit, Bool.and_eq_true, decide_eq_true_iff, decide_eq_true_iff, ge_iff_le,
    UInt32.le_iff_toNat_le, UInt32.le_iff_toNat_le]
  rfl

/-- Plain characters lie between the hyphen and the letter z. -/
private theorem toNat_of_isPlain (plain : isPlain c) : 45 ≤ c.toNat ∧ c.toNat ≤ 122 := by
  simp only [isPlain, Char.isAlphanum, Bool.or_eq_true, decide_eq_true_iff, isAlpha_iff_toNat,
    isDigit_iff_toNat] at plain
  rcases plain with (letter | rfl) | rfl
  · omega
  · decide
  · decide

/-- Digits are plain. -/
theorem isPlain_of_isDigit (digit : c.isDigit) : isPlain c := by
  rw [isPlain, Char.isAlphanum, digit, Bool.or_true]
  rfl

/-- No plain character is a blank. -/
private theorem isBlank_of_isPlain (plain : isPlain c) : Text.isBlank c = false := by
  have := toNat_of_isPlain plain
  simp only [Text.isBlank, Bool.or_eq_false_iff, Bool.and_eq_false_iff, beq_eq_false_iff_ne,
    decide_eq_false_iff_not]
  omega

/-- No plain character separates words. -/
theorem isSeparator_of_isPlain (plain : isPlain c) : isSeparator c = false := by
  rw [isSeparator, isBlank_of_isPlain plain, Bool.false_or, decide_eq_false_iff_not]
  rintro rfl
  exact absurd plain (by decide)

/-! ### Lexemes -/

/-- A character that stands beside plain words. -/
def isMark (c : Char) : Bool := c = ' ' || c = ',' || c = ':' || c = '@'

/-- A line of plain characters and marks. -/
def PlainLine (line : List Char) : Prop := ∀ c ∈ line, isPlain c ∨ isMark c

/-- Whether a line is plain can be checked. -/
instance (line : List Char) : Decidable (PlainLine line) :=
  decidable_of_iff (line.all fun c => isPlain c || isMark c) (by simp [PlainLine])

/-- A plain word is a plain line. -/
theorem Plain.line (plain : Plain word) : PlainLine word := fun c hc => .inl (plain.isPlain c hc)

/-- Two plain lines in a row are one. -/
theorem PlainLine.append {line rest : List Char} (plain : PlainLine line)
    (plainRest : PlainLine rest) : PlainLine (line ++ rest) := by
  intro c hc
  rcases List.mem_append.mp hc with hc | hc
  · exact plain c hc
  · exact plainRest c hc

/-- A plain word with a colon is a plain line. -/
theorem Plain.label_line (plain : Plain word) : PlainLine (word ++ [':']) := by
  have colon : PlainLine [':'] := by decide
  exact plain.line.append colon

/-- A plain line is a single line. -/
theorem PlainLine.clean {line : List Char} (plain : PlainLine line) :
    '\n' ∉ line ∧ line.getLast? ≠ some '\r' :=
  ⟨fun feed => absurd (plain _ feed) (by decide),
    fun last => absurd (plain _ (List.mem_of_getLast? last)) (by decide)⟩

/-- Nothing in a plain line starts a comment. -/
theorem code_eq_self {line : List Char} (plain : PlainLine line) : code line = line := by
  induction line with
  | nil => rfl
  | cons c line ih =>
    obtain ⟨semicolon, hash, slash⟩ : c ≠ ';' ∧ c ≠ '#' ∧ c ≠ '/' := by
      have here := plain c List.mem_cons_self
      refine ⟨?_, ?_, ?_⟩ <;>
      · rintro rfl
        exact absurd here (by decide)
    rw [code, if_neg (by simp [semicolon, hash]), if_neg (by simp [slash]),
      ih fun d hd => plain d (List.mem_cons_of_mem _ hd)]

/-- Characters are held until a separator or a colon comes. -/
theorem lexemesFrom_append_of_uncut (uncut : ∀ c ∈ word, isSeparator c = false ∧ c ≠ ':')
    (held rest : List Char) :
    lexemesFrom held (word ++ rest) = lexemesFrom (word.reverse ++ held) rest := by
  induction word generalizing held with
  | nil => rfl
  | cons c word ih =>
    obtain ⟨solid, colon⟩ := uncut c List.mem_cons_self
    rw [List.cons_append, lexemesFrom, solid, if_neg Bool.false_ne_true, if_neg colon,
      ih fun d hd => uncut d (List.mem_cons_of_mem _ hd), List.reverse_cons, List.append_assoc,
      List.singleton_append]

/-- The colon is not plain. -/
theorem ne_colon_of_isPlain (plain : isPlain c) : c ≠ ':' := by
  rintro rfl
  exact absurd plain (by decide)

/-- The characters of a plain word are held until something else comes. -/
private theorem lexemesFrom_append (plain : ∀ c ∈ word, isPlain c) (held rest : List Char) :
    lexemesFrom held (word ++ rest) = lexemesFrom (word.reverse ++ held) rest :=
  lexemesFrom_append_of_uncut
    (fun c hc => ⟨isSeparator_of_isPlain (plain c hc), ne_colon_of_isPlain (plain c hc)⟩) held rest

namespace Plain

/-- A plain word that has been read is released as it is. -/
theorem release (plain : Plain word) : release word.reverse = [word] := by
  rw [Assembly.release, if_neg (by simpa using plain.ne_nil), List.reverse_reverse]

/-- A plain word is one word. -/
theorem lexemes (plain : Plain word) : lexemes word = [word] := by
  rw [Assembly.lexemes, ← List.append_nil word, lexemesFrom_append plain.isPlain, List.append_nil,
    List.append_nil, lexemesFrom, plain.release]

/-- A plain word ends at the next separator. -/
private theorem lexemes_separator (plain : Plain word) {c : Char} (separates : isSeparator c)
    (rest : List Char) :
    Assembly.lexemes (word ++ c :: rest) = word :: Assembly.lexemes rest := by
  rw [Assembly.lexemes, lexemesFrom_append plain.isPlain, List.append_nil, lexemesFrom,
    if_pos separates, plain.release, List.singleton_append, Assembly.lexemes]

/-- A plain word and the colon behind it are one word. -/
private theorem lexemes_colon (plain : Plain word) :
    Assembly.lexemes (word ++ [':']) = [word ++ [':']] := by
  rw [Assembly.lexemes, lexemesFrom_append plain.isPlain, List.append_nil, lexemesFrom,
    if_neg (by decide), if_pos rfl, List.reverse_cons, List.reverse_reverse]
  rfl

end Plain

/-- **Words in a row**, separated by commas, are the lexemes. -/
theorem lexemes_intercalate {words : List (List Char)} (plain : ∀ word ∈ words, Plain word) :
    lexemes (List.intercalate [',', ' '] words) = words := by
  induction words with
  | nil => rfl
  | cons word words ih =>
    have here := plain word List.mem_cons_self
    have more := ih fun w hw => plain w (List.mem_cons_of_mem _ hw)
    cases words with
    | nil => rw [List.intercalate_singleton, here.lexemes]
    | cons next words =>
      -- The comma ends the word, and the blank behind it ends nothing.
      have blank (rest : List Char) : lexemes (' ' :: rest) = lexemes rest := by
        rw [lexemes, lexemesFrom, if_pos (by decide)]
        rfl
      rw [List.intercalate_cons_cons, List.append_assoc]
      change lexemes (word ++ ',' :: ' ' :: List.intercalate [',', ' '] (next :: words)) = _
      rw [here.lexemes_separator (by decide), blank, more]

/-- A line that begins with a word and goes on with words that are separated by commas. -/
def instructionLine (head : List Char) (words : List (List Char)) : List Char :=
  if words.isEmpty then head else head ++ ' ' :: List.intercalate [',', ' '] words

/-- An instruction that is written with plain words is a plain line. -/
theorem PlainLine.instructionLine {head : List Char} {words : List (List Char)}
    (first : PlainLine head) (plain : ∀ word ∈ words, PlainLine word) :
    PlainLine (instructionLine head words) := by
  -- Between the words stand a comma and a blank, which a plain line may have.
  have row : PlainLine (List.intercalate [',', ' '] words) := by
    induction words with
    | nil => exact nofun
    | cons word words ih =>
      have here := plain word List.mem_cons_self
      have more := ih fun w hw => plain w (List.mem_cons_of_mem _ hw)
      cases words with
      | nil =>
        rw [List.intercalate_singleton]
        exact here
      | cons next words =>
        rw [List.intercalate_cons_cons]
        exact (here.append (by decide)).append more
  have blank : PlainLine [' '] := by decide
  rw [Assembly.instructionLine]
  split
  · exact first
  · exact first.append (blank.append row)

/-- The words of an instruction are the head and the operands that it is written with. -/
theorem lexemes_instructionLine {head : List Char} {words : List (List Char)} (first : Plain head)
    (plain : ∀ word ∈ words, Plain word) :
    lexemes (instructionLine head words) = head :: words := by
  cases words with
  | nil => exact first.lexemes
  | cons word words =>
    rw [instructionLine, if_neg (by simp), first.lexemes_separator (by decide),
      lexemes_intercalate plain]

/-! ### Tokens -/

/-- A plain word has no colon, so it is no label. -/
theorem Plain.labelName?_eq_none (plain : Plain word) : labelName? word = none := by
  rw [labelName?, if_neg]
  rw [Bool.and_eq_true, decide_eq_true_iff]
  rintro ⟨last, -⟩
  exact absurd (plain.isPlain _ (List.mem_of_getLast? last)) (by decide)

/-- A word that has no colon at its end is no label. -/
private theorem isLabel_ofWord (atHead : Bool) (word : List Char) :
    (Token.Kind.ofWord atHead word).isLabel = false := by
  unfold Token.Kind.ofWord
  dsimp only
  split
  · split <;> rfl
  · split
    · rfl
    · split <;> rfl

/-- Words behind the head of an instruction are taken one by one. -/
private theorem kindsOf_words {words : List (List Char)} (plain : ∀ word ∈ words, Plain word) :
    kindsOf false words = words.map (Token.Kind.ofWord false) := by
  induction words with
  | nil => rfl
  | cons word words ih =>
    have here := plain word List.mem_cons_self
    rw [kindsOf, Token.Kind.ofLexeme, here.labelName?_eq_none, isLabel_ofWord,
      ih fun w hw => plain w (List.mem_cons_of_mem _ hw), List.map_cons]

/-- The opcodes are plain words. -/
theorem plain_mnemonic (opcode : Opcode) : Plain opcode.mnemonic.toList := by
  cases opcode <;> exact ⟨by decide, by decide⟩

/-- At the head of an instruction, the name of an opcode is read as this opcode. -/
theorem ofWord_mnemonic (opcode : Opcode) :
    Token.Kind.ofWord true opcode.mnemonic.toList = .opcode opcode := by
  cases opcode <;> decide

/-- **The tokens of an instruction**: its opcode, and one for each operand. -/
theorem lineTokens_instruction {opcode : Opcode} {words : List (List Char)} {number : Nat}
    (plain : ∀ word ∈ words, Plain word) :
    lineTokens number (instructionLine opcode.mnemonic.toList words) =
      ⟨.opcode opcode, number⟩ :: words.map fun word => ⟨.ofWord false word, number⟩ := by
  have head := plain_mnemonic opcode
  -- Behind an opcode no word is taken for an opcode any more.
  have noLabel : (Token.Kind.opcode opcode).isLabel = false := rfl
  have line := head.line.instructionLine fun word hw => (plain word hw).line
  rw [lineTokens, code_eq_self line,
    lexemes_instructionLine head plain, kindsOf, Token.Kind.ofLexeme, head.labelName?_eq_none]
  dsimp only
  rw [ofWord_mnemonic, noLabel, kindsOf_words plain, List.map_cons, List.map_map]
  rfl

/-- No token stands before the first line. -/
theorem le_line_of_mem_linesTokens {number : Nat} {ls : List (List Char)} {t : Token}
    (h : t ∈ linesTokens number ls) : number ≤ t.line := by
  induction ls generalizing number with
  | nil => cases h
  | cons text ls ih =>
    rcases List.mem_append.mp h with here | later
    · obtain ⟨kind, -, rfl⟩ := List.mem_map.mp here
      exact Nat.le_refl number
    · exact Nat.le_of_succ_le (ih later)

/-! ### Identifiers and numbers -/

/-- Names are plain words. -/
theorem plain_of_isIdentifier (identifier : isIdentifier word) : Plain word := by
  cases word with
  | nil => exact absurd identifier (by decide)
  | cons c rest =>
    rw [isIdentifier, Bool.and_eq_true, Bool.or_eq_true, List.all_eq_true] at identifier
    obtain ⟨first, others⟩ := identifier
    refine ⟨List.cons_ne_nil c rest, List.all_eq_true.mpr fun d hd => ?_⟩
    rw [isPlain, Char.isAlphanum, Bool.or_eq_true, Bool.or_eq_true, Bool.or_eq_true]
    rcases List.mem_cons.mp hd with rfl | hd
    · exact .inl (first.imp_left .inl)
    · have other := others d hd
      rw [Char.isAlphanum, Bool.or_eq_true, Bool.or_eq_true] at other
      exact .inl other

/-- **The tokens of a label**: just its definition. -/
theorem lineTokens_label {line : Nat} (identifier : isIdentifier word) :
    lineTokens line (word ++ [':']) = [⟨.label (String.ofList word), line⟩] := by
  have plain := plain_of_isIdentifier identifier
  have name : labelName? (word ++ [':']) = some (String.ofList word) := by
    rw [labelName?, List.dropLast_concat, List.getLast?_concat, identifier]
    rfl
  rw [lineTokens, code_eq_self plain.label_line, plain.lexemes_colon, kindsOf,
    Token.Kind.ofLexeme, name]
  rfl

/-- An identifier neither has a sign in front nor begins with a digit. -/
theorem identifier_first {rest : List Char} (identifier : isIdentifier (c :: rest)) :
    c ≠ '-' ∧ c ≠ '+' ∧ c.isDigit = false := by
  rw [isIdentifier, Bool.and_eq_true, Bool.or_eq_true, decide_eq_true_iff] at identifier
  rcases identifier.1 with alpha | rfl
  · refine ⟨?_, ?_, ?_⟩
    · rintro rfl
      exact absurd alpha (by decide)
    · rintro rfl
      exact absurd alpha (by decide)
    · rw [Bool.eq_false_iff]
      intro digit
      rw [isAlpha_iff_toNat] at alpha
      rw [isDigit_iff_toNat] at digit
      omega
  · decide

/-- An identifier behind the head of an instruction is a word, also if it is the name of an
opcode. -/
theorem ofWord_of_isIdentifier (identifier : isIdentifier word) :
    Token.Kind.ofWord false word = .word (String.ofList word) := by
  have notNumeric : looksNumeric word = false := by
    cases word with
    | nil => rfl
    | cons c rest =>
      obtain ⟨minus, plus, digit⟩ := identifier_first identifier
      rw [looksNumeric, if_neg (by simp [minus, plus]), digit]
  unfold Token.Kind.ofWord
  rw [notNumeric, identifier]
  rfl

/-- What a label defines is a name. -/
private theorem isIdentifier_of_labelName? {lexeme : List Char} {name : String}
    (h : labelName? lexeme = some name) : isIdentifier name.toList := by
  rw [labelName?] at h
  split at h
  next shape =>
    obtain rfl := Option.some.inj h
    rw [String.toList_ofList]
    exact (Bool.and_eq_true_iff.mp shape).2
  next => cases h

/-- The name that a token defines or refers to: the one of a label, or a bare word. -/
def Token.Kind.name? : Token.Kind → Option String
  | .label name => some name
  | .word name => some name
  | _ => none

/-- Only an identifier becomes a name. -/
private theorem isIdentifier_of_ofLexeme {atHead : Bool} {lexeme : List Char} {name : String}
    (h : (Token.Kind.ofLexeme atHead lexeme).name? = some name) : isIdentifier name.toList := by
  unfold Token.Kind.ofLexeme at h
  split at h
  next found =>
    obtain rfl := Option.some.inj h
    exact isIdentifier_of_labelName? found
  next =>
    -- A word without a colon is an opcode, a number, a name or unknown, and only a name has one.
    unfold Token.Kind.ofWord at h
    dsimp only at h
    split at h
    next => split at h <;> cases h
    next =>
      split at h
      next => cases h
      next identifier =>
        split at h
        next => cases h
        next =>
          obtain rfl := Option.some.inj h
          rw [String.toList_ofList]
          simpa using identifier

/-- The names in a line are proper ones. -/
private theorem isIdentifier_of_mem_kindsOf {atHead : Bool} {lexemes : List (List Char)}
    {kind : Token.Kind} {name : String} (h : kind ∈ kindsOf atHead lexemes)
    (named : kind.name? = some name) : isIdentifier name.toList := by
  induction lexemes generalizing atHead with
  | nil => cases h
  | cons lexeme lexemes ih =>
    rcases List.mem_cons.mp h with rfl | later
    · exact isIdentifier_of_ofLexeme named
    · exact ih later

/-- **The names in a text** are identifiers. -/
theorem isIdentifier_of_mem_linesTokens {number : Nat} {ls : List (List Char)} {t : Token}
    {name : String} (h : t ∈ linesTokens number ls) (named : t.kind.name? = some name) :
    isIdentifier name.toList := by
  induction ls generalizing number with
  | nil => cases h
  | cons text ls ih =>
    rcases List.mem_append.mp h with here | later
    · obtain ⟨kind, hk, rfl⟩ := List.mem_map.mp here
      exact isIdentifier_of_mem_kindsOf hk named
    · exact ih later

/-- The digits of a number are a plain word. -/
private theorem plain_digits (n : Nat) : Plain (toString n).toList :=
  ⟨Text.toList_toString_ne_nil n,
    List.all_eq_true.mpr fun _ hc => isPlain_of_isDigit (Text.isDigit_of_mem_toString hc)⟩

/-- A number is written as a plain word. -/
theorem plain_toString (n : Int) : Plain (toString n).toList := by
  cases n with
  | ofNat n => exact plain_digits n
  | negSucc n =>
    rw [Text.toList_toString_negSucc]
    refine ⟨List.cons_ne_nil _ _, ?_⟩
    rw [List.all_cons, (plain_digits (n + 1)).all]
    rfl

/-- A number looks like one. -/
private theorem looksNumeric_toString (n : Int) : looksNumeric (toString n).toList := by
  cases n with
  | ofNat n =>
    change looksNumeric (toString n).toList
    obtain ⟨c, rest, written, digit⟩ := Text.exists_digit_cons n
    have noSign : ¬(c = '-' ∨ c = '+') := by
      rintro (rfl | rfl) <;> exact absurd digit (by decide)
    rw [written, looksNumeric, if_neg (by simpa using noSign)]
    exact digit
  | negSucc n =>
    obtain ⟨c, rest, written, digit⟩ := Text.exists_digit_cons (n + 1)
    rw [Text.toList_toString_negSucc, looksNumeric, if_pos (by decide), written]
    exact digit

/-- **A number** is a number wherever it stands. -/
theorem ofWord_number (atHead : Bool) (value : Int32) :
    Token.Kind.ofWord atHead (toString value.toInt).toList = .number value := by
  have numeric := looksNumeric_toString value.toInt
  unfold Token.Kind.ofWord
  rw [if_pos numeric, Text.word?_toString]
  exact congrArg Token.Kind.number (Int32.ofInt_toInt value)

end TankDuel.Assembly

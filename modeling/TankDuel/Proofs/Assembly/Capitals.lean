import Mathlib.Data.Set.Function
import TankDuel.Proofs.Assembly.Grammar
import TankDuel.Proofs.Text.Capitals

/-!
# Programs written in capitals

Opcodes, registers and keywords are recognised in capital and in small letters, while labels are
told apart by letter case. So a program may be written in capitals throughout, provided that no two
of its labels become the same by this: it comes to the same instructions, and to the same label
table with the names in capitals (`Assembly.compile_toUpper`).

There are two halves to this.

* **Lexing commutes with capitals** (`tokenize_toUpper`), whatever the text is. Comments, lexemes
  and lines end at characters that are no letters, and what a lexeme is depends on letters only
  through tables that ignore letter case. That a word stands at the head of an instruction is
  carried along the line, and is the same in capitals (`kindsOf_toUpper`).
* **Reading commutes with capitals** where the label table stays a table. Which items the tokens
  split into does not depend on the names of labels (`Splits.raised`), and a word that is no
  register is none in capitals either, so labels and registers are not mixed up (`Stands.raised`).

Both are stated with `raised`, which writes whatever is left of the text in capitals. Only the last
step needs that the names stay apart (`Describes.raised`).
-/

namespace TankDuel.Assembly

open Text

/-! ### Comments and lexemes -/

/-- No comment begins or ends with a change of case. -/
private theorem code_toUpper (line : List Char) :
    code (line.map Char.toUpper) = (code line).map Char.toUpper := by
  induction line with
  | nil => rfl
  | cons c rest ih =>
    have slash : (rest.map Char.toUpper).head? = some '/' ↔ rest.head? = some '/' := by
      rw [List.head?_map, map_toUpper_eq_some_iff rfl]
    simp only [List.map_cons, code, toUpper_eq_iff (x := ';') rfl, toUpper_eq_iff (x := '#') rfl,
      toUpper_eq_iff (x := '/') rfl, slash, ih]
    -- The comment starts here, or the line goes on, on both sides alike.
    split
    · rfl
    split
    · rfl
    · rfl

/-- Nothing that separates words is a letter. -/
private theorem isSeparator_toUpper (c : Char) : isSeparator c.toUpper = isSeparator c := by
  rw [isSeparator, isBlank_toUpper, decide_eq_decide.mpr (toUpper_eq_iff rfl), isSeparator]

/-- The word that is read so far is released in capitals. -/
private theorem release_toUpper (held : List Char) :
    release (held.map Char.toUpper) = (release held).map (List.map Char.toUpper) := by
  rw [release, List.isEmpty_map, ← List.map_reverse, release]
  split <;> rfl

/-- Capitals may be made before or after a text is cut into words. -/
private theorem lexemesFrom_toUpper (held cs : List Char) :
    lexemesFrom (held.map Char.toUpper) (cs.map Char.toUpper) =
      (lexemesFrom held cs).map (List.map Char.toUpper) := by
  -- The characters that are held are in capitals too, so they go into the induction.
  induction cs generalizing held with
  | nil => exact release_toUpper held
  | cons c rest ih =>
    have colon : c.toUpper = ':' ↔ c = ':' := toUpper_eq_iff rfl
    have restarts := ih []
    have goesOn := ih (c :: held)
    rw [List.map_nil] at restarts
    rw [List.map_cons] at goesOn
    rw [List.map_cons, lexemesFrom, lexemesFrom, isSeparator_toUpper]
    by_cases separates : isSeparator c
    · rw [if_pos separates, if_pos separates, release_toUpper, restarts, List.map_append]
    rw [if_neg separates, if_neg separates]
    by_cases ends : c = ':'
    · rw [if_pos ends, if_pos (colon.mpr ends), restarts, ← List.map_cons, ← List.map_reverse,
        List.map_cons]
    · rw [if_neg ends, if_neg (mt colon.mp ends), goesOn]

/-- The words of a line in capitals are those of the line, in capitals. -/
private theorem lexemes_toUpper (line : List Char) :
    lexemes (line.map Char.toUpper) = (lexemes line).map (List.map Char.toUpper) :=
  lexemesFrom_toUpper [] line

/-! ### Tokens -/

/-- A token with its text in capitals. -/
def Token.Kind.raised : Token.Kind → Token.Kind
  | opcode op => opcode op
  | word text => word text.toUpper
  | number value => number value
  | label name => label name.toUpper
  | unknown text => unknown text.toUpper

/-- A token with its text in capitals. -/
def Token.raised (t : Token) : Token := ⟨t.kind.raised, t.line⟩

/-- In capitals, labels are still labels and nothing else becomes one. -/
@[simp] theorem Token.Kind.isLabel_raised (kind : Token.Kind) :
    kind.raised.isLabel = kind.isLabel := by cases kind <;> rfl

/-- Capitals do not change what is a name. -/
private theorem isIdentifier_toUpper (cs : List Char) :
    isIdentifier (cs.map Char.toUpper) = isIdentifier cs := by
  have underscore (c : Char) : decide (c.toUpper = '_') = decide (c = '_') :=
    decide_eq_decide.mpr (toUpper_eq_iff rfl)
  cases cs with
  | nil => rfl
  | cons c rest =>
    simp only [List.map_cons, isIdentifier, List.all_map, Function.comp_def, underscore,
      isAlpha_toUpper, isAlphanum_toUpper]

/-- Capitals do not change what looks like a number. -/
private theorem looksNumeric_toUpper (cs : List Char) :
    looksNumeric (cs.map Char.toUpper) = looksNumeric cs := by
  cases cs with
  | nil => rfl
  | cons c rest =>
    simp only [List.map_cons, looksNumeric, List.head?_map, Option.any_map, isDigit_toUpper,
      toUpper_eq_iff (x := '-') rfl, toUpper_eq_iff (x := '+') rfl]

/-- A label in capitals has its name in capitals. -/
private theorem labelName?_toUpper (lexeme : List Char) :
    labelName? (lexeme.map Char.toUpper) = (labelName? lexeme).map String.toUpper := by
  have last : (lexeme.map Char.toUpper).getLast? = some ':' ↔ lexeme.getLast? = some ':' := by
    rw [List.getLast?_map, map_toUpper_eq_some_iff rfl]
  simp only [labelName?, last, ← List.map_dropLast, isIdentifier_toUpper, ofList_map_toUpper]
  split <;> rfl

/-- Opcodes are found in any case. -/
private theorem ofMnemonic?_toUpper (word : String) :
    Opcode.ofMnemonic? word.toUpper = Opcode.ofMnemonic? word :=
  findNamed?_toUpper _ _ word

/-- A word in capitals is the same token, but that the names in it are in capitals. -/
private theorem ofWord_toUpper (atHead : Bool) (lexeme : List Char) :
    Token.Kind.ofWord atHead (lexeme.map Char.toUpper) =
      (Token.Kind.ofWord atHead lexeme).raised := by
  unfold Token.Kind.ofWord
  rw [looksNumeric_toUpper, word?_toUpper, isIdentifier_toUpper, ofList_map_toUpper]
  dsimp only
  rw [ofMnemonic?_toUpper]
  -- The same case applies on both sides.
  split
  · cases word? lexeme <;> rfl
  split
  · rfl
  · cases atHead <;> cases Opcode.ofMnemonic? (String.ofList lexeme) <;> rfl

/-- **A lexeme is of the same kind in capitals.** -/
theorem ofLexeme_toUpper (atHead : Bool) (lexeme : List Char) :
    Token.Kind.ofLexeme atHead (lexeme.map Char.toUpper) =
      (Token.Kind.ofLexeme atHead lexeme).raised := by
  rw [Token.Kind.ofLexeme, labelName?_toUpper, Token.Kind.ofLexeme]
  cases labelName? lexeme with
  | none => exact ofWord_toUpper atHead lexeme
  | some name => rfl

/-- A word is at the head of an instruction just where it is in capitals. -/
theorem kindsOf_toUpper (atHead : Bool) (lexemes : List (List Char)) :
    kindsOf atHead (lexemes.map (List.map Char.toUpper)) =
      (kindsOf atHead lexemes).map Token.Kind.raised := by
  induction lexemes generalizing atHead with
  | nil => rfl
  | cons lexeme rest ih =>
    rw [List.map_cons, kindsOf, kindsOf, ofLexeme_toUpper, Token.Kind.isLabel_raised, ih,
      List.map_cons]

/-- The tokens of a line in capitals. -/
private theorem lineTokens_toUpper (line : Nat) (text : List Char) :
    lineTokens line (text.map Char.toUpper) = (lineTokens line text).map Token.raised := by
  rw [lineTokens, code_toUpper, lexemes_toUpper, kindsOf_toUpper, lineTokens, List.map_map,
    List.map_map]
  rfl

/-- The tokens of some lines in capitals. -/
private theorem linesTokens_toUpper (line : Nat) (texts : List (List Char)) :
    linesTokens line (texts.map (List.map Char.toUpper)) =
      (linesTokens line texts).map Token.raised := by
  induction texts generalizing line with
  | nil => rfl
  | cons text rest ih =>
    rw [List.map_cons, linesTokens, linesTokens, lineTokens_toUpper, ih, List.map_append]

/-- **Lexing commutes with capitals.** -/
theorem tokenize_toUpper (source : String) :
    tokenize source.toUpper = (tokenize source).map Token.raised := by
  rw [tokenize, toList_toUpper, lines_toUpper, linesTokens_toUpper, tokenize]

/-! ### Items -/

/-- An argument with the name of its label in capitals. -/
def Argument.raised : Argument → Argument
  | operand o => operand o
  | label name => label name.toUpper

/-- An instruction with the names of its labels in capitals. -/
def Draft.raised (draft : Draft) : Draft :=
  { draft with arguments := draft.arguments.map Argument.raised }

/-- An item with the names of its labels in capitals. -/
def Item.raised : Item → Item
  | label name => label name.toUpper
  | instruction draft => instruction draft.raised

variable {items : List Item} {tokens : List Token} {name : String} {target : Nat}

/-- **A word that is no register is none in capitals.** So what a token stands for is the same. -/
theorem Stands.raised {slot : Slot} {kind : Token.Kind} {a : Argument} (h : Stands slot kind a) :
    Stands slot kind.raised a.raised := by
  cases h with
  | destination named writable => exact .destination ((sameWord_toUpper ..).trans named) writable
  | register named => exact .register ((sameWord_toUpper ..).trans named)
  | number => exact .number
  | label nameless =>
    -- A register that the word names in capitals is one that it names as it is.
    refine .label fun r named => nameless r ?_
    rwa [sameWord_toUpper] at named
  | rotation named => exact .rotation ((sameWord_toUpper ..).trans named)
  | heading named => exact .heading ((sameWord_toUpper ..).trans named)

/-- Words in capitals fill the same slots. -/
theorem Fill.raised {slots : List Slot} {ts : List Token} {as : List Argument}
    (h : Fill slots ts as) : Fill slots (ts.map Token.raised) (as.map Argument.raised) := by
  induction h with
  | nil => exact .nil
  | cons stands _ ih => exact .cons stands.raised ih

/-- An opcode takes its operands in capitals, too. -/
theorem Takes.raised {opcode : Opcode} {operands : List Token} {arguments : List Argument}
    (h : Takes opcode operands arguments) :
    Takes opcode (operands.map Token.raised) (arguments.map Argument.raised) := by
  cases h with
  | written fill => exact .written fill.raised
  | implied => exact .implied

/-- **The tokens split into the same items.** -/
theorem Splits.raised (h : Splits tokens items) :
    Splits (tokens.map Token.raised) (items.map Item.raised) := by
  induction h with
  | nil => exact .nil
  | label _ ih => exact .label ih
  | @instruction opcode line operands rest arguments items same stops takes _ ih =>
    rw [List.map_cons, List.map_append, List.map_cons]
    refine .instruction (fun t ht => ?_) (fun t ht => ?_) takes.raised ih
    · obtain ⟨u, hu, rfl⟩ := List.mem_map.mp ht
      exact same u hu
    · rw [List.head?_map] at ht
      obtain ⟨u, hu, rfl⟩ := Option.mem_map.mp ht
      exact stops u hu

/-- The names that are defined are in capitals. -/
private theorem definedNames_raised (items : List Item) :
    definedNames (items.map Item.raised) = (definedNames items).map String.toUpper := by
  rw [definedNames, List.filterMap_map, definedNames, List.map_filterMap]
  refine List.filterMap_congr fun item _ => ?_
  cases item <;> rfl

/-- The instructions that are drafted are those with the labels in capitals. -/
private theorem drafts_raised (items : List Item) :
    drafts (items.map Item.raised) = (drafts items).map Draft.raised := by
  rw [drafts, List.filterMap_map, drafts, List.map_filterMap]
  refine List.filterMap_congr fun item _ => ?_
  cases item <;> rfl

/-- A label is defined in the same place. -/
private theorem definedAt_raised_iff :
    DefinedAt (items.map Item.raised) name target ↔
      ∃ original, original.toUpper = name ∧ DefinedAt items original target := by
  -- Raising the items keeps their order and number, so a definition can be moved across either way.
  constructor
  · rintro ⟨before, after, split, rfl⟩
    obtain ⟨before, others, rfl, rfl, rest⟩ := List.map_eq_append_iff.mp split
    obtain ⟨item, after, rfl, isLabel, rfl⟩ := List.map_eq_cons_iff.mp rest
    cases item with
    | instruction => exact absurd isLabel nofun
    | label original =>
      refine ⟨original, Item.label.inj isLabel, before, after, rfl, ?_⟩
      rw [drafts_raised, List.length_map]
  · rintro ⟨original, rfl, before, after, rfl, rfl⟩
    refine ⟨before.map Item.raised, after.map Item.raised, ?_, ?_⟩
    · rw [List.map_append, List.map_cons]
      rfl
    · rw [drafts_raised, List.length_map]

/-! ### Programs -/

/-- The label that a token defines. -/
def Token.defines? (t : Token) : Option String :=
  match t.kind with
  | .label name => some name
  | _ => none

/-- The names of the labels that tokens define, in order. -/
def labelNames (tokens : List Token) : List String := tokens.filterMap Token.defines?

/-- No operand defines a label. -/
theorem Fill.labelNames_eq {slots : List Slot} {ts : List Token} {as : List Argument}
    (h : Fill slots ts as) : labelNames ts = [] := by
  refine List.filterMap_eq_nil_iff.mpr ?_
  induction h with
  | nil => exact nofun
  | @cons slot slots t ts a as stands _ ih =>
    intro u hu
    rcases List.mem_cons.mp hu with rfl | hu
    · obtain ⟨kind, line⟩ := u
      cases stands <;> rfl
    · exact ih u hu

/-- Operands define no labels. -/
theorem Takes.labelNames_eq {opcode : Opcode} {operands : List Token} {arguments : List Argument}
    (h : Takes opcode operands arguments) : labelNames operands = [] := by
  cases h with
  | written fill => exact fill.labelNames_eq
  | implied => rfl

/-- The labels of the items are those that the tokens define. -/
theorem Splits.labelNames_eq (h : Splits tokens items) :
    labelNames tokens = definedNames items := by
  induction h with
  | nil => rfl
  | label _ ih => exact congrArg _ ih
  | @instruction opcode line operands rest arguments items _ _ takes _ ih =>
    calc labelNames (⟨.opcode opcode, line⟩ :: (operands ++ rest))
        = labelNames operands ++ labelNames rest := List.filterMap_append
      _ = definedNames items := by rw [takes.labelNames_eq, ih, List.nil_append]

variable {p : Program} {labels : Labels}

/-- An argument means the same if the table has the names in capitals. -/
theorem Argument.Means.raised {labels' : Labels} {a : Argument} {o : Operand}
    (table : ∀ name target, labels.find? name = some target →
      labels'.find? name.toUpper = some target)
    (h : a.Means labels o) : a.raised.Means labels' o := by
  cases h with
  | operand => exact .operand
  | label found => exact .label (table _ _ found)

/-- **The items in capitals have the same instructions.** -/
theorem Describes.raised (h : Describes items p)
    (apart : (definedNames (items.map Item.raised)).Nodup) :
    ∃ labels, Describes (items.map Item.raised) ⟨p.instructions, labels⟩ := by
  let labels := tableFrom 0 .empty (items.map Item.raised)
  have table := (labels_eq_tableFrom_iff (p := ⟨p.instructions, labels⟩) apart).mp rfl
  -- A label that had an address has it in capitals.
  have renamed (name : String) (target : Nat) (found : p.labels.find? name = some target) :
      labels.find? name.toUpper = some target :=
    (table _ _).mpr (definedAt_raised_iff.mpr ⟨name, rfl, (h.labels name target).mp found⟩)
  refine ⟨labels, ?_, table⟩
  rw [drafts_raised, List.forall₂_map_left_iff]
  refine h.instructions.imp fun draft i yields => ⟨yields.opcode, ?_, yields.line⟩
  exact List.forall₂_map_left_iff.mpr (yields.operands.imp fun _ _ means => means.raised renamed)

/-- The table of the items in capitals lists the names in capitals. -/
theorem Describes.perm_raised (h : Describes items p)
    (apart : (definedNames (items.map Item.raised)).Nodup)
    (raised : Describes (items.map Item.raised) ⟨p.instructions, labels⟩) :
    labels.entries.Perm (p.labels.entries.map (Prod.map String.toUpper id)) := by
  have listed (name : String) (target : Nat) :
      (name, target) ∈ labels.entries ↔
        (name, target) ∈ p.labels.entries.map (Prod.map String.toUpper id) := by
    rw [← Labels.find?_eq_some_iff, raised.labels, definedAt_raised_iff, List.mem_map]
    constructor
    · rintro ⟨original, rfl, defined⟩
      exact ⟨(original, target), Labels.find?_eq_some_iff.mp ((h.labels _ _).mpr defined), rfl⟩
    · rintro ⟨⟨original, target⟩, entry, ⟨⟩⟩
      exact ⟨original, rfl, (h.labels _ _).mp (Labels.find?_eq_some_iff.mpr entry)⟩
  -- Neither side lists a name twice, as the names that are defined stay apart in capitals.
  have defined : ∀ name ∈ p.labels.entries.map Prod.fst, name ∈ definedNames items := by
    intro name hn
    obtain ⟨⟨_, target⟩, entry, rfl⟩ := List.mem_map.mp hn
    have found := Labels.find?_eq_some_iff.mpr entry
    exact mem_definedNames_iff.mpr ⟨target, (h.labels _ _).mp found⟩
  rw [definedNames_raised] at apart
  have names : ((p.labels.entries.map (Prod.map String.toUpper id)).map Prod.fst).Nodup := by
    have first : Prod.fst ∘ Prod.map String.toUpper (id : Nat → Nat) =
        String.toUpper ∘ Prod.fst := rfl
    rw [List.map_map, first, ← List.map_map]
    exact p.labels.nodup_names.map_on fun name hn other ho same =>
      List.inj_on_of_nodup_map apart (defined name hn) (defined other ho) same
  exact (List.perm_ext_iff_of_nodup (.of_map _ labels.nodup_names) (.of_map _ names)).mpr
    fun entry => listed entry.1 entry.2

/-- **Letter case does not matter.** If a text is a program and no two of its labels become the same
in capitals, the text in capitals is a program with the same instructions, on the same lines and
with the same addresses, and its label table has the names in capitals. -/
theorem compile_toUpper {source : String} (compiled : compile source = .ok p)
    (apart : Set.InjOn String.toUpper {name | name ∈ labelNames (tokenize source)}) :
    ∃ p', compile source.toUpper = .ok p' ∧ p'.instructions = p.instructions ∧
      p'.labels.entries.Perm (p.labels.entries.map (Prod.map String.toUpper id)) := by
  obtain ⟨items, splits, once, describes⟩ := parse_eq_ok_iff_describes.mp compiled
  have apart' : (definedNames (items.map Item.raised)).Nodup := by
    rw [definedNames_raised, ← splits.labelNames_eq]
    rw [← splits.labelNames_eq] at once
    exact once.map_on fun name hn other ho same => apart hn ho same
  obtain ⟨labels, raised⟩ := describes.raised apart'
  refine ⟨⟨p.instructions, labels⟩, ?_, rfl, describes.perm_raised apart' raised⟩
  rw [compile, tokenize_toUpper]
  exact parse_eq_ok_iff_describes.mpr ⟨_, splits.raised, apart', raised⟩

/-- A word that is an opcode and a register, a move without a heading, and labels that are used
before and after they are defined. -/
theorem compile_toUpper_mixed_case :
    let source := "loop: mov Acc, -5 ; Go\n_End:move\ncmp cmp Hp // left\nJmp Rotor\n" ++
      "Rotor: rotate lEft\njne loop"
    let p : Program :=
      ⟨[⟨.mov, [.register .acc, .number (-5)], 1⟩, ⟨.move, [.heading .forward], 2⟩,
        ⟨.cmp, [.register .cmp, .register .hp], 3⟩, ⟨.jmp, [.address 4], 4⟩,
        ⟨.rotate, [.rotation .left], 5⟩, ⟨.jne, [.address 0], 6⟩],
        .ofList [("loop", 0), ("_End", 1), ("Rotor", 4)]⟩
    compile source = .ok p ∧
      (∀ name ∈ labelNames (tokenize source), ∀ other ∈ labelNames (tokenize source),
        name.toUpper = other.toUpper → name = other) ∧
      ∃ p', compile source.toUpper = .ok p' ∧ p'.instructions = p.instructions ∧
        p'.labels.entries.Perm [("ROTOR", 4), ("_END", 1), ("LOOP", 0)] := by
  intro source p
  have compiled : compile source = .ok p := toOption_eq_some_iff.mp (by decide +kernel)
  have apart : ∀ name ∈ labelNames (tokenize source), ∀ other ∈ labelNames (tokenize source),
      name.toUpper = other.toUpper → name = other := by decide +kernel
  have raised : p.labels.entries.map (Prod.map String.toUpper id) =
      [("ROTOR", 4), ("_END", 1), ("LOOP", 0)] := by decide +kernel
  have reads := compile_toUpper compiled fun name hn other ho same => apart name hn other ho same
  rw [raised] at reads
  exact ⟨compiled, apart, reads⟩

/-- Two labels may become one in capitals, which is then defined twice. -/
example : (compile "go: Go: halt").toOption.isSome ∧
    (compile "go: Go: halt".toUpper).toOption.isNone := by decide +kernel

end TankDuel.Assembly

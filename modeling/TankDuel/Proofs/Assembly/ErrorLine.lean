import TankDuel.Proofs.Assembly.Grammar
import TankDuel.Proofs.Assembly.Joining
import TankDuel.Proofs.Text.Lines

/-!
# Where an error is reported

Reading goes through the statements of a text in order and stops at the first one with a fault
(`stops_of_assemble_eq_error`). A statement does not go beyond its line, so nothing behind the line
of the error has been looked at: every text that begins with the same lines has the same error.

A label that is missing is looked for last, when all statements have been read. So a text with this
error has no other one, and it becomes a program when the missing labels are defined at its end
(`exists_compile_defining`). The label that is reported is the first one in the order of the text
(`parse_eq_error_cases`).

`CompileError.Local` puts this together, and `compile_error_local` says that it holds of every error
of every text.
-/

namespace TankDuel.Assembly

variable {placed : Nat} {labels : Labels} {items items' : List Item}
  {tokens front back : List Token} {ss : List Statement} {e : CompileError} {name : String}

/-! ### Statements do not go beyond their line -/

/-- Tokens on another line do not continue a run. -/
private theorem head?_append_line_ne {line : Nat} {rest : List Token}
    (stops : ∀ t ∈ rest.head?, t.line ≠ line) (apart : ∀ u ∈ back, u.line ≠ line) :
    ∀ t ∈ (rest ++ back).head?, t.line ≠ line := by
  cases rest with
  | nil => exact fun t ht => apart t (List.mem_of_mem_head? ht)
  | cons u rest => exact stops

/-- **Tokens on different lines are in different statements.** -/
theorem statements_append (apart : ∀ t ∈ front, ∀ u ∈ back, u.line ≠ t.line) :
    statements (front ++ back) = statements front ++ statements back := by
  induction front using statements.induct with
  | case1 =>
    rw [statements]
    rfl
  | case2 t rest opcode isOpcode ih =>
    have same : ∀ u ∈ rest.takeWhile (fun u => u.line = t.line), u.line = t.line :=
      fun u hu => by simpa using List.mem_takeWhile_imp hu
    have stops := head?_append_line_ne (@line_ne_of_head?_dropWhile t.line rest)
      (apart t List.mem_cons_self)
    -- The run behind the opcode ends where it did, with other tokens behind it.
    obtain ⟨taken, left⟩ := takeWhile_line same stops
    rw [← List.append_assoc, List.takeWhile_append_dropWhile] at taken left
    have later := ih fun u hu =>
      apart u (List.mem_cons_of_mem _ ((List.dropWhile_sublist _).subset hu))
    rw [List.cons_append, statements, statements, isOpcode]
    dsimp only
    rw [taken, left, later, List.cons_append]
  | case3 t rest notOpcode ih =>
    have later := ih fun u hu => apart u (List.mem_cons_of_mem _ hu)
    obtain ⟨kind, line⟩ := t
    rw [List.cons_append, statements, statements, later]
    cases kind with
    | opcode opcode => exact absurd rfl (notOpcode opcode)
    | word | number | label | unknown => rfl

/-- A statement is made of tokens of the text. -/
private theorem subset_of_mem_statements {s : Statement} (h : s ∈ statements tokens) :
    s.head :: s.operands ⊆ tokens := by
  induction tokens using statements.induct with
  | case1 =>
    rw [statements] at h
    cases h
  | case2 t rest opcode isOpcode ih =>
    rw [statements, isOpcode] at h
    rcases List.mem_cons.mp h with rfl | later
    · exact List.cons_subset_cons t (List.takeWhile_sublist _).subset
    · exact fun u hu => List.mem_cons_of_mem _ ((List.dropWhile_sublist _).subset (ih later hu))
  | case3 t rest notOpcode ih =>
    obtain ⟨kind, line⟩ := t
    rw [statements] at h
    -- Any token but an opcode is a statement of its own.
    cases kind with
    | opcode opcode => exact absurd rfl (notOpcode opcode)
    | word | number | label | unknown =>
      rcases List.mem_cons.mp h with rfl | later
      · exact List.cons_subset_cons _ (List.nil_subset rest)
      · exact fun u hu => List.mem_cons_of_mem _ (ih later hu)

/-! ### The first statement with a fault -/

/-- A word in a slot is at fault for one reason only. -/
private theorem exists_readOnly_of_ofWord? {slot : Slot} {word : String}
    {cause : CompileError.Cause} (failed : Argument.ofWord? slot word = .error cause) :
    ∃ r, cause = .readOnlyRegister r := by
  cases slot with
  | destination =>
    rw [Argument.ofWord?] at failed
    split at failed
    next r _ =>
      split at failed
      next => cases failed
      next => exact ⟨r, (Except.error.inj failed).symm⟩
    next => cases failed
  | source | target | rotation | heading => cases failed

/-- No token is at fault for a label that is missing: this is not known when it is read. -/
private theorem read_ne_undefinedLabel (slot : Slot) (kind : Token.Kind) :
    Argument.read slot kind ≠ .error (.undefinedLabel name) := by
  intro failed
  -- Reading an operand takes any name for a label. Whether it is defined is asked later.
  cases kind with
  | opcode | label | unknown => cases failed
  | number value =>
    rw [Argument.read] at failed
    split at failed <;> cases failed
  | word word =>
    rw [Argument.read] at failed
    split at failed
    next => cases failed
    next => cases failed
    next cause readOnly =>
      obtain ⟨r, rfl⟩ := exists_readOnly_of_ofWord? readOnly
      cases failed

/-- Reading all operands asks for no labels either. -/
private theorem readAll_ne_undefinedLabel (opcode : Opcode) (slots : List Slot)
    (operands : List Token) :
    Argument.readAll opcode slots operands ≠ .error (.undefinedLabel name) := by
  induction slots generalizing operands with
  | nil => exact nofun
  | cons slot slots ih =>
    intro failed
    -- Whether operands are left or not, the first slot or a later one has failed.
    cases operands with
    | nil =>
      rcases bind_eq_error_iff.mp failed with implied | ⟨a, -, failed⟩
      · cases slot <;> cases implied
      · rcases bind_eq_error_iff.mp failed with others | ⟨_, -, ⟨⟩⟩
        exact ih [] others
    | cons t rest =>
      rcases bind_eq_error_iff.mp failed with here | ⟨a, -, failed⟩
      · exact read_ne_undefinedLabel slot t.kind here
      · rcases bind_eq_error_iff.mp failed with others | ⟨_, -, ⟨⟩⟩
        exact ih rest others

/-- No statement that is refused on its own is refused for a missing label. -/
private theorem argumentsOf_ne_undefinedLabel (opcode : Opcode) (operands : List Token) :
    argumentsOf opcode operands ≠ .error (.undefinedLabel name) := by
  intro failed
  rw [argumentsOf] at failed
  split at failed
  next => exact readAll_ne_undefinedLabel opcode _ _ failed
  next => split at failed <;> cases failed

/-- Reading stops at one of the statements, whatever follows it, and the error is reported for its
line. The fault is no missing label. -/
def Stops (placed : Nat) (labels : Labels) (ss : List Statement) (e : CompileError) : Prop :=
  ∃ before s after, ss = before ++ s :: after ∧ e.line = s.head.line ∧
    (∀ name, e.cause ≠ .undefinedLabel name) ∧
    ∀ rest, assemble placed labels (before ++ s :: rest) = .error e

/-- The fault is in the first statement. -/
private theorem stops_here {s : Statement} (line : e.line = s.head.line)
    (fault : ∀ name, e.cause ≠ .undefinedLabel name)
    (fails : ∀ rest, assemble placed labels (s :: rest) = .error e) :
    Stops placed labels (s :: ss) e :=
  ⟨[], s, ss, rfl, line, fault, fails⟩

/-- The fault is behind the first statement, which is read as before. -/
theorem Stops.later {s : Statement} {placed' : Nat} {labels' : Labels}
    (stops : Stops placed' labels' ss e)
    (read : ∀ rest, assemble placed' labels' rest = .error e →
      assemble placed labels (s :: rest) = .error e) : Stops placed labels (s :: ss) e := by
  obtain ⟨before, s', after, rfl, line, fault, fails⟩ := stops
  exact ⟨s :: before, s', after, rfl, line, fault, fun rest => read _ (fails rest)⟩

/-- **Reading stops at the first statement with a fault.** -/
theorem stops_of_assemble_eq_error (failed : assemble placed labels ss = .error e) :
    Stops placed labels ss e := by
  induction ss generalizing placed labels with
  | nil => cases failed
  | cons s ss ih =>
    obtain ⟨⟨kind, line⟩, operands⟩ := s
    -- The assembly goes statement by statement: this one is refused whatever comes behind it, or it
    -- is passed over and the induction hypothesis speaks of the rest.
    cases kind with
    | word | number | unknown =>
      obtain rfl := Except.error.inj failed
      exact stops_here rfl (by simp) fun _ => rfl
    | label name =>
      by_cases taken : labels.contains name
      · have fails (rest : List Statement) :
            assemble placed labels (⟨⟨.label name, line⟩, operands⟩ :: rest) =
              .error ⟨line, .duplicateLabel name⟩ := if_pos taken
        obtain rfl := Except.error.inj ((fails ss).symm.trans failed)
        exact stops_here rfl (by simp) fails
      · have step (rest : List Statement) :
            assemble placed labels (⟨⟨.label name, line⟩, operands⟩ :: rest) =
              assemble placed (labels.insert name placed) rest := if_neg taken
        rw [step] at failed
        exact (ih failed).later fun rest fails => (step rest).trans fails
    | opcode opcode =>
      cases read : argumentsOf opcode operands with
      | error cause =>
        have fails (rest : List Statement) :
            assemble placed labels (⟨⟨.opcode opcode, line⟩, operands⟩ :: rest) =
              .error ⟨line, cause⟩ := by
          rw [assemble]
          dsimp only
          rw [read]
        obtain rfl := Except.error.inj ((fails ss).symm.trans failed)
        refine stops_here rfl (fun name same => ?_) fails
        exact argumentsOf_ne_undefinedLabel opcode operands (read.trans (congrArg _ same))
      | ok arguments =>
        have step (rest : List Statement) :
            assemble placed labels (⟨⟨.opcode opcode, line⟩, operands⟩ :: rest) =
              assemble (placed + 1) labels rest >>= fun x =>
                .ok (⟨opcode, arguments, line⟩ :: x.1, x.2) := by
          rw [assemble]
          dsimp only
          rw [read]
          rfl
        rw [step] at failed
        rcases bind_eq_error_iff.mp failed with fails | ⟨_, -, ⟨⟩⟩
        exact (ih fails).later fun rest fails =>
          (step rest).trans (bind_eq_error_iff.mpr (.inl fails))

/-- **What follows on other lines** has not been looked at. -/
theorem assemble_append_of_error {ss' : List Statement}
    (failed : assemble placed labels (ss ++ ss') = .error e)
    (behind : ∀ s ∈ ss', s.head.line ≠ e.line) (rest : List Statement) :
    assemble placed labels (ss ++ rest) = .error e := by
  obtain ⟨before, s, after, split, line, -, fails⟩ := stops_of_assemble_eq_error failed
  -- The statement with the fault is not one of the others.
  have outside : s ∉ ss' := fun inside => behind s inside line.symm
  rcases List.append_eq_append_iff.mp split with ⟨more, rfl, split'⟩ | ⟨more, rfl, split'⟩
  · exact absurd (split' ▸ List.mem_append_right more List.mem_cons_self) outside
  · cases more with
    | nil =>
      rw [List.nil_append] at split'
      exact absurd (split' ▸ List.mem_cons_self) outside
    | cons s' more =>
      obtain ⟨rfl, -⟩ := List.cons.inj split'
      rw [List.append_assoc]
      exact fails (more ++ rest)

/-! ### Labels that are missing -/

/-- The label that a token refers to if it stands in a slot, and the line of the token. -/
def Token.reference? (slot : Slot) (t : Token) : Option (String × Nat) :=
  match slot, t.kind with
  | .target, .word name => some (name, t.line)
  | _, _ => none

/-- The labels that a statement refers to. -/
def Statement.references (s : Statement) : List (String × Nat) :=
  match s.head.kind with
  | .opcode opcode => (opcode.signature.zip s.operands).filterMap fun x => x.2.reference? x.1
  | _ => []

/-- The labels that a text refers to, in the order of the text, each with its line. -/
def references (tokens : List Token) : List (String × Nat) :=
  (statements tokens).flatMap Statement.references

/-- The label that a token defines. -/
def Token.definition? (t : Token) : Option String :=
  match t.kind with
  | .label name => some name
  | _ => none

/-- The labels that a text defines. -/
def definitions (tokens : List Token) : List String := tokens.filterMap Token.definition?

/-- A label that is referred to is a word of the text. -/
private theorem word_mem_of_mem_references {r : String × Nat} (h : r ∈ references tokens) :
    ⟨.word r.1, r.2⟩ ∈ tokens := by
  obtain ⟨s, hs, refers⟩ := List.mem_flatMap.mp h
  unfold Statement.references at refers
  split at refers
  next opcode _ =>
    obtain ⟨⟨slot, t⟩, inside, refers⟩ := List.mem_filterMap.mp refers
    -- A reference is an operand of a statement, and so it is a token of the text.
    have written : t ∈ tokens :=
      subset_of_mem_statements hs (List.mem_cons_of_mem _ (List.of_mem_zip inside).2)
    obtain ⟨kind, line⟩ := t
    unfold Token.reference? at refers
    split at refers
    next same =>
      obtain rfl := Option.some.inj refers
      obtain rfl := same
      exact written
    next => cases refers
  next => cases refers

/-- The label of an argument, with a line. -/
def Argument.reference? (line : Nat) : Argument → Option (String × Nat)
  | label name => some (name, line)
  | operand _ => none

/-- The labels that a draft refers to. -/
def Draft.references (d : Draft) : List (String × Nat) :=
  d.arguments.filterMap (Argument.reference? d.line)

/-- What stands for an operand refers to what it does, and defines nothing. -/
theorem Stands.reference?_eq {slot : Slot} {t : Token} {a : Argument}
    (stands : Stands slot t.kind a) :
    t.reference? slot = a.reference? t.line ∧ t.definition? = none := by
  obtain ⟨kind, line⟩ := t
  cases stands <;> exact ⟨rfl, rfl⟩

/-- The tokens and the arguments that they are read as refer to the same labels. -/
theorem Takes.references_eq {opcode : Opcode} {line : Nat} {operands : List Token}
    {arguments : List Argument} (takes : Takes opcode operands arguments)
    (same : ∀ t ∈ operands, t.line = line) :
    (opcode.signature.zip operands).filterMap (fun x => x.2.reference? x.1) =
        arguments.filterMap (Argument.reference? line) ∧
      definitions operands = [] := by
  cases takes with
  | implied => exact ⟨rfl, rfl⟩
  | written fill =>
    -- The induction is on the slots, whichever opcode they belong to.
    generalize opcode.signature = slots at fill
    induction fill with
    | nil => exact ⟨rfl, rfl⟩
    | cons stands _ ih =>
      obtain ⟨rfl, others⟩ := List.forall_mem_cons.mp same
      obtain ⟨refers, defines⟩ := stands.reference?_eq
      obtain ⟨later, noLabels⟩ := ih others
      constructor
      · rw [List.zip_cons_cons, List.filterMap_cons, List.filterMap_cons, later, refers]
      · rw [definitions, List.filterMap_cons, defines]
        exact noLabels

/-- **The labels of the items** are those of the text. -/
theorem Splits.references_eq (splits : Splits tokens items) :
    references tokens = (drafts items).flatMap Draft.references ∧
      definitions tokens = definedNames items := by
  induction splits with
  | nil =>
    rw [references, statements]
    exact ⟨rfl, rfl⟩
  | @label name line rest items splits ih =>
    rw [references, statements]
    exact ⟨ih.1, congrArg (name :: ·) ih.2⟩
  | @instruction opcode line operands rest arguments items same stops takes splits ih =>
    obtain ⟨refers, noLabels⟩ := takes.references_eq same
    -- The operands of an instruction are what is left of its line.
    obtain ⟨taken, left⟩ := takeWhile_line same stops
    constructor
    · rw [references, statements]
      dsimp only
      rw [taken, left, List.flatMap_cons, ← references, ih.1]
      exact congrArg (· ++ _) refers
    · change definitions (operands ++ rest) = definedNames items
      rw [definitions, List.filterMap_append, ← definitions, ← definitions, noLabels, ih.2]
      rfl

/-- A label that has been resolved is in the table. -/
theorem Argument.Means.exists_find? {line : Nat} {a : Argument} {o : Operand} {r : String × Nat}
    (means : a.Means labels o) (refers : a.reference? line = some r) :
    ∃ target, labels.find? r.1 = some target := by
  cases means with
  | operand => cases refers
  | label found =>
    obtain rfl := Option.some.inj refers
    exact ⟨_, found⟩

/-- A draft that yields an instruction refers to defined labels only. -/
theorem Draft.Yields.exists_find? {d : Draft} {i : Instruction} {r : String × Nat}
    (yields : d.Yields labels i) (refers : r ∈ d.references) :
    ∃ target, labels.find? r.1 = some target := by
  obtain ⟨a, ha, refers⟩ := List.mem_filterMap.mp refers
  obtain ⟨o, -, means⟩ := exists_of_forall₂ yields.operands a ha
  exact means.exists_find? refers

/-- A draft is not resolved if a label is missing, and the first such label is reported. -/
theorem Draft.exists_of_resolve_eq_error {d : Draft} (failed : d.resolve labels = .error e) :
    ∃ name before after, d.references = before ++ (name, d.line) :: after ∧
      (∀ r ∈ before, ∃ target, labels.find? r.1 = some target) ∧ labels.find? name = none ∧
      e = ⟨d.line, .undefinedLabel name⟩ := by
  rw [Draft.resolve] at failed
  split at failed
  next => cases failed
  next cause failedArgument =>
    obtain rfl := Except.error.inj failed
    -- The arguments are resolved in order, so all before the one that fails have been resolved.
    obtain ⟨before, a, after, split, resolved, here⟩ := exists_of_mapM_eq_error failedArgument
    cases a with
    | operand o => cases here
    | label name =>
      rw [Argument.resolve] at here
      split at here
      next => cases here
      next missing =>
        obtain rfl := Except.error.inj here
        refine ⟨name, before.filterMap (Argument.reference? d.line),
          after.filterMap (Argument.reference? d.line), ?_, fun r hr => ?_, missing, rfl⟩
        · rw [Draft.references, split, List.filterMap_append]
          rfl
        · obtain ⟨a, ha, refers⟩ := List.mem_filterMap.mp hr
          obtain ⟨o, resolved⟩ := resolved a ha
          exact (Argument.resolve_eq_ok_iff.mp resolved).exists_find? refers

/-- **The missing label that is reported** is the first one that the text refers to. -/
theorem parse_eq_error_cases (failed : parse tokens = .error e) :
    assemble 0 .empty (statements tokens) = .error e ∨
      ∃ items name, Splits tokens items ∧ (definedNames items).Nodup ∧
        e.cause = .undefinedLabel name ∧
        (references tokens).find? (fun r => r.1 ∉ definitions tokens) = some (name, e.line) := by
  rcases bind_eq_error_iff.mp failed with assembled | ⟨⟨ds, table⟩, assembled, failed⟩
  · exact .inl assembled
  rcases bind_eq_error_iff.mp failed with unresolved | ⟨_, -, ⟨⟩⟩
  obtain ⟨items, splits, fresh, rfl, rfl⟩ := assemble_eq_ok_iff.mp assembled
  obtain ⟨refers, defines⟩ := splits.references_eq
  -- A label is in the table just if the text defines it.
  have table (n : String) :
      (∃ target, (tableFrom 0 .empty items).find? n = some target) ↔ n ∈ definitions tokens := by
    rw [defines, mem_definedNames_iff]
    simp [find?_tableFrom fresh]
  -- The first draft that is not resolved, and in it the first label that is missing.
  obtain ⟨before, d, after, split, resolved, here⟩ := exists_of_mapM_eq_error unresolved
  obtain ⟨name, front, back, refersHere, found, missing, rfl⟩ :=
    Draft.exists_of_resolve_eq_error here
  refine .inr ⟨items, name, splits, fresh.nodup, rfl, ?_⟩
  rw [List.find?_eq_some_iff_append]
  constructor
  · rw [decide_eq_true_iff, ← table, missing]
    simp
  · refine ⟨before.flatMap Draft.references ++ front, back ++ after.flatMap Draft.references, ?_,
      fun r hr => ?_⟩
    · rw [refers, split, List.flatMap_append, List.flatMap_cons, refersHere]
      simp
    · -- Everything in front has been resolved.
      have defined : ∃ target, (tableFrom 0 .empty items).find? r.1 = some target := by
        rcases List.mem_append.mp hr with earlier | same
        · obtain ⟨d', hd', hr⟩ := List.mem_flatMap.mp earlier
          obtain ⟨i, resolved⟩ := resolved d' hd'
          exact (Draft.resolve_eq_ok_iff.mp resolved).exists_find? hr
        · exact found r same
      simpa using (table r.1).mp defined

/-! ### Labels that are added -/

/-- A text with a further line for each name, which defines it as a label. -/
def defining (source : String) (names : List String) : String :=
  names.foldl (fun text name => text ++ "\n" ++ (name ++ ":")) source

/-- Texts on different lines are split on their own. -/
theorem Splits.append (splits : Splits front items) (splits' : Splits back items')
    (apart : ∀ t ∈ front, ∀ u ∈ back, u.line ≠ t.line) :
    Splits (front ++ back) (items ++ items') := by
  induction splits with
  | nil => exact splits'
  | label _ ih => exact .label (ih fun t ht => apart t (List.mem_cons_of_mem _ ht))
  | instruction same stops takes _ ih =>
    have stops := head?_append_line_ne stops (apart _ List.mem_cons_self)
    have more := ih fun t ht => apart t (List.mem_cons_of_mem _ (List.mem_append_right _ ht))
    rw [List.cons_append, List.append_assoc]
    exact .instruction same stops takes more

/-- The one token on a line that defines a label. -/
private theorem tokenize_label (identifier : isIdentifier name.toList) :
    tokenize (name ++ ":") = [⟨.label name, 1⟩] := by
  have plain := plain_of_isIdentifier identifier
  have line := Text.lines_singleton plain.label_line.clean.1 (by simp)
  have chars : (name ++ ":").toList = name.toList ++ [':'] := String.toList_append
  rw [tokenize, chars, line, linesTokens, lineTokens_label identifier, String.ofList_toList]
  rfl

/-- **Added lines become items at the end.** -/
theorem splits_defining {names : List String} {source : String}
    (splits : Splits (tokenize source) items)
    (identifiers : ∀ name ∈ names, isIdentifier name.toList) :
    Splits (tokenize (defining source names)) (items ++ names.map .label) := by
  induction names generalizing source items with
  | nil => simpa [defining] using splits
  | cons name names ih =>
    obtain ⟨here, others⟩ := List.forall_mem_cons.mp identifiers
    -- The new label stands on a line of its own, which is behind all lines of the text.
    have step : Splits (tokenize (source ++ "\n" ++ (name ++ ":"))) (items ++ [.label name]) := by
      rw [tokenize_append_newline, tokenize_label here]
      refine splits.append (.label .nil) fun t ht u hu => ?_
      obtain rfl := List.mem_singleton.mp hu
      have inside := line_lt_of_mem_linesTokens ht
      have := Text.length_linesFrom_le [] source.toList
      change 1 + (source.toList.count '\n' + 1) ≠ t.line
      rw [Text.lines] at inside
      omega
    have more := ih step others
    rwa [List.append_assoc] at more

/-- **A text whose only fault are missing labels** becomes a program when these are defined. -/
theorem exists_compile_defining {source : String} {names : List String}
    (splits : Splits (tokenize source) items) (once : (definedNames items).Nodup)
    (distinct : names.Nodup)
    (missing : ∀ n, n ∈ names ↔
      (∃ line, (n, line) ∈ references (tokenize source)) ∧ n ∉ definitions (tokenize source)) :
    ∃ p, compile (defining source names) = .ok p := by
  have identifiers : ∀ n ∈ names, isIdentifier n.toList := fun n hn => by
    obtain ⟨line, refers⟩ := ((missing n).mp hn).1
    exact isIdentifier_of_mem_linesTokens (word_mem_of_mem_references refers) rfl
  obtain ⟨refers, defines⟩ := splits.references_eq
  rw [refers, defines] at missing
  -- Nothing is defined twice, as only missing names are added, and nothing is missing any more.
  have grammatical : Grammatical (items ++ names.map .label) := by
    constructor
    · rw [definedNames_append, definedNames_labels]
      refine List.Nodup.append once distinct fun n defined added => ?_
      exact ((missing n).mp added).2 defined
    · rw [drafts_append, drafts_labels, definedNames_append, definedNames_labels, List.append_nil]
      intro d hd n uses
      by_cases defined : n ∈ definedNames items
      · exact List.mem_append_left _ defined
      · refine List.mem_append_right _ ((missing n).mpr ⟨⟨d.line, ?_⟩, defined⟩)
        exact List.mem_flatMap.mpr ⟨d, hd, List.mem_filterMap.mpr ⟨_, uses, rfl⟩⟩
  obtain ⟨p, describes⟩ := grammatical.exists_describes
  exact ⟨p, parse_eq_ok_iff_describes.mpr
    ⟨_, splits_defining splits identifiers, grammatical.once, describes⟩⟩

/-! ### Errors of texts -/

/-- What an error says about the text that it is reported for. -/
structure CompileError.Local (source : String) (e : CompileError) : Prop where
  /-- The error is reported for a line of the text. -/
  inside : 1 ≤ e.line ∧ e.line ≤ (Text.lines source.toList).length
  /-- Unless a label is missing, every text that begins with the lines up to this one has the same
  error: nothing behind the line can change or hide it. -/
  settled : (∀ name, e.cause ≠ .undefinedLabel name) → ∀ text : String,
    (Text.lines text.toList).take e.line = (Text.lines source.toList).take e.line →
      compile text = .error e
  /-- A label that is reported as missing is the first one, in the order of the text, that the text
  refers to and does not define, and it stands on this line. -/
  earliest : ∀ name, e.cause = .undefinedLabel name →
    (references (tokenize source)).find? (fun r => r.1 ∉ definitions (tokenize source)) =
      some (name, e.line)
  /-- Then no other error is in the text: it is a program when all missing labels are defined in
  further lines, in any order. -/
  alone : ∀ name, e.cause = .undefinedLabel name → ∀ names : List String, names.Nodup →
    (∀ n, n ∈ names ↔
      (∃ line, (n, line) ∈ references (tokenize source)) ∧ n ∉ definitions (tokenize source)) →
    ∃ p, compile (defining source names) = .ok p

/-- Every token stands on a line of the text. -/
private theorem line_of_mem_tokenize {source : String} {t : Token} (h : t ∈ tokenize source) :
    1 ≤ t.line ∧ t.line ≤ (Text.lines source.toList).length := by
  have first := le_line_of_mem_linesTokens h
  have last := line_lt_of_mem_linesTokens h
  omega

/-- The statements of a text, up to some line and behind it. -/
private theorem statements_tokenize (source : String) (line : Nat) :
    statements (tokenize source) =
      statements (linesTokens 1 ((Text.lines source.toList).take line)) ++
        statements (linesTokens (1 + ((Text.lines source.toList).take line).length)
          ((Text.lines source.toList).drop line)) := by
  rw [← statements_append, ← linesTokens_append, List.take_append_drop]
  · rfl
  · intro t ht u hu
    have := line_lt_of_mem_linesTokens ht
    have := le_line_of_mem_linesTokens hu
    omega

/-- **Texts that begin with the same lines** have the same fault there. -/
theorem assemble_eq_error_of_take_eq {source text : String}
    (failed : assemble placed labels (statements (tokenize source)) = .error e)
    (inside : e.line ≤ (Text.lines source.toList).length)
    (same : (Text.lines text.toList).take e.line = (Text.lines source.toList).take e.line) :
    assemble placed labels (statements (tokenize text)) = .error e := by
  rw [statements_tokenize source e.line, List.length_take_of_le inside] at failed
  rw [statements_tokenize text e.line, same]
  refine assemble_append_of_error failed (fun s hs => ?_) _
  have := le_line_of_mem_linesTokens (subset_of_mem_statements hs List.mem_cons_self)
  omega

/-- **Every error is local.** -/
theorem compile_error_local {source : String} {e : CompileError}
    (failed : compile source = .error e) : e.Local source := by
  -- The error comes from the assembly, which stops at its line, or from a missing label, and then
  -- the assembly has gone through.
  rcases parse_eq_error_cases failed with assembled | ⟨items, name, splits, once, cause, earliest⟩
  · obtain ⟨before, s, after, split, line, fault, -⟩ := stops_of_assemble_eq_error assembled
    have statement : s ∈ statements (tokenize source) :=
      split ▸ List.mem_append_right _ List.mem_cons_self
    have inside := line_of_mem_tokenize (subset_of_mem_statements statement List.mem_cons_self)
    rw [← line] at inside
    refine ⟨inside, fun _ text same => ?_, fun n same => absurd same (fault n),
      fun n same => absurd same (fault n)⟩
    have fails := assemble_eq_error_of_take_eq assembled inside.2 same
    exact bind_eq_error_iff.mpr (.inl fails)
  · have word := word_mem_of_mem_references (List.mem_of_find?_eq_some earliest)
    refine ⟨line_of_mem_tokenize word, fun other => absurd cause (other name), fun n same => ?_,
      fun _ _ names => exists_compile_defining splits once⟩
    obtain rfl := CompileError.Cause.undefinedLabel.inj (cause.symm.trans same)
    exact earliest

/-- An operand is missing on the second line of two texts that differ in the ends of their lines and
behind that line; and in a third text two labels are missing. -/
theorem compile_error_local_two_lines :
    let source := "MOV ACC, 1\r\nloop: ADD ACC\nJMP nowhere"
    let text := "MOV ACC, 1\nloop: ADD ACC\r\nloop: 7\n"
    let unfinished := "here: JMP here\nMOVE ; no heading\nJMP away\nJE b\nJNE away\n"
    compile source = .error ⟨2, .missingOperand .add .source⟩ ∧
      compile text = .error ⟨2, .missingOperand .add .source⟩ ∧
      compile unfinished = .error ⟨3, .undefinedLabel "away"⟩ ∧
      ∃ p, compile (defining unfinished ["b", "away"]) = .ok p := by
  intro source text unfinished
  have failed : compile source = .error ⟨2, .missingOperand .add .source⟩ := by decide +kernel
  have same : (Text.lines text.toList).take 2 = (Text.lines source.toList).take 2 := by
    decide +kernel
  have missing : compile unfinished = .error ⟨3, .undefinedLabel "away"⟩ := by decide +kernel
  have refers : references (tokenize unfinished) =
      [("here", 1), ("away", 3), ("b", 4), ("away", 5)] := by decide +kernel
  have defines : definitions (tokenize unfinished) = ["here"] := by decide +kernel
  refine ⟨failed, (compile_error_local failed).settled (by simp) text same, missing,
    (compile_error_local missing).alone "away" rfl ["b", "away"] (by decide) fun n => ?_⟩
  rw [refers, defines]
  simp only [List.mem_cons, List.not_mem_nil, or_false, Prod.mk.injEq]
  constructor
  · rintro (rfl | rfl)
    · exact ⟨⟨4, by simp⟩, by decide⟩
    · exact ⟨⟨3, by simp⟩, by decide⟩
  · rintro ⟨⟨line, ⟨rfl, -⟩ | ⟨rfl, -⟩ | ⟨rfl, -⟩ | ⟨rfl, -⟩⟩, undefined⟩
    · exact absurd rfl undefined
    · exact .inr rfl
    · exact .inl rfl
    · exact .inr rfl

end TankDuel.Assembly

import TankDuel.Command.Run
import TankDuel.Proofs.Battle.Observation
import TankDuel.Proofs.Sequence

/-!
# A printed battle and its last state

The command that plays a battle is an observer like any other. It keeps the snapshot after the
latest turn, and those of all turns if a trace is wanted (`notes_eq`). As every battle has a turn,
there is a last snapshot, and it agrees with the result that is printed beside it.

`Loads` says what the files and the options of a command come to. Where they come to nothing, the
command ends with an error of reading, never for want of a turn (`runOutput_ne_unplayed`).
-/

namespace TankDuel.Command

open Battle

/-- The files and options of a command give two programs, settings, and an arena with a name. -/
structure Loads (files : Files) (o : RunOptions) (programs : Pair Program) (config : Config)
    (arena : Arena) (name : String) : Prop where
  first : readProgram files o.bots.first = .ok programs.first
  second : readProgram files o.bots.second = .ok programs.second
  config : settings files o.config o.turns = .ok config
  arena : arenaOf files o = .ok (arena, name)

/-! ### What is noted -/

/-- The notes that a command takes of a list of battles. -/
theorem notes_eq (keep : Bool) (notes : RunNotes) (seen : List Battle) :
    (seen.foldl (RunNotes.add keep) notes).trace.toList
        = notes.trace.toList ++ (if keep then seen.map Battle.snapshot else []) ∧
      (seen.foldl (RunNotes.add keep) notes).last
        = (seen.getLast?.map Battle.snapshot).or notes.last := by
  induction seen generalizing notes with
  | nil => cases keep <;> simp
  | cons b seen ih =>
    obtain ⟨trace, last⟩ := ih (notes.add keep b)
    rw [List.foldl_cons]
    constructor
    · rw [trace]
      cases keep <;> simp [RunNotes.add]
    · rw [last, List.getLast?_cons]
      cases seen.getLast? <;> rfl

/-! ### Errors of reading -/

/-- No error is one that the renaming of errors never gives. -/
private theorem mapError_ne {ε ε' α : Type} {f : ε → ε'} {e' : ε'} (differs : ∀ e, f e ≠ e')
    (x : Except ε α) : x.mapError f ≠ .error e' := by
  cases x with
  | error e => exact fun h => differs e (Except.error.inj h)
  | ok a => exact nofun

/-- A file that cannot be read is reported as such. -/
private theorem readFile_ne_unplayed (files : Files) (name : String) :
    readFile files name ≠ .error .unplayed := mapError_ne nofun _

/-- A program that cannot be read is reported as such. -/
private theorem readProgram_ne_unplayed (files : Files) (name : String) :
    readProgram files name ≠ .error .unplayed := by
  intro failed
  rcases bind_eq_error_iff.mp failed with unread | ⟨source, -, unfit⟩
  · exact readFile_ne_unplayed files name unread
  · exact mapError_ne nofun _ unfit

/-- Settings that cannot be read are reported as such. -/
private theorem settings_ne_unplayed (files : Files) (name : Option String)
    (turns : Option UInt32) : settings files name turns ≠ .error .unplayed := by
  intro failed
  unfold settings at failed
  cases name with
  | none => exact mapError_ne nofun _ failed
  | some name =>
    rcases bind_eq_error_iff.mp failed with unread | ⟨config, -, unfit⟩
    · exact mapError_ne nofun _ unread
    · exact mapError_ne nofun _ unfit

/-- An arena that cannot be found is reported as such. -/
private theorem arenaOf_ne_unplayed (files : Files) (o : RunOptions) :
    arenaOf files o ≠ .error .unplayed := by
  intro failed
  unfold arenaOf at failed
  split at failed
  · next name _ =>
    rcases bind_eq_error_iff.mp failed with unread | ⟨text, -, failed⟩
    · exact readFile_ne_unplayed files name unread
    · rcases bind_eq_error_iff.mp failed with unfit | ⟨_, -, impossible⟩
      · exact mapError_ne nofun _ unfit
      · cases impossible
  · rcases bind_eq_error_iff.mp failed with unknown | ⟨_, -, impossible⟩
    · exact mapError_ne nofun _ unknown
    · cases impossible

/-! ### What is printed -/

variable {files : Files} {o : RunOptions} {programs : Pair Program} {config : Config}
  {arena : Arena} {name : String}

/-- The last battle that is seen is there to be shown. -/
private theorem exists_last_snapshot {start : Battle} {seen : List Battle} {r : BattleResult}
    (h : SeenThrough start seen r) :
    ∃ state, seen.getLast?.map Battle.snapshot = some state ∧ state.Agrees r := by
  obtain ⟨last, isLast, -, agrees⟩ := h.outcome_eq
  exact ⟨last.snapshot, by rw [isLast]; rfl, agrees⟩

/-- A battle whose parts are loaded is played and printed. -/
theorem Loads.run_eq (h : Loads files o programs config arena name) {r : BattleResult}
    {notes : RunNotes} {state : Snapshot} (shown : notes.last = some state)
    (played : runObserved programs arena config (RunNotes.add o.trace) ⟨#[], none⟩
      = .ok (r, notes)) :
    run files o = ⟨match o.format with
      | .text => battleText o (o.bots.map botName) name r notes
      | .json => (Report.battleJson (o.bots.map botName) name r state notes.trace.toList).text
          ++ "\n", none⟩ := by
  have output : runOutput files o = battleOutput o (o.bots.map botName) name r notes := by
    rw [runOutput, h.first, h.second, h.config, h.arena]
    show (runObserved programs arena config _ _).mapError Error.battle >>= _ = _
    rw [played]
    rfl
  rw [run, output, battleOutput, shown]
  cases o.format <;> rfl

/-- The printed object shows the result and, beside it, the last state. -/
private theorem exists_members_battleJson (names : Pair String) (arena : String) (r : BattleResult)
    (state : Snapshot) (trace : List Snapshot) :
    ∃ members, Report.battleJson names arena r state trace = .object members ∧
      ("result", Report.resultJson r) ∈ members ∧
      ("state", Report.snapshotJson state) ∈ members := by
  refine ⟨_, rfl, ?_, ?_⟩
  · exact List.mem_append_left _ (by simp)
  · exact List.mem_append_left _ (by simp)

/-- **A command always has a battle to show.** -/
theorem runOutput_ne_unplayed (files : Files) (o : RunOptions) :
    runOutput files o ≠ .error .unplayed := by
  intro failed
  -- Each step of the command fails for reasons of its own.
  rcases bind_eq_error_iff.mp failed with first | ⟨first, -, failed⟩
  · exact readProgram_ne_unplayed files _ first
  rcases bind_eq_error_iff.mp failed with second | ⟨second, -, failed⟩
  · exact readProgram_ne_unplayed files _ second
  rcases bind_eq_error_iff.mp failed with unset | ⟨config, -, failed⟩
  · exact settings_ne_unplayed files _ _ unset
  rcases bind_eq_error_iff.mp failed with unplaced | ⟨⟨arena, name⟩, -, failed⟩
  · exact arenaOf_ne_unplayed files o unplaced
  rcases bind_eq_error_iff.mp failed with refused | ⟨⟨r, notes⟩, played, failed⟩
  · exact mapError_ne nofun _ refused
  obtain ⟨seen, r', through, -, observed⟩ := exists_seenThrough ⟨first, second⟩ arena config
  rw [observed] at played
  obtain ⟨rfl, rfl⟩ := Prod.mk.inj (Except.ok.inj played)
  obtain ⟨state, isLast, -⟩ := exists_last_snapshot through
  obtain ⟨-, last⟩ := notes_eq o.trace ⟨#[], none⟩ seen
  rw [isLast] at last
  simp only [battleOutput, last] at failed
  cases format : o.format <;> rw [format] at failed <;> cases failed

/-- **Observation is faithful.** Whatever the programs, the arena and the settings are, an observer
sees the battle after each of its turns, with the turns counted from 1. It is undecided each time
but the last, and the last time it shows the outcome and the tanks of the result. The battles that
are seen and the result are the same for every observer and for none.

So a command that prints a battle has a last state to show, and this agrees with the result that is
printed with it: both are members of the one object that is printed as JSON. -/
theorem observed_faithfully :
    (∀ programs arena config, ∃ seen r, SeenThrough (setUp programs arena config) seen r ∧
      runBattle programs arena config = .ok r ∧
      ∀ (σ : Type) (observe : σ → Battle → σ) (notes : σ),
        runObserved programs arena config observe notes = .ok (r, seen.foldl observe notes)) ∧
    (∀ files o, (run files o).error ≠ some .unplayed) ∧
    ∀ files o programs config arena name, Loads files o programs config arena name →
      ∃ seen r notes state, SeenThrough (setUp programs arena config) seen r ∧
        runBattle programs arena config = .ok r ∧
        runObserved programs arena config (RunNotes.add o.trace) ⟨#[], none⟩ = .ok (r, notes) ∧
        notes.trace.toList = (if o.trace then seen.map Battle.snapshot else []) ∧
        seen.getLast?.map Battle.snapshot = some state ∧ notes.last = some state ∧
        state.Agrees r ∧
        run files o = ⟨match o.format with
          | .text => battleText o (o.bots.map botName) name r notes
          | .json => (Report.battleJson (o.bots.map botName) name r state notes.trace.toList).text
              ++ "\n", none⟩ ∧
        ∃ members, Report.battleJson (o.bots.map botName) name r state notes.trace.toList
            = .object members ∧
          ("result", Report.resultJson r) ∈ members ∧
          ("state", Report.snapshotJson state) ∈ members := by
  refine ⟨exists_seenThrough, ?_, ?_⟩
  · intro files o unplayed
    have settled := runOutput_ne_unplayed files o
    rw [run] at unplayed
    cases output : runOutput files o with
    | ok text => rw [output] at unplayed; cases unplayed
    | error e =>
      rw [output] at unplayed settled
      exact settled (congrArg Except.error (Option.some.inj unplayed))
  · intro files o programs config arena name loads
    -- One list of battles serves every observer, so the one that prints is shown the same as all
    -- others.
    obtain ⟨seen, r, through, unobserved, observed⟩ := exists_seenThrough programs arena config
    obtain ⟨state, isLast, agrees⟩ := exists_last_snapshot through
    have played := observed _ (RunNotes.add o.trace) ⟨#[], none⟩
    obtain ⟨trace, last⟩ := notes_eq o.trace ⟨#[], none⟩ seen
    rw [isLast] at last
    exact ⟨seen, r, _, state, through, unobserved, played, trace, isLast, last, agrees,
      loads.run_eq last played, exists_members_battleJson ..⟩

/-- Two programs that halt at once are printed with the state after the first turn. -/
theorem observed_faithfully_halting :
    let files : Files := fun name => if name = "bots/quit.asm" then .ok "HALT" else .error .missing
    let o : RunOptions :=
      { bots := ⟨"bots/quit.asm", "bots/quit.asm"⟩, format := .json, trace := true }
    let quit : Program := ⟨[⟨.halt, [], 1⟩], .empty⟩
    Loads files o ⟨quit, quit⟩ {} Level.openField.arena "level 1" ∧ (run files o).error = none ∧
      ∃ r, ∃ notes : RunNotes, ∃ state, runBattle ⟨quit, quit⟩ Level.openField.arena {} = .ok r ∧
        notes.last = some state ∧ state.Agrees r ∧ notes.trace.size = 1 ∧ r.turnsPlayed = 1 ∧
        (run files o).output = (Report.battleJson ⟨"quit", "quit"⟩ "level 1" r state
          notes.trace.toList).text ++ "\n" := by
  intro files o quit
  have read : readProgram files "bots/quit.asm" = .ok quit :=
    toOption_eq_some_iff.mp (by decide +kernel)
  have loads : Loads files o ⟨quit, quit⟩ {} Level.openField.arena "level 1" :=
    ⟨read, read, rfl, toOption_eq_some_iff.mp (by decide +kernel)⟩
  obtain ⟨-, -, shown⟩ := observed_faithfully
  obtain ⟨seen, r, notes, state, through, played, -, trace, -, last, agrees, printed, -⟩ :=
    shown files o _ _ _ _ loads
  have brief : r.turnsPlayed = 1 := by
    have result : (runBattle ⟨quit, quit⟩ Level.openField.arena {}).toOption.map
        BattleResult.turnsPlayed = some 1 := by decide +kernel
    rw [played] at result
    exact Option.some.inj result
  refine ⟨loads, by rw [printed], r, notes, state, played, last, agrees, ?_, brief, ?_⟩
  · rw [← Array.length_toList, trace, if_pos rfl, List.length_map, through.length_eq, brief]
  · have names : o.bots.map botName = ⟨"quit", "quit"⟩ := by decide +kernel
    rw [printed, names]

end TankDuel.Command

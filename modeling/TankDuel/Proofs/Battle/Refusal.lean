import TankDuel.Proofs.Battle.Ending

/-!
# Refused requests

A request to a battle may be refused. This file says exactly when, and that a refused request leaves
the battle as it was.

* `step_isSome_iff`, `runUntilReady_isSome_iff` — a machine can be stepped, and run, while the
  battle goes on, the tank is alive and there is a machine.
* `runsUntilReady_iff_serve` — running a machine is a loop of single steps, which might have made
  some of them before one is refused. It has not: a step leaves the tank alive and the battle
  undecided, so a loop that has begun goes on until the machine is ready.
* `load_eq_error_iff` — two texts are loaded unless one of them is no program, and the first tank is
  blamed first.
* `refusals_exact` puts these together for all battles that can arise.

Loading, resolving and a single step settle all that can go wrong before they begin, and their types
say so: a refusal comes without a battle. What remains to be shown for them is when they are
refused.
-/

namespace TankDuel

/-- A request was refused. -/
def Reply.Refused : Reply → Prop
  | .done => False
  | .loaded result => ∃ error, result = .error error
  | .stepped result => result = none
  | .ran action => action = none
  | .resolved error => error ≠ none

/-- Only a number that a tank has can be answered for. -/
theorem Side.isSome_bind_ofNumber?_iff {α : Type} {number : Nat} {f : Side → Option α} :
    ((ofNumber? number).bind f).isSome ↔ ∃ side : Side, number = side.number ∧ (f side).isSome := by
  cases named : ofNumber? number with
  | none =>
    refine iff_of_false (by simp) ?_
    rintro ⟨side, rfl, -⟩
    exact absurd (named.symm.trans (ofNumber?_number side)) (by simp)
  | some side =>
    constructor
    · intro answered
      exact ⟨side, ofNumber?_eq_some_iff.mp named, answered⟩
    · rintro ⟨side', rfl, answered⟩
      obtain rfl := Option.some.inj (named.symm.trans (ofNumber?_number side'))
      exact answered

namespace Battle

variable {b b' : Battle} {side : Side} {action : Option Action}

/-! ### Steps -/

/-- The machine of a tank can be stepped. -/
structure Steppable (b : Battle) (side : Side) : Prop where
  undecided : b.outcome = none
  alive : (b.tank side).isAlive
  equipped : (b.tank side).cpu.isSome

/-- **When a step is refused.** -/
theorem step_isSome_iff : (b.step side).isSome ↔ b.Steppable side := by
  constructor
  · intro goes
    obtain ⟨⟨result, b'⟩, stepped⟩ := Option.isSome_iff_exists.mp goes
    obtain ⟨running, t, tankStepped, -⟩ := step_eq_some_iff.mp stepped
    obtain ⟨alive, cpu, -, hasCpu, -⟩ := Tank.step_eq_some_iff.mp tankStepped
    exact ⟨isOver_eq_false_iff.mp running, alive, Option.isSome_of_eq_some hasCpu⟩
  · rintro ⟨undecided, alive, equipped⟩
    obtain ⟨cpu, hasCpu⟩ := Option.isSome_iff_exists.mp equipped
    obtain ⟨result, b', stepped⟩ :=
      exists_step (isOver_eq_false_iff.mpr undecided) alive hasCpu
    exact Option.isSome_of_eq_some stepped

/-- **When running is refused.** It is where a single step is. -/
theorem runUntilReady_isSome_iff : (b.runUntilReady side).isSome ↔ b.Steppable side := by
  rw [← step_isSome_iff]
  cases stepped : b.step side with
  | none =>
    rw [runUntilReady_of_refused stepped]
    rfl
  | some outcome =>
    obtain ⟨action, count, ran, -⟩ := runUntilReady_of_step stepped
    rw [ran]
    rfl

/-! ### The loop of steps -/

/-- The loop ends with what the request to run is answered with. -/
private theorem runsUntilReady_serve (b : Battle) (side : Side) :
    ∃ action b', b.serve (.run side.number) = (.ran action, b') ∧
      RunsUntilReady side b action b' := by
  rw [serve, runNumberUntilReady, Side.ofNumber?_number, Option.bind_some]
  cases stepped : b.step side with
  | none =>
    rw [runUntilReady_of_refused stepped]
    exact ⟨none, b, rfl, .refused stepped⟩
  | some outcome =>
    obtain ⟨action, count, ran, -⟩ := runUntilReady_of_step stepped
    rw [ran]
    exact ⟨some action, _, rfl, runFor_runs ran⟩

/-- **Running a machine is the loop of its steps.** -/
theorem runsUntilReady_iff_serve :
    RunsUntilReady side b action b' ↔ b.serve (.run side.number) = (.ran action, b') := by
  obtain ⟨action₀, b₀, served, runs⟩ := runsUntilReady_serve b side
  rw [served]
  constructor
  · intro h
    obtain ⟨rfl, rfl⟩ := runs.unique h
    rfl
  · rintro ⟨⟩
    exact runs

/-! ### Loading and resolving -/

/-- **When loading is refused.** -/
theorem load_eq_error_iff {sources : Pair String} {error : LoadError} :
    b.load sources = .error error ↔
      (error.tank = .first ∧ Assembly.compile sources.first = .error error.error) ∨
        (error.tank = .second ∧ (∃ p, Assembly.compile sources.first = .ok p) ∧
          Assembly.compile sources.second = .error error.error) := by
  obtain ⟨tank, cause⟩ := error
  unfold load compilePair
  -- The text of the second tank is compiled only if the first one is a program.
  cases Assembly.compile sources.first with
  | error cause₁ => simp [Except.map, eq_comm]
  | ok first =>
    cases Assembly.compile sources.second with
    | error cause₂ => simp [Except.map, eq_comm]
    | ok second => simp [Except.map]

/-- Two texts are loaded if and only if each of them is a program. -/
private theorem exists_load_iff {sources : Pair String} :
    (∃ b', b.load sources = .ok b') ↔
      ∀ side, ∃ p, Assembly.compile (sources.get side) = .ok p := by
  simp only [load_eq_ok_iff]
  unfold compilePair
  constructor
  · rintro ⟨-, programs, compiled, -⟩
    -- The texts are compiled one after the other, so both have come through if there is a result.
    split at compiled
    next => exact absurd compiled nofun
    next first =>
      split at compiled
      next => exact absurd compiled nofun
      next second =>
        rintro (_ | _)
        · exact ⟨_, first⟩
        · exact ⟨_, second⟩
  · intro compiled
    obtain ⟨p, first⟩ := compiled .first
    obtain ⟨q, second⟩ := compiled .second
    refine ⟨b.install ⟨p, q⟩, ⟨p, q⟩, ?_, rfl⟩
    change Assembly.compile sources.first = _ at first
    change Assembly.compile sources.second = _ at second
    rw [first, second]

/-- A tank is ready if it is destroyed or an action waits in the slot of its machine. -/
theorem isReady_iff :
    b.isReady side ↔ ¬(b.tank side).isAlive ∨
      ∃ cpu action, (b.tank side).cpu = some cpu ∧ cpu.pending = some action := by
  rw [isReady, Tank.isReady, Bool.or_eq_true, Bool.not_eq_true', Bool.not_eq_true,
    Option.isSome_iff_exists]
  refine or_congr_right ?_
  -- The slot is the one of the machine, if the tank has one.
  simp only [Tank.pending?, Option.bind_eq_some_iff]
  exact exists_comm

/-! ### All requests -/

/-- **A refused request changes nothing.** -/
theorem serve_of_refused {request : Request} (refused : (b.serve request).1.Refused) :
    (b.serve request).2 = b := by
  -- Restarts are never refused. Of the others each comes with a battle only where it is done.
  cases request with
  | setLevel | setArena | install | reset => exact refused.elim
  | load sources =>
    rw [serve] at refused ⊢
    split
    next b' loaded =>
      obtain ⟨programs, compiled, -⟩ := load_eq_ok_iff.mp loaded
      rw [loaded] at refused
      obtain ⟨error, failed⟩ := refused
      exact absurd (compiled.symm.trans failed) (by simp)
    next => rfl
  | step number =>
    rw [serve] at refused ⊢
    split
    next result b' stepped =>
      rw [stepped] at refused
      exact absurd refused (by simp [Reply.Refused])
    next => rfl
  | run number =>
    rw [serve] at refused ⊢
    split
    next action b' ran =>
      rw [ran] at refused
      exact absurd refused (by simp [Reply.Refused])
    next => rfl
  | resolve =>
    rw [serve] at refused ⊢
    split
    next b' resolved =>
      rw [resolved] at refused
      exact absurd rfl refused
    next => rfl

/-- Requests are refused exactly where they should be, and then nothing changes. -/
structure RefusesExactly (b : Battle) : Prop where
  /-- A turn is resolved just where programs are installed, the battle goes on and both tanks are
  destroyed or have an action pending. -/
  resolve : (∃ b', b.resolveTurn = .ok b') ↔
    b.hasPrograms ∧ b.outcome = none ∧ ∀ side, ¬(b.tank side).isAlive ∨
      ∃ cpu action, (b.tank side).cpu = some cpu ∧ cpu.pending = some action
  /-- It counts as one, and leaves no action pending. -/
  resolved : ∀ b', b.resolveTurn = .ok b' → b'.turn = b.turn + 1 ∧
    ∀ side cpu, (b'.tank side).cpu = some cpu → cpu.pending = none
  /-- A machine is stepped just where the number is that of a living tank with a machine and the
  battle goes on. -/
  step : ∀ number, (b.stepNumber number).isSome ↔
    ∃ side : Side, number = side.number ∧ b.Steppable side
  run : ∀ number, (b.runNumberUntilReady number).isSome ↔
    ∃ side : Side, number = side.number ∧ b.Steppable side
  /-- Running is the loop of steps, and what the loop comes to is what the request is answered
  with. -/
  loop : ∀ side action b', RunsUntilReady side b action b' ↔
    b.serve (.run side.number) = (.ran action, b')
  /-- Two texts are loaded just where both are programs. -/
  load : ∀ sources : Pair String, (∃ b', b.load sources = .ok b') ↔
    ∀ side, ∃ p, Assembly.compile (sources.get side) = .ok p
  /-- The error is that of the first tank's text if that one is no program, else of the second
  tank's. -/
  blame : ∀ (sources : Pair String) (error : LoadError), b.load sources = .error error ↔
    (error.tank = .first ∧ Assembly.compile sources.first = .error error.error) ∨
      (error.tank = .second ∧ (∃ p, Assembly.compile sources.first = .ok p) ∧
        Assembly.compile sources.second = .error error.error)
  /-- A refused request leaves the battle as it was. What is refused at once yields no battle at
  all, so for single operations this is a matter of their types. Running is the one request that is
  made up of several; that none of them has been made before it is refused is said by `loop`. -/
  unchanged : ∀ request, (b.serve request).1.Refused → (b.serve request).2 = b

/-- **Refusals are exact.** In every battle that can arise, requests are refused just where they
should be, and a refused request changes nothing. -/
theorem refusals_exact (config : Config) (past : List Request) :
    ((new config).after past).RefusesExactly := by
  have orderly := (poised_after config past).1
  generalize (new config).after past = b at orderly
  constructor
  · simp only [resolveTurn_eq_ok_iff, isOver_eq_false_iff, isReady_iff]
    constructor
    · rintro ⟨-, installed, undecided, ready, -⟩
      exact ⟨installed, undecided, ready⟩
    · rintro ⟨installed, undecided, ready⟩
      exact ⟨_, installed, undecided, ready, rfl⟩
  · intro b' resolved
    obtain ⟨-, -, -, rfl⟩ := resolveTurn_eq_ok_iff.mp resolved
    exact ⟨congrArg Frame.turn (frame_playTurn orderly), fun side cpu => pending_playTurn⟩
  · intro number
    rw [stepNumber, Side.isSome_bind_ofNumber?_iff]
    simp only [step_isSome_iff]
  · intro number
    rw [runNumberUntilReady, Side.isSome_bind_ofNumber?_iff]
    simp only [runUntilReady_isSome_iff]
  · exact fun _ _ _ => runsUntilReady_iff_serve
  · exact fun _ => exists_load_iff
  · exact fun _ _ => load_eq_error_iff
  · exact fun _ => serve_of_refused

end Battle

end TankDuel

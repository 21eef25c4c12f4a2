import Mathlib.Logic.Relation
import Mathlib.Tactic.SplitIfs
import TankDuel.Battle.Turn

/-!
# Requests to a battle

A battle is driven from outside by **requests**: change the arena, put in programs, start afresh,
step a machine, resolve a turn. `Battle.serve` answers one request with a reply and the battle
afterwards, `Battle.after` is the battle after a list of them. A refused request leaves the battle
as it was. The battles that can arise at all under some settings are the
`(Battle.new config).after requests`.

There are many requests but only three things that they can do to a battle, and `Battle.Change`
lists them:

* start afresh, on some arena and with some programs or none;
* one micro-step of one machine;
* one resolved turn.

`Battle.after_changes` says that every list of requests comes to a sequence of such changes, so a
property of battles that all three keep holds after any requests (`Battle.after_invariant`).
Running a machine until it is ready is no change of its own: it is a sequence of micro-steps
(`Battle.runFor_changes`).

`Battle.step_eq_some_iff` and `Battle.resolveTurn_eq_ok_iff` invert the last two changes.
-/

namespace TankDuel

/-- Something that can be asked of a battle. Tanks are named by numbers, and a number may be one
that no tank has. -/
inductive Request where
  | setLevel (level : Level)
  | setArena (arena : Arena)
  /-- Compile two source texts and install them. -/
  | load (sources : Pair String)
  | install (programs : Pair Program)
  | reset
  /-- One micro-step of a machine. -/
  | step (number : Nat)
  /-- Micro-steps of a machine until it is ready. -/
  | run (number : Nat)
  /-- Resolve the turn. -/
  | resolve
deriving DecidableEq

/-- What a request is answered with. -/
inductive Reply where
  | done
  | loaded (result : Except LoadError (Pair Program))
  /-- What the micro-step produced, unless it was refused. -/
  | stepped (result : Option StepResult)
  /-- The action that the machine is ready with, unless running it was refused. -/
  | ran (action : Option Action)
  /-- Why the turn was not resolved, if it was not. -/
  | resolved (error : Option TurnError)

namespace Battle

/-- Answer a request. -/
def serve (b : Battle) : Request → Reply × Battle
  | .setLevel level => (.done, b.setLevel level)
  | .setArena arena => (.done, b.setArena arena)
  | .load sources =>
    match b.load sources with
    | .ok b => (.loaded (compilePair sources), b)
    | .error error => (.loaded (.error error), b)
  | .install programs => (.done, b.install programs)
  | .reset => (.done, b.reset)
  | .step number =>
    match b.stepNumber number with
    | some (result, b) => (.stepped (some result), b)
    | none => (.stepped none, b)
  | .run number =>
    match b.runNumberUntilReady number with
    | some (action, b) => (.ran (some action), b)
    | none => (.ran none, b)
  | .resolve =>
    match b.resolveTurn with
    | .ok b => (.resolved none, b)
    | .error error => (.resolved (some error), b)

/-- The battle after some requests, each succeeding or refused. -/
def after (b : Battle) (requests : List Request) : Battle :=
  requests.foldl (fun b request => (b.serve request).2) b

/-- Requests are served one after another. -/
@[simp] theorem after_cons (b : Battle) (request : Request) (requests : List Request) :
    b.after (request :: requests) = (b.serve request).2.after requests := rfl

/-- What one go can do to a battle. -/
inductive Change : Battle → Battle → Prop
  | restart (b : Battle) (arena : Arena) (programs : Option (Pair Program)) :
    Change b (fresh b.config arena programs)
  | step {b b' : Battle} {side : Side} {result : StepResult} :
    b.step side = some (result, b') → Change b b'
  | turn {b b' : Battle} : b.resolveTurn = .ok b' → Change b b'

/-- Loading is compiling and installing. -/
theorem load_eq_ok_iff {b b' : Battle} {sources : Pair String} :
    b.load sources = .ok b' ↔
      ∃ programs, compilePair sources = .ok programs ∧ b' = b.install programs := by
  unfold load
  cases compilePair sources with
  | error error => simp [Except.map]
  | ok programs => simp [Except.map, eq_comm]

/-- Running a machine is a sequence of micro-steps. -/
theorem runFor_changes {side : Side} {steps : Nat} {b b' : Battle} {action : Action}
    (h : runFor side steps b = some (action, b')) : Relation.ReflTransGen Change b b' := by
  induction steps generalizing b with
  | zero => exact absurd h (by simp [runFor])
  | succ steps ih =>
    rw [runFor] at h
    split at h
    · exact absurd h (by simp)
    · next a b₁ stepped =>
      obtain ⟨-, rfl⟩ : a = action ∧ b₁ = b' := by simpa using h
      exact .single (.step stepped)
    · -- The machine has to go on working, with one step less.
      next b₁ stepped => exact .head (.step stepped) (ih h)

/-- **Inversion of a request.** Whatever is asked, the battle goes through changes only. -/
theorem serve_changes (b : Battle) (request : Request) :
    Relation.ReflTransGen Change b (b.serve request).2 := by
  -- All requests are one change or none, but for a run, which is a change for each step.
  cases request with
  | setLevel level => exact .single (.restart b level.arena b.programs)
  | setArena arena => exact .single (.restart b arena b.programs)
  | load sources =>
    rw [serve]
    split
    · next b' loaded =>
      obtain ⟨programs, -, rfl⟩ := load_eq_ok_iff.mp loaded
      exact .single (.restart b b.arena (some programs))
    · exact .refl
  | install programs => exact .single (.restart b b.arena (some programs))
  | reset => exact .single (.restart b b.arena b.programs)
  | step number =>
    rw [serve]
    split
    · next result b' stepped =>
      obtain ⟨side, -, stepped⟩ := Option.bind_eq_some_iff.mp stepped
      exact .single (.step stepped)
    · exact .refl
  | run number =>
    rw [serve]
    split
    · next action b' ran =>
      obtain ⟨side, -, ran⟩ := Option.bind_eq_some_iff.mp ran
      exact runFor_changes ran
    · exact .refl
  | resolve =>
    rw [serve]
    split
    · next b' resolved => exact .single (.turn resolved)
    · exact .refl

/-- Any requests come to some changes. -/
theorem after_changes (b : Battle) (requests : List Request) :
    Relation.ReflTransGen Change b (b.after requests) := by
  induction requests generalizing b with
  | nil => exact .refl
  | cons request requests ih => exact (serve_changes b request).trans (ih _)

/-- A property that every change keeps holds after any requests. -/
theorem after_invariant {P : Battle → Prop} (keep : ∀ {b b'}, Change b b' → P b → P b')
    {b : Battle} (h : P b) (requests : List Request) : P (b.after requests) := by
  -- From here on only the changes matter and not the requests that they come from.
  have changes := after_changes b requests
  generalize b.after requests = b' at changes
  induction changes with
  | refl => exact h
  | tail _ change ih => exact keep change ih

/-! ### Inversion of the changes -/

/-- A battle goes on as long as it has no outcome. -/
theorem isOver_eq_false_iff {b : Battle} : b.isOver = false ↔ b.outcome = none := by
  rw [isOver, Option.isSome_eq_false_iff, Option.isNone_iff_eq_none]

/-- A step of a battle is a step of the tank. -/
theorem step_eq_some_iff {b b' : Battle} {side : Side} {result : StepResult} :
    b.step side = some (result, b') ↔
      b.isOver = false ∧ ∃ tank, (b.tank side).step (!b.hasBullet side) = some (result, tank) ∧
        b' = { b with tanks := b.tanks.set side tank } := by
  unfold step
  cases b.isOver with
  | true => simp
  | false =>
    cases (b.tank side).step (!b.hasBullet side) with
    | none => simp
    | some stepped =>
      obtain ⟨result', tank⟩ := stepped
      -- The tank that has been stepped takes the place of the old one, and all else stays.
      constructor
      · intro h
        obtain ⟨rfl, rfl⟩ : result' = result ∧ { b with tanks := b.tanks.set side tank } = b' := by
          simpa using h
        exact ⟨rfl, tank, rfl, rfl⟩
      · rintro ⟨-, tank', same, rfl⟩
        obtain ⟨rfl, rfl⟩ : result' = result ∧ tank = tank' := by simpa using same
        rfl

/-- When a turn is resolved, and what it comes to. -/
theorem resolveTurn_eq_ok_iff {b b' : Battle} :
    b.resolveTurn = .ok b' ↔
      b.hasPrograms ∧ b.isOver = false ∧ (∀ side, b.isReady side) ∧ b' = b.playTurn := by
  unfold resolveTurn
  constructor
  · intro h
    split_ifs at h with installed running first second
    refine ⟨by simpa using installed, by simpa using running, ?_, by simpa using h.symm⟩
    rintro (_ | _)
    · simpa using first
    · simpa using second
  · rintro ⟨installed, running, ready, rfl⟩
    simp [installed, running, ready]

end Battle

end TankDuel

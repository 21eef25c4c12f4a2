import Mathlib.Data.List.DropRight
import TankDuel.Proofs.Battle.Refusal

/-!
# What has happened to a battle

A battle does not keep what has been asked of it. `Battle.history` lists what has happened to it
behind some requests: it was started afresh, a machine made a micro-step with some result, or a turn
was resolved. A refused request leaves no trace in it, and running a machine leaves one trace for
each micro-step (`Battle.incidents_run`).

`Battle.Unfolds` says the same as a relation: one incident happens after the other, and each takes
the battle where it is to be afterwards (`Battle.unfolds_after`). So what holds of a fresh battle
without a history, and is kept by each incident, holds of every battle that can arise and its
history.

Histories are there to count in. `Incident.opsSince` counts the operations that a machine has done
since the last incident of some kind.
-/

namespace TankDuel

/-- Something that happens to a battle. -/
inductive Incident where
  /-- It is started afresh. -/
  | restarted
  /-- A machine makes a micro-step. -/
  | stepped (side : Side) (result : StepResult)
  /-- A turn is resolved. -/
  | resolved
deriving DecidableEq

namespace Battle

/-- What an incident makes of a battle. -/
inductive Happens (b : Battle) : Incident → Battle → Prop
  | restarted (arena : Arena) (programs : Option (Pair Program)) :
    Happens b .restarted (fresh b.config arena programs)
  | stepped {side : Side} {result : StepResult} {b' : Battle} :
    b.step side = some (result, b') → Happens b (.stepped side result) b'
  | resolved {b' : Battle} : b.resolveTurn = .ok b' → Happens b .resolved b'

/-- One incident happens after the other. -/
inductive Unfolds (b : Battle) : List Incident → Battle → Prop
  | refl : Unfolds b [] b
  | tail {history : List Incident} {incident : Incident} {b₁ b' : Battle} :
    Unfolds b history b₁ → b₁.Happens incident b' → Unfolds b (history ++ [incident]) b'

/-- The results of the micro-steps that a machine makes until it is ready, of at most `steps` of
them. -/
def results (side : Side) : (steps : Nat) → Battle → List StepResult
  | 0, _ => []
  | steps + 1, b =>
    match b.step side with
    | none => []
    | some (.ready action, _) => [.ready action]
    | some (.working, b) => .working :: results side steps b

/-- What happens to a battle that is asked something. -/
def incidents (b : Battle) : Request → List Incident
  | .setLevel _ | .setArena _ | .install _ | .reset => [.restarted]
  | .load sources =>
    match b.load sources with
    | .ok _ => [.restarted]
    | .error _ => []
  | .step number =>
    match Side.ofNumber? number with
    | some side =>
      match b.step side with
      | some (result, _) => [.stepped side result]
      | none => []
    | none => []
  | .run number =>
    match Side.ofNumber? number with
    | some side =>
      if (b.runUntilReady side).isSome then
        (results side (b.stepsLeft side) b).map (.stepped side)
      else []
    | none => []
  | .resolve =>
    match b.resolveTurn with
    | .ok _ => [.resolved]
    | .error _ => []

/-- What happens to a battle that is asked one thing after the other. -/
def history (b : Battle) : List Request → List Incident
  | [] => []
  | request :: requests => b.incidents request ++ (b.serve request).2.history requests

variable {b b₁ b' : Battle} {side : Side} {action : Action} {history more : List Incident}
  {incident : Incident}

/-! ### Incidents and requests -/

/-- What happens is a change. -/
theorem Happens.change (h : b.Happens incident b') : Change b b' := by
  cases h with
  | restarted arena programs => exact .restart b arena programs
  | stepped stepped => exact .step stepped
  | resolved resolved => exact .turn resolved

/-- One thing that happens is a history. -/
theorem Unfolds.single (h : b.Happens incident b') : b.Unfolds [incident] b' := .tail .refl h

/-- Histories can be put together. -/
theorem Unfolds.trans (h : b.Unfolds history b₁) (h' : b₁.Unfolds more b') :
    b.Unfolds (history ++ more) b' := by
  induction h' with
  | refl => rwa [List.append_nil]
  | tail _ happens ih =>
    rw [← List.append_assoc]
    exact .tail ih happens

/-- What every change keeps holds behind every history. -/
theorem Unfolds.invariant {P : Battle → Prop} (keep : ∀ {b b'}, Change b b' → P b → P b')
    (unfolds : b.Unfolds history b') (h : P b) : P b' := by
  induction unfolds with
  | refl => exact h
  | tail _ happens ih => exact keep happens.change ih

/-- **A machine does some operations**, one micro-step for each. -/
inductive Works (side : Side) : Nat → Battle → Battle → Prop
  | refl {b : Battle} : Works side 0 b b
  | head {n : Nat} {b b₁ b' : Battle} :
    b.step side = some (.working, b₁) → Works side n b₁ b' → Works side (n + 1) b b'

/-- After no operations the battle is as it was. -/
theorem works_zero_iff : Works side 0 b b' ↔ b' = b := by
  constructor
  · rintro ⟨⟩
    rfl
  · rintro rfl
    exact .refl

/-- Operations are steps of the machine. -/
theorem Works.unfolds {n : Nat} (h : Works side n b b') :
    b.Unfolds (List.replicate n (.stepped side .working)) b' := by
  induction h with
  | refl => exact .refl
  | head stepped _ ih => exact (Unfolds.single (.stepped stepped)).trans ih

/-- A bounded loop that gets a machine ready does so behind some operations, and these are its
results. -/
private theorem exists_works_of_runFor {steps : Nat} (h : runFor side steps b = some (action, b')) :
    ∃ n b₁, Works side n b b₁ ∧ b₁.step side = some (.ready action, b') ∧
      results side steps b = List.replicate n .working ++ [.ready action] := by
  induction steps generalizing b with
  | zero => cases h
  | succ steps ih =>
    rw [runFor] at h
    split at h
    next => cases h
    next stepped =>
      obtain ⟨rfl, rfl⟩ := Prod.mk.inj (Option.some.inj h)
      exact ⟨0, b, .refl, stepped, by rw [results, stepped]; rfl⟩
    next stepped =>
      obtain ⟨n, b₁, works, ready, same⟩ := ih h
      -- One more step of work in front of the run.
      refine ⟨n + 1, b₁, .head stepped works, ready, ?_⟩
      rw [results, stepped]
      exact congrArg (List.cons .working) same

/-- **What happens when a machine is run**: it does some operations and is ready with the step
behind them. -/
theorem incidents_run (ran : b.runUntilReady side = some (action, b')) :
    ∃ n b₁, Works side n b b₁ ∧ b₁.step side = some (.ready action, b') ∧
      b.incidents (.run side.number) =
        List.replicate n (.stepped side .working) ++ [.stepped side (.ready action)] := by
  obtain ⟨n, b₁, works, ready, same⟩ := exists_works_of_runFor ran
  refine ⟨n, b₁, works, ready, ?_⟩
  simp [incidents, ran, same]

/-- **A request is answered by incidents.** -/
theorem unfolds_serve (b : Battle) (request : Request) :
    b.Unfolds (b.incidents request) (b.serve request).2 := by
  -- The answer and the incidents split alike, by whether the request is refused.
  cases request with
  | setLevel level => exact .single (.restarted level.arena b.programs)
  | setArena arena => exact .single (.restarted arena b.programs)
  | install programs => exact .single (.restarted b.arena (some programs))
  | reset => exact .single (.restarted b.arena b.programs)
  | load sources =>
    cases loaded : b.load sources with
    | ok b' =>
      obtain ⟨programs, -, rfl⟩ := load_eq_ok_iff.mp loaded
      simp only [serve, incidents, loaded]
      exact .single (.restarted b.arena (some programs))
    | error error =>
      simp only [serve, incidents, loaded]
      exact .refl
  | step number =>
    cases named : Side.ofNumber? number with
    | none =>
      simp only [serve, incidents, stepNumber, named, Option.bind_none]
      exact .refl
    | some side =>
      simp only [serve, incidents, stepNumber, named, Option.bind_some]
      cases stepped : b.step side with
      | none => exact .refl
      | some outcome => exact .single (.stepped stepped)
  | run number =>
    cases named : Side.ofNumber? number with
    | none =>
      simp only [serve, incidents, runNumberUntilReady, named, Option.bind_none]
      exact .refl
    | some side =>
      obtain rfl := Side.ofNumber?_eq_some_iff.mp named
      cases ran : b.runUntilReady side with
      | none =>
        simp only [serve, incidents, runNumberUntilReady, named, Option.bind_some, ran]
        exact .refl
      | some outcome =>
        -- A run is some operations and the step that makes the machine ready.
        obtain ⟨n, b₁, works, ready, same⟩ := incidents_run ran
        simp only [serve, runNumberUntilReady, named, Option.bind_some, ran, same]
        exact works.unfolds.tail (.stepped ready)
  | resolve =>
    cases resolved : b.resolveTurn with
    | ok b' =>
      simp only [serve, incidents, resolved]
      exact .single (.resolved resolved)
    | error error =>
      simp only [serve, incidents, resolved]
      exact .refl

/-- **Every history has happened.** -/
theorem unfolds_after (b : Battle) (requests : List Request) :
    b.Unfolds (b.history requests) (b.after requests) := by
  induction requests generalizing b with
  | nil => exact .refl
  | cons request requests ih => exact (unfolds_serve b request).trans (ih _)

end Battle

/-! ### Counting in a history -/

namespace Incident

/-- Whether a new turn begins. -/
def opensTurn : Incident → Bool
  | restarted | resolved => true
  | stepped _ _ => false

/-- Whether the battle begins anew. -/
def restarts : Incident → Bool
  | restarted => true
  | resolved | stepped _ _ => false

/-- How many operations the machine of a side has done since the last incident of some kind. -/
def opsSince (kind : Incident → Bool) (side : Side) (history : List Incident) : Nat :=
  (history.rtakeWhile fun i => !kind i).count (.stepped side .working)

variable (kind : Incident → Bool) (side : Side) (history : List Incident)

/-- An operation is counted until the count starts again. -/
theorem opsSince_concat (incident : Incident) :
    opsSince kind side (history ++ [incident]) =
      if kind incident then 0
      else opsSince kind side history + if incident = .stepped side .working then 1 else 0 := by
  unfold opsSince
  rw [List.rtakeWhile_concat]
  cases kind incident with
  | true => rfl
  | false =>
    change ((history.rtakeWhile fun i => !kind i) ++ [incident]).count _ = _
    rw [List.count_append, List.count_singleton]
    simp

/-- Operations in a row are counted one by one. -/
theorem opsSince_works (n : Nat) (goesOn : kind (.stepped side .working) = false) :
    opsSince kind side (history ++ List.replicate n (.stepped side .working)) =
      opsSince kind side history + n := by
  induction n with
  | zero => rw [List.replicate_zero, List.append_nil, Nat.add_zero]
  | succ n ih =>
    rw [List.replicate_succ', ← List.append_assoc, opsSince_concat, goesOn, ih]
    simp [Nat.add_assoc]

end Incident

end TankDuel

import Mathlib.Logic.Function.Iterate
import TankDuel.Proofs.Battle.Turn
import TankDuel.Proofs.Machine.Step

/-!
# Micro-steps between turns

Between two turns machines are stepped in any order and any number of times. This file shows that
neither matters.

A micro-step changes one tank only, and what it does to that tank depends on nothing but the tank
itself and on whether it has a bullet in flight, which micro-steps do not change. So a sequence of
micro-steps comes to applying `Tank.tick` to each tank as often as its number occurs
(`Battle.after_steps`), and the order is lost.

The number is lost as well, because a ready tank stands still (`Tank.tick_of_isReady`). This needs
an invariant. Before each step the sensors are shown to the machine anew, which rewrites five
registers; that changes nothing only if the registers hold just that already. `Tank.Steady` says
that they do as long as an action is pending. It is kept because the step that latches an action
does not write registers, and because what the sensors show does not change until the turn is
resolved, which opens the slot again.

The main statements are

* `Battle.steps_confluent` — any two sequences of micro-steps that leave both tanks ready lead to
  the same battle, which is also the one that running both machines leads to;
* `Battle.Poised.ticks_eq` — the same in terms of `Battle.ticks`, for any battle with the invariant;
* `Battle.Poised.prepareBoth` — running both machines makes both tanks ready, since the budget of
  operations runs out.
-/

namespace TankDuel

/-! ### One tank -/

namespace Tank

variable {t t' : Tank} {ammo : Bool} {result : StepResult}

/-- When a tank is stepped, and what the step comes to. -/
theorem step_eq_some_iff :
    t.step ammo = some (result, t') ↔
      t.isAlive ∧ ∃ cpu cpu', t.cpu = some cpu ∧
        (cpu.sense (t.sensors ammo)).step = (result, cpu') ∧
        t' = { t with
          cpu := some cpu'
          totalOps := if result.endsTurn then t.totalOps else t.totalOps + 1 } := by
  unfold step
  cases t.isAlive with
  | false => simp
  | true =>
    cases t.cpu with
    | none => simp
    | some cpu =>
      constructor
      · intro h
        obtain ⟨rfl, rfl⟩ := Prod.mk.inj (Option.some.inj h)
        exact ⟨rfl, cpu, _, rfl, rfl, rfl⟩
      · rintro ⟨-, cpu₁, cpu', same, h, rfl⟩
        obtain rfl : cpu = cpu₁ := Option.some.inj same
        simp only [if_true, h]

/-- A step does not move the tank. -/
theorem pose_step (h : t.step ammo = some (result, t')) : t'.pose = t.pose := by
  obtain ⟨-, _, _, -, -, rfl⟩ := step_eq_some_iff.mp h
  rfl

/-- Whether a tank is alive is told by its pose. -/
theorem isAlive_congr (h : t'.pose = t.pose) : t'.isAlive = t.isAlive := by
  have hp : t'.hp = t.hp := congrArg Pose.hp h
  unfold isAlive
  rw [hp]

/-- A tank after a micro-step, or as it is if it cannot be stepped. -/
def tick (ammo : Bool) (t : Tank) : Tank :=
  match t.step ammo with
  | some (_, t') => t'
  | none => t

/-- A step does not take the machine away. -/
private theorem isSome_cpu_tick (ammo : Bool) (h : t.cpu.isSome) : (t.tick ammo).cpu.isSome := by
  unfold tick
  split
  next stepped =>
    obtain ⟨-, _, _, -, -, rfl⟩ := step_eq_some_iff.mp stepped
    rfl
  next => exact h

/-- A step that is made is a tick. -/
private theorem tick_of_step (h : t.step ammo = some (result, t')) : t.tick ammo = t' := by
  unfold tick
  rw [h]

/-- Micro-steps change neither place nor facing nor hit points. -/
theorem pose_tick (ammo : Bool) (t : Tank) : (t.tick ammo).pose = t.pose := by
  unfold tick
  split
  next stepped => exact pose_step stepped
  next => rfl

/-- Any steps do not move the tank. -/
private theorem pose_iterate (ammo : Bool) (n : Nat) (t : Tank) :
    ((tick ammo)^[n] t).pose = t.pose := by
  induction n generalizing t with
  | zero => rfl
  | succ n ih => exact (ih _).trans (pose_tick ammo t)

/-- As long as an action is pending, a living tank's machine shows what the sensors say. -/
def Steady (ammo : Bool) (t : Tank) : Prop :=
  t.isAlive → ∀ cpu, t.cpu = some cpu → cpu.pending ≠ none → cpu.Shows (t.sensors ammo)

/-- A machine without a pending action need not show anything. -/
theorem Steady.of_idle (h : ∀ cpu, t.cpu = some cpu → cpu.pending = none) : t.Steady ammo :=
  fun _ cpu hasCpu pending => absurd (h cpu hasCpu) pending

/-- **A ready tank stands still.** -/
theorem tick_of_isReady (steady : t.Steady ammo) (ready : t.isReady) : t.tick ammo = t := by
  unfold tick
  split
  next result t' stepped =>
    obtain ⟨alive, cpu, cpu', hasCpu, machine, rfl⟩ := step_eq_some_iff.mp stepped
    have latched : cpu.pending.isSome := by
      simpa [isReady, alive, pending?, hasCpu] using ready
    obtain ⟨action, pending⟩ := Option.isSome_iff_exists.mp latched
    -- The action is still pending, so the machine shows the sensors already.
    have shows : cpu.Shows (t.sensors ammo) :=
      steady alive cpu hasCpu (by rw [pending]; exact Option.some_ne_none _)
    rw [shows.sense_eq, Cpu.step_of_pending pending] at machine
    obtain ⟨rfl, rfl⟩ := Prod.mk.inj machine
    rw [← hasCpu]
    rfl
  next => rfl

/-- After a step the machine shows what the sensors say, since it was shown them before. -/
theorem Steady.step (h : t.step ammo = some (result, t')) : t'.Steady ammo := by
  obtain ⟨-, cpu, cpu', -, machine, rfl⟩ := step_eq_some_iff.mp h
  have stepped := Cpu.stepped_of_step_eq machine
  intro _ cpu'' hasCpu pending
  obtain rfl : cpu' = cpu'' := Option.some.inj hasCpu
  cases result with
  | ready action => exact (Cpu.shows_sense cpu _).step stepped
  | working =>
    -- Work leaves the slot empty.
    cases stepped with
    | worked runs => exact absurd runs.idle pending

/-- A tick keeps a tank steady, whether it is made or not. -/
theorem Steady.tick (steady : t.Steady ammo) : (t.tick ammo).Steady ammo := by
  unfold Tank.tick
  split
  next stepped => exact .step stepped
  next => exact steady

/-- Any ticks keep a tank steady. -/
theorem Steady.iterate (steady : t.Steady ammo) (n : Nat) :
    ((Tank.tick ammo)^[n] t).Steady ammo := by
  induction n generalizing t with
  | zero => exact steady
  | succ n ih => exact ih steady.tick

end Tank

/-- Two fixed points that iterating from one start leads to are the same. -/
private theorem iterate_eq_of_fixed {α : Type} {f : α → α} {x : α} {m n : Nat}
    (hm : f (f^[m] x) = f^[m] x) (hn : f (f^[n] x) = f^[n] x) : f^[m] x = f^[n] x := by
  rcases Nat.le_total m n with le | le
  · -- The later point is reached from the earlier one, which is fixed.
    obtain ⟨d, rfl⟩ := Nat.exists_eq_add_of_le' le
    rw [Function.iterate_add_apply, Function.iterate_fixed hm]
  · obtain ⟨d, rfl⟩ := Nat.exists_eq_add_of_le' le
    rw [Function.iterate_add_apply, Function.iterate_fixed hn]

namespace Battle

variable {b b' : Battle} {side : Side} {result : StepResult} {action : Action}

/-! ### A micro-step of a battle -/

/-- The tanks after a step. -/
theorem tank_step (h : b.step side = some (result, b')) (s : Side) :
    b'.tank s = if s = side then (b.tank s).tick (!b.hasBullet s) else b.tank s := by
  obtain ⟨-, t, stepped, rfl⟩ := step_eq_some_iff.mp h
  change (b.tanks.set side t).get s = _
  rw [Pair.get_set]
  split
  next same =>
    subst same
    exact (Tank.tick_of_step stepped).symm
  next => rfl

/-! ### Many micro-steps -/

/-- A battle after some micro-steps of each machine. -/
def ticks (b : Battle) (counts : Side → Nat) : Battle :=
  { b with
    tanks := Pair.ofFn fun side => (Tank.tick (!b.hasBullet side))^[counts side] (b.tank side) }

/-- So many micro-steps of one machine, and none of the other one. -/
def only (side : Side) (count : Nat) : Side → Nat := fun s => if s = side then count else 0

variable (b) in
/-- The tanks after some ticks. -/
@[simp] theorem tank_ticks (counts : Side → Nat) (s : Side) :
    (b.ticks counts).tank s = (Tank.tick (!b.hasBullet s))^[counts s] (b.tank s) :=
  Pair.get_ofFn _ s

variable (b) in
/-- Ticks move no tank. -/
@[simp] theorem pose_ticks (counts : Side → Nat) (s : Side) :
    ((b.ticks counts).tank s).pose = (b.tank s).pose := by
  rw [tank_ticks]
  exact Tank.pose_iterate ..

/-- Two battles that differ in tanks only are told apart by a tank. -/
private theorem eq_ticks {counts : Side → Nat} (rest : { b' with tanks := b.tanks } = b)
    (h : ∀ s, b'.tank s = (b.ticks counts).tank s) : b' = b.ticks counts := by
  have same : b'.tanks = (b.ticks counts).tanks := Pair.ext_get h
  change b' = { b with tanks := (b.ticks counts).tanks }
  rw [← same]
  exact (congrArg (fun battle => { battle with tanks := b'.tanks }) rest :)

variable (b) in
/-- After no ticks the battle is as it was. -/
@[simp] theorem ticks_zero : (b.ticks fun _ => 0) = b :=
  (eq_ticks rfl fun s => (tank_ticks b (fun _ => 0) s).symm).symm

variable (b) in
/-- Ticks can be made in two goes. -/
private theorem ticks_ticks (counts more : Side → Nat) :
    (b.ticks counts).ticks more = b.ticks fun s => more s + counts s := by
  refine eq_ticks rfl fun s => ?_
  rw [tank_ticks, tank_ticks, tank_ticks, Function.iterate_add_apply]
  rfl

/-- A step that is made is one tick of one machine. -/
theorem ticks_of_step (h : b.step side = some (result, b')) : b' = b.ticks (only side 1) := by
  have ticked := tank_step h
  obtain ⟨-, t, -, rfl⟩ := step_eq_some_iff.mp h
  refine eq_ticks rfl fun s => (ticked s).trans ?_
  rw [tank_ticks, only]
  split <;> rfl

/-- A tank that cannot be stepped stays as it is. -/
private theorem ticks_of_refused (running : b.isOver = false) (h : b.step side = none) :
    b = b.ticks (only side 1) := by
  have refused : (b.tank side).step (!b.hasBullet side) = none := by
    cases stepped : (b.tank side).step (!b.hasBullet side) with
    | none => rfl
    | some outcome =>
      have goes := step_eq_some_iff.mpr ⟨running, outcome.2, stepped, rfl⟩
      exact absurd (h.symm.trans goes) (by simp)
  refine eq_ticks rfl fun s => ?_
  rw [tank_ticks, only]
  split
  next same =>
    subst same
    change b.tank s = (b.tank s).tick (!b.hasBullet s)
    rw [Tank.tick, refused]
  next => rfl

/-- A request for a step is a tick of the machine that it names. -/
private theorem serve_step (running : b.isOver = false) (number : Nat) :
    (b.serve (.step number)).2 = b.ticks fun s => if number = s.number then 1 else 0 := by
  rw [serve, stepNumber]
  cases named : Side.ofNumber? number with
  | none =>
    -- No tank has the number, and the request is refused.
    have nobody (s : Side) : number ≠ s.number := by
      rintro rfl
      exact absurd (named.symm.trans (Side.ofNumber?_number s)) (by simp)
    simp [nobody]
  | some side =>
    have counts : (fun s : Side => if number = s.number then 1 else 0) = only side 1 := by
      funext s
      have same : number = s.number ↔ s = side := by
        rw [← Side.ofNumber?_eq_some_iff, named, Option.some.injEq, eq_comm]
      simp only [only, same]
    rw [counts, Option.bind_some]
    cases stepped : b.step side with
    | some outcome => exact ticks_of_step stepped
    | none => exact ticks_of_refused running stepped

/-- **The order is lost.** Micro-steps in any order come to as many micro-steps of each machine as
its number occurs. -/
theorem after_steps (running : b.isOver = false) (numbers : List Nat) :
    b.after (numbers.map .step) = b.ticks fun s => numbers.count s.number := by
  induction numbers generalizing b with
  | nil => exact (ticks_zero b).symm
  | cons number numbers ih =>
    rw [List.map_cons, after_cons, serve_step running]
    rw [ih (b := b.ticks _) running, ticks_ticks]
    congr 1
    funext s
    rw [List.count_cons]
    simp

/-! ### Battles that wait for micro-steps -/

/-- What a battle has to be like for its machines to get ready. -/
structure Poised (b : Battle) : Prop where
  /-- Machines with an action pending show what the sensors say. -/
  steady : ∀ side, (b.tank side).Steady (!b.hasBullet side)
  /-- There are machines once there are programs. -/
  equipped : b.hasPrograms → ∀ side, (b.tank side).cpu.isSome

/-- The machine that a tank starts with. -/
theorem cpu_fresh (config : Config) (arena : Arena) (programs : Option (Pair Program))
    (side : Side) : ((Battle.fresh config arena programs).tank side).cpu =
      programs.map fun p => Cpu.start (p.get side) config.maxOpsPerTurn.toNat :=
  congrArg Tank.cpu (Pair.get_ofFn _ side)

/-- At the start the slots are empty. -/
theorem pending_fresh {config : Config} {arena : Arena} {programs : Option (Pair Program)}
    {cpu : Cpu} (hasCpu : ((Battle.fresh config arena programs).tank side).cpu = some cpu) :
    cpu.pending = none := by
  rw [cpu_fresh, Option.map_eq_some_iff] at hasCpu
  obtain ⟨_, -, rfl⟩ := hasCpu
  rfl

/-- A turn opens all slots. -/
theorem pending_playTurn {cpu : Cpu} (hasCpu : (b.playTurn.tank side).cpu = some cpu) :
    cpu.pending = none := by
  rw [tank_playTurn, Tank.clearPending] at hasCpu
  obtain ⟨_, -, rfl⟩ := Option.map_eq_some_iff.mp hasCpu
  rfl

/-- A battle starts poised. -/
theorem Poised.fresh (config : Config) (arena : Arena) (programs : Option (Pair Program)) :
    (fresh config arena programs).Poised := by
  constructor
  · exact fun side => .of_idle fun cpu hasCpu => pending_fresh hasCpu
  · intro installed side
    rw [cpu_fresh, Option.isSome_map]
    exact installed

/-- After a turn the slots are empty, so the battle is poised. -/
theorem Poised.playTurn (h : b.Poised) (orderly : b.Orderly) : b.playTurn.Poised := by
  constructor
  · exact fun side => .of_idle fun cpu hasCpu => pending_playTurn hasCpu
  · intro installed side
    have samePrograms : b.playTurn.programs = b.programs :=
      congrArg Frame.programs (frame_playTurn orderly)
    rw [hasPrograms, samePrograms] at installed
    rw [cpu_playTurn side orderly, Option.isSome_map, Tank.writeRegisters, Option.isSome_map]
    exact h.equipped installed side

/-- Ticks leave the bullets in order. -/
theorem Orderly.ticks (h : b.Orderly) (counts : Side → Nat) : (b.ticks counts).Orderly :=
  ⟨h.owners, h.ids, h.ids_lt⟩

/-- **Micro-steps keep a battle poised.** -/
theorem Poised.ticks (h : b.Poised) (counts : Side → Nat) : (b.ticks counts).Poised := by
  constructor
  · intro side
    rw [tank_ticks]
    exact (h.steady side).iterate _
  · intro installed side
    have kept {t : Tank} (ammo : Bool) (hasCpu : t.cpu.isSome) (n : Nat) :
        ((Tank.tick ammo)^[n] t).cpu.isSome := by
      induction n generalizing t with
      | zero => exact hasCpu
      | succ n ih => exact ih (Tank.isSome_cpu_tick ammo hasCpu)
    rw [tank_ticks]
    exact kept _ (h.equipped installed side) _

/-- **Whatever happens, the battle stays poised.** -/
theorem Poised.change (change : Change b b') (orderly : b.Orderly) (h : b.Poised) :
    b'.Poised := by
  cases change with
  | restart arena programs => exact .fresh ..
  | step stepped => exact ticks_of_step stepped ▸ h.ticks _
  | turn resolved =>
    obtain ⟨-, -, -, rfl⟩ := resolveTurn_eq_ok_iff.mp resolved
    exact h.playTurn orderly

/-- **The number is lost.** A machine that is ready stands still, so there is but one battle with
both tanks ready that micro-steps lead to. -/
theorem Poised.ticks_eq (h : b.Poised) {counts counts' : Side → Nat}
    (ready : ∀ side, (b.ticks counts).isReady side)
    (ready' : ∀ side, (b.ticks counts').isReady side) : b.ticks counts = b.ticks counts' := by
  have fixed {counts : Side → Nat} (ready : ∀ side, (b.ticks counts).isReady side) (side : Side) :
      Tank.tick (!b.hasBullet side) ((b.ticks counts).tank side) = (b.ticks counts).tank side :=
    Tank.tick_of_isReady ((h.ticks counts).steady side) (ready side)
  refine eq_ticks rfl fun side => ?_
  -- Both tanks come from the same one, and a further micro-step would not change either of them.
  have one := fixed ready side
  have two := fixed ready' side
  rw [tank_ticks] at one two ⊢
  rw [tank_ticks]
  exact iterate_eq_of_fixed one two

/-! ### Running a machine -/

/-- A tank whose machine is not ticked is ready if it was before. -/
private theorem isReady_ticks_of_eq_zero {counts : Side → Nat} (h : counts side = 0) :
    (b.ticks counts).isReady side = b.isReady side := by
  rw [isReady, tank_ticks, h]
  rfl

/-- A step that makes a machine ready makes its tank ready. -/
private theorem isReady_of_step (h : b.step side = some (.ready action, b')) : b'.isReady side := by
  obtain ⟨-, t, stepped, rfl⟩ := step_eq_some_iff.mp h
  obtain ⟨-, cpu, cpu', -, machine, rfl⟩ := Tank.step_eq_some_iff.mp stepped
  have latched : cpu'.pending = some action := (Cpu.stepped_of_step_eq machine).pending_eq
  rw [isReady, tank, Pair.get_set_self, Tank.isReady, Tank.pending?, Option.bind_some, latched]
  exact Bool.or_true _

/-- A machine that has to go on working has a smaller budget left. -/
private theorem budgetLeft_of_step {cpu : Cpu} (hasCpu : (b.tank side).cpu = some cpu)
    (h : b.step side = some (.working, b')) :
    ∃ cpu', (b'.tank side).cpu = some cpu' ∧ cpu'.budgetLeft < cpu.budgetLeft := by
  obtain ⟨-, t, stepped, rfl⟩ := step_eq_some_iff.mp h
  obtain ⟨-, cpu₁, cpu', hasCpu₁, machine, rfl⟩ := Tank.step_eq_some_iff.mp stepped
  obtain rfl : cpu = cpu₁ := Option.some.inj (hasCpu.symm.trans hasCpu₁)
  refine ⟨cpu', by rw [tank, Pair.get_set_self], ?_⟩
  exact (Cpu.stepped_of_step_eq machine).budgetLeft_lt

/-- A living tank with a machine can be stepped. -/
theorem exists_step {cpu : Cpu} (running : b.isOver = false) (alive : (b.tank side).isAlive)
    (hasCpu : (b.tank side).cpu = some cpu) : ∃ result b', b.step side = some (result, b') := by
  obtain ⟨result, cpu', machine⟩ : ∃ result cpu',
      (cpu.sense ((b.tank side).sensors (!b.hasBullet side))).step = (result, cpu') :=
    ⟨_, _, rfl⟩
  have stepped := Tank.step_eq_some_iff.mpr ⟨alive, cpu, cpu', hasCpu, machine, rfl⟩
  exact ⟨result, _, step_eq_some_iff.mpr ⟨running, _, stepped, rfl⟩⟩

/-- **Progress.** More steps than there are operations left make a machine ready. -/
theorem runFor_eq_ticks {steps : Nat} {cpu : Cpu} (running : b.isOver = false)
    (alive : (b.tank side).isAlive) (hasCpu : (b.tank side).cpu = some cpu)
    (budget : cpu.budgetLeft < steps) :
    ∃ action count, runFor side steps b = some (action, b.ticks (only side count)) ∧
      (b.ticks (only side count)).isReady side := by
  induction steps generalizing b cpu with
  | zero => exact absurd budget (Nat.not_lt_zero _)
  | succ steps ih =>
    obtain ⟨result, b', stepped⟩ := exists_step running alive hasCpu
    rw [runFor, stepped]
    have once : b' = b.ticks (only side 1) := ticks_of_step stepped
    cases result with
    | ready action => exact ⟨action, 1, by rw [once], once ▸ isReady_of_step stepped⟩
    | working =>
      obtain ⟨cpu', hasCpu', less⟩ := budgetLeft_of_step hasCpu stepped
      have alive' : (b'.tank side).isAlive := by
        rw [once, Tank.isAlive_congr (pose_ticks b _ side)]
        exact alive
      have running' : b'.isOver = false := by
        rw [once]
        exact running
      obtain ⟨action, count, ran, ready⟩ := ih running' alive' hasCpu' (by omega)
      -- One step and `count` more are `count + 1` steps.
      have counts : (fun s => only side count s + only side 1 s) = only side (count + 1) := by
        funext s
        unfold only
        split <;> rfl
      rw [once, ticks_ticks, counts] at ran ready
      exact ⟨action, count + 1, once ▸ ran, ready⟩

/-- Running a machine is refused where a single step is. -/
theorem runUntilReady_of_refused (h : b.step side = none) : b.runUntilReady side = none := by
  unfold runUntilReady
  cases b.stepsLeft side with
  | zero => rfl
  | succ steps => rw [runFor, h]

/-- Running a machine goes through where a single step does. -/
theorem runUntilReady_of_step (h : b.step side = some (result, b')) :
    ∃ action count, b.runUntilReady side = some (action, b.ticks (only side count)) ∧
      (b.ticks (only side count)).isReady side := by
  obtain ⟨running, t, stepped, -⟩ := step_eq_some_iff.mp h
  obtain ⟨alive, cpu, -, hasCpu, -⟩ := Tank.step_eq_some_iff.mp stepped
  have budget : cpu.budgetLeft < b.stepsLeft side := by
    rw [stepsLeft, hasCpu]
    exact Nat.lt_succ_self _
  exact runFor_eq_ticks running alive hasCpu budget

/-- **Running a machine makes its tank ready.** A destroyed tank is ready as it is. -/
theorem Poised.prepare_eq_ticks (h : b.Poised) (installed : b.hasPrograms)
    (running : b.isOver = false) (side : Side) :
    ∃ count, b.prepare side = b.ticks (only side count) ∧
      (b.ticks (only side count)).isReady side := by
  cases stepped : b.step side with
  | some outcome =>
    obtain ⟨action, count, ran, ready⟩ := runUntilReady_of_step stepped
    refine ⟨count, ?_, ready⟩
    rw [prepare, ran]
  | none =>
    -- Only a destroyed tank is refused here.
    have dead : (b.tank side).isAlive = false := by
      obtain ⟨cpu, hasCpu⟩ := Option.isSome_iff_exists.mp (h.equipped installed side)
      refine Bool.eq_false_iff.mpr fun alive => ?_
      obtain ⟨_, _, goes⟩ := exists_step running alive hasCpu
      exact absurd (stepped.symm.trans goes) (by simp)
    have noSteps : only side 0 = fun _ => 0 := by
      funext s
      exact ite_self _
    refine ⟨0, ?_, ?_⟩
    · rw [prepare, runUntilReady_of_refused stepped, noSteps, ticks_zero]
    · rw [noSteps, ticks_zero, isReady, Tank.isReady, dead]
      rfl

/-- **Both tanks get ready.** -/
theorem Poised.prepareBoth (h : b.Poised) (installed : b.hasPrograms)
    (running : b.isOver = false) :
    ∃ counts, (b.prepare .first).prepare .second = b.ticks counts ∧
      ∀ side, (b.ticks counts).isReady side := by
  obtain ⟨m, first, ready⟩ := h.prepare_eq_ticks installed running .first
  obtain ⟨n, second, ready'⟩ :=
    (h.ticks (only .first m)).prepare_eq_ticks installed running .second
  rw [ticks_ticks] at second
  refine ⟨_, by rw [first, second], fun side => ?_⟩
  -- Running the second machine leaves the first one ready.
  rw [← ticks_ticks]
  cases side with
  | first => rwa [isReady_ticks_of_eq_zero rfl]
  | second => exact ready'

/-- A request for a run prepares the tank that it names. -/
theorem serve_run (side : Side) : (b.serve (.run side.number)).2 = b.prepare side := by
  rw [serve, runNumberUntilReady, Side.ofNumber?_number, Option.bind_some, prepare]
  cases b.runUntilReady side <;> rfl

/-! ### Micro-steps between two turns -/

/-- All battles that can arise are in order and poised. -/
theorem poised_after (config : Config) (past : List Request) :
    ((new config).after past).Orderly ∧ ((new config).after past).Poised :=
  after_invariant (P := fun b => b.Orderly ∧ b.Poised)
    (fun change h => ⟨h.1.change change, h.2.change change h.1⟩) ⟨.fresh .., .fresh ..⟩ past

/-- **Micro-steps are confluent.** In a battle with programs that goes on, let two sequences of
micro-steps, of any machines in any order, both leave both tanks ready. Then they lead to the same
battle, which is the one that running the first machine and then the second leads to, and the turn
that follows goes the same way. -/
theorem steps_confluent (config : Config) (past : List Request)
    (installed : ((new config).after past).hasPrograms)
    (unfinished : ((new config).after past).outcome = none) (numbers numbers' : List Nat)
    (ready : ∀ side, (((new config).after past).after (numbers.map .step)).isReady side)
    (ready' : ∀ side, (((new config).after past).after (numbers'.map .step)).isReady side) :
    let b := (new config).after past
    let settled := b.after [.run 1, .run 2]
    b.after (numbers.map .step) = settled ∧ b.after (numbers'.map .step) = settled ∧
      (b.after (numbers.map .step)).serve .resolve =
        (b.after (numbers'.map .step)).serve .resolve ∧
      settled.resolveTurn = .ok settled.playTurn := by
  have poised := (poised_after config past).2
  generalize (new config).after past = b at *
  intro b settled
  have running : b.isOver = false := by
    rw [isOver, unfinished]
    rfl
  obtain ⟨counts, prepared, bothReady⟩ := poised.prepareBoth installed running
  have settles : settled = b.ticks counts := by
    change ((b.serve (.run Side.first.number)).2.serve (.run Side.second.number)).2 = _
    rw [serve_run, serve_run, prepared]
  -- Whatever order the steps come in, only their number counts, and not even that.
  have same {numbers : List Nat}
      (ready : ∀ side, (b.after (numbers.map .step)).isReady side) :
      b.after (numbers.map .step) = settled := by
    rw [settles, after_steps running]
    refine poised.ticks_eq (fun side => ?_) bothReady
    rw [← after_steps running]
    exact ready side
  refine ⟨same ready, same ready', by rw [same ready, same ready'], ?_⟩
  rw [settles]
  exact resolveTurn_eq_ok_iff.mpr ⟨installed, running, bothReady, rfl⟩

/-- Count, fire, and then turn round and round. -/
def countAndFire : Program where
  instructions :=
    [⟨.inc, [.register .acc], 1⟩, ⟨.fire, [], 2⟩, ⟨.rotate, [.rotation .left], 3⟩,
      ⟨.jmp, [.address 2], 4⟩]
  labels := .empty

/-- In the third turn of a duel of two such programs, one machine after the other or by turns, with
steps too many and for tanks that there are not. -/
theorem steps_confluent_third_turn :
    let past : List Request :=
      [.install ⟨countAndFire, countAndFire⟩, .run 1, .run 2, .resolve, .run 1, .run 2, .resolve]
    let b := (new {}).after past
    b.turn = 2 ∧ b.isReady .first = false ∧ b.isReady .second = false ∧
      b.after ([1, 1, 2, 2].map .step) = b.after [.run 1, .run 2] ∧
      b.after ([2, 7, 1, 2, 0, 1, 1].map .step) = b.after [.run 1, .run 2] := by
  intro past b
  have confluent := steps_confluent {} past (by decide +kernel) (by decide +kernel)
    [1, 1, 2, 2] [2, 7, 1, 2, 0, 1, 1]
    (by rintro (_ | _) <;> decide +kernel) (by rintro (_ | _) <;> decide +kernel)
  exact ⟨by decide +kernel, by decide +kernel, by decide +kernel, confluent.1, confluent.2.1⟩

end Battle

end TankDuel

import TankDuel.Proofs.Battle.Living

/-!
# Halted tanks

A machine that has halted never runs again. This file follows its tank: what a step, a turn and a
whole run of requests leave of a tank that has halted, and what the tank still does to the others.

* `Tank.AtRest` — place, facing, count of operations and all registers but the sensors stay as they
  are. A step shows the halt once more (`Earnest.result_of_halted`) and leaves the tank at rest
  (`Tank.AtRest.tick`).
* `Earnest.action_of_halted` — when a turn is resolved, the action of the tank is its halt.
* `Inert` — from an earlier to a later battle, the tank is at rest, has fired no further bullet and
  located nobody, and for each hit point that its opponent has lost one of its bullets is gone. This
  is kept by turns (`Inert.playTurn`) and so by every run of requests that play on
  (`Inert.after`).

What has to be known of the battle is `Earnest`. It holds under all settings, since a machine that
has halted was stepped once, and then its tank had hit points.
-/

namespace TankDuel

/-! ### Tanks -/

namespace Tank

variable {t t' t'' : Tank} {ammo : Bool} {reason : HaltReason} {result : StepResult}

/-- A tank without its machine and the operations this has done. -/
def shell (t : Tank) : Tank := { t with cpu := none, totalOps := 0 }

/-- A micro-step changes nothing but the machine. -/
private theorem shell_tick (ammo : Bool) (t : Tank) : (t.tick ammo).shell = t.shell := by
  unfold tick
  split
  next stepped =>
    obtain ⟨-, _, _, -, -, rfl⟩ := step_eq_some_iff.mp stepped
    rfl
  next => rfl

/-- The steps of its machine leave the rest of a tank alone. -/
private theorem shell_iterate (ammo : Bool) (n : Nat) (t : Tank) :
    ((tick ammo)^[n] t).shell = t.shell := by
  induction n generalizing t with
  | zero => rfl
  | succ n ih => exact (ih _).trans (shell_tick ammo t)

/-- From an earlier to a later moment a halted tank is at rest: nothing of it changes but hit
points, sensors and what is noted of its last turn. -/
structure AtRest (reason : HaltReason) (t t' : Tank) : Prop where
  halted : t'.haltReason? = some reason
  position : t'.position = t.position
  facing : t'.facing = t.facing
  totalOps : t'.totalOps = t.totalOps
  /-- The program counter is one of these registers. -/
  registers : ∀ r : Register, r.isSensor = false →
    (t'.cpu.map fun cpu => cpu.registers.get r) = t.cpu.map fun cpu => cpu.registers.get r

/-- A halted tank is at rest at any moment. -/
theorem AtRest.refl (halted : t.haltReason? = some reason) : t.AtRest reason t :=
  ⟨halted, rfl, rfl, rfl, fun _ _ => rfl⟩

/-- A halted tank that stays at rest twice has been at rest all the time. -/
theorem AtRest.trans (h : t.AtRest reason t') (h' : t'.AtRest reason t'') :
    t.AtRest reason t'' where
  halted := h'.halted
  position := h'.position.trans h.position
  facing := h'.facing.trans h.facing
  totalOps := h'.totalOps.trans h.totalOps
  registers := fun r sensor => (h'.registers r sensor).trans (h.registers r sensor)

/-- **A step leaves a halted tank at rest.** -/
theorem AtRest.tick (halted : t.haltReason? = some reason) (ammo : Bool) :
    t.AtRest reason (t.tick ammo) := by
  unfold Tank.tick
  split
  next result t' stepped =>
    obtain ⟨-, cpu, cpu', hasCpu, machine, rfl⟩ := step_eq_some_iff.mp stepped
    have stopped : cpu.halted = some reason := by rwa [haltReason?, hasCpu] at halted
    have step := Cpu.stepped_of_step_eq machine
    -- A halted machine is barred, so at most an action comes into its slot.
    have barred : (cpu.sense (t.sensors ammo)).Barred := Cpu.barred_of_halted stopped
    have same := step.eq_of_barred barred
    have ends : result.endsTurn = true := by
      cases result with
      | ready => rfl
      | working =>
        cases step with
        | worked runs => exact absurd barred runs.not_barred
    constructor
    · change cpu'.halted = some reason
      rw [same]
      exact stopped
    · rfl
    · rfl
    · exact if_pos ends
    -- Only the sensors may show something else than before.
    · intro r sensor
      change some (cpu'.registers.get r) = t.cpu.map fun cpu => cpu.registers.get r
      rw [same, hasCpu, Option.map_some, Cpu.get_sense]
      cases r <;> first | rfl | exact absurd sensor (by decide)
  next => exact .refl halted

/-- Any steps of its machine leave a halted tank at rest. -/
theorem AtRest.iterate (halted : t.haltReason? = some reason) (ammo : Bool) (n : Nat) :
    t.AtRest reason ((Tank.tick ammo)^[n] t) := by
  induction n generalizing t with
  | zero => exact .refl halted
  | succ n ih =>
    have once := AtRest.tick halted ammo
    exact once.trans (ih once.halted)

end Tank

namespace Battle

variable {b b' b'' : Battle} {side : Side} {reason : HaltReason} {result : StepResult}

/-- The steps of the machines leave the rest of the tanks alone. -/
theorem shell_ticks (counts : Side → Nat) (s : Side) :
    ((b.ticks counts).tank s).shell = (b.tank s).shell := by
  rw [tank_ticks]
  exact Tank.shell_iterate ..

/-- At the start no machine has halted. -/
theorem haltReason?_fresh (config : Config) (arena : Arena) (programs : Option (Pair Program))
    (side : Side) : ((fresh config arena programs).tank side).haltReason? = none := by
  rw [Tank.haltReason?, cpu_fresh]
  cases programs <;> rfl

/-! ### What has to be known of the battle -/

/-- What holds of a battle under all settings. -/
structure Earnest (b : Battle) : Prop where
  vital : b.Vital
  poised : b.Poised
  truthful : b.Truthful
  /-- There are programs once there are machines. -/
  installed : ∀ side, (b.tank side).cpu.isSome → b.hasPrograms
  /-- Where a machine has halted there were hit points. -/
  positive : ∀ side, (b.tank side).haltReason?.isSome → 0 < b.config.maxHp.toInt

/-- What holds under all settings holds at the start. -/
theorem Earnest.fresh (config : Config) (arena : Arena) (programs : Option (Pair Program)) :
    (fresh config arena programs).Earnest where
  vital := .fresh ..
  poised := .fresh ..
  truthful := Truthful.fresh config arena programs
  installed := by
    intro side equipped
    rwa [cpu_fresh, Option.isSome_map] at equipped
  positive := by
    intro side halted
    rw [haltReason?_fresh] at halted
    exact absurd halted (by decide)

/-- A tank that is stepped has hit points, so it started with some. -/
theorem Vital.positive_of_step (h : b.Vital) (stepped : b.step side = some (result, b')) :
    0 < b.config.maxHp.toInt := by
  obtain ⟨-, t, tankStepped, -⟩ := step_eq_some_iff.mp stepped
  obtain ⟨alive, -⟩ := Tank.step_eq_some_iff.mp tankStepped
  have positive : 0 < (b.tank side).hp := of_decide_eq_true alive
  have balance := h.balanced.balance side
  omega

/-- **Whatever happens, it goes on to hold.** -/
theorem Earnest.change (change : Change b b') (h : b.Earnest) : b'.Earnest where
  vital := h.vital.change change
  poised := h.poised.change change h.vital.orderly
  truthful := h.truthful.change change h.vital.hp_le_word
  installed := by
    intro side equipped
    cases change with
    | restart arena programs =>
      exact (Earnest.fresh b.config arena programs).installed side equipped
    -- A machine that is stepped is there, so programs have been installed.
    | @step _ stepping result stepped =>
      obtain ⟨-, t, tankStepped, rfl⟩ := step_eq_some_iff.mp stepped
      obtain ⟨-, cpu, -, hasCpu, -⟩ := Tank.step_eq_some_iff.mp tankStepped
      exact h.installed stepping (Option.isSome_of_eq_some hasCpu)
    | turn resolved =>
      obtain ⟨installed, -, -, rfl⟩ := resolveTurn_eq_ok_iff.mp resolved
      have samePrograms : b.playTurn.programs = b.programs :=
        congrArg Frame.programs (frame_playTurn h.vital.orderly)
      rw [hasPrograms, samePrograms]
      exact installed
  positive := by
    intro side halted
    have sameConfig := change.config_eq h.vital.orderly
    rw [sameConfig]
    cases change with
    | restart arena programs =>
      rw [haltReason?_fresh] at halted
      exact absurd halted (by decide)
    | step stepped => exact h.vital.positive_of_step stepped
    | turn resolved =>
      obtain ⟨-, -, -, rfl⟩ := resolveTurn_eq_ok_iff.mp resolved
      rw [haltReason?_playTurn side h.vital.orderly] at halted
      exact h.positive side halted

/-- A request leaves it so. -/
theorem Earnest.serve (h : b.Earnest) (request : Request) : (b.serve request).2.Earnest :=
  after_invariant (fun change h => h.change change) h [request]

/-- It holds of all battles that can arise. -/
theorem earnest_after (config : Config) (past : List Request) :
    ((new config).after past).Earnest :=
  after_invariant (fun change h => h.change change) (.fresh ..) past

/-- As long as the battle goes on nobody is destroyed. -/
theorem Earnest.alive_of_halted (h : b.Earnest) (halted : (b.tank side).haltReason? = some reason)
    (undecided : b.outcome = none) (s : Side) : (b.tank s).isAlive :=
  h.vital.alive (h.positive side (Option.isSome_of_eq_some halted)) undecided s

/-! ### Steps and actions -/

/-- **A step of a halted machine shows the halt.** -/
theorem Earnest.result_of_halted (h : b.Earnest) (halted : (b.tank side).haltReason? = some reason)
    (stepped : b.step side = some (result, b')) : result = .ready (.halt reason) := by
  obtain ⟨-, t, tankStepped, -⟩ := step_eq_some_iff.mp stepped
  obtain ⟨alive, cpu, cpu', hasCpu, machine, -⟩ := Tank.step_eq_some_iff.mp tankStepped
  have stopped : cpu.halted = some reason := by rwa [Tank.haltReason?, hasCpu] at halted
  cases pending : cpu.pending with
  | some action =>
    -- What waits in the slot is shown, and it is the halt as the slot is truthful.
    have told : cpu.halted = action.haltReason? := h.truthful side alive cpu hasCpu action pending
    have shown := Cpu.step_of_pending (c := cpu.sense ((b.tank side).sensors (!b.hasBullet side)))
      pending
    rw [machine] at shown
    obtain ⟨rfl, -⟩ := Prod.mk.inj shown
    rw [Action.eq_halt_of_haltReason? (told.symm.trans stopped)]
  | none =>
    have positive : 0 < (cpu.sense ((b.tank side).sensors (!b.hasBullet side))).registers.get .hp :=
      Tank.hp_sense_pos alive (h.vital.hp_le_word side)
    rw [(Cpu.stepped_of_step_eq machine).result_of_halted pending stopped,
      if_neg (Int32.not_le.mpr positive)]

/-- **The loop of steps** is over with the first one. -/
theorem Earnest.action_of_runs (h : b.Earnest) (halted : (b.tank side).haltReason? = some reason)
    {action : Action} (runs : RunsUntilReady side b (some action) b') : action = .halt reason := by
  cases runs with
  | ready stepped =>
    obtain ⟨⟩ := h.result_of_halted halted stepped
    rfl
  | working stepped => exact absurd (h.result_of_halted halted stepped) nofun

/-- **The action of a halted tank is its halt.** -/
theorem Earnest.action_of_halted (h : b.Earnest) (halted : (b.tank side).haltReason? = some reason)
    (undecided : b.outcome = none) (ready : b.isReady side) :
    b.actions.get side = some (.halt reason) := by
  have alive := h.alive_of_halted halted undecided side
  obtain ⟨action, pending, taken⟩ := b.exists_action_of_isReady side alive ready
  have told := (h.truthful side).haltReason?_eq alive pending
  rw [taken, Action.eq_halt_of_haltReason? (told.symm.trans halted)]

/-! ### A turn -/

section Turn

variable (orderly : b.Orderly)

include orderly

/-- **A turn leaves a halted tank at rest.** It stays where it is and asks for nothing. -/
theorem atRest_playTurn (halted : (b.tank side).haltReason? = some reason)
    (halts : b.actions.get side = some (.halt reason)) :
    (b.tank side).AtRest reason (b.playTurn.tank side) := by
  have after := bare_playTurn side orderly
  rw [halts] at after
  constructor
  · rw [haltReason?_playTurn side orderly, halted]
  -- A tank that halts does not mean to go anywhere.
  · have stays : b.intents.get side = none := by
      rw [intents, Pair.get_ofFn, halts]
      rfl
    rw [position_playTurn side orderly, landed, get_resolveMoves, stays]
    exact Pair.get_map ..
  · exact (congrArg Tank.facing after :)
  · exact (congrArg Tank.totalOps after :)
  · intro r _
    rw [cpu_playTurn side orderly, halts]
    change ((((b.tank side).writeRegisters []).cpu.map Cpu.clearPending).map _) = _
    rw [Tank.writeRegisters_nil, Option.map_map]
    rfl

end Turn

/-! ### Locating the opponent -/

/-- From an earlier to a later battle events are only added, and in none of them has the tank
located its opponent. -/
def PingFree (side : Side) (b b' : Battle) : Prop :=
  ∃ new, b'.events.toList = b.events.toList ++ new ∧ ∀ e ∈ new, ∀ cell, e.kind ≠ .ping side cell

/-- Nothing is located where nothing is logged. -/
theorem PingFree.of_eq (events : b'.events = b.events) : PingFree side b b' :=
  ⟨[], by rw [events, List.append_nil], nofun⟩

/-- Nothing is located in two phases if nothing is in either. -/
theorem PingFree.trans (h : PingFree side b b') (h' : PingFree side b' b'') :
    PingFree side b b'' := by
  obtain ⟨new, events, silent⟩ := h
  obtain ⟨more, events', silent'⟩ := h'
  refine ⟨new ++ more, by rw [events', events, List.append_assoc], fun e he => ?_⟩
  rcases List.mem_append.mp he with early | late
  · exact silent e early
  · exact silent' e late

/-- Other events locate nothing. -/
private theorem pingFree_emit (b : Battle) {kind : Event.Kind}
    (other : ∀ cell, kind ≠ .ping side cell) : PingFree side b (b.emit kind) := by
  refine ⟨[⟨b.nextEventId, b.turn, kind⟩], Array.toList_push .., fun e he => ?_⟩
  obtain rfl := List.mem_singleton.mp he
  exact other

/-- An explosion locates nothing. -/
private theorem pingFree_explosion (b : Battle) (cell : Coord) (tank : Option Side) :
    PingFree side b (b.emit (.explosion cell tank)) :=
  pingFree_emit b fun _ => by simp

/-- A strike locates nothing. -/
private theorem pingFree_strike (b : Battle) (shooter : Side) (cell : Coord) :
    PingFree side b (b.strike shooter cell) := by
  have struck (tanks : Pair Tank) : PingFree side b
      ({ b with tanks := tanks }.emit (.explosion cell (some shooter.other))) :=
    pingFree_explosion { b with tanks := tanks } ..
  unfold strike
  dsimp only
  split
  · exact (struck _).trans (.of_eq rfl)
  · exact (struck _).trans (.of_eq rfl)

/-- Bullets locate nothing. -/
private theorem pingFree_flyBullets (b : Battle) (ms : List (Bullet Side)) :
    PingFree side b (b.flyBullets ms).2 := by
  induction ms generalizing b with
  | nil => exact .of_eq rfl
  | cons m ms ih =>
    have flown : PingFree side b (b.flyBullet m).2 := by
      rw [flyBullet_snd]
      cases b.fate m with
      | aloft | spent => exact .of_eq rfl
      | crashed wall => exact pingFree_explosion ..
      | struck cell => exact pingFree_strike ..
    rw [flyBullets_cons]
    exact flown.trans (ih _)

/-- A tank locates its opponent only if it asks for it. -/
private theorem pingFree_answer (b : Battle) (s : Side) {action : Option Action}
    (silent : s = side → ∀ x y, action ≠ some (.ping x y)) :
    PingFree side b (b.answer s action) := by
  unfold answer
  split
  next => exact .of_eq rfl
  next x y =>
    split
    next cell =>
      refine PingFree.trans (.of_eq rfl) (pingFree_emit (b.modifyTank s _) fun target same => ?_)
      obtain ⟨rfl, -⟩ := Event.Kind.ping.inj same
      exact silent rfl x y rfl
    next => exact .of_eq rfl
  next => exact .of_eq rfl

/-- Actions locate nothing: a ping is answered in the phase before them. -/
private theorem pingFree_act (b : Battle) (s : Side) (action : Option Action) :
    PingFree side b (b.act s action) := by
  cases action with
  | none => exact .of_eq rfl
  | some action =>
    rw [act_some]
    cases action with
    | move | rotate | scan | ping | wait | dead => exact .of_eq rfl
    | fire =>
      -- All that a shot can log is an explosion.
      have noted : PingFree side b (b.note s .fire) := .of_eq rfl
      refine noted.trans ?_
      rw [carryOut, fire_eq]
      cases (b.note s .fire).shot s with
      | reloading | launched => exact .of_eq rfl
      | blocked cell =>
        have exploded : PingFree side (b.note s .fire)
            ((b.note s .fire).emit (.explosion cell none)) := pingFree_explosion ..
        exact exploded.trans (.of_eq rfl)
      | pointBlank cell => exact pingFree_strike ..
    | halt reason =>
      rw [carryOut]
      split
      · exact .of_eq rfl
      · exact .of_eq rfl

/-- **A tank that does not ask is told nothing.** -/
theorem pingFree_playTurn (silent : ∀ x y, b.actions.get side ≠ some (.ping x y)) :
    PingFree side b b.playTurn := by
  have flown : PingFree side b b.afterBullets := by
    -- Counting the turn on adds no event.
    have counted : PingFree side { b with turn := b.turn + 1 }
        ({ b with turn := b.turn + 1 }.flyBullets b.bullets).2 := pingFree_flyBullets ..
    obtain ⟨new, events, quiet⟩ := counted
    exact ⟨new, events, quiet⟩
  have answered : PingFree side b.afterBullets b.afterAnswers := by
    refine (pingFree_answer b.afterBullets .first ?_).trans (pingFree_answer _ .second ?_)
    · rintro rfl
      exact silent
    · rintro rfl
      exact silent
  have acted : PingFree side b.afterAnswers b.afterActions :=
    (pingFree_act ..).trans (pingFree_act ..)
  have concluded : PingFree side b.afterActions b.playTurn := by
    refine .of_eq ?_
    have same : b.afterMoves.conclude.events = b.afterMoves.events := by
      unfold conclude
      split <;> rfl
    exact same
  exact ((flown.trans answered).trans acted).trans concluded

/-! ### Bullets -/

/-- The number of bullets of a tank that are in flight. -/
def bulletsOf (b : Battle) (side : Side) : Nat := b.bullets.countP fun m => m.owner = side

/-- A launched bullet is that of the tank whose action it is. -/
private theorem mem_launch_of_mem_launches {actions : Pair (Option Action)} {m : Bullet Side}
    (h : m ∈ b.launches actions) : ∃ id, m ∈ b.launch m.owner id (actions.get m.owner) := by
  rcases List.mem_append.mp h with early | late
  · obtain ⟨cell, rfl, -⟩ := mem_launch b .first early
    exact ⟨_, early⟩
  · obtain ⟨cell, rfl, -⟩ := mem_launch b .second late
    exact ⟨_, late⟩

/-- A halted tank fires nothing. -/
private theorem owner_ne_of_mem_launched (halts : b.actions.get side = some (.halt reason))
    {m : Bullet Side} (hm : m ∈ b.launched) : m.owner ≠ side := by
  rintro rfl
  obtain ⟨id, own⟩ := mem_launch_of_mem_launches hm
  rw [halts] at own
  exact absurd own List.not_mem_nil

/-- Two tests that are not passed together are passed no more often than one that both imply. -/
private theorem countP_add_countP_le {α : Type} {p q r : α → Bool} {l : List α}
    (apart : ∀ a ∈ l, (p a).toNat + (q a).toNat ≤ (r a).toNat) :
    l.countP p + l.countP q ≤ l.countP r := by
  induction l with
  | nil => exact Nat.le_refl _
  | cons a l ih =>
    have head := apart a List.mem_cons_self
    have tail := ih fun a ha => apart a (List.mem_cons_of_mem _ ha)
    have once (t : Bool) : (if t = true then 1 else 0) = t.toNat := by cases t <;> rfl
    rw [List.countP_cons, List.countP_cons, List.countP_cons, once, once, once]
    omega

/-- **A bullet that strikes is no longer in flight.** -/
theorem countP_survivors_le (b : Battle) (side : Side) :
    (b.survivors.countP fun m => m.owner = side) + (b.isHit side.other).toNat ≤
      b.bulletsOf side := by
  -- A bullet that strikes does not survive, so it is counted in one place only.
  have strike : (b.isHit side.other).toNat ≤
      b.bullets.countP fun m => m.owner = side && (b.fate m).strikes := by
    unfold isHit
    rw [Side.other_other]
    cases struck : b.bullets.any fun m => m.owner = side && (b.fate m).strikes with
    | false => exact Nat.zero_le _
    | true =>
      obtain ⟨m, hm, strikes⟩ := List.any_eq_true.mp struck
      exact List.countP_pos_iff.mpr ⟨m, hm, strikes⟩
  refine Nat.le_trans (Nat.add_le_add_left strike _) ?_
  rw [survivors, List.countP_filterMap]
  refine countP_add_countP_le fun m _ => ?_
  cases ends : b.fate m with
  | aloft m' =>
    have sameOwner : m'.owner = m.owner :=
      (Bullet.survives (Flight.survivor?_eq_some_iff.mpr ends)).2.1
    simp [Flight.survivor?, Flight.strikes, sameOwner]
  | spent | crashed | struck => simp [Flight.survivor?, Flight.strikes]

/-- A halted tank has a bullet less after each hit of its own, and never a new one. -/
private theorem bulletsOf_playTurn (orderly : b.Orderly)
    (halts : b.actions.get side = some (.halt reason)) :
    b.playTurn.bulletsOf side + (b.isHit side.other).toNat ≤ b.bulletsOf side := by
  have bullets : b.playTurn.bullets = b.survivors ++ b.launched :=
    congrArg Frame.bullets (frame_playTurn orderly)
  have unlaunched : (b.launched.countP fun m => m.owner = side) = 0 := by
    rw [List.countP_eq_zero]
    intro m hm own
    exact owner_ne_of_mem_launched halts hm (of_decide_eq_true own)
  rw [bulletsOf, bullets, List.countP_append, unlaunched]
  exact countP_survivors_le b side

/-! ### From then on -/

/-- From an earlier to a later battle a halted tank has done nothing. -/
structure Inert (side : Side) (reason : HaltReason) (b b' : Battle) : Prop where
  rests : (b.tank side).AtRest reason (b'.tank side)
  /-- It has fired no further bullet. -/
  bullets : ∀ m ∈ b'.bullets, m.owner = side → ∃ m₀ ∈ b.bullets, m₀.owner = side ∧ m₀.id = m.id
  /-- It has not located its opponent again. -/
  pings : PingFree side b b'
  /-- For each hit point that its opponent has lost one of its bullets is gone. -/
  damage : (b.tank side.other).hp + b'.bulletsOf side ≤ (b'.tank side.other).hp + b.bulletsOf side

/-- Where nothing happens, a halted tank has done nothing. -/
theorem Inert.refl (halted : (b.tank side).haltReason? = some reason) : Inert side reason b b where
  rests := .refl halted
  bullets := fun m hm own => ⟨m, hm, own, rfl⟩
  pings := .of_eq rfl
  damage := Int.le_refl _

/-- A tank that has done nothing twice has done nothing. -/
theorem Inert.trans (h : Inert side reason b b') (h' : Inert side reason b' b'') :
    Inert side reason b b'' where
  rests := h.rests.trans h'.rests
  bullets := by
    intro m hm own
    obtain ⟨m₁, hm₁, own₁, sameId₁⟩ := h'.bullets m hm own
    obtain ⟨m₀, hm₀, own₀, sameId₀⟩ := h.bullets m₁ hm₁ own₁
    exact ⟨m₀, hm₀, own₀, sameId₀.trans sameId₁⟩
  pings := h.pings.trans h'.pings
  damage := by
    have early := h.damage
    have late := h'.damage
    omega

/-- The steps of the machines let a halted tank do nothing. -/
theorem Inert.ticks (halted : (b.tank side).haltReason? = some reason) (counts : Side → Nat) :
    Inert side reason b (b.ticks counts) where
  rests := by
    rw [tank_ticks]
    exact .iterate halted _ _
  bullets := fun m hm own => ⟨m, hm, own, rfl⟩
  pings := .of_eq rfl
  damage := by
    have hp : ((b.ticks counts).tank side.other).hp = (b.tank side.other).hp :=
      congrArg Pose.hp (pose_ticks ..)
    rw [hp]
    exact Int.le_refl _

/-- The opponent of a halted tank is hit only by a bullet that was in flight before the turn. -/
theorem suffers_playTurn_of_halts (orderly : b.Orderly)
    (halts : b.actions.get side = some (.halt reason)) :
    Suffers side.other (b.isHit side.other).toNat b b.playTurn := by
  have flown := b.suffers_afterBullets (t := side.other) orderly.owners
  have shot := b.suffers_playTurn (t := side.other)
  rw [Side.other_other, halts] at shot
  exact flown.trans shot

/-- **A turn of a halted tank.** -/
theorem Inert.playTurn (orderly : b.Orderly) (halted : (b.tank side).haltReason? = some reason)
    (halts : b.actions.get side = some (.halt reason)) : Inert side reason b b.playTurn where
  rests := atRest_playTurn orderly halted halts
  bullets := by
    intro m hm own
    have bullets : b.playTurn.bullets = b.survivors ++ b.launched :=
      congrArg Frame.bullets (frame_playTurn orderly)
    rw [bullets] at hm
    -- A bullet that is there after the turn has survived it, as a halted tank launches none.
    rcases List.mem_append.mp hm with old | new
    · obtain ⟨m₀, hm₀, survives⟩ := List.mem_filterMap.mp old
      obtain ⟨sameId, sameOwner, -⟩ := Bullet.survives survives
      exact ⟨m₀, hm₀, sameOwner.symm.trans own, sameId.symm⟩
    · exact absurd own (owner_ne_of_mem_launched halts new)
  pings := by
    refine pingFree_playTurn fun x y asks => ?_
    rw [halts] at asks
    exact absurd asks nofun
  damage := by
    have hits := (suffers_playTurn_of_halts orderly halts).hp
    have gone := bulletsOf_playTurn orderly halts
    omega

/-- A request that is no restart lets a halted tank do nothing. -/
theorem Inert.serve (h : b.Earnest) (halted : (b.tank side).haltReason? = some reason)
    {request : Request} (playsOn : request.PlaysOn) :
    Inert side reason b (b.serve request).2 := by
  rcases b.serve_of_playsOn playsOn with ⟨counts, same⟩ | resolved
  · rw [same]
    exact .ticks halted counts
  · obtain ⟨-, running, ready, same⟩ := resolveTurn_eq_ok_iff.mp resolved
    have undecided : b.outcome = none := isOver_eq_false_iff.mp running
    rw [same]
    exact .playTurn h.vital.orderly halted (h.action_of_halted halted undecided (ready side))

/-- **A halted tank does nothing any more**, as long as the battle is played on. -/
theorem Inert.after (h : b.Earnest) (halted : (b.tank side).haltReason? = some reason)
    {requests : List Request} (playOn : ∀ request ∈ requests, request.PlaysOn) :
    Inert side reason b (b.after requests) := by
  induction requests generalizing b with
  | nil => exact .refl halted
  | cons request requests ih =>
    have once := Inert.serve h halted (playOn request List.mem_cons_self)
    exact once.trans (ih (h.serve request) once.rests.halted fun request hr =>
      playOn request (List.mem_cons_of_mem _ hr))

end Battle

end TankDuel

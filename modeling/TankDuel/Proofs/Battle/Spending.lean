import TankDuel.Proofs.Battle.History
import TankDuel.Proofs.Battle.Sensing

/-!
# What machines spend

In a turn a machine may do a limited number of operations. This file compares what it has done, by
the history of the battle, with what it and its tank keep count of, and says where the limit ends
its turn (`Battle.operations_accounted`).

* `Tank.Account` is the account of a tank: what its machine has spent since the turn began, and all
  that it has spent since the battle did. Micro-steps are booked (`Tank.Account.step`), and a turn
  opens a new budget (`Tank.Account.nextTurn`). So no turn costs more than the limit.
* A machine that is run works until it has an action or has spent the limit
  (`Battle.exists_runsWithin`). It waits at the limit just if it has spent all of it
  (`Cpu.Stepped.waits_iff`). This needs that a halted machine without an action has spent nothing.
* A machine that waits at the limit stays where it is, and goes on there in the next turn
  (`Battle.goesOnAt_of_waits`).
-/

namespace TankDuel

/-- How many operations a machine may do in a turn under some settings. -/
def Config.opLimit (config : Config) : Nat := max config.maxOpsPerTurn.toNat 1

/-! ### Machines -/

namespace Cpu

variable {c c' : Cpu} {result : StepResult} {action : Action} {limit spent : Nat}

/-- What a machine may spend in a turn, and has spent. -/
structure Spent (c : Cpu) (limit spent : Nat) : Prop where
  limit_eq : c.opLimit = limit
  spent_eq : c.opsThisTurn = spent
  spent_le : spent ≤ limit
  /-- A halted machine comes to its turn with a full budget. -/
  rested : c.halted ≠ none → c.pending = none → spent = 0

/-- Showing a machine the sensors spends nothing. -/
theorem Spent.sense (h : c.Spent limit spent) (s : Sensors) : (c.sense s).Spent limit spent :=
  ⟨h.limit_eq, h.spent_eq, h.spent_le, h.rested⟩

/-- **A step spends an operation if it works**, and nothing else. -/
theorem Spent.step (h : c.Spent limit spent) (stepped : Stepped c result c') :
    c'.Spent limit (spent + if result = .working then 1 else 0) := by
  cases stepped with
  | shown => exact ⟨h.limit_eq, h.spent_eq, h.spent_le, h.rested⟩
  | dead | halted | spent | ended | faulted | acted =>
    exact ⟨h.limit_eq, h.spent_eq, h.spent_le, nofun⟩
  | worked runs =>
    have budget := runs.budget
    rw [h.limit_eq, h.spent_eq] at budget
    have spends := congrArg (· + 1) h.spent_eq
    exact ⟨h.limit_eq, spends, budget, fun halted => absurd runs.running halted⟩

/-- **When a machine waits at the limit.** -/
theorem Stepped.waits_iff (h : Stepped c (.ready action) c') (account : c.Spent limit spent)
    (positive : 0 < limit) (idle : c.pending = none) (alive : 0 < c.registers.get .hp) :
    action = .wait .opLimit ↔ spent = limit := by
  have le := account.spent_le
  have room (budget : c.opsThisTurn < c.opLimit) : spent ≠ limit := by
    rw [account.limit_eq, account.spent_eq] at budget
    exact Nat.ne_of_lt budget
  cases h with
  | shown pending => exact absurd (idle.symm.trans pending) nofun
  | dead _ low => exact absurd alive (Int32.not_lt.mpr low)
  | halted _ _ halted =>
    have full := account.rested (by rw [halted]; exact nofun) idle
    exact iff_of_false nofun (by omega)
  | spent _ _ _ all =>
    rw [account.limit_eq, account.spent_eq] at all
    exact iff_of_true rfl (Nat.le_antisymm le all)
  | ended _ _ _ budget => exact iff_of_false nofun (room budget)
  | faulted runs => exact iff_of_false nofun (room runs.budget)
  | acted runs executed ends =>
    refine iff_of_false ?_ (room runs.budget)
    -- A program can have its tank wait, but for another reason.
    rintro rfl
    cases Instruction.ordered_of_execute executed ends

/-- A machine that waits at the limit is not halted and stays as it is. -/
theorem Stepped.eq_of_waits (h : Stepped c (.ready (.wait .opLimit)) c') (idle : c.pending = none) :
    c.halted = none ∧ c' = { c with pending := some (.wait .opLimit) } := by
  cases h with
  | shown pending => exact absurd (idle.symm.trans pending) nofun
  | spent _ _ running => exact ⟨running, rfl⟩
  | acted _ executed ends => cases Instruction.ordered_of_execute executed ends

/-- Do what stands at the program counter. -/
def resume (c : Cpu) : StepResult × Cpu :=
  match c.program.fetch? c.pc with
  | some i => c.dispatch i
  | none => c.stop .endOfProgram

/-- A running machine with a budget goes on with its program. -/
private theorem step_eq_resume (idle : c.pending = none) (alive : 0 < c.registers.get .hp)
    (running : c.halted = none) (budget : c.opsThisTurn < c.opLimit) : c.step = c.resume := by
  rw [step, idle]
  dsimp only
  rw [advance, if_neg (Int32.not_le.mpr alive), running]
  dsimp only
  rw [if_neg (Nat.not_le.mpr budget)]
  rfl

/-- No sensor is the program counter. -/
private theorem pc_sense (c : Cpu) (s : Sensors) : (c.sense s).pc = c.pc := by
  rw [pc, RegisterFile.pc, get_sense]
  rfl

end Cpu

/-! ### Tanks -/

namespace Tank

variable {t t' : Tank} {ammo : Bool} {result : StepResult} {limit turns spent total : Nat}

/-- The account of a tank behind some turns: what its machine has spent in this one, and all that it
has spent. -/
structure Account (t : Tank) (limit turns spent total : Nat) : Prop where
  spent_le : spent ≤ limit
  machine : ∀ cpu, t.cpu = some cpu → cpu.Spent limit spent
  total_eq : t.totalOps = total
  total_le : total ≤ limit * turns + spent

/-- **Micro-steps are booked.** -/
theorem Account.step (h : t.Account limit turns spent total)
    (stepped : t.step ammo = some (result, t')) :
    t'.Account limit turns (spent + if result = .working then 1 else 0)
      (total + if result = .working then 1 else 0) := by
  obtain ⟨-, cpu, cpu', hasCpu, machine, rfl⟩ := step_eq_some_iff.mp stepped
  have account := ((h.machine cpu hasCpu).sense _).step (Cpu.stepped_of_step_eq machine)
  refine ⟨account.spent_le, ?_, ?_, ?_⟩
  · rintro _ ⟨⟩
    exact account
  · rw [← h.total_eq]
    cases result <;> rfl
  · have le := h.total_le
    omega

/-- **A turn opens a new budget.** What the turn before has cost was within the limit. -/
theorem Account.nextTurn (h : t.Account limit turns spent total)
    (sameTotal : t'.totalOps = t.totalOps)
    (opened : ∀ cpu', t'.cpu = some cpu' → ∃ cpu, t.cpu = some cpu ∧
      cpu'.opLimit = cpu.opLimit ∧ cpu'.opsThisTurn = 0) :
    t'.Account limit (turns + 1) 0 total := by
  refine ⟨Nat.zero_le _, fun cpu' hasCpu' => ?_, sameTotal.trans h.total_eq, ?_⟩
  · obtain ⟨cpu, hasCpu, sameLimit, full⟩ := opened cpu' hasCpu'
    exact ⟨sameLimit.trans (h.machine cpu hasCpu).limit_eq, full, Nat.zero_le _, fun _ _ => rfl⟩
  · have le := h.total_le
    have spent := h.spent_le
    rw [Nat.mul_succ]
    omega

end Tank

namespace Battle

open Incident (opensTurn restarts opsSince)

variable {b b₁ b' : Battle} {side : Side} {past history : List Incident} {incident : Incident}
  {limit : Nat}

/-! ### Battles -/

/-- The accounts agree with what has happened. -/
structure Booked (limit : Nat) (history : List Incident) (b : Battle) : Prop where
  limit_eq : b.config.opLimit = limit
  account : ∀ side, (b.tank side).Account limit b.turn (opsSince opensTurn side history)
    (opsSince restarts side history)

/-- At least one operation may be spent. -/
theorem Booked.limit_pos (h : b.Booked limit past) : 0 < limit := by
  rw [← h.limit_eq]
  exact Nat.le_max_right ..

/-- At the start all accounts are empty. -/
private theorem booked_fresh (config : Config) (arena : Arena) (programs : Option (Pair Program))
    (uncounted : ∀ side, opsSince opensTurn side history = 0 ∧ opsSince restarts side history = 0) :
    (fresh config arena programs).Booked config.opLimit history := by
  refine ⟨rfl, fun side => ?_⟩
  rw [(uncounted side).1, (uncounted side).2]
  refine ⟨Nat.zero_le _, fun cpu hasCpu => ?_, ?_, Nat.zero_le _⟩
  · rw [cpu_fresh, Option.map_eq_some_iff] at hasCpu
    obtain ⟨programs, -, rfl⟩ := hasCpu
    exact ⟨rfl, rfl, Nat.zero_le _, fun _ _ => rfl⟩
  · cases side <;> rfl

/-- A micro-step is booked on the account of the side that makes it. -/
theorem Booked.step {stepping : Side} {result : StepResult} (h : b.Booked limit past)
    (stepped : b.step stepping = some (result, b')) :
    b'.Booked limit (past ++ [.stepped stepping result]) := by
  obtain ⟨-, t, tankStepped, rfl⟩ := step_eq_some_iff.mp stepped
  refine ⟨h.limit_eq, fun side => ?_⟩
  rw [Incident.opsSince_concat, Incident.opsSince_concat, tank, Pair.get_set]
  by_cases own : side = stepping
  · subst own
    have booked := (h.account side).step tankStepped
    simpa [opensTurn, restarts] using booked
  · have other : ¬Incident.stepped stepping result = .stepped side .working := by
      rintro ⟨⟩
      exact own rfl
    have kept := h.account side
    rw [tank] at kept
    simpa [opensTurn, restarts, own, other] using kept

/-- A turn opens new budgets, whatever is answered in it. -/
theorem Booked.playTurn (h : b.Booked limit past) (order : b.Orderly) :
    b.playTurn.Booked limit (past ++ [.resolved]) := by
  have sameConfig : b.playTurn.config = b.config :=
    congrArg Frame.config (frame_playTurn order)
  have counted : b.playTurn.turn = b.turn + 1 := congrArg Frame.turn (frame_playTurn order)
  refine ⟨(congrArg Config.opLimit sameConfig).trans h.limit_eq, fun side => ?_⟩
  have sameTotal : (b.playTurn.tank side).totalOps = (b.tank side).totalOps :=
    (congrArg Tank.totalOps (bare_playTurn side order) :)
  have machine : ∀ cpu', (b.playTurn.tank side).cpu = some cpu' → ∃ cpu,
      (b.tank side).cpu = some cpu ∧ cpu'.opLimit = cpu.opLimit ∧ cpu'.opsThisTurn = 0 := by
    intro cpu' hasCpu'
    rw [cpu_playTurn_eq order, Option.map_eq_some_iff] at hasCpu'
    obtain ⟨cpu, hasCpu, rfl⟩ := hasCpu'
    rw [Cpu.told_eq]
    exact ⟨cpu, hasCpu, rfl, rfl⟩
  -- What has been spent in the turn is behind it, but not what has been spent in the battle.
  have opened : opsSince opensTurn side (past ++ [.resolved]) = 0 := by
    simp [Incident.opsSince_concat, opensTurn]
  have goesOn : opsSince restarts side (past ++ [.resolved]) = opsSince restarts side past := by
    simp [Incident.opsSince_concat, restarts]
  rw [opened, goesOn, counted]
  exact (h.account side).nextTurn sameTotal machine

/-- **Whatever happens is booked.** -/
theorem Booked.happens (h : b.Booked limit past) (order : b.Orderly)
    (happens : b.Happens incident b') : b'.Booked limit (past ++ [incident]) := by
  cases happens with
  | restarted arena programs =>
    rw [← h.limit_eq]
    exact booked_fresh _ _ _ fun side => ⟨Incident.opsSince_concat .., Incident.opsSince_concat ..⟩
  | stepped stepped => exact h.step stepped
  | resolved resolved =>
    obtain ⟨-, -, -, rfl⟩ := resolveTurn_eq_ok_iff.mp resolved
    exact h.playTurn order

/-- **Whatever happens, the accounts agree** with it. -/
theorem Unfolds.booked (unfolds : b.Unfolds history b') (order : b.Orderly)
    (booked : b.Booked limit past) : b'.Booked limit (past ++ history) := by
  induction unfolds with
  | refl => rwa [List.append_nil]
  | tail before happens ih =>
    have ordered := before.invariant (fun change h => h.change change) order
    rw [← List.append_assoc]
    exact ih.happens ordered happens

/-- The accounts of every battle that can arise agree with its history. -/
private theorem booked_after (config : Config) (past : List Request) :
    ((new config).after past).Booked config.opLimit ((new config).history past) := by
  have start : (new config).Booked config.opLimit [] := booked_fresh _ _ _ fun _ => ⟨rfl, rfl⟩
  exact (unfolds_after (new config) past).booked (.fresh ..) start

/-! ### Machines without an action -/

/-- A tank that is not ready has an empty slot. -/
private theorem pending?_eq_none_of_isReady (notReady : b.isReady side = false) :
    (b.tank side).pending? = none := by
  rw [isReady, Tank.isReady, Bool.or_eq_false_iff] at notReady
  exact Option.isNone_iff_eq_none.mp (Option.isSome_eq_false_iff.mp notReady.2)

/-- A machine that works leaves its slot empty. -/
theorem Works.pending?_eq_none {n : Nat} (works : Works side n b b')
    (idle : (b.tank side).pending? = none) : (b'.tank side).pending? = none := by
  induction works with
  | refl => exact idle
  | head stepped _ ih =>
    obtain ⟨-, t, tankStepped, rfl⟩ := step_eq_some_iff.mp stepped
    refine ih ?_
    rw [tank, Pair.get_set_self]
    exact Tank.pending?_of_step tankStepped

/-- **A machine waits at the limit** just if it has spent all of it. -/
theorem waits_iff {action : Action} (vital : b.Vital) (booked : b.Booked limit past)
    (idle : (b.tank side).pending? = none) (ready : b.step side = some (.ready action, b')) :
    action = .wait .opLimit ↔ opsSince opensTurn side past = limit := by
  obtain ⟨-, t, tankStepped, -⟩ := step_eq_some_iff.mp ready
  obtain ⟨alive, cpu, cpu', hasCpu, machine, -⟩ := Tank.step_eq_some_iff.mp tankStepped
  rw [Tank.pending?, hasCpu] at idle
  exact (Cpu.stepped_of_step_eq machine).waits_iff
    (((booked.account side).machine cpu hasCpu).sense _) booked.limit_pos idle
    (Tank.hp_sense_pos alive (vital.hp_le_word side))

/-! ### The next turn -/

/-- Nothing happens to a tank that is ready until the turn is resolved. -/
theorem Unfolds.tank_eq (unfolds : b.Unfolds history b') (poised : b.Poised)
    (ready : b.isReady side) (sameTurn : ∀ i ∈ history, i.opensTurn = false) :
    b'.tank side = b.tank side ∧ b'.hasBullet side = b.hasBullet side := by
  induction unfolds with
  | refl => exact ⟨rfl, rfl⟩
  | @tail history incident b₁ b' _ happens ih =>
    obtain ⟨same, bullet⟩ := ih fun i before => sameTurn i (List.mem_append_left _ before)
    have opens := sameTurn incident (List.mem_append_right _ (List.mem_singleton_self _))
    cases happens with
    | restarted | resolved => cases opens
    | @stepped stepping result _ stepped =>
      -- A step of this tank shows what is in its slot, and one of its opponent is no concern of it.
      have ticked := tank_step stepped side
      obtain ⟨-, t, -, rfl⟩ := step_eq_some_iff.mp stepped
      refine ⟨ticked.trans ?_, bullet⟩
      split
      · rw [same, bullet]
        exact Tank.tick_of_isReady (poised.steady side) ready
      · exact same

/-- A step of a tank that can be stepped is a step of its machine. -/
private theorem exists_step_eq {cpu : Cpu} (steppable : b.Steppable side)
    (hasCpu : (b.tank side).cpu = some cpu) :
    let seen := cpu.sense ((b.tank side).sensors (!b.hasBullet side))
    ∃ b', b.step side = some (seen.step.1, b') ∧ (b'.tank side).cpu = some seen.step.2 := by
  intro seen
  have machine : seen.step = (seen.step.1, seen.step.2) := rfl
  have tankStepped := Tank.step_eq_some_iff.mpr
    ⟨steppable.alive, cpu, seen.step.2, hasCpu, machine, rfl⟩
  have running := isOver_eq_false_iff.mpr steppable.undecided
  exact ⟨_, step_eq_some_iff.mpr ⟨running, _, tankStepped, rfl⟩, by rw [tank, Pair.get_set_self]⟩

/-- Whatever is asked of the battle until the turn is resolved, the machine of a tank goes on at
`pc` in the turn that follows: its next step does what stands there. -/
def GoesOnAt (b : Battle) (side : Side) (pc : Nat) : Prop :=
  ∀ requests, (∀ i ∈ b.history requests, i.opensTurn = false) →
    ∀ b', (b.after requests).resolveTurn = .ok b' → ∃ cpu, (b'.tank side).cpu = some cpu ∧
      cpu.pc = pc ∧ (b'.Steppable side →
        let seen := cpu.sense ((b'.tank side).sensors (!b'.hasBullet side))
        ∃ b'', b'.step side = some (seen.resume.1, b'') ∧
          (b''.tank side).cpu = some seen.resume.2)

/-- A living machine in whose slot a wait is goes on where it stands. -/
private theorem goesOnAt_of_pending {cpu : Cpu} {reason : WaitReason} (vital : b.Vital)
    (poised : b.Poised) (budget : 0 < cpu.opLimit) (alive : (b.tank side).isAlive)
    (hasCpu : (b.tank side).cpu = some cpu) (pending : cpu.pending = some (.wait reason))
    (running : cpu.halted = none) :
    b.GoesOnAt side cpu.pc := by
  intro requests sameTurn b' resolved
  have ready : b.isReady side := by
    rw [isReady_iff]
    exact .inr ⟨cpu, _, hasCpu, pending⟩
  -- Until the turn is resolved nothing happens to the tank.
  have unfolds := unfolds_after b requests
  obtain ⟨same, -⟩ := unfolds.tank_eq poised ready sameTurn
  have vital' : (b.after requests).Vital :=
    after_invariant (fun change h => h.change change) vital requests
  have vital'' : b'.Vital := vital'.change (.turn resolved)
  rw [← same] at alive hasCpu
  obtain ⟨-, -, -, rfl⟩ := resolveTurn_eq_ok_iff.mp resolved
  obtain ⟨-, after⟩ := cpu_playTurn_of_pending vital'.orderly alive hasCpu pending
  -- Who waits asks for nothing, so that all that happens to the machine is that its slot is opened.
  have opened : ((b.after requests).playTurn.tank side).cpu = some cpu.clearPending := after
  refine ⟨cpu.clearPending, opened, rfl, fun steppable => ?_⟩
  intro seen
  have steps : seen.step = seen.resume := by
    refine Cpu.step_eq_resume rfl ?_ running budget
    exact Tank.hp_sense_pos steppable.alive (vital''.hp_le_word side)
  rw [← steps]
  exact exists_step_eq steppable opened

/-- **A machine that waits at the limit** stays where it is and goes on there. -/
theorem goesOnAt_of_waits (vital : b.Vital) (poised : b.Poised) (booked : b.Booked limit past)
    (idle : (b.tank side).pending? = none)
    (waits : b.step side = some (.ready (.wait .opLimit), b')) :
    ∃ pc, (b.tank side).cpu.map Cpu.pc = some pc ∧ (b'.tank side).cpu.map Cpu.pc = some pc ∧
      b'.GoesOnAt side pc := by
  have vital' := vital.change (.step waits)
  have poised' := poised.change (.step waits) vital.orderly
  obtain ⟨-, t, tankStepped, rfl⟩ := step_eq_some_iff.mp waits
  obtain ⟨alive, cpu, cpu', hasCpu, machine, rfl⟩ := Tank.step_eq_some_iff.mp tankStepped
  rw [Tank.pending?, hasCpu] at idle
  obtain ⟨running, latched⟩ := (Cpu.stepped_of_step_eq machine).eq_of_waits idle
  have budget : 0 < cpu.opLimit := by
    rw [((booked.account side).machine cpu hasCpu).limit_eq]
    exact booked.limit_pos
  -- The wait is latched and nothing else is done, so the program counter stays.
  have samePc : cpu'.pc = cpu.pc := by
    rw [latched]
    exact cpu.pc_sense _
  refine ⟨cpu.pc, by rw [hasCpu, Option.map_some], ?_, ?_⟩
  · rw [tank, Pair.get_set_self, Option.map_some, samePc]
  · rw [← samePc]
    refine goesOnAt_of_pending vital' poised' ?_ ?_ ?_ (by rw [latched]) ?_
    · rw [latched]
      exact budget
    · rw [tank, Pair.get_set_self]
      exact alive
    · rw [tank, Pair.get_set_self]
    · rw [latched]
      exact running

/-! ### Running a machine -/

/-- What running a machine costs that has spent some of the limit: it makes `n` steps that work, the
last of them to `b₁`, and one more. -/
structure RunsWithin (limit spent : Nat) (b : Battle) (side : Side) (n : Nat) (b₁ : Battle)
    (action : Action) (b' : Battle) : Prop where
  ran : b.runUntilReady side = some (action, b')
  works : Works side n b b₁
  ready : b₁.step side = some (.ready action, b')
  incidents : b.incidents (.run side.number) =
    List.replicate n (.stepped side .working) ++ [.stepped side (.ready action)]
  le : n ≤ limit - spent
  total : (b'.tank side).totalOps = (b.tank side).totalOps + n
  waits : action = .wait .opLimit ↔ spent + n = limit
  goesOn : action = .wait .opLimit → ∃ pc, (b₁.tank side).cpu.map Cpu.pc = some pc ∧
    (b'.tank side).cpu.map Cpu.pc = some pc ∧ b'.GoesOnAt side pc

/-- **A run stays within what is left of the budget.** -/
theorem exists_runsWithin (vital : b.Vital) (poised : b.Poised) (booked : b.Booked limit past)
    (steppable : b.Steppable side) (notReady : b.isReady side = false) :
    ∃ n b₁ action b',
      RunsWithin limit (opsSince opensTurn side past) b side n b₁ action b' := by
  obtain ⟨⟨action, b'⟩, ran⟩ := Option.isSome_iff_exists.mp (runUntilReady_isSome_iff.mpr steppable)
  obtain ⟨n, b₁, works, ready, same⟩ := incidents_run ran
  have idle := works.pending?_eq_none (pending?_eq_none_of_isReady notReady)
  obtain ⟨vital₁, poised₁⟩ := works.unfolds.invariant (P := fun b => b.Vital ∧ b.Poised)
    (fun change h => ⟨h.1.change change, h.2.change change h.1.orderly⟩) ⟨vital, poised⟩
  -- The books are right behind the operations, and again behind the step that ends the run.
  have booked₁ := works.unfolds.booked vital.orderly booked
  have booked' := booked₁.happens vital₁.orderly (.stepped ready)
  have spent : opsSince opensTurn side (past ++ List.replicate n (.stepped side .working)) =
      opsSince opensTurn side past + n := Incident.opsSince_works _ _ _ _ rfl
  have total : opsSince restarts side (past ++ List.replicate n (.stepped side .working) ++
      [.stepped side (.ready action)]) = opsSince restarts side past + n := by
    rw [Incident.opsSince_concat, Incident.opsSince_works _ _ _ _ rfl]
    simp [restarts]
  have within := (booked₁.account side).spent_le
  rw [spent] at within
  exact ⟨n, b₁, action, b',
    { ran := ran
      works := works
      ready := ready
      incidents := same
      le := by omega
      total := by rw [(booked'.account side).total_eq, total, (booked.account side).total_eq]
      waits := by rw [← spent]; exact waits_iff vital₁ booked₁ idle ready
      goesOn := by
        rintro rfl
        exact goesOnAt_of_waits vital₁ poised₁ booked₁ idle ready }⟩

/-- **Operations are accounted for.** Whatever the settings are and whatever has been asked of the
battle, a tank counts just the operations that its machine has done since the battle began, and they
are no more than the limit allows for the turns there have been and the one there is. Within a turn
the limit is kept. A machine that can be stepped and has no action gets ready when it is run, behind
no more operations than it has left, and waits at the limit just if it has spent all of them. -/
theorem operations_accounted (config : Config) (past : List Request) (side : Side) :
    let b := (new config).after past
    let history := (new config).history past
    let spent := opsSince opensTurn side history
    (new config).Unfolds history b ∧
      (b.tank side).totalOps = opsSince restarts side history ∧
      (b.tank side).totalOps ≤ config.opLimit * (b.turn + 1) ∧
      spent ≤ config.opLimit ∧
      (b.Steppable side → b.isReady side = false → ∃ n b₁ action b',
        RunsWithin config.opLimit spent b side n b₁ action b') := by
  intro b history spent
  have vital : b.Vital := vital_after config past
  have poised : b.Poised := (poised_after config past).2
  have booked : b.Booked config.opLimit history := booked_after config past
  have account := booked.account side
  refine ⟨unfolds_after (new config) past, account.total_eq, ?_, account.spent_le, ?_⟩
  -- What earlier turns have spent is at most their limits, and what this one has spent is at most
  -- its own.
  · have total := account.total_le
    have spent := account.spent_le
    rw [account.total_eq, Nat.mul_succ]
    omega
  · exact fun steppable notReady => exists_runsWithin vital poised booked steppable notReady

/-- A limit of zero operations counts as one. The machine has spent it when it comes to its shot, so
it waits, and the shot is what it goes on with. -/
theorem operations_accounted_before_shot :
    let config : Config := { maxOpsPerTurn := 0 }
    let past : List Request := [.install ⟨countAndFire, countAndFire⟩, .run 2, .step 1]
    let b := (new config).after past
    config.opLimit = 1 ∧ b.Steppable .first ∧ b.isReady .first = false ∧
      countAndFire.fetch? 1 = some ⟨.fire, [], 2⟩ ∧
      ∃ b', b.runUntilReady .first = some (.wait .opLimit, b') ∧
        (b'.tank .first).totalOps = 1 ∧ b'.GoesOnAt .first 1 := by
  intro config past b
  have steppable : b.Steppable .first := ⟨by decide +kernel, by decide +kernel, by decide +kernel⟩
  have notReady : b.isReady .first = false := by decide +kernel
  have spent : opsSince opensTurn .first ((new config).history past) = 1 := by decide +kernel
  have total : (b.tank .first).totalOps = 1 := by decide +kernel
  have address : (b.tank .first).cpu.map Cpu.pc = some 1 := by decide +kernel
  have limit : config.opLimit = 1 := by decide
  obtain ⟨-, -, -, -, runs⟩ := operations_accounted config past .first
  rw [limit, spent] at runs
  obtain ⟨n, b₁, action, b', run⟩ := runs steppable notReady
  -- The one operation of the turn has been spent, so the run comes to no other.
  obtain rfl : n = 0 := Nat.le_zero.mp run.le
  obtain rfl := run.waits.mpr rfl
  obtain ⟨pc, before, -, goesOn⟩ := run.goesOn rfl
  rw [works_zero_iff.mp run.works] at before
  obtain rfl : 1 = pc := Option.some.inj (address.symm.trans before)
  have unchanged : (b'.tank .first).totalOps = 1 := by rw [run.total, total]
  exact ⟨limit, steppable, notReady, by decide, b', run.ran, unchanged, goesOn⟩

end Battle

end TankDuel

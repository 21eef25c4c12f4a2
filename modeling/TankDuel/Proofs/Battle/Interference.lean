import TankDuel.Proofs.Battle.Machines
import TankDuel.Proofs.Battle.Stepping

/-!
# Nothing leaves the sensor registers

A program may write to a sensor register, and so may the answer to a scan or a ping. Nothing comes
of it: two battles that agree on everything except what the sensor registers hold (`Battle.Agrees`)
answer every request alike and agree again afterwards (`Battle.serve_of_agrees`). So it does not
matter either if somebody overwrites sensor registers while the battle goes on (`Battle.Tampered`),
even in the middle of a turn, right after the sensors have answered (`Battle.finishTurn`).

Agreement is an equation: clear the sensor registers of all machines (`Battle.blind`), and two
battles agree iff this makes them equal (`Battle.agrees_iff`). It then remains to follow the
registers. A micro-step renews them before anything is read, so it does not notice that they were
cleared (`Tank.step_blind`). Resolving a turn does not look at the machines at all, apart from what
waits in them, and only writes registers, after which the cleared ones can be cleared again
(`Battle.blind_answer`).
-/

namespace TankDuel

/-! ### Machines -/

namespace Cpu

/-- Two machines agree on everything except what the sensor registers hold. -/
structure Agrees (c c' : Cpu) : Prop where
  registers : ∀ r : Register, r.isSensor = false → c.registers.get r = c'.registers.get r
  program : c.program = c'.program
  pending : c.pending = c'.pending
  halted : c.halted = c'.halted
  opLimit : c.opLimit = c'.opLimit
  opsThisTurn : c.opsThisTurn = c'.opsThisTurn
  executed : c.executed = c'.executed

/-- Clear the sensor registers. -/
def blind (c : Cpu) : Cpu := c.sense ⟨0, 0, 0, 0, false⟩

variable {c c' : Cpu}

/-- A blind machine reads zero from its sensors and is the same otherwise. -/
private theorem get_blind (c : Cpu) (r : Register) :
    c.blind.registers.get r = if r.isSensor then 0 else c.registers.get r := by
  rw [blind, get_sense]
  cases r <;> rfl

/-- A machine is determined by its registers and the rest. -/
theorem ext_get (registers : ∀ r, c.registers.get r = c'.registers.get r)
    (rest : { c with registers := .zero } = { c' with registers := .zero }) : c = c' := by
  obtain ⟨regs, _, _, _, _, _, _⟩ := c
  obtain ⟨regs', _, _, _, _, _, _⟩ := c'
  obtain rfl : regs = regs' := RegisterFile.ext_get registers
  simpa using rest

/-- Machines agree if they are the same but for their sensors. -/
theorem agrees_iff : c.Agrees c' ↔ c.blind = c'.blind := by
  constructor
  · intro h
    refine ext_get (fun r => ?_) ?_
    · rw [get_blind, get_blind]
      cases sensor : r.isSensor with
      | true => rfl
      | false => exact h.registers r sensor
    · obtain ⟨_, _, _, _, _, _, _⟩ := c
      obtain ⟨_, rfl, rfl, rfl, rfl, rfl, rfl⟩ := h
      rfl
  · intro h
    -- Clearing touches no field but the registers.
    refine ⟨fun r notSensor => ?_, (congrArg program h :), (congrArg pending h :),
      (congrArg halted h :), (congrArg opLimit h :), (congrArg opsThisTurn h :),
      (congrArg executed h :)⟩
    have same : c.blind.registers.get r = c'.blind.registers.get r := by rw [h]
    simpa [get_blind, notSensor] using same

/-- Sensors overwrite whatever the sensor registers hold. -/
private theorem sense_blind (c : Cpu) (s : Sensors) : c.blind.sense s = c.sense s := by
  refine ext_get (fun r => ?_) rfl
  rw [get_sense, get_sense, get_blind]
  cases r <;> rfl

/-- A blind machine stays as it is when it is blinded. -/
private theorem blind_blind (c : Cpu) : c.blind.blind = c.blind := sense_blind c _

/-- A register can be set before or after blinding. -/
private theorem blind_setRegister (c : Cpu) (r : Register) (value : Int32) :
    (c.blind.setRegister r value).blind = (c.setRegister r value).blind := by
  refine ext_get (fun s => ?_) rfl
  rw [get_blind, get_blind, setRegister, setRegister]
  dsimp only
  rw [RegisterFile.get_write, RegisterFile.get_write, get_blind]
  -- A sensor register is cleared in the end, and any other holds what it held before.
  cases s.isSensor <;> rfl

/-- What is written to cleared registers can be cleared again. -/
private theorem blind_setRegisters (c : Cpu) (values : List (Register × Int)) :
    (values.foldl (fun c value => c.setRegister value.1 (Int32.ofInt value.2)) c.blind).blind =
      (values.foldl (fun c value => c.setRegister value.1 (Int32.ofInt value.2)) c).blind := by
  induction values generalizing c with
  | nil => exact blind_blind c
  | cons value values ih =>
    -- Clear the registers once more behind the first value, and then go on from there.
    rw [List.foldl_cons, List.foldl_cons, ← ih, blind_setRegister, ih]

end Cpu

/-! ### Tanks -/

namespace Tank

/-- Two tanks agree on everything except what the sensor registers of their machines hold. -/
structure Agrees (t t' : Tank) : Prop where
  position : t.position = t'.position
  facing : t.facing = t'.facing
  hp : t.hp = t'.hp
  lastAction : t.lastAction = t'.lastAction
  lastFeedback : t.lastFeedback = t'.lastFeedback
  totalOps : t.totalOps = t'.totalOps
  cpu : Option.Rel Cpu.Agrees t.cpu t'.cpu

/-- Clear the sensor registers. -/
def blind (t : Tank) : Tank := t.mapCpu Cpu.blind

variable {t t' : Tank}

/-- Tanks agree if they are the same but for the sensors. -/
theorem agrees_iff : t.Agrees t' ↔ t.blind = t'.blind := by
  have machines {x y : Option Cpu} :
      Option.Rel Cpu.Agrees x y ↔ x.map Cpu.blind = y.map Cpu.blind := by
    cases x with
    | none => cases y <;> simp
    | some c => cases y <;> simp [Cpu.agrees_iff]
  obtain ⟨_, _, _, _, _, _, cpu⟩ := t
  obtain ⟨_, _, _, _, _, _, cpu'⟩ := t'
  simp only [blind, mapCpu, mk.injEq]
  constructor
  · rintro ⟨rfl, rfl, rfl, rfl, rfl, rfl, h⟩
    exact ⟨rfl, rfl, rfl, rfl, rfl, rfl, machines.mp h⟩
  · rintro ⟨rfl, rfl, rfl, rfl, rfl, rfl, h⟩
    exact ⟨rfl, rfl, rfl, rfl, rfl, rfl, machines.mpr h⟩

/-- A blind tank stays as it is when it is blinded. -/
private theorem blind_blind (t : Tank) : t.blind.blind = t.blind := by
  rw [blind, blind, mapCpu_mapCpu]
  exact congrArg t.mapCpu (funext Cpu.blind_blind)

/-- A blind tank has the same action in store. -/
private theorem pending?_blind (t : Tank) : t.blind.pending? = t.pending? :=
  pending?_mapCpu _ _ fun _ => rfl

/-- **A micro-step does not notice what the sensor registers held before.** -/
theorem step_blind (t : Tank) (ammo : Bool) : t.blind.step ammo = t.step ammo := by
  have alive : t.blind.isAlive = t.isAlive := rfl
  have sensors : t.blind.sensors ammo = t.sensors ammo := rfl
  obtain ⟨_, _, _, _, _, _, cpu⟩ := t
  unfold step
  rw [alive, sensors]
  cases cpu with
  | none => rfl
  | some c =>
    -- The sensors are shown to the machine before anything else.
    simp only [blind, mapCpu, Option.map_some, Cpu.sense_blind]

/-- Registers can be written before or after blinding. -/
private theorem blind_writeRegisters (t : Tank) (values : List (Register × Int)) :
    (t.blind.writeRegisters values).blind = (t.writeRegisters values).blind := by
  obtain ⟨_, _, _, _, _, _, cpu⟩ := t
  cases cpu with
  | none => rfl
  | some c => simp [blind, mapCpu, writeRegisters, Cpu.blind_setRegisters]

end Tank

/-! ### Battles -/

namespace Battle

/-- **Two battles agree** on everything except what the sensor registers of the machines hold. -/
structure Agrees (b b' : Battle) : Prop where
  config : b.config = b'.config
  arena : b.arena = b'.arena
  tanks : ∀ side, (b.tank side).Agrees (b'.tank side)
  bullets : b.bullets = b'.bullets
  events : b.events = b'.events
  messages : b.messages = b'.messages
  turn : b.turn = b'.turn
  outcome : b.outcome = b'.outcome
  programs : b.programs = b'.programs
  nextBulletId : b.nextBulletId = b'.nextBulletId
  nextEventId : b.nextEventId = b'.nextEventId

/-- Clear the sensor registers of all machines. -/
def blind (b : Battle) : Battle := b.mapCpus Cpu.blind

variable {b b' : Battle} (side : Side)

/-- The tanks of a blind battle are blind. -/
@[simp] theorem tank_blind (b : Battle) : b.blind.tank side = (b.tank side).blind :=
  tank_mapCpus ..

/-- Battles agree if they are the same but for the sensors of the machines. -/
theorem agrees_iff : b.Agrees b' ↔ b.blind = b'.blind := by
  constructor
  · intro h
    have tanks : b.blind.tanks = b'.blind.tanks := by
      refine Pair.ext_get fun side => ?_
      have same := Tank.agrees_iff.mp (h.tanks side)
      rw [← tank_blind, ← tank_blind] at same
      exact same
    -- All parts but the tanks are the same as they stand.
    obtain ⟨_, _, _, _, _, _, _, _, _, _, _⟩ := b
    obtain ⟨_, _, _, _, _, _, _, _, _, _, _⟩ := b'
    obtain ⟨rfl, rfl, -, rfl, rfl, rfl, rfl, rfl, rfl, rfl, rfl⟩ := h
    exact congrArg (fun tanks => (⟨_, _, tanks, _, _, _, _, _, _, _, _⟩ : Battle)) tanks
  · intro h
    refine ⟨(congrArg config h :), (congrArg arena h :), fun side => ?_, (congrArg bullets h :),
      (congrArg events h :), (congrArg messages h :), (congrArg turn h :), (congrArg outcome h :),
      (congrArg programs h :), (congrArg nextBulletId h :), (congrArg nextEventId h :)⟩
    rw [Tank.agrees_iff, ← tank_blind, h, tank_blind]

/-- A blind battle stays as it is when it is blinded. -/
private theorem blind_blind (b : Battle) : b.blind.blind = b.blind := by
  rw [blind, blind, mapCpus_mapCpus]
  exact congrArg b.mapCpus (funext Cpu.blind_blind)

/-! ### Resolving a turn -/

/-- A tank can be changed before or after blinding, if the change does not depend on the sensors. -/
private theorem blind_modifyTank (b : Battle) {f : Tank → Tank}
    (again : ∀ t, (f t.blind).blind = (f t).blind) :
    (b.blind.modifyTank side f).blind = (b.modifyTank side f).blind := by
  refine congrArg (fun tanks => { b with tanks }) (Pair.ext_get fun t => ?_)
  have twice := Tank.blind_blind (b.tank t)
  change ((b.blind.modifyTank side f).blind).tank t = ((b.modifyTank side f).blind).tank t
  rw [tank_blind, tank_blind, tank_modifyTank, tank_modifyTank, tank_blind]
  split
  · exact again _
  · exact twice

/-- **The sensor phase** asks for the view and the opponent only, and writes registers. -/
theorem blind_answer (b : Battle) (action : Option Action) :
    (b.blind.answer side action).blind = (b.answer side action).blind := by
  have written (values : List (Register × Int)) :
      (b.blind.modifyTank side (·.writeRegisters values)).blind =
        (b.modifyTank side (·.writeRegisters values)).blind :=
    blind_modifyTank side b fun t => t.blind_writeRegisters values
  have sameView : b.blind.view side = b.view side := view_mapCpus ..
  have sameEnemy : b.blind.livingAt side.other = b.livingAt side.other := livingAt_mapCpus ..
  cases action with
  | none => exact blind_blind b
  | some action =>
    cases action with
    | scan distance kind =>
      rw [answer, answer, sameView]
      exact written _
    | ping x y =>
      rw [answer, answer, sameEnemy]
      split
      next cell _ =>
        -- The event is appended behind the same events.
        have logged := congrArg (emit · (.ping side cell)) (written [(x, cell.x), (y, cell.y)])
        exact logged
      next => exact written _
    | move | rotate | fire | wait | halt | dead => exact blind_blind b

/-- Battles that agree still agree after an answer. -/
private theorem answer_congr (h : b.blind = b'.blind) (action : Option Action) :
    (b.answer side action).blind = (b'.answer side action).blind := by
  rw [← blind_answer, h, blind_answer]

/-- What does not look at the machines gives battles that agree when it is given such. -/
private theorem congr_of_mapCpus (f : Battle → Battle)
    (apart : ∀ g b, f (mapCpus g b) = (f b).mapCpus g) (h : b.blind = b'.blind) :
    (f b).blind = (f b').blind :=
  calc (f b).blind = f b.blind := (apart Cpu.blind b).symm
    _ = f b'.blind := congrArg f h
    _ = (f b').blind := apart Cpu.blind b'

/-- In battles that agree the same actions are taken. -/
private theorem actions_congr (h : b.blind = b'.blind) : b.actions = b'.actions := by
  have same (b : Battle) : b.blind.actions = b.actions := by
    refine Pair.ext_get fun side => ?_
    have taken (b : Battle) : b.actions.get side = (b.tank side).action? := Pair.get_map ..
    have alive : (b.tank side).blind.isAlive = (b.tank side).isAlive := rfl
    rw [taken, taken, tank_blind, Tank.action?, Tank.action?, alive, Tank.pending?_blind]
  rw [← same b, h, same]

/-- **Behind the sensor phase** nothing looks at the machines. -/
theorem finishTurn_congr (h : b.blind = b'.blind) (actions : Pair (Option Action)) :
    (b.finishTurn actions).blind = (b'.finishTurn actions).blind := by
  have seen (b : Battle) (side : Side) (action : Option Action) :
      b.blind.intent side action = b.intent side action := intent_mapCpus ..
  have sameIntents : (fun side => b.intent side (actions.get side)) =
      fun side => b'.intent side (actions.get side) := by
    funext side
    rw [← seen, h, seen]
  unfold finishTurn
  rw [sameIntents]
  dsimp only
  generalize Pair.ofFn (fun side => b'.intent side (actions.get side)) = intents
  have acted := congr_of_mapCpus (actBoth · actions) (fun g b => actBoth_mapCpus g b _) h
  have driven := congr_of_mapCpus (moveTanks · intents) (fun g b => moveTanks_mapCpus g b _) acted
  have marked := congr_of_mapCpus markDestroyed markDestroyed_mapCpus driven
  have concluded := congr_of_mapCpus conclude conclude_mapCpus marked
  -- Opening the slots and clearing the sensor registers do not get in each other's way.
  have swap (b : Battle) :
      (b.mapCpus Cpu.clearPending).blind = b.blind.mapCpus Cpu.clearPending := by
    rw [blind, blind, mapCpus_mapCpus, mapCpus_mapCpus]
    rfl
  rw [swap, swap, concluded]

/-- Battles that agree still agree after a turn. -/
private theorem playTurn_congr (h : b.blind = b'.blind) : b.playTurn.blind = b'.playTurn.blind := by
  -- Both actions are fixed before anything happens.
  have sameActions := actions_congr h
  have bullets : b.afterBullets.blind = b'.afterBullets.blind :=
    congr_of_mapCpus afterBullets afterBullets_mapCpus h
  have answers : b.afterAnswers.blind = b'.afterAnswers.blind := by
    unfold afterAnswers answerBoth
    rw [sameActions]
    exact answer_congr _ (answer_congr _ bullets _) _
  rw [playTurn_eq, playTurn_eq, sameActions]
  exact finishTurn_congr answers _

/-! ### Requests -/

/-- The same is said about battles that agree. -/
def Alike {α : Type} (x y : α × Battle) : Prop := x.1 = y.1 ∧ x.2.blind = y.2.blind

/-- A step does the same in battles that agree, or is refused in both. -/
private theorem step_congr (h : b.blind = b'.blind) :
    Option.Rel Alike (b.step side) (b'.step side) := by
  -- All that decides whether the step is made and what it does is the same in both battles.
  have ended : b.isOver = b'.isOver := (congrArg isOver h :)
  have loaded : b.hasBullet side = b'.hasBullet side := (congrArg (hasBullet · side) h :)
  have tank (s : Side) : (b.tank s).blind = (b'.tank s).blind := by
    rw [← tank_blind, h, tank_blind]
  have stepped : (b.tank side).step (!b.hasBullet side) =
      (b'.tank side).step (!b'.hasBullet side) := by
    rw [← Tank.step_blind, tank, Tank.step_blind, loaded]
  rw [step, step, ended, stepped]
  split
  next => exact .none
  next =>
    split
    next => exact .none
    next result t' _ =>
      -- The same tank is put into battles that agree.
      have put (b : Battle) : ({ b with tanks := b.tanks.set side t' } : Battle).blind =
          { b.blind with tanks := b.blind.tanks.set side t'.blind } := by
        cases side <;> rfl
      refine .some ⟨rfl, ?_⟩
      rw [put, put, h]

/-- Some steps do the same in battles that agree, or are refused in both. -/
private theorem runFor_congr (steps : Nat) (h : b.blind = b'.blind) :
    Option.Rel Alike (runFor side steps b) (runFor side steps b') := by
  induction steps generalizing b b' with
  | zero => exact .none
  | succ steps ih =>
    rw [runFor, runFor]
    have stepped := step_congr side h
    generalize b.step side = x at stepped
    generalize b'.step side = y at stepped
    cases stepped with
    | none => exact .none
    | @some x y alike =>
      -- Both steps produced the same, so both loops leave or go round once more.
      obtain ⟨result, c⟩ := x
      obtain ⟨result', c'⟩ := y
      obtain ⟨rfl, agree⟩ := alike
      cases result with
      | working => exact ih agree
      | ready action => exact .some ⟨rfl, agree⟩

/-- A run does the same in battles that agree, or is refused in both. -/
private theorem runUntilReady_congr (h : b.blind = b'.blind) :
    Option.Rel Alike (b.runUntilReady side) (b'.runUntilReady side) := by
  have left (b : Battle) : b.blind.stepsLeft side = b.stepsLeft side := by
    unfold stepsLeft
    rw [tank_blind]
    unfold Tank.blind Tank.mapCpu
    cases (b.tank side).cpu <;> rfl
  have sameLeft : b.stepsLeft side = b'.stepsLeft side := by rw [← left, h, left]
  rw [runUntilReady, runUntilReady, sameLeft]
  exact runFor_congr side _ h

/-- A turn is resolved in both of two battles that agree, or refused for the same reason. -/
private theorem resolveTurn_congr (h : b.blind = b'.blind) :
    (∃ error, b.resolveTurn = .error error ∧ b'.resolveTurn = .error error) ∨
      ∃ c c', b.resolveTurn = .ok c ∧ b'.resolveTurn = .ok c' ∧ c.blind = c'.blind := by
  have installed : b.hasPrograms = b'.hasPrograms := (congrArg hasPrograms h :)
  have ended : b.isOver = b'.isOver := (congrArg isOver h :)
  have ready (b : Battle) (side : Side) : b.blind.isReady side = b.isReady side := by
    have alive : (b.tank side).blind.isAlive = (b.tank side).isAlive := rfl
    rw [isReady, isReady, tank_blind, Tank.isReady, Tank.isReady, alive, Tank.pending?_blind]
  have sameReady (side : Side) : b.isReady side = b'.isReady side := by
    rw [← ready, h, ready]
  unfold resolveTurn
  rw [installed, ended, sameReady, sameReady]
  split_ifs
  -- There are four ways to be refused, and both battles go the same one.
  · exact .inl ⟨_, rfl, rfl⟩
  · exact .inl ⟨_, rfl, rfl⟩
  · exact .inl ⟨_, rfl, rfl⟩
  · exact .inl ⟨_, rfl, rfl⟩
  · exact .inr ⟨_, _, rfl, rfl, playTurn_congr h⟩

/-- Numbers name the same tanks in both battles. -/
private theorem numbered_congr {α : Type} {f g : Side → Option (α × Battle)} (number : Nat)
    (alike : ∀ side, Option.Rel Alike (f side) (g side)) :
    Option.Rel Alike ((Side.ofNumber? number).bind f) ((Side.ofNumber? number).bind g) := by
  cases Side.ofNumber? number with
  | none => exact .none
  | some side => exact alike side

/-- **One request.** -/
theorem serve_congr (h : b.blind = b'.blind) (request : Request) :
    Alike (b.serve request) (b'.serve request) := by
  have sameConfig : b.config = b'.config := (congrArg config h :)
  have sameArena : b.arena = b'.arena := (congrArg arena h :)
  have samePrograms : b.programs = b'.programs := (congrArg programs h :)
  -- What starts afresh keeps settings, arena and programs at most.
  have restart {a a' : Arena} {p p' : Option (Pair Program)} (arenas : a = a')
      (programs : p = p') : (fresh b.config a p).blind = (fresh b'.config a' p').blind := by
    rw [sameConfig, arenas, programs]
  cases request with
  | setLevel level => exact ⟨rfl, restart rfl samePrograms⟩
  | setArena arena => exact ⟨rfl, restart rfl samePrograms⟩
  | install programs => exact ⟨rfl, restart sameArena rfl⟩
  | reset => exact ⟨rfl, restart sameArena samePrograms⟩
  | load sources =>
    rw [serve, serve, load, load]
    cases compilePair sources with
    | error error => exact ⟨rfl, h⟩
    | ok programs => exact ⟨rfl, restart sameArena rfl⟩
  | step number =>
    have stepped : Option.Rel Alike (b.stepNumber number) (b'.stepNumber number) :=
      numbered_congr number fun side => step_congr side h
    rw [serve, serve]
    -- The number names the same machine in both battles, and steps of it do the same.
    generalize b.stepNumber number = x at stepped
    generalize b'.stepNumber number = y at stepped
    cases stepped with
    | none => exact ⟨rfl, h⟩
    | some alike => exact ⟨congrArg (Reply.stepped ∘ some) alike.1, alike.2⟩
  | run number =>
    have ran : Option.Rel Alike (b.runNumberUntilReady number) (b'.runNumberUntilReady number) :=
      numbered_congr number fun side => runUntilReady_congr side h
    rw [serve, serve]
    generalize b.runNumberUntilReady number = x at ran
    generalize b'.runNumberUntilReady number = y at ran
    cases ran with
    | none => exact ⟨rfl, h⟩
    | some alike => exact ⟨congrArg (Reply.ran ∘ some) alike.1, alike.2⟩
  | resolve =>
    rw [serve, serve]
    rcases resolveTurn_congr h with ⟨error, refused, refused'⟩ | ⟨c, c', resolved, resolved', agree⟩
    · rw [refused, refused']
      exact ⟨rfl, h⟩
    · rw [resolved, resolved']
      exact ⟨rfl, agree⟩

/-! ### Runs -/

/-- What requests are answered with. -/
def replies (b : Battle) : List Request → List Reply
  | [] => []
  | request :: requests => (b.serve request).1 :: (b.serve request).2.replies requests

/-- A run in which somebody overwrites sensor registers, with anything and at any time. It answers
`requests` with `replies` and leads from `b` to the last battle. -/
inductive Tampered : Battle → List Request → List Reply → Battle → Prop
  | nil {b b' : Battle} : b.Agrees b' → Tampered b [] [] b'
  | cons {b b' c : Battle} {request : Request} {requests : List Request} {replies : List Reply} :
    b.Agrees b' → Tampered (b'.serve request).2 requests replies c →
    Tampered b (request :: requests) ((b'.serve request).1 :: replies) c

/-- **Nothing leaves the sensor registers.** Battles that agree on everything else answer alike and
agree again, request by request. A run is the same whoever overwrites sensor registers on the way,
and so is a turn if somebody does so as soon as the sensors have answered. -/
theorem serve_of_agrees (h : b.Agrees b') :
    (∀ request, (b.serve request).1 = (b'.serve request).1 ∧
      (b.serve request).2.Agrees (b'.serve request).2) ∧
    (∀ requests replies c, Tampered b requests replies c →
      replies = b'.replies requests ∧ c.Agrees (b'.after requests)) ∧
    ∀ c, b.afterAnswers.Agrees c → (c.finishTurn b.actions).Agrees b'.playTurn := by
  have one {b b' : Battle} (h : b.Agrees b') (request : Request) :
      (b.serve request).1 = (b'.serve request).1 ∧
        (b.serve request).2.Agrees (b'.serve request).2 := by
    obtain ⟨reply, agree⟩ := serve_congr (agrees_iff.mp h) request
    exact ⟨reply, agrees_iff.mpr agree⟩
  refine ⟨one h, fun requests replies c run => ?_, fun c touched => ?_⟩
  · -- The induction is on the run that is interfered with; the other one keeps agreeing with it.
    induction run generalizing b' with
    | nil touched =>
      refine ⟨rfl, agrees_iff.mpr ?_⟩
      exact (agrees_iff.mp touched).symm.trans (agrees_iff.mp h)
    | @cons b₀ b₁ c request requests replies touched _ ih =>
      have still : b₁.Agrees b' :=
        agrees_iff.mpr ((agrees_iff.mp touched).symm.trans (agrees_iff.mp h))
      obtain ⟨reply, agree⟩ := one still request
      obtain ⟨same, last⟩ := ih agree
      exact ⟨congrArg₂ List.cons reply same, last⟩
  · have finished := finishTurn_congr (agrees_iff.mp touched).symm b.actions
    exact agrees_iff.mpr (finished.trans (playTurn_congr (agrees_iff.mp h)))

/-- A machine that has seen its hit points, and the same one with the `HP` register at zero. -/
theorem serve_of_agrees_blind :
    let b := (new {}).after [.install ⟨countAndFire, countAndFire⟩, .step 1]
    b ≠ b.blind ∧ b.Agrees b.blind ∧
      (b.serve (.run 1)).1 = (b.blind.serve (.run 1)).1 ∧
      (b.serve (.run 1)).2.Agrees (b.blind.serve (.run 1)).2 := by
  intro b
  have agree : b.Agrees b.blind := agrees_iff.mpr (blind_blind b).symm
  have differ : b ≠ b.blind := by
    have word : (b.tank .first).cpu.map (·.registers.get .hp) ≠
        (b.blind.tank .first).cpu.map (·.registers.get .hp) := by decide +kernel
    exact fun same => word (by rw [← same])
  exact ⟨differ, agree, (serve_of_agrees agree).1 (.run 1)⟩

end Battle

end TankDuel

import TankDuel.Proofs.Battle.Damage
import TankDuel.Proofs.Battle.Interference
import TankDuel.Proofs.Battle.Messages

/-!
# The message limit is a view

How many messages a battle keeps makes no difference to anything else. Two battles whose settings
differ in the message limit only answer all requests alike and agree on everything but the limit and
the messages (`Battle.AgreesButMessages`). And the one with the smaller limit shows an ending of
what the other one shows (`Battle.messages_are_view`).

The first half is a projection. `Battle.mute` gives a battle that has no messages and keeps none,
and it can be moved out of whatever is done to the battle: a report made under a limit of zero is
forgotten at once (`report_mute`), and nothing else looks at the messages or writes them. So each
phase of a turn, each request (`serve_mute`) and each run (`after_mute`, `replies_mute`) comes with
one equation, and battles that are the same when they are muted stay so.

The second half needs no second look at the phases. The messages of a battle are the last ones of
its chronicle (`Battle.keeps_chronicle`), and what is reported in a turn is told by the battle as it
is without its messages (`turnReports_mute`). So both battles have the same chronicle.
-/

namespace TankDuel

namespace Battle

/-- A battle that has no messages and keeps none. -/
def mute (b : Battle) : Battle :=
  { b with
    config := { b.config with messageLimit := 0 }
    messages := #[] }

variable (b : Battle) (side : Side)

/-! ### The turn -/

/-- Under a limit of zero a report is forgotten at once. -/
theorem report_mute (r : Report) : b.mute.report r = (b.report r).mute := by
  have forgotten : b.mute.report r = b.mute := by
    unfold report mute
    simp
  exact forgotten

/-- A strike is the same without messages. -/
private theorem strike_mute (cell : Coord) :
    b.mute.strike side cell = (b.strike side cell).mute := by
  have sameTank : b.mute.tank side.other = b.tank side.other := rfl
  have sameTanks : b.mute.tanks = b.tanks := rfl
  have struck (tanks : Pair Tank) (kind : Event.Kind) :
      { b.mute with tanks := tanks }.emit kind = ({ b with tanks := tanks }.emit kind).mute := rfl
  unfold strike
  dsimp only
  rw [sameTank, sameTanks, struck, report_mute]
  -- What is left is the second report of a hit that destroys.
  split
  · exact report_mute ..
  · rfl

/-- A bullet flies the same without messages. -/
private theorem flyBullet_mute (m : Bullet Side) :
    b.mute.flyBullet m = ((b.flyBullet m).1, (b.flyBullet m).2.mute) := by
  have sameFate : b.mute.fate m = b.fate m := rfl
  refine Prod.ext ?_ ?_
  · rw [flyBullet_fst, flyBullet_fst, sameFate]
  · rw [flyBullet_snd, flyBullet_snd, sameFate]
    cases b.fate m with
    | aloft | spent | crashed => rfl
    | struck cell => exact strike_mute b m.owner cell

/-- All bullets fly the same without messages. -/
private theorem flyBullets_mute (ms : List (Bullet Side)) :
    b.mute.flyBullets ms = ((b.flyBullets ms).1, (b.flyBullets ms).2.mute) := by
  induction ms generalizing b with
  | nil => rfl
  | cons m ms ih => rw [flyBullets_cons, flyBullets_cons, flyBullet_mute, ih]

/-- The bullet phase is the same without messages. -/
private theorem afterBullets_mute : b.mute.afterBullets = b.afterBullets.mute := by
  -- The turn is counted before the bullets fly.
  have flown := flyBullets_mute { b with turn := b.turn + 1 } b.bullets
  change { ({ b with turn := b.turn + 1 }.mute.flyBullets b.bullets).2 with
    bullets := ({ b with turn := b.turn + 1 }.mute.flyBullets b.bullets).1 } = _
  rw [flown]
  rfl

/-- An answer is the same without messages. -/
private theorem answer_mute (action : Option Action) :
    b.mute.answer side action = (b.answer side action).mute := by
  have sameEnemy : b.mute.livingAt side.other = b.livingAt side.other := rfl
  cases action with
  | none => rfl
  | some action =>
    cases action with
    | move | rotate | fire | scan | wait | halt | dead => rfl
    | ping x y =>
      rw [answer, answer, sameEnemy]
      cases b.livingAt side.other with
      | none => rfl
      | some cell => rfl

/-- The sensor phase is the same without messages. -/
private theorem afterAnswers_mute : b.mute.afterAnswers = b.afterAnswers.mute := by
  have sameActions : b.mute.actions = b.actions := rfl
  unfold afterAnswers answerBoth
  rw [sameActions, afterBullets_mute, answer_mute, answer_mute]

/-- A shot is the same without messages. -/
private theorem fire_mute : b.mute.fire side = (b.fire side).mute := by
  have sameShot : b.mute.shot side = b.shot side := rfl
  rw [fire_eq, fire_eq, sameShot]
  cases b.shot side with
  | reloading | blocked | launched => rfl
  | pointBlank cell => exact strike_mute ..

/-- An action is the same without messages. -/
private theorem act_mute (action : Option Action) :
    b.mute.act side action = (b.act side action).mute := by
  cases action with
  | none => rfl
  | some action =>
    rw [act_some, act_some]
    cases action with
    | move | rotate | scan | ping | wait | dead => rfl
    | fire => exact fire_mute (b.note side .fire) side
    | halt reason =>
      -- Whether a halt is reported is told by the last deed.
      have told : (b.mute.note side (.halt reason)).tell side (.halted reason) =
          ((b.note side (.halt reason)).tell side (.halted reason)).mute := rfl
      have before : (b.mute.tank side).lastAction = (b.tank side).lastAction := rfl
      rw [carryOut, carryOut, told, before, report_mute]
      split <;> rfl

/-- The move phase is the same without messages. -/
private theorem afterMoves_mute : b.mute.afterMoves = b.afterMoves.mute := by
  have sameActions : b.mute.actions = b.actions := rfl
  have acted : b.mute.afterActions = b.afterActions.mute := by
    unfold afterActions actBoth
    rw [sameActions, afterAnswers_mute, act_mute, act_mute]
  have sameIntents : b.mute.intents = b.intents := by
    unfold intents
    rw [sameActions, afterAnswers_mute]
    rfl
  unfold afterMoves
  rw [acted, sameIntents]
  rfl

/-- The conclusion is the same without messages. -/
private theorem conclude_mute : b.mute.conclude = b.conclude.mute := by
  have sameVerdict : b.mute.verdict = b.verdict := rfl
  unfold conclude
  rw [sameVerdict]
  cases b.verdict with
  | none => rfl
  | some outcome =>
    dsimp only
    rw [report_mute]
    rfl

/-- **A turn** does not look at the messages. -/
theorem playTurn_mute : b.mute.playTurn = b.playTurn.mute := by
  have concluded : b.mute.afterMoves.conclude = b.afterMoves.conclude.mute := by
    rw [afterMoves_mute, conclude_mute]
  exact congrArg (mapCpus Cpu.clearPending) concluded

/-! ### Requests -/

/-- A step is the same without messages. -/
private theorem step_mute : b.mute.step side = (b.step side).map (Prod.map id mute) := by
  have sameEnd : b.mute.isOver = b.isOver := rfl
  have stepped : (b.mute.tank side).step (!b.mute.hasBullet side) =
      (b.tank side).step (!b.hasBullet side) := rfl
  rw [step, step, sameEnd, stepped]
  cases b.isOver with
  | true => rfl
  | false =>
    cases (b.tank side).step (!b.hasBullet side) with
    | none => rfl
    | some outcome => rfl

/-- Some steps are the same without messages. -/
private theorem runFor_mute (steps : Nat) :
    runFor side steps b.mute = (runFor side steps b).map (Prod.map id mute) := by
  induction steps generalizing b with
  | zero => rfl
  | succ steps ih =>
    rw [runFor, runFor, step_mute]
    cases b.step side with
    | none => rfl
    | some outcome =>
      obtain ⟨result, b'⟩ := outcome
      cases result with
      | working => exact ih b'
      | ready action => rfl

/-- Resolving a turn is the same without messages. -/
private theorem resolveTurn_mute : b.mute.resolveTurn = b.resolveTurn.map mute := by
  have installed : b.mute.hasPrograms = b.hasPrograms := rfl
  have ended : b.mute.isOver = b.isOver := rfl
  have ready (side : Side) : b.mute.isReady side = b.isReady side := rfl
  unfold resolveTurn
  rw [installed, ended, ready, ready, playTurn_mute]
  split_ifs <;> rfl

/-- **A request** is answered without regard to the messages. -/
theorem serve_mute (request : Request) :
    b.mute.serve request = ((b.serve request).1, (b.serve request).2.mute) := by
  -- Each request is made up of parts that messages do not matter to. It is refused with messages
  -- just where it is refused without.
  cases request with
  | setLevel | setArena | install | reset => rfl
  | load sources =>
    rw [serve, serve, load, load]
    cases compilePair sources with
    | error error => rfl
    | ok programs => rfl
  | step number =>
    rw [serve, serve, stepNumber, stepNumber]
    cases Side.ofNumber? number with
    | none => rfl
    | some side =>
      rw [Option.bind_some, Option.bind_some, step_mute]
      cases b.step side with
      | none => rfl
      | some outcome => rfl
  | run number =>
    rw [serve, serve, runNumberUntilReady, runNumberUntilReady]
    cases Side.ofNumber? number with
    | none => rfl
    | some side =>
      have ran : b.mute.runUntilReady side = (b.runUntilReady side).map (Prod.map id mute) :=
        runFor_mute b side (b.stepsLeft side)
      rw [Option.bind_some, Option.bind_some, ran]
      cases b.runUntilReady side with
      | none => rfl
      | some outcome => rfl
  | resolve =>
    rw [serve, serve, resolveTurn_mute]
    cases b.resolveTurn with
    | error error => rfl
    | ok b' => rfl

/-- Any requests are the same without messages. -/
theorem after_mute (requests : List Request) : b.mute.after requests = (b.after requests).mute := by
  induction requests generalizing b with
  | nil => rfl
  | cons request requests ih => rw [after_cons, after_cons, serve_mute, ih]

/-- The replies do not depend on the messages. -/
theorem replies_mute (requests : List Request) : b.mute.replies requests = b.replies requests := by
  induction requests generalizing b with
  | nil => rfl
  | cons request requests ih => rw [replies, replies, serve_mute, ih]

/-! ### What is reported -/

/-- What the bullets give to report does not depend on the messages. -/
private theorem flightReports_mute (ms : List (Bullet Side)) :
    b.mute.flightReports ms = b.flightReports ms := by
  induction ms generalizing b with
  | nil => rfl
  | cons m ms ih =>
    have sameReports : b.mute.bulletReports m = b.bulletReports m := rfl
    rw [flightReports, flightReports, sameReports, flyBullet_mute, ih]

/-- What an action gives to report does not depend on the messages. -/
private theorem deedReports_mute (action : Option Action) :
    b.mute.deedReports side action = b.deedReports side action := by
  cases action with
  | none => rfl
  | some action => cases action <;> rfl

/-- What is reported in a turn does not depend on what is kept of earlier reports. -/
theorem turnReports_mute : b.mute.turnReports = b.turnReports := by
  have sameActions : b.mute.actions = b.actions := rfl
  have flown : { b.mute with turn := b.mute.turn + 1 }.flightReports b.mute.bullets =
      { b with turn := b.turn + 1 }.flightReports b.bullets :=
    flightReports_mute { b with turn := b.turn + 1 } b.bullets
  have ended : b.afterMoves.mute.verdictReports = b.afterMoves.verdictReports := rfl
  unfold turnReports
  rw [sameActions, flown, afterAnswers_mute, afterMoves_mute, act_mute, deedReports_mute,
    deedReports_mute, ended]

/-- What a request adds to the chronicle does not depend on the messages. -/
private theorem record_mute (log : List Message) (request : Request) :
    b.mute.record log request = b.record log request := by
  cases request with
  | setLevel | setArena | install | reset | step | run => rfl
  | load sources =>
    rw [record, record, load, load]
    cases compilePair sources with
    | error error => rfl
    | ok programs => rfl
  | resolve =>
    rw [record, record, resolveTurn_mute, turnReports_mute]
    cases b.resolveTurn with
    | error error => rfl
    | ok b' => rfl

/-- The chronicle does not depend on the messages. -/
private theorem chronicle_mute (log : List Message) (requests : List Request) :
    b.mute.chronicle log requests = b.chronicle log requests := by
  induction requests generalizing b log with
  | nil => rfl
  | cons request requests ih => rw [chronicle, chronicle, serve_mute, record_mute, ih]

/-! ### Two limits -/

/-- Two battles agree on everything except the message limit and the messages. -/
structure AgreesButMessages (b b' : Battle) : Prop where
  config : { b.config with messageLimit := b'.config.messageLimit } = b'.config
  arena : b.arena = b'.arena
  tanks : b.tanks = b'.tanks
  bullets : b.bullets = b'.bullets
  events : b.events = b'.events
  turn : b.turn = b'.turn
  outcome : b.outcome = b'.outcome
  programs : b.programs = b'.programs
  nextBulletId : b.nextBulletId = b'.nextBulletId
  nextEventId : b.nextEventId = b'.nextEventId

variable {b} {b' : Battle}

/-- Battles that are the same when they are muted agree. -/
theorem AgreesButMessages.of_mute (h : b.mute = b'.mute) : b.AgreesButMessages b' where
  config :=
    congrArg (fun c : Config => { c with messageLimit := b'.config.messageLimit })
      (congrArg Battle.config h :)
  arena := (congrArg Battle.arena h :)
  tanks := (congrArg Battle.tanks h :)
  bullets := (congrArg Battle.bullets h :)
  events := (congrArg Battle.events h :)
  turn := (congrArg Battle.turn h :)
  outcome := (congrArg Battle.outcome h :)
  programs := (congrArg Battle.programs h :)
  nextBulletId := (congrArg Battle.nextBulletId h :)
  nextEventId := (congrArg Battle.nextEventId h :)

/-- A log that is shorter than the limit is kept as a whole. -/
theorem Keeps.eq_rtake {log : List Message} (h : b.Keeps log) :
    b.messages.toList = log.rtake (min b.config.messageLimit.toNat log.length) := by
  have dropped : log.length - min b.config.messageLimit.toNat log.length =
      log.length - b.config.messageLimit.toNat := by omega
  rw [Keeps] at h
  rw [h, kept, List.rtake, List.rtake, dropped]

/-- **The message limit is a view.** The same requests are made to two battles whose settings differ
in the message limit only. They are answered alike, and the battles agree on everything except the
limit and the messages. Let the second limit be large enough for all that has been reported since
the battle was last started afresh. Then the second battle has all of it, and the first one as many
of the last messages of the second one as its own limit allows for, in the same order. So a limit of
zero keeps nothing, and no limit is ever exceeded. -/
theorem messages_are_view (config : Config) (limit : UInt64) (requests : List Request) :
    let other := { config with messageLimit := limit }
    let b := (new config).after requests
    let b' := (new other).after requests
    let reported := (new config).chronicle [] requests
    (new config).replies requests = (new other).replies requests ∧ b.AgreesButMessages b' ∧
      (reported.length ≤ limit.toNat → b'.messages.toList = reported ∧
        b.messages.toList =
          b'.messages.toList.rtake (min config.messageLimit.toNat reported.length)) ∧
      (config.messageLimit = 0 → b.messages = #[]) ∧
      b.messages.size ≤ config.messageLimit.toNat := by
  intro other b b' reported
  -- Without messages the two battles start as one and go on as one.
  have start : (new config).mute = (new other).mute := rfl
  have sameReplies : (new config).replies requests = (new other).replies requests := by
    rw [← replies_mute, start, replies_mute]
  have agree : b.mute = b'.mute := by
    rw [← after_mute, start, after_mute]
  have sameReports : (new other).chronicle [] requests = reported := by
    rw [← chronicle_mute, ← start, chronicle_mute]
  -- Each battle keeps the last messages of the one chronicle, by the limit that it started with.
  have ownLimit : b.config.messageLimit = config.messageLimit :=
    congrArg Config.messageLimit (config_after config requests)
  have otherLimit : b'.config.messageLimit = limit :=
    congrArg Config.messageLimit (config_after other requests)
  have kept : b.messages.toList =
      reported.rtake (min b.config.messageLimit.toNat reported.length) :=
    (keeps_chronicle config requests).eq_rtake
  have kept' : b'.messages.toList =
      reported.rtake (min b'.config.messageLimit.toNat reported.length) := by
    rw [← sameReports]
    exact (keeps_chronicle other requests).eq_rtake
  rw [ownLimit] at kept
  rw [otherLimit] at kept'
  have size : b.messages.size = min config.messageLimit.toNat reported.length := by
    rw [← Array.length_toList, kept, List.rtake, List.length_drop]
    omega
  refine ⟨sameReplies, .of_mute agree, fun enough => ?_, fun zero => ?_, ?_⟩
  · have all : b'.messages.toList = reported := by
      rw [kept', Nat.min_eq_right enough, List.rtake, Nat.sub_self, List.drop_zero]
    rw [all]
    exact ⟨rfl, kept⟩
  · rw [zero, UInt64.toNat_zero, Nat.zero_min] at size
    exact Array.size_eq_zero_iff.mp size
  · rw [size]
    exact Nat.min_le_left ..

/-- Two duels that come to a standstill at once, the second one after a new start. It takes three
messages to tell of it, and the smaller limit keeps the last two. -/
theorem messages_are_view_stalemate :
    let stop : Program := ⟨[⟨.halt, [], 1⟩], .empty⟩
    let config : Config := { messageLimit := 2 }
    let duel : List Request := [.run 1, .run 2, .resolve]
    let requests : List Request := [.install ⟨stop, stop⟩] ++ duel ++ [.resolve, .reset] ++ duel
    let b := (new config).after requests
    let b' := (new { config with messageLimit := 3 }).after requests
    ((new config).chronicle [] requests).length = 3 ∧ b.AgreesButMessages b' ∧
      b'.messages.toList.map Message.text =
        ["[1] P1 halted", "[1] P2 halted", "[1] game over: draw (stalemate)"] ∧
      b.messages.toList = b'.messages.toList.rtake 2 := by
  intro stop config duel requests
  have three : ((new config).chronicle [] requests).length = 3 := by decide +kernel
  have enough : ((new config).chronicle [] requests).length ≤ (3 : UInt64).toNat := by
    rw [three]
    decide
  have two : min config.messageLimit.toNat ((new config).chronicle [] requests).length = 2 := by
    rw [three]
    rfl
  obtain ⟨-, agree, view, -⟩ := messages_are_view config 3 requests
  have last := (view enough).2
  rw [two] at last
  refine ⟨three, agree, ?_, last⟩
  decide +kernel

end Battle

end TankDuel

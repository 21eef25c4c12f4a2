import TankDuel.Proofs.Battle.Messages
import TankDuel.Proofs.Battle.Rest

/-!
# What becomes of a halted tank

Once its machine has halted, for whatever reason, a tank does nothing any more, says so once, and is
in the battle all the same (`Battle.halted_tank_inert`). That it does nothing is the subject of
`TankDuel.Proofs.Battle.Rest`. Here are the other two.

**It says so once.** The tank reports its halt when it acts, unless its last deed was a halt
already. So the first turn behind the halt is the one in which it is reported, and this needs that
before the halt the last deed is something else. `Battle.Heard` has the three cases: the machine is
running; it has halted and no turn has been resolved since; its halt has been reported. They are
followed along the chronicle of the battle (`Battle.Heard.after`), and so is the number of turns
after which the machine has halted (`Battle.haltedAfter?`). No other report reads like that of a
halt (`Report.announces_of_text`).

**It is in the battle.** `Battle.HaltedTurn` says what a turn is like in which a halted tank takes
part: it can be hit, it stands in the way, it can win, and the battle goes on as long as no other
reason ends it.
-/

namespace TankDuel

namespace Report

/-- Whether a report says that a tank halts. -/
def announces (side : Side) : Report → Bool
  | halted tank _ => tank = side
  | _ => false

/-- How the wording of a report begins. This much tells the reports of a halt from all others. -/
def opening : Report → List Char
  | hit shooter _ _ _ => shooter.label.toList ++ [' ', 'h', 'i']
  | destroyed tank => tank.label.toList ++ [' ', 'd', 'e']
  | halted tank reason => tank.label.toList ++ ' ' :: reason.text.toList.take 2
  | gameOver _ => ['g', 'a', 'm', 'e', ' ']

/-- A report begins with its opening. -/
private theorem take_text (r : Report) : r.text.toList.take 5 = r.opening := by
  have named (side : Side) (rest : List Char) :
      (side.label.toList ++ rest).take 5 = side.label.toList ++ rest.take 3 := by
    cases side <;> rfl
  cases r with
  | hit | destroyed | halted =>
    simp only [text, toString, String.append_assoc, String.toList_append, named]
    rfl
  | gameOver =>
    simp only [text, toString, String.toList_append]
    rfl

/-- **No other report reads like that of a halt.** -/
theorem announces_of_text {side : Side} {reason : HaltReason} {r : Report}
    (same : r.text = (halted side reason).text) : r.announces side := by
  have opens : r.opening = (halted side reason).opening := by
    rw [← take_text, ← take_text, same]
  have start : reason.text.toList.take 2 ∈ [['h', 'a'], ['e', 'n'], ['f', 'a']] := by
    cases reason with
    | instruction | endOfProgram => decide
    | fault f =>
      rw [HaltReason.text, String.toList_append]
      change ['f', 'a'] ∈ _
      decide
  have two (tank : Side) : tank.label.toList.length = 2 := by
    cases tank <;> decide
  cases r with
  | hit | destroyed =>
    -- After the name of the tank there is another word.
    obtain ⟨-, word⟩ := List.append_inj opens ((two _).trans (two _).symm)
    rw [← List.tail_eq_of_cons_eq word] at start
    exact absurd start (by decide)
  | halted tank reason' =>
    obtain ⟨name, -⟩ := List.append_inj opens ((two _).trans (two _).symm)
    have sameTank : tank = side := by
      revert name
      cases tank <;> cases side <;> decide
    exact decide_eq_true sameTank
  | gameOver => cases side <;> exact absurd (List.head_eq_of_cons_eq opens) (by decide)

end Report

namespace Battle

variable {b b' : Battle} {side : Side} {reason : HaltReason} {log log' : List Message}
  {since : Option Nat}

/-! ### What a turn says of a halt -/

/-- A strike announces no halt. -/
private theorem filter_strikeReports (b : Battle) (shooter : Side) (cell : Coord) :
    (b.strikeReports shooter cell).filter (Report.announces side) = [] := by
  unfold strikeReports
  dsimp only
  split <;> rfl

/-- Bullets announce no halt. -/
private theorem filter_flightReports (b : Battle) (ms : List (Bullet Side)) :
    (b.flightReports ms).filter (Report.announces side) = [] := by
  induction ms generalizing b with
  | nil => rfl
  | cons m ms ih =>
    rw [flightReports, List.filter_append, ih, bulletReports]
    cases b.fate m with
    | aloft | spent | crashed => rfl
    | struck cell => rw [filter_strikeReports, List.append_nil]

/-- The verdict announces no halt. -/
private theorem filter_verdictReports (b : Battle) :
    b.verdictReports.filter (Report.announces side) = [] := by
  unfold verdictReports
  cases b.verdict <;> rfl

/-- What a tank reports of its halt when it acts. -/
def haltReports (b : Battle) (side : Side) : Option Action → List Report
  | some (.halt reason) => if (b.tank side).lastAction = .halt then [] else [.halted side reason]
  | _ => []

/-- A tank reports no halt but its own. -/
private theorem filter_deedReports (b : Battle) (s side : Side) (action : Option Action) :
    (b.deedReports s action).filter (Report.announces side) =
      if s = side then b.haltReports side action else [] := by
  -- Only a machine that halts announces anything, and only its own side.
  have silent : (if s = side then [] else ([] : List Report)) = [] := ite_self _
  cases action with
  | none => exact silent.symm
  | some action =>
    cases action with
    | move | rotate | scan | ping | wait | dead => exact silent.symm
    | fire =>
      rw [deedReports, haltReports, silent]
      · cases b.shot s with
        | reloading | blocked | launched => rfl
        | pointBlank cell => exact filter_strikeReports ..
      · simp
    | halt reason =>
      rw [deedReports, haltReports]
      by_cases own : s = side
      · subst own
        rw [if_pos rfl]
        split
        · rfl
        · exact List.filter_cons_of_pos (decide_eq_true rfl)
      · rw [if_neg own]
        split
        · rfl
        · exact List.filter_cons_of_neg (by simp [Report.announces, own])

/-- The action with which a tank takes part tells whether its machine has halted. -/
private theorem haltReason?_of_action (truthful : b.Truthful) {action : Action}
    (takes : b.actions.get side = some action) :
    (b.tank side).haltReason? = action.haltReason? := by
  rw [actions, Pair.get_map, Tank.action?] at takes
  split at takes
  next alive => exact (truthful side).haltReason?_eq alive takes
  next => exact absurd takes (by simp)

/-- **What a turn says of a halt.** It is what the tank says when it acts, going by its last deed
before the turn. -/
theorem filter_turnReports (orderly : b.Orderly) (side : Side) :
    b.turnReports.filter (Report.announces side) =
      b.haltReports side (b.actions.get side) := by
  have asBefore (s : Side) : (b.afterAnswers.tank s).lastAction = (b.tank s).lastAction := by
    rw [tank_afterAnswers]
    exact (congrArg Tank.lastAction (bare_afterBullets s orderly) :)
  have congr {b₁ : Battle} (same : (b₁.tank side).lastAction = (b.tank side).lastAction)
      (action : Option Action) : b₁.haltReports side action = b.haltReports side action := by
    unfold haltReports
    rw [same]
  rw [turnReports, List.filter_append, List.filter_append, List.filter_append,
    filter_flightReports, filter_verdictReports, List.append_nil, List.nil_append,
    filter_deedReports, filter_deedReports]
  cases side with
  | first =>
    rw [if_pos rfl, if_neg (by decide), List.append_nil]
    exact congr (asBefore .first) _
  | second =>
    -- What the first tank does leaves the last deed of the second one as it is.
    have untouched := bare_act b.afterAnswers .first b.actions.first .second
    rw [if_neg (by decide)] at untouched
    have kept : ((b.afterAnswers.act .first b.actions.first).tank .second).lastAction =
        (b.afterAnswers.tank .second).lastAction := (congrArg Tank.lastAction untouched :)
    rw [if_neg (by decide), if_pos rfl, List.nil_append]
    exact congr (kept.trans (asBefore .second)) _

/-! ### When a machine has halted -/

/-- The number of turns after which the machine of a tank has halted, if it has, once `b` has come
to `b'`. Before that the number is `since`. -/
def noticed (side : Side) (b b' : Battle) (since : Option Nat) : Option Nat :=
  match (b'.tank side).haltReason?, (b.tank side).haltReason? with
  | none, _ => none
  | some _, none => some b'.turn
  | some _, some _ => since

/-- The number of turns after which the machine of a tank has halted in a run, if it has. -/
def haltedAfter? (side : Side) (b : Battle) (since : Option Nat) : List Request → Option Nat
  | [] => since
  | request :: requests =>
    haltedAfter? side (b.serve request).2 (noticed side b (b.serve request).2 since) requests

/-- Requests can be followed in two goes. -/
private theorem haltedAfter?_append (requests more : List Request) :
    haltedAfter? side b since (requests ++ more) =
      haltedAfter? side (b.after requests) (haltedAfter? side b since requests) more := by
  induction requests generalizing b since with
  | nil => rfl
  | cons request requests ih => exact ih

/-- A machine that has halted does not halt again. -/
private theorem haltedAfter?_of_halted (earnest : b.Earnest)
    (halted : (b.tank side).haltReason? = some reason) {requests : List Request}
    (playOn : ∀ request ∈ requests, request.PlaysOn) :
    haltedAfter? side b since requests = since := by
  induction requests generalizing b with
  | nil => rfl
  | cons request requests ih =>
    have still := (Inert.serve earnest halted (playOn request List.mem_cons_self)).rests.halted
    have same : noticed side b (b.serve request).2 since = since := by
      rw [noticed, still, halted]
    rw [haltedAfter?, same]
    exact ih (earnest.serve request) still fun request h =>
      playOn request (List.mem_cons_of_mem _ h)

/-- What has been reported of a halt, given the number of turns after which it has come. -/
inductive Heard (side : Side) (b : Battle) (log : List Message) : Option Nat → Prop
  | running : (b.tank side).haltReason? = none → (b.tank side).lastAction ≠ .halt →
    (log.filter fun m => m.report.announces side) = [] → Heard side b log none
  /-- No turn has been resolved since. -/
  | silent {reason : HaltReason} : (b.tank side).haltReason? = some reason →
    (b.tank side).lastAction ≠ .halt → (log.filter fun m => m.report.announces side) = [] →
    Heard side b log (some b.turn)
  | told {reason : HaltReason} {t : Nat} : (b.tank side).haltReason? = some reason →
    (b.tank side).lastAction = .halt → t < b.turn →
    (log.filter fun m => m.report.announces side) = [⟨t + 1, .halted side reason⟩] →
    Heard side b log (some t)

/-- Before the first turn nothing has been heard. -/
theorem Heard.fresh (config : Config) (arena : Arena) (programs : Option (Pair Program)) :
    Heard side (fresh config arena programs) [] none := by
  refine .running (haltReason?_fresh ..) ?_ rfl
  have idle : ((Battle.fresh config arena programs).tank side).lastAction = .idle :=
    congrArg Tank.lastAction (Pair.get_ofFn _ side)
  rw [idle]
  exact nofun

/-- Steps of the machines say nothing, but a halt is noticed at once. -/
theorem Heard.ticks (h : Heard side b log since) (counts : Side → Nat) :
    Heard side (b.ticks counts) log (noticed side b (b.ticks counts) since) := by
  have sameDeed : ((b.ticks counts).tank side).lastAction = (b.tank side).lastAction :=
    (congrArg Tank.lastAction (shell_ticks counts side) :)
  have stillHalted {reason : HaltReason} (halted : (b.tank side).haltReason? = some reason) :
      ((b.ticks counts).tank side).haltReason? = some reason :=
    (Inert.ticks halted counts).rests.halted
  cases h with
  | running running silent none =>
    cases halts : ((b.ticks counts).tank side).haltReason? with
    | none =>
      rw [noticed, halts]
      exact .running halts (sameDeed ▸ silent) none
    | some reason =>
      -- It has halted in these steps.
      rw [noticed, halts, running]
      exact .silent halts (sameDeed ▸ silent) none
  | silent halted silent none =>
    rw [noticed, stillHalted halted, halted]
    exact .silent (b := b.ticks counts) (stillHalted halted) (sameDeed ▸ silent) none
  | told halted halt early one =>
    rw [noticed, stillHalted halted, halted]
    exact .told (stillHalted halted) (sameDeed.trans halt) early one

/-- A tank whose machine is running does not halt. -/
private theorem quiet_of_running (truthful : b.Truthful)
    (running : (b.tank side).haltReason? = none) :
    b.haltReports side (b.actions.get side) = [] ∧
      ((b.actions.get side).map Action.deed).getD .idle ≠ .halt := by
  cases takes : b.actions.get side with
  | none => exact ⟨rfl, nofun⟩
  | some action =>
    have told := haltReason?_of_action truthful takes
    cases action with
    | move | rotate | fire | scan | ping | wait | dead => exact ⟨rfl, nofun⟩
    | halt reason => exact absurd (running.symm.trans told) nofun

/-- **A turn** reports a halt iff it is the first one behind it. -/
theorem Heard.playTurn (h : Heard side b log since) (earnest : b.Earnest)
    (undecided : b.outcome = none) (ready : b.isReady side) :
    Heard side b.playTurn (log ++ b.turnReports.map (Message.mk b.playTurn.turn))
      (noticed side b b.playTurn since) := by
  have orderly := earnest.vital.orderly
  have sameHalt := haltReason?_playTurn side orderly
  have turn : b.playTurn.turn = b.turn + 1 := congrArg Frame.turn (frame_playTurn orderly)
  have deed := lastAction_playTurn (b := b) side
  have said : ((log ++ b.turnReports.map (Message.mk b.playTurn.turn)).filter
      fun m => m.report.announces side) =
        (log.filter fun m => m.report.announces side) ++
          (b.haltReports side (b.actions.get side)).map (Message.mk (b.turn + 1)) := by
    rw [List.filter_append, List.filter_map, ← filter_turnReports orderly, turn]
    rfl
  rw [noticed, sameHalt]
  cases h with
  | running running silent unheard =>
    obtain ⟨quiet, noHalt⟩ := quiet_of_running earnest.truthful running
    rw [quiet, unheard] at said
    rw [running]
    exact .running (sameHalt.trans running) (deed ▸ noHalt) said
  | silent halted silent unheard =>
    -- This is the first turn behind the halt: the last deed was none.
    have halts := earnest.action_of_halted halted undecided ready
    rw [halts, haltReports, if_neg silent, unheard] at said
    rw [halts] at deed
    rw [halted]
    exact .told (sameHalt.trans halted) deed (turn ▸ Nat.lt_succ_self _) said
  | told halted halt early one =>
    -- The last deed was a halt, so nothing is said.
    have halts := earnest.action_of_halted halted undecided ready
    rw [halts, haltReports, if_pos halt, one] at said
    rw [halts] at deed
    rw [halted]
    exact .told (sameHalt.trans halted) deed (turn ▸ Nat.lt_succ_of_lt early) said

/-- **A request** keeps track of the halt, as it comes to one of three things. -/
theorem Heard.recorded (h : Heard side b log since) (earnest : b.Earnest)
    (recorded : Recorded b log b' log') : Heard side b' log' (noticed side b b' since) := by
  cases recorded with
  | restart arena programs =>
    have running := haltReason?_fresh b.config arena programs side
    rw [noticed, running]
    exact .fresh ..
  | steps counts => exact h.ticks counts
  | turn resolved =>
    obtain ⟨-, running, ready, rfl⟩ := resolveTurn_eq_ok_iff.mp resolved
    exact h.playTurn earnest (isOver_eq_false_iff.mp running) (ready side)

/-- **What has been heard** is kept up over any requests. -/
theorem Heard.after (h : Heard side b log since) (earnest : b.Earnest) (requests : List Request) :
    Heard side (b.after requests) (b.chronicle log requests)
      (haltedAfter? side b since requests) := by
  induction requests generalizing b log since with
  | nil => exact h
  | cons request requests ih =>
    exact ih (h.recorded earnest (recorded_serve b log request)) (earnest.serve request)

/-- A halt is told once, in the first turn behind it, and no other message reads like that. -/
structure ToldOnce (side : Side) (reason : HaltReason) (since : Nat) (b : Battle)
    (log : List Message) : Prop where
  keeps : b.Keeps log
  once : (log.filter fun m => m.report.announces side) =
    if since < b.turn then [⟨since + 1, .halted side reason⟩] else []
  wording : ∀ m ∈ log, m.report.text = s!"{side.label} {reason.text}" →
    m = ⟨since + 1, .halted side reason⟩

/-- A halt is told once, in the turn after it was noticed. -/
theorem Heard.toldOnce (h : Heard side b log since) (keeps : b.Keeps log)
    (halted : (b.tank side).haltReason? = some reason) :
    ∃ t ≤ b.turn, since = some t ∧ ToldOnce side reason t b log := by
  -- The halt may have been noticed in this turn, and then it is still to be told.
  obtain ⟨t, before, sameSince, once⟩ : ∃ t ≤ b.turn, since = some t ∧
      (log.filter fun m => m.report.announces side) =
        if t < b.turn then [⟨t + 1, .halted side reason⟩] else [] := by
    cases h with
    | running running => exact absurd (halted.symm.trans running) nofun
    | silent _ _ unheard =>
      exact ⟨b.turn, Nat.le_refl _, rfl, by rw [unheard, if_neg (Nat.lt_irrefl _)]⟩
    | @told reason' t halted' _ early one =>
      obtain rfl := Option.some.inj (halted.symm.trans halted')
      exact ⟨t, Nat.le_of_lt early, rfl, by rw [one, if_pos early]⟩
  refine ⟨t, before, sameSince, keeps, once, fun m hm reads => ?_⟩
  have among : m ∈ log.filter fun m => m.report.announces side :=
    List.mem_filter.mpr ⟨hm, Report.announces_of_text reads⟩
  rw [once] at among
  split at among
  · exact List.mem_singleton.mp among
  · exact absurd among List.not_mem_nil

/-! ### A turn with a halted tank -/

/-- A tank wins if it is the only one that is alive. -/
private theorem verdict_eq_winner_iff (b : Battle) (side : Side) :
    b.verdict = some (.winner side) ↔
      (b.tank side).isAlive ∧ ¬(b.tank side.other).isAlive := by
  unfold verdict
  split
  next first second => cases side <;> simp [Side.other, first, second]
  next first second => cases side <;> simp [Side.other, first, second]
  next first second => cases side <;> simp [Side.other, first, second]
  next first second =>
    have alive : (b.tank side.other).isAlive := by
      cases side
      · exact second
      · exact first
    split_ifs <;> simp [alive]

/-- **A turn with a halted tank.** The tank does nothing, but it is in the battle. -/
structure HaltedTurn (side : Side) (b b' : Battle) : Prop where
  lastAction : (b'.tank side).lastAction = .halt
  /-- It hits its opponent only with a bullet that was in flight before the turn. -/
  harmless : Suffers side.other (b.isHit side.other).toNat b b'
  /-- It is hit by bullets and by shots from the cell beside, as others are. -/
  hit : Suffers side
    ((b.isHit side).toNat +
      (b.afterAnswers.shootsPointBlank side.other (b.actions.get side.other)).toNat) b b'
  /-- It blocks the way. -/
  blocks : ∀ heading, b.actions.get side.other = some (.move heading) →
    (b.tank side.other).destination heading = (b.tank side).position →
    (b'.tank side.other).position = (b.tank side.other).position
  wins : b'.outcome = some (.winner side) ↔
    (b'.tank side).isAlive ∧ ¬(b'.tank side.other).isAlive
  /-- The battle goes on until a tank is destroyed, the other machine has halted too, or no turns
  are left. -/
  goesOn : b'.outcome = none ↔ (∀ s, (b'.tank s).isAlive) ∧
    (b'.tank side.other).haltReason? = none ∧ b'.turn < b'.config.maxTurns.toNat

/-- A halted tank takes part in a turn by standing there. -/
theorem Earnest.haltedTurn (h : b.Earnest) (halted : (b.tank side).haltReason? = some reason)
    (resolved : b.resolveTurn = .ok b') : HaltedTurn side b b' := by
  obtain ⟨-, running, ready, rfl⟩ := resolveTurn_eq_ok_iff.mp resolved
  have orderly := h.vital.orderly
  have halts := h.action_of_halted halted (isOver_eq_false_iff.mp running) (ready side)
  have last : (b.playTurn.tank side).lastAction = .halt := by
    rw [lastAction_playTurn, halts]
    rfl
  -- The battle was going on, so its outcome is the verdict of this turn.
  have decided := outcome_playTurn orderly running
  constructor
  · exact last
  · exact suffers_playTurn_of_halts orderly halts
  · exact (b.suffers_afterBullets (t := side) orderly.owners).trans b.suffers_playTurn
  · intro heading drives target
    rw [position_playTurn side.other orderly]
    rcases landed_cases b.arena.grid (b.tanks.map Tank.position) b.intents side.other with
      stays | moves
    · rw [stays]
      exact Pair.get_map ..
    · -- A move that goes through does not end where the opponent stands.
      obtain ⟨intent, -, -, free⟩ := resolveMoves_eq_moved_iff.mp moves
      have wants : b.intents.get side.other = some (b.tank side).position :=
        (get_intents_eq_some_iff side.other orderly).mpr ⟨_, drives, target⟩
      rw [← Option.some.inj (wants.symm.trans intent), Side.other_other, Pair.get_map] at free
      exact absurd rfl free
  · rw [decided]
    exact verdict_eq_winner_iff ..
  · rw [decided, verdict_eq_none_iff]
    refine and_congr_right fun alive => and_congr_left fun _ => ?_
    have others := lastAction_playTurn_eq_halt_iff side.other orderly h.truthful
      (ready side.other) (alive side.other)
    rw [← Option.not_isSome_iff_eq_none, ← others]
    -- The tank itself has halted, so it is up to its opponent.
    refine not_congr ⟨fun both => both side.other, fun other s => ?_⟩
    by_cases own : s = side
    · rwa [own]
    · rwa [Side.ne_iff.mp own]

/-- **A battle that is not over can be played on.** -/
theorem Earnest.exists_resolveTurn (h : b.Earnest) (equipped : (b.tank side).cpu.isSome)
    (undecided : b.outcome = none) :
    ∃ b', (b.after [.run 1, .run 2]).resolveTurn = .ok b' := by
  have installed := h.installed side equipped
  have running : b.isOver = false := isOver_eq_false_iff.mpr undecided
  obtain ⟨counts, prepared, ready⟩ := h.poised.prepareBoth installed running
  have settled : b.after [.run 1, .run 2] = b.ticks counts := by
    change ((b.serve (.run Side.first.number)).2.serve (.run Side.second.number)).2 = _
    rw [serve_run, serve_run, prepared]
  rw [settled]
  exact ⟨_, resolveTurn_eq_ok_iff.mpr ⟨installed, running, ready, rfl⟩⟩

/-- **A halted tank is inert.** Whatever the settings are and whatever has been asked of a battle,
once the machine of a tank has halted, for whatever reason, the following holds however the battle
is played on. The tank has done nothing. A step of its machine, and the loop of steps, shows the
halt. In each turn it has halted as its last deed, it can be hit, it blocks the way and it can win.
The battle can be played on until it is over. The halt is reported in the first turn behind it and
never again. -/
theorem halted_tank_inert (config : Config) (past more : List Request) (side : Side)
    (reason : HaltReason)
    (halted : (((new config).after past).tank side).haltReason? = some reason)
    (playOn : ∀ request ∈ more, request.PlaysOn) :
    let b := (new config).after past
    let b' := b.after more
    Inert side reason b b' ∧
      (∀ result b'', b'.step side = some (result, b'') → result = .ready (.halt reason)) ∧
      (∀ action b'', RunsUntilReady side b' (some action) b'' → action = .halt reason) ∧
      (∀ b'', b'.resolveTurn = .ok b'' → HaltedTurn side b' b'') ∧
      (b'.outcome = none → ∃ b'', (b'.after [.run 1, .run 2]).resolveTurn = .ok b'') ∧
      ∃ t ≤ b.turn, haltedAfter? side (new config) none past = some t ∧
        ToldOnce side reason t b' ((new config).chronicle [] (past ++ more)) := by
  intro b b'
  have earnest : b.Earnest := earnest_after config past
  have whole : (new config).after (past ++ more) = b' := List.foldl_append
  have earnest' : b'.Earnest := whole ▸ earnest_after config (past ++ more)
  have inert : Inert side reason b b' := .after earnest halted playOn
  have halted' := inert.rests.halted
  have equipped : (b'.tank side).cpu.isSome := by
    obtain ⟨cpu, hasCpu, -⟩ := Option.bind_eq_some_iff.mp halted'
    exact Option.isSome_of_eq_some hasCpu
  -- The halt is told once over the whole chronicle, so the turn in which it is noticed is the same
  -- before and after the further requests.
  have start : Heard side (new config) [] none := .fresh config Level.openField.arena none
  have started : (new config).Earnest := .fresh config Level.openField.arena none
  obtain ⟨t, before, since, -⟩ :=
    (start.after started past).toldOnce (keeps_chronicle config past) halted
  have heard := start.after started (past ++ more)
  have keeps := keeps_chronicle config (past ++ more)
  rw [whole] at heard keeps
  obtain ⟨t', -, since', told⟩ := heard.toldOnce keeps halted'
  have same : t' = t := by
    rw [haltedAfter?_append, since, haltedAfter?_of_halted earnest halted playOn] at since'
    exact (Option.some.inj since').symm
  exact ⟨inert, fun _ _ stepped => earnest'.result_of_halted halted' stepped,
    fun _ _ runs => earnest'.action_of_runs halted' runs,
    fun _ resolved => earnest'.haltedTurn halted' resolved,
    fun undecided => earnest'.exists_resolveTurn equipped undecided,
    t, before, since, same ▸ told⟩

/-- Three cells in a row, with a tank at either end. The machine of the first one comes to an end at
once, and the tank blocks the way in the second turn and is hit in the third. Or it divides by zero
after a shot, and that shot wins the battle. -/
theorem halted_tank_inert_three_cells :
    let arena : Arena :=
      { grid := Grid.square 3
        spawns := ⟨⟨⟨0, 0⟩, .east⟩, ⟨⟨2, 0⟩, .west⟩⟩
        onFloor := by rintro (_ | _) <;> decide
        apart := by decide }
    let idler : Program := ⟨[], .empty⟩
    let shooter : Program := ⟨[⟨.fire, [], 1⟩, ⟨.div, [.register .acc, .number 0], 2⟩], .empty⟩
    let driver : Program :=
      ⟨[⟨.move, [.heading .forward], 1⟩, ⟨.move, [.heading .forward], 2⟩, ⟨.fire, [], 3⟩], .empty⟩
    let past : List Request := [.setArena arena, .install ⟨idler, driver⟩, .run 1]
    let more : List Request := [.run 2, .resolve, .run 1, .run 2, .resolve, .run 1, .run 2]
    let b := (new {}).after past
    let b' := b.after more
    let shot : List Request :=
      [.setArena arena, .install ⟨shooter, driver⟩, .run 1, .run 2, .resolve, .run 1]
    let c := (new { maxHp := 1 }).after shot
    let c' := c.after [.run 2]
    (b.tank .first).haltReason? = some .endOfProgram ∧
      Inert .first .endOfProgram b b' ∧
      ToldOnce .first .endOfProgram 0 b' ((new {}).chronicle [] (past ++ more)) ∧
      (b'.tank .second).lastFeedback = .blocked ∧
      HaltedTurn .first b' b'.playTurn ∧ (b'.playTurn.tank .first).hp = 2 ∧
      (c.tank .first).haltReason? = some (.fault (.divisionByZero 1)) ∧ c.outcome = none ∧
      HaltedTurn .first c' c'.playTurn ∧ c'.playTurn.outcome = some (.winner .first) := by
  intro arena idler shooter driver past more b b' shot c c'
  have ended : (b.tank .first).haltReason? = some .endOfProgram := by decide +kernel
  have faulted : (c.tank .first).haltReason? = some (.fault (.divisionByZero 1)) := by
    decide +kernel
  have resolves : b'.resolveTurn = .ok b'.playTurn :=
    resolveTurn_eq_ok_iff.mpr
      ⟨by decide +kernel, by decide +kernel, by rintro (_ | _) <;> decide +kernel, rfl⟩
  have resolves' : c'.resolveTurn = .ok c'.playTurn :=
    resolveTurn_eq_ok_iff.mpr
      ⟨by decide +kernel, by decide +kernel, by rintro (_ | _) <;> decide +kernel, rfl⟩
  obtain ⟨inert, -, -, turn, -, t, -, since, told⟩ :=
    halted_tank_inert {} past more .first .endOfProgram ended (by simp [more, Request.PlaysOn])
  obtain ⟨-, -, -, turn', -⟩ :=
    halted_tank_inert { maxHp := 1 } shot [.run 2] .first _ faulted (by simp [Request.PlaysOn])
  have atOnce : haltedAfter? .first (new {}) none past = some 0 := by decide +kernel
  obtain rfl : t = 0 := Option.some.inj (since.symm.trans atOnce)
  exact ⟨ended, inert, told, by decide +kernel, turn _ resolves, by decide +kernel, faulted,
    by decide +kernel, turn' _ resolves', by decide +kernel⟩

end Battle

end TankDuel

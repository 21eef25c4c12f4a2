import Mathlib.Data.List.DropRight
import TankDuel.Proofs.Battle.Outcome

/-!
# What is reported in a battle

A battle keeps the last of its messages only, as many as the settings allow, so what has been
reported cannot be read off it. This file says what is reported in a turn (`Battle.turnReports`) and
carries everything that has been reported along a run (`Battle.chronicle`). The messages of a battle
are the last ones of that chronicle (`Battle.keeps_chronicle`).

Reports are collected phase by phase. `Battle.Says` relates a battle to a later one and says which
reports have been made in between; it composes (`Battle.Says.trans`). Reports are made in three
places:

* a bullet that strikes, and a shot from the cell beside, are a hit (`says_strike`);
* a tank that halts says so, unless it had halted in the turn before (`says_act`);
* the end of a battle is announced (`says_conclude`).
-/

namespace TankDuel

/-- The last elements of a list, with some more, are those of the list itself. -/
private theorem rtake_rtake_append {α : Type} (l more : List α) (n : Nat) :
    (l.rtake n ++ more).rtake n = (l ++ more).rtake n := by
  -- In reverse order the last elements are the first ones.
  simp only [List.rtake_eq_reverse_take_reverse, List.reverse_append, List.reverse_reverse]
  rw [List.take_append, List.take_append, List.take_take, Nat.min_eq_left (Nat.sub_le ..)]

namespace Battle

variable {b b₁ b' : Battle} {reports more : List Report} {side : Side}

/-- What is kept of everything that has been reported. -/
def kept (b : Battle) (log : List Message) : List Message :=
  log.rtake b.config.messageLimit.toNat

/-- Reports are made between an earlier and a later battle, all of them in the same turn. -/
structure Says (reports : List Report) (b b' : Battle) : Prop where
  config : b'.config = b.config
  turn : b'.turn = b.turn
  messages : ∀ log, b.messages.toList = b.kept log →
    b'.messages.toList = b.kept (log ++ reports.map (Message.mk b.turn))

/-- Nothing is reported. -/
theorem Says.of_eq (config : b'.config = b.config) (turn : b'.turn = b.turn)
    (messages : b'.messages = b.messages) : Says [] b b' where
  config := config
  turn := turn
  messages := by
    intro log kept
    rw [messages, kept, List.map_nil, List.append_nil]

/-- What is reported in two phases is reported in one. -/
theorem Says.trans (h : Says reports b b₁) (h' : Says more b₁ b') :
    Says (reports ++ more) b b' where
  config := h'.config.trans h.config
  turn := h'.turn.trans h.turn
  messages := by
    intro log kept
    have early := h.messages log kept
    have sameKept (log : List Message) : b₁.kept log = b.kept log := by
      rw [Battle.kept, h.config, Battle.kept]
    rw [← sameKept] at early
    rw [h'.messages _ early, sameKept, h.turn, List.append_assoc, List.map_append]

/-! ### The phases -/

/-- A report is reported. -/
private theorem says_report (b : Battle) (r : Report) : Says [r] b (b.report r) where
  config := rfl
  turn := rfl
  messages := by
    intro log kept
    -- A report comes last, and then the first ones go until no more are left than are kept.
    have pushed : (b.report r).messages.toList =
        b.kept (b.messages.toList ++ [⟨b.turn, r⟩]) := by
      unfold report
      dsimp only
      rw [Array.toList_extract, List.extract_eq_take_drop, ← Array.length_toList, Array.toList_push]
      refine List.take_of_length_le ?_
      rw [List.length_drop]
    rw [pushed, kept, Battle.kept, Battle.kept, rtake_rtake_append]
    rfl

/-- What is reported of a hit. -/
def strikeReports (b : Battle) (shooter : Side) (cell : Coord) : List Report :=
  let (destroyed, tank) := (b.tank shooter.other).damage
  .hit shooter shooter.other cell tank.hp ::
    if destroyed then [.destroyed shooter.other] else []

/-- A strike reports the hit, and the destruction if it comes to that. -/
theorem says_strike (b : Battle) (shooter : Side) (cell : Coord) :
    Says (b.strikeReports shooter cell) b (b.strike shooter cell) := by
  unfold strikeReports strike
  dsimp only
  -- The explosion is an event, not a message.
  have struck (tanks : Pair Tank) (kind : Event.Kind) :
      Says [] b ({ b with tanks := tanks }.emit kind) := .of_eq rfl rfl rfl
  split
  · exact (struck ..).trans ((says_report ..).trans (says_report ..))
  · exact (struck ..).trans (says_report ..)

/-- What is reported of a flight. -/
def bulletReports (b : Battle) (m : Bullet Side) : List Report :=
  match b.fate m with
  | .struck cell => b.strikeReports m.owner cell
  | _ => []

/-- A bullet reports its strike. -/
private theorem says_flyBullet (b : Battle) (m : Bullet Side) :
    Says (b.bulletReports m) b (b.flyBullet m).2 := by
  rw [flyBullet_snd, bulletReports]
  cases b.fate m with
  | aloft | spent | crashed => exact .of_eq rfl rfl rfl
  | struck cell => exact says_strike ..

/-- What is reported of flights one after the other. -/
def flightReports (b : Battle) : List (Bullet Side) → List Report
  | [] => []
  | m :: ms => b.bulletReports m ++ (b.flyBullet m).2.flightReports ms

/-- All bullets report their strikes in order. -/
private theorem says_flyBullets (b : Battle) (ms : List (Bullet Side)) :
    Says (b.flightReports ms) b (b.flyBullets ms).2 := by
  induction ms generalizing b with
  | nil => exact .of_eq rfl rfl rfl
  | cons m ms ih =>
    rw [flyBullets_cons, flightReports]
    exact (says_flyBullet b m).trans (ih _)

/-- Answers are not reported. -/
private theorem says_answer (b : Battle) (side : Side) (action : Option Action) :
    Says [] b (b.answer side action) := by
  unfold answer
  split
  next => exact .of_eq rfl rfl rfl
  next =>
    split
    next => exact .of_eq rfl rfl rfl
    next => exact .of_eq rfl rfl rfl
  next => exact .of_eq rfl rfl rfl

/-- What a tank reports when it acts. It reports that it halts once, as it is told by its last deed
that it has. -/
def deedReports (b : Battle) (side : Side) : Option Action → List Report
  | some .fire =>
    match b.shot side with
    | .pointBlank cell => b.strikeReports side cell
    | _ => []
  | some (.halt reason) => if (b.tank side).lastAction = .halt then [] else [.halted side reason]
  | _ => []

/-- A shot reports its strike at point-blank range. -/
private theorem says_fire (b : Battle) (side : Side) :
    Says (b.deedReports side (some .fire)) b (b.fire side) := by
  rw [fire_eq, deedReports]
  cases b.shot side with
  | reloading | blocked | launched => exact .of_eq rfl rfl rfl
  | pointBlank cell => exact says_strike ..

/-- An action reports what it gives to report. -/
theorem says_act (b : Battle) (side : Side) (action : Option Action) :
    Says (b.deedReports side action) b (b.act side action) := by
  cases action with
  | none => exact .of_eq rfl rfl rfl
  | some action =>
    rw [act_some]
    have noted : Says [] b (b.note side action) := .of_eq rfl rfl rfl
    cases action with
    | move | rotate | scan | ping | wait | dead => exact .of_eq rfl rfl rfl
    | fire =>
      -- Noting the deed changes neither where the shot goes nor the tank that it hits.
      have sameTank : (b.note side .fire).tank side.other = b.tank side.other := by
        rw [note, tank_modifyTank, if_neg (Side.other_ne side)]
      have sameReports : (b.note side .fire).deedReports side (some .fire) =
          b.deedReports side (some .fire) := by
        simp only [deedReports, strikeReports, shot_note, sameTank]
      rw [← sameReports, carryOut]
      exact noted.trans (says_fire ..)
    | halt reason =>
      have told : Says [] b ((b.note side (.halt reason)).tell side (.halted reason)) :=
        .of_eq rfl rfl rfl
      rw [carryOut, deedReports]
      by_cases again : (b.tank side).lastAction = .halt
      · rw [if_pos again, if_pos (beq_iff_eq.mpr again)]
        exact told
      · rw [if_neg again, if_neg (mt beq_iff_eq.mp again)]
        exact told.trans (says_report ..)

/-- What is reported at the end of a turn. -/
def verdictReports (b : Battle) : List Report := b.verdict.toList.map .gameOver

/-- The conclusion reports the verdict. -/
theorem says_conclude (b : Battle) : Says b.verdictReports b b.conclude := by
  unfold verdictReports conclude
  cases b.verdict with
  | none => exact .of_eq rfl rfl rfl
  | some outcome =>
    have said := says_report b (.gameOver outcome)
    exact ⟨said.config, said.turn, said.messages⟩

/-! ### The turn -/

/-- What is reported in a turn, in this order. -/
def turnReports (b : Battle) : List Report :=
  { b with turn := b.turn + 1 }.flightReports b.bullets ++
    (b.afterAnswers.deedReports .first b.actions.first ++
      (b.afterAnswers.act .first b.actions.first).deedReports .second b.actions.second) ++
    b.afterMoves.verdictReports

/-- **What a turn says.** -/
theorem says_playTurn (b : Battle) :
    Says b.turnReports { b with turn := b.turn + 1 } b.playTurn := by
  -- The phases in turn, of which those that sense, move and clear have nothing to say.
  have flown : Says ({ b with turn := b.turn + 1 }.flightReports b.bullets)
      { b with turn := b.turn + 1 } b.afterBullets := by
    have said := says_flyBullets { b with turn := b.turn + 1 } b.bullets
    exact ⟨said.config, said.turn, said.messages⟩
  have answered : Says [] b.afterBullets b.afterAnswers :=
    (says_answer b.afterBullets .first b.actions.first).trans
      (says_answer _ .second b.actions.second)
  have acted : Says (b.afterAnswers.deedReports .first b.actions.first ++
      (b.afterAnswers.act .first b.actions.first).deedReports .second b.actions.second)
      b.afterAnswers b.afterActions :=
    (says_act ..).trans (says_act ..)
  have moved : Says [] b.afterActions b.afterMoves := .of_eq rfl rfl rfl
  have concluded := says_conclude b.afterMoves
  have cleared : Says [] b.afterMoves.conclude b.playTurn := .of_eq rfl rfl rfl
  have turn := (((flown.trans answered).trans acted).trans moved).trans (concluded.trans cleared)
  simpa only [List.append_nil, turnReports] using turn

/-! ### The chronicle -/

/-- Everything that has been reported in the battle, once a further request is served. A battle that
starts afresh begins a new chronicle. -/
def record (b : Battle) (log : List Message) : Request → List Message
  | .resolve =>
    match b.resolveTurn with
    | .ok b' => log ++ b.turnReports.map (Message.mk b'.turn)
    | .error _ => log
  | .load sources =>
    match b.load sources with
    | .ok _ => []
    | .error _ => log
  | .setLevel _ | .setArena _ | .install _ | .reset => []
  | .step _ | .run _ => log

/-- Everything that has been reported in the battle in a run. -/
def chronicle (b : Battle) (log : List Message) : List Request → List Message
  | [] => log
  | request :: requests => (b.serve request).2.chronicle (b.record log request) requests

/-- What a request does to a battle and to its chronicle. -/
inductive Recorded (b : Battle) (log : List Message) : Battle → List Message → Prop
  | restart (arena : Arena) (programs : Option (Pair Program)) :
    Recorded b log (fresh b.config arena programs) []
  | steps (counts : Side → Nat) : Recorded b log (b.ticks counts) log
  | turn {b' : Battle} : b.resolveTurn = .ok b' →
    Recorded b log b' (log ++ b.turnReports.map (Message.mk b'.turn))

/-- **Inversion of a recorded request.** A refused one comes to no steps at all. -/
theorem recorded_serve (b : Battle) (log : List Message) (request : Request) :
    Recorded b log (b.serve request).2 (b.record log request) := by
  have refused : Recorded b log b log := by
    have noSteps : Recorded b log (b.ticks fun _ => 0) log := .steps _
    rwa [ticks_zero] at noSteps
  cases request with
  | setLevel level => exact .restart level.arena b.programs
  | setArena arena => exact .restart arena b.programs
  | install programs => exact .restart b.arena (some programs)
  | reset => exact .restart b.arena b.programs
  | load sources =>
    rw [serve, record]
    cases loaded : b.load sources with
    | error error => exact refused
    | ok b' =>
      obtain ⟨programs, -, rfl⟩ := load_eq_ok_iff.mp loaded
      exact .restart b.arena (some programs)
  | step number =>
    obtain ⟨counts, same⟩ := exists_ticks_of_serve_step b number
    rw [same]
    exact .steps counts
  | run number =>
    obtain ⟨counts, same⟩ := exists_ticks_of_serve_run b number
    rw [same]
    exact .steps counts
  | resolve =>
    rw [serve, record]
    cases resolved : b.resolveTurn with
    | error error => exact refused
    | ok b' => exact .turn resolved

/-- The messages of a battle are what is kept of a log. -/
def Keeps (b : Battle) (log : List Message) : Prop := b.messages.toList = b.kept log

/-- At the start there is nothing to keep. -/
theorem Keeps.fresh (config : Config) (arena : Arena) (programs : Option (Pair Program)) :
    (fresh config arena programs).Keeps [] := by
  rw [Keeps, kept, List.rtake_nil]
  rfl

/-- A request keeps the messages in step with the log. -/
theorem Keeps.recorded {log log' : List Message} (recorded : Recorded b log b' log')
    (h : b.Keeps log) : b'.Keeps log' := by
  cases recorded with
  | restart arena programs => exact .fresh ..
  | steps counts => exact h
  | turn resolved =>
    obtain ⟨-, -, -, rfl⟩ := resolveTurn_eq_ok_iff.mp resolved
    have said := says_playTurn b
    rw [Keeps, kept, said.config, said.turn]
    exact said.messages log h

/-- Any requests keep the messages in step with the log. -/
theorem Keeps.after {log : List Message} (h : b.Keeps log) (requests : List Request) :
    (b.after requests).Keeps (b.chronicle log requests) := by
  induction requests generalizing b log with
  | nil => exact h
  | cons request requests ih => exact ih (h.recorded (recorded_serve b log request))

/-- **The messages of a battle are the last ones of the chronicle**, as many as the settings
allow. -/
theorem keeps_chronicle (config : Config) (past : List Request) :
    ((new config).after past).Keeps ((new config).chronicle [] past) :=
  (Keeps.fresh config Level.openField.arena none).after past

end Battle

end TankDuel

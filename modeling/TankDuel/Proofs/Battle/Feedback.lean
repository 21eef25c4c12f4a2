import TankDuel.Proofs.Battle.Damage

/-!
# What a tank is told of its deed

The feedback to the last action is written in many places of a turn, and later places write over
earlier ones: a hit that destroys, the note of a deed, the deed itself, a move that is refused, and
at the end once more for all destroyed tanks. This file says what is left of all that
(`lastFeedback_playTurn`): a destroyed tank is told that it is destroyed, and a living one is told
how its own deed went (`Battle.told`), or why its move was refused.

What others do does not get in between. A hit writes feedback only if it destroys the tank
(`Tank.lastFeedback_damage`), so a tank that is alive after it has kept what it was told.
-/

namespace TankDuel

/-- A tank that is alive after damage has been told nothing. -/
theorem Tank.lastFeedback_damage {t : Tank} (alive : t.damage.2.isAlive) :
    t.damage.2.lastFeedback = t.lastFeedback := by
  unfold damage at alive ⊢
  dsimp only at alive ⊢
  split
  next destroyed =>
    rw [if_pos destroyed] at alive
    exact absurd alive (by simpa [isAlive] using (Bool.and_eq_true_iff.mp destroyed).2)
  next => rfl

namespace Battle

/-- What a tank is told of its shot. -/
def Shot.feedback : Shot → Feedback
  | reloading => .reloading
  | blocked _ => .blocked
  | pointBlank _ | launched _ => .ok

variable (b : Battle) (side : Side)

/-- What a tank is told of its deed, as things stand when it does it. -/
def told : Action → Feedback
  | .fire => (b.shot side).feedback
  | .wait reason => .waiting reason
  | .halt reason => .halted reason
  | .dead => .destroyed
  | .move _ | .rotate _ | .scan _ _ | .ping _ _ => .ok

/-! ### One deed -/

/-- A tank that fires is told what its shot has come to. -/
private theorem lastFeedback_fire (blank : (b.tank side).lastFeedback = .ok) :
    ((b.fire side).tank side).lastFeedback = (b.shot side).feedback := by
  rw [fire_eq]
  cases b.shot side with
  | reloading => exact lastFeedback_tell ..
  | blocked cell => exact lastFeedback_tell ..
  | pointBlank cell =>
    -- The shooter is not the tank that is hit.
    dsimp only
    rw [tank_strike, if_neg (Side.other_ne side).symm]
    exact blank
  | launched cell => exact blank

/-- The opponent of a tank that fires is told nothing, if it is alive afterwards. -/
private theorem lastFeedback_fire_other (alive : ((b.fire side).tank side.other).isAlive) :
    ((b.fire side).tank side.other).lastFeedback = (b.tank side.other).lastFeedback := by
  have told (feedback : Feedback) (b : Battle) :
      (b.tell side feedback).tank side.other = b.tank side.other := by
    rw [tell, tank_modifyTank, if_neg (Side.other_ne side)]
  rw [fire_eq] at alive ⊢
  cases becomes : b.shot side with
  | reloading => exact congrArg Tank.lastFeedback (told ..)
  | blocked cell => exact congrArg Tank.lastFeedback (told ..)
  | pointBlank cell =>
    rw [becomes] at alive
    dsimp only at alive ⊢
    rw [tank_strike, if_pos rfl] at alive ⊢
    exact Tank.lastFeedback_damage alive
  | launched cell => rfl

/-- **A tank is told of its deed.** -/
theorem lastFeedback_act (action : Action) :
    ((b.act side (some action)).tank side).lastFeedback = b.told side action := by
  -- Noting the action sets the feedback to "ok", which the action may overwrite.
  have noted : ((b.note side action).tank side).lastFeedback = .ok := by
    rw [note, tank_modifyTank, if_pos rfl]
  rw [act_some]
  cases action with
  | move | scan | ping => exact noted
  | rotate rotation =>
    rw [carryOut, tank_modifyTank, if_pos rfl]
    exact noted
  | fire =>
    rw [carryOut, lastFeedback_fire _ _ noted, shot_note]
    rfl
  | wait | dead =>
    rw [carryOut]
    exact lastFeedback_tell ..
  | halt reason =>
    rw [carryOut]
    split
    · exact lastFeedback_tell ..
    · rw [tank_report]
      exact lastFeedback_tell ..

/-- The opponent of a tank that acts is told nothing, if it is alive afterwards. -/
private theorem lastFeedback_act_other (action : Option Action)
    (alive : ((b.act side action).tank side.other).isAlive) :
    ((b.act side action).tank side.other).lastFeedback = (b.tank side.other).lastFeedback := by
  -- What an action does to the own tank the other one does not notice.
  have changed (f : Tank → Tank) (b : Battle) :
      (b.modifyTank side f).tank side.other = b.tank side.other := by
    rw [tank_modifyTank, if_neg (Side.other_ne side)]
  cases action with
  | none => rw [act, changed]
  | some action =>
    have noted : (b.note side action).tank side.other = b.tank side.other := changed ..
    rw [act_some] at alive ⊢
    rw [← noted]
    cases action with
    | move | scan | ping => rfl
    | rotate | wait | dead =>
      rw [carryOut]
      exact congrArg Tank.lastFeedback (changed ..)
    | halt reason =>
      rw [carryOut]
      split
      · exact congrArg Tank.lastFeedback (changed ..)
      · exact congrArg Tank.lastFeedback (changed ..)
    | fire => exact lastFeedback_fire_other _ _ alive

/-! ### Both deeds -/

/-- What a tank is told is settled before its opponent acts. -/
private theorem told_act (action : Option Action) (reply : Action) :
    (b.act side action).told side.other reply = b.told side.other reply := by
  cases reply with
  | fire => exact congrArg Shot.feedback (shot_act ..)
  | move | rotate | scan | ping | wait | halt | dead => rfl

/-- **The action phase, feedback.** -/
theorem lastFeedback_actBoth {actions : Pair (Option Action)} {action : Action}
    (acts : actions.get side = some action) (alive : ((b.actBoth actions).tank side).isAlive) :
    ((b.actBoth actions).tank side).lastFeedback = b.told side action := by
  obtain ⟨one, two⟩ := actions
  cases side with
  | first =>
    obtain rfl : one = some action := acts
    have kept := lastFeedback_act_other (b.act .first (some action)) .second two alive
    exact kept.trans (lastFeedback_act b .first action)
  | second =>
    obtain rfl : two = some action := acts
    have told := lastFeedback_act (b.act .first one) .second action
    exact told.trans (told_act b .first one action)

/-! ### The end of the turn -/

/-- What a tank is told of a move that is refused. -/
def refusal? (intents : Pair (Option Coord)) : Option Feedback :=
  ((resolveMoves b.arena.grid (b.tanks.map Tank.position) intents).get side).bind
    MoveOutcome.refusal?

/-- A tank that may not move is told so. -/
private theorem lastFeedback_moveTanks (intents : Pair (Option Coord)) :
    ((b.moveTanks intents).tank side).lastFeedback =
      (b.refusal? side intents).getD (b.tank side).lastFeedback := by
  have moved : (b.moveTanks intents).tank side = applyMove (b.tank side)
      ((resolveMoves b.arena.grid (b.tanks.map Tank.position) intents).get side) :=
    Pair.get_ofFn _ side
  rw [moved, refusal?]
  generalize (resolveMoves b.arena.grid (b.tanks.map Tank.position) intents).get side = outcome
  cases outcome with
  | none => rfl
  | some outcome => cases outcome <;> rfl

/-- A destroyed tank is told that it is. -/
theorem lastFeedback_markDestroyed :
    (b.markDestroyed.tank side).lastFeedback =
      if (b.markDestroyed.tank side).isAlive then (b.tank side).lastFeedback else .destroyed := by
  have marked : b.markDestroyed.tank side =
      if (b.tank side).isAlive then b.tank side
      else { b.tank side with lastFeedback := .destroyed } :=
    Pair.get_map _ b.tanks side
  have sameLife : (b.markDestroyed.tank side).isAlive = (b.tank side).isAlive := by
    rw [marked]
    split <;> rfl
  rw [sameLife, marked]
  split <;> rfl

variable {b}

/-- **What a tank is told in a turn.** -/
theorem lastFeedback_playTurn {action : Action} (orderly : b.Orderly)
    (acts : b.actions.get side = some action) :
    (b.playTurn.tank side).lastFeedback =
      if (b.playTurn.tank side).isAlive then
        (b.refusal? side b.intents).getD (b.afterAnswers.told side action)
      else .destroyed := by
  have cleared : (b.playTurn.tank side).lastFeedback = (b.afterMoves.tank side).lastFeedback := by
    rw [tank_playTurn]
    rfl
  have sameLife : (b.playTurn.tank side).isAlive = (b.afterMoves.tank side).isAlive := by
    rw [tank_playTurn]
    rfl
  rw [cleared, sameLife, afterMoves, lastFeedback_markDestroyed, lastFeedback_moveTanks]
  split
  next alive =>
    -- The moves are judged as they would have been at the beginning of the turn.
    have acted : (b.afterActions.tank side).isAlive := by
      have hp : (b.afterMoves.tank side).hp = (b.afterActions.tank side).hp :=
        (congrArg Tank.hp (bare_afterMoves b side) :)
      rw [Tank.isAlive, ← hp]
      exact alive
    rw [refusal?, refusal?, arena_afterActions orderly, positions_afterActions orderly]
    exact congrArg _ (lastFeedback_actBoth b.afterAnswers side acts acted)
  next => rfl

end Battle

end TankDuel

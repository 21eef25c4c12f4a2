import TankDuel.Proofs.Battle.BulletPhase
import TankDuel.Proofs.Battle.Deeds
import TankDuel.Proofs.Battle.History

/-!
# What `AMMO` promises

Each micro-step shows the machine in its `AMMO` register whether its tank can fire: 1 if no bullet
of the tank is in flight, else 0. The machine decides on this, and the shot is made when the turn is
resolved, behind the bullet phase. In between things can only get better: micro-steps change no
bullets, nobody else launches any for the tank, and in the bullet phase bullets get fewer.

`Battle.ShowsAmmo` records what the micro-steps of a machine have shown in the turn that a battle is
in. Each word is read from the very machine that the step is made on (`Battle.StepsOn`), and there
is one for each micro-step (`Battle.Unfolds.exists_showsAmmo`). The record is constant
in a turn: it says whether the tank has a bullet in flight at the end of it, as at its beginning
(`ShowsAmmo.eq_of_mem`). What is left to do is to compare the bullets of a tank before and behind
the bullet phase. There is one at most, so that is whether *the* bullet has stayed in the air
(`Orderly.exists_aloft`) or has died (`Orderly.dies`).

`Battle.ammo_kept` puts this together: a tank that has been shown a 1 never has to reload, one that
has to reload still has the bullet that it had, and one that can fire after a 0 has lost its bullet
in the same turn.
-/

namespace TankDuel

/-- Whether the machine of a side makes a micro-step. -/
def Incident.isStepOf (side : Side) : Incident → Bool
  | stepped s _ => s = side
  | restarted | resolved => false

namespace Battle

/-- A micro-step of a side is a step of the machine `shown`: the machine of its tank, once its
sensors have been renewed. -/
structure StepsOn (b : Battle) (side : Side) (shown : Cpu) (result : StepResult) (b' : Battle) :
    Prop where
  stepped : b.step side = some (result, b')
  renewed : ∃ cpu, (b.tank side).cpu = some cpu ∧
    shown = cpu.sense ((b.tank side).sensors (!b.hasBullet side))
  /-- What the step makes of it is the machine of the tank afterwards. -/
  moved : ∃ cpu, shown.step = (result, cpu) ∧ (b'.tank side).cpu = some cpu

/-- One incident happens after the other from `b` on. In the turn that this has come to, the
micro-steps of the machine of a side have shown it `words` in `AMMO`. -/
inductive ShowsAmmo (side : Side) (b : Battle) : List Int32 → Battle → Prop
  | refl : ShowsAmmo side b [] b
  /-- A turn begins. -/
  | opens {words : List Int32} {incident : Incident} {b₁ b' : Battle} :
    ShowsAmmo side b words b₁ → b₁.Happens incident b' → incident.opensTurn →
    ShowsAmmo side b [] b'
  /-- The machine makes a micro-step. It sees what is in its register when it makes the step. -/
  | own {words : List Int32} {shown : Cpu} {result : StepResult} {b₁ b' : Battle} :
    ShowsAmmo side b words b₁ → b₁.StepsOn side shown result b' →
    ShowsAmmo side b (words ++ [shown.registers.get .ammo]) b'
  /-- The other machine makes one. -/
  | other {words : List Int32} {result : StepResult} {b₁ b' : Battle} :
    ShowsAmmo side b words b₁ → b₁.step side.other = some (result, b') → ShowsAmmo side b words b'

variable {b b₁ b' : Battle} {side : Side} {words : List Int32} {m : Bullet Side}

/-! ### What is shown in a turn -/

/-- **Every micro-step is made on the machine with its sensors renewed.** -/
theorem exists_stepsOn {result : StepResult} (stepped : b.step side = some (result, b')) :
    ∃ shown, b.StepsOn side shown result b' := by
  obtain ⟨-, tank, tankStepped, rfl⟩ := step_eq_some_iff.mp stepped
  obtain ⟨-, cpu, cpu', hasCpu, machineStepped, rfl⟩ := Tank.step_eq_some_iff.mp tankStepped
  refine ⟨_, stepped, ⟨cpu, hasCpu, rfl⟩, cpu', machineStepped, ?_⟩
  rw [Battle.tank, Pair.get_set_self]

/-- **What is shown in a turn is constant**: micro-steps change no bullets. -/
theorem ShowsAmmo.eq_of_mem (h : ShowsAmmo side b words b') {word : Int32} (mem : word ∈ words) :
    word = if b'.hasBullet side then 0 else 1 := by
  have kept {s : Side} {result : StepResult} {b₁ b' : Battle}
      (stepped : b₁.step s = some (result, b')) : b'.hasBullet side = b₁.hasBullet side := by
    obtain ⟨-, tank, -, rfl⟩ := step_eq_some_iff.mp stepped
    rfl
  -- The induction is on the record. A new word says of the battle what those before it say.
  induction h with
  | refl | opens => exact absurd mem List.not_mem_nil
  | own _ steps ih =>
    rw [kept steps.stepped]
    obtain ⟨cpu, -, rfl⟩ := steps.renewed
    rcases List.mem_append.mp mem with before | last
    · exact ih before
    · -- Showing the sensors writes over whatever the program has put into the register.
      rw [List.mem_singleton.mp last, Cpu.get_sense]
      change (if !_ then (1 : Int32) else 0) = _
      cases hasBullet _ side <;> rfl
  | other _ stepped ih =>
    rw [kept stepped]
    exact ih mem

/-- Every word that has been shown is still true: the bullets do not change before the turn is
played. -/
theorem ShowsAmmo.hasBullet_iff (h : ShowsAmmo side b words b') {word : Int32}
    (mem : word ∈ words) : b'.hasBullet side = true ↔ word = 0 := by
  rw [h.eq_of_mem mem]
  cases b'.hasBullet side <;> decide

/-- A turn begins with empty slots. -/
theorem Happens.pending?_eq_none {incident : Incident} (h : b.Happens incident b')
    (opens : incident.opensTurn) (side : Side) : (b'.tank side).pending? = none := by
  rw [Tank.pending?, Option.bind_eq_none_iff]
  intro cpu hasCpu
  cases h with
  | restarted => exact pending_fresh hasCpu
  | stepped => cases opens
  | resolved resolved =>
    obtain ⟨-, -, -, rfl⟩ := resolveTurn_eq_ok_iff.mp resolved
    exact pending_playTurn hasCpu

/-- **A tank with an action pending has been shown something**: its machine must have made a
micro-step in this turn. So it is alive. -/
theorem ShowsAmmo.of_pending (h : ShowsAmmo side b words b') (idle : (b.tank side).pending? = none)
    {action : Action} (pending : (b'.tank side).pending? = some action) :
    words ≠ [] ∧ (b'.tank side).isAlive := by
  induction h with
  | refl => exact absurd (idle.symm.trans pending) nofun
  | opens _ happens opens =>
    exact absurd ((happens.pending?_eq_none opens side).symm.trans pending) nofun
  | own _ steps =>
    refine ⟨List.append_ne_nil_of_right_ne_nil _ (List.cons_ne_nil _ _), ?_⟩
    obtain ⟨-, tank, moved, rfl⟩ := step_eq_some_iff.mp steps.stepped
    rw [Battle.tank, Pair.get_set_self, Tank.isAlive_congr (Tank.pose_step moved)]
    exact (Tank.step_eq_some_iff.mp moved).1
  | other _ stepped ih =>
    rw [tank_step stepped, if_neg (Side.other_ne side).symm] at pending ⊢
    exact ih pending

/-- **There is a record of every history**, with one word for each micro-step of the turn. -/
theorem Unfolds.exists_showsAmmo {history : List Incident} (h : b.Unfolds history b')
    (side : Side) : ∃ words, ShowsAmmo side b words b' ∧ words.length =
      (history.rtakeWhile fun i => !i.opensTurn).countP (Incident.isStepOf side) := by
  induction h with
  | refl => exact ⟨[], .refl, rfl⟩
  | @tail history incident b₁ b' _ happens ih =>
    obtain ⟨words, shows, length⟩ := ih
    rw [List.rtakeWhile_concat]
    -- A restart or a turn begins a new list, and a step of the own machine adds a word to it.
    cases happens with
    | restarted arena programs => exact ⟨[], shows.opens (.restarted arena programs) rfl, rfl⟩
    | resolved resolved => exact ⟨[], shows.opens (.resolved resolved) rfl, rfl⟩
    | @stepped s result b' stepped =>
      change ∃ words : List Int32, _ ∧ words.length =
        ((history.rtakeWhile fun i => !i.opensTurn) ++ [Incident.stepped s result]).countP _
      rw [List.countP_append, List.countP_singleton, ← length]
      by_cases own : s = side
      · subst own
        obtain ⟨shown, steps⟩ := exists_stepsOn stepped
        refine ⟨_, shows.own steps, ?_⟩
        simp [Incident.isStepOf]
      · obtain rfl := Side.ne_iff.mp own
        refine ⟨words, shows.other stepped, ?_⟩
        simp [Incident.isStepOf, own]

/-! ### The bullet of a tank -/

namespace Orderly

variable (h : b.Orderly)

include h

/-- A tank has one bullet at most. -/
private theorem ownBullets_eq (hm : m ∈ b.bullets) : b.ownBullets m.owner = [m] := by
  have mem : m ∈ b.ownBullets m.owner := List.mem_filter.mpr ⟨hm, decide_eq_true rfl⟩
  have apart : (b.ownBullets m.owner).Pairwise fun m n => m.owner ≠ n.owner :=
    h.owners.sublist List.filter_sublist
  have same : ∀ n ∈ b.ownBullets m.owner, n = m := fun n hn =>
    have own := List.mem_filter.mp hn
    h.eq_of_owner own.1 hm (of_decide_eq_true own.2)
  generalize b.ownBullets m.owner = own at mem apart same
  -- All bullets of a tank are the same one, and two of them would have different owners.
  match own, same with
  | [], _ => exact absurd mem List.not_mem_nil
  | [n], same => rw [same n (List.mem_singleton_self n)]
  | n :: k :: _, same =>
    have differ := (List.pairwise_cons.mp apart).1 k List.mem_cons_self
    rw [same n List.mem_cons_self, same k (by simp)] at differ
    exact absurd rfl differ

/-- A loaded tank has exactly one bullet in flight. -/
private theorem exists_ownBullets_eq (loaded : b.hasBullet side = true) :
    ∃ m, m ∈ b.bullets ∧ m.owner = side ∧ b.ownBullets side = [m] := by
  obtain ⟨m, hm, own⟩ := List.any_eq_true.mp loaded
  obtain rfl := of_decide_eq_true own
  exact ⟨m, hm, rfl, h.ownBullets_eq hm⟩

/-- **The bullet has stayed in the air** if its owner has one behind the bullet phase. -/
theorem exists_aloft (loaded : b.afterBullets.hasBullet side = true) :
    ∃ m m', b.ownBullets side = [m] ∧ b.fate m = .aloft m' ∧ m'.id = m.id ∧
      b.afterBullets.ownBullets side = [m'] := by
  obtain ⟨m', hm', own⟩ := List.any_eq_true.mp loaded
  obtain ⟨m, hm, aloft, sameId, sameOwner⟩ := h.begun.mem_advanceBullets_iff.mp hm'
  obtain rfl : m'.owner = side := of_decide_eq_true own
  refine ⟨m, m', ?_, aloft, sameId, h.begun.advanceBullets.ownBullets_eq hm'⟩
  rw [sameOwner]
  exact h.ownBullets_eq hm

/-- **The bullet has died** if its owner has none behind the bullet phase. Its number is gone with
it. -/
theorem dies (hm : m ∈ b.bullets) (unloaded : b.afterBullets.hasBullet m.owner = false) :
    (∀ m', b.fate m ≠ .aloft m') ∧ ∀ n ∈ b.playTurn.bullets, n.id ≠ m.id := by
  have falls (m' : Bullet Side) : b.fate m ≠ .aloft m' := by
    intro aloft
    have kept := Bullet.survives (Flight.survivor?_eq_some_iff.mpr aloft)
    have mem : m' ∈ b.afterBullets.bullets :=
      h.begun.mem_advanceBullets_iff.mpr ⟨m, hm, aloft, kept.1, kept.2.1⟩
    have gone := List.any_eq_false.mp unloaded m' mem
    rw [kept.2.1] at gone
    exact gone (decide_eq_true rfl)
  refine ⟨falls, fun n hn same => ?_⟩
  have bullets : b.playTurn.bullets = b.survivors ++ b.launched :=
    congrArg Frame.bullets (frame_playTurn h)
  have next : b.afterAnswers.nextBulletId = b.nextBulletId :=
    congrArg Frame.nextBulletId (frame_afterAnswers h)
  rw [bullets, List.mem_append] at hn
  rcases hn with old | new
  · obtain ⟨k, hk, survives⟩ := List.mem_filterMap.mp old
    have sameId : k.id = m.id := (Bullet.survives survives).1.symm.trans same
    rw [h.eq_of_id hk hm sameId] at survives
    exact falls n (Flight.survivor?_eq_some_iff.mp survives)
  · -- What is launched has a number that there has not been before.
    obtain ⟨_, id, cell, rfl, -, -, low, -⟩ := mem_launches b.afterAnswers new
    have sameId : id = m.id := same
    have old := h.ids_lt m hm
    rw [next] at low
    omega

/-- There was a bullet before the bullet phase if there is one behind it. -/
private theorem hasBullet_of_afterBullets (loaded : b.afterBullets.hasBullet side = true) :
    b.hasBullet side = true := by
  obtain ⟨m, -, own, -⟩ := h.exists_aloft loaded
  by_contra unloaded
  rw [ownBullets_eq_nil b side (Bool.eq_false_iff.mpr unloaded)] at own
  exact absurd own nofun

/-! ### Being told to reload -/

/-- A tank that is told to reload has fired, and its shot has come to nothing. -/
private theorem fires_of_reloading (ready : b.isReady side)
    (told : (b.playTurn.tank side).lastFeedback = .reloading) :
    (b.tank side).pending? = some .fire ∧
      ∃ blasts, ShotEnds b b.playTurn side blasts .reloading := by
  -- A destroyed tank is told something else.
  have alive : (b.playTurn.tank side).isAlive := by
    by_contra dead
    have marked : (b.playTurn.tank side).lastFeedback = .destroyed := by
      rw [tank_playTurn] at dead ⊢
      exact (lastFeedback_markDestroyed _ side).trans (if_neg dead)
    exact absurd (told.symm.trans marked) nofun
  obtain ⟨action, pending, acts⟩ :=
    b.exists_action_of_isReady side (isAlive_of_playTurn side h alive) ready
  rw [lastFeedback_playTurn side h acts, if_pos alive] at told
  cases refused : b.refusal? side b.intents with
  | some feedback =>
    -- Nor is this why a move is refused.
    rw [refused] at told
    obtain ⟨outcome, -, refuses⟩ := Option.bind_eq_some_iff.mp refused
    obtain rfl : feedback = .reloading := told
    cases outcome <;> cases refuses
  | none =>
    rw [refused] at told
    cases action with
    | fire =>
      have ends := shotEnds_playTurn side h acts
      have told : (b.afterAnswers.shot side).feedback = .reloading := told
      generalize b.afterAnswers.shot side = shot at told ends
      cases shot with
      | reloading => exact ⟨pending, _, ends⟩
      | blocked | pointBlank | launched => cases told
    | move | rotate | scan | ping | wait | halt | dead => cases told

end Orderly

/-! ### The promise -/

/-- What `AMMO` has shown to a machine in the turn that is resolved from `b` to `b'` agrees with
what comes of the shot of its tank. -/
structure KeepsPromise (b b' : Battle) (side : Side) (words : List Int32) : Prop where
  /-- A tank that fires has been shown something, and its shot ends in some way. -/
  shown : (b.tank side).pending? = some .fire →
    words ≠ [] ∧ ∃ blasts shot, ShotEnds b b' side blasts shot
  /-- If it has been shown a 1, it does not have to reload, and is not told so. -/
  promised : (b.tank side).pending? = some .fire → 1 ∈ words →
    (b'.tank side).lastFeedback ≠ .reloading ∧ ∀ blasts, ¬ShotEnds b b' side blasts .reloading
  /-- A tank that is told to reload has fired and has been shown nothing but 0. It had a bullet in
  flight, and this bullet is in flight still. -/
  reloading : (b'.tank side).lastFeedback = .reloading →
    (b.tank side).pending? = some .fire ∧ (∀ word ∈ words, word = 0) ∧
      ∃ m m', b.ownBullets side = [m] ∧ b'.ownBullets side = [m'] ∧ m'.id = m.id
  /-- If it has been shown a 0 and does not have to reload, the bullet that it had has died in the
  bullet phase. -/
  died : (b.tank side).pending? = some .fire → 0 ∈ words →
    ∀ blasts shot, ShotEnds b b' side blasts shot → shot ≠ .reloading →
      ∃ m, b.ownBullets side = [m] ∧ (∀ m', b.fate m ≠ .aloft m') ∧
        ∀ n ∈ b'.bullets, n.id ≠ m.id

/-- **A turn keeps the promise.** -/
theorem Orderly.keepsPromise (h : b.Orderly) (ready : b.isReady side)
    (shows : ShowsAmmo side b₁ words b) (idle : (b₁.tank side).pending? = none) :
    KeepsPromise b b.playTurn side words where
  shown := by
    intro pending
    obtain ⟨shown, alive⟩ := shows.of_pending idle pending
    have acts := (b.get_actions side alive).trans pending
    exact ⟨shown, _, _, shotEnds_playTurn side h acts⟩
  promised := by
    intro _ one
    -- After a 1 there is no bullet, and none is launched before the shot, so the tank need not
    -- reload.
    have never (blasts : List Event.Kind) : ¬ShotEnds b b.playTurn side blasts .reloading := by
      rintro ⟨loaded⟩
      have zero := (shows.hasBullet_iff one).mp (h.hasBullet_of_afterBullets loaded)
      exact absurd zero (by decide)
    refine ⟨fun told => ?_, never⟩
    obtain ⟨-, blasts, ends⟩ := h.fires_of_reloading ready told
    exact never blasts ends
  reloading := by
    intro told
    obtain ⟨pending, blasts, ends⟩ := h.fires_of_reloading ready told
    cases ends with
    | reloading loaded kept =>
      obtain ⟨m, m', own, -, sameId, own'⟩ := h.exists_aloft loaded
      have zeros : ∀ word ∈ words, word = 0 := fun word shown =>
        (shows.hasBullet_iff shown).mp (h.hasBullet_of_afterBullets loaded)
      exact ⟨pending, zeros, m, m', own, kept.trans own', sameId⟩
  died := by
    intro _ zero blasts shot ends other
    -- Whatever else the shot does, it finds no bullet of the tank in the air.
    have unloaded : b.afterBullets.hasBullet side = false := by
      cases ends with
      | reloading => exact absurd rfl other
      | blocked unloaded | pointBlank unloaded | launched unloaded => exact unloaded
    obtain ⟨m, hm, rfl, own⟩ := h.exists_ownBullets_eq ((shows.hasBullet_iff zero).mpr rfl)
    exact ⟨m, own, h.dies hm unloaded⟩

/-- **`AMMO` keeps its promise**, whatever the settings and the programs are and whatever has been
asked of the battle. What a machine has been shown in a turn is on record, one word for each
micro-step, and whatever is on record agrees with what comes of its shot when the turn is
resolved. -/
theorem ammo_kept (config : Config) (past : List Request) (side : Side) :
    let b := (new config).after past
    (∃ words, ShowsAmmo side (new config) words b ∧
      words.length = (((new config).history past).rtakeWhile fun i => !i.opensTurn).countP
        (Incident.isStepOf side)) ∧
    ∀ words b', ShowsAmmo side (new config) words b → b.resolveTurn = .ok b' →
      KeepsPromise b b' side words := by
  intro b
  refine ⟨(unfolds_after (new config) past).exists_showsAmmo side, ?_⟩
  intro words b' shows resolved
  have orderly : b.Orderly := (poised_after config past).1
  have idle : ((new config).tank side).pending? = none := by cases side <;> rfl
  obtain ⟨-, -, ready, rfl⟩ := resolveTurn_eq_ok_iff.mp resolved
  exact orderly.keepsPromise (ready side) shows idle

/-- A tank fires in turn after turn, in an arena of four by four. In the second turn its bullet
crosses the arena, and the tank has to reload. In the third one the bullet comes to the edge, and
the tank fires although it has been shown a 0 before each of its two operations. -/
theorem ammo_kept_three_turns :
    let arena : Arena :=
      { grid := Grid.square 4
        spawns := ⟨⟨⟨0, 0⟩, .east⟩, ⟨⟨0, 3⟩, .east⟩⟩
        onFloor := by rintro (_ | _) <;> decide
        apart := by decide }
    let gunner : Program := ⟨[⟨.fire, [], 1⟩, ⟨.jmp, [.address 0], 2⟩], .empty⟩
    let waiter : Program := ⟨[⟨.wait, [], 1⟩, ⟨.jmp, [.address 0], 2⟩], .empty⟩
    let second : List Request :=
      [.setArena arena, .install ⟨gunner, waiter⟩, .run 1, .run 2, .resolve, .run 1, .run 2]
    let third := second ++ [.resolve, .run 1, .run 2]
    let b := (new {}).after second
    let d := (new {}).after third
    b.resolveTurn = .ok b.playTurn ∧ (b.playTurn.tank .first).lastFeedback = .reloading ∧
      (∃ m m', b.ownBullets .first = [m] ∧ b.playTurn.ownBullets .first = [m'] ∧ m'.id = m.id) ∧
      d.resolveTurn = .ok d.playTurn ∧ (d.playTurn.tank .first).lastFeedback = .ok ∧
      ShowsAmmo .first (new {}) [0, 0] d ∧
      ∃ m, d.ownBullets .first = [m] ∧ (∀ m', d.fate m ≠ .aloft m') ∧
        ∀ n ∈ d.playTurn.bullets, n.id ≠ m.id := by
  intro arena gunner waiter second third b d
  have resolved : b.resolveTurn = .ok b.playTurn :=
    resolveTurn_eq_ok_iff.mpr
      ⟨by decide +kernel, by decide +kernel, by rintro (_ | _) <;> decide +kernel, rfl⟩
  have told : (b.playTurn.tank .first).lastFeedback = .reloading := by decide +kernel
  obtain ⟨⟨words, shows, -⟩, kept⟩ := ammo_kept {} second .first
  obtain ⟨-, -, bullet⟩ := (kept words _ shows resolved).reloading told
  have resolved' : d.resolveTurn = .ok d.playTurn :=
    resolveTurn_eq_ok_iff.mpr
      ⟨by decide +kernel, by decide +kernel, by rintro (_ | _) <;> decide +kernel, rfl⟩
  have fires : (d.tank .first).pending? = some .fire := by decide +kernel
  have acts : d.actions.get .first = some .fire := by decide +kernel
  have fired : (d.playTurn.tank .first).lastFeedback = .ok := by decide +kernel
  have other : d.afterAnswers.shot .first ≠ .reloading := by
    have ok : (d.afterAnswers.shot .first).feedback = .ok := by decide +kernel
    intro reloading
    rw [reloading] at ok
    exact absurd ok nofun
  have ends := shotEnds_playTurn .first (poised_after {} third).1 acts
  obtain ⟨⟨words', shows', length⟩, kept'⟩ := ammo_kept {} third .first
  have two : (((new {}).history third).rtakeWhile fun i => !i.opensTurn).countP
      (Incident.isStepOf .first) = 2 := by decide +kernel
  have loaded : d.hasBullet .first = true := by decide +kernel
  -- Two steps were made in this turn, and both of them have shown a 0.
  obtain rfl : words' = [0, 0] := by
    have zeros := List.eq_replicate_of_mem fun word shown => (shows'.hasBullet_iff shown).mp loaded
    rwa [length, two] at zeros
  exact ⟨resolved, told, bullet, resolved', fired, shows',
    (kept' _ _ shows' resolved').died fires List.mem_cons_self _ _ ends other⟩

end Battle

end TankDuel

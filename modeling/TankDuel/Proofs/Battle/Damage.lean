import TankDuel.Proofs.Battle.Stepping

/-!
# Every hit is paid for with a hit point

An explosion that hits a tank is logged under the name of that tank. The number of such entries
(`Battle.hitsOn`) and the hit points of the tank are two accounts that always add up to the hit
points that it started with (`Battle.hp_add_hitsOn`), whatever the settings are and whatever has
been asked of the battle.

Three places in a turn can book a hit: a bullet finds the tank on its cell before it moves, a bullet
enters the cell of the tank, and a shot is fired from the cell beside it. All of them take a hit
point with damage that stops at zero, so the accounts would come apart if a destroyed tank were hit.
What rules this out is that each place looks for a *living* tank first.

`Battle.Suffers` puts that into one relation between an earlier and a later battle: a tank has taken
so many hits, and each of them took a hit point that was there. It composes
(`Battle.Suffers.trans`), so the phases of a turn are dealt with one by one:

* `suffers_flyBullets` — one hit for each bullet of the opponent that strikes;
* `suffers_actBoth` — one hit if the opponent shoots point-blank;
* all other phases book none (`Battle.Suffers.of_eq`).

That the bullet phase books one hit at most is where bullets have to be in order, with one bullet
for each owner (`Battle.Orderly.owners`).
-/

namespace TankDuel

/-- Whether something to be shown is a hit on the tank of a side. -/
def Event.Kind.hits (side : Side) : Event.Kind → Bool
  | .explosion _ (some target) => target = side
  | _ => false

/-! ### Counting, and flights that end at a tank -/

/-- If no two members of a list pass a test, at most one does. -/
private theorem countP_eq_toNat_any {α : Type} {p : α → Bool} {l : List α}
    (apart : l.Pairwise fun a b => ¬(p a ∧ p b)) : l.countP p = (l.any p).toNat := by
  induction l with
  | nil => rfl
  | cons a l ih =>
    obtain ⟨head, tail⟩ := List.pairwise_cons.mp apart
    rw [List.countP_cons, List.any_cons, ih tail]
    by_cases passes : p a
    · have nowhere : l.any p = false :=
        List.any_eq_false.mpr fun b hb both => head b hb ⟨passes, both⟩
      rw [nowhere, passes]
      rfl
    · rw [if_neg passes, Bool.eq_false_iff.mpr passes, Bool.false_or, Nat.add_zero]

/-- Only where there is an enemy to be struck does a flight end with a hit. -/
theorem Bullet.isSome_enemy_of_strikes {ι : Type} {grid : Grid} {range : Int} {speed : Nat}
    {enemy : Option Coord} {m : Bullet ι} (h : (m.flight grid range speed enemy).strikes) :
    enemy.isSome := by
  -- A flight over no cells strikes nothing, and each cell adds one more chance to strike.
  have fly (cells : Nat) (m : Bullet ι) (h : (m.fly grid range enemy cells).strikes) :
      enemy.isSome := by
    induction cells generalizing m with
    | zero => exact absurd h Bool.false_ne_true
    | succ cells ih =>
      rw [fly] at h
      split at h
      · exact absurd h Bool.false_ne_true
      split at h
      · exact absurd h Bool.false_ne_true
      split at h
      · exact absurd h Bool.false_ne_true
      split at h
      next there =>
        rw [there]
        rfl
      next => exact ih _ h
  rw [flight] at h
  split at h
  next here =>
    rw [here]
    rfl
  next => exact fly speed m h

namespace Battle

/-- The number of logged hits on a tank. -/
def hitsOn (b : Battle) (side : Side) : Nat := b.events.toList.countP fun e => e.kind.hits side

/-- A tank takes `count` hits from an earlier battle to a later one. Each of them is logged and
takes a hit point that is there. -/
structure Suffers (side : Side) (count : Nat) (b b' : Battle) : Prop where
  hp : (b'.tank side).hp = (b.tank side).hp - count
  logged : b'.hitsOn side = b.hitsOn side + count
  /-- The last hit point that is taken leaves none, and no hit comes after it. -/
  nonneg : 0 < count → 0 ≤ (b'.tank side).hp

variable {b b₁ b' : Battle} {side t : Side} {count more : Nat}

/-- A tank that keeps its hit points is not hit if no hit is logged. -/
theorem Suffers.of_eq (hp : (b'.tank t).hp = (b.tank t).hp) (logged : b'.hitsOn t = b.hitsOn t) :
    Suffers t 0 b b' where
  hp := hp.trans (Int.sub_zero _).symm
  logged := logged
  nonneg := fun unhit => absurd unhit (Nat.lt_irrefl 0)

/-- What a tank suffers in two phases it suffers in all. -/
theorem Suffers.trans (h : Suffers t count b b₁) (h' : Suffers t more b₁ b') :
    Suffers t (count + more) b b' := by
  have early := h.hp
  have late := h'.hp
  constructor
  · rw [late, early]
    omega
  · rw [h'.logged, h.logged, Nat.add_assoc]
  · intro hit
    by_cases last : 0 < more
    · exact h'.nonneg last
    · -- All hits came in the earlier part, and the hit points are still those after it.
      have enough := h.nonneg (by omega)
      omega

/-! ### What is logged -/

variable (b)

/-- An event is counted if it is a hit on the tank. -/
private theorem hitsOn_emit (kind : Event.Kind) :
    (b.emit kind).hitsOn t = b.hitsOn t + (kind.hits t).toNat := by
  have pushed : (b.emit kind).events.toList =
      b.events.toList ++ [⟨b.nextEventId, b.turn, kind⟩] := Array.toList_push ..
  rw [hitsOn, pushed, List.countP_append, List.countP_singleton, ← hitsOn]
  cases kind.hits t <;> rfl

/-- A strike is a hit on the opponent of the shooter. -/
private theorem hitsOn_strike (cell : Coord) :
    (b.strike side cell).hitsOn t = b.hitsOn t + (decide (t = side.other)).toNat := by
  have struck : (b.strike side cell).hitsOn t =
      b.hitsOn t + (Event.Kind.hits t (.explosion cell (some side.other))).toNat := by
    unfold strike
    dsimp only
    split <;> exact hitsOn_emit ..
  rw [struck, Event.Kind.hits, decide_eq_decide.mpr eq_comm]

/-- A living tank that is hit pays for it. -/
theorem suffers_strike {cell : Coord} (alive : (b.tank side.other).isAlive) :
    Suffers t (decide (t = side.other)).toNat b (b.strike side cell) := by
  have hp : ((b.strike side cell).tank t).hp = ((b.tank t).hurt (t = side.other)).hp :=
    (congrArg Tank.hp (bare_strike b side cell t) :)
  -- The struck tank is alive, so its hit points do not go below zero.
  by_cases own : t = side.other
  · have vital : 0 < (b.tank t).hp := own ▸ of_decide_eq_true alive
    have less : ((b.strike side cell).tank t).hp = (b.tank t).hp - 1 := by
      rw [hp, decide_eq_true own, Tank.hurt]
      dsimp only
      rw [if_pos rfl]
      omega
    constructor
    · rw [less, decide_eq_true own]
      rfl
    · exact hitsOn_strike b cell
    · intro _
      omega
  · -- The other tank is left alone.
    rw [decide_eq_false own] at hp ⊢
    refine .of_eq hp ?_
    rw [hitsOn_strike, decide_eq_false own]
    rfl

/-! ### The bullet phase -/

/-- A bullet that strikes finds the opponent of its owner alive. -/
theorem isAlive_of_strikes {m : Bullet Side} (h : (b.fate m).strikes) :
    (b.tank m.owner.other).isAlive := by
  have there := Bullet.isSome_enemy_of_strikes h
  unfold livingAt at there
  split at there
  next alive => exact alive
  next => exact absurd there Bool.false_ne_true

/-- A bullet hits the opponent of its owner if it strikes, and nobody else. -/
private theorem suffers_flyBullet (m : Bullet Side) :
    Suffers t (decide (m.owner = t.other) && (b.fate m).strikes).toNat b (b.flyBullet m).2 := by
  rw [flyBullet_snd]
  cases ends : b.fate m with
  | aloft | spent =>
    change Suffers t (_ && false).toNat b b
    rw [Bool.and_false]
    exact .of_eq rfl rfl
  | crashed wall =>
    -- The explosion is logged, but under no name.
    change Suffers t (_ && false).toNat b (b.emit _)
    rw [Bool.and_false]
    exact .of_eq rfl (hitsOn_emit ..)
  | struck cell =>
    have alive : (b.tank m.owner.other).isAlive := b.isAlive_of_strikes (by rw [ends]; rfl)
    have target : m.owner = t.other ↔ t = m.owner.other := by
      rw [eq_comm, Side.other_eq_iff]
    change Suffers t (_ && true).toNat b (b.strike m.owner cell)
    rw [Bool.and_true, decide_eq_decide.mpr target]
    exact b.suffers_strike alive

/-- **Bullets one after the other.** A tank takes as many hits as bullets of its opponent would
strike it alone. -/
theorem suffers_flyBullets {ms : List (Bullet Side)}
    (apart : ms.Pairwise fun m n => m.owner ≠ n.owner) :
    Suffers t (ms.countP fun m => m.owner = t.other && (b.fate m).strikes) b
      (b.flyBullets ms).2 := by
  induction ms generalizing b with
  | nil => exact .of_eq rfl rfl
  | cons m ms ih =>
    obtain ⟨head, tail⟩ := List.pairwise_cons.mp apart
    -- The flight of the first bullet does not change what the others strike.
    have rest : (ms.countP fun n => n.owner = t.other && ((b.flyBullet m).2.fate n).strikes) =
        ms.countP fun n => n.owner = t.other && (b.fate n).strikes :=
      List.countP_congr fun n hn => by rw [fate_flyBullet b (head n hn)]
    have first := b.suffers_flyBullet (t := t) m
    have others := ih (b.flyBullet m).2 tail
    rw [rest] at others
    rw [flyBullets_cons, List.countP_cons, Nat.add_comm]
    have hit (p : Bool) : (if p = true then 1 else 0) = p.toNat := by cases p <;> rfl
    rw [hit]
    exact first.trans others

/-- **The bullet phase.** A tank has at most one bullet of its opponent to fear. -/
theorem suffers_afterBullets (apart : b.bullets.Pairwise fun m n => m.owner ≠ n.owner) :
    Suffers t (b.isHit t).toNat b b.afterBullets := by
  have flown := suffers_flyBullets { b with turn := b.turn + 1 } (t := t) apart
  rw [countP_eq_toNat_any] at flown
  · -- Counting the turn on changes neither account.
    exact ⟨flown.hp, flown.logged, flown.nonneg⟩
  · refine apart.imp fun {m n} differ both => differ ?_
    simp only [Bool.and_eq_true, decide_eq_true_eq] at both
    exact both.1.1.trans both.2.1.symm

/-! ### The sensor phase -/

/-- Answers are no hits. -/
private theorem hitsOn_answer (action : Option Action) :
    (b.answer side action).hitsOn t = b.hitsOn t := by
  unfold answer
  split
  next => rfl
  next =>
    split
    next => exact hitsOn_emit ..
    next => rfl
  next => rfl

/-- Answers hurt nobody. -/
private theorem suffers_answerBoth (actions : Pair (Option Action)) :
    Suffers t 0 b (b.answerBoth actions) := by
  refine .of_eq ?_ ?_
  · have pose : ((b.answerBoth actions).tank t).pose = (b.tank t).pose := by
      rw [tank_answerBoth, Tank.pose_writeRegisters]
    exact congrArg Pose.hp pose
  · rw [answerBoth, hitsOn_answer, hitsOn_answer]

/-! ### The action phase -/

/-- A shot is point-blank only if the living opponent stands ahead. -/
theorem isAlive_of_shot {cell : Coord} (h : b.shot side = .pointBlank cell) :
    (b.tank side.other).isAlive := by
  unfold shot at h
  dsimp only at h
  split at h
  · exact absurd h (by simp)
  split at h
  · exact absurd h (by simp)
  split at h
  next there =>
    unfold livingAt at there
    split at there
    next alive => exact alive
    next => exact absurd there (by simp)
  next => exact absurd h (by simp)

/-- A shot hits the opponent if it is at point-blank range, and nobody else. -/
private theorem suffers_fire (side t : Side) :
    Suffers t (decide (t = side.other) && b.shootsPointBlank side (some .fire)).toNat b
      (b.fire side) := by
  rw [fire_eq]
  unfold shootsPointBlank
  dsimp only
  -- A bullet that is launched hits nobody before the next turn.
  cases becomes : b.shot side with
  | reloading =>
    rw [Bool.and_false]
    exact .of_eq (congrArg Tank.hp (bare_tell ..) :) rfl
  | blocked cell =>
    rw [Bool.and_false]
    exact .of_eq (congrArg Tank.hp (bare_tell ..) :) (hitsOn_emit ..)
  | pointBlank cell =>
    rw [Bool.and_true]
    exact b.suffers_strike (b.isAlive_of_shot becomes)
  | launched cell =>
    rw [Bool.and_false]
    exact .of_eq rfl rfl

/-- **A deed.** A tank is hit by its opponent only, and only point-blank. -/
theorem suffers_act (side t : Side) (action : Option Action) :
    Suffers t (decide (t = side.other) && b.shootsPointBlank side action).toNat b
      (b.act side action) := by
  -- What is noted, turned or told changes neither account.
  have quiet (far : b.shootsPointBlank side action = false)
      (logged : (b.act side action).hitsOn t = b.hitsOn t) :
      Suffers t (decide (t = side.other) && b.shootsPointBlank side action).toNat b
        (b.act side action) := by
    rw [far, Bool.and_false]
    refine .of_eq ?_ logged
    have deed := bare_act b side action t
    rw [far] at deed
    have hp : ((b.act side action).tank t).hp = _ := (congrArg Tank.hp deed :)
    rw [hp]
    split <;> rfl
  cases action with
  | none => exact quiet rfl rfl
  | some action =>
    cases action with
    | move | rotate | scan | ping | wait | dead => exact quiet rfl rfl
    | halt reason =>
      refine quiet rfl ?_
      rw [act_some, carryOut]
      split <;> rfl
    | fire =>
      -- The shot is the same before and after it is noted, and noting it hurts nobody.
      have sameShot : (b.note side .fire).shootsPointBlank side (some .fire) =
          b.shootsPointBlank side (some .fire) := by
        rw [shootsPointBlank, shootsPointBlank, shot_note]
      have noted : Suffers t 0 b (b.note side .fire) :=
        .of_eq (congrArg Pose.hp (pose_note b side .fire t)) rfl
      have fired := (b.note side .fire).suffers_fire side t
      rw [sameShot] at fired
      have both := noted.trans fired
      rwa [Nat.zero_add] at both

/-- **The action phase.** A tank is hit once if its opponent shoots point-blank. -/
theorem suffers_actBoth (actions : Pair (Option Action)) :
    Suffers t (b.shootsPointBlank t.other (actions.get t.other)).toNat b (b.actBoth actions) := by
  obtain ⟨one, two⟩ := actions
  have early := b.suffers_act .first t one
  have late := (b.act .first one).suffers_act .second t two
  have sameShot :
      (b.act .first one).shootsPointBlank .second two = b.shootsPointBlank .second two :=
    shootsPointBlank_act b .first one two
  rw [sameShot] at late
  have both := early.trans late
  -- One of the two deeds is the tank's own, and nobody hits itself.
  cases t with
  | first =>
    change Suffers .first (0 + (b.shootsPointBlank .second two).toNat) b _ at both
    rwa [Nat.zero_add] at both
  | second => exact both

/-! ### The turn -/

/-- After the actions no hit is booked. -/
private theorem suffers_endOfTurn : Suffers t 0 b.afterActions b.playTurn := by
  refine .of_eq ?_ ?_
  · rw [tank_playTurn]
    exact (congrArg Tank.hp (bare_afterMoves b t) :)
  · have concluded : b.afterMoves.conclude.hitsOn t = b.afterMoves.hitsOn t := by
      unfold conclude
      split <;> rfl
    exact concluded

/-- **A turn.** Behind the bullet phase a tank is hit again only if its opponent shoots
point-blank. -/
theorem suffers_playTurn :
    Suffers t (b.afterAnswers.shootsPointBlank t.other (b.actions.get t.other)).toNat
      b.afterBullets b.playTurn := by
  have answered := b.afterBullets.suffers_answerBoth (t := t) b.actions
  have acted := b.afterAnswers.suffers_actBoth (t := t) b.actions
  have turn := (answered.trans acted).trans b.suffers_endOfTurn
  rwa [Nat.zero_add] at turn

/-! ### The two accounts -/

/-- Hit points and logged hits add up, and only hit points that were there have been taken. -/
structure Balanced (b : Battle) : Prop where
  balance : ∀ side, (b.tank side).hp + b.hitsOn side = b.config.maxHp.toInt
  nonneg : ∀ side, 0 < b.hitsOn side → 0 ≤ (b.tank side).hp

/-- Before the first turn every tank has all its hit points. -/
theorem Balanced.fresh (config : Config) (arena : Arena) (programs : Option (Pair Program)) :
    (fresh config arena programs).Balanced where
  balance := by
    rintro (_ | _)
    · exact Int.add_zero _
    · exact Int.add_zero _
  nonneg := fun _ hit => absurd hit (Nat.lt_irrefl 0)

variable {b}

/-- Hits that are paid for keep the accounts in balance. -/
theorem Balanced.suffers {counts : Side → Nat} (h : b.Balanced)
    (sameConfig : b'.config = b.config) (hits : ∀ side, Suffers side (counts side) b b') :
    b'.Balanced := by
  constructor
  · intro side
    have before := h.balance side
    rw [sameConfig, (hits side).hp, (hits side).logged]
    omega
  · intro side hit
    -- Only a tank that is hit now needs anything new. That it was alive before is part of being
    -- hit.
    by_cases more : 0 < counts side
    · exact (hits side).nonneg more
    · have unhit : counts side = 0 := Nat.eq_zero_of_not_pos more
      rw [(hits side).logged, unhit] at hit
      rw [(hits side).hp, unhit]
      have before := h.nonneg side hit
      omega

/-- Nothing that happens brings hit points and hits out of balance. -/
theorem Balanced.change (change : Change b b') (orderly : b.Orderly) (h : b.Balanced) :
    b'.Balanced := by
  cases change with
  | restart arena programs => exact .fresh ..
  | step stepped =>
    -- Micro-steps neither hurt nor log anything.
    obtain rfl := ticks_of_step stepped
    exact h.suffers rfl fun side => .of_eq (congrArg Pose.hp (pose_ticks ..)) rfl
  | turn resolved =>
    obtain ⟨-, -, -, rfl⟩ := resolveTurn_eq_ok_iff.mp resolved
    exact h.suffers (congrArg Frame.config (frame_playTurn orderly)) fun side =>
      (b.suffers_afterBullets orderly.owners).trans b.suffers_playTurn

/-- When a hit was logged, the tank had not yet taken all its hit points in hits. -/
theorem Balanced.earlier_lt (h : b.Balanced) {earlier later : List Event} {e : Event}
    (log : b.events.toList = earlier ++ e :: later) (hit : e.kind.hits side) :
    (earlier.countP fun e => e.kind.hits side) < b.config.maxHp.toInt := by
  have count : b.hitsOn side =
      (earlier.countP fun e => e.kind.hits side) +
        ((later.countP fun e => e.kind.hits side) + 1) := by
    rw [hitsOn, log, List.countP_append, List.countP_cons, if_pos hit]
  have before := h.balance side
  have left := h.nonneg side (by omega)
  omega

/-- Nothing that happens changes the settings. -/
theorem Change.config_eq (change : Change b b') (orderly : b.Orderly) :
    b'.config = b.config := by
  cases change with
  | restart arena programs => rfl
  | step stepped =>
    obtain rfl := ticks_of_step stepped
    rfl
  | turn resolved =>
    obtain ⟨-, -, -, rfl⟩ := resolveTurn_eq_ok_iff.mp resolved
    exact congrArg Frame.config (frame_playTurn orderly)

/-- Nothing changes the settings. -/
theorem config_after (config : Config) (past : List Request) :
    ((new config).after past).config = config :=
  (after_invariant (P := fun b => b.Orderly ∧ b.config = config)
    (fun change h => ⟨h.1.change change, (change.config_eq h.1).trans h.2⟩) ⟨.fresh .., rfl⟩ past).2

/-- **Every hit is paid for with a hit point.** Whatever the settings are and whatever has been
asked of a battle, the hit points of a tank and the hits that are logged under its name add up to
the hit points that it started with, and no hit was logged when these had been used up. A turn that
is resolved costs it two hit points at most: one if a bullet of the opponent that is in flight
strikes it, and one if the opponent shoots it point-blank. Each of them is logged once, and it is
alive before each. -/
theorem hp_add_hitsOn (config : Config) (requests : List Request) (side : Side) :
    let b := (new config).after requests
    (b.tank side).hp + b.hitsOn side = config.maxHp.toInt ∧
      (∀ earlier e later, b.events.toList = earlier ++ e :: later → e.kind.hits side →
        (earlier.countP fun e => e.kind.hits side) < config.maxHp.toInt) ∧
      ∀ b', b.resolveTurn = .ok b' →
        (b.tank side).hp - 2 ≤ (b'.tank side).hp ∧
        Suffers side (b.isHit side).toNat b b.afterBullets ∧
        Suffers side
          (b.afterAnswers.shootsPointBlank side.other (b.actions.get side.other)).toNat
          b.afterBullets b' := by
  intro b
  obtain ⟨orderly, balanced, sameConfig⟩ : b.Orderly ∧ b.Balanced ∧ b.config = config :=
    after_invariant (P := fun b => b.Orderly ∧ b.Balanced ∧ b.config = config)
      (fun change h => ⟨h.1.change change, h.2.1.change change h.1,
        (change.config_eq h.1).trans h.2.2⟩)
      ⟨.fresh .., .fresh .., rfl⟩ requests
  refine ⟨?_, ?_, ?_⟩
  · rw [← sameConfig]
    exact balanced.balance side
  · intro earlier e later log hit
    rw [← sameConfig]
    exact balanced.earlier_lt log hit
  · intro b' resolved
    obtain ⟨-, -, -, rfl⟩ := resolveTurn_eq_ok_iff.mp resolved
    -- The two hits of a turn come from different phases: a bullet in the first, a shot at
    -- point-blank range in the last.
    have flown := b.suffers_afterBullets (t := side) orderly.owners
    have shot := b.suffers_playTurn (t := side)
    refine ⟨?_, flown, shot⟩
    have early := flown.hp
    have late := shot.hp
    have one := Bool.toNat_le (b.isHit side)
    have other :=
      Bool.toNat_le (b.afterAnswers.shootsPointBlank side.other (b.actions.get side.other))
    omega

/-- A tank drives onto a bullet that has been fired into the cell before it, and stands beside its
opponent then: the bullet and the next shot hit it in the same turn. -/
theorem hp_add_hitsOn_two_hits :
    let arena : Arena :=
      { grid := Grid.square 3
        spawns := ⟨⟨⟨0, 0⟩, .east⟩, ⟨⟨2, 0⟩, .west⟩⟩
        onFloor := by rintro (_ | _) <;> decide
        apart := by decide }
    let driver : Program := ⟨[⟨.move, [.heading .forward], 1⟩, ⟨.wait, [], 2⟩], .empty⟩
    let gunner : Program := ⟨[⟨.fire, [], 1⟩, ⟨.fire, [], 2⟩], .empty⟩
    let past : List Request :=
      [.setArena arena, .install ⟨driver, gunner⟩, .run 1, .run 2, .resolve, .run 1, .run 2]
    let b := (new {}).after past
    let first : Event := ⟨0, 2, .explosion ⟨1, 0⟩ (some .first)⟩
    let second : Event := ⟨1, 2, .explosion ⟨1, 0⟩ (some .first)⟩
    b.resolveTurn = .ok b.playTurn ∧ Suffers .first 1 b b.afterBullets ∧
      Suffers .first 1 b.afterBullets b.playTurn ∧
      (b.after [.resolve]).events.toList = [first, second] ∧
      (([first].countP fun e => e.kind.hits .first : Nat) : Int) < 3 ∧
      ((b.after [.resolve]).tank .first).hp + 2 = 3 := by
  intro arena driver gunner past b first second
  have resolved : b.resolveTurn = .ok b.playTurn :=
    resolveTurn_eq_ok_iff.mpr
      ⟨by decide +kernel, by decide +kernel, by rintro (_ | _) <;> decide +kernel, rfl⟩
  have log : (b.after [.resolve]).events.toList = [first] ++ second :: [] := by decide +kernel
  have run : (new {}).after (past ++ [.resolve]) = b.after [.resolve] := List.foldl_append
  have full : ({} : Config).maxHp.toInt = 3 := by decide
  -- The general accounts, of the turn and of the run that ends with it.
  obtain ⟨-, -, turn⟩ := hp_add_hitsOn {} past .first
  obtain ⟨-, flown, shot⟩ := turn _ resolved
  have accounts := hp_add_hitsOn {} (past ++ [.resolve]) .first
  rw [run, full] at accounts
  obtain ⟨balance, earlier, -⟩ := accounts
  have struck : b.isHit .first = true := by decide +kernel
  have pointBlank : b.afterAnswers.shootsPointBlank (Side.other .first)
      (b.actions.get (Side.other .first)) = true := by decide +kernel
  have two : (b.after [.resolve]).hitsOn .first = 2 := by decide +kernel
  rw [struck] at flown
  rw [pointBlank] at shot
  rw [two] at balance
  exact ⟨resolved, flown, shot, log, earlier [first] second [] log rfl, balance⟩

end Battle

end TankDuel

import TankDuel.Proofs.Battle.Deeds

/-!
# Events and bullets are numbered

Events are numbered from zero as they are logged, and bullets as they are fired. The log is never
cut or rewritten as long as a battle is played on, and no bullet gets the number of another one, be
it still in flight or gone. So a number, once seen, always means the same event or the same bullet.

A turn is the only thing that logs or fires anything, and `Battle.TurnAdds` says how little that is:
at most four events and at most two bullets, all of them under the next numbers
(`Battle.Orderly.turnAdds`). Each bullet in flight ends with one explosion at most, there are two of
them at most, and a tank that pings does not shoot. The rest follows from this without another look
at the turn:

* `TurnAdds.numbered` — the numbers are in order after each turn (`Battle.Numbered`), and there are
  no more of them than the turns so far can have used up;
* `TurnAdds.continues` — what was there before is still there (`Battle.Continues`): the log is
  a beginning of the later one, and a later bullet with an old number is an old bullet that has
  flown on.

`numbers_in_order` puts them together for whole runs.
-/

namespace TankDuel

/-- There are two sides only. -/
theorem Side.length_le_two_of_pairwise {α : Type} {f : α → Side} {l : List α}
    (apart : l.Pairwise fun a b => f a ≠ f b) : l.length ≤ 2 := by
  rcases l with _ | ⟨a, _ | ⟨b, _ | ⟨c, rest⟩⟩⟩
  · exact Nat.zero_le 2
  · exact Nat.le_succ 1
  · exact Nat.le_refl 2
  · -- Both the second and the third one have the other side than the first one.
    obtain ⟨head, tail⟩ := List.pairwise_cons.mp apart
    have second := Side.ne_iff.mp (head b List.mem_cons_self)
    have third := Side.ne_iff.mp (head c (List.mem_cons_of_mem _ List.mem_cons_self))
    have same : f b = f c := Side.other_inj.mp (second.symm.trans third)
    exact absurd same ((List.pairwise_cons.mp tail).1 c List.mem_cons_self)

namespace Battle

/-- Events and bullets have the numbers that they should have. -/
structure Numbered (b : Battle) : Prop extends b.Orderly where
  /-- The `k`-th event has the number `k`, counted from zero. -/
  event_ids : b.events.toList.map Event.id = List.range b.events.size
  nextEventId : b.nextEventId = b.events.size
  /-- They are listed turn by turn, and belong to turns that there have been. -/
  turns_ascending : b.events.toList.Pairwise fun d e => d.turn ≤ e.turn
  turn_pos : ∀ e ∈ b.events.toList, 1 ≤ e.turn
  turn_le : ∀ e ∈ b.events.toList, e.turn ≤ b.turn
  /-- No turn uses up more than four numbers of events, ... -/
  nextEventId_le : b.nextEventId ≤ 4 * b.turn
  /-- ... nor more than two numbers of bullets. -/
  nextBulletId_le : b.nextBulletId ≤ 2 * b.turn

/-- What a battle keeps of an earlier one when it has been played on. -/
structure Continues (b b' : Battle) : Prop where
  turn_le : b.turn ≤ b'.turn
  /-- The log has only grown at its end. -/
  events : b.events.toList <+: b'.events.toList
  nextBulletId_le : b.nextBulletId ≤ b'.nextBulletId
  /-- A bullet with an old number is the old bullet, which has flown on. -/
  bullets : ∀ m' ∈ b'.bullets, m'.id < b.nextBulletId → ∃ m ∈ b.bullets, ∃ steps,
    m' = m.advance steps

/-- A turn logs these events and fires these bullets. -/
structure TurnAdds (b b' : Battle) (events : List Event) (bullets : List (Bullet Side)) : Prop where
  turn : b'.turn = b.turn + 1
  logged : b'.events.toList = b.events.toList ++ events
  events_le : events.length ≤ 4
  event_turn : ∀ e ∈ events, e.turn = b'.turn
  event_ids : events.map Event.id = List.range' b.nextEventId events.length
  nextEventId : b'.nextEventId = b.nextEventId + events.length
  /-- The new bullets come behind those that are still in flight. -/
  fired : ∃ old, b'.bullets = old ++ bullets ∧ ∀ m' ∈ old, ∃ m ∈ b.bullets, ∃ steps,
    m' = m.advance steps
  bullets_le : bullets.length ≤ 2
  bullet_ids : bullets.map Bullet.id = List.range' b.nextBulletId bullets.length
  nextBulletId : b'.nextBulletId = b.nextBulletId + bullets.length

variable {b b₁ b' : Battle} {events : List Event} {bullets : List (Bullet Side)}

/-! ### What a turn adds -/

/-- What is logged gets the next numbers. -/
theorem Logs.exists_events {kinds : List Event.Kind} (h : Logs kinds b b') :
    ∃ new, b'.events.toList = b.events.toList ++ new ∧ new.length = kinds.length ∧
      (∀ e ∈ new, e.turn = b.turn) ∧ new.map Event.id = List.range' b.nextEventId kinds.length := by
  refine ⟨_, h.events, List.length_mapIdx, fun e he => ?_, ?_⟩
  · obtain ⟨i, _, rfl⟩ := List.mem_mapIdx.mp he
    rfl
  · refine List.ext_getElem (by simp) fun i _ _ => ?_
    simp

/-- A deed is a ping or a shot or neither, so one event at most comes of it. -/
private theorem length_pings_add_length_blasts_le (b b' : Battle) (side : Side)
    (action : Option Action) :
    (b.pings side action).length + (b'.blasts side action).length ≤ 1 := by
  -- Only a ping or a shot makes an event, and an action is one of them at most.
  cases action with
  | none => exact Nat.zero_le 1
  | some action =>
    cases action with
    | move | rotate | scan | wait | halt | dead => exact Nat.zero_le 1
    | ping x y =>
      show ((b.livingAt side.other).map (Event.Kind.ping side)).toList.length ≤ 1
      cases b.livingAt side.other with
      | none => exact Nat.zero_le 1
      | some cell => exact Nat.le_refl 1
    | fire =>
      show 0 + ((b'.shot side).blasts side.other).length ≤ 1
      cases b'.shot side with
      | reloading | launched => exact Nat.zero_le 1
      | blocked | pointBlank => exact Nat.le_refl 1

/-- **A turn logs four events at most**: two explosions of bullets, and one event for each deed. -/
theorem Orderly.exists_logs_playTurn (h : b.Orderly) :
    ∃ kinds, kinds.length ≤ 4 ∧ Logs kinds b.begun b.playTurn := by
  refine ⟨_, ?_, logs_playTurn h⟩
  have flown : (b.bullets.filterMap b.blast?).length ≤ 2 :=
    Nat.le_trans (List.length_filterMap_le ..) (Side.length_le_two_of_pairwise h.owners)
  have first := length_pings_add_length_blasts_le b.afterBullets b.afterAnswers .first
    b.actions.first
  have second := length_pings_add_length_blasts_le b.afterBullets b.afterAnswers .second
    b.actions.second
  simp only [List.length_append]
  omega

/-- A launched bullet gets the number that it is given. -/
private theorem map_id_launch (b : Battle) (side : Side) (id : Nat) (action : Option Action) :
    (b.launch side id action).map Bullet.id =
      List.range' id (b.launch side id action).length := by
  rcases launch_cases b side id action with nothing | ⟨cell, one, -⟩
  · rw [nothing]
    rfl
  · rw [one]
    rfl

/-- Launched bullets get the next numbers. -/
private theorem map_id_launches (b : Battle) (actions : Pair (Option Action)) :
    (b.launches actions).map Bullet.id =
      List.range' b.nextBulletId (b.launches actions).length := by
  unfold launches
  dsimp only
  rw [List.map_append, map_id_launch, map_id_launch, List.length_append, List.range'_append_1]

/-- A bullet that stays in the air has flown on. -/
private theorem exists_advance_of_survives {m m' : Bullet Side}
    (h : (b.fate m).survivor? = some m') : ∃ steps, m' = m.advance steps := by
  have flies := Bullet.flight_eq_iff.mp (Flight.survivor?_eq_some_iff.mp h)
  cases flies with
  | goesOn => exact ⟨_, rfl⟩
  | ends _ first => cases first.ends

/-- **A turn adds four events and two bullets at most**, under the next numbers. -/
theorem Orderly.turnAdds (h : b.Orderly) :
    ∃ events bullets, TurnAdds b b.playTurn events bullets := by
  obtain ⟨kinds, kinds_le, logs⟩ := h.exists_logs_playTurn
  obtain ⟨events, logged, length, turn, ids⟩ := logs.exists_events
  have frame := frame_playTurn h
  have counted : b.playTurn.turn = b.turn + 1 := congrArg Frame.turn frame
  have first : b.afterAnswers.nextBulletId = b.nextBulletId :=
    congrArg Frame.nextBulletId (frame_afterAnswers h)
  -- Of the two kinds of numbers, those of events come from the log and those of bullets from the
  -- launches.
  refine ⟨events, b.launched,
    { turn := counted
      logged := logged
      events_le := length ▸ kinds_le
      event_turn := fun e he => (turn e he).trans counted.symm
      event_ids := length ▸ ids
      nextEventId := length ▸ logs.nextEventId
      fired := ⟨b.survivors, congrArg Frame.bullets frame, fun m' hm' => ?_⟩
      bullets_le := ?_
      bullet_ids := first ▸ map_id_launches b.afterAnswers b.actions
      nextBulletId := congrArg Frame.nextBulletId frame }⟩
  · obtain ⟨m, hm, survives⟩ := List.mem_filterMap.mp hm'
    exact ⟨m, hm, exists_advance_of_survives survives⟩
  · exact Side.length_le_two_of_pairwise
      ((pairwise_launches b.afterAnswers b.actions).imp And.left)

/-! ### Numbers stay in order -/

/-- At the start nothing has a number. -/
theorem Numbered.fresh (config : Config) (arena : Arena) (programs : Option (Pair Program)) :
    (fresh config arena programs).Numbered where
  toOrderly := .fresh ..
  event_ids := rfl
  nextEventId := rfl
  turns_ascending := .nil
  turn_pos := nofun
  turn_le := nofun
  nextEventId_le := Nat.le_refl 0
  nextBulletId_le := Nat.le_refl 0

/-- Micro-steps log nothing and fire nothing. -/
theorem Numbered.ticks (h : b.Numbered) (counts : Side → Nat) : (b.ticks counts).Numbered where
  toOrderly := h.toOrderly.ticks counts
  event_ids := h.event_ids
  nextEventId := h.nextEventId
  turns_ascending := h.turns_ascending
  turn_pos := h.turn_pos
  turn_le := h.turn_le
  nextEventId_le := h.nextEventId_le
  nextBulletId_le := h.nextBulletId_le

/-- **What a turn adds keeps the numbers in order.** -/
theorem TurnAdds.numbered (adds : TurnAdds b b' events bullets) (orderly : b'.Orderly)
    (h : b.Numbered) : b'.Numbered := by
  have turn := adds.turn
  have size : b'.events.size = b.events.size + events.length :=
    (congrArg List.length adds.logged).trans List.length_append
  -- The events of the turn are the last ones, and there were none of it before.
  have mem (e : Event) : e ∈ b'.events.toList ↔ e ∈ b.events.toList ∨ e ∈ events := by
    rw [adds.logged, List.mem_append]
  constructor
  · exact orderly
  -- The numbers of the new events follow those of the old ones without a gap.
  · have joined : List.range' 0 b.events.size ++ List.range' (0 + b.events.size) events.length =
        List.range' 0 (b.events.size + events.length) := List.range'_append_1
    rw [Nat.zero_add] at joined
    rw [adds.logged, List.map_append, h.event_ids, adds.event_ids, h.nextEventId, size,
      List.range_eq_range', List.range_eq_range', joined]
  · rw [adds.nextEventId, h.nextEventId, size]
  · rw [adds.logged]
    refine List.pairwise_append.mpr ⟨h.turns_ascending, ?_, fun d hd e he => ?_⟩
    · refine List.pairwise_of_forall_mem_list fun d hd e he => ?_
      exact Nat.le_of_eq ((adds.event_turn d hd).trans (adds.event_turn e he).symm)
    · have before := h.turn_le d hd
      rw [adds.event_turn e he]
      omega
  · intro e he
    rcases (mem e).mp he with old | new
    · exact h.turn_pos e old
    · rw [adds.event_turn e new, turn]
      exact Nat.le_add_left ..
  · intro e he
    rcases (mem e).mp he with old | new
    · have before := h.turn_le e old
      omega
    · exact Nat.le_of_eq (adds.event_turn e new)
  -- A turn adds at most four events and two bullets.
  · have before := h.nextEventId_le
    have few := adds.events_le
    rw [adds.nextEventId, turn]
    omega
  · have before := h.nextBulletId_le
    have few := adds.bullets_le
    rw [adds.nextBulletId, turn]
    omega

/-- **Whatever happens, the numbers stay in order.** -/
theorem Numbered.change (change : Change b b') (h : b.Numbered) : b'.Numbered := by
  cases change with
  | restart arena programs => exact .fresh ..
  | step stepped => exact ticks_of_step stepped ▸ h.ticks _
  | turn resolved =>
    obtain ⟨-, -, -, rfl⟩ := resolveTurn_eq_ok_iff.mp resolved
    obtain ⟨events, bullets, adds⟩ := h.turnAdds
    exact adds.numbered h.toOrderly.playTurn h

/-! ### What was there stays there -/

/-- A battle continues itself. -/
theorem Continues.refl (b : Battle) : Continues b b where
  turn_le := Nat.le_refl _
  events := List.prefix_refl _
  nextBulletId_le := Nat.le_refl _
  bullets := fun m hm _ => ⟨m, hm, 0, m.advance_zero.symm⟩

/-- A battle that is played on twice continues the first one. -/
theorem Continues.trans (h : Continues b b₁) (h' : Continues b₁ b') : Continues b b' where
  turn_le := Nat.le_trans h.turn_le h'.turn_le
  events := h.events.trans h'.events
  nextBulletId_le := Nat.le_trans h.nextBulletId_le h'.nextBulletId_le
  bullets := by
    intro m'' hm'' low
    -- A number that is old in the end was old in between.
    obtain ⟨m', hm', further, rfl⟩ :=
      h'.bullets m'' hm'' (Nat.lt_of_lt_of_le low h.nextBulletId_le)
    obtain ⟨m, hm, steps, rfl⟩ := h.bullets m' hm' low
    exact ⟨m, hm, steps + further, Bullet.advance_advance ..⟩

/-- Steps of the machines give no numbers. -/
private theorem continues_ticks (b : Battle) (counts : Side → Nat) : Continues b (b.ticks counts) :=
  have same := Continues.refl b
  ⟨same.turn_le, same.events, same.nextBulletId_le, same.bullets⟩

/-- **What a turn adds takes nothing away.** -/
theorem TurnAdds.continues (adds : TurnAdds b b' events bullets) : Continues b b' where
  turn_le := adds.turn ▸ Nat.le_succ _
  events := ⟨events, adds.logged.symm⟩
  nextBulletId_le := adds.nextBulletId ▸ Nat.le_add_right ..
  bullets := by
    intro m' hm' low
    obtain ⟨old, listed, flown⟩ := adds.fired
    rw [listed, List.mem_append] at hm'
    rcases hm' with before | new
    · exact flown m' before
    · -- The new bullets have new numbers.
      have id : m'.id ∈ List.range' b.nextBulletId bullets.length :=
        adds.bullet_ids ▸ List.mem_map_of_mem new
      exact absurd (List.left_le_of_mem_range' id) (Nat.not_le.mpr low)

/-- **Nothing is lost as long as a battle is played on.** -/
theorem Orderly.continues_after (h : b.Orderly) {requests : List Request}
    (playsOn : ∀ request ∈ requests, request.PlaysOn) : Continues b (b.after requests) := by
  induction requests generalizing b with
  | nil => exact .refl b
  | cons request requests ih =>
    have once : Continues b (b.serve request).2 := by
      rcases b.serve_of_playsOn (playsOn request List.mem_cons_self) with
        ⟨counts, ticked⟩ | resolved
      · rw [ticked]
        exact continues_ticks b counts
      · obtain ⟨-, -, -, played⟩ := resolveTurn_eq_ok_iff.mp resolved
        obtain ⟨events, bullets, adds⟩ := h.turnAdds
        exact played ▸ adds.continues
    have next : (b.serve request).2.Orderly := after_invariant Orderly.change h [request]
    exact once.trans (ih next fun request later => playsOn request (List.mem_cons_of_mem _ later))

/-- **Numbers are never used twice.** Whatever has been asked of a battle, and however it is played
on without being started afresh:

* its events and bullets have the numbers that they should have, at any time;
* the log only grows at its end, and a bullet that has an old number is an old bullet, so no number
  of a bullet comes back when the bullet is gone;
* a turn adds four events and two bullets at most, under the next numbers;
* so the next numbers fit 32 bits as long as there have been fewer than 2³⁰ turns. -/
theorem numbers_in_order (config : Config) (past more : List Request)
    (playsOn : ∀ request ∈ more, request.PlaysOn) :
    let b := (new config).after past
    let b' := b.after more
    b'.Numbered ∧ Continues b b' ∧
      (∀ b₁, b'.resolveTurn = .ok b₁ → ∃ events bullets, TurnAdds b' b₁ events bullets) ∧
      (b'.turn < 1073741824 → b'.nextEventId < UInt32.size ∧ b'.nextBulletId < UInt32.size) := by
  intro b b'
  have start : b.Numbered := after_invariant Numbered.change (.fresh ..) past
  have numbered : b'.Numbered := after_invariant Numbered.change start more
  refine ⟨numbered, start.continues_after playsOn, fun b₁ resolved => ?_, fun few => ?_⟩
  · obtain ⟨-, -, -, rfl⟩ := resolveTurn_eq_ok_iff.mp resolved
    exact numbered.turnAdds
  · have events := numbered.nextEventId_le
    have bullets := numbered.nextBulletId_le
    rw [UInt32.size]
    omega

/-- The second turn of a duel over four cells. Both tanks ping while the bullets of their first
turn strike them, so the turn logs as many events as a turn can. -/
theorem numbers_in_order_four_events :
    let arena : Arena :=
      { grid := Grid.square 4
        spawns := ⟨⟨⟨0, 0⟩, .east⟩, ⟨⟨3, 0⟩, .west⟩⟩
        onFloor := by rintro (_ | _) <;> decide
        apart := by decide }
    let fireAndPing : Program :=
      ⟨[⟨.fire, [], 1⟩, ⟨.ping, [.register .r0, .register .r1], 2⟩], .empty⟩
    let past : List Request :=
      [.setArena arena, .install ⟨fireAndPing, fireAndPing⟩, .run 1, .run 2, .resolve]
    let more : List Request := [.run 2, .step 7, .run 1]
    let b := (new {}).after past
    let b' := b.after more
    b.nextBulletId = 2 ∧ b'.Numbered ∧ Continues b b' ∧ b'.resolveTurn = .ok b'.playTurn ∧
      b'.playTurn.nextEventId = 4 ∧
      ∃ events bullets, TurnAdds b' b'.playTurn events bullets := by
  intro arena fireAndPing past more b b'
  have resolved : b'.resolveTurn = .ok b'.playTurn :=
    resolveTurn_eq_ok_iff.mpr
      ⟨by decide +kernel, by decide +kernel, by rintro (_ | _) <;> decide +kernel, rfl⟩
  obtain ⟨numbered, continues, adds, -⟩ :=
    numbers_in_order {} past more (by simp [more, Request.PlaysOn])
  exact ⟨by decide +kernel, numbered, continues, resolved, by decide +kernel, adds _ resolved⟩

end Battle

end TankDuel

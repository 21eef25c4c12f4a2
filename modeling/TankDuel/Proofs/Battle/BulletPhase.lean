import Mathlib.Data.List.Nodup
import TankDuel.Proofs.Battle.Course
import TankDuel.Proofs.Battle.Damage

/-!
# The law of the bullet phase

In the bullet phase each bullet flies as it would alone (`Battle.fate`), and `Bullet.Flies` says
how. This file says what that leaves behind: which bullets are still there, which hit points are
gone and which explosions are logged. `Battle.BulletLaw` does so for one bullet and
`Battle.BulletPhaseLaw` for all of them; `Battle.bullet_phase_law` says that they hold whenever
bullets fly.

Explosions are followed with a relation, `Battle.Logs`, between a battle and a later one. It says
which events have been logged in between and in which order, and composes (`Battle.Logs.trans`).

As bullets are handled one after the other, this needs once more that no tank has two of them in
flight. Then each bullet has an enemy of its own, and what the flight of another one changes does
not matter to it.
-/

namespace TankDuel

/-- The explosion at the end of a flight, if there is one, where `enemy` is the tank that can be
struck. -/
def Flight.blast? (enemy : Side) : Flight Side → Option Event.Kind
  | .crashed wall => some (.explosion wall none)
  | .struck cell => some (.explosion cell (some enemy))
  | .aloft _ | .spent => none

namespace Battle

/-! ### What is logged -/

/-- Events are logged between an earlier and a later battle, all of them in the same turn and under
the next numbers. -/
structure Logs (kinds : List Event.Kind) (b b' : Battle) : Prop where
  turn : b'.turn = b.turn
  nextEventId : b'.nextEventId = b.nextEventId + kinds.length
  events : b'.events.toList =
    b.events.toList ++ kinds.mapIdx fun i kind => ⟨b.nextEventId + i, b.turn, kind⟩

variable {b b₁ b' : Battle} {kinds more : List Event.Kind} {m : Bullet Side}

/-- Nothing is logged. -/
theorem Logs.of_eq (turn : b'.turn = b.turn) (nextEventId : b'.nextEventId = b.nextEventId)
    (events : b'.events = b.events) : Logs [] b b' where
  turn := turn
  nextEventId := nextEventId
  events := by rw [events, List.mapIdx_nil, List.append_nil]

/-- What is logged in two phases is logged in one. -/
theorem Logs.trans (h : Logs kinds b b₁) (h' : Logs more b₁ b') : Logs (kinds ++ more) b b' where
  turn := h'.turn.trans h.turn
  nextEventId := by
    rw [h'.nextEventId, h.nextEventId, List.length_append, Nat.add_assoc]
  events := by
    rw [h'.events, h.events, h.turn, h.nextEventId, List.mapIdx_append, List.append_assoc]
    -- The later ones are numbered on from the earlier ones.
    simp only [Nat.add_assoc, Nat.add_comm kinds.length]

/-- An event is logged as it is. -/
theorem logs_emit (b : Battle) (kind : Event.Kind) : Logs [kind] b (b.emit kind) where
  turn := rfl
  nextEventId := rfl
  events := Array.toList_push ..

/-- A strike logs the explosion. -/
theorem logs_strike (b : Battle) (shooter : Side) (cell : Coord) :
    Logs [.explosion cell (some shooter.other)] b (b.strike shooter cell) := by
  -- Messages are no events, so it makes no difference whether the tank is destroyed.
  have struck (tanks : Pair Tank) (kind : Event.Kind) :
      Logs [kind] b ({ b with tanks := tanks }.emit kind) :=
    have logged := logs_emit { b with tanks := tanks } kind
    ⟨logged.turn, logged.nextEventId, logged.events⟩
  unfold strike
  dsimp only
  split
  · exact (struck ..).trans (.of_eq rfl rfl rfl)
  · exact (struck ..).trans (.of_eq rfl rfl rfl)

/-- The explosion with which the flight of a bullet ends. -/
def blast? (b : Battle) (m : Bullet Side) : Option Event.Kind := (b.fate m).blast? m.owner.other

/-- A bullet logs its explosion, if it comes to one. -/
private theorem logs_flyBullet (b : Battle) (m : Bullet Side) :
    Logs (b.blast? m).toList b (b.flyBullet m).2 := by
  rw [flyBullet_snd, blast?]
  cases b.fate m with
  | aloft | spent => exact .of_eq rfl rfl rfl
  | crashed wall => exact logs_emit ..
  | struck cell => exact logs_strike ..

/-- Bullets of different owners log their explosions in order. -/
private theorem logs_flyBullets (b : Battle) {ms : List (Bullet Side)}
    (apart : ms.Pairwise fun m n => m.owner ≠ n.owner) :
    Logs (ms.filterMap b.blast?) b (b.flyBullets ms).2 := by
  induction ms generalizing b with
  | nil => exact .of_eq rfl rfl rfl
  | cons m ms ih =>
    obtain ⟨head, tail⟩ := List.pairwise_cons.mp apart
    -- The flight of the first bullet does not change how the others end.
    have rest : ms.filterMap (b.flyBullet m).2.blast? = ms.filterMap b.blast? :=
      List.filterMap_congr fun n hn => by rw [blast?, blast?, fate_flyBullet b (head n hn)]
    have first : (m :: ms).filterMap b.blast? = (b.blast? m).toList ++ ms.filterMap b.blast? := by
      rw [List.filterMap_cons]
      cases b.blast? m <;> rfl
    have others := ih (b.flyBullet m).2 tail
    rw [rest] at others
    rw [flyBullets_cons, first]
    exact (logs_flyBullet b m).trans others

/-- **The bullet phase, explosions.** They are logged in the order of the bullets. -/
theorem logs_advanceBullets (apart : b.bullets.Pairwise fun m n => m.owner ≠ n.owner) :
    Logs (b.bullets.filterMap b.blast?) b b.advanceBullets :=
  have logged := logs_flyBullets b apart
  ⟨logged.turn, logged.nextEventId, logged.events⟩

/-! ### The only bullet of its owner -/

namespace Orderly

variable (h : b.Orderly) {n : Bullet Side}

include h

/-- A tank has one bullet in flight at most. -/
theorem eq_of_owner (hm : m ∈ b.bullets) (hn : n ∈ b.bullets) (same : m.owner = n.owner) :
    m = n :=
  List.inj_on_of_nodup_map (List.pairwise_map.mpr h.owners) hm hn same

/-- Bullets are told apart by their numbers. -/
theorem eq_of_id (hm : m ∈ b.bullets) (hn : n ∈ b.bullets) (same : m.id = n.id) : m = n :=
  List.inj_on_of_nodup_map (List.pairwise_map.mpr (h.ids.imp Nat.ne_of_lt)) hm hn same

/-- A bullet that is in flight after the bullet phase is one that has stayed in the air. -/
theorem mem_advanceBullets_iff :
    m ∈ b.advanceBullets.bullets ↔
      ∃ n ∈ b.bullets, b.fate n = .aloft m ∧ m.id = n.id ∧ m.owner = n.owner := by
  have bullets : b.advanceBullets.bullets = b.survivors :=
    congrArg Frame.bullets (frame_advanceBullets b h.owners)
  rw [bullets, Battle.survivors, List.mem_filterMap]
  refine exists_congr fun n => and_congr_right fun _ => ?_
  rw [Flight.survivor?_eq_some_iff]
  constructor
  · intro aloft
    have survives := Bullet.survives (Flight.survivor?_eq_some_iff.mpr aloft)
    exact ⟨aloft, survives.1, survives.2.1⟩
  · exact And.left

/-- A tank has one bullet to fear. -/
private theorem isHit_other (hm : m ∈ b.bullets) : b.isHit m.owner.other = (b.fate m).strikes := by
  rw [Bool.eq_iff_iff, isHit, List.any_eq_true, Side.other_other]
  constructor
  · rintro ⟨n, hn, both⟩
    obtain ⟨same, strikes⟩ : n.owner = m.owner ∧ (b.fate n).strikes := by simpa using both
    exact h.eq_of_owner hn hm same ▸ strikes
  · intro strikes
    exact ⟨m, hm, by simpa using strikes⟩

/-- **Bullets are listed by number**, so sorting them by number changes nothing. -/
theorem mergeSort_bullets : b.bullets.mergeSort (fun m n => decide (m.id ≤ n.id)) = b.bullets :=
  List.mergeSort_of_pairwise (h.ids.imp fun less => decide_eq_true (Nat.le_of_lt less))

/-- **The bullet phase keeps bullets in order.** -/
theorem advanceBullets : b.advanceBullets.Orderly := by
  have frame := frame_advanceBullets b h.owners
  have bullets : b.advanceBullets.bullets = b.survivors := congrArg Frame.bullets frame
  have next : b.advanceBullets.nextBulletId = b.nextBulletId := congrArg Frame.nextBulletId frame
  obtain ⟨owners, ids, ids_lt⟩ := h.survivors
  rw [← bullets] at owners ids ids_lt
  exact ⟨owners, ids, fun m hm => next ▸ ids_lt m hm⟩

/-- A bullet that strikes takes a hit point of the opponent of its owner. -/
theorem hp_advanceBullets (hm : m ∈ b.bullets) :
    (b.advanceBullets.tank m.owner.other).hp =
      (b.tank m.owner.other).hp - (b.fate m).strikes.toNat := by
  have hp : (b.advanceBullets.tank m.owner.other).hp =
      ((b.tank m.owner.other).hurt (b.isHit m.owner.other)).hp :=
    (congrArg Tank.hp (bare_advanceBullets b m.owner.other h.owners) :)
  rw [hp, h.isHit_other hm, Tank.hurt]
  cases struck : (b.fate m).strikes with
  | false => exact (Int.sub_zero _).symm
  | true =>
    -- A tank that is struck is alive, so there is a hit point to take.
    have vital : 0 < (b.tank m.owner.other).hp := of_decide_eq_true (b.isAlive_of_strikes struck)
    dsimp only
    rw [if_pos rfl]
    exact Int.max_eq_left (by omega)

end Orderly

/-! ### The law -/

/-- What the bullet phase makes of a bullet. -/
structure BulletLaw (b : Battle) (m : Bullet Side) : Prop where
  /-- It flies as bullets do; its enemy is the opponent of its owner, while that one is alive. -/
  flies : m.Flies b.arena.grid b.config.bulletRange.toInt (b.livingAt m.owner.other)
    b.config.bulletSpeed.toNat (b.fate m)
  /-- It is still there iff it stays in the air. -/
  remains : ∀ m', (m' ∈ b.advanceBullets.bullets ∧ m'.id = m.id) ↔ b.fate m = .aloft m'
  /-- Its enemy loses exactly one hit point if it is struck, and none otherwise. -/
  hp : (b.advanceBullets.tank m.owner.other).hp =
    (b.tank m.owner.other).hp - (b.fate m).strikes.toNat
  /-- Alone it would have come out just so. -/
  alone : let alone := { b with bullets := [m] }.advanceBullets
    alone.bullets = (b.fate m).survivor?.toList ∧
      (alone.tank m.owner.other).hp = (b.advanceBullets.tank m.owner.other).hp ∧
      Logs (b.blast? m).toList b alone
  /-- Its enemy loses a hit point iff it stands where the bullet is, or on a cell that the bullet
  comes to in this turn, within its range and over floor only. -/
  hits : (b.advanceBullets.tank m.owner.other).hp < (b.tank m.owner.other).hp ↔
    ∃ j ≤ b.config.bulletSpeed.toNat, b.livingAt m.owner.other = some (m.cell j) ∧
      ∀ i, 1 ≤ i → i ≤ j →
        m.distance + i ≤ b.config.bulletRange.toInt ∧ b.arena.grid.isFloor (m.cell i)

/-- What the bullet phase does. -/
structure BulletPhaseLaw (b : Battle) : Prop where
  each : ∀ m ∈ b.bullets, b.BulletLaw m
  /-- The order in which bullets fly is that of their numbers. -/
  sorted : b.bullets.mergeSort (fun m n => decide (m.id ≤ n.id)) = b.bullets
  bullets : b.advanceBullets.bullets = b.bullets.filterMap fun m => (b.fate m).survivor?
  /-- Bullets are still listed in the order in which they were fired. -/
  ascending : b.advanceBullets.bullets.Pairwise fun m n => m.id < n.id
  /-- One explosion is logged for each bullet that ends its flight with one, in the same order. -/
  explosions : Logs (b.bullets.filterMap b.blast?) b b.advanceBullets
  /-- A tank whose opponent has no bullet in flight keeps its hit points. -/
  spared : ∀ side, b.hasBullet side.other = false →
    (b.advanceBullets.tank side).hp = (b.tank side).hp

/-- **Each bullet flies by the law.** -/
theorem Orderly.bulletLaw (h : b.Orderly) (hm : m ∈ b.bullets) : b.BulletLaw m where
  flies := Bullet.flight_eq_iff.mp rfl
  remains := by
    intro m'
    rw [h.mem_advanceBullets_iff]
    constructor
    · rintro ⟨⟨n, hn, aloft, sameId, -⟩, same⟩
      exact h.eq_of_id hn hm (sameId.symm.trans same) ▸ aloft
    · intro aloft
      have kept := Bullet.survives (Flight.survivor?_eq_some_iff.mpr aloft)
      exact ⟨⟨m, hm, aloft, kept.1, kept.2.1⟩, kept.1⟩
  hp := h.hp_advanceBullets hm
  -- On its own the bullet is in order, too, so all that is known of the phase can be said of it.
  alone := by
    -- A battle with this one bullet is in order, too, so the same can be said of it.
    have single : { b with bullets := [m] }.Orderly := by
      refine ⟨List.pairwise_singleton .., List.pairwise_singleton .., fun n hn => ?_⟩
      obtain rfl := List.mem_singleton.mp hn
      exact h.ids_lt n hm
    have left : { b with bullets := [m] }.advanceBullets.bullets =
        [m].filterMap fun m => (b.fate m).survivor? :=
      congrArg Frame.bullets (frame_advanceBullets _ single.owners)
    have logged := logs_flyBullet { b with bullets := [m] } m
    refine ⟨?_, ?_, logged.turn, logged.nextEventId, logged.events⟩
    · rw [left, List.filterMap_cons]
      cases (b.fate m).survivor? <;> rfl
    · have hp := single.hp_advanceBullets (List.mem_singleton_self m)
      exact hp.trans (h.hp_advanceBullets hm).symm
  hits := by
    have less : (b.advanceBullets.tank m.owner.other).hp < (b.tank m.owner.other).hp ↔
        (b.fate m).strikes := by
      rw [h.hp_advanceBullets hm]
      cases (b.fate m).strikes with
      | false => simp
      | true => exact iff_of_true (Int.sub_lt_self _ Int.one_pos) rfl
    exact less.trans Bullet.strikes_flight_iff

/-- **The bullet phase goes by the law** in every battle that is in order. -/
theorem Orderly.bulletPhaseLaw (h : b.Orderly) : b.BulletPhaseLaw where
  each := fun _ hm => h.bulletLaw hm
  sorted := h.mergeSort_bullets
  bullets := congrArg Frame.bullets (frame_advanceBullets b h.owners)
  ascending := h.advanceBullets.ids
  explosions := logs_advanceBullets h.owners
  spared := by
    intro side unloaded
    have unhit : b.isHit side = false := by
      rw [isHit, List.any_eq_false]
      intro m hm
      have other : m.owner ≠ side.other := by simpa using List.any_eq_false.mp unloaded m hm
      simp [other]
    have hp : (b.advanceBullets.tank side).hp = ((b.tank side).hurt (b.isHit side)).hp :=
      (congrArg Tank.hp (bare_advanceBullets b side h.owners) :)
    rw [hp, unhit, Tank.hurt_false]

/-- The battle at the start of its next turn, which is when bullets fly. -/
def begun (b : Battle) : Battle := { b with turn := b.turn + 1 }

/-- Beginning a turn touches no bullet. -/
theorem Orderly.begun (h : b.Orderly) : b.begun.Orderly := ⟨h.owners, h.ids, h.ids_lt⟩

/-- **The law of the bullet phase.** Whatever has been asked of a battle, when its bullets fly next,
each of them flies by the law, and as if it were alone. -/
theorem bullet_phase_law (config : Config) (past : List Request) :
    ((new config).after past).begun.BulletPhaseLaw :=
  (poised_after config past).1.begun.bulletPhaseLaw

end Battle

end TankDuel

import TankDuel.Proofs.Battle.Deeds
import TankDuel.Proofs.Battle.Soundness

/-!
# Sensor answers

A tank whose action is a scan or a ping is answered when the turn is resolved. This file says which
world the answer is about, that it fits into the registers, and that nothing else is written
(`Battle.sensors_answer_exactly`).

The answer is given after bullets have flown and before tanks act. Bullets change hit points only,
so it tells of the places that tanks have before they move, and of those tanks that the bullets have
left alive. Whether the tank that asks is among them makes no difference.

* What a scan tells is settled by the first cell ahead that a ray cannot pass (`Battle.Learns`,
  `Battle.exists_learns`). Tanks stand on floor, so of the three things that can be there only one
  is (`Battle.Sees.code_iff`).
* A ping is answered with the place of the opponent and logged, or else with a place that there is
  not, and not logged (`Battle.Locates`, `Battle.locates_of_ping`).
* An answer goes to the registers that were asked for. They can be written, since no program can ask
  for others (`Tank.Latched`), and grids are so small that every answer fits into a register.
-/

namespace TankDuel

/-! ### What waits in a slot -/

namespace Tank

variable {t t' : Tank} {ammo : Bool} {result : StepResult}

/-- What waits in the slot has been put there by a living tank, and the answer to it goes to
registers that can be written. -/
def Latched (t : Tank) : Prop :=
  ∀ action, t.pending? = some action → t.isAlive ∧ ∀ r ∈ action.asked, r.isWritable

/-- An empty slot has nothing in it to ask for. -/
theorem Latched.of_empty (h : t.pending? = none) : t.Latched :=
  fun _ pending => absurd (h.symm.trans pending) nofun

/-- **A step latches** only what asks for registers that can be written. -/
theorem Latched.step (h : t.Latched) (stepped : t.step ammo = some (result, t')) : t'.Latched := by
  obtain ⟨alive, cpu, cpu', hasCpu, machine, -⟩ := step_eq_some_iff.mp stepped
  intro action pending
  refine ⟨(isAlive_congr (pose_step stepped)).trans alive, ?_⟩
  rw [pending?_of_step stepped] at pending
  -- What waits already has been latched before, and of what is new only instructions ask for
  -- anything.
  cases Cpu.stepped_of_step_eq machine with
  | shown waits =>
    have before : t.pending? = some action := by
      rw [pending?, hasCpu, Option.bind_some, ← pending]
      exact waits
    exact (h action before).2
  | dead | halted | spent | ended | faulted =>
    obtain rfl := Option.some.inj pending
    exact fun _ asked => absurd asked List.not_mem_nil
  | worked => cases pending
  | acted _ executed ends =>
    obtain rfl := Option.some.inj pending
    exact Instruction.asked_of_execute executed ends

end Tank

namespace Battle

variable {b b' : Battle} {side : Side}

/-- The slots are latched in all battles that can arise. -/
private theorem latched_after (config : Config) (past : List Request) (side : Side) :
    (((new config).after past).tank side).Latched := by
  -- Slots are filled by steps only. A fresh battle and a new turn have all of them open.
  have empty {t : Tank} (idle : ∀ cpu, t.cpu = some cpu → cpu.pending = none) : t.Latched :=
    .of_empty (Option.bind_eq_none_iff.mpr idle)
  refine after_invariant (P := fun b => ∀ side, (b.tank side).Latched) ?_ ?_ past side
  · intro b b' change h side
    cases change with
    | restart arena programs => exact empty fun _ => pending_fresh
    | @step _ stepping result stepped =>
      obtain ⟨-, t, tankStepped, rfl⟩ := step_eq_some_iff.mp stepped
      rw [tank, Pair.get_set]
      split
      next => exact (h stepping).step tankStepped
      next => exact h side
    | turn resolved =>
      obtain ⟨-, -, -, rfl⟩ := resolveTurn_eq_ok_iff.mp resolved
      exact empty fun _ => pending_playTurn
  · exact fun side => empty fun _ => pending_fresh

end Battle

/-! ### Writing an answer -/

namespace Cpu

/-- Write an answer. -/
def told (c : Cpu) (values : List (Register × Int)) : Cpu :=
  values.foldl (fun c value => c.setRegister value.1 (Int32.ofInt value.2)) c

variable (c : Cpu)

/-- An answer changes registers only. -/
theorem told_eq (values : List (Register × Int)) :
    c.told values = { c with registers := (c.told values).registers } := by
  induction values generalizing c with
  | nil => rfl
  | cons value values ih => exact ih (c.setRegister value.1 (Int32.ofInt value.2))

/-- Being told something changes no other register. -/
private theorem get_told_of_notMem {values : List (Register × Int)} {r : Register}
    (other : r ∉ values.map Prod.fst) : (c.told values).registers.get r = c.registers.get r := by
  induction values generalizing c with
  | nil => rfl
  | cons value values ih =>
    rw [List.map_cons, List.mem_cons, not_or] at other
    have written : (c.setRegister value.1 (Int32.ofInt value.2)).registers.get r =
        c.registers.get r := by
      rw [setRegister, RegisterFile.get_write, if_neg fun h => other.1 h.1.symm]
    exact (ih _ other.2).trans written

/-- **The second value wins** if both go to one register. -/
theorem get_told_pair {r s : Register} (v w : Int) (first : r.isWritable) (second : s.isWritable) :
    (c.told [(r, v), (s, w)]).registers.get s = Int32.ofInt w ∧
      (r ≠ s → (c.told [(r, v), (s, w)]).registers.get r = Int32.ofInt v) := by
  have notPc {r : Register} (writable : r.isWritable) : r ≠ .pc := by
    simpa [Register.isWritable] using writable
  simp only [told, List.foldl, setRegister, RegisterFile.get_write]
  refine ⟨if_pos ⟨trivial, notPc second⟩, fun apart => ?_⟩
  rw [if_neg fun h => apart h.1.symm, if_pos ⟨trivial, notPc first⟩]

end Cpu

/-! ### Where tanks have been located -/

/-- The cell at which a tank has located its opponent, if that is what an event says. -/
def Event.Kind.locatedBy? (side : Side) : Event.Kind → Option Coord
  | .ping source target => if source = side then some target else none
  | .explosion _ _ => none

/-- The explosion of a bullet locates nobody. -/
theorem Flight.locatedBy?_of_blast? {enemy side : Side} {flight : Flight Side} {kind : Event.Kind}
    (h : flight.blast? enemy = some kind) : kind.locatedBy? side = none := by
  cases flight with
  | crashed | struck =>
    obtain rfl := Option.some.inj h
    rfl
  | aloft | spent => cases h

namespace Battle

variable {b b' : Battle} {side : Side}

/-- The cells at which a tank has located its opponent, in order. -/
def pinged (b : Battle) (side : Side) : List Coord :=
  b.events.toList.filterMap fun e => e.kind.locatedBy? side

/-- The cells that are located in what is logged come behind those from before. -/
theorem Logs.pinged_eq {kinds : List Event.Kind} (h : Logs kinds b b') (side : Side) :
    b'.pinged side = b.pinged side ++ kinds.filterMap (Event.Kind.locatedBy? side) := by
  -- Where a tank has been located does not depend on numbers and turns.
  have told (first turn : Nat) : (kinds.mapIdx fun i kind =>
      (⟨first + i, turn, kind⟩ : Event)).map Event.kind = kinds :=
    List.ext_getElem (by simp) (by simp)
  have new := congrArg (List.filterMap (Event.Kind.locatedBy? side)) (told b.nextEventId b.turn)
  rw [List.filterMap_map] at new
  rw [pinged, h.events, List.filterMap_append, ← new]
  rfl

/-- Where a tank that acts locates its opponent, if it does. -/
def located (b : Battle) (side : Side) : Option Action → List Coord
  | some (.ping _ _) => (b.livingAt side.other).toList
  | _ => []

variable (b side)

/-- The pings of a tank locate for that tank alone. -/
private theorem filterMap_pings (s : Side) (action : Option Action) :
    (b.pings s action).filterMap (Event.Kind.locatedBy? side) =
      if s = side then b.located s action else [] := by
  have silent : ([] : List Coord) = if s = side then [] else [] := (ite_self _).symm
  cases action with
  | none => exact silent
  | some action =>
    cases action with
    | move | rotate | fire | scan | wait | halt | dead => exact silent
    | ping x y =>
      rw [pings, located]
      cases b.livingAt s.other with
      | none => exact silent
      | some cell => by_cases own : s = side <;> simp [Event.Kind.locatedBy?, own]

/-- Explosions locate nobody. -/
private theorem filterMap_blasts (s : Side) (action : Option Action) :
    (b.blasts s action).filterMap (Event.Kind.locatedBy? side) = [] := by
  unfold blasts
  split
  · cases b.shot s <;> rfl
  · rfl

variable {b}

/-- **A tank locates its opponent only by asking for it**, and once if it does. -/
theorem pinged_playTurn (h : b.Orderly) :
    b.playTurn.pinged side =
      b.pinged side ++ b.afterBullets.located side (b.actions.get side) := by
  have crashes : (b.bullets.filterMap b.blast?).filterMap (Event.Kind.locatedBy? side) = [] := by
    rw [List.filterMap_filterMap, List.filterMap_eq_nil_iff]
    intro m _
    rw [Option.bind_eq_none_iff]
    exact fun _ => Flight.locatedBy?_of_blast?
  have before : b.begun.pinged side = b.pinged side := rfl
  rw [(logs_playTurn h).pinged_eq, before]
  simp only [List.filterMap_append, crashes, filterMap_blasts, filterMap_pings, List.nil_append,
    List.append_nil]
  cases side <;> simp [Pair.get]

/-! ### What a scan tells -/

variable {side}

/-- **The code says which of three things is ahead**, since no two of them can be in one cell. -/
theorem Sees.code_iff {d : Nat} {hit : RayHit Side} (sees : b.Sees side d hit)
    (onFloor : ∀ c, b.livingAt side.other = some c → b.arena.grid.isFloor c) :
    (hit.code = 2 ↔ b.livingAt side.other = some (b.cellAhead side d)) ∧
      (hit.code = 1 ↔ b.arena.grid.isWall (b.cellAhead side d)) ∧
      (hit.code = 0 ↔ ¬b.arena.grid.inBounds (b.cellAhead side d)) := by
  have stops : b.arena.grid.Stops side b.occupants (b.cellAhead side d) hit := sees.stops
  have noTank (noFloor : ¬b.arena.grid.isFloor (b.cellAhead side d)) :
      b.livingAt side.other ≠ some (b.cellAhead side d) := fun there => noFloor (onFloor _ there)
  rw [Grid.isFloor_iff] at noTank
  -- A ray stops at the edge, at a wall or at a tank on the floor, and no two of them are at one
  -- cell.
  cases hit with
  | nothing =>
    cases stops with
    | edge outside =>
      have noWall : ¬b.arena.grid.isWall (b.cellAhead side d) := fun wall =>
        outside (b.arena.grid.walls_inside _ (List.contains_iff_mem.mp wall))
      simp [RayHit.code, outside, noWall, noTank]
  | wall =>
    cases stops with
    | wall inside wall => simp [RayHit.code, inside, wall, noTank]
  | tank id =>
    obtain ⟨-, there⟩ := livingAt_of_stops stops
    cases stops with
    | tank inside noWall => simp [RayHit.code, inside, noWall, there]

/-- What a tank learns of the first obstacle ahead of it when a turn is resolved in `b`: it is
`steps` steps away, and `code` says what it is. -/
structure Learns (b : Battle) (side : Side) (steps : Nat) (code : Int) : Prop where
  /-- It is told of the ray that is cast along its facing from where it stands before the turn,
  against walls and the tanks that bullets have left alive. -/
  ray : ∃ hit, b.arena.grid.castRay (b.tank side).position (b.tank side).facing.dx
    (b.tank side).facing.dy side b.afterBullets.occupants = ⟨steps, hit⟩ ∧ hit.code = code
  pos : 1 ≤ steps
  /-- Before the obstacle there is nothing but empty floor. -/
  clear : ∀ j, 1 ≤ j → j < steps → b.arena.grid.isFloor (b.cellAhead side j) ∧
    b.afterBullets.livingAt side.other ≠ some (b.cellAhead side j)
  code_cases : code = 0 ∨ code = 1 ∨ code = 2
  /-- It is the opponent just if that one is alive behind the bullet phase and stood there before
  the turn. -/
  tank : code = 2 ↔ (b.afterBullets.tank side.other).isAlive ∧
    (b.tank side.other).position = b.cellAhead side steps
  wall : code = 1 ↔ b.arena.grid.isWall (b.cellAhead side steps)
  edge : code = 0 ↔ ¬b.arena.grid.inBounds (b.cellAhead side steps)
  /-- Where it sees the opponent a ping would have located it. -/
  ping : code = 2 → ∀ x y, (b.afterBullets.answer side (some (.ping x y))).pinged side =
    b.afterBullets.pinged side ++ [b.cellAhead side steps]

section Orderly

variable (h : b.Orderly)

include h

/-- The bullet phase leaves the arena as it is. -/
private theorem arena_afterBullets : b.afterBullets.arena = b.arena :=
  congrArg Frame.arena (frame_afterBullets h)

/-- Bullets move and turn no tank. -/
private theorem place_afterBullets (s : Side) :
    (b.afterBullets.tank s).position = (b.tank s).position ∧
      (b.afterBullets.tank s).facing = (b.tank s).facing := by
  have flown := bare_afterBullets s h
  exact ⟨(congrArg Tank.position flown :), (congrArg Tank.facing flown :)⟩

/-- The bullet phase moves no tank, so it sees along the same cells. -/
private theorem cellAhead_afterBullets (side : Side) (steps : Nat) :
    b.afterBullets.cellAhead side steps = b.cellAhead side steps := by
  obtain ⟨position, facing⟩ := place_afterBullets h side
  rw [cellAhead, position, facing]
  rfl

/-- Behind the bullet phase a living tank stands where it stood before. -/
private theorem livingAt_afterBullets_eq_some_iff {s : Side} {c : Coord} :
    b.afterBullets.livingAt s = some c ↔
      (b.afterBullets.tank s).isAlive ∧ (b.tank s).position = c := by
  rw [livingAt, (place_afterBullets h s).1]
  simp

end Orderly

/-- No tank sees further than a register can tell. -/
theorem Sees.steps_le {d : Nat} {hit : RayHit Side} (sees : b.Sees side d hit)
    (onFloor : b.arena.grid.isFloor (b.tank side).position) : (d : Int) ≤ Grid.maxSize := by
  have moving : ¬((b.tank side).facing.dx = 0 ∧ (b.tank side).facing.dy = 0) := by
    cases (b.tank side).facing <;> decide
  have room := Grid.FirstObstacle.steps_le sees moving (Grid.isFloor_iff.mp onFloor).1
  have width := b.arena.grid.width_le
  have height := b.arena.grid.height_le
  omega

/-- **A scan tells of the first obstacle**, and the distance fits into a register. -/
theorem exists_learns (sound : b.Sound) (side : Side) :
    ∃ (steps : Nat) (hit : RayHit Side), b.afterBullets.view side = ⟨steps, hit⟩ ∧
      b.Learns side steps hit.code ∧ (steps : Int) ≤ Grid.maxSize := by
  have order := sound.order
  have sameArena := arena_afterBullets order
  obtain ⟨position, facing⟩ := place_afterBullets order side
  have onFloor (s : Side) :
      b.afterBullets.arena.grid.isFloor (b.afterBullets.tank s).position := by
    rw [sameArena, (place_afterBullets order s).1]
    exact sound.onFloor s
  obtain ⟨steps, hit, view, sees⟩ := exists_sees b.afterBullets side
  obtain ⟨tank, wall, edge⟩ := sees.code_iff fun c there => by
    obtain ⟨-, rfl⟩ := (livingAt_afterBullets_eq_some_iff order).mp there
    rw [← (place_afterBullets order side.other).1]
    exact onFloor side.other
  -- Hit points aside, the world behind the bullet phase is the one before it.
  rw [cellAhead_afterBullets order] at tank wall edge
  rw [sameArena] at wall edge
  refine ⟨steps, hit, view, ?_, sees.steps_le (onFloor side)⟩
  exact
    { ray := ⟨hit, by rw [← view, Battle.view, sameArena, position, facing], rfl⟩
      pos := sees.pos
      clear := by
        intro j begun before
        have passes : b.afterBullets.arena.grid.Passes side b.afterBullets.occupants
            (b.afterBullets.cellAhead side j) := sees.passes j begun before
        rw [← cellAhead_afterBullets order, ← sameArena]
        exact ⟨Grid.isFloor_iff.mpr ⟨passes.inBounds, passes.noWall⟩, livingAt_ne_of_passes passes⟩
      code_cases := by cases hit <;> simp [RayHit.code]
      tank := tank.trans (livingAt_afterBullets_eq_some_iff order)
      wall := wall
      edge := edge
      ping := by
        intro two x y
        rw [(logs_answer b.afterBullets side _).pinged_eq, filterMap_pings, if_pos rfl, located,
          tank.mp two]
        rfl }

/-! ### Answers -/

/-- What a ping is answered in the turn from `b` to `b'`, where `regs` are the registers behind the
turn. -/
structure Locates (b b' : Battle) (side : Side) (x y : Register) (regs : RegisterFile) : Prop where
  /-- It is told the place of an opponent that is alive behind the bullet phase, and that is logged
  once. -/
  living : (b.afterBullets.tank side.other).isAlive ↔
    (x ≠ y → (regs.get x).toInt = (b.tank side.other).position.x) ∧
      (regs.get y).toInt = (b.tank side.other).position.y ∧
      b'.pinged side = b.pinged side ++ [(b.tank side.other).position]
  /-- Otherwise it is told a place that there is not, and nothing is logged. -/
  destroyed : ¬(b.afterBullets.tank side.other).isAlive ↔
    (regs.get x).toInt = -1 ∧ (regs.get y).toInt = -1 ∧ b'.pinged side = b.pinged side

/-- What the turn from `b` to `b'` does to the registers of a machine in which an action waits. -/
structure Answers (b b' : Battle) (side : Side) (before after : RegisterFile) (action : Action) :
    Prop where
  /-- Registers that the action does not ask for stay as they are. -/
  confined : ∀ r, r ∉ action.asked → after.get r = before.get r
  scan : ∀ d k, action = .scan d k → ∃ steps : Nat,
    (d ≠ k → (after.get d).toInt = steps) ∧ b.Learns side steps (after.get k).toInt
  ping : ∀ x y, action = .ping x y → b.Locates b' side x y after
  /-- A tank that does not ask where its opponent is does not locate it. -/
  silent : (∀ x y, action ≠ .ping x y) → b'.pinged side = b.pinged side

/-- The answer goes to the registers that were asked for. -/
private theorem map_fst_reading (action : Action) :
    (b.reading side (some action)).map Prod.fst = action.asked := by
  cases action with
  | move | rotate | fire | scan | wait | halt | dead => rfl
  | ping x y =>
    rw [reading]
    split <;> rfl

/-- Coordinates on a grid fit into registers. -/
theorem Sound.toInt_ofInt_position (sound : b.Sound) (s : Side) :
    (Int32.ofInt (b.tank s).position.x).toInt = (b.tank s).position.x ∧
      (Int32.ofInt (b.tank s).position.y).toInt = (b.tank s).position.y := by
  obtain ⟨⟨left, right⟩, top, bottom⟩ :=
    Coord.inside_iff.mp (Grid.isFloor_iff.mp (sound.onFloor s)).1
  have width := b.arena.grid.width_le
  have height := b.arena.grid.height_le
  rw [Grid.maxSize] at width height
  exact ⟨Int32.toInt_ofInt_of_le (by omega) (by omega),
    Int32.toInt_ofInt_of_le (by omega) (by omega)⟩

/-- A machine behind the turn: it has been told the answer. -/
theorem cpu_playTurn_eq (order : b.Orderly) (side : Side) :
    (b.playTurn.tank side).cpu = (b.tank side).cpu.map fun cpu =>
      (cpu.told (b.afterBullets.reading side (b.actions.get side))).clearPending := by
  rw [cpu_playTurn side order, Tank.writeRegisters, Option.map_map]
  rfl

/-- The machine of a living tank after a turn: it has been told the answer to its action, and its
slot is empty. -/
theorem cpu_playTurn_of_pending (order : b.Orderly) {cpu : Cpu} {action : Action}
    (alive : (b.tank side).isAlive) (hasCpu : (b.tank side).cpu = some cpu)
    (pending : cpu.pending = some action) :
    b.actions.get side = some action ∧ (b.playTurn.tank side).cpu =
      some (cpu.told (b.afterBullets.reading side (some action))).clearPending := by
  have acts : b.actions.get side = some action := by
    rw [b.get_actions side alive, Tank.pending?, hasCpu]
    exact pending
  refine ⟨acts, ?_⟩
  rw [cpu_playTurn_eq order, acts, hasCpu, Option.map_some]

/-- **Scans.** -/
theorem exists_learns_of_scan (sound : b.Sound) (cpu : Cpu) {d k : Register}
    (first : d.isWritable) (second : k.isWritable) :
    let told := (cpu.told (b.afterBullets.reading side (some (.scan d k)))).registers
    ∃ steps : Nat, (d ≠ k → (told.get d).toInt = steps) ∧
      b.Learns side steps (told.get k).toInt := by
  obtain ⟨steps, hit, view, learns, short⟩ := exists_learns sound side
  obtain ⟨toK, toD⟩ := cpu.get_told_pair steps hit.code first second
  rw [Grid.maxSize] at short
  have exactSteps : (Int32.ofInt steps).toInt = steps :=
    Int32.toInt_ofInt_of_le (by omega) (by omega)
  have exactCode : (Int32.ofInt hit.code).toInt = hit.code := by
    have codes := learns.code_cases
    exact Int32.toInt_ofInt_of_le (by omega) (by omega)
  rw [reading, view]
  refine ⟨steps, fun apart => (congrArg Int32.toInt (toD apart)).trans exactSteps, ?_⟩
  rwa [toK, exactCode]

section Ping

variable (sound : b.Sound) (cpu : Cpu) {x y : Register} (first : x.isWritable)
  (second : y.isWritable) (acts : b.actions.get side = some (.ping x y))

include sound first second acts

/-- **Pings** at an opponent that is alive. -/
theorem located_of_ping (alive : (b.afterBullets.tank side.other).isAlive) :
    let told := (cpu.told (b.afterBullets.reading side (some (.ping x y)))).registers
    (x ≠ y → (told.get x).toInt = (b.tank side.other).position.x) ∧
      (told.get y).toInt = (b.tank side.other).position.y ∧
      b.playTurn.pinged side = b.pinged side ++ [(b.tank side.other).position] := by
  have living : b.afterBullets.livingAt side.other = some (b.tank side.other).position :=
    (livingAt_afterBullets_eq_some_iff sound.order).mpr ⟨alive, rfl⟩
  obtain ⟨placeX, placeY⟩ := sound.toInt_ofInt_position side.other
  obtain ⟨toY, toX⟩ := cpu.get_told_pair (b.tank side.other).position.x
    (b.tank side.other).position.y first second
  rw [reading, living]
  refine ⟨fun apart => ?_, ?_, ?_⟩
  · rw [toX apart, placeX]
  · rw [toY, placeY]
  · rw [pinged_playTurn side sound.order, acts, located, living]
    rfl

/-- **Pings** at an opponent that is destroyed. If one register is to hold both coordinates, it is
written twice with the same word. -/
theorem lost_of_ping (gone : ¬(b.afterBullets.tank side.other).isAlive) :
    let told := (cpu.told (b.afterBullets.reading side (some (.ping x y)))).registers
    (told.get x).toInt = -1 ∧ (told.get y).toInt = -1 ∧
      b.playTurn.pinged side = b.pinged side := by
  have nowhere : b.afterBullets.livingAt side.other = none := if_neg gone
  obtain ⟨toY, toX⟩ := cpu.get_told_pair (-1) (-1) first second
  have minusOne : (Int32.ofInt (-1)).toInt = -1 := by decide
  rw [reading, nowhere]
  refine ⟨?_, ?_, ?_⟩
  · by_cases same : x = y
    · rw [same] at toY ⊢
      rw [toY, minusOne]
    · rw [toX same, minusOne]
  · rw [toY, minusOne]
  · rw [pinged_playTurn side sound.order, acts, located, nowhere]
    exact List.append_nil _

/-- **A ping** tells a machine where its opponent is, or that it is nowhere. -/
theorem locates_of_ping : b.Locates b.playTurn side x y
    (cpu.told (b.afterBullets.reading side (some (.ping x y)))).registers := by
  have located := located_of_ping sound cpu first second acts
  have lost := lost_of_ping sound cpu first second acts
  -- The log tells the two cases apart.
  have apart : b.pinged side ++ [(b.tank side.other).position] ≠ b.pinged side := by simp
  constructor
  · refine ⟨located, fun told => ?_⟩
    by_contra gone
    exact apart (told.2.2.symm.trans (lost gone).2.2)
  · refine ⟨lost, fun told alive => ?_⟩
    exact apart ((located alive).2.2.symm.trans told.2.2)

end Ping

/-- **Sensor answers are exact and confined.** Whatever the settings are and whatever has been asked
of the battle: when a turn is resolved, each machine in which an action waits has the answer to it
written to the registers that it asks for, and no other register changes. It does not matter whether
the bullets of that turn destroy its own tank. -/
theorem sensors_answer_exactly (config : Config) (past : List Request) (b' : Battle) :
    let b := (new config).after past
    b.resolveTurn = .ok b' → ∀ side cpu action, (b.tank side).cpu = some cpu →
      cpu.pending = some action → ∃ cpu', (b'.tank side).cpu = some cpu' ∧
        Answers b b' side cpu.registers cpu'.registers action := by
  intro b resolved side cpu action hasCpu pending
  have sound : b.Sound := after_invariant (fun change h => h.change change) (.fresh ..) past
  have latched : (b.tank side).Latched := latched_after config past side
  obtain ⟨-, -, -, rfl⟩ := resolveTurn_eq_ok_iff.mp resolved
  have slot : (b.tank side).pending? = some action := by
    rw [Tank.pending?, hasCpu]
    exact pending
  obtain ⟨alive, writable⟩ := latched action slot
  obtain ⟨acts, hasCpu'⟩ := cpu_playTurn_of_pending sound.order alive hasCpu pending
  -- In turn: the other registers, a scan, a ping, and that nothing else is logged as one.
  refine ⟨_, hasCpu', ?_, ?_, ?_, ?_⟩
  · intro r other
    exact Cpu.get_told_of_notMem cpu (by rwa [map_fst_reading])
  · rintro d k rfl
    exact exists_learns_of_scan sound cpu (writable d (by simp [Action.asked]))
      (writable k (by simp [Action.asked]))
  · rintro x y rfl
    exact locates_of_ping sound cpu (writable x (by simp [Action.asked]))
      (writable y (by simp [Action.asked])) acts
  · intro silent
    have unlocated : b.afterBullets.located side (some action) = [] := by
      cases action with
      | move | rotate | fire | scan | wait | halt | dead => rfl
      | ping x y => exact absurd rfl (silent x y)
    rw [pinged_playTurn side sound.order, acts, unlocated, List.append_nil]

/-- The second turn of a duel of tanks with one hit point each. The bullet that the first tank has
fired in the first turn destroys the second one, which is told all the same how far away the first
tank is. The first tank asks where its opponent is, and is told that it is nowhere. -/
theorem sensors_answer_exactly_destroyed :
    let config : Config := { maxHp := 1 }
    let arena : Arena :=
      { grid := Grid.square 4
        spawns := ⟨⟨⟨0, 0⟩, .east⟩, ⟨⟨3, 0⟩, .west⟩⟩
        onFloor := by rintro (_ | _) <;> decide
        apart := by decide }
    let gunner : Program :=
      ⟨[⟨.fire, [], 1⟩, ⟨.ping, [.register .r0, .register .r1], 2⟩], .empty⟩
    let watcher : Program :=
      ⟨[⟨.wait, [], 1⟩, ⟨.scan, [.register .r2, .register .r3], 2⟩], .empty⟩
    let past : List Request :=
      [.setArena arena, .install ⟨gunner, watcher⟩, .run 1, .run 2, .resolve, .run 1, .run 2]
    let b := (new config).after past
    b.resolveTurn = .ok b.playTurn ∧ (b.playTurn.tank .second).isAlive = false ∧
      (∃ cpu, (b.playTurn.tank .second).cpu = some cpu ∧ (cpu.registers.get .r2).toInt = 3 ∧
        (cpu.registers.get .r3).toInt = 2 ∧ b.Learns .second 3 2) ∧
      ∃ cpu, (b.playTurn.tank .first).cpu = some cpu ∧ (cpu.registers.get .r0).toInt = -1 ∧
        (cpu.registers.get .r1).toInt = -1 ∧ b.playTurn.pinged .first = [] := by
  intro config arena gunner watcher past b
  have resolved : b.resolveTurn = .ok b.playTurn :=
    resolveTurn_eq_ok_iff.mpr
      ⟨by decide +kernel, by decide +kernel, by rintro (_ | _) <;> decide +kernel, rfl⟩
  have answers := sensors_answer_exactly config past b.playTurn resolved
  have scans : (b.tank .second).pending? = some (.scan .r2 .r3) := by decide +kernel
  have pings : (b.tank .first).pending? = some (.ping .r0 .r1) := by decide +kernel
  have gone : ¬(b.afterBullets.tank .second).isAlive := by decide +kernel
  have told : ((b.playTurn.tank .second).cpu.map fun cpu =>
      ((cpu.registers.get .r2).toInt, (cpu.registers.get .r3).toInt)) = some (3, 2) := by
    decide +kernel
  refine ⟨resolved, by decide +kernel, ?_, ?_⟩
  · obtain ⟨asked, hasCpu, pending⟩ := Option.bind_eq_some_iff.mp scans
    obtain ⟨cpu, hasCpu', answered⟩ := answers .second asked _ hasCpu pending
    rw [hasCpu', Option.map_some, Option.some.injEq, Prod.mk.injEq] at told
    obtain ⟨steps, distance, learns⟩ := answered.scan .r2 .r3 rfl
    obtain rfl : steps = 3 := by
      have far := distance (by decide)
      omega
    exact ⟨cpu, hasCpu', told.1, told.2, told.2 ▸ learns⟩
  · obtain ⟨asked, hasCpu, pending⟩ := Option.bind_eq_some_iff.mp pings
    obtain ⟨cpu, hasCpu', answered⟩ := answers .first asked _ hasCpu pending
    obtain ⟨x, y, silent⟩ := (answered.ping .r0 .r1 rfl).destroyed.mp gone
    have never : b.pinged .first = [] := by decide +kernel
    exact ⟨cpu, hasCpu', x, y, silent.trans never⟩

end Battle

end TankDuel

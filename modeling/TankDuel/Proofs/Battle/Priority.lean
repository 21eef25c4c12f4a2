import TankDuel.Proofs.Battle.Moves

/-!
# The priority of the rules for moves

Two readings of the rules for simultaneous moves are compared with how moves are judged.

* **Round by round.** Each rule is checked on the moves that the earlier ones have let through, and
  refuses some of them; a move that is refused is gone and excludes no other one. `filterMoves` does
  just this, with both tanks on their way through the rules (`MoveRound`), and comes to the same
  (`filterMoves_eq`).
* **The first rule that applies.** `MoveVerdict` says for a single move which rule decides it. It
  has to know of the opponent only where the opponent stands, and where it wants to go if that is
  floor.

`resolveMoves_by_priority` puts them together with what the rules are for: tanks come to stand on
floor and apart, a collision is told to both tanks, and it makes no difference which of them counts
as the first.
-/

namespace TankDuel

/-! ### Round by round -/

/-- Two moves on their way through the rules. -/
structure MoveRound where
  /-- The cells of the moves that no rule has refused so far. -/
  live : Pair (Option Coord)
  /-- What has become of the others. -/
  outcomes : Pair (Option MoveOutcome)

namespace MoveRound

/-- Let a rule refuse the moves that do not pass it. -/
def check (r : MoveRound) (passes : Side → Coord → Bool) (refusal : MoveOutcome) : MoveRound where
  live := Pair.ofFn fun side => (r.live.get side).filter (passes side)
  outcomes := Pair.ofFn fun side =>
    if (r.live.get side).all (passes side) then r.outcomes.get side else some refusal

/-- Whether both moves are left and exclude each other. -/
def collides (r : MoveRound) (positions : Pair Coord) : Bool :=
  match r.live.first, r.live.second with
  | some first, some second => movesCollide positions first second
  | _, _ => false

/-- Carry out the moves that are left. -/
def carryOut (r : MoveRound) (grid : Grid) : Pair (Option MoveOutcome) :=
  Pair.ofFn fun side =>
    match r.live.get side with
    | some target => some (.moved (grid.clamp target))
    | none => r.outcomes.get side

end MoveRound

/-- Judge the moves of both tanks rule by rule. -/
def filterMoves (grid : Grid) (positions : Pair Coord) (intents : Pair (Option Coord)) :
    Pair (Option MoveOutcome) :=
  let start : MoveRound := ⟨intents, ⟨none, none⟩⟩
  let onFloor := start.check (fun _ target => grid.isFloor target) .intoWall
  let alone := onFloor.check (fun _ _ => !onFloor.collides positions) .collided
  let free := alone.check (fun side target => target ≠ positions.get side.other) .blocked
  free.carryOut grid

variable {grid : Grid} {positions : Pair Coord} {intents : Pair (Option Coord)}

/-- **Moves are judged rule by rule.** -/
theorem filterMoves_eq :
    filterMoves grid positions intents = resolveMoves grid positions intents := by
  refine Pair.ext_get fun side => ?_
  -- After the first rule those moves are left that go to floor, so they collide as they should.
  have collision :
      (MoveRound.check ⟨intents, ⟨none, none⟩⟩ (fun _ target => grid.isFloor target)
        .intoWall).collides positions = intentsCollide grid positions intents := rfl
  rw [get_resolveMoves, filterMoves, collision]
  simp only [MoveRound.check, MoveRound.carryOut, Pair.get_ofFn]
  cases intents.get side with
  | none => cases side <;> rfl
  | some target =>
    -- The move is in turn left or refused for good, as the rules decide.
    by_cases floor : grid.isFloor target
    · by_cases collide : intentsCollide grid positions intents
      · simp [Option.filter_some, floor, collide]
      · by_cases blocked : target = positions.get side.other
        · rw [blocked] at floor ⊢
          simp [Option.filter_some, floor, collide]
        · simp [Option.filter_some, floor, collide, blocked]
    · simp [Option.filter_some, floor]

/-! ### The first rule that applies -/

/-- The opponent wants to drive to floor, too, and either to the same cell or to that of the tank,
which wants to drive to that of the opponent. -/
def Clashes (grid : Grid) (positions : Pair Coord) (intents : Pair (Option Coord)) (side : Side)
    (target : Coord) : Prop :=
  ∃ rival, intents.get side.other = some rival ∧ grid.isFloor rival ∧
    (target = rival ∨ target = positions.get side.other ∧ rival = positions.get side)

/-- Which rule decides a move of a tank to a cell. -/
inductive MoveVerdict (grid : Grid) (positions : Pair Coord) (intents : Pair (Option Coord))
    (side : Side) (target : Coord) : MoveOutcome → Prop
  | intoWall : ¬grid.inBounds target ∨ grid.isWall target →
    MoveVerdict grid positions intents side target .intoWall
  | collided : grid.isFloor target → Clashes grid positions intents side target →
    MoveVerdict grid positions intents side target .collided
  | blocked : grid.isFloor target → ¬Clashes grid positions intents side target →
    target = positions.get side.other → MoveVerdict grid positions intents side target .blocked
  | moved : grid.isFloor target → ¬Clashes grid positions intents side target →
    target ≠ positions.get side.other →
    MoveVerdict grid positions intents side target (.moved target)

/-- A cell that is no floor lies off the grid or is a wall. -/
theorem Grid.not_isFloor_iff {c : Coord} :
    ¬grid.isFloor c ↔ ¬grid.inBounds c ∨ grid.isWall c := by
  rw [Grid.isFloor, Bool.and_eq_true, Classical.not_and_iff_not_or_not, Bool.not_eq_true',
    Bool.not_eq_false]

/-- Two moves collide iff both go to floor and exclude each other. -/
private theorem intentsCollide_iff :
    intentsCollide grid positions intents ↔
      ∃ first second, intents.first = some first ∧ intents.second = some second ∧
        grid.isFloor first ∧ grid.isFloor second ∧ movesCollide positions first second := by
  unfold intentsCollide
  constructor
  · intro h
    split at h
    next first second toFloor toFloor' =>
      obtain ⟨intent, floor⟩ := Option.filter_eq_some_iff.mp toFloor
      obtain ⟨intent', floor'⟩ := Option.filter_eq_some_iff.mp toFloor'
      exact ⟨first, second, intent, intent', floor, floor', h⟩
    next => exact absurd h Bool.false_ne_true
  · rintro ⟨first, second, intent, intent', floor, floor', collide⟩
    rw [Option.filter_eq_some_iff.mpr ⟨intent, floor⟩,
      Option.filter_eq_some_iff.mpr ⟨intent', floor'⟩]
    exact collide

/-- Either tank sees a collision as a clash of its move with the opponent's. -/
private theorem intentsCollide_iff_clashes {side : Side} {target : Coord}
    (intent : intents.get side = some target) (floor : grid.isFloor target) :
    intentsCollide grid positions intents ↔ Clashes grid positions intents side target := by
  have exclude (first second : Coord) : movesCollide positions first second ↔
      first = second ∨ first = positions.second ∧ second = positions.first := by
    simp [movesCollide]
  rw [intentsCollide_iff]
  -- A collision names the first tank first, so seen from the second one the sides change.
  cases side with
  | first =>
    constructor
    · rintro ⟨first, second, intent', rival, -, floor', collide⟩
      obtain rfl := Option.some.inj (intent'.symm.trans intent)
      exact ⟨second, rival, floor', (exclude ..).mp collide⟩
    · rintro ⟨second, rival, floor', clash⟩
      exact ⟨target, second, intent, rival, floor, floor', (exclude ..).mpr clash⟩
  | second =>
    constructor
    · rintro ⟨first, second, rival, intent', floor', -, collide⟩
      obtain rfl := Option.some.inj (intent'.symm.trans intent)
      exact ⟨first, rival, floor', ((exclude ..).mp collide).imp Eq.symm And.symm⟩
    · rintro ⟨first, rival, floor', clash⟩
      exact ⟨first, target, rival, intent, floor', floor,
        (exclude ..).mpr (clash.imp Eq.symm And.symm)⟩

/-- Some rule decides every move. -/
theorem exists_moveVerdict (grid : Grid) (positions : Pair Coord) (intents : Pair (Option Coord))
    (side : Side) (target : Coord) :
    ∃ outcome, MoveVerdict grid positions intents side target outcome := by
  by_cases floor : grid.isFloor target
  · by_cases clash : Clashes grid positions intents side target
    · exact ⟨_, .collided floor clash⟩
    · by_cases there : target = positions.get side.other
      · exact ⟨_, .blocked floor clash there⟩
      · exact ⟨_, .moved floor clash there⟩
  · exact ⟨_, .intoWall (Grid.not_isFloor_iff.mp floor)⟩

/-- A move ends as the rule says that decides it. -/
theorem MoveVerdict.get_resolveMoves {side : Side} {target : Coord} {outcome : MoveOutcome}
    (intent : intents.get side = some target)
    (verdict : MoveVerdict grid positions intents side target outcome) :
    (resolveMoves grid positions intents).get side = some outcome := by
  rw [TankDuel.get_resolveMoves, intent, Option.map_some]
  -- Behind the first rule the move goes to floor, so the collision is one that the tank sees.
  have collision (floor : grid.isFloor target) :
      intentsCollide grid positions intents ↔ Clashes grid positions intents side target :=
    intentsCollide_iff_clashes intent floor
  cases verdict with
  | intoWall off =>
    rw [if_pos (by simpa using Grid.not_isFloor_iff.mpr off)]
  | collided floor clash =>
    rw [if_neg (by simpa using floor), if_pos ((collision floor).mpr clash)]
  | blocked floor alone there =>
    rw [if_neg (by simpa using floor), if_neg (mt (collision floor).mp alone), if_pos there]
  | moved floor alone free =>
    rw [if_neg (by simpa using floor), if_neg (mt (collision floor).mp alone), if_neg free,
      Grid.clamp_of_isFloor floor]

/-- **A move is decided by the first rule that applies.** -/
theorem get_resolveMoves_eq_some_iff {side : Side} {outcome : MoveOutcome} :
    (resolveMoves grid positions intents).get side = some outcome ↔
      ∃ target, intents.get side = some target ∧
        MoveVerdict grid positions intents side target outcome := by
  constructor
  · intro h
    cases intent : intents.get side with
    | none =>
      rw [get_resolveMoves, intent] at h
      exact absurd h nofun
    | some target =>
      obtain ⟨outcome', verdict⟩ := exists_moveVerdict grid positions intents side target
      obtain rfl := Option.some.inj ((verdict.get_resolveMoves intent).symm.trans h)
      exact ⟨target, rfl, verdict⟩
  · rintro ⟨target, intent, verdict⟩
    exact verdict.get_resolveMoves intent

/-! ### What the rules are for -/

/-- A collision is told to both tanks. -/
private theorem get_resolveMoves_eq_collided_iff {side : Side} :
    (resolveMoves grid positions intents).get side = some .collided ↔
      intentsCollide grid positions intents := by
  rw [get_resolveMoves_eq_some_iff]
  constructor
  · rintro ⟨target, intent, _ | ⟨floor, clash⟩⟩
    exact (intentsCollide_iff_clashes intent floor).mpr clash
  · intro collide
    -- Both moves go to floor, and either tank sees the collision.
    obtain ⟨target, intent, floor⟩ :
        ∃ target, intents.get side = some target ∧ grid.isFloor target := by
      obtain ⟨first, second, intent, intent', floor, floor', -⟩ := intentsCollide_iff.mp collide
      cases side with
      | first => exact ⟨first, intent, floor⟩
      | second => exact ⟨second, intent', floor'⟩
    exact ⟨target, intent, .collided floor ((intentsCollide_iff_clashes intent floor).mp collide)⟩

/-- **Exchanging the tanks** exchanges what becomes of their moves. -/
theorem resolveMoves_swap :
    resolveMoves grid positions.swap intents.swap = (resolveMoves grid positions intents).swap := by
  refine Pair.ext_get fun side => ?_
  rw [get_resolveMoves, Pair.get_swap, Pair.get_swap, Pair.get_swap, intentsCollide_swap,
    get_resolveMoves]

/-- Moves are judged by the priority of the rules. -/
structure ByPriority (grid : Grid) (positions : Pair Coord) (intents : Pair (Option Coord)) :
    Prop where
  /-- Only a tank that does not want to move gets no answer. -/
  silent : ∀ side, (resolveMoves grid positions intents).get side = none ↔ intents.get side = none
  /-- The first rule that applies decides. -/
  decided : ∀ side outcome, (resolveMoves grid positions intents).get side = some outcome ↔
    ∃ target, intents.get side = some target ∧
      MoveVerdict grid positions intents side target outcome
  /-- It comes to the same as checking the rules one after the other. -/
  filtered : filterMoves grid positions intents = resolveMoves grid positions intents
  /-- The tanks come to stand on floor. -/
  onFloor : ∀ side, grid.isFloor (landed grid positions intents side)
  /-- They come to stand apart. -/
  apart : landed grid positions intents .first ≠ landed grid positions intents .second
  /-- A collision is told to both of them or to neither. -/
  both : (resolveMoves grid positions intents).first = some .collided ↔
    (resolveMoves grid positions intents).second = some .collided
  /-- It makes no difference which of them counts as the first. -/
  fair : resolveMoves grid positions.swap intents.swap =
    (resolveMoves grid positions intents).swap

/-- **Moves are judged by the priority of the rules**, wherever two tanks want to drive to that
stand on floor and apart. -/
theorem resolveMoves_by_priority (grid : Grid) (positions : Pair Coord)
    (intents : Pair (Option Coord)) (floor : ∀ side, grid.isFloor (positions.get side))
    (apart : positions.first ≠ positions.second) : ByPriority grid positions intents where
  silent := fun side => by rw [get_resolveMoves, Option.map_eq_none_iff]
  decided := fun _ _ => get_resolveMoves_eq_some_iff
  filtered := filterMoves_eq
  onFloor := fun side => isFloor_landed (floor side)
  apart := landed_ne apart
  both := by
    have told (side : Side) : (resolveMoves grid positions intents).get side = some .collided ↔
        intentsCollide grid positions intents := get_resolveMoves_eq_collided_iff
    exact (told .first).trans (told .second).symm
  fair := resolveMoves_swap

/-- A tank that follows its opponent is blocked, though the opponent drives away. -/
theorem resolveMoves_by_priority_following :
    let grid := Grid.square 4
    let positions : Pair Coord := ⟨⟨1, 1⟩, ⟨2, 1⟩⟩
    let intents : Pair (Option Coord) := ⟨some ⟨2, 1⟩, some ⟨2, 2⟩⟩
    (∀ side, grid.isFloor (positions.get side)) ∧ positions.first ≠ positions.second ∧
      resolveMoves grid positions intents = ⟨some .blocked, some (.moved ⟨2, 2⟩)⟩ ∧
      filterMoves grid positions intents = resolveMoves grid positions intents ∧
      MoveVerdict grid positions intents .first ⟨2, 1⟩ .blocked ∧
      landed grid positions intents .first ≠ landed grid positions intents .second := by
  intro grid positions intents
  have floor : ∀ side, grid.isFloor (positions.get side) := by rintro (_ | _) <;> decide
  have apart : positions.first ≠ positions.second := by decide
  have judged : resolveMoves grid positions intents = ⟨some .blocked, some (.moved ⟨2, 2⟩)⟩ := by
    decide
  have priority := resolveMoves_by_priority grid positions intents floor apart
  obtain ⟨target, intent, verdict⟩ := (priority.decided .first .blocked).mp (by rw [judged]; rfl)
  obtain rfl := Option.some.inj intent
  exact ⟨floor, apart, judged, priority.filtered, verdict, priority.apart⟩

end TankDuel

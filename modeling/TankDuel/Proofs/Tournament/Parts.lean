import Mathlib.Data.List.Permutation
import TankDuel.Proofs.Battle.Ending
import TankDuel.Proofs.Tournament.Counts
import TankDuel.Tournament.Play

/-!
# A tournament may be counted in parts

Matches share nothing, so they can be played and counted in parts. A `Plan` says how: a part is
counted from nothing, one match after the other, and the tallies of parts are merged two at a time,
in the shape of a tree. Parts may be empty, so a plan may merge in tallies of nothing anywhere.

`finish_tally_eq` says that the result depends on the matches only. It is the same for every plan,
whatever its shape, and in whatever order it holds the matches. This is said of records that have
been played, and of the matches of a tournament that are played on the way.

The reason is `Plan.tally_add`: a plan has the tally of its records. Counts do not depend on the
order of the records (`Tally.standingsOf_perm`), and the records are sorted in the end. For that no
two of them may have the same key, unless they are the same record. In a tournament they are: a
match of the same entries on the same level has the same result (`exists_playMatch_eq_ok`).
-/

namespace TankDuel

/-- How things are counted in parts. -/
inductive Plan (α : Type) where
  /-- Count some things one after the other, from nothing. -/
  | part (items : List α)
  /-- Merge what has been counted. -/
  | merge (left right : Plan α)

namespace Plan

variable {α β : Type}

/-- Everything that is counted, from left to right. -/
def items : Plan α → List α
  | part items => items
  | merge left right => left.items ++ right.items

/-- Change what is counted. -/
def map (f : α → β) : Plan α → Plan β
  | part items => part (items.map f)
  | merge left right => merge (left.map f) (right.map f)

/-- The tally that comes out, where `count` counts one thing. -/
def tally (entries : List Entry) (count : Tally → α → Tally) : Plan α → Tally
  | part items => items.foldl count (Tally.start entries)
  | merge left right => (left.tally entries count).merge (right.tally entries count)

/-- The items of a plan can be mapped one by one. -/
@[simp] theorem items_map (f : α → β) (plan : Plan α) : (plan.map f).items = plan.items.map f := by
  induction plan with
  | part items => rfl
  | merge left right leftIh rightIh =>
    rw [map, items, items, leftIh, rightIh, List.map_append]

variable {entries : List Entry}

/-- **A plan has the tally of its records.** -/
theorem tally_add (plan : Plan MatchRecord) :
    plan.tally entries Tally.add = Tally.ofRecords entries plan.items := by
  induction plan with
  | part items => rw [tally, Tally.start_eq, Tally.foldl_add_ofRecords, List.nil_append, Plan.items]
  | merge left right leftIh rightIh =>
    rw [tally, leftIh, rightIh, Tally.merge_ofRecords, Plan.items]

/-- Counting things by their records is counting the records. -/
private theorem tally_eq_map {count : Tally → α → Tally} {record : α → MatchRecord}
    (counts : ∀ t a, count t a = t.add (record a)) (plan : Plan α) :
    plan.tally entries count = (plan.map record).tally entries Tally.add := by
  obtain rfl : count = fun t a => t.add (record a) := funext₂ counts
  induction plan with
  | part items => rw [map, tally, tally, List.foldl_map]
  | merge left right leftIh rightIh => rw [map, tally, tally, leftIh, rightIh]

end Plan

variable {entries : List Entry}

/-- Two lists of the same records are finished alike, if a key tells what the record is. -/
theorem Tally.finish_ofRecords_perm {records more : List MatchRecord} (perm : records.Perm more)
    (distinct : ∀ a ∈ records, ∀ b ∈ records, a.key = b.key → a = b) :
    (ofRecords entries records).finish = (ofRecords entries more).finish := by
  unfold finish ofRecords
  dsimp only
  rw [standingsOf_perm entries perm, MatchRecord.mergeSort_listedBefore_eq perm distinct]

/-- Every match can be played, and its seats and its level decide what comes out. -/
theorem exists_playMatch_eq_ok (entries : List Entry) (config : Config) :
    ∃ record : Fixture entries.length → MatchRecord,
      (∀ f, playMatch entries config f = .ok (record f)) ∧
        ∀ f, (record f).key = (f.first.val, f.second.val, f.level) := by
  have played (f : Fixture entries.length) :
      ∃ r, playMatch entries config f = .ok r ∧ r.key = (f.first.val, f.second.val, f.level) := by
    obtain ⟨b, -, ran, -⟩ := runBattle_eq_ok
      ⟨entries[f.first].program, entries[f.second].program⟩ f.level.arena config
    refine ⟨⟨f.first, f.second, f.level, b.result⟩, ?_, rfl⟩
    rw [playMatch, ran]
    rfl
  choose record plays key using played
  exact ⟨record, plays, key⟩

/-- **The result does not depend on how the matches are counted.** Take any records of which no two
have the same key. However they are split into parts, in whatever order they come, and in whatever
shape the parts are merged, with tallies of nothing in between or not, the finished tally is that of
counting them one after the other. So is a tournament whose matches are played in parts, the levels
being any, also repeated ones. -/
theorem finish_tally_eq (entries : List Entry) :
    (∀ records : List MatchRecord, (records.map MatchRecord.key).Nodup →
      ∃ result, (records.foldl Tally.add (Tally.start entries)).finish = .ok result ∧
        ∀ plan : Plan MatchRecord, plan.items.Perm records →
          (plan.tally entries Tally.add).finish = .ok result) ∧
      ∀ (levels : List Level) (config : Config), 2 ≤ entries.length → levels ≠ [] →
        ∃ result, runTournament entries levels config = .ok result ∧
          ∀ plan : Plan (Fixture entries.length),
            plan.items.Perm (schedule entries.length levels) →
              (plan.tally entries (Tally.play entries config)).finish = .ok result := by
  -- One after the other is a plan with a single part.
  have inOrder {α : Type} (count : Tally → α → Tally) (items : List α) :
      items.foldl count (Tally.start entries) = (Plan.part items).tally entries count := rfl
  constructor
  · intro records nodup
    rw [inOrder, Plan.tally_add, Plan.items]
    refine ⟨_, rfl, fun plan perm => ?_⟩
    rw [Plan.tally_add]
    refine (Tally.finish_ofRecords_perm perm.symm fun a ha b hb same => ?_).symm
    exact List.inj_on_of_nodup_map nodup ha hb same
  · intro levels config enough someLevel
    obtain ⟨record, plays, keys⟩ := exists_playMatch_eq_ok entries config
    have counts (t : Tally) (f : Fixture entries.length) :
        t.play entries config f = t.add (record f) := by
      rw [Tally.play, plays]
    -- Matches with the same key are the same match, so they have the same record.
    have distinct (fixtures : List (Fixture entries.length)) :
        ∀ a ∈ fixtures.map record, ∀ b ∈ fixtures.map record, a.key = b.key → a = b := by
      intro a ha b hb same
      obtain ⟨f, -, rfl⟩ := List.mem_map.mp ha
      obtain ⟨g, -, rfl⟩ := List.mem_map.mp hb
      rw [keys, keys] at same
      obtain ⟨first, second, level⟩ : f.first.val = g.first.val ∧ f.second.val = g.second.val ∧
          f.level = g.level := by simpa using same
      obtain rfl : f = g := by
        rw [Fixture.mk.injEq]
        exact ⟨Fin.ext first, Fin.ext second, level⟩
      rfl
    have tallied (plan : Plan (Fixture entries.length)) :
        plan.tally entries (Tally.play entries config) =
          Tally.ofRecords entries (plan.items.map record) := by
      rw [Plan.tally_eq_map counts, Plan.tally_add, Plan.items_map]
    have more : ¬entries.length < 2 := Nat.not_lt.mpr enough
    have leveled : ¬levels.isEmpty := fun empty => someLevel (List.isEmpty_iff.mp empty)
    rw [runTournament, if_neg more, if_neg leveled, inOrder, tallied, Plan.items]
    refine ⟨_, rfl, fun plan perm => ?_⟩
    rw [tallied]
    exact Tally.finish_ofRecords_perm (perm.map record) (distinct plan.items)

/-- Three records of two entries, counted backwards with nothing in between, and a tournament of two
programs that stop at once on a level that is played twice. -/
theorem finish_tally_eq_backwards :
    let entries : List Entry := [⟨"a", ⟨[], .empty⟩⟩, ⟨"b", ⟨[⟨.fire, [], 1⟩], .empty⟩⟩]
    let won (tank : Side) : BattleResult :=
      ⟨.winner tank, 7, ⟨⟨1, 0, none⟩, ⟨0, 4, some .instruction⟩⟩⟩
    let records : List MatchRecord :=
      [⟨0, 1, .openField, won .first⟩, ⟨1, 0, .openField, won .first⟩,
        ⟨0, 1, .scattered, won .second⟩]
    let backwards : Plan MatchRecord :=
      .merge (.merge (.part [⟨0, 1, .scattered, won .second⟩]) (.part []))
        (.part [⟨1, 0, .openField, won .first⟩, ⟨0, 1, .openField, won .first⟩])
    let played : Plan (Fixture entries.length) :=
      .merge (.part [⟨1, 0, .openField⟩, ⟨0, 1, .openField⟩])
        (.merge (.part []) (.part [⟨0, 1, .openField⟩, ⟨1, 0, .openField⟩]))
    (∃ result, (records.foldl Tally.add (Tally.start entries)).finish = .ok result ∧
        (backwards.tally entries Tally.add).finish = .ok result ∧
        result.standings.map Standing.points = [6, 3]) ∧
      ∃ result, runTournament entries [.openField, .openField] {} = .ok result ∧
        (played.tally entries (Tally.play entries {})).finish = .ok result := by
  intro entries won records backwards played
  obtain ⟨counted, tournament⟩ := finish_tally_eq entries
  constructor
  -- The parts hold the records in the other order, and one of them is empty.
  · obtain ⟨result, inOrder, inParts⟩ := counted records (by decide)
    have points : (records.foldl Tally.add (Tally.start entries)).finish.toOption.map
        (fun result => result.standings.map Standing.points) = some [6, 3] := by
      cbv
    rw [inOrder] at points
    exact ⟨result, inOrder, inParts backwards (by decide), Option.some.inj points⟩
  · obtain ⟨result, inOrder, inParts⟩ :=
      tournament [.openField, .openField] {} (by decide) (by simp)
    exact ⟨result, inOrder, inParts played (by decide)⟩

end TankDuel

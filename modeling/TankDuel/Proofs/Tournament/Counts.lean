import Mathlib.Data.List.Sort
import TankDuel.Tournament.Basic

/-!
# What a tally counts

Counting goes through the records one by one and changes the standings in both seats of each. This
file says what comes out, entry by entry and without the order in which it was counted:
`Standing.ofRecords name entry records` is how an entry of that name stands after the records, each
of its numbers being a number of records (`seatings`).

* `foldl_add_ofRecords` — a tally to which records are added one after the other has these
  standings;
* `merge_ofRecords` — merging two standings of one entry is counting both parts;
* `ofRecords_perm` — the order of the records does not matter.

The records themselves are put into order when a tally is finished. Sorting is stable, so records
with the same key would keep the order in which they were counted. Where a key belongs to one
record only the order is lost (`mergeSort_listedBefore_eq`).
-/

namespace TankDuel

/-- The winner of a match, if there is one. -/
def MatchRecord.winner? (r : MatchRecord) : Option Side := r.result.outcome.winner?

/-- Who played in which seat, and where. -/
def MatchRecord.key (r : MatchRecord) : Nat × Nat × Level := (r.first, r.second, r.level)

/-- How often an entry has sat in a seat of matches whose winner passes a test for that seat. -/
def seatings (passes : Side → Option Side → Bool) (entry : Nat) (records : List MatchRecord) :
    Nat :=
  (records.countP fun r => r.first = entry && passes .first r.winner?)
    + records.countP fun r => r.second = entry && passes .second r.winner?

/-- How an entry stands after some records, before points are given. -/
def Standing.ofRecords (name : String) (entry : Nat) (records : List MatchRecord) : Standing where
  name := name
  played := seatings (fun _ _ => true) entry records
  wins := seatings (fun seat winner => winner = some seat) entry records
  losses := seatings (fun seat winner => winner = some seat.other) entry records
  draws := seatings (fun _ winner => winner = none) entry records

/-! ### Counting in parts and in any order -/

variable {passes : Side → Option Side → Bool} {name : String} {entry : Nat}
  {records more : List MatchRecord}

/-- Seatings are counted record by record. -/
private theorem seatings_append :
    seatings passes entry (records ++ more) =
      seatings passes entry records + seatings passes entry more := by
  unfold seatings
  rw [List.countP_append, List.countP_append]
  omega

/-- The order of the records does not count. -/
theorem seatings_perm (perm : records.Perm more) :
    seatings passes entry records = seatings passes entry more := by
  unfold seatings
  rw [perm.countP_eq, perm.countP_eq]

namespace Standing

/-- Merging is counting both parts. -/
theorem merge_ofRecords :
    (ofRecords name entry records).merge (ofRecords name entry more) =
      ofRecords name entry (records ++ more) := by
  unfold ofRecords merge
  rw [seatings_append, seatings_append, seatings_append, seatings_append]

/-- The order of the records does not matter. -/
theorem ofRecords_perm (perm : records.Perm more) :
    ofRecords name entry records = ofRecords name entry more := by
  unfold ofRecords
  rw [seatings_perm perm, seatings_perm perm, seatings_perm perm, seatings_perm perm]

end Standing

/-! ### Tallies -/

namespace Tally

variable (entries : List Entry)

/-- How all entries stand after some records. -/
def standingsOf (records : List MatchRecord) : List Standing :=
  entries.mapIdx fun entry e => .ofRecords e.name entry records

/-- At the start the standings are those of no records. -/
private theorem standings_start : (start entries).standings = standingsOf entries [] := by
  refine List.ext_getElem? fun entry => ?_
  rw [start, standingsOf, List.getElem?_map, List.getElem?_mapIdx]
  rfl

/-- A record is counted for an entry as if it were merged into its standing. -/
private theorem getElem?_count (standings : List Standing) (r : MatchRecord) (entry : Nat) :
    (count standings r)[entry]? =
      standings[entry]?.map fun s => s.merge (.ofRecords s.name entry [r]) := by
  rw [count, ← MatchRecord.winner?]
  -- The winner decides what is counted, and the seats for whom.
  rcases won : r.winner? with _ | _ | _
  all_goals
    simp only [List.getElem?_modify, Option.map_eq_map, Option.map_map]
    refine congrArg (fun f => Option.map f _) (funext fun s => ?_)
    by_cases first : r.first = entry <;> by_cases second : r.second = entry <;>
      simp [first, second, won, Standing.merge, Standing.ofRecords, seatings, Standing.addWin,
        Standing.addLoss, Standing.addDraw, Side.other]

/-- Counting a record gives the standings with one record more. -/
private theorem count_standingsOf (r : MatchRecord) :
    count (standingsOf entries records) r = standingsOf entries (records ++ [r]) := by
  refine List.ext_getElem? fun entry => ?_
  rw [getElem?_count, standingsOf, standingsOf, List.getElem?_mapIdx, List.getElem?_mapIdx,
    Option.map_map]
  refine congrArg (fun f => Option.map f _) (funext fun e => ?_)
  exact Standing.merge_ofRecords

/-- Merging adds up the records of both parts. -/
private theorem merge_standingsOf :
    (standingsOf entries records).zipWith Standing.merge (standingsOf entries more) =
      standingsOf entries (records ++ more) := by
  refine List.ext_getElem? fun entry => ?_
  rw [List.getElem?_zipWith, standingsOf, standingsOf, standingsOf, List.getElem?_mapIdx,
    List.getElem?_mapIdx, List.getElem?_mapIdx]
  cases entries[entry]? with
  | none => rfl
  | some e => exact congrArg some Standing.merge_ofRecords

/-- The standings do not depend on the order of the records. -/
theorem standingsOf_perm (perm : records.Perm more) :
    standingsOf entries records = standingsOf entries more := by
  unfold standingsOf
  simp only [Standing.ofRecords_perm perm]

/-- The tally of some records, all of which could be played. -/
def ofRecords (records : List MatchRecord) : Tally := ⟨standingsOf entries records, records, none⟩

/-- At the start no records have been counted. -/
theorem start_eq : start entries = ofRecords entries [] := by
  rw [ofRecords, ← standings_start]
  rfl

/-- Adding a record gives the tally with one record more. -/
private theorem add_ofRecords (r : MatchRecord) :
    (ofRecords entries records).add r = ofRecords entries (records ++ [r]) := by
  rw [add, ofRecords, ofRecords, count_standingsOf]

/-- **Merging two tallies** gives that of all records. -/
theorem merge_ofRecords :
    (ofRecords entries records).merge (ofRecords entries more) =
      ofRecords entries (records ++ more) := by
  rw [merge, ofRecords, ofRecords, ofRecords, merge_standingsOf]
  rfl

/-- **What a tally counts.** Adding records one after the other gives every entry the standing that
the records say, whatever came before. -/
theorem foldl_add_ofRecords (more : List MatchRecord) :
    more.foldl add (ofRecords entries records) = ofRecords entries (records ++ more) := by
  induction more generalizing records with
  | nil => rw [List.append_nil, List.foldl_nil]
  | cons r more ih =>
    rw [List.foldl_cons, add_ofRecords, ih, List.append_assoc, List.singleton_append]

end Tally

/-! ### The order of records -/

namespace MatchRecord

/-- Records are listed by their seats and then by their levels. -/
theorem listedBefore_iff {a b : MatchRecord} :
    a.listedBefore b ↔
      a.first < b.first ∨ a.first = b.first ∧
        (a.second < b.second ∨ a.second = b.second ∧ a.level.number ≤ b.level.number) := by
  simp [listedBefore]

/-- The listing is transitive. -/
theorem listedBefore_trans (a b c : MatchRecord) (ab : a.listedBefore b) (bc : b.listedBefore c) :
    a.listedBefore c := by
  rw [listedBefore_iff] at ab bc ⊢
  omega

/-- The listing is total. -/
theorem listedBefore_total (a b : MatchRecord) : a.listedBefore b || b.listedBefore a := by
  rw [Bool.or_eq_true, listedBefore_iff, listedBefore_iff]
  omega

/-- Records that may be listed before each other have the same key. -/
private theorem key_eq_of_listedBefore {a b : MatchRecord} (ab : a.listedBefore b)
    (ba : b.listedBefore a) : a.key = b.key := by
  rw [listedBefore_iff] at ab ba
  have first : a.first = b.first := by omega
  have second : a.second = b.second := by omega
  have number : a.level.number = b.level.number := by omega
  have level : a.level = b.level := by
    revert number
    cases a.level <;> cases b.level <;> decide
  rw [key, key, first, second, level]

/-- **The order in which records come is lost** where a key belongs to one record only. -/
theorem mergeSort_listedBefore_eq {records more : List MatchRecord} (perm : records.Perm more)
    (distinct : ∀ a ∈ records, ∀ b ∈ records, a.key = b.key → a = b) :
    records.mergeSort listedBefore = more.mergeSort listedBefore := by
  have sorted (l : List MatchRecord) :
      (l.mergeSort listedBefore).Pairwise fun a b => a.listedBefore b :=
    List.pairwise_mergeSort listedBefore_trans listedBefore_total l
  refine List.Perm.eq_of_pairwise ?_ (sorted records) (sorted more) ?_
  · intro a b ha hb ab ba
    rw [List.mem_mergeSort] at ha hb
    exact distinct a ha b (perm.mem_iff.mpr hb) (key_eq_of_listedBefore ab ba)
  · exact (List.mergeSort_perm records _).trans (perm.trans (List.mergeSort_perm more _).symm)

end MatchRecord

end TankDuel

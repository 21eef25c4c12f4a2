import Mathlib.Algebra.BigOperators.Intervals
import TankDuel.Proofs.Tournament.Parts
import TankDuel.Proofs.Tournament.Schedule

/-!
# The result of a tournament

A tournament plays its schedule, counts every match for the entries in both seats, gives the points
and puts all into order. The main statement is `runTournament_bookkeeping`: nothing is lost, counted
twice or counted for the wrong entry on the way, whatever the entries, the levels and the settings.

* **Matches.** Every match can be played, so the records are those of the schedule
  (`exists_runTournament_eq`), and how many there are of a kind is counted in the schedule.
* **Counts.** Before the points are given an entry stands as its records say
  (`Tally.foldl_add_ofRecords`). Seat by seat a match is won, lost or drawn (`played_ofRecords`),
  and over all entries each match is counted in its two seats (`sum_seatings`).
* **Order.** Sorting is stable. If every standing carries the number of its entry along
  (`ranking`), the sorted list has no two of them in the wrong order, ties included
  (`pairwise_ahead_ranking`).
-/

namespace TankDuel

open Finset (range)

variable {passes : Side → Option Side → Bool} {name : String} {entry : Nat}
  {records : List MatchRecord}

/-! ### Counts -/

/-- A record adds a seating for each of its seats that passes. -/
private theorem seatings_cons (r : MatchRecord) :
    seatings passes entry (r :: records) =
      ((decide (r.first = entry) && passes .first r.winner?).toNat +
        (decide (r.second = entry) && passes .second r.winner?).toNat) +
      seatings passes entry records := by
  unfold seatings
  rw [List.countP_cons, List.countP_cons, ← Bool.cond_eq_ite, ← Bool.cond_eq_ite]
  simp only [Bool.toNat]
  omega

/-- **Every match counts for its two seats.** Over all entries together a test is passed `k` times
in each match that passes a test of its own. -/
theorem sum_seatings {n k : Nat} {test : Option Side → Bool}
    (inside : ∀ r ∈ records, r.first < n ∧ r.second < n)
    (each : ∀ w, (passes .first w).toNat + (passes .second w).toNat = k * (test w).toNat) :
    ∑ entry ∈ range n, seatings passes entry records =
      k * records.countP fun r => test r.winner? := by
  -- Each seat is taken by one entry, so it is counted once over all entries.
  have seat (i : Nat) (b : Bool) (hi : i < n) :
      ∑ entry ∈ range n, (decide (i = entry) && b).toNat = b.toNat := by
    rw [Finset.sum_eq_single i]
    · rw [decide_eq_true rfl, Bool.true_and]
    · intro other _ apart
      rw [decide_eq_false apart.symm, Bool.false_and, Bool.toNat_false]
    · exact fun absent => absurd (Finset.mem_range.mpr hi) absent
  induction records with
  | nil => simp [seatings]
  | cons r records ih =>
    obtain ⟨first, second⟩ := inside r List.mem_cons_self
    have rest := ih fun s hs => inside s (List.mem_cons_of_mem _ hs)
    calc ∑ entry ∈ range n, seatings passes entry (r :: records)
        = ((passes .first r.winner?).toNat + (passes .second r.winner?).toNat) +
            k * records.countP fun r => test r.winner? := by
          simp only [seatings_cons, Finset.sum_add_distrib, seat _ _ first, seat _ _ second, rest]
      _ = k * (r :: records).countP fun r => test r.winner? := by
          rw [each, List.countP_cons, Nat.mul_add, Nat.add_comm, ← Bool.cond_eq_ite]
          rfl

namespace Standing

/-- A match in a seat is won, lost or drawn. -/
theorem played_ofRecords :
    (ofRecords name entry records).played =
      (ofRecords name entry records).wins + (ofRecords name entry records).losses +
        (ofRecords name entry records).draws := by
  unfold ofRecords
  dsimp only
  induction records with
  | nil => rfl
  | cons r records ih =>
    simp only [seatings_cons, ih]
    -- In each seat exactly one of the three tests is passed.
    rcases r.winner? with _ | _ | _ <;>
      cases decide (r.first = entry) <;> cases decide (r.second = entry) <;>
        simp [Side.other] <;> omega

/-- How the standing of an entry is accounted for by the records of the matches. -/
structure Accounts (entries : List Entry) (records : List MatchRecord) (s : Standing)
    (entry : Nat) : Prop where
  /-- It is the standing of that entry, whose name others may have too. -/
  name : entries[entry]?.map Entry.name = some s.name
  /-- A match was won where the entry sat in the seat of the winner. -/
  wins : s.wins =
    (records.countP fun r => r.first = entry ∧ r.winner? = some .first) +
      records.countP fun r => r.second = entry ∧ r.winner? = some .second
  /-- A match was lost where the opponent sat in the seat of the winner. -/
  losses : s.losses =
    (records.countP fun r => r.first = entry ∧ r.winner? = some .second) +
      records.countP fun r => r.second = entry ∧ r.winner? = some .first
  /-- A match without a winner was drawn by both entries. -/
  draws : s.draws =
    (records.countP fun r => r.first = entry ∧ r.winner? = none) +
      records.countP fun r => r.second = entry ∧ r.winner? = none
  /-- Nothing was played besides. -/
  played : s.played = s.wins + s.losses + s.draws
  points : s.points = 3 * s.wins + s.draws

/-- Giving the points completes what the records say. -/
private theorem accounts_award {entries : List Entry} {e : Entry}
    (found : entries[entry]? = some e) :
    (ofRecords e.name entry records).award.Accounts entries records entry where
  name := by
    rw [found]
    rfl
  wins := by
    simp only [Bool.decide_and]
    rfl
  losses := by
    simp only [Bool.decide_and]
    rfl
  draws := by
    simp only [Bool.decide_and]
    rfl
  played := @played_ofRecords e.name entry records
  points := by
    simp only [award, winPoints, drawPoints]
    omega

/-- An entry is listed ahead of another one if it has more points; where these are equal, if it has
won more matches; then by its name; and in the end because it was entered earlier. -/
def Ahead (a b : Standing × Nat) : Prop :=
  b.1.points < a.1.points ∨ a.1.points = b.1.points ∧
    (b.1.wins < a.1.wins ∨ a.1.wins = b.1.wins ∧
      (a.1.name < b.1.name ∨ a.1.name = b.1.name ∧ a.2 < b.2))

/-- Standings are ranked by points, then by wins, then by name. -/
private theorem ranksBefore_iff {s t : Standing} :
    s.ranksBefore t ↔
      t.points < s.points ∨ s.points = t.points ∧
        (t.wins < s.wins ∨ s.wins = t.wins ∧ s.name ≤ t.name) := by
  simp [ranksBefore]

/-- The ranking is transitive. -/
private theorem ranksBefore_trans (s t u : Standing) (st : s.ranksBefore t) (tu : t.ranksBefore u) :
    s.ranksBefore u := by
  rw [ranksBefore_iff] at st tu ⊢
  by_cases first : s.name ≤ t.name
  · by_cases second : t.name ≤ u.name
    · simp only [String.le_trans first second, and_true]
      omega
    · -- The names are in the wrong order once, so the numbers must decide there.
      simp only [second, and_false, or_false] at tu
      omega
  · simp only [first, and_false, or_false] at st
    omega

/-- The ranking is total. -/
private theorem ranksBefore_total (s t : Standing) : s.ranksBefore t || t.ranksBefore s := by
  rw [Bool.or_eq_true, ranksBefore_iff, ranksBefore_iff]
  rcases String.le_total s.name t.name with first | second
  · simp only [first, and_true]
    omega
  · simp only [second, and_true]
    omega

/-- A standing is ahead if it ranks before, and among equals if it was entered before. -/
private theorem ahead_of_ranksBefore {a b : Standing × Nat} (ranks : a.1.ranksBefore b.1)
    (ties : b.1.ranksBefore a.1 → a.2 < b.2) : Ahead a b := by
  rw [ranksBefore_iff] at ranks ties
  rcases ranks with more | ⟨points, more | ⟨wins, name⟩⟩
  · exact .inl more
  · exact .inr ⟨points, .inl more⟩
  · refine .inr ⟨points, .inr ⟨wins, ?_⟩⟩
    by_cases back : b.1.name ≤ a.1.name
    · exact .inr ⟨String.le_antisymm name back, ties (.inr ⟨points.symm, .inr ⟨wins.symm, back⟩⟩)⟩
    · exact .inl (String.not_le.mp back)

/-! ### Order -/

/-- The standings in their order, each with its number. -/
def ranking (standings : List Standing) : List (Standing × Nat) :=
  standings.zipIdx.mergeSort (List.zipIdxLE ranksBefore)

variable {standings : List Standing}

/-- The ranking shows the standings as they are sorted. -/
private theorem map_fst_ranking :
    (ranking standings).map Prod.fst = standings.mergeSort ranksBefore :=
  List.mergeSort_zipIdx

/-- Every entry is ranked once. -/
private theorem map_snd_ranking_perm (standings : List Standing) :
    ((ranking standings).map Prod.snd).Perm (List.range standings.length) := by
  have sorted := (List.mergeSort_perm standings.zipIdx (List.zipIdxLE ranksBefore)).map Prod.snd
  rwa [List.zipIdx_map_snd, ← List.range_eq_range'] at sorted

/-- What is ranked is the standing of its entry. -/
private theorem mem_ranking_iff {a : Standing × Nat} :
    a ∈ ranking standings ↔ standings[a.2]? = some a.1 := by
  rw [ranking, List.mem_mergeSort, List.mem_zipIdx_iff_getElem?]

/-- **Standings are in order**, and where nothing else decides in the order of the entries. -/
theorem pairwise_ahead_ranking : (ranking standings).Pairwise Ahead := by
  have sorted : (ranking standings).Pairwise fun a b => List.zipIdxLE ranksBefore a b :=
    List.pairwise_mergeSort (List.zipIdxLE_trans ranksBefore_trans)
      (List.zipIdxLE_total ranksBefore_total) _
  have numbers : (ranking standings).Pairwise fun a b => a.2 ≠ b.2 :=
    List.pairwise_map.mp ((map_snd_ranking_perm standings).nodup_iff.mpr List.nodup_range)
  refine sorted.imp₂ (fun a b le apart => ?_) numbers
  unfold List.zipIdxLE at le
  split at le
  next ranks =>
    refine ahead_of_ranksBefore ranks fun back => ?_
    rw [if_pos back, decide_eq_true_iff] at le
    omega
  next => exact absurd le Bool.false_ne_true

end Standing

/-! ### The result -/

/-- What a tournament comes to: every match of every two entries in either seat, each as often as
its level was chosen, and for every entry the standing that these matches say. -/
structure TournamentResult.Faithful (entries : List Entry) (levels : List Level) (config : Config)
    (result : TournamentResult) : Prop where
  length_records :
    result.records.length = entries.length * (entries.length - 1) * levels.length
  count_key : ∀ first second level,
    (result.records.map MatchRecord.key).count (first, second, level) =
      if first < entries.length ∧ second < entries.length ∧ first ≠ second then levels.count level
      else 0
  /-- A record tells how the battle of the programs of the two entries ended. -/
  recorded : ∀ r ∈ result.records, ∃ p q, entries[r.first]? = some p ∧ entries[r.second]? = some q ∧
    runBattle ⟨p.program, q.program⟩ r.level.arena config = .ok r.result
  /-- Records are ordered by the first seat, then by the second seat, then by the level. -/
  sorted : result.records.Pairwise fun a b =>
    a.first < b.first ∨ a.first = b.first ∧
      (a.second < b.second ∨ a.second = b.second ∧ a.level.number ≤ b.level.number)
  /-- Every entry has one standing, which the records account for, and the standings are ordered. -/
  ranked : ∃ ranking : List (Standing × Nat), ranking.map Prod.fst = result.standings ∧
    (ranking.map Prod.snd).Perm (List.range entries.length) ∧
    (∀ a ∈ ranking, a.1.Accounts entries result.records a.2 ∧
      a.1.played = 2 * (entries.length - 1) * levels.length) ∧
    ranking.Pairwise Standing.Ahead
  /-- Every match that was decided was won by one of its entries. -/
  sum_wins : (result.standings.map Standing.wins).sum =
    result.records.countP fun r => r.winner?.isSome
  /-- And it was lost by the other one. -/
  sum_losses : (result.standings.map Standing.losses).sum =
    result.records.countP fun r => r.winner?.isSome
  /-- All other matches were drawn by both. -/
  sum_draws : (result.standings.map Standing.draws).sum =
    2 * result.records.countP fun r => r.winner?.isNone

variable {entries : List Entry} {levels : List Level} {config : Config}

/-- The record of a match tells the battle of its two programs. -/
private theorem playMatch_eq_ok_iff {f : Fixture entries.length} {r : MatchRecord} :
    playMatch entries config f = .ok r ↔
      r.key = f.key ∧
        runBattle ⟨(entries.get f.first).program, (entries.get f.second).program⟩ f.level.arena
          config = .ok r.result := by
  obtain ⟨first, second, level, result⟩ := r
  have plays : playMatch entries config f =
      (runBattle ⟨(entries.get f.first).program, (entries.get f.second).program⟩ f.level.arena
        config).bind fun result => .ok ⟨f.first, f.second, f.level, result⟩ := rfl
  rw [plays]
  cases runBattle ⟨(entries.get f.first).program, (entries.get f.second).program⟩ f.level.arena
    config with
  | error error => simp [Except.bind]
  | ok result' => simp [Except.bind, MatchRecord.key, Fixture.key, eq_comm, and_assoc]

variable (config) in
/-- A tournament is finished with the records of its schedule. -/
theorem exists_runTournament_eq (enough : 2 ≤ entries.length) (someLevel : levels ≠ []) :
    ∃ record : Fixture entries.length → MatchRecord,
      (∀ f, playMatch entries config f = .ok (record f)) ∧
        runTournament entries levels config =
          (Tally.ofRecords entries ((schedule entries.length levels).map record)).finish := by
  obtain ⟨record, plays, -⟩ := exists_playMatch_eq_ok entries config
  refine ⟨record, plays, ?_⟩
  have counts : Tally.play entries config = fun t f => t.add (record f) := by
    funext t f
    rw [Tally.play, plays]
  rw [runTournament, if_neg (Nat.not_lt.mpr enough), if_neg (by simpa using someLevel), counts,
    Tally.start_eq, ← List.foldl_map (f := record) (g := Tally.add), Tally.foldl_add_ofRecords,
    List.nil_append]

/-- Every entry plays twice against every opponent on every level. -/
private theorem seatings_schedule {record : Fixture entries.length → MatchRecord}
    (keys : ∀ f, (record f).key = f.key) (entry : Fin entries.length) :
    seatings (fun _ _ => true) entry ((schedule entries.length levels).map record) =
      2 * (entries.length - 1) * levels.length := by
  have first (f : Fixture entries.length) : (record f).first = entry.val ↔ f.first = entry := by
    rw [Fin.ext_iff]
    exact Eq.congr_left (congrArg Prod.fst (keys f))
  have second (f : Fixture entries.length) : (record f).second = entry.val ↔ f.second = entry := by
    rw [Fin.ext_iff]
    exact Eq.congr_left (congrArg (·.2.1) (keys f))
  simp only [seatings, Bool.and_true, List.countP_map, Function.comp_def, first, second,
    countP_first, countP_second]
  rw [← Nat.two_mul, Nat.mul_assoc]

/-- The counts of all standings together, whatever the order in which they are listed. -/
private theorem sum_map_standings (count : Standing → Nat) (passes : Side → Option Side → Bool)
    (test : Option Side → Bool) (k : Nat)
    (counts : ∀ name entry, count (Standing.ofRecords name entry records).award =
      seatings passes entry records)
    (each : ∀ w, (passes .first w).toNat + (passes .second w).toNat = k * (test w).toNat)
    (inside : ∀ r ∈ records, r.first < entries.length ∧ r.second < entries.length) :
    ((((Tally.standingsOf entries records).map Standing.award).mergeSort
      Standing.ranksBefore).map count).sum = k * records.countP fun r => test r.winner? := by
  -- Sums do not depend on the order, so the standings may be taken entry by entry.
  have unsorted := (List.mergeSort_perm ((Tally.standingsOf entries records).map Standing.award)
    Standing.ranksBefore).map count
  have listed : ((Tally.standingsOf entries records).map Standing.award).map count =
      (List.range entries.length).map fun entry => seatings passes entry records := by
    refine List.ext_getElem? fun entry => ?_
    rw [List.getElem?_map, List.getElem?_map, List.getElem?_map, Tally.standingsOf,
      List.getElem?_mapIdx]
    by_cases inside : entry < entries.length
    · rw [List.getElem?_eq_getElem inside, List.getElem?_range inside]
      exact congrArg some (counts _ _)
    · rw [List.getElem?_eq_none (Nat.not_lt.mp inside),
        List.getElem?_eq_none (by simpa using inside)]
      rfl
  calc _ = (((Tally.standingsOf entries records).map Standing.award).map count).sum :=
        unsorted.sum_eq
    _ = ∑ entry ∈ range entries.length, seatings passes entry records := congrArg List.sum listed
    _ = k * records.countP fun r => test r.winner? := sum_seatings inside each

/-- The records of a schedule, put into order, and the standings that they say are the result that
the tournament should have. -/
private theorem faithful_of_perm {record : Fixture entries.length → MatchRecord}
    (played : ∀ f, playMatch entries config f = .ok (record f))
    (perm : records.Perm ((schedule entries.length levels).map record))
    (sorted : records.Pairwise fun a b => a.listedBefore b) :
    TournamentResult.Faithful entries levels config
      ⟨((Tally.standingsOf entries records).map Standing.award).mergeSort Standing.ranksBefore,
        records⟩ := by
  have keys (f : Fixture entries.length) : (record f).key = f.key :=
    (playMatch_eq_ok_iff.mp (played f)).1
  -- Both tanks of a record are entries, so each record counts at two places of the table.
  have inside : ∀ r ∈ records, r.first < entries.length ∧ r.second < entries.length := by
    intro r hr
    obtain ⟨f, -, rfl⟩ := List.mem_map.mp (perm.mem_iff.mp hr)
    have first : (record f).first = f.first := congrArg Prod.fst (keys f)
    have second : (record f).second = f.second := congrArg (·.2.1) (keys f)
    omega
  constructor
  case length_records => rw [perm.length_eq, List.length_map, length_schedule]
  case count_key =>
    intro first second level
    have sameKeys : (records.map MatchRecord.key).Perm
        ((schedule entries.length levels).map Fixture.key) := by
      have mapped := perm.map MatchRecord.key
      rwa [List.map_map, show MatchRecord.key ∘ record = Fixture.key from funext keys] at mapped
    rw [sameKeys.count_eq, count_key_schedule]
  case recorded =>
    intro r hr
    obtain ⟨f, -, rfl⟩ := List.mem_map.mp (perm.mem_iff.mp hr)
    obtain ⟨key, ran⟩ := playMatch_eq_ok_iff.mp (played f)
    obtain ⟨first, second, level⟩ : (record f).first = f.first ∧ (record f).second = f.second ∧
        (record f).level = f.level := by simpa [MatchRecord.key, Fixture.key] using key
    refine ⟨entries[f.first], entries[f.second], ?_, ?_, ?_⟩
    · rw [first]
      exact List.getElem?_eq_getElem f.first.isLt
    · rw [second]
      exact List.getElem?_eq_getElem f.second.isLt
    · rw [level]
      exact ran
  case sorted => exact sorted.imp fun {a b} before => MatchRecord.listedBefore_iff.mp before
  case ranked =>
    -- The number that the ranking carries along with a standing is the one of its entry.
    refine ⟨Standing.ranking ((Tally.standingsOf entries records).map Standing.award),
      Standing.map_fst_ranking, ?_, ?_, Standing.pairwise_ahead_ranking⟩
    · have numbers := Standing.map_snd_ranking_perm
        ((Tally.standingsOf entries records).map Standing.award)
      rwa [List.length_map, Tally.standingsOf, List.length_mapIdx] at numbers
    · rintro ⟨s, entry⟩ listed
      rw [Standing.mem_ranking_iff, List.getElem?_map, Tally.standingsOf, List.getElem?_mapIdx,
        Option.map_map, Option.map_eq_some_iff] at listed
      obtain ⟨e, found, same⟩ := listed
      obtain ⟨lt, -⟩ : ∃ lt : entry < entries.length, entries[entry] = e :=
        List.getElem?_eq_some_iff.mp found
      obtain rfl : (Standing.ofRecords e.name entry records).award = s := same
      refine ⟨Standing.accounts_award found, ?_⟩
      calc seatings (fun _ _ => true) entry records
          = seatings (fun _ _ => true) entry ((schedule entries.length levels).map record) :=
            seatings_perm perm
        _ = 2 * (entries.length - 1) * levels.length := seatings_schedule keys ⟨entry, lt⟩
  -- Over all entries, a decided match counts once as won and once as lost, and a drawn one twice.
  case sum_wins =>
    have won := sum_map_standings Standing.wins
      (fun seat winner => winner = some seat) Option.isSome 1 (fun _ _ => rfl)
      (by rintro (_ | _ | _) <;> rfl) inside
    rwa [Nat.one_mul] at won
  case sum_losses =>
    have lost := sum_map_standings Standing.losses
      (fun seat winner => winner = some seat.other) Option.isSome 1 (fun _ _ => rfl)
      (by rintro (_ | _ | _) <;> rfl) inside
    rwa [Nat.one_mul] at lost
  case sum_draws =>
    exact sum_map_standings Standing.draws
      (fun _ winner => winner = none) Option.isNone 2 (fun _ _ => rfl)
      (by rintro (_ | _ | _) <;> rfl) inside

/-- **The books of a tournament are right.** With two entries at least and a level at least, every
tournament has a result, whatever the names and programs of the entries, the levels, of which some
may be chosen repeatedly, and the settings. -/
theorem runTournament_bookkeeping (entries : List Entry) (levels : List Level) (config : Config)
    (enough : 2 ≤ entries.length) (someLevel : levels ≠ []) :
    ∃ result, runTournament entries levels config = .ok result ∧
      result.Faithful entries levels config := by
  obtain ⟨record, played, ran⟩ := exists_runTournament_eq config enough someLevel
  -- The records are put into order, which does not change what is counted in them.
  have perm := List.mergeSort_perm ((schedule entries.length levels).map record)
    MatchRecord.listedBefore
  have sorted := List.pairwise_mergeSort MatchRecord.listedBefore_trans
    MatchRecord.listedBefore_total ((schedule entries.length levels).map record)
  refine ⟨_, ?_, faithful_of_perm played perm sorted⟩
  rw [ran, Tally.standingsOf_perm entries perm]
  rfl

/-- Two of three entries have the same name, and one level is played twice. -/
theorem runTournament_bookkeeping_namesakes :
    let entries : List Entry :=
      [⟨"a", ⟨[], .empty⟩⟩, ⟨"b", ⟨[⟨.fire, [], 1⟩], .empty⟩⟩, ⟨"a", ⟨[⟨.halt, [], 1⟩], .empty⟩⟩]
    let levels : List Level := [.scattered, .openField, .scattered]
    2 ≤ entries.length ∧ levels ≠ [] ∧
      ∃ result, runTournament entries levels {} = .ok result ∧ result.Faithful entries levels {} ∧
        result.records.length = 18 ∧
        (result.records.map MatchRecord.key).count (2, 0, .scattered) = 2 := by
  intro entries levels
  have enough : 2 ≤ entries.length := by decide
  have someLevel : levels ≠ [] := List.cons_ne_nil _ _
  obtain ⟨result, ran, faithful⟩ := runTournament_bookkeeping entries levels {} enough someLevel
  refine ⟨enough, someLevel, result, ran, faithful, faithful.length_records, ?_⟩
  rw [faithful.count_key]
  decide

end TankDuel

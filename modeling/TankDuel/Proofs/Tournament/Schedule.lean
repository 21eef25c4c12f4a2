import Mathlib.Algebra.BigOperators.Fin
import TankDuel.Tournament.Basic

/-!
# Counting the matches of a schedule

A schedule is made by three loops, one inside the other. How many of its matches pass a test is
therefore a sum over the seats and the levels (`countP_schedule`), and all counts come from this
one:

* `length_schedule` — how many matches there are;
* `countP_first`, `countP_second` — how often an entry sits in a seat;
* `count_key_schedule` — how often a match is played: as often as its level was chosen, if it is a
  match between two different entries, and else never.
-/

namespace TankDuel

/-- Who is to play in which seat, and where. -/
def Fixture.key {n : Nat} (f : Fixture n) : Nat × Nat × Level := (f.first, f.second, f.level)

variable {n : Nat} {levels : List Level}

/-- Every entry meets every other one on every level. -/
private theorem mem_schedule_iff {f : Fixture n} :
    f ∈ schedule n levels ↔ f.first ≠ f.second ∧ f.level ∈ levels := by
  obtain ⟨first, second, level⟩ := f
  rw [schedule, List.mem_flatMap]
  constructor
  · rintro ⟨first', -, inRow⟩
    obtain ⟨second', opponent, inCell⟩ := List.mem_flatMap.mp inRow
    obtain ⟨level', chosen, same⟩ := List.mem_map.mp inCell
    obtain ⟨rfl, rfl, rfl⟩ := Fixture.mk.inj same
    exact ⟨Ne.symm (by simpa using opponent), chosen⟩
  · rintro ⟨apart, chosen⟩
    refine ⟨first, List.mem_finRange _, List.mem_flatMap.mpr ⟨second, ?_, ?_⟩⟩
    · simpa using Ne.symm apart
    · exact List.mem_map_of_mem chosen

/-- **Counting matches** is counting levels for each pair of different entries. -/
theorem countP_schedule (passes : Fixture n → Bool) :
    (schedule n levels).countP passes =
      ∑ first, ∑ second,
        if second ≠ first then levels.countP fun level => passes ⟨first, second, level⟩ else 0 := by
  rw [schedule, List.countP_flatMap, Fin.sum_univ_def]
  refine congrArg List.sum (List.map_congr_left fun first _ => ?_)
  rw [Function.comp_apply, List.countP_flatMap, Fin.sum_univ_def, List.sum_map_ite,
    List.sum_map_zero, Nat.add_zero]
  exact congrArg List.sum (List.map_congr_left fun second _ => List.countP_map)

/-- Everyone has all others as opponents. -/
private theorem sum_opponents (entry : Fin n) (k : Nat) :
    (∑ other, if other ≠ entry then k else 0) = (n - 1) * k := by
  simp [Finset.sum_ite, Finset.filter_ne']

/-- **The number of matches**: each pair meets twice on each level. -/
theorem length_schedule : (schedule n levels).length = n * (n - 1) * levels.length := by
  rw [← List.countP_true, countP_schedule]
  simp only [List.countP_true, sum_opponents, Finset.sum_const, Finset.card_univ,
    Fintype.card_fin, smul_eq_mul, Nat.mul_assoc]

/-- Each entry has the first seat against every other one on every level. -/
theorem countP_first (entry : Fin n) :
    ((schedule n levels).countP fun f => f.first = entry) = (n - 1) * levels.length := by
  rw [countP_schedule, Finset.sum_eq_single entry]
  · simp only [decide_true, List.countP_true, sum_opponents]
  · intro other _ apart
    simp [apart]
  · exact fun absent => absurd (Finset.mem_univ entry) absent

/-- Each entry has the second seat against every other one on every level. -/
theorem countP_second (entry : Fin n) :
    ((schedule n levels).countP fun f => f.second = entry) = (n - 1) * levels.length := by
  -- The seats change places in the sum.
  rw [countP_schedule, Finset.sum_comm, Finset.sum_eq_single entry]
  · simp only [decide_true, List.countP_true, ne_comm (a := entry), sum_opponents]
  · intro other _ apart
    simp [apart]
  · exact fun absent => absurd (Finset.mem_univ entry) absent

/-- **How often a match is played.** -/
theorem count_key_schedule (first second : Nat) (level : Level) :
    ((schedule n levels).map Fixture.key).count (first, second, level) =
      if first < n ∧ second < n ∧ first ≠ second then levels.count level else 0 := by
  split
  next inside =>
    obtain ⟨firstLt, secondLt, apart⟩ := inside
    -- All terms of the sum but one are zero.
    rw [List.count, List.countP_map, countP_schedule, Finset.sum_eq_single ⟨first, firstLt⟩,
      Finset.sum_eq_single ⟨second, secondLt⟩]
    · rw [if_pos (by simpa [Fin.ext_iff] using Ne.symm apart), List.count]
      exact List.countP_congr fun l _ => by simp [Fixture.key]
    · intro other _ different
      simp [Fixture.key, Fin.ext_iff.not.mp different]
    · exact fun absent => absurd (Finset.mem_univ _) absent
    · intro other _ different
      simp [Fixture.key, Fin.ext_iff.not.mp different]
    · exact fun absent => absurd (Finset.mem_univ _) absent
  next outside =>
    rw [List.count_eq_zero]
    intro listed
    obtain ⟨f, scheduled, same⟩ := List.mem_map.mp listed
    obtain ⟨rfl, rfl, rfl⟩ : f.first.val = first ∧ f.second.val = second ∧ f.level = level := by
      simpa [Fixture.key] using same
    have apart := (mem_schedule_iff.mp scheduled).1
    exact outside ⟨f.first.isLt, f.second.isLt, fun same => apart (Fin.ext same)⟩

end TankDuel

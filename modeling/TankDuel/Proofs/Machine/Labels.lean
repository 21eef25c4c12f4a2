import Mathlib.Data.List.Nodup
import TankDuel.Machine.Program

/-!
# Label tables as finite maps

A label table is kept as an ascending list. What it is good for is said by `Labels.find?` alone:

* `Labels.find?_insert` — inserting changes what is found under one name, and nothing else;
* `Labels.ext_find?` — two tables in which the same is found under every name are the same table.

Both go through `Labels.find?_eq_some_iff`: what is found is what is listed, since no name is listed
twice.
-/

namespace TankDuel

namespace Labels

variable {labels labels' : Labels} {name other : String} {target : Nat}

/-- No name is in the table twice. -/
theorem nodup_names (labels : Labels) : (labels.entries.map Prod.fst).Nodup :=
  List.pairwise_map.mpr (labels.ascending.imp fun {a b} (less : a.1 < b.1) (same : a.1 = b.1) =>
    String.lt_irrefl b.1 (same ▸ less))

/-- **What is found is what is listed.** -/
theorem find?_eq_some_iff : labels.find? name = some target ↔ (name, target) ∈ labels.entries := by
  rw [find?, Option.map_eq_some_iff]
  constructor
  · rintro ⟨entry, found, rfl⟩
    have named : entry.1 = name := by simpa using List.find?_some found
    rw [← named]
    exact List.mem_of_find?_eq_some found
  · intro listed
    have defined : (labels.entries.find? fun entry => entry.1 = name).isSome :=
      List.find?_isSome.mpr ⟨_, listed, by simp⟩
    obtain ⟨entry, found⟩ := Option.isSome_iff_exists.mp defined
    have named : entry.1 = name := by simpa using List.find?_some found
    -- It is the entry that is listed, for no other one has the name.
    have same : entry = (name, target) :=
      List.inj_on_of_nodup_map labels.nodup_names (List.mem_of_find?_eq_some found) listed named
    exact ⟨entry, found, congrArg Prod.snd same⟩

/-- **A table is determined by what is found in it.** -/
theorem ext_find? (h : ∀ name, labels.find? name = labels'.find? name) : labels = labels' := by
  have perm : labels.entries.Perm labels'.entries := by
    refine (List.perm_ext_iff_of_nodup (.of_map _ labels.nodup_names)
      (.of_map _ labels'.nodup_names)).mpr ?_
    rintro ⟨name, target⟩
    rw [← find?_eq_some_iff, h, find?_eq_some_iff]
  -- Two ascending lists with the same entries list them in the same order.
  have same : labels.entries = labels'.entries :=
    perm.eq_of_pairwise (fun _ _ _ _ less more => absurd more (String.lt_asymm less))
      labels.ascending labels'.ascending
  obtain ⟨entries, _⟩ := labels
  obtain ⟨entries', _⟩ := labels'
  obtain rfl : entries = entries' := same
  rfl

/-- Nothing is found in an empty table. -/
@[simp] theorem find?_empty : empty.find? name = none := rfl

/-- **What is in the table after an entry is made**: this entry, and the others under other names.
-/
theorem mem_insertInto_iff {entry : String × Nat} {l : List (String × Nat)}
    (h : l.Pairwise fun a b => a.1 < b.1) :
    entry ∈ insertInto name target l ↔ entry = (name, target) ∨ entry.1 ≠ name ∧ entry ∈ l := by
  induction l with
  | nil => simp [insertInto]
  | cons first rest ih =>
    obtain ⟨below, rising⟩ := List.pairwise_cons.mp h
    rw [insertInto]
    split
    next less =>
      -- All entries come after the new one, so none of them has its name.
      have apart : ∀ e ∈ first :: rest, e.1 ≠ name := by
        intro e he same
        rcases List.mem_cons.mp he with rfl | he
        · exact String.lt_irrefl _ (same ▸ less)
        · exact String.lt_asymm less (same ▸ below e he)
      rw [List.mem_cons]
      exact or_congr_right ⟨fun he => ⟨apart entry he, he⟩, And.right⟩
    next notLess =>
      split
      next same =>
        -- The first entry is the old one of the name, and no later entry has it.
        subst same
        have apart : ∀ e ∈ rest, e.1 ≠ first.1 :=
          fun e he same => String.lt_irrefl _ (same ▸ below e he)
        rw [List.mem_cons, List.mem_cons]
        refine or_congr_right ⟨fun he => ⟨apart entry he, .inr he⟩, ?_⟩
        rintro ⟨renamed, rfl | he⟩
        · exact absurd rfl renamed
        · exact he
      next differs =>
        -- The first entry stays, and the new one goes into the rest.
        rw [List.mem_cons, ih rising, List.mem_cons, or_left_comm]
        refine or_congr_right ⟨?_, ?_⟩
        · rintro (rfl | ⟨apart, he⟩)
          · exact ⟨Ne.symm differs, .inl rfl⟩
          · exact ⟨apart, .inr he⟩
        · rintro ⟨apart, rfl | he⟩
          · exact .inl rfl
          · exact .inr ⟨apart, he⟩

/-- A name is found with the address that it was entered with last. -/
theorem find?_insert (labels : Labels) (name : String) (target : Nat) (other : String) :
    (labels.insert name target).find? other =
      if other = name then some target else labels.find? other := by
  ext found
  rw [find?_eq_some_iff, insert, mem_insertInto_iff labels.ascending, ← find?_eq_some_iff]
  split
  next same => simp [same, eq_comm]
  next differs => simp [differs]

end Labels

end TankDuel

import Mathlib.Data.List.Forall2

/-!
# Steps that may fail, and partners along a list

Two steps in a row succeed where both do (`bind_eq_ok_iff`), and a step that is taken along a list
succeeds where it does at every member (`mapM_eq_ok_iff`). The results then stand one by one beside
what they were made from, and the last two lemmas go from such a pair of lists to its members and
back. What fails, fails at the first member that it fails at (`exists_of_mapM_eq_error`).
-/

namespace TankDuel

variable {ε α β : Type}

/-- What is left of a result without its error. -/
theorem toOption_eq_some_iff {x : Except ε α} {a : α} : x.toOption = some a ↔ x = .ok a := by
  cases x with
  | error e => exact ⟨nofun, nofun⟩
  | ok b =>
    change some b = some a ↔ _
    rw [Option.some.injEq, Except.ok.injEq]

/-- What comes out of two steps in a row comes out of the second one. -/
theorem bind_eq_ok_iff {x : Except ε α} {f : α → Except ε β} {b : β} :
    (x >>= f) = .ok b ↔ ∃ a, x = .ok a ∧ f a = .ok b := by
  cases x with
  | error e => exact ⟨nofun, fun ⟨_, h, _⟩ => absurd h (by simp)⟩
  -- The first step is done, so everything hangs on the second.
  | ok a => exact ⟨fun h => ⟨a, rfl, h⟩, fun ⟨_, same, h⟩ => Except.ok.inj same ▸ h⟩

/-- Two steps in a row fail at one of them. -/
theorem bind_eq_error_iff {x : Except ε α} {f : α → Except ε β} {e : ε} :
    (x >>= f) = .error e ↔ x = .error e ∨ ∃ a, x = .ok a ∧ f a = .error e := by
  cases x with
  | error e' => simp [bind, Except.bind]
  | ok a => simp [bind, Except.bind]

/-- Going through a list succeeds where each step does. -/
theorem mapM_eq_ok_iff {f : α → Except ε β} {l : List α} {l' : List β} :
    l.mapM f = .ok l' ↔ List.Forall₂ (fun a b => f a = .ok b) l l' := by
  induction l generalizing l' with
  | nil =>
    rw [List.mapM_nil, List.forall₂_nil_left_iff]
    exact ⟨fun h => (Except.ok.inj h).symm, fun h => h ▸ rfl⟩
  | cons a l ih =>
    rw [List.mapM_cons, bind_eq_ok_iff, List.forall₂_cons_left_iff]
    -- What the first member gives is fixed on both sides; the rest is the induction hypothesis.
    refine exists_congr fun b => ?_
    rw [bind_eq_ok_iff]
    constructor
    · rintro ⟨head, bs, tail, h⟩
      exact ⟨bs, head, ih.mp tail, (Except.ok.inj h).symm⟩
    · rintro ⟨bs, head, tail, rfl⟩
      exact ⟨head, bs, ih.mpr tail, rfl⟩

/-- Going through a list fails at the first step that does. -/
theorem exists_of_mapM_eq_error {f : α → Except ε β} {l : List α} {e : ε}
    (failed : l.mapM f = .error e) :
    ∃ before a after, l = before ++ a :: after ∧ (∀ b ∈ before, ∃ c, f b = .ok c) ∧
      f a = .error e := by
  induction l with
  | nil => exact absurd failed (by simp [pure, Except.pure])
  | cons a l ih =>
    rw [List.mapM_cons, bind_eq_error_iff] at failed
    rcases failed with here | ⟨c, done, failed⟩
    · exact ⟨[], a, l, rfl, nofun, here⟩
    -- The first member went through. Putting the results together cannot fail, so a later one did.
    · rcases bind_eq_error_iff.mp failed with later | ⟨_, _, impossible⟩
      · obtain ⟨before, b, after, rfl, passed, here⟩ := ih later
        refine ⟨a :: before, b, after, rfl, fun a' ha' => ?_, here⟩
        rcases List.mem_cons.mp ha' with rfl | ha'
        · exact ⟨c, done⟩
        · exact passed a' ha'
      · cases impossible

/-- If each member of a list has a partner, there is a list of partners. -/
theorem exists_forall₂ {R : α → β → Prop} {l : List α} (h : ∀ a ∈ l, ∃ b, R a b) :
    ∃ l', List.Forall₂ R l l' := by
  induction l with
  | nil => exact ⟨[], .nil⟩
  | cons a l ih =>
    obtain ⟨b, head⟩ := h a List.mem_cons_self
    obtain ⟨l', tail⟩ := ih fun a ha => h a (List.mem_cons_of_mem _ ha)
    exact ⟨b :: l', .cons head tail⟩

/-- Every member has a partner. -/
theorem exists_of_forall₂ {R : α → β → Prop} {l : List α} {l' : List β}
    (h : List.Forall₂ R l l') : ∀ a ∈ l, ∃ b ∈ l', R a b := by
  induction h with
  | nil => exact nofun
  | cons head _ ih =>
    intro a ha
    rcases List.mem_cons.mp ha with rfl | ha
    · exact ⟨_, List.mem_cons_self, head⟩
    · obtain ⟨b, hb, related⟩ := ih a ha
      exact ⟨b, List.mem_cons_of_mem _ hb, related⟩

end TankDuel

import TankDuel.Arena.Ray

/-!
# What a ray tells

A ray is told as a distance and a code. The code of a tank does not say which tank it is, so rays
that are stopped at the same cells by things of the same codes tell the same (`Grid.castRay_congr`).
Only one tank is ever told of anyway: the one that looks does not see itself.
-/

namespace TankDuel

/-- What a ray tells the tank that has cast it. -/
def Ray.told {ι : Type} (ray : Ray ι) : Int × Int := (ray.distance, ray.hit.code)

namespace Grid

variable {ι κ : Type}

/-- Rays that are stopped by the same codes on the same cells tell the same. -/
private theorem castFrom_congr {stop : Coord → Option (RayHit ι)}
    {stop' : Coord → Option (RayHit κ)}
    (h : ∀ c, (stop' c).map RayHit.code = (stop c).map RayHit.code) (dx dy : Int) (cells : Nat)
    (c : Coord) (distance : Int) :
    (castFrom stop' dx dy cells c distance).told = (castFrom stop dx dy cells c distance).told := by
  induction cells generalizing c distance with
  | zero => rfl
  | succ cells ih =>
    have here := h c
    rw [castFrom, castFrom]
    cases stopped : stop c with
    -- Neither ray is stopped here, and both go on with one cell less.
    | none =>
      rw [stopped, Option.map_none, Option.map_eq_none_iff] at here
      rw [here]
      exact ih _ _
    -- The other ray is stopped here too, by something of the same code.
    | some hit =>
      rw [stopped, Option.map_some, Option.map_eq_some_iff] at here
      obtain ⟨hit', stopped', sameCode⟩ := here
      rw [stopped', Ray.told, Ray.told, sameCode]

/-- **Rays tell codes only.** -/
theorem castRay_congr [DecidableEq ι] [DecidableEq κ] {g : Grid} {viewer : ι} {viewer' : κ}
    {occupants : List (ι × Coord)} {occupants' : List (κ × Coord)}
    (h : ∀ c, (g.obstacle? viewer' occupants' c).map RayHit.code =
      (g.obstacle? viewer occupants c).map RayHit.code) (origin : Coord) (dx dy : Int) :
    (g.castRay origin dx dy viewer' occupants').told =
      (g.castRay origin dx dy viewer occupants).told := by
  unfold castRay
  split
  · rfl
  · exact castFrom_congr h ..

end Grid

end TankDuel

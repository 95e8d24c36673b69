/-
  Foundation/Interpolation.lean --- linear interpolation between the members of a
  sequence.

  WHAT THIS FILE IS FOR

  `lerp f x` is the value of the polygon through the points `(i, f i)`.  Between two
  integers it lies between their values, so for a monotone sequence it is monotone:
  two positions in one segment are compared along its slope, and any others through
  the integers between them.
-/
import Mathlib.Algebra.Order.Floor.Semiring
import Mathlib.Algebra.Order.Field.Basic
import Mathlib.Tactic.Linarith
import Mathlib.Tactic.GCongr

set_option autoImplicit false

namespace MeshtasticLab.Foundation

variable {K : Type} [Field K] [LinearOrder K] [FloorSemiring K]

/-- The polygon through the members of a sequence. -/
def lerp (f : Nat → K) (x : K) : K :=
  f ⌊x⌋₊ + (f (⌊x⌋₊ + 1) - f ⌊x⌋₊) * (x - ⌊x⌋₊)

variable {f : Nat → K} {x y : K}

/-- At an integer the polygon has the member. -/
theorem lerp_of_floor (hx : x = (⌊x⌋₊ : K)) : lerp f x = f ⌊x⌋₊ := by
  simp [lerp, ← hx]

variable [IsStrictOrderedRing K]

@[simp] theorem lerp_natCast (f : Nat → K) (n : Nat) : lerp f n = f n := by
  simp [lerp]

section Monotone

variable (hf : Monotone f)

include hf

theorem le_lerp (hx : 0 ≤ x) : f ⌊x⌋₊ ≤ lerp f x := by
  have hslope : 0 ≤ f (⌊x⌋₊ + 1) - f ⌊x⌋₊ := sub_nonneg.mpr (hf (Nat.le_succ _))
  have hpart : 0 ≤ x - (⌊x⌋₊ : K) := sub_nonneg.mpr (Nat.floor_le hx)
  exact le_add_of_nonneg_right (mul_nonneg hslope hpart)

theorem lerp_le : lerp f x ≤ f (⌊x⌋₊ + 1) := by
  have hslope : 0 ≤ f (⌊x⌋₊ + 1) - f ⌊x⌋₊ := sub_nonneg.mpr (hf (Nat.le_succ _))
  have hpart : x - (⌊x⌋₊ : K) ≤ 1 := by
    have hbelow := Nat.lt_floor_add_one x
    linarith
  calc lerp f x = f ⌊x⌋₊ + (f (⌊x⌋₊ + 1) - f ⌊x⌋₊) * (x - ⌊x⌋₊) := rfl
    _ ≤ f ⌊x⌋₊ + (f (⌊x⌋₊ + 1) - f ⌊x⌋₊) * 1 := by gcongr
    _ = f (⌊x⌋₊ + 1) := by rw [mul_one, add_sub_cancel]

/-- The polygon through a monotone sequence is monotone. -/
theorem lerp_mono (hx : 0 ≤ x) (hxy : x ≤ y) : lerp f x ≤ lerp f y := by
  rcases Nat.eq_or_lt_of_le (Nat.floor_mono hxy) with hsame | hless
  · have hslope : 0 ≤ f (⌊x⌋₊ + 1) - f ⌊x⌋₊ := sub_nonneg.mpr (hf (Nat.le_succ _))
    unfold lerp
    rw [← hsame]
    gcongr
  · calc lerp f x ≤ f (⌊x⌋₊ + 1) := lerp_le hf
      _ ≤ f ⌊y⌋₊ := hf hless
      _ ≤ lerp f y := le_lerp hf (hx.trans hxy)

/-- Up to a member the polygon stays between the first one and it. -/
theorem lerp_mem {n : Nat} (hx : 0 ≤ x) (hxn : x ≤ n) : f 0 ≤ lerp f x ∧ lerp f x ≤ f n := by
  constructor
  · exact (hf (Nat.zero_le _)).trans (le_lerp hf hx)
  · calc lerp f x ≤ lerp f n := lerp_mono hf hx hxn
      _ = f n := lerp_natCast f n

end Monotone

end MeshtasticLab.Foundation

import Mathlib.Algebra.Order.Round
import Mathlib.Tactic

/-!
Rounding to the multiples of `1 / n`, halves away from zero. It is odd, so each
fact about it is one about Mathlib's `round` on the side where `x` is not
negative.
-/

namespace Rounding

variable {α : Type*} [Field α] [LinearOrder α] [FloorRing α]

/-- The nearest multiple of `1 / n`, the one away from zero at a half. -/
def roundAway (n : ℕ) (x : α) : α :=
  if 0 ≤ x then (round (x * n) : α) / n else -((round (-x * n) : α) / n)

variable {n : ℕ} {x y : α}

theorem roundAway_of_nonneg (hx : 0 ≤ x) : roundAway n x = (round (x * n) : α) / n := if_pos hx

/-- What is rounded is on the grid. -/
theorem exists_roundAway (n : ℕ) (x : α) : ∃ k : ℤ, roundAway n x = k / n := by
  unfold roundAway
  split
  · exact ⟨_, rfl⟩
  · refine ⟨-round (-x * n), ?_⟩
    rw [Int.cast_neg, neg_div]

variable [IsStrictOrderedRing α]

@[simp] theorem roundAway_zero : roundAway n (0 : α) = 0 := by
  rw [roundAway_of_nonneg le_rfl, zero_mul, round_zero, Int.cast_zero, zero_div]

@[simp] theorem roundAway_neg (x : α) : roundAway n (-x) = -roundAway n x := by
  rcases lt_trichotomy x 0 with hneg | rfl | hpos
  · rw [roundAway_of_nonneg (neg_nonneg.mpr hneg.le), roundAway, if_neg (not_le.mpr hneg), neg_neg]
  · simp
  · rw [roundAway_of_nonneg hpos.le, roundAway, if_neg (not_le.mpr (neg_neg_of_pos hpos)), neg_neg]

theorem round_mono (hxy : x ≤ y) : round x ≤ round y := by
  rw [round_eq, round_eq]
  gcongr

theorem roundAway_nonneg (hx : 0 ≤ x) : 0 ≤ roundAway n x := by
  rw [roundAway_of_nonneg hx]
  have hround : round (0 : α) ≤ round (x * n) := round_mono (by positivity)
  rw [round_zero] at hround
  positivity

private theorem roundAway_mono_of_nonneg (hx : 0 ≤ x) (hxy : x ≤ y) :
    roundAway n x ≤ roundAway n y := by
  rw [roundAway_of_nonneg hx, roundAway_of_nonneg (hx.trans hxy)]
  have hround : round (x * n) ≤ round (y * n) := round_mono (by gcongr)
  gcongr

/-- Rounding keeps the order. -/
theorem roundAway_mono (n : ℕ) : Monotone (roundAway n : α → α) := by
  intro x y hxy
  rcases le_total 0 x with hx | hx
  · exact roundAway_mono_of_nonneg hx hxy
  rcases le_total 0 y with hy | hy
  · have hleft : 0 ≤ roundAway n (-x) := roundAway_nonneg (neg_nonneg.mpr hx)
    rw [roundAway_neg] at hleft
    exact (neg_nonneg.mp hleft).trans (roundAway_nonneg hy)
  · have hneg : roundAway n (-y) ≤ roundAway n (-x) :=
      roundAway_mono_of_nonneg (neg_nonneg.mpr hy) (neg_le_neg hxy)
    rw [roundAway_neg, roundAway_neg] at hneg
    exact neg_le_neg_iff.mp hneg

variable (hn : 0 < n)
include hn

/-- What is on the grid stays. -/
theorem roundAway_grid (k : ℤ) : roundAway n (k / n : α) = k / n := by
  have hne : (n : α) ≠ 0 := Nat.cast_ne_zero.mpr hn.ne'
  have hside {k : ℤ} (hk : 0 ≤ (k / n : α)) : roundAway n (k / n : α) = k / n := by
    rw [roundAway_of_nonneg hk, div_mul_cancel₀ _ hne, round_intCast]
  rcases le_total 0 (k / n : α) with hk | hk
  · exact hside hk
  · have hneg : -(k / n : α) = ((-k : ℤ) : α) / n := by
      rw [Int.cast_neg, neg_div]
    rw [← neg_neg (k / n : α), roundAway_neg, hneg, hside (by rw [← hneg]; exact neg_nonneg.mpr hk)]

/-- A point of the grid that is not above `x` is not above the rounded `x`. -/
theorem grid_le_roundAway {k : ℤ} (hk : (k / n : α) ≤ x) : (k / n : α) ≤ roundAway n x := by
  rw [← roundAway_grid hn k]
  exact roundAway_mono n hk

/-- Rounding moves nothing by more than half a step. -/
theorem abs_roundAway_sub_le (x : α) : |roundAway n x - x| ≤ 1 / (2 * n) := by
  have hpos : (0 : α) < n := Nat.cast_pos.mpr hn
  have hside {x : α} (hx : 0 ≤ x) : |roundAway n x - x| ≤ 1 / (2 * n) := by
    have hround := abs_sub_round (x * n)
    have hscale : roundAway n x - x = (round (x * n) - x * n) / n := by
      rw [roundAway_of_nonneg hx]
      field_simp
    rw [hscale, abs_div, abs_of_pos hpos, abs_sub_comm, div_le_div_iff₀ hpos (by positivity)]
    linarith [mul_le_mul_of_nonneg_right hround hpos.le]
  rcases le_total 0 x with hx | hx
  · exact hside hx
  · have hneg := hside (neg_nonneg.mpr hx)
    rwa [roundAway_neg, ← neg_sub', abs_neg] at hneg

end Rounding

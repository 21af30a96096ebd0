import AutoGrocery.Pricing

/-!
The price a cost and a stock level lead to. The margin falls from one stock band
to the next, and no margin is below one, so a price follows its cost and stays
above it. Rounding keeps both, since a cost in whole cents is on the grid.
-/

namespace AutoGrocery

open Rounding

/-- The margin of the stock band: scarce, plain or abundant. -/
def stockMargin (currentStock : Int) : ℚ :=
  if 0 < currentStock ∧ currentStock < 5 then 135 / 100
  else if 100 < currentStock then 110 / 100
  else 120 / 100

/-- The two adjustments of the code exclude each other. -/
theorem calculatePrice_eq (costPrice : ℚ) (currentStock : Int) :
    calculatePrice costPrice currentStock = roundAway 100 (costPrice * stockMargin currentStock) := by
  unfold calculatePrice stockMargin
  rw [← roundCents_eq]
  by_cases hscarce : 0 < currentStock ∧ currentStock < 5
  · have hplain : ¬ 100 < currentStock := by omega
    simp only [if_pos hscarce, if_neg hplain]
    norm_num
  · simp only [if_neg hscarce]
    split <;> norm_num

/-- No margin is below one. -/
theorem one_le_stockMargin (currentStock : Int) : 1 ≤ stockMargin currentStock := by
  unfold stockMargin
  split
  · norm_num
  · split <;> norm_num

/-- More stock has no higher margin, as long as there is any. -/
theorem stockMargin_antitone {s₁ s₂ : Int} (hpos : 1 ≤ s₁) (hle : s₁ ≤ s₂) :
    stockMargin s₂ ≤ stockMargin s₁ := by
  unfold stockMargin
  by_cases hscarce₁ : 0 < s₁ ∧ s₁ < 5
  · rw [if_pos hscarce₁]
    split
    · norm_num
    · split <;> norm_num
  · have hscarce₂ : ¬ (0 < s₂ ∧ s₂ < 5) := by omega
    rw [if_neg hscarce₁, if_neg hscarce₂]
    by_cases habundant : 100 < s₁
    · rw [if_pos habundant, if_pos (by omega)]
    · rw [if_neg habundant]
      split <;> norm_num

section

variable {costPrice : ℚ}

theorem calculatePrice_mono (currentStock : Int) :
    Monotone fun costPrice => calculatePrice costPrice currentStock := by
  intro c₁ c₂ hcost
  have hmargin : 0 ≤ stockMargin currentStock := zero_le_one.trans (one_le_stockMargin currentStock)
  simp only [calculatePrice_eq]
  apply roundAway_mono 100
  gcongr

theorem calculatePrice_antitone_stock (hcost : 0 ≤ costPrice) {s₁ s₂ : Int} (hpos : 1 ≤ s₁) (hle : s₁ ≤ s₂) :
    calculatePrice costPrice s₂ ≤ calculatePrice costPrice s₁ := by
  rw [calculatePrice_eq, calculatePrice_eq]
  apply roundAway_mono 100
  exact mul_le_mul_of_nonneg_left (stockMargin_antitone hpos hle) hcost

end

/-- **Prices are ordered and never below cost.** -/
theorem calculatePrice_ordered :
    (∀ (c₁ c₂ : ℚ) (currentStock : Int), 0 ≤ c₁ → c₁ ≤ c₂ →
      calculatePrice c₁ currentStock ≤ calculatePrice c₂ currentStock) ∧
    (∀ (costPrice : ℚ) (s₁ s₂ : Int), 0 ≤ costPrice → 1 ≤ s₁ → s₁ ≤ s₂ →
      calculatePrice costPrice s₂ ≤ calculatePrice costPrice s₁) ∧
    ∀ (costPrice : ℚ) (currentStock : Int), 0 ≤ costPrice → (∃ cents : ℤ, costPrice = cents / 100) →
      (∃ cents : ℤ, calculatePrice costPrice currentStock = cents / 100) ∧
      costPrice ≤ calculatePrice costPrice currentStock ∧
      |calculatePrice costPrice currentStock - costPrice * stockMargin currentStock| ≤ 1 / 200 := by
  refine ⟨fun c₁ c₂ currentStock _ hcost => calculatePrice_mono currentStock hcost,
    fun costPrice s₁ s₂ hcost hpos hle => calculatePrice_antitone_stock hcost hpos hle,
    fun costPrice currentStock hcost hcents => ?_⟩
  obtain ⟨cents, rfl⟩ := hcents
  rw [calculatePrice_eq]
  refine ⟨exists_roundAway 100 _, ?_, ?_⟩
  · apply grid_le_roundAway (by decide)
    exact le_mul_of_one_le_right hcost (one_le_stockMargin currentStock)
  · have hstep := abs_roundAway_sub_le (n := 100) (by decide)
      ((cents : ℚ) / 100 * stockMargin currentStock)
    norm_num at hstep ⊢
    exact hstep

/-- At a cost of three cents and in the highest band the whole margin is rounded away,
and the price is the cost. -/
theorem calculatePrice_ordered_sample :
    calculatePrice (3 / 100) 5 ≤ calculatePrice (4 / 100) 5 ∧
      calculatePrice (3 / 100) 101 ≤ calculatePrice (3 / 100) 5 ∧
      3 / 100 ≤ calculatePrice (3 / 100) 101 := by
  obtain ⟨hcost, hstock, hcents⟩ := calculatePrice_ordered
  refine ⟨hcost _ _ _ (by norm_num) (by norm_num), hstock _ _ _ (by norm_num) (by decide) (by decide), ?_⟩
  exact (hcents (3 / 100) 101 (by norm_num) ⟨3, by norm_num⟩).2.1

end AutoGrocery

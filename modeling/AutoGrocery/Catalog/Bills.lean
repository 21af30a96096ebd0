import AutoGrocery.Pricing
import AutoGrocery.Relational.Regroup

/-!
What `CalculateBill` answers for a cart. The caller ranges over a Go map, so the
lines come in any order; the grand total depends on neither their order nor their
grouping, since it is a sum by SKU.
-/

namespace AutoGrocery

open Interleaving Relational

/-- Carts that ask for the same units of each SKU, line by line or put together. -/
abbrev SameCart := Regroups CartItem.sku fun line => line.quantity.toInt

/-- What a number of units of a SKU costs, additive in the number. -/
def Catalog.charge (catalog : Catalog) (sku : SKU) : ℤ →+ ℚ :=
  (AddMonoidHom.mulLeft (catalog.price sku)).comp (Int.castAddHom ℚ)

/-- The grand total of a bill, and `none` for an error. -/
def grandTotal (bill : Except GoError CalculateBillResponse) : Option ℚ :=
  bill.toOption.map CalculateBillResponse.grandTotal

/-- A bill that works, in full. -/
theorem calculateBill_answer (catalog : Catalog) (cart : List CartItem) :
    let outcome := (PricingHandler.calculateBill cart).run (pricingExec .works) catalog
    ((∀ line ∈ cart, line.sku ∈ catalog.rows) → ∃ resp, outcome.value = .ok resp ∧
      resp.items = cart.map catalog.lineItem ∧
      resp.grandTotal = (cart.map fun line => catalog.price line.sku * line.quantity.toInt).sum) ∧
    (¬ (∀ line ∈ cart, line.sku ∈ catalog.rows) → ∃ err, outcome.value = .error err) := by
  intro outcome
  have hvalue : outcome.value =
      PricingHandler.billLines (catalog.getItemsBySKUs (cart.map CartItem.sku)) cart ⟨[], 0⟩ := rfl
  obtain ⟨hall, hmissing⟩ := PricingHandler.billLines_spec catalog cart
    (fun line => List.mem_map_of_mem) ⟨[], 0⟩
  rw [hvalue]
  constructor
  · intro hlisted
    obtain ⟨resp, hresp, hitems, htotal⟩ := hall hlisted
    exact ⟨resp, hresp, hitems, htotal.trans (zero_add _)⟩
  · intro hnot
    push Not at hnot
    exact hmissing hnot

/-- Whether there is a bill, and its grand total. -/
theorem calculateBill_grandTotal (catalog : Catalog) (cart : List CartItem) :
    grandTotal ((PricingHandler.calculateBill cart).run (pricingExec .works) catalog).value =
      if ∀ sku ∈ cart.map CartItem.sku, sku ∈ catalog.rows then
        some (cart.map fun line => catalog.charge line.sku line.quantity.toInt).sum else none := by
  obtain ⟨hbilled, hrefused⟩ := calculateBill_answer catalog cart
  have hkeys : (∀ sku ∈ cart.map CartItem.sku, sku ∈ catalog.rows) ↔
      ∀ line ∈ cart, line.sku ∈ catalog.rows := List.forall_mem_map
  by_cases hlisted : ∀ line ∈ cart, line.sku ∈ catalog.rows
  · obtain ⟨resp, hresp, _, htotal⟩ := hbilled hlisted
    rw [if_pos (hkeys.mpr hlisted), hresp]
    exact congrArg some htotal
  · obtain ⟨err, herr⟩ := hrefused hlisted
    rw [if_neg (mt hkeys.mp hlisted), herr]
    rfl

/-- **A bill is exact.** It is made when the catalog lists every line, line by line at
the catalog's prices. Carts that are the same up to order and grouping have the same
grand total or both have none. -/
theorem calculateBill_exact (catalog : Catalog) (cart : List CartItem) :
    let outcome (cart : List CartItem) :=
      (PricingHandler.calculateBill cart).run (pricingExec .works) catalog
    (outcome cart).state = catalog ∧
    ((∃ resp, (outcome cart).value = .ok resp) ↔ ∀ line ∈ cart, line.sku ∈ catalog.rows) ∧
    (∀ resp, (outcome cart).value = .ok resp →
      resp.items = cart.map (fun line =>
        ⟨line.sku, catalog.price line.sku, line.quantity, line.quantity.toInt * catalog.price line.sku⟩) ∧
      resp.grandTotal = (resp.items.map LineItem.totalPrice).sum) ∧
    ∀ cart', SameCart cart cart' →
      grandTotal (outcome cart').value = grandTotal (outcome cart).value := by
  intro outcome
  obtain ⟨hbilled, hrefused⟩ := calculateBill_answer catalog cart
  refine ⟨rfl, ⟨fun ⟨resp, hresp⟩ => ?_, fun hlisted => ?_⟩, fun resp hresp => ?_, fun cart' hsame => ?_⟩
  · by_contra hnot
    obtain ⟨err, herr⟩ := hrefused hnot
    cases hresp.symm.trans herr
  · obtain ⟨resp, hresp, _⟩ := hbilled hlisted
    exact ⟨resp, hresp⟩
  · have hlisted : ∀ line ∈ cart, line.sku ∈ catalog.rows := by
      by_contra hnot
      obtain ⟨err, herr⟩ := hrefused hnot
      cases hresp.symm.trans herr
    obtain ⟨billed, hbill, hitems, htotal⟩ := hbilled hlisted
    obtain rfl : billed = resp := Except.ok.inj (hbill.symm.trans hresp)
    constructor
    · rw [hitems]
      apply List.map_congr_left
      intro line _
      rw [Catalog.lineItem, mul_comm]
    · rw [htotal, hitems, List.map_map]
      rfl
  · have hkeys : (∀ sku ∈ cart'.map CartItem.sku, sku ∈ catalog.rows) ↔
        ∀ sku ∈ cart.map CartItem.sku, sku ∈ catalog.rows :=
      forall_congr' fun sku => imp_congr_left (hsame.keys sku).symm
    show grandTotal _ = grandTotal _
    rw [calculateBill_grandTotal, calculateBill_grandTotal, hsame.sum_eq catalog.charge]
    simp only [hkeys]

/-- Two lines of milk around one of eggs cost what one line of milk after the eggs does. -/
theorem calculateBill_exact_sample :
    let catalog : Catalog := ⟨(∅ : Table SKU CatalogRow).insert "milk" ⟨1, 5 / 4⟩ |>.insert "eggs" ⟨2, 3⟩, 3⟩
    let outcome (cart : List CartItem) :=
      (PricingHandler.calculateBill cart).run (pricingExec .works) catalog
    grandTotal (outcome [⟨"milk", 5⟩, ⟨"eggs", 1⟩]).value =
      grandTotal (outcome [⟨"milk", 2⟩, ⟨"eggs", 1⟩, ⟨"milk", 3⟩]).value := by
  intro catalog outcome
  have hsorted : SameCart [⟨"milk", 2⟩, ⟨"eggs", 1⟩, ⟨"milk", 3⟩] [⟨"milk", 2⟩, ⟨"milk", 3⟩, ⟨"eggs", 1⟩] :=
    .perm ((List.Perm.swap _ _ []).cons _)
  have hmilk : ([⟨"milk", 2⟩, ⟨"milk", 3⟩] : List CartItem) ≠ [] := List.cons_ne_nil _ _
  have hmerged : SameCart [⟨"milk", 2⟩, ⟨"milk", 3⟩, ⟨"eggs", 1⟩] [⟨"milk", 5⟩, ⟨"eggs", 1⟩] :=
    .merge [⟨"eggs", 1⟩] hmilk (by simp) rfl
  exact (calculateBill_exact catalog _).2.2.2 _ (hsorted.trans hmerged)

end AutoGrocery

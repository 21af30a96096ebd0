import AutoGrocery.Catalog.Bills
import AutoGrocery.Finalization.Billing
import AutoGrocery.Orders.Agreement
import AutoGrocery.Orders.Cart

/-!
Bills that do not fit their column. Prices and quantities each have a bound, but a
total is a sum of their products, and nothing looks at it before the robots are sent.
The statement that completes an order refuses a total of a hundred million or more,
and the order stays in PROCESSING.
-/

namespace AutoGrocery

open Interleaving Relational

/-- Every price fits its `NUMERIC(10,2)` column. -/
def Catalog.Fits (catalog : Catalog) : Prop :=
  ∀ sku row, catalog.rows.lookup sku = some row → numeric row.unitPrice = .ok row.unitPrice

/-- What fits a column is in whole cents. -/
theorem numeric_self {x : ℚ} (hfits : numeric x = .ok x) : ∃ cents : ℤ, x = cents / 100 := by
  unfold numeric at hfits
  split at hfits
  · have hrounded := Except.ok.inj hfits
    obtain ⟨cents, hcents⟩ := exists_roundCents x
    exact ⟨cents, hrounded.symm.trans hcents⟩
  · cases hfits

theorem Catalog.Fits.cents {catalog : Catalog} (hfits : catalog.Fits) : catalog.Cents :=
  fun sku row hrow => numeric_self (hfits sku row hrow)

/-- The row of an order after its finalization was posted. -/
def OrderRow.billed (row : OrderRow) (total : ℚ) : OrderRow :=
  if total < 100000000 then
    { row with status := .completed, totalPrice := if 0 < total then total else row.totalPrice }
  else row

section

variable {user : Int} {cart : List CartItem} {orderUUID : OrderID} {w : World}

end

/-! ### Two units of milk -/

namespace Sample

/-- Five units of milk at a price, and no order. -/
def shop (price : ℚ) : World :=
  { world with
    ordering := .empty
    catalog := ⟨(∅ : Table SKU CatalogRow).insert "milk" ⟨1, price⟩, 2⟩ }

/-- The shop once client 7 has ordered two units of milk and confirmed the order. -/
def confirmed (price : ℚ) : World :=
  ((confirmOrder (some 7) (some "order-1")).run (orderingExec .works)
    ((previewOrder (some 7) (some [⟨"milk", 2⟩]) "order-1").run (orderingExec .works)
      (shop price)).state).state

/-- The shop once the order is finalized. -/
def finalized (price : ℚ) : World :=
  (runScript (InventoryHandler.finalizeOrder "order-1" false) (confirmed price) []).state.1

end Sample

end AutoGrocery

import AutoGrocery.Fault

/-!
The pricing service: `internal/logic/pricer.go`, the catalog table of
`internal/store/catalog.go`, and the two methods of `internal/handler/grpc.go`
that inventory calls.
-/

namespace AutoGrocery

open Interleaving Relational

/-- `CalculatePrice`: cost times a margin that depends on the stock band. -/
def calculatePrice (costPrice : ℚ) (currentStock : Int) : ℚ :=
  let margin : ℚ := 120 / 100
  let margin := if 0 < currentStock ∧ currentStock < 5 then margin + 15 / 100 else margin
  let margin := if 100 < currentStock then margin - 10 / 100 else margin
  roundCents (costPrice * margin)

/-- A calculated price is in whole cents. -/
theorem calculatePrice_cents (costPrice : ℚ) (currentStock : Int) :
    ∃ cents : ℤ, calculatePrice costPrice currentStock = cents / 100 :=
  exists_roundCents _

structure CatalogRow where
  id : Nat
  unitPrice : ℚ
  deriving DecidableEq

/-- The `catalog` table under its unique `sku` column, and the next serial id. -/
structure Catalog where
  rows : Table SKU CatalogRow
  nextID : Nat

namespace Catalog

/-- `UpsertItem`. A conflict keeps the row's id; the sequence moves on anyway. -/
def upsertItem (catalog : Catalog) (sku : SKU) (unitPrice : ℚ) :
    Except GoError (Nat × Catalog) := do
  let unitPrice ← numeric unitPrice
  let id := ((catalog.rows.lookup sku).map CatalogRow.id).getD catalog.nextID
  return (id, ⟨catalog.rows.insert sku ⟨id, unitPrice⟩, catalog.nextID + 1⟩)

/-- `GetItemsBySKUs`: the rows with `sku = ANY(skus)`. -/
def getItemsBySKUs (catalog : Catalog) (skus : List SKU) : GoMap CatalogRow :=
  catalog.rows.selectRows fun sku row => if sku ∈ skus then some row else none

end Catalog

inductive PricingOp where
  | getItemsBySKUs (skus : List SKU)
  | upsertItem (sku : SKU) (unitPrice : ℚ)

abbrev PricingAns : PricingOp → Type
  | .getItemsBySKUs _ => Except GoError (GoMap CatalogRow)
  | .upsertItem _ _ => Except GoError Nat

/-- One statement on the catalog under a fault. -/
def pricingExec (fault : Fault) : Handler PricingAns Catalog
  | .getItemsBySKUs skus, catalog =>
      fault.run "" (fun catalog => (.ok (catalog.getItemsBySKUs skus), catalog)) catalog
  | .upsertItem sku unitPrice, catalog =>
      fault.run ("failed to upsert item " ++ sku ++ ": ") (fun catalog =>
        match catalog.upsertItem sku unitPrice with
        | .error err => (.error (err.wrap ("failed to upsert item " ++ sku ++ ": ")), catalog)
        | .ok (id, catalog') => (.ok id, catalog')) catalog

section

variable {catalog catalog' : Catalog} {sku : SKU} {unitPrice : ℚ} {id : Nat} {err : GoError}

theorem pricingExec_upsertItem_ok (hok : catalog.upsertItem sku unitPrice = .ok (id, catalog')) :
    pricingExec .works (.upsertItem sku unitPrice) catalog = (.ok id, catalog') := by
  simp only [pricingExec, Fault.run, hok]

theorem pricingExec_upsertItem_error (herror : catalog.upsertItem sku unitPrice = .error err) :
    pricingExec .works (.upsertItem sku unitPrice) catalog =
      (.error (err.wrap ("failed to upsert item " ++ sku ++ ": ")), catalog) := by
  simp only [pricingExec, Fault.run, herror]

end

namespace PricingHandler

/-- The loop of `CalculateBill` over the cart, with its two accumulators. -/
def billLines (itemsMap : GoMap CatalogRow) :
    List CartItem → CalculateBillResponse → Except GoError CalculateBillResponse
  | [], bill => .ok bill
  | cartItem :: rest, bill =>
      match itemsMap.lookup cartItem.sku with
      | none => .error (.notFound ("sku " ++ cartItem.sku ++ " not found in catalog"))
      | some dbItem =>
          let totalPrice := dbItem.unitPrice * cartItem.quantity.toInt
          billLines itemsMap rest
            ⟨bill.items ++ [⟨cartItem.sku, dbItem.unitPrice, cartItem.quantity, totalPrice⟩],
              bill.grandTotal + totalPrice⟩

/-- `CalculateBill`. -/
def calculateBill (items : List CartItem) :
    Prog PricingAns (Except GoError CalculateBillResponse) :=
  .call (.getItemsBySKUs (items.map CartItem.sku)) fun
    | .error err => .ret (.error (err.wrap "failed to fetch prices: "))
    | .ok itemsMap => .ret (billLines itemsMap items ⟨[], 0⟩)

/-- The loop of `UpdateStockMetrics`: a failed item is skipped. -/
def updateItems : List StockMetric → Int → Prog PricingAns Int
  | [], updatedCount => .ret updatedCount
  | update :: rest, updatedCount =>
      .call (.upsertItem update.sku (calculatePrice update.unitCost update.quantity.toInt)) fun
        | .error _ => updateItems rest updatedCount
        | .ok _ => updateItems rest (updatedCount + 1)

/-- `UpdateStockMetrics`. -/
def updateStockMetrics (updates : List StockMetric) :
    Prog PricingAns (Except GoError UpdateStockMetricsResponse) := do
  let updatedCount ← updateItems updates 0
  return .ok ⟨true, Int32.ofInt updatedCount⟩

end PricingHandler

/-! ### Prices and bills -/

namespace Catalog

/-- The unit price of a SKU, zero when it has no row. -/
def price (catalog : Catalog) (sku : SKU) : ℚ :=
  ((catalog.rows.lookup sku).map CatalogRow.unitPrice).getD 0

/-- The sum over the items of quantity times unit price. -/
def bill (catalog : Catalog) (items : ItemMap) : ℚ :=
  items.total fun sku quantity => catalog.price sku * quantity.toInt

/-- Every unit price is in whole cents. -/
def Cents (catalog : Catalog) : Prop :=
  ∀ sku row, catalog.rows.lookup sku = some row → ∃ cents : ℤ, row.unitPrice = cents / 100

variable {catalog : Catalog}

theorem price_cents (hcents : catalog.Cents) (sku : SKU) : ∃ cents : ℤ, catalog.price sku = cents / 100 := by
  unfold price
  cases hrow : catalog.rows.lookup sku with
  | none => exact ⟨0, by simp⟩
  | some row => exact hcents sku row hrow

/-- A bill at prices in whole cents is in whole cents. -/
theorem bill_cents (hcents : catalog.Cents) (items : ItemMap) :
    ∃ cents : ℤ, catalog.bill items = cents / 100 := by
  unfold bill Table.total
  induction items.entries with
  | nil => exact ⟨0, by simp⟩
  | cons row rest ih =>
      obtain ⟨unit, hunit⟩ := price_cents hcents row.1
      obtain ⟨others, hothers⟩ := ih
      refine ⟨unit * row.2.toInt + others, ?_⟩
      rw [List.map_cons, List.sum_cons, hothers]
      dsimp only
      rw [hunit]
      push_cast
      ring

end Catalog

/-- The line of a bill for a line of the cart. -/
def Catalog.lineItem (catalog : Catalog) (line : CartItem) : LineItem :=
  ⟨line.sku, catalog.price line.sku, line.quantity, catalog.price line.sku * line.quantity.toInt⟩

theorem Catalog.lookup_getItemsBySKUs (catalog : Catalog) {skus : List SKU} {sku : SKU} (hsku : sku ∈ skus) :
    (catalog.getItemsBySKUs skus).lookup sku = catalog.rows.lookup sku := by
  rw [Catalog.getItemsBySKUs, Table.lookup_selectRows]
  cases catalog.rows.lookup sku with
  | none => rfl
  | some row => simp [hsku]

namespace PricingHandler

/-- The loop bills the cart line by line when every SKU has a row, and otherwise
fails. -/
theorem billLines_spec (catalog : Catalog) {skus : List SKU} (cart : List CartItem)
    (hskus : ∀ line ∈ cart, line.sku ∈ skus) (bill : CalculateBillResponse) :
    ((∀ line ∈ cart, line.sku ∈ catalog.rows) →
      ∃ resp, billLines (catalog.getItemsBySKUs skus) cart bill = .ok resp ∧
        resp.items = bill.items ++ cart.map catalog.lineItem ∧
        resp.grandTotal = bill.grandTotal + (cart.map fun line =>
          catalog.price line.sku * line.quantity.toInt).sum) ∧
    ((∃ line ∈ cart, line.sku ∉ catalog.rows) →
      ∃ err, billLines (catalog.getItemsBySKUs skus) cart bill = .error err) := by
  induction cart generalizing bill with
  | nil => exact ⟨fun _ => ⟨bill, rfl, by simp, by simp⟩, fun h => by simp at h⟩
  | cons line rest ih =>
      obtain ⟨hsku, hrest⟩ := List.forall_mem_cons.mp hskus
      unfold billLines
      rw [catalog.lookup_getItemsBySKUs hsku]
      cases hrow : catalog.rows.lookup line.sku with
      | none =>
          have hnot : line.sku ∉ catalog.rows := AList.lookup_eq_none.mp hrow
          exact ⟨fun h => absurd (h line List.mem_cons_self) hnot, fun _ => ⟨_, rfl⟩⟩
      | some dbItem =>
          have hmem : line.sku ∈ catalog.rows := AList.lookup_isSome.mp (by rw [hrow]; rfl)
          have hprice : catalog.price line.sku = dbItem.unitPrice := by rw [Catalog.price, hrow]; rfl
          obtain ⟨hall, hmissing⟩ := ih hrest ⟨bill.items ++ [⟨line.sku, dbItem.unitPrice, line.quantity,
            dbItem.unitPrice * line.quantity.toInt⟩],
            bill.grandTotal + dbItem.unitPrice * line.quantity.toInt⟩
          constructor
          · intro h
            obtain ⟨resp, hresp, hitems, htotal⟩ :=
              hall fun other hother => h other (List.mem_cons_of_mem _ hother)
            refine ⟨resp, hresp, ?_, ?_⟩
            · rw [hitems, List.map_cons, Catalog.lineItem, hprice, List.append_assoc, List.singleton_append]
            · rw [htotal, List.map_cons, List.sum_cons, hprice, add_assoc]
          · rintro ⟨other, hother, hnot⟩
            rcases List.mem_cons.mp hother with rfl | hrest
            · exact absurd hmem hnot
            · exact hmissing ⟨other, hrest, hnot⟩

end PricingHandler

/-- A bill comes back: the call and its statement go well, and every SKU of the
cart is in the catalog. -/
structure Billed (fault : CallFault Fault) (cart : List CartItem) (catalog : Catalog) : Prop where
  call : fault.mode = .works
  statement : fault.server.headD .works = .works
  listed : ∀ line ∈ cart, line.sku ∈ catalog.rows

/-- `CalculateBill` at its server. -/
private theorem calculateBill_run (cart : List CartItem) (server : List Fault) (catalog : Catalog) :
    let outcome := (PricingHandler.calculateBill cart).run (scripted pricingExec .works)
      (catalog, server)
    outcome.state.1 = catalog ∧
      (server.headD .works = .works → outcome.value =
        PricingHandler.billLines (catalog.getItemsBySKUs (cart.map CartItem.sku)) cart ⟨[], 0⟩) ∧
      (server.headD .works ≠ .works → ∃ err, outcome.value = .error err) := by
  rw [PricingHandler.calculateBill, Prog.run_call]
  simp only [scripted, pricingExec]
  cases server.headD .works with
  | works => exact ⟨rfl, fun _ => rfl, fun h => absurd rfl h⟩
  | fails err => exact ⟨rfl, fun h => absurd h (Fault.fails_ne_works err), fun _ => ⟨_, rfl⟩⟩
  | loses err => exact ⟨rfl, fun h => absurd h (Fault.loses_ne_works err), fun _ => ⟨_, rfl⟩⟩

/-- `CalculateBill` over its call: the catalog stays as it was, and the answer is
the sum over the cart if a bill comes back and an error if none does. -/
theorem calculateBill_call (fault : CallFault Fault) (cart : List CartItem) (catalog : Catalog) :
    let answer := fault.call pricingExec .works (PricingHandler.calculateBill cart) catalog
    answer.2 = catalog ∧
      (Billed fault cart catalog → ∃ resp, answer.1 = .ok resp ∧
        resp.grandTotal = (cart.map fun line => catalog.price line.sku * line.quantity.toInt).sum) ∧
      (¬ Billed fault cart catalog → ∃ err, answer.1 = .error err) := by
  intro answer
  obtain ⟨hall, hmissing⟩ := PricingHandler.billLines_spec catalog cart
    (fun line => List.mem_map_of_mem) ⟨[], 0⟩
  obtain ⟨hcatalog, hworks, hfails⟩ := calculateBill_run cart fault.server catalog
  have hstate : answer.2 = catalog := by
    cases hreaches : fault.mode.reaches with
    | false => exact CallFault.call_unreached _ _ _ _ hreaches
    | true => exact (CallFault.call_state _ _ _ _ hreaches).trans hcatalog
  refine ⟨hstate, ?_, fun hnot => ?_⟩
  · rintro ⟨hcall, hstatement, hrows⟩
    obtain ⟨resp, hresp, _, htotal⟩ := hall hrows
    refine ⟨resp, ?_, htotal.trans (zero_add _)⟩
    show (fault.call _ _ _ _).1 = _
    rw [CallFault.call_answer _ _ _ _ hcall, hworks hstatement, hresp]
    rfl
  · by_cases hcall : fault.mode = .works
    · have herror : ∃ err, ((PricingHandler.calculateBill cart).run (scripted pricingExec .works)
          (catalog, fault.server)).value = .error err := by
        by_cases hstatement : fault.server.headD .works = .works
        · rw [hworks hstatement]
          apply hmissing
          by_contra hnone
          push Not at hnone
          exact hnot ⟨hcall, hstatement, hnone⟩
        · exact hfails hstatement
      obtain ⟨err, herr⟩ := herror
      refine ⟨rpcError err, ?_⟩
      show (fault.call _ _ _ _).1 = _
      rw [CallFault.call_answer _ _ _ _ hcall, herr]
      rfl
    · exact CallFault.call_error _ _ _ _ hcall

end AutoGrocery

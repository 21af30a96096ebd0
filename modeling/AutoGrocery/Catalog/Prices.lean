import AutoGrocery.Catalog.Deliveries

/-!
When the catalog agrees with the stock table. A finalization that was the last to
upsert a SKU reads back what the row holds from then on, and its delivery stores
the price of the row. Another delivery may store a price of that SKU later, and
then the catalog keeps the price of a row that is gone.
-/

namespace AutoGrocery

open Interleaving InventoryHandler

/-! ### What the threads know -/

/-- The costs of the manifests in Redis are in whole cents. -/
def World.Costed (w : World) : Prop :=
  ∀ orderID items, w.memory.getRestockItems orderID = .ok items →
    ∀ pi ∈ items, ∃ cents : ℤ, pi.unitCost = cents / 100

/-- An upsert writes a cost in whole cents. -/
def costedOp : InventoryOp → Prop
  | .upsertStock item => ∃ cents : ℤ, item.unitCost = cents / 100
  | _ => True

/-- The price that goes with a row of stock. -/
def StockRow.price (row : StockRow) : ℚ := calculatePrice row.unitCost row.quantity.toInt

/-- A finalization knows what the row of a SKU holds. -/
def MetricsPhase.Knows (sku : SKU) (row : StockRow) : MetricsPhase → Prop
  | .upserting latest => latest.lookup sku = some row.unitCost
  | .launching metrics => sku ∈ metrics.map StockMetric.sku ∧
      ∀ metric ∈ metrics, metric.sku = sku → metric = ⟨sku, row.quantity, row.unitCost⟩
  | _ => False

/-- The price of a row was stored by the delivery of a finalization. -/
def Stored (trace : List (Nat × PriceEvent)) (origin : Nat) (sku : SKU) (row : StockRow) : Prop :=
  ∃ index answer, (index, .pricing origin ⟨.upsertItem sku row.price, answer⟩) ∈ trace

/-- Of every SKU that a finalization was the last to upsert, it knows the row. -/
def Current (stock : StockTable) (trace : List (Nat × PriceEvent)) (origin : Nat)
    (knows : SKU → StockRow → Prop) : Prop :=
  ∀ sku, lastUpserter sku trace = some origin → ∃ row, stock.lookup sku = some row ∧ knows sku row

/-- Where a thread stands, and what it knows. -/
inductive PriceAt (stock : StockTable) (trace : List (Nat × PriceEvent)) : PriceThread → Prop where
  | finalizing {origin : Nat} {phase : MetricsPhase} {prog : InventoryProg Unit} :
      RestockAt phase prog → (phase = .loading ∨ prog.Uses costedOp) →
      (∀ sku, lastApplier sku trace ≠ some origin) →
      Current stock trace origin (fun sku row => phase.Knows sku row) →
      PriceAt stock trace (.finalizing origin false prog)
  | closing {origin : Nat} {prog : InventoryProg Unit} : prog.Uses isClosingOp →
      PriceAt stock trace (.finalizing origin true prog)
  | delivering {origin : Nat} {rest : List StockMetric}
      {prog : Prog PricingAns (Except GoError UpdateStockMetricsResponse)} : DeliverAt rest prog →
      Current stock trace origin (fun sku row =>
        (∀ metric ∈ rest, metric.sku = sku → metric = ⟨sku, row.quantity, row.unitCost⟩) ∧
        (sku ∈ rest.map StockMetric.sku ∨ Stored trace origin sku row)) →
      PriceAt stock trace (.delivering origin prog)

/-- The catalog has the price of the row of every SKU whose last upsert and last
stored metric are of one finalization. -/
def Agrees (w : World) (trace : List (Nat × PriceEvent)) : Prop :=
  ∀ sku origin, lastUpserter sku trace = some origin → lastApplier sku trace = some origin →
    ∃ row, w.stock.lookup sku = some row ∧ w.catalog.price sku = row.price

/-- The invariant. -/
structure Settling (pool : Pool PriceThread World) (trace : List (Nat × PriceEvent)) : Prop where
  costed : pool.state.Costed
  unique : pool.Unique PriceThread.carries
  threads : ∀ thread ∈ pool.threads, PriceAt pool.state.stock trace thread
  carried : ∀ sku origin, lastUpserter sku trace = some origin →
    ∃ thread ∈ pool.threads, thread.carries = some origin
  agrees : Agrees pool.state trace

/-- What a step does to the threads of other finalizations: nothing. -/
def Apart (origin : Option Nat) (w w' : World) (trace : List (Nat × PriceEvent))
    (step : Nat × PriceEvent) : Prop :=
  ∀ other, origin ≠ some other → ∀ sku,
    (lastUpserter sku (trace ++ [step]) = some other → lastUpserter sku trace = some other ∧
      w'.stock.lookup sku = w.stock.lookup sku) ∧
    (lastApplier sku (trace ++ [step]) = some other → lastApplier sku trace = some other)

/-- What a step does. -/
structure PriceStep (w : World) (trace : List (Nat × PriceEvent)) (index : Nat) (thread : PriceThread)
    (move : Move PriceThread World PriceEvent) : Prop where
  costed : move.state.Costed
  hands : Pool.Hands PriceThread.carries thread move
  mover : PriceAt move.state.stock (trace ++ [(index, move.event)]) move.thread
  spawned : ∀ spawned ∈ move.spawned,
    PriceAt move.state.stock (trace ++ [(index, move.event)]) spawned
  apart : Apart thread.carries w move.state trace (index, move.event)
  upserter : ∀ sku origin, upserterOf sku move.event = some origin → thread.carries = some origin
  agrees : Agrees move.state (trace ++ [(index, move.event)])

section

variable {w w' : World} {stock stock' : StockTable} {trace : List (Nat × PriceEvent)} {index origin : Nat}
  {event : PriceEvent} {knows knows' : SKU → StockRow → Prop}

/-- What is known of rows that did not change is still known. -/
theorem Current.mono (hcurrent : Current stock trace origin knows) {step : Nat × PriceEvent}
    (hlast : ∀ sku, lastUpserter sku (trace ++ [step]) = some origin →
      lastUpserter sku trace = some origin ∧ stock'.lookup sku = stock.lookup sku)
    (hknows : ∀ sku row, stock.lookup sku = some row → knows sku row → knows' sku row) :
    Current stock' (trace ++ [step]) origin knows' := by
  intro sku hupserter
  obtain ⟨hbefore, hsame⟩ := hlast sku hupserter
  obtain ⟨row, hrow, hknown⟩ := hcurrent sku hbefore
  exact ⟨row, hsame.trans hrow, hknows sku row hrow hknown⟩

theorem Stored.mono {sku : SKU} {row : StockRow} (hstored : Stored trace origin sku row)
    (step : Nat × PriceEvent) : Stored (trace ++ [step]) origin sku row := by
  obtain ⟨index, answer, hmem⟩ := hstored
  exact ⟨index, answer, List.mem_append_left _ hmem⟩

/-- A step of another finalization, or of its delivery. -/
theorem PriceAt.other {thread : PriceThread} (hat : PriceAt w.stock trace thread) {mover : Option Nat}
    {step : Nat × PriceEvent} (hapart : Apart mover w w' trace step)
    (hother : ∀ origin, thread.carries = some origin → mover ≠ some origin) :
    PriceAt w'.stock (trace ++ [step]) thread := by
  cases hat with
  | @finalizing origin phase prog hprog hcosted hunapplied hcurrent =>
      have hsame := hapart origin (hother origin rfl)
      refine .finalizing hprog hcosted (fun sku happlied => ?_)
        (hcurrent.mono (fun sku => (hsame sku).1) fun _ _ _ => id)
      exact hunapplied sku ((hsame sku).2 happlied)
  | closing huses => exact .closing huses
  | @delivering origin rest prog hprog hcurrent =>
      have hsame := hapart origin (hother origin rfl)
      refine .delivering hprog (hcurrent.mono (fun sku => (hsame sku).1) fun sku row _ hknown => ?_)
      exact ⟨hknown.1, hknown.2.imp id fun hstored => hstored.mono step⟩

end

/-! ### Costs in whole cents -/

section

variable {w : World} {phase : MetricsPhase} {op : InventoryOp} {next : InventoryAns op → InventoryProg Unit}

private theorem upsertItems_costed {items : List RestockItem}
    (hitems : ∀ pi ∈ items, ∃ cents : ℤ, pi.unitCost = cents / 100) (totals : RestockTotals) :
    (upsertItems items totals).Uses costedOp := by
  induction items generalizing totals with
  | nil => exact .ret _
  | cons pi rest ih =>
      have hrest := fun other hother => hitems other (List.mem_cons_of_mem pi hother)
      refine .call (hitems pi List.mem_cons_self) fun answer => ?_
      cases answer with
      | error err => exact ih hrest _
      | ok value => exact ih hrest _

private theorem restockLoop_costed {items : List RestockItem}
    (hitems : ∀ pi ∈ items, ∃ cents : ℤ, pi.unitCost = cents / 100) (orderID : OrderID)
    (totals : RestockTotals) : (restockLoop orderID items totals).Uses costedOp := by
  refine (upsertItems_costed hitems totals).bind fun totals => ?_
  have hread : (pricingUpdates totals.latestUnitCostBySKU).Uses costedOp := by
    unfold pricingUpdates
    split
    · refine .call trivial fun answer => ?_
      cases answer <;> exact .ret _
    · exact .ret _
  refine hread.bind fun metrics => .call trivial fun _ => ?_
  exact .call trivial fun _ => .call trivial fun _ => .ret _

/-- A finalization upserts what it has read. -/
theorem costed_next (hcosted : w.Costed) (hat : RestockAt phase (.call op next))
    (hcosts : phase = .loading ∨ (Prog.call op next).Uses costedOp) :
    (next (inventoryExec .works op w).1).Uses costedOp := by
  rcases hcosts with rfl | huses
  · generalize hprog : Prog.call op next = prog at hat
    cases hat with
    | loading orderID =>
        cases hprog
        have hread : (inventoryExec .works (.getRestockItems orderID) w).1 =
            w.memory.getRestockItems orderID := rfl
        rw [hread]
        cases hitems : w.memory.getRestockItems orderID with
        | error err => exact .ret _
        | ok items => exact restockLoop_costed (hcosted orderID items hitems) orderID ⟨0, ∅⟩
  · cases huses with
    | call _ hnext => exact hnext _

/-- A finalization saves no manifest. -/
theorem costed_kept (hcosted : w.Costed) {answer : InventoryAns op} {phase' : MetricsPhase}
    (hrule : MetricsRule phase op answer phase') : (inventoryExec .works op w).2.Costed := by
  have hsame (hmemory : op.writes ≠ some .memory) : (inventoryExec .works op w).2.Costed := by
    unfold World.Costed
    rw [inventoryExec_memory hmemory]
    exact hcosted
  cases hrule with
  | close answer hop =>
      cases op with
      | postWebhook url payload => exact hsame (by simp [InventoryOp.writes])
      | deleteOrderData deleted isRestock =>
          intro orderID items hitems
          apply hcosted orderID items
          have hmemory : (inventoryExec .works (.deleteOrderData deleted isRestock) w).2.memory =
              w.memory.deleteOrderData deleted isRestock := rfl
          rw [hmemory] at hitems
          cases isRestock with
          | false => exact hitems
          | true =>
              rcases w.memory.restockClient.del_items deleted orderID with hnone | hkept
              · rw [MemoryStore.getRestockItems, MemoryStore.deleteOrderData, if_pos rfl,
                  RedisDB.getItems, hnone] at hitems
                cases hitems
              · rw [MemoryStore.getRestockItems, MemoryStore.deleteOrderData, if_pos rfl,
                  RedisDB.getItems, hkept] at hitems
                exact hitems
      | _ => exact hop.elim
  | _ => exact hsame (by simp [InventoryOp.writes])

end

/-! ### Prices -/

/-- A calculated price is stored as it is. -/
theorem upsertItem_price {catalog catalog' : Catalog} {sku : SKU} {costPrice : ℚ} {currentStock : Int}
    {id : Nat} (hok : catalog.upsertItem sku (calculatePrice costPrice currentStock) = .ok (id, catalog')) :
    ∀ other, catalog'.price other =
      if other = sku then calculatePrice costPrice currentStock else catalog.price other := by
  obtain ⟨cents, hcents⟩ := calculatePrice_cents costPrice currentStock
  rw [hcents] at hok ⊢
  obtain ⟨unitPrice, hprice, hdone⟩ := bind_eq_ok hok
  obtain rfl := numeric_cents hprice
  cases hdone
  intro other
  by_cases heq : other = sku
  · subst heq
    simp [Catalog.price]
  · simp [Catalog.price, heq]

/-- A statement of a delivery that worked. -/
theorem upsertItem_fine {w : World} {origin : Nat} {sku : SKU} {price : ℚ}
    (hfine : PriceEvent.fine (.pricing origin ⟨.upsertItem sku price,
      (pricingExec .works (.upsertItem sku price) w.catalog).1⟩) = true) :
    ∃ id catalog', w.catalog.upsertItem sku price = .ok (id, catalog') ∧
      pricingExec .works (.upsertItem sku price) w.catalog = (.ok id, catalog') := by
  cases hupsert : w.catalog.upsertItem sku price with
  | error err =>
      rw [pricingExec_upsertItem_error hupsert] at hfine
      cases hfine
  | ok written => exact ⟨written.1, written.2, rfl, pricingExec_upsertItem_ok hupsert⟩

end AutoGrocery

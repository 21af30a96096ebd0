import AutoGrocery.Orders.Callbacks
import AutoGrocery.Reservation.Ledger

/-!
A restock finalization as a protocol, as far as its metrics go. It remembers the
latest unit cost of each SKU it has upserted, reads the rows of these SKUs back,
and hands one metric for each of them to a goroutine, which delivers them to
pricing whenever it gets to it.
-/

namespace AutoGrocery

open Interleaving InventoryHandler

/-- Where a restock finalization stands as far as its metrics go. -/
inductive MetricsPhase where
  | loading
  | upserting (latestUnitCostBySKU : GoMap ℚ)
  | launching (metrics : List StockMetric)
  | closing

/-- `finalizeRestock` from the start of the goroutine on. -/
def launchMetrics (orderID : OrderID) (totalCost : ℚ) (metrics : List StockMetric) :
    InventoryProg Unit := do
  let () ← .call (.goUpdateStockMetrics metrics) .ret
  callWebhook orderID totalCost .updateRestock "total_cost"
  InventoryHandler.deleteOrderData orderID true

/-- `finalizeRestock` in its loop, with the lines that are left. -/
def restockLoop (orderID : OrderID) (items : List RestockItem) (totals : RestockTotals) :
    InventoryProg Unit := do
  let totals ← upsertItems items totals
  let metrics ← pricingUpdates totals.latestUnitCostBySKU
  launchMetrics orderID totals.totalCost metrics

/-- The operations after the goroutine is started. -/
def isClosingOp : InventoryOp → Prop
  | .postWebhook _ payload => payload.status = .completed
  | .deleteOrderData _ _ => True
  | _ => False

/-- The program of a restock finalization at a phase. -/
inductive RestockAt : MetricsPhase → InventoryProg Unit → Prop where
  | loading (orderID : OrderID) : RestockAt .loading (finalizeRestock orderID)
  | upserting (orderID : OrderID) (items : List RestockItem) (totals : RestockTotals) :
      RestockAt (.upserting totals.latestUnitCostBySKU) (restockLoop orderID items totals)
  | launching (orderID : OrderID) (totalCost : ℚ) (metrics : List StockMetric) :
      RestockAt (.launching metrics) (launchMetrics orderID totalCost metrics)
  | closing {prog : InventoryProg Unit} : prog.Uses isClosingOp → RestockAt .closing prog

/-- The operations of a restock finalization, by phase. -/
inductive MetricsRule :
    MetricsPhase → (op : InventoryOp) → InventoryAns op → MetricsPhase → Prop where
  | load (orderID : OrderID) (items : List RestockItem) :
      MetricsRule .loading (.getRestockItems orderID) (.ok items) (.upserting ∅)
  | unloaded (orderID : OrderID) (err : GoError) :
      MetricsRule .loading (.getRestockItems orderID) (.error err) .closing
  | upsert (latest : GoMap ℚ) (pi : RestockItem) :
      MetricsRule (.upserting latest) (.upsertStock (stockItem pi)) (.ok ())
        (.upserting (latest.insert pi.sku pi.unitCost))
  | skip (latest : GoMap ℚ) (pi : RestockItem) (err : GoError) :
      MetricsRule (.upserting latest) (.upsertStock (stockItem pi)) (.error err) (.upserting latest)
  | readBack (latest : GoMap ℚ) (currentItems : GoMap StockRow) :
      MetricsRule (.upserting latest) (.getBatchItems latest.keys) (.ok currentItems)
        (.launching (stockMetrics latest currentItems))
  | unread (latest : GoMap ℚ) (err : GoError) :
      MetricsRule (.upserting latest) (.getBatchItems latest.keys) (.error err) (.launching [])
  | launch (metrics : List StockMetric) :
      MetricsRule (.launching metrics) (.goUpdateStockMetrics metrics) () .closing
  | launchNone : MetricsRule (.upserting ∅) (.goUpdateStockMetrics []) () .closing
  | close {op : InventoryOp} (answer : InventoryAns op) : isClosingOp op →
      MetricsRule .closing op answer .closing

/-- A thread with the SKU among what it has still to hand on. -/
def MetricsPhase.Lists (sku : SKU) : MetricsPhase → Prop
  | .upserting latest => sku ∈ latest
  | .launching metrics => sku ∈ metrics.map StockMetric.sku
  | _ => False

private theorem launchMetrics_closing (orderID : OrderID) (totalCost : ℚ) :
    RestockAt .closing (do
      callWebhook orderID totalCost .updateRestock "total_cost"
      InventoryHandler.deleteOrderData orderID true) :=
  .closing (.call rfl fun _ => .call trivial fun _ => .ret _)

/-- **The step lemma** of restock finalizations, whatever is answered. -/
theorem RestockAt.step {phase : MetricsPhase} {op : InventoryOp}
    {next : InventoryAns op → InventoryProg Unit} (hat : RestockAt phase (.call op next))
    (answer : InventoryAns op) :
    ∃ phase', MetricsRule phase op answer phase' ∧ RestockAt phase' (next answer) := by
  generalize hprog : Prog.call op next = prog at hat
  cases hat with
  | loading orderID =>
      cases hprog
      cases answer with
      | error err => exact ⟨_, .unloaded orderID err, .closing (.ret _)⟩
      | ok items => exact ⟨_, .load orderID items, .upserting orderID items ⟨0, ∅⟩⟩
  | upserting orderID items totals =>
      cases items with
      | cons pi rest =>
          cases hprog
          set totalCost := totals.totalCost + pi.unitCost * pi.quantity.toInt
          cases answer with
          | error err =>
              exact ⟨_, .skip _ pi err,
                .upserting orderID rest ⟨totalCost, totals.latestUnitCostBySKU⟩⟩
          | ok value =>
              exact ⟨_, .upsert _ pi,
                .upserting orderID rest ⟨totalCost, totals.latestUnitCostBySKU.insert pi.sku pi.unitCost⟩⟩
      | nil =>
          obtain ⟨totalCost, latest⟩ := totals
          simp only [restockLoop, upsertItems, Prog.ret_bind, pricingUpdates] at hprog
          split at hprog
          · cases hprog
            cases answer with
            | error err => exact ⟨_, .unread latest err, .launching orderID totalCost []⟩
            | ok currentItems => exact ⟨_, .readBack latest currentItems, .launching orderID totalCost _⟩
          · rename_i hnone
            have hempty : latest = ∅ := by
              apply AList.ext
              apply List.eq_nil_of_map_eq_nil
              exact List.eq_nil_of_length_eq_zero (Nat.eq_zero_of_not_pos hnone)
            subst hempty
            cases hprog
            exact ⟨_, .launchNone, launchMetrics_closing orderID totalCost⟩
  | launching orderID totalCost metrics =>
      cases hprog
      exact ⟨_, .launch metrics, launchMetrics_closing orderID totalCost⟩
  | closing huses =>
      cases huses with
      | ret value => cases hprog
      | call hop hnext =>
          cases hprog
          exact ⟨_, .close answer hop, .closing (hnext answer)⟩

/-- A finalization that is at its end has handed its metrics on, or had no manifest. -/
theorem RestockAt.ret {phase : MetricsPhase} {value : Unit} (hat : RestockAt phase (.ret value)) :
    phase = .closing := by
  generalize hprog : (Prog.ret value : InventoryProg Unit) = prog at hat
  cases hat with
  | loading orderID => cases hprog
  | upserting orderID items totals =>
      cases items with
      | cons pi rest => cases hprog
      | nil =>
          simp only [restockLoop, upsertItems, Prog.ret_bind, pricingUpdates] at hprog
          split at hprog <;> cases hprog
  | launching orderID totalCost metrics => cases hprog
  | closing huses => rfl

/-- Reading rows back that exist leaves no SKU out. -/
theorem mem_stockMetrics {latest : GoMap ℚ} {stock : StockTable} {sku : SKU} (hsku : sku ∈ latest)
    (hstock : sku ∈ stock) :
    sku ∈ (stockMetrics latest (stock.getBatchItems latest.keys)).map StockMetric.sku := by
  obtain ⟨cost, hcost⟩ := Option.isSome_iff_exists.mp (AList.lookup_isSome.mpr hsku)
  obtain ⟨row, hrow⟩ := Option.isSome_iff_exists.mp (AList.lookup_isSome.mpr hstock)
  have hread : (stock.getBatchItems latest.keys).lookup sku = some row := by
    rw [StockTable.getBatchItems, Relational.Table.lookup_selectRows, hrow, Option.bind_some, if_pos]
    exact hsku
  refine List.mem_map.mpr ⟨⟨sku, row.quantity, cost⟩, ?_, rfl⟩
  apply List.mem_filterMap.mpr
  exact ⟨⟨sku, cost⟩, AList.mem_lookup_iff.mp hcost, by rw [hread]; rfl⟩

/-- A metric holds the remembered cost and the quantity that was read back. -/
theorem of_mem_stockMetrics {latest : GoMap ℚ} {stock : StockTable} {metric : StockMetric}
    (hmetric : metric ∈ stockMetrics latest (stock.getBatchItems latest.keys)) :
    latest.lookup metric.sku = some metric.unitCost ∧
      ∃ row, stock.lookup metric.sku = some row ∧ row.quantity = metric.quantity := by
  obtain ⟨entry, hentry, hmap⟩ := List.mem_filterMap.mp hmetric
  obtain ⟨row, hread, rfl⟩ := Option.map_eq_some_iff.mp hmap
  refine ⟨AList.mem_lookup_iff.mpr hentry, row, ?_, rfl⟩
  rw [StockTable.getBatchItems, Relational.Table.lookup_selectRows] at hread
  obtain ⟨found, hfound, hselect⟩ := Option.bind_eq_some_iff.mp hread
  split at hselect
  · rw [← Option.some.inj hselect]
    exact hfound
  · cases hselect

/-- An upsert that works answers without an error. It writes the cost, if that is
in whole cents, and leaves the other rows alone. -/
theorem upsertStock_works (w : World) (item : StockItem)
    (hfine : InventoryAns.faulty (.upsertStock item) (inventoryExec .works (.upsertStock item) w).1 = false) :
    (inventoryExec .works (.upsertStock item) w).1 = .ok () ∧
      (inventoryExec .works (.upsertStock item) w).2.catalog = w.catalog ∧
      (inventoryExec .works (.upsertStock item) w).2.memory = w.memory ∧
      ∃ row, (inventoryExec .works (.upsertStock item) w).2.stock = w.stock.insert item.sku row ∧
        ∀ cents : ℤ, item.unitCost = cents / 100 → row.unitCost = item.unitCost := by
  obtain ⟨stock', hok, hexec⟩ := onStock_ok w (fun stock => stock.upsertStock item)
    (fun err => StockTable.upsertStock_error) hfine
  have hanswer : inventoryExec .works (.upsertStock item) w = (.ok (), { w with stock := stock' }) := hexec
  rw [hanswer]
  exact ⟨rfl, rfl, rfl, StockTable.upsertStock_insert hok⟩

end AutoGrocery

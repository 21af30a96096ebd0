import AutoGrocery.Catalog.Folding
import AutoGrocery.Orders.Calls

/-!
What the robots offload against what the stock is credited with. The broadcast
of a restock goes through a map, which keeps the last line of a SKU; the
finalization goes through the list and adds every line. The two agree exactly
when no SKU stands in two lines.
-/

namespace AutoGrocery

open Interleaving InventoryHandler Relational

/-- The units of a SKU in what these workers report. -/
def offloadedUnits (workers : List RobotWorker) (broadcast : OrderBroadcast) (sku : SKU) : Int :=
  (workers.map fun worker => (worker.report broadcast).processedItems.units sku).sum

/-- A worker reports the item of a SKU if it is in the worker's aisle. -/
private theorem report_units (worker : RobotWorker) (orderID : OrderID) (orderType : OrderType)
    {items : GoMap ItemDetails} {sku : SKU} {details : ItemDetails}
    (hdetails : items.lookup sku = some details) :
    (worker.report (orderBroadcast orderID orderType items)).processedItems.units sku =
      if worker.aisleType = details.aisle then details.quantity.toInt else 0 := by
  have hlookup := processedItems_lookup orderID orderType items worker sku
  rw [hdetails, Option.bind_some] at hlookup
  by_cases haisle : worker.aisleType = details.aisle
  · rw [if_pos haisle.symm] at hlookup
    rw [if_pos haisle]
    exact ItemMap.units_of_lookup hlookup
  · rw [if_neg (Ne.symm haisle)] at hlookup
    rw [if_neg haisle]
    exact ItemMap.units_of_lookup_none hlookup

/-- Workers of different aisles, one of them in the aisle of each item, offload
the broadcast. -/
theorem offloadedUnits_broadcast {workers : List RobotWorker}
    (haisles : (workers.map RobotWorker.aisleType).Nodup) (orderID : OrderID) (orderType : OrderType)
    {items : GoMap ItemDetails} {sku : SKU}
    (hserved : ∀ details, items.lookup sku = some details →
      details.aisle ∈ workers.map RobotWorker.aisleType) :
    offloadedUnits workers (orderBroadcast orderID orderType items) sku =
      ((items.lookup sku).map fun details => details.quantity.toInt).getD 0 := by
  cases hdetails : items.lookup sku with
  | none =>
      apply List.sum_eq_zero
      intro units hunits
      obtain ⟨worker, _, rfl⟩ := List.mem_map.mp hunits
      have hlookup := processedItems_lookup orderID orderType items worker sku
      rw [hdetails] at hlookup
      exact ItemMap.units_of_lookup_none hlookup
  | some details =>
      obtain ⟨worker, hworker, haisle⟩ := List.mem_map.mp (hserved details hdetails)
      have hreports : offloadedUnits workers (orderBroadcast orderID orderType items) sku =
          keyTotal RobotWorker.aisleType (fun _ => details.quantity.toInt) workers details.aisle := by
        rw [offloadedUnits, keyTotal]
        exact congrArg List.sum (List.map_congr_left fun worker _ =>
          report_units worker orderID orderType hdetails)
      rw [hreports, ← haisle]
      exact keyTotal_of_mem haisles hworker

/-- The map of `RestockItemsOrder` holds the last line of each SKU. -/
theorem restockRobotItems_lookup (items : List RestockItem) (sku : SKU) :
    (restockRobotItems items).lookup sku =
      (lastRow RestockItem.sku items sku).map fun pi => ⟨pi.quantity, pi.aisleType⟩ :=
  Table.lookup_foldl RestockItem.sku (fun pi => (⟨pi.quantity, pi.aisleType⟩ : ItemDetails)) items sku

/-- The robots offload the last line of each SKU. -/
theorem offloadedUnits_restock {items : List RestockItem}
    (haisles : ∀ pi ∈ items, pi.aisleType ∈ deploymentAisles) (orderID : OrderID) (sku : SKU) :
    offloadedUnits deploymentWorkers (orderBroadcast orderID .restock (restockRobotItems items)) sku =
      lastWeight RestockItem.sku (fun pi => pi.quantity.toInt) items sku := by
  have hlookup := restockRobotItems_lookup items sku
  have hdeployment : deploymentWorkers.map RobotWorker.aisleType = deploymentAisles := by decide
  rw [offloadedUnits_broadcast (by rw [hdeployment]; decide), hlookup, Option.map_map]
  · rfl
  · intro details hdetails
    rw [hlookup] at hdetails
    obtain ⟨pi, hlast, rfl⟩ := Option.map_eq_some_iff.mp hdetails
    rw [hdeployment]
    exact haisles pi (of_lastRow RestockItem.sku hlast).1

/-! ### A finalization without a fault -/

/-- The loop without a fault stores every line. -/
private theorem addedLines_of_fine (items : List RestockItem) (totals : RestockTotals) (w : World)
    (hfine : ∀ event ∈ ((upsertItems items totals).run (scripted inventoryExec .works) (w, [])).trace,
      InventoryAns.faulty event.op event.ans = false) :
    addedLines w.stock items [] = items := by
  induction items generalizing totals w with
  | nil => rfl
  | cons pi rest ih =>
      have hhead := hfine ⟨.upsertStock (stockItem pi),
        (inventoryExec .works (.upsertStock (stockItem pi)) w).1⟩ List.mem_cons_self
      obtain ⟨hok, _⟩ := upsertStock_works w (stockItem pi) hhead
      rcases @upsert_settled .works pi w (fun _ => rfl) with
        ⟨stock', heffect, _, hanswer⟩ | ⟨_, err, hanswer⟩
      · rw [upsertItems, Prog.run_call] at hfine
        simp only [scripted, List.headD_nil, List.tail_nil, hanswer] at hfine
        have hrest := ih _ _ fun event hevent => hfine event (List.mem_cons_of_mem _ hevent)
        rw [addedLines, List.headD_nil, heffect]
        exact congrArg (pi :: ·) hrest
      · rw [hanswer] at hok
        cases hok

/-- A finalization without a fault credits every line of its manifest. -/
theorem finalized_units {orderID : OrderID} {items : List RestockItem} {w : World}
    (hwork : savedWork orderID true w.memory = some (.restock items))
    (hfine : ∀ event ∈ (runScript (finalizeOrder orderID true) w []).trace,
      InventoryAns.faulty event.op event.ans = false) (sku : SKU) :
    (runScript (finalizeOrder orderID true) w []).state.1.stock.available sku - w.stock.available sku =
      restockUnits items sku := by
  rw [finalizeOrder_restockRest hwork rfl] at hfine ⊢
  obtain ⟨havailable, _⟩ := restockRest_run orderID items w []
  have hadded : addedLines w.stock items [] = items := by
    refine addedLines_of_fine items ⟨0, ∅⟩ w fun event hevent => hfine event ?_
    apply List.mem_cons_of_mem
    rw [List.tail_nil, restockRest_loop]
    exact List.mem_append_left _ hevent
  rw [hadded] at havailable
  rw [List.tail_nil, havailable sku]
  omega

/-! ### The two paths -/

/-- **Robots offload what the stock is credited with** exactly when no SKU stands
in two lines of the manifest. -/
theorem offloaded_as_credited_iff {orderID : OrderID} {items : List RestockItem} (w : World)
    {later : World} (hpositive : ∀ pi ∈ items, 0 < pi.quantity.toInt)
    (haisles : ∀ pi ∈ items, pi.aisleType ∈ deploymentAisles)
    (hwork : savedWork orderID true later.memory = some (.restock items))
    (hfine : ∀ event ∈ (runScript (finalizeOrder orderID true) later []).trace,
      InventoryAns.faulty event.op event.ans = false) :
    let finalized := (runScript (finalizeOrder orderID true) later []).state.1
    ∃ broadcast, (orderingExec .works (.restockItemsOrder ⟨orderID, items⟩) w).2.broadcasts =
        w.broadcasts ++ [broadcast] ∧
      ((∀ sku, offloadedUnits deploymentWorkers broadcast sku =
          finalized.stock.available sku - later.stock.available sku) ↔
        (items.map RestockItem.sku).Nodup) := by
  intro finalized
  refine ⟨orderBroadcast orderID .restock (restockRobotItems items), ?_, ?_⟩
  · rw [restockItemsOrder_works]
  · have hagree : (∀ sku, restockUnits items sku =
        lastWeight RestockItem.sku (fun pi => pi.quantity.toInt) items sku) ↔
        (items.map RestockItem.sku).Nodup := by
      simp only [restockUnits_eq_keyTotal]
      exact keyTotal_eq_lastWeight_all_iff hpositive
    rw [← hagree]
    refine forall_congr' fun sku => ?_
    rw [offloadedUnits_restock haisles, finalized_units hwork hfine]
    exact eq_comm

/-- A truck with one line of milk and one of bread. -/
private def unrepeated : List RestockItem :=
  [⟨"milk", "Milk", "dairy", 3, 1, 0, 0⟩, ⟨"bread", "Bread", "bread", 4, 2, 0, 0⟩]

/-- A truck with two lines of milk. -/
private def repeated : List RestockItem :=
  [⟨"milk", "Milk", "dairy", 3, 1, 0, 0⟩, ⟨"milk", "Milk", "dairy", 2, 1, 0, 0⟩]

private def arrived (items : List RestockItem) : World :=
  { Sample.world with memory := MemoryStore.empty.saveRestockItems 0 "restock-1" items }

private theorem finalized_fine {items : List RestockItem}
    (hfine : ((runScript (finalizeOrder "restock-1" true) (arrived items) []).trace.all
      fun event => !InventoryAns.faulty event.op event.ans) = true) :
    ∀ event ∈ (runScript (finalizeOrder "restock-1" true) (arrived items) []).trace,
      InventoryAns.faulty event.op event.ans = false := by
  intro event hevent
  simpa using List.all_eq_true.mp hfine event hevent

/-- One line of each SKU is offloaded as it is credited. -/
theorem offloaded_as_credited_iff_sample :
    ∃ broadcast, ∀ sku, offloadedUnits deploymentWorkers broadcast sku =
      (runScript (finalizeOrder "restock-1" true) (arrived unrepeated) []).state.1.stock.available sku -
        (arrived unrepeated).stock.available sku := by
  obtain ⟨broadcast, _, hagree⟩ :=
    @offloaded_as_credited_iff "restock-1" unrepeated Sample.world (arrived unrepeated)
      (by decide) (by decide) rfl (finalized_fine (by decide +kernel))
  exact ⟨broadcast, hagree.mpr (by decide)⟩

/-- Of two lines of milk the robots offload the second, and the stock is credited
with both. -/
theorem offloaded_last_line :
    ∃ (items : List RestockItem) (w later : World) (broadcast : OrderBroadcast),
      (∀ pi ∈ items, 0 < pi.quantity.toInt) ∧ (∀ pi ∈ items, pi.aisleType ∈ deploymentAisles) ∧
      savedWork "restock-1" true later.memory = some (.restock items) ∧
      (∀ event ∈ (runScript (finalizeOrder "restock-1" true) later []).trace,
        InventoryAns.faulty event.op event.ans = false) ∧
      (orderingExec .works (.restockItemsOrder ⟨"restock-1", items⟩) w).2.broadcasts =
        w.broadcasts ++ [broadcast] ∧
      offloadedUnits deploymentWorkers broadcast "milk" = 2 ∧
      (runScript (finalizeOrder "restock-1" true) later []).state.1.stock.available "milk" -
        later.stock.available "milk" = 5 :=
  ⟨repeated, Sample.world, arrived repeated,
    orderBroadcast "restock-1" .restock (restockRobotItems repeated), by decide, by decide, rfl,
    finalized_fine (by decide +kernel), by rw [restockItemsOrder_works], by decide +kernel,
    by decide +kernel⟩

end AutoGrocery

import AutoGrocery.Catalog.Metrics
import AutoGrocery.Finalization.Restocking
import AutoGrocery.Relational.Overwrite

/-!
The loop of a restock finalization as a fold over the manifest. It writes the
stock table, sums up the cost and remembers the unit cost of each SKU, and skips
a line whose upsert fails; the SKUs it remembers are then read back and handed to
pricing. The cost is summed over all lines, as ordering did when the restock was
accepted.
-/

namespace AutoGrocery

open Interleaving InventoryHandler Relational

/-- The units of a SKU are the total of its lines. -/
theorem restockUnits_eq_keyTotal (items : List RestockItem) (sku : SKU) :
    restockUnits items sku =
      keyTotal RestockItem.sku (fun pi => pi.quantity.toInt) items sku := by
  simp only [restockUnits, keyTotal, eq_comm]

theorem restockUnits_append_singleton (items : List RestockItem) (pi : RestockItem) (sku : SKU) :
    restockUnits (items ++ [pi]) sku =
      restockUnits items sku + if sku = pi.sku then pi.quantity.toInt else 0 := by
  simp [restockUnits]

/-- Costs in whole cents. -/
def WholeCents (items : List RestockItem) : Prop :=
  ∀ pi ∈ items, ∃ cents : ℤ, pi.unitCost = cents / 100

/-- Only upserts fail, and one that fails has no effect. -/
structure OnlyUpsertsFail (items : List RestockItem) (script : List (CallFault Fault)) : Prop where
  read : (script.headD .works).mode = .works
  upserts : ∀ fault ∈ script.tail.take items.length, fault.mode.reaches = true → fault.mode = .works
  rest : ∀ fault ∈ script.tail.drop items.length, fault.mode = .works

/-- No answer is lost then. -/
theorem OnlyUpsertsFail.settled {items : List RestockItem} {script : List (CallFault Fault)}
    (hfail : OnlyUpsertsFail items script) :
    ∀ fault ∈ script, fault.mode.reaches = true → fault.mode = .works := by
  intro fault hfault hreaches
  cases script with
  | nil => cases hfault
  | cons first script =>
      rcases List.mem_cons.mp hfault with rfl | hlater
      · exact hfail.read
      have hsplit := List.take_append_drop items.length script
      rw [← hsplit] at hlater
      rcases List.mem_append.mp hlater with htake | hdrop
      · exact hfail.upserts fault htake hreaches
      · exact hfail.rest fault hdrop

/-! ### The loop -/

/-- What the loop has made of a stock table once the upserts of `added` have
taken effect. -/
structure Folded (stock : StockTable) (added : List RestockItem) (stock' : StockTable)
    (latestUnitCostBySKU : GoMap ℚ) : Prop where
  quantity : ∀ sku, stock'.available sku = stock.available sku + restockUnits added sku
  unitCost : ∀ sku pi, lastRow RestockItem.sku added sku = some pi →
    ∃ row, stock'.lookup sku = some row ∧ row.unitCost = pi.unitCost
  untouched : ∀ sku, lastRow RestockItem.sku added sku = none → stock'.lookup sku = stock.lookup sku
  latest : ∀ sku, latestUnitCostBySKU.lookup sku =
    (lastRow RestockItem.sku added sku).map RestockItem.unitCost

theorem Folded.start (stock : StockTable) : Folded stock [] stock ∅ := by
  refine ⟨fun sku => ?_, fun sku pi hlast => ?_, fun _ _ => rfl, fun sku => ?_⟩
  · simp [restockUnits]
  · cases hlast
  · simp

/-- **The step lemma**: one more upsert. -/
theorem Folded.upsert {stock stock₁ stock₂ : StockTable} {added : List RestockItem}
    {latestUnitCostBySKU : GoMap ℚ} {pi : RestockItem}
    (hfolded : Folded stock added stock₁ latestUnitCostBySKU)
    (hcents : ∃ cents : ℤ, pi.unitCost = cents / 100)
    (hok : stock₁.upsertStock (stockItem pi) = .ok stock₂) :
    Folded stock (added ++ [pi]) stock₂ (latestUnitCostBySKU.insert pi.sku pi.unitCost) := by
  obtain ⟨cents, hcents⟩ := hcents
  obtain ⟨hquantity, _⟩ := StockTable.upsertStock_ok hok
  obtain ⟨row, hinsert, hrow⟩ := StockTable.upsertStock_insert hok
  have hsame : stock₂.lookup pi.sku = some row := by
    rw [hinsert]
    exact AList.lookup_insert stock₁
  have hother : ∀ sku, pi.sku ≠ sku → stock₂.lookup sku = stock₁.lookup sku := by
    intro sku hsku
    rw [hinsert]
    exact AList.lookup_insert_ne (Ne.symm hsku)
  constructor
  · intro sku
    rw [hquantity, hfolded.quantity, restockUnits_append_singleton, add_assoc]
    rfl
  · intro sku last hlast
    rw [lastRow_append_singleton] at hlast
    by_cases hsku : pi.sku = sku
    · rw [if_pos hsku] at hlast
      cases hlast
      exact ⟨row, hsku ▸ hsame, hrow cents hcents⟩
    · rw [if_neg hsku] at hlast
      rw [hother sku hsku]
      exact hfolded.unitCost sku last hlast
  · intro sku hlast
    rw [lastRow_append_singleton] at hlast
    by_cases hsku : pi.sku = sku
    · rw [if_pos hsku] at hlast
      cases hlast
    · rw [if_neg hsku] at hlast
      rw [hother sku hsku]
      exact hfolded.untouched sku hlast
  · intro sku
    rw [lastRow_append_singleton]
    by_cases hsku : pi.sku = sku
    · subst hsku
      simp
    · rw [AList.lookup_insert_ne (Ne.symm hsku), if_neg hsku]
      exact hfolded.latest sku

/-- **The run lemma**: the loop goes on with the lines that are left, and uses
one entry of the script for each. -/
theorem upsertItems_folds {stock : StockTable} {added : List RestockItem} (items : List RestockItem)
    (totals : RestockTotals) {w : World} {script : List (CallFault Fault)}
    (hcents : WholeCents items)
    (hsettled : ∀ fault ∈ script.take items.length, fault.mode.reaches = true → fault.mode = .works)
    (hfolded : Folded stock added w.stock totals.latestUnitCostBySKU) :
    let outcome := (upsertItems items totals).run (scripted inventoryExec .works) (w, script)
    Folded stock (added ++ addedLines w.stock items script) outcome.state.1.stock
        outcome.value.latestUnitCostBySKU ∧
      outcome.state.2 = script.drop items.length := by
  induction items generalizing added totals w script with
  | nil => simpa [upsertItems, addedLines] using hfolded
  | cons pi rest ih =>
      obtain ⟨hpi, hrest⟩ := List.forall_mem_cons.mp hcents
      have hhead : (script.headD .works).mode.reaches = true → (script.headD .works).mode = .works := by
        cases script with
        | nil => exact fun _ => rfl
        | cons fault script => exact hsettled fault List.mem_cons_self
      have htail : ∀ fault ∈ script.tail.take rest.length,
          fault.mode.reaches = true → fault.mode = .works := by
        cases script with
        | nil => simp
        | cons fault script => exact fun later hlater => hsettled later (List.mem_cons_of_mem _ hlater)
      have hdrop : script.drop (pi :: rest).length = script.tail.drop rest.length := by
        cases script <;> simp
      rw [upsertItems, Prog.run_call, addedLines, hdrop]
      simp only [scripted]
      rcases upsert_settled pi w hhead with ⟨stock', heffect, hok, hanswer⟩ | ⟨heffect, err, hanswer⟩
      · rw [hanswer, heffect]
        let totals' : RestockTotals := ⟨totals.totalCost + pi.unitCost * pi.quantity.toInt,
          totals.latestUnitCostBySKU.insert pi.sku pi.unitCost⟩
        have hstep : Folded stock (added ++ [pi]) ({ w with stock := stock' } : World).stock
            totals'.latestUnitCostBySKU := hfolded.upsert hpi hok
        have hnext := ih totals' hrest htail hstep
        rw [List.append_assoc] at hnext
        exact hnext
      · rw [hanswer, heffect]
        exact ih _ hrest htail hfolded

/-! ### The read-back and the goroutine -/

private theorem stockMetrics_skus (latest : GoMap ℚ) (currentItems : GoMap StockRow) :
    ((stockMetrics latest currentItems).map StockMetric.sku).Sublist latest.keys := by
  rw [stockMetrics, AList.keys, List.keys]
  induction latest.entries with
  | nil => exact .slnil
  | cons entry rest ih =>
      cases hrow : currentItems.lookup entry.1 with
      | none => simpa [hrow] using ih.cons entry.1
      | some row => simpa [hrow] using ih

/-- The metrics that are read back after the loop: one for each SKU with a line
that took effect. -/
theorem Folded.metrics {stock stock' : StockTable} {added : List RestockItem} {latest : GoMap ℚ}
    (hfolded : Folded stock added stock' latest) :
    let metrics := stockMetrics latest (stock'.getBatchItems latest.keys)
    (metrics.map StockMetric.sku).Nodup ∧
      (∀ sku, sku ∈ metrics.map StockMetric.sku ↔ sku ∈ added.map RestockItem.sku) ∧
      ∀ metric ∈ metrics,
        metric.quantity.toInt = stock.available metric.sku + restockUnits added metric.sku ∧
          (lastRow RestockItem.sku added metric.sku).map RestockItem.unitCost =
            some metric.unitCost := by
  intro metrics
  have hmem : ∀ sku, sku ∈ latest ↔ sku ∈ added.map RestockItem.sku := by
    intro sku
    rw [← AList.lookup_isSome, hfolded.latest, Option.isSome_map, ← not_iff_not, Bool.not_eq_true,
      Option.isSome_eq_false_iff, Option.isNone_iff_eq_none]
    exact lastRow_eq_none RestockItem.sku
  refine ⟨(stockMetrics_skus _ _).nodup latest.nodupKeys, fun sku => ⟨fun hsku => ?_, fun hsku => ?_⟩,
    fun metric hmetric => ?_⟩
  · exact (hmem sku).mp ((stockMetrics_skus _ _).subset hsku)
  · have hlatest := (hmem sku).mpr hsku
    obtain ⟨cost, hcost⟩ := Option.isSome_iff_exists.mp (AList.lookup_isSome.mpr hlatest)
    rw [hfolded.latest] at hcost
    obtain ⟨pi, hlast, _⟩ := Option.map_eq_some_iff.mp hcost
    obtain ⟨row, hrow, _⟩ := hfolded.unitCost sku pi hlast
    exact mem_stockMetrics hlatest (AList.lookup_isSome.mp (by rw [hrow]; rfl))
  · obtain ⟨hcost, row, hrow, hquantity⟩ := of_mem_stockMetrics hmetric
    constructor
    · rw [← hquantity, ← StockTable.available_of_lookup hrow, hfolded.quantity]
    · rw [← hfolded.latest]
      exact hcost

/-- The metrics an operation sends to pricing. -/
def sentMetrics : InventoryOp → List StockMetric
  | .updateStockMetrics updates => updates
  | _ => []

/-- The goroutine sends what it was handed, if that is anything. -/
theorem asyncStockMetrics_sends (metrics : List StockMetric) (w : World)
    (script : List (CallFault Fault)) :
    (runScript (asyncStockMetrics metrics) w script).ops.flatMap sentMetrics = metrics := by
  unfold asyncStockMetrics
  split
  · rename_i hempty
    exact (List.length_eq_zero_iff.mp hempty).symm
  · show metrics ++ [] = metrics
    exact List.append_nil metrics

/-- A read-back that works reads what is in stock, and starts nothing. -/
private theorem pricingUpdates_run (latest : GoMap ℚ) (w : World) (script : List (CallFault Fault))
    (hworks : ∀ fault ∈ script, fault.mode = .works) :
    let outcome := (pricingUpdates latest).run (scripted inventoryExec .works) (w, script)
    outcome.value = stockMetrics latest (w.stock.getBatchItems latest.keys) ∧
      outcome.state.1 = w ∧ outcome.trace.flatMap goroutines = [] := by
  have hhead : (script.headD .works).mode = .works := by
    cases script with
    | nil => rfl
    | cons fault script => exact hworks fault List.mem_cons_self
  unfold pricingUpdates
  split
  · have hanswer : inventoryExec (script.headD .works) (.getBatchItems latest.keys) w =
        (.ok (w.stock.getBatchItems latest.keys), w) := by
      show (script.headD .works).mode.run _ _ w = _
      rw [hhead, Fault.run_works]
    rw [Prog.run_call]
    simp only [scripted, hanswer]
    exact ⟨rfl, rfl, rfl⟩
  · rename_i hnone
    have hempty : latest = ∅ := by
      apply AList.ext
      apply List.eq_nil_of_map_eq_nil
      exact List.eq_nil_of_length_eq_zero (Nat.eq_zero_of_not_pos hnone)
    subst hempty
    exact ⟨rfl, rfl, rfl⟩

private theorem upsertItems_starts_none (items : List RestockItem) (totals : RestockTotals) :
    (upsertItems items totals).Uses
      (fun op => ∀ answer : InventoryAns op, goroutines ⟨op, answer⟩ = []) := by
  induction items generalizing totals with
  | nil => exact .ret totals
  | cons pi rest ih =>
      refine .call (fun _ => rfl) fun answer => ?_
      cases answer <;> exact ih _

private theorem launchMetrics_run (orderID : OrderID) (totalCost : ℚ) (metrics : List StockMetric)
    (w : World) (script : List (CallFault Fault)) :
    let outcome := runScript (launchMetrics orderID totalCost metrics) w script
    outcome.state.1.stock = w.stock ∧
      outcome.trace.flatMap goroutines = [asyncStockMetrics metrics] := by
  have huses : (launchMetrics orderID totalCost metrics).Uses
      (fun op => op.writes ≠ some .stock) :=
    .call (by simp [InventoryOp.writes]) fun _ => .call (by simp [InventoryOp.writes]) fun _ =>
      .call (by simp [InventoryOp.writes]) fun _ => .ret _
  constructor
  · exact Prog.run_preserves (P := fun state : World × List (CallFault Fault) =>
      state.1.stock = w.stock) _ (fun _ _ hop h => (inventoryExec_stock hop).trans h) huses rfl
  · rfl

/-- `finalizeRestock` after its read: the loop folds the manifest, and one
goroutine is started with the metrics that are read back. -/
theorem restockRest_folds (orderID : OrderID) {items : List RestockItem} (w : World)
    {script : List (CallFault Fault)} (hcents : WholeCents items)
    (hupserts : ∀ fault ∈ script.take items.length, fault.mode.reaches = true → fault.mode = .works)
    (hrest : ∀ fault ∈ script.drop items.length, fault.mode = .works) :
    let outcome := runScript (restockRest orderID items) w script
    ∃ latest, Folded w.stock (addedLines w.stock items script) outcome.state.1.stock latest ∧
      outcome.trace.flatMap goroutines = [asyncStockMetrics
        (stockMetrics latest (outcome.state.1.stock.getBatchItems latest.keys))] := by
  intro outcome
  obtain ⟨hfolded, hscript⟩ := upsertItems_folds items ⟨0, ∅⟩ hcents hupserts (Folded.start w.stock)
  have hloop : outcome = _ := restockRest_loop orderID items w script
  have hquiet : ((upsertItems items ⟨0, ∅⟩).run (scripted inventoryExec .works)
      (w, script)).trace.flatMap goroutines = [] := by
    apply List.flatMap_eq_nil_iff.mpr
    intro event hevent
    exact Prog.run_ops _ (upsertItems_starts_none items ⟨0, ∅⟩) _ event hevent event.ans
  rw [List.nil_append] at hfolded
  set loop := (upsertItems items ⟨0, ∅⟩).run (scripted inventoryExec .works) (w, script)
  set latest := loop.value.latestUnitCostBySKU
  obtain ⟨hmetrics, hsame, hread⟩ := pricingUpdates_run latest loop.state.1 loop.state.2
    (hscript ▸ hrest)
  have hback := Prog.run_bind (scripted inventoryExec .works) (pricingUpdates latest)
    (launchMetrics orderID loop.value.totalCost) loop.state
  set back := (pricingUpdates latest).run (scripted inventoryExec .works) loop.state
  obtain ⟨hstock, hlaunch⟩ := launchMetrics_run orderID loop.value.totalCost back.value back.state.1
    back.state.2
  set launch := (launchMetrics orderID loop.value.totalCost back.value).run
    (scripted inventoryExec .works) back.state
  have houtcome : outcome = ⟨launch.value, launch.state, loop.trace ++ (back.trace ++ launch.trace)⟩ := by
    rw [hloop]
    exact congrArg (fun tail : Outcome InventoryAns (World × List (CallFault Fault)) Unit =>
      (⟨tail.value, tail.state, loop.trace ++ tail.trace⟩ : Outcome InventoryAns _ Unit)) hback
  have hfinal : outcome.state.1.stock = loop.state.1.stock := by
    rw [houtcome, ← hsame]
    exact hstock
  refine ⟨latest, hfinal ▸ hfolded, ?_⟩
  rw [hfinal, ← hmetrics, houtcome, List.flatMap_append, List.flatMap_append, hquiet, hread]
  exact hlaunch

/-! ### The cost -/

/-- The cost ordering stores with a new restock order. -/
def estimatedCost : OrderingOp → Option ℚ
  | .store (.createRestockOrder order _) => some order.totalCost
  | _ => none

/-- The `total_cost` a webhook post carries, as ordering decodes it. -/
def postedCost : InventoryOp → Option ℚ
  | .postWebhook _ payload => some (payload.number "total_cost")
  | _ => none

/-- Whatever is answered, the cost ordering stores for a manifest is the sum over
all its lines. -/
theorem restockOrder_estimates (manifest : TruckManifest) (restockUUID : OrderID) :
    (restockOrder (some manifest) restockUUID).Uses
      (fun op => ∀ cost, estimatedCost op = some cost → cost = manifestCost manifest.items) := by
  refine .call (fun cost hcost => by cases hcost) fun supplier => ?_
  cases supplier with
  | error err => exact .ret _
  | ok supplierID =>
      refine .call (fun cost hcost => (Option.some.inj hcost).symm) fun created => ?_
      cases created with
      | error err => exact .ret _
      | ok value =>
          refine .call (fun cost hcost => by cases hcost) fun answer => ?_
          cases answer with
          | error err => exact .ret _
          | ok resp =>
              dsimp only
              split
              · exact .ret _
              · exact .ret _

private theorem postedCost_of_posts {ops : List InventoryOp} {orderID : OrderID} {amount : ℚ}
    (hposts : ops.filter isPost = [completionPost orderID true amount]) :
    ops.filterMap postedCost = [amount] := by
  have hfilter : ops.filterMap postedCost = (ops.filter isPost).filterMap postedCost := by
    rw [List.filterMap_filter]
    apply List.filterMap_congr
    intro op _
    cases op <;> rfl
  rw [hfilter, hposts]
  rfl

/-- **A restock finalization folds its manifest.** Whichever upserts fail, the
stock grows by the lines that took effect, each of their SKUs stands at the unit
cost of its last such line, and the other rows are untouched. Pricing is sent
one metric for each of these SKUs, with the new quantity and the last cost. The
cost posted to ordering is the one ordering computed from the manifest. -/
theorem restock_folded {orderID : OrderID} {items : List RestockItem} {w : World}
    {script : List (CallFault Fault)}
    (hwork : savedWork orderID true w.memory = some (.restock items))
    (hcents : WholeCents items) (hfail : OnlyUpsertsFail items script) :
    let outcome := runScript (finalizeOrder orderID true) w script
    let added := addedLines w.stock items script.tail
    outcome.trace.filterMap storedItem = added.map stockItem ∧
    (∀ sku, outcome.state.1.stock.available sku =
      w.stock.available sku + restockUnits added sku) ∧
    (∀ sku pi, lastRow RestockItem.sku added sku = some pi →
      ∃ row, outcome.state.1.stock.lookup sku = some row ∧ row.unitCost = pi.unitCost) ∧
    (∀ sku, sku ∉ added.map RestockItem.sku →
      outcome.state.1.stock.lookup sku = w.stock.lookup sku) ∧
    (∃ metrics, outcome.trace.flatMap goroutines = [asyncStockMetrics metrics] ∧
      (∀ later script', (runScript (asyncStockMetrics metrics) later script').ops.flatMap
        sentMetrics = metrics) ∧
      (metrics.map StockMetric.sku).Nodup ∧
      (∀ sku, sku ∈ metrics.map StockMetric.sku ↔ sku ∈ added.map RestockItem.sku) ∧
      ∀ metric ∈ metrics,
        metric.quantity.toInt = w.stock.available metric.sku + restockUnits added metric.sku ∧
          (lastRow RestockItem.sku added metric.sku).map RestockItem.unitCost =
            some metric.unitCost) ∧
    ∃ cost, outcome.ops.filterMap postedCost = [cost] ∧
      ∀ supplierID restockUUID before (script' : List (CallFault (CallFault Fault))),
        ∀ estimate ∈ ((restockOrder (some ⟨supplierID, items⟩) restockUUID).run
          (scripted orderingExec .works) (before, script')).ops.filterMap estimatedCost,
          estimate = cost := by
  intro outcome added
  have hposts : outcome.ops.filter isPost = _ := restock_posts hwork hfail.read
  have hrun : outcome = _ := finalizeOrder_restockRest hwork hfail.read
  obtain ⟨_, hstored⟩ := restockRest_run orderID items w script.tail
  obtain ⟨latest, hfolded, hstarts⟩ :=
    restockRest_folds orderID w hcents hfail.upserts hfail.rest
  have hstate : outcome.state = (runScript (restockRest orderID items) w script.tail).state := by
    rw [hrun]
  rw [← hstate] at hfolded hstarts
  refine ⟨?_, hfolded.quantity, hfolded.unitCost, fun sku hsku => ?_, ?_, manifestCost items,
    postedCost_of_posts hposts, ?_⟩
  · rw [hrun]
    exact hstored fun fault hfault => hfail.settled fault (List.mem_of_mem_tail hfault)
  · exact hfolded.untouched sku ((lastRow_eq_none RestockItem.sku).mpr hsku)
  · refine ⟨_, ?_, asyncStockMetrics_sends _, hfolded.metrics⟩
    rw [← hstarts, hrun]
    rfl
  · intro supplierID restockUUID before script' estimate hestimate
    obtain ⟨op, hop, hcost⟩ := List.mem_filterMap.mp hestimate
    obtain ⟨event, hevent, rfl⟩ := List.mem_map.mp hop
    exact Prog.run_ops _ (restockOrder_estimates ⟨supplierID, items⟩ restockUUID) _ event hevent
      estimate hcost

/-- Two lines of milk around one of bread, at three costs. -/
private def pallets : List RestockItem :=
  [⟨"milk", "Milk", "dairy", 3, 1, 0, 0⟩, ⟨"bread", "Bread", "bread", 4, 2, 0, 0⟩,
    ⟨"milk", "Milk", "dairy", 2, 3, 0, 0⟩]

private def docked : World :=
  { Sample.world with memory := MemoryStore.empty.saveRestockItems 0 "restock-1" pallets }

/-- When the bread cannot be stored, the milk of both lines is, at the second
one's cost; the bread is paid for all the same. -/
theorem restock_folded_sample :
    let script : List (CallFault Fault) := [.works, .works, ⟨.fails "connection reset", []⟩]
    let outcome := runScript (finalizeOrder "restock-1" true) docked script
    (addedLines docked.stock pallets script.tail).map RestockItem.sku = ["milk", "milk"] ∧
      outcome.state.1.stock.available "milk" = 10 ∧
      (∃ row, outcome.state.1.stock.lookup "milk" = some row ∧ row.unitCost = 3) ∧
      outcome.state.1.stock.lookup "bread" = none ∧
      outcome.ops.filterMap postedCost = [17] := by
  have hcents : WholeCents pallets := by
    intro pi hpi
    simp only [pallets, List.mem_cons, List.not_mem_nil, or_false] at hpi
    rcases hpi with rfl | rfl | rfl
    · exact ⟨100, by norm_num⟩
    · exact ⟨200, by norm_num⟩
    · exact ⟨300, by norm_num⟩
  intro script outcome
  have hfail : OnlyUpsertsFail pallets script := by
    refine ⟨rfl, fun fault hfault hreaches => ?_, fun fault hfault => ?_⟩
    · rcases List.mem_cons.mp hfault with rfl | hlater
      · rfl
      · obtain rfl := List.mem_singleton.mp hlater
        cases hreaches
    · cases hfault
  obtain ⟨_, hquantity, hcost, huntouched, _⟩ :=
    @restock_folded "restock-1" pallets docked script rfl hcents hfail
  have hadded : addedLines docked.stock pallets script.tail =
      [⟨"milk", "Milk", "dairy", 3, 1, 0, 0⟩, ⟨"milk", "Milk", "dairy", 2, 3, 0, 0⟩] := by
    decide +kernel
  rw [hadded] at hquantity hcost huntouched
  refine ⟨by rw [hadded]; rfl, hquantity "milk", hcost "milk" _ rfl, huntouched "bread" (by decide), ?_⟩
  decide +kernel

end AutoGrocery

import AutoGrocery.Finalization.Completion

/-!
What a restock finalization puts into stock. It goes through the lines of the
manifest, skips a line whose upsert fails, and posts the completion with the cost
of the whole manifest whatever was skipped.
-/

namespace AutoGrocery

open Interleaving InventoryHandler

/-- The table after an upsert, if it takes effect: it reaches the database, and
its values fit their columns. -/
def upsertEffect (fault : CallFault Fault) (stock : StockTable) (pi : RestockItem) :
    Option StockTable :=
  if fault.mode.reaches then (stock.upsertStock (stockItem pi)).toOption else none

/-- The lines whose upsert takes effect. One entry of the script goes with each
line. -/
def addedLines : StockTable → List RestockItem → List (CallFault Fault) → List RestockItem
  | _, [], _ => []
  | stock, pi :: rest, script =>
      match upsertEffect (script.headD .works) stock pi with
      | some stock' => pi :: addedLines stock' rest script.tail
      | none => addedLines stock rest script.tail

/-- The units of a SKU in restock lines. -/
def restockUnits (items : List RestockItem) (sku : SKU) : Int :=
  (items.map fun pi => if sku = pi.sku then pi.quantity.toInt else 0).sum

/-- The item of an upsert that answered without an error. -/
def storedItem : Event InventoryAns → Option StockItem
  | ⟨.upsertStock item, .ok _⟩ => some item
  | _ => none

theorem addedLines_sublist (stock : StockTable) (items : List RestockItem)
    (script : List (CallFault Fault)) : (addedLines stock items script).Sublist items := by
  induction items generalizing stock script with
  | nil => exact .slnil
  | cons pi rest ih =>
      unfold addedLines
      split
      · exact (ih _ _).cons_cons pi
      · exact (ih _ _).cons pi

/-- What one upsert does to the table, and when it answers without an error. -/
private theorem upsert_exec (fault : CallFault Fault) (pi : RestockItem) (w : World) :
    (inventoryExec fault (.upsertStock (stockItem pi)) w).2.stock =
        (upsertEffect fault w.stock pi).getD w.stock ∧
      ((fault.mode.reaches = true → fault.mode = .works) →
        storedItem ⟨.upsertStock (stockItem pi),
            (inventoryExec fault (.upsertStock (stockItem pi)) w).1⟩ =
          (upsertEffect fault w.stock pi).map fun _ => stockItem pi) := by
  obtain ⟨mode, server⟩ := fault
  cases hok : w.stock.upsertStock (stockItem pi) with
  | error err =>
      cases mode <;> simp [inventoryExec, upsertEffect, Fault.run, Fault.reaches, World.onStock, hok,
        Except.map, Except.toOption, storedItem]
  | ok stock' =>
      cases mode <;> simp [inventoryExec, upsertEffect, Fault.run, Fault.reaches, World.onStock, hok,
        Except.map, Except.toOption, storedItem]

/-- An upsert whose answer is not lost either takes effect and says so, or fails
and changes nothing. -/
theorem upsert_settled {fault : CallFault Fault} (pi : RestockItem) (w : World)
    (hsettled : fault.mode.reaches = true → fault.mode = .works) :
    (∃ stock', upsertEffect fault w.stock pi = some stock' ∧
        w.stock.upsertStock (stockItem pi) = .ok stock' ∧
        inventoryExec fault (.upsertStock (stockItem pi)) w = (.ok (), { w with stock := stock' })) ∨
      upsertEffect fault w.stock pi = none ∧
        ∃ err, inventoryExec fault (.upsertStock (stockItem pi)) w = (.error err, w) := by
  obtain ⟨mode, server⟩ := fault
  cases mode with
  | works =>
      cases hok : w.stock.upsertStock (stockItem pi) with
      | error err =>
          exact Or.inr (by simp [inventoryExec, upsertEffect, Fault.reaches, World.onStock, hok,
            Except.map, Except.toOption])
      | ok stock' =>
          exact Or.inl (by simp [inventoryExec, upsertEffect, Fault.reaches, World.onStock, hok,
            Except.map, Except.toOption])
  | fails err => exact Or.inr ⟨rfl, _, rfl⟩
  | loses err => exact absurd (hsettled rfl) (Fault.loses_ne_works err)

/-- The loop: what the lines of the manifest do to the table. -/
private theorem upsertItems_run (items : List RestockItem) (totals : RestockTotals) (w : World)
    (script : List (CallFault Fault)) :
    let outcome := (upsertItems items totals).run (scripted inventoryExec .works) (w, script)
    let added := addedLines w.stock items script
    (∀ sku, outcome.state.1.stock.available sku =
      w.stock.available sku + restockUnits added sku) ∧
    ((∀ fault ∈ script, fault.mode.reaches = true → fault.mode = .works) →
      outcome.trace.filterMap storedItem = added.map stockItem) := by
  induction items generalizing totals w script with
  | nil => exact ⟨fun sku => by simp [upsertItems, addedLines, restockUnits], fun _ => rfl⟩
  | cons pi rest ih =>
      obtain ⟨hstock, hstored⟩ := upsert_exec (script.headD .works) pi w
      have hfault : (∀ fault ∈ script, fault.mode.reaches = true → fault.mode = .works) →
          ((script.headD .works).mode.reaches = true → (script.headD .works).mode = .works) ∧
          ∀ fault ∈ script.tail, fault.mode.reaches = true → fault.mode = .works := by
        intro hall
        cases script with
        | nil => exact ⟨fun _ => rfl, hall⟩
        | cons fault script => exact List.forall_mem_cons.mp hall
      set fault := script.headD .works with hhead
      set answer := inventoryExec fault (.upsertStock (stockItem pi)) w with hanswer
      have hrun : ∃ totals',
          let tail := (upsertItems rest totals').run (scripted inventoryExec .works)
            (answer.2, script.tail)
          let outcome := (upsertItems (pi :: rest) totals).run (scripted inventoryExec .works) (w, script)
          outcome.state = tail.state ∧
            outcome.trace = ⟨.upsertStock (stockItem pi), answer.1⟩ :: tail.trace := by
        rw [upsertItems, Prog.run_call]
        simp only [scripted, ← hhead, ← hanswer]
        cases answer.1 with
        | error err => exact ⟨_, rfl, rfl⟩
        | ok value => exact ⟨_, rfl, rfl⟩
      obtain ⟨totals', hstate, htrace⟩ := hrun
      obtain ⟨havailable, hitems⟩ := ih totals' answer.2 script.tail
      dsimp only at hstate htrace ⊢
      rw [hstate, htrace, List.filterMap_cons, addedLines, ← hhead]
      cases heffect : upsertEffect fault w.stock pi with
      | none =>
          rw [heffect, Option.getD_none] at hstock
          rw [hstock] at havailable hitems
          refine ⟨havailable, fun hall => ?_⟩
          rw [hstored (hfault hall).1, heffect]
          exact hitems (hfault hall).2
      | some stock' =>
          rw [heffect, Option.getD_some] at hstock
          rw [hstock] at havailable hitems
          have hok : w.stock.upsertStock (stockItem pi) = .ok stock' := by
            unfold upsertEffect at heffect
            split at heffect
            · cases hok : w.stock.upsertStock (stockItem pi) with
              | error err => simp [hok, Except.toOption] at heffect
              | ok found => simpa [hok, Except.toOption] using heffect
            · cases heffect
          refine ⟨fun sku => ?_, fun hall => ?_⟩
          · rw [havailable, (StockTable.upsertStock_ok hok).1, restockUnits, restockUnits, List.map_cons,
              List.sum_cons]
            exact add_assoc _ _ _
          · rw [hstored (hfault hall).1, heffect]
            exact congrArg (stockItem pi :: ·) (hitems (hfault hall).2)

/-- `finalizeRestock` after its loop. -/
def closeRestock (orderID : OrderID) (totals : RestockTotals) : InventoryProg Unit := do
  let metrics ← pricingUpdates totals.latestUnitCostBySKU
  let () ← .call (.goUpdateStockMetrics metrics) .ret
  callWebhook orderID totals.totalCost .updateRestock "total_cost"
  deleteOrderData orderID true

/-- A restock finalization runs its loop first. -/
theorem restockRest_loop (orderID : OrderID) (items : List RestockItem) (w : World)
    (script : List (CallFault Fault)) :
    runScript (restockRest orderID items) w script =
      let loop := (upsertItems items ⟨0, ∅⟩).run (scripted inventoryExec .works) (w, script)
      let rest := (closeRestock orderID loop.value).run (scripted inventoryExec .works) loop.state
      ⟨rest.value, rest.state, loop.trace ++ rest.trace⟩ :=
  Prog.run_bind (scripted inventoryExec .works) (upsertItems items ⟨0, ∅⟩) (closeRestock orderID)
    (w, script)

/-- After the loop nothing writes stock. -/
private theorem closeRestock_uses (orderID : OrderID) (totals : RestockTotals) :
    (closeRestock orderID totals).Uses (fun op => op.writes ≠ some .stock) := by
  have hmetrics : (pricingUpdates totals.latestUnitCostBySKU).Uses
      (fun op => op.writes ≠ some .stock) := by
    unfold pricingUpdates
    split
    · refine .call (by simp [InventoryOp.writes]) fun answer => ?_
      cases answer <;> exact .ret _
    · exact .ret _
  refine hmetrics.bind fun metrics => .call (by simp [InventoryOp.writes]) fun _ => ?_
  exact .call (by simp [InventoryOp.writes]) fun _ => .call (by simp [InventoryOp.writes]) fun _ => .ret _

private theorem storedItem_eq_none {event : Event InventoryAns}
    (hop : event.op.writes ≠ some .stock) : storedItem event = none := by
  obtain ⟨op, ans⟩ := event
  cases op <;> first | rfl | exact absurd rfl hop

theorem restockRest_run (orderID : OrderID) (items : List RestockItem) (w : World)
    (script : List (CallFault Fault)) :
    let outcome := runScript (restockRest orderID items) w script
    let added := addedLines w.stock items script
    (∀ sku, outcome.state.1.stock.available sku =
      w.stock.available sku + restockUnits added sku) ∧
    ((∀ fault ∈ script, fault.mode.reaches = true → fault.mode = .works) →
      outcome.trace.filterMap storedItem = added.map stockItem) := by
  intro outcome added
  obtain ⟨havailable, hstored⟩ := upsertItems_run items ⟨0, ∅⟩ w script
  have hsplit := restockRest_loop orderID items w script
  set loop := (upsertItems items ⟨0, ∅⟩).run (scripted inventoryExec .works) (w, script)
  set rest := (closeRestock orderID loop.value).run (scripted inventoryExec .works) loop.state
  have houtcome : outcome = ⟨rest.value, rest.state, loop.trace ++ rest.trace⟩ := hsplit
  have huses := closeRestock_uses orderID loop.value
  have hstock : rest.state.1.stock = loop.state.1.stock :=
    Prog.run_preserves (P := fun state : World × List (CallFault Fault) =>
      state.1.stock = loop.state.1.stock) _
      (fun _ _ hop h => (inventoryExec_stock hop).trans h) huses rfl
  have hquiet : rest.trace.filterMap storedItem = [] := by
    apply List.filterMap_eq_nil_iff.mpr
    intro event hevent
    exact storedItem_eq_none (Prog.run_ops _ huses _ event hevent)
  constructor
  · intro sku
    rw [houtcome, hstock]
    exact havailable sku
  · intro hall
    rw [houtcome, List.filterMap_append, hquiet, List.append_nil]
    exact hstored hall

section

variable {orderID : OrderID} {items : List RestockItem} {w : World} {script : List (CallFault Fault)}

/-- A restock finalization that finds its manifest makes one post. -/
theorem restock_posts (hwork : savedWork orderID true w.memory = some (.restock items))
    (hread : (script.headD .works).mode = .works) :
    (runScript (finalizeOrder orderID true) w script).ops.filter isPost =
      [completionPost orderID true (manifestCost items)] := by
  obtain ⟨first, body, hops, hfirst, _, hexecution⟩ := finalize_ops hwork hread
  have hpost : isPost first = false := by
    cases hpost : isPost first with
    | false => rfl
    | true => simp [(writes_ordering_iff first).mpr hpost] at hfirst
  have heffects : body.filter isPost = (body.filter isEffect).filter isPost := by
    rw [List.filter_filter]
    apply List.filter_congr
    intro op _
    cases op <;> rfl
  have hupserts : (items.map fun pi => InventoryOp.upsertStock (stockItem pi)).filter isPost = [] := by
    apply List.filter_eq_nil_iff.mpr
    intro op hop
    obtain ⟨pi, _, rfl⟩ := List.mem_map.mp hop
    exact Bool.false_ne_true
  have hbody : body.filter isEffect = _ := hexecution
  rw [hops, List.cons_append, List.filter_cons_of_neg (by simp [hpost]), List.filter_append, heffects,
    hbody, List.filter_append, hupserts]
  rfl

/-- A restock finalization that finds its manifest goes on to its loop. -/
theorem finalizeOrder_restockRest (hwork : savedWork orderID true w.memory = some (.restock items))
    (hread : (script.headD .works).mode = .works) :
    runScript (finalizeOrder orderID true) w script =
      let rest := runScript (restockRest orderID items) w script.tail
      ⟨rest.value, rest.state, ⟨.getRestockItems orderID, .ok items⟩ :: rest.trace⟩ := by
  obtain ⟨entry, hentry, hitems⟩ := Option.map_eq_some_iff.mp hwork
  cases hitems
  have hanswer : inventoryExec (script.headD .works) (.getRestockItems orderID) w =
      (.ok entry.value, w) := by
    show (script.headD .works).mode.run "" (fun w => (w.memory.getRestockItems orderID, w)) w = _
    rw [hread, Fault.run_works, MemoryStore.getRestockItems, RedisDB.getItems, hentry]
  show runScript (finalizeRestock orderID) w script = _
  rw [finalizeRestock, runScript, Prog.run_call]
  simp only [scripted, hanswer]
  rfl

/-- **What a completed restock added.** A finalization that finds its manifest
posts one completion, with the cost of every line, whatever became of the
upserts. The lines whose upsert took effect are in stock and no others; when no
answer is lost these are the lines whose upsert answered without an error. -/
theorem completed_restock_added
    (hwork : savedWork orderID true w.memory = some (.restock items))
    (hread : (script.headD .works).mode = .works) :
    let outcome := runScript (finalizeOrder orderID true) w script
    let added := addedLines w.stock items script.tail
    outcome.ops.filter isPost = [completionPost orderID true (manifestCost items)] ∧
    added.Sublist items ∧
    (∀ sku, outcome.state.1.stock.available sku =
      w.stock.available sku + restockUnits added sku) ∧
    ((∀ fault ∈ script, fault.mode.reaches = true → fault.mode = .works) →
      outcome.trace.filterMap storedItem = added.map stockItem) := by
  intro outcome added
  have hposts := restock_posts hwork hread
  have hrun : outcome = _ := finalizeOrder_restockRest hwork hread
  obtain ⟨havailable, hstored⟩ := restockRest_run orderID items w script.tail
  refine ⟨hposts, addedLines_sublist _ _ _, fun sku => ?_, fun hall => ?_⟩
  · rw [hrun]
    exact havailable sku
  · rw [hrun]
    exact hstored fun fault hfault => hall fault (List.mem_of_mem_tail hfault)

end

/-- A truck with three units of milk at 1.00 and four of bread at 2.00. -/
private def truck : List RestockItem :=
  [⟨"milk", "Milk", "dairy", 3, 1, 0, 0⟩, ⟨"bread", "Bread", "bread", 4, 2, 0, 0⟩]

private def unloaded : World :=
  { Sample.world with memory := MemoryStore.empty.saveRestockItems 0 "restock-1" truck }

/-- Finalized without a fault, the whole truck is in stock. -/
theorem completed_restock_added_sample :
    addedLines unloaded.stock truck [] = truck ∧
      ∀ sku, (runScript (finalizeOrder "restock-1" true) unloaded []).state.1.stock.available sku =
        unloaded.stock.available sku + restockUnits truck sku := by
  have hadded : addedLines unloaded.stock truck [] = truck := by decide +kernel
  obtain ⟨_, _, havailable, _⟩ :=
    @completed_restock_added "restock-1" truck unloaded [] rfl rfl
  rw [List.tail_nil, hadded] at havailable
  exact ⟨hadded, havailable⟩

/-- When the upsert of the milk fails, the restock is posted COMPLETED with the
cost of both lines, and there is no more milk than before. -/
theorem completed_restock_without_line :
    ∃ (w : World) (items : List RestockItem) (script : List (CallFault Fault)),
      savedWork "restock-1" true w.memory = some (.restock items) ∧
      let outcome := runScript (finalizeOrder "restock-1" true) w script
      outcome.ops.filter isPost = [completionPost "restock-1" true (manifestCost items)] ∧
        restockUnits items "milk" = 3 ∧
        outcome.state.1.stock.available "milk" = w.stock.available "milk" ∧
        manifestCost items = 11 ∧
        manifestCost (addedLines w.stock items script.tail) = 8 :=
  ⟨unloaded, truck, [.works, ⟨.fails "connection reset", []⟩], rfl, restock_posts rfl rfl, by decide +kernel,
    by decide +kernel, by decide +kernel, by decide +kernel⟩

end AutoGrocery

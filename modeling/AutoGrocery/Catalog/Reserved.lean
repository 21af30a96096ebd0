import AutoGrocery.Orders.Agreement

/-!
Which SKUs the lists of the system name. Rows of stock never go away, and only
an upsert adds one. If the lines of the orders and the maps saved in Redis name
SKUs with a row, an operation keeps it so, provided that a created order and a
dispatched one name such SKUs too.
-/

namespace AutoGrocery

open Interleaving

/-! ### Rows of stock and of the catalog -/

section

variable (fault : CallFault Fault) (op : InventoryOp) (w : World) {sku : SKU}

private theorem onStock_rows {α : Type} {result : StockTable → Except GoError (α × StockTable)}
    {P : StockTable → Prop} (hold : P w.stock)
    (hresult : ∀ value stock', result w.stock = .ok (value, stock') → P stock') (context : String) :
    P (fault.mode.run context (World.onStock result) w).2.stock := by
  rcases fault.mode.run_state context (World.onStock result) w with h | h
  · rw [h]
    exact hold
  · rw [h, World.onStock]
    cases hok : result w.stock with
    | error err => exact hold
    | ok answer => exact hresult answer.1 answer.2 hok

/-- An operation keeps the rows of stock, and only an upsert adds one. -/
theorem inventoryExec_rows :
    (sku ∈ (inventoryExec fault op w).2.stock → sku ∈ w.stock ∨
        ∃ item, op = .upsertStock item ∧ item.sku = sku) ∧
      (sku ∈ w.stock → sku ∈ (inventoryExec fault op w).2.stock) := by
  by_cases hwrites : op.writes = some .stock
  · cases op <;> simp only [InventoryOp.writes, Option.some.injEq, reduceCtorEq] at hwrites
    case reserveStock requests =>
      have hsame : sku ∈ (inventoryExec fault (.reserveStock requests) w).2.stock ↔ sku ∈ w.stock := by
        refine @onStock_rows fault w _ _ (fun stock => sku ∈ stock ↔ sku ∈ w.stock) Iff.rfl ?_ _
        intro reserved stock' hok
        exact (StockTable.reserveStock_ok hok).2.2 sku
      exact ⟨fun h => Or.inl (hsame.mp h), hsame.mpr⟩
    case releaseStock returns =>
      have hsame : sku ∈ (inventoryExec fault (.releaseStock returns) w).2.stock ↔ sku ∈ w.stock := by
        refine @onStock_rows fault w _ _ (fun stock => sku ∈ stock ↔ sku ∈ w.stock) Iff.rfl ?_ _
        intro value stock' hok
        cases hrelease : w.stock.releaseStock returns with
        | error err =>
            rw [hrelease] at hok
            cases hok
        | ok released =>
            rw [hrelease] at hok
            cases hok
            exact (StockTable.releaseStock_ok hrelease).2 sku
      exact ⟨fun h => Or.inl (hsame.mp h), hsame.mpr⟩
    case upsertStock item =>
      have hadded : (sku ∈ (inventoryExec fault (.upsertStock item) w).2.stock →
          sku ∈ w.stock ∨ item.sku = sku) ∧
          (sku ∈ w.stock → sku ∈ (inventoryExec fault (.upsertStock item) w).2.stock) := by
        refine @onStock_rows fault w _ _ (fun stock => (sku ∈ stock → sku ∈ w.stock ∨ item.sku = sku) ∧
          (sku ∈ w.stock → sku ∈ stock)) ⟨Or.inl, id⟩ ?_ _
        intro value stock' hok
        cases hupsert : w.stock.upsertStock item with
        | error err =>
            rw [hupsert] at hok
            cases hok
        | ok upserted =>
            rw [hupsert] at hok
            cases hok
            have hrows := (StockTable.upsertStock_ok hupsert).2 sku
            exact ⟨fun h => (hrows.mp h).symm.imp id Eq.symm, fun h => hrows.mpr (Or.inr h)⟩
      exact ⟨fun h => (hadded.1 h).imp id fun heq => ⟨item, rfl, heq⟩, hadded.2⟩
  · rw [inventoryExec_stock hwrites]
    exact ⟨Or.inl, id⟩

end

section

variable {w : World}

/-- A call that only writes stock asks pricing nothing. -/
private theorem stockCall_catalog {α : Type} {prog : InventoryProg (Except GoError α)}
    (huses : prog.Uses (fun op => op.writes = some .stock)) (fault : CallFault (CallFault Fault))
    (w : World) : (fault.call inventoryExec .works prog w).2.catalog = w.catalog := by
  refine fault.call_preserves inventoryExec .works (fun w' => w'.catalog = w.catalog)
    (fun fault op w' hop h => ?_) huses rfl
  exact (inventoryExec_catalog (by simp [hop])).trans h

/-- An operation of ordering adds and drops no row of stock and no price. -/
theorem orderingExec_rows {op : OrderingOp} (hpos : ∀ req, op = .reserveItems req → req.items.Positive)
    (hfine : OrderingAns.faulty op (orderingExec .works op w).1 = false) :
    (∀ sku, sku ∈ (orderingExec .works op w).2.stock ↔ sku ∈ w.stock) ∧
      (orderingExec .works op w).2.catalog = w.catalog := by
  cases op with
  | store statement => exact ⟨fun _ => Iff.rfl, rfl⟩
  | reserveItems req =>
      exact ⟨(reserveItems_works (hpos req rfl) w).2.1, stockCall_catalog (reserveItems_uses req) .works w⟩
  | releaseItems req =>
      exact ⟨(releaseItems_works req w hfine).2.1, stockCall_catalog (releaseItems_uses req) .works w⟩
  | processCustomerOrder req =>
      rw [processCustomerOrder_works]
      exact ⟨fun _ => Iff.rfl, rfl⟩
  | restockItemsOrder req =>
      rw [restockItemsOrder_works]
      exact ⟨fun _ => Iff.rfl, rfl⟩

end

/-! ### Lines -/

/-- The rows a statement leaves name SKUs of old rows or of the items it stores. -/
private theorem insertItems_skus {dbID : Nat} {items : List GroceryOrderItem}
    {rows rows' : List OrderItemRow} (hok : OrderingDB.insertItems dbID items rows = .ok rows') :
    ∀ line ∈ rows', line ∈ rows ∨ ∃ item ∈ items, item.sku = line.sku := by
  induction items generalizing rows with
  | nil =>
      obtain rfl := Except.ok.inj hok
      exact fun line hline => Or.inl hline
  | cons item rest ih =>
      unfold OrderingDB.insertItems at hok
      split at hok
      · cases hok
      · intro line hline
        rcases ih hok line hline with hrow | ⟨found, hfound, hsku⟩
        · rcases List.mem_append.mp hrow with hold | hnew
          · exact Or.inl hold
          · obtain rfl := List.mem_singleton.mp hnew
            exact Or.inr ⟨item, List.mem_cons_self, rfl⟩
        · exact Or.inr ⟨found, List.mem_cons_of_mem item hfound, hsku⟩

/-- A statement stores no line but those of a created order. -/
theorem storeExec_lines (now : Nat) (fault : Fault) (statement : StoreOp) (db : OrderingDB) :
    ∀ line ∈ (storeExec now fault statement db).2.groceryOrderItems, line ∈ db.groceryOrderItems ∨
      ∃ order items, statement = .createGroceryOrder order items ∧
        ∃ item ∈ items, item.sku = line.sku := by
  intro line hline
  have hchange := storeExec_change now fault statement db
  generalize hafter : (storeExec now fault statement db).2 = db' at hchange hline
  cases hchange with
  | keep hsame => exact Or.inl (hsame.items ▸ hline)
  | rewrite _ _ _ _ _ hitems _ => exact Or.inl (hitems ▸ hline)
  | delete _ _ hitems _ =>
      rw [hitems] at hline
      exact Or.inl (List.mem_filter.mp hline).1
  | @create order items _ _ _ hnew _ _ _ _ _ _ =>
      have hstep := (run_commit fault "" (OrderingDB.createGroceryOrder now order items) db).2
      have hstate : (fault.run "" (commit (OrderingDB.createGroceryOrder now order items)) db).2 = db' :=
        hafter
      rw [hstate] at hstep
      rcases hstep with hsame | hok
      · exact Or.inl (hsame ▸ hline)
      · rw [OrderingDB.createGroceryOrder, hnew] at hok
        obtain ⟨rows, hrows, hdone⟩ := bind_eq_ok hok
        cases hdone
        rcases insertItems_skus hrows line hline with hold | hitem
        · exact Or.inl hold
        · exact Or.inr ⟨order, items, rfl, hitem⟩

/-! ### Item lists -/

/-- Every SKU that a line of an order or a saved map names has a row of stock. -/
structure Reserved (w : World) : Prop where
  lines : ∀ line ∈ w.ordering.groceryOrderItems, line.sku ∈ w.stock
  saved : ∀ orderID items, w.memory.getOrderItems orderID = .ok items → ∀ sku ∈ items, sku ∈ w.stock

section

variable {w : World}

/-- What `GetOrderItems` answers names SKUs with a row. -/
theorem Reserved.read (hreserved : Reserved w) {orderID : OrderID} {dbItems : List GroceryOrderItem}
    (hread : w.ordering.getOrderItems orderID = .ok dbItems) : ∀ item ∈ dbItems, item.sku ∈ w.stock := by
  unfold OrderingDB.getOrderItems at hread
  split at hread
  · cases hread
  · cases hread
    intro item hitem
    obtain ⟨line, hline, rfl⟩ := List.mem_map.mp hitem
    exact hreserved.lines line (List.mem_filter.mp hline).1

/-- The map made of lines names their SKUs. -/
theorem mem_protoItems {dbItems : List GroceryOrderItem} {sku : SKU} (hsku : sku ∈ protoItems dbItems) :
    ∃ item ∈ dbItems, item.sku = sku := by
  obtain ⟨quantity, hquantity⟩ := Option.isSome_iff_exists.mp (AList.lookup_isSome.mpr hsku)
  rcases Relational.Table.mem_of_lookup_foldl GroceryOrderItem.sku
    (fun item => Int32.ofInt item.quantity) dbItems ∅ hquantity with ⟨item, hitem, heq, _⟩ | hnone
  · exact ⟨item, hitem, heq⟩
  · cases hnone

/-- An operation of ordering that meets no fault. -/
theorem Reserved.ordering (hreserved : Reserved w) {op : OrderingOp}
    (hpos : ∀ req, op = .reserveItems req → req.items.Positive)
    (hcreate : ∀ order items, op = .store (.createGroceryOrder order items) →
      ∀ item ∈ items, item.sku ∈ w.stock)
    (hprocess : ∀ req, op = .processCustomerOrder req → ∀ sku ∈ req.items, sku ∈ w.stock)
    (hfine : OrderingAns.faulty op (orderingExec .works op w).1 = false) :
    Reserved (orderingExec .works op w).2 := by
  have hrows := (orderingExec_rows hpos hfine).1
  constructor
  · intro line hline
    rw [hrows]
    rcases orderingExec_change .works op w with ⟨statement, rfl, _⟩ | hsame
    · rcases storeExec_lines w.now _ statement w.ordering line hline with
        hold | ⟨order, items, rfl, item, hitem, hsku⟩
      · exact hreserved.lines line hold
      · exact hsku ▸ hcreate order items rfl item hitem
    · rw [hsame] at hline
      exact hreserved.lines line hline
  · intro orderID items hsaved sku hsku
    rw [hrows]
    rcases orderingExec_saved .works op w with ⟨req, rfl, hmemory⟩ | hsame
    · rw [hmemory, MemoryStore.saveOrderItems_get] at hsaved
      split at hsaved
      · rw [← Except.ok.inj hsaved] at hsku
        exact hprocess req rfl sku hsku
      · exact hreserved.saved orderID items hsaved sku hsku
    · rw [MemoryStore.getOrderItems, hsame] at hsaved
      exact hreserved.saved orderID items hsaved sku hsku

/-- A callback stores no items. -/
theorem Reserved.callback (hreserved : Reserved w) (fault : CallFault Fault) {op : InventoryOp}
    (hop : isCallbackOp op) : Reserved (inventoryExec fault op w).2 := by
  have hrows {sku : SKU} (hsku : sku ∈ w.stock) : sku ∈ (inventoryExec fault op w).2.stock :=
    (inventoryExec_rows fault op w).2 hsku
  constructor
  · intro line hline
    rw [(callbackOp_completes hop fault w).orders.items] at hline
    exact hrows (hreserved.lines line hline)
  · intro orderID items hsaved sku hsku
    rcases callbackOp_items hop fault w orderID with hsame | hnone
    · rw [MemoryStore.getOrderItems, RedisDB.getItems, hsame] at hsaved
      exact hrows (hreserved.saved orderID items hsaved sku hsku)
    · rw [MemoryStore.getOrderItems, RedisDB.getItems, hnone] at hsaved
      cases hsaved

end

end AutoGrocery

import AutoGrocery.Finalization.Completion

/-!
The price of a completed client order. The finalization asks pricing for a bill
and posts the completion in any case, with a price of zero when no bill came
back. Ordering completes the order and ignores a price that is not positive. So
a completed order has the price of its bill when there was one, and otherwise
keeps the price it had.
-/

namespace AutoGrocery

open Interleaving

/-- The sum over the cart is the sum over the items. -/
theorem cart_bill (catalog : Catalog) (items : ItemMap) :
    ((InventoryHandler.cartItems items).map fun line =>
      catalog.price line.sku * line.quantity.toInt).sum = catalog.bill items := by
  rw [InventoryHandler.cartItems, List.map_map]
  rfl

/-- The order row after a completion that was recorded. -/
theorem updateOrderStatus_row {orderID : OrderID} {status : OrderStatus} {price : ℚ}
    {db db' : OrderingDB} {row : OrderRow} (hrow : db.groceryOrders.lookup orderID = some row)
    (hok : db.updateOrderStatus orderID status price = .ok db') :
    ∃ stored, db'.groceryOrders.lookup orderID = some { row with status, totalPrice := stored } ∧
      (0 < price → numeric price = .ok stored) ∧ (¬ 0 < price → stored = row.totalPrice) := by
  unfold OrderingDB.updateOrderStatus at hok
  rw [hrow] at hok
  dsimp only at hok
  split at hok
  · cases hok
  rename_i stored hstored
  cases hok
  refine ⟨stored, AList.lookup_insert _, fun hpos => ?_, fun hpos => ?_⟩
  · rw [if_pos hpos] at hstored
    exact hstored
  · rw [if_neg hpos] at hstored
    exact (Except.ok.inj hstored).symm

/-- The post that ends a finalization which found its items. The price it carries
is the bill if one came back and zero otherwise. -/
theorem finalizeClient_post {orderID : OrderID} {items : ItemMap} {w : World}
    {script : List (CallFault Fault)}
    (hwork : savedWork orderID false w.memory = some (.client items))
    (hread : (script.headD .works).mode = .works) :
    ∃ price, (runScript (InventoryHandler.finalizeOrder orderID false) w script).state.1.ordering =
        (inventoryExec (script.tail.tail.headD .works) (completionPost orderID false price) w).2.ordering ∧
      (Billed (script.tail.headD .works) (InventoryHandler.cartItems items) w.catalog →
        price = w.catalog.bill items) ∧
      (¬ Billed (script.tail.headD .works) (InventoryHandler.cartItems items) w.catalog →
        price = 0) := by
  obtain ⟨entry, hentry, hitems⟩ := Option.map_eq_some_iff.mp hwork
  cases hitems
  have hanswer : inventoryExec (script.headD .works) (.getOrderItems orderID) w =
      (.ok entry.value, w) := by
    show (script.headD .works).mode.run "" (fun w => (w.memory.getOrderItems orderID, w)) w = _
    rw [hread, Fault.run_works, MemoryStore.getOrderItems, RedisDB.getItems, hentry]
  obtain ⟨hcatalog, hbilled, hunbilled⟩ := calculateBill_call (script.tail.headD .works)
    (InventoryHandler.cartItems entry.value) w.catalog
  have hstate : (inventoryExec (script.tail.headD .works)
      (.calculateBill (InventoryHandler.cartItems entry.value)) w).2 = w := by
    show { w with catalog := _ } = w
    rw [hcatalog]
  have hrun : (runScript (InventoryHandler.finalizeOrder orderID false) w script).state.1 =
      (runScript (InventoryHandler.billClientOrder orderID entry.value) w script.tail).state.1 := by
    show (runScript (InventoryHandler.finalizeClientOrder orderID) w script).state.1 = _
    rw [InventoryHandler.finalizeClientOrder, runScript, Prog.run_call]
    simp only [scripted, hanswer]
  have hpost (price : ℚ) (script : List (CallFault Fault)) :
      (runScript (do
        InventoryHandler.callWebhook orderID price .updateOrder "total_price"
        InventoryHandler.deleteOrderData orderID false) w script).state.1.ordering =
      (inventoryExec (script.headD .works) (completionPost orderID false price) w).2.ordering :=
    inventoryExec_ordering (by simp [InventoryOp.writes])
  rw [hrun, InventoryHandler.billClientOrder, runScript, Prog.run_call]
  simp only [scripted, hstate]
  by_cases hbill : Billed (script.tail.headD .works) (InventoryHandler.cartItems entry.value) w.catalog
  · obtain ⟨resp, hresp, htotal⟩ := hbilled hbill
    have hresp' : (inventoryExec (script.tail.headD .works)
        (.calculateBill (InventoryHandler.cartItems entry.value)) w).1 = .ok resp := hresp
    refine ⟨resp.grandTotal, ?_, fun _ => htotal.trans (cart_bill _ _), fun h => absurd hbill h⟩
    rw [hresp']
    exact hpost resp.grandTotal script.tail.tail
  · obtain ⟨err, herr⟩ := hunbilled hbill
    have herr' : (inventoryExec (script.tail.headD .works)
        (.calculateBill (InventoryHandler.cartItems entry.value)) w).1 = .error err := herr
    refine ⟨0, ?_, fun h => absurd h hbill, fun _ => rfl⟩
    rw [herr']
    exact hpost 0 script.tail.tail

/-- Without its items a finalization changes nothing. -/
private theorem finalizeClient_unread {orderID : OrderID} {w : World} {script : List (CallFault Fault)}
    (hread : (script.headD .works).mode ≠ .works) :
    (runScript (InventoryHandler.finalizeOrder orderID false) w script).state.1 = w := by
  show (runScript (InventoryHandler.finalizeClientOrder orderID) w script).state.1 = w
  rw [InventoryHandler.finalizeClientOrder, runScript, Prog.run_call]
  simp only [scripted, inventoryExec]
  cases hmode : (script.headD .works).mode with
  | works => exact absurd hmode hread
  | fails err => rfl
  | loses err => rfl

/-- **The price of a completed order.** Let a finalization, under any faults,
take a client order's row to COMPLETED. If a bill came back and its total is
positive, the row's price is the sum over the items of quantity times the unit
price in the catalog. Otherwise the row has the price it had before. -/
theorem completed_order_price {orderID : OrderID} {items : ItemMap} {w : World}
    {script : List (CallFault Fault)} {row row' : OrderRow}
    (hwork : savedWork orderID false w.memory = some (.client items)) (hcents : w.catalog.Cents)
    (hrow : w.ordering.groceryOrders.lookup orderID = some row) (hopen : row.status ≠ .completed)
    (hrow' : (runScript (InventoryHandler.finalizeOrder orderID false) w
      script).state.1.ordering.groceryOrders.lookup orderID = some row')
    (hdone : row'.status = .completed) :
    (Billed (script.tail.headD .works) (InventoryHandler.cartItems items) w.catalog →
      0 < w.catalog.bill items → row'.totalPrice = w.catalog.bill items) ∧
    (¬ (Billed (script.tail.headD .works) (InventoryHandler.cartItems items) w.catalog ∧
      0 < w.catalog.bill items) → row'.totalPrice = row.totalPrice) := by
  have hunchanged {db : OrderingDB} (hsame : db = w.ordering)
      (h : db.groceryOrders.lookup orderID = some row') : False := by
    rw [hsame, hrow] at h
    exact hopen (Option.some.inj h ▸ hdone)
  by_cases hread : (script.headD .works).mode = .works
  case neg => exact (hunchanged (by rw [finalizeClient_unread hread]) hrow').elim
  obtain ⟨price, hordering, hbilled, hunbilled⟩ := finalizeClient_post hwork hread
  rw [hordering, post_run] at hrow'
  split at hrow'
  case isFalse => exact (hunchanged rfl hrow').elim
  cases hexecutes : ((script.tail.tail.headD .works).server.headD .works).reaches with
  | false =>
      rw [Fault.run_state_of_not_reaches hexecutes] at hrow'
      exact (hunchanged rfl hrow').elim
  | true =>
      rw [Fault.run_state_of_reaches hexecutes, commit] at hrow'
      cases hok : recordCompletion orderID false price w.ordering with
      | error err =>
          rw [hok] at hrow'
          exact (hunchanged rfl hrow').elim
      | ok db =>
          rw [hok] at hrow'
          obtain ⟨stored, hstored, hpositive, hignored⟩ := updateOrderStatus_row hrow hok
          obtain rfl := Option.some.inj (hstored.symm.trans hrow')
          constructor
          · intro hbill hpos
            rw [hbilled hbill] at hpositive
            obtain ⟨cents, hwhole⟩ := Catalog.bill_cents hcents items
            have hnumeric := hpositive hpos
            rw [hwhole] at hnumeric
            rw [hwhole]
            exact numeric_cents hnumeric
          · intro hnot
            apply hignored
            intro hpos
            by_cases hbill : Billed (script.tail.headD .works) (InventoryHandler.cartItems items)
                w.catalog
            · rw [hbilled hbill] at hpos
              exact hnot ⟨hbill, hpos⟩
            · rw [hunbilled hbill] at hpos
              exact lt_irrefl 0 hpos

/-- A dispatched client order of two units of milk at 1.50. -/
private def billable : World :=
  { Sample.world with
    ordering := Sample.world.ordering.updateStatus "order-1" .processing
    memory := MemoryStore.empty.saveOrderItems 0 "order-1" Sample.items }

private theorem billable_cents : billable.catalog.Cents := by
  intro sku row hrow
  have hentry := AList.mem_lookup_iff.mp hrow
  have honly : billable.catalog.rows.entries = [⟨"milk", ⟨1, 3 / 2⟩⟩] := by decide +kernel
  rw [honly] at hentry
  obtain ⟨_, hvalue⟩ := Sigma.mk.inj (List.mem_singleton.mp hentry)
  exact ⟨150, by rw [eq_of_heq hvalue]; norm_num⟩

/-- Finalized without a fault it costs 3.00. -/
theorem completed_order_price_sample :
    ∃ row', (runScript (InventoryHandler.finalizeOrder "order-1" false) billable
        []).state.1.ordering.groceryOrders.lookup "order-1" = some row' ∧
      row'.totalPrice = billable.catalog.bill Sample.items ∧ billable.catalog.bill Sample.items = 3 := by
  have hbilled : Billed (([] : List (CallFault Fault)).tail.headD .works)
      (InventoryHandler.cartItems Sample.items) billable.catalog :=
    ⟨rfl, rfl, by decide +kernel⟩
  exact ⟨⟨1, 7, .completed, 3, 0⟩, by decide +kernel,
    (@completed_order_price "order-1" _ _ [] ⟨1, 7, .processing, 0, 0⟩ _ rfl billable_cents (by decide +kernel)
      (by decide) (by decide +kernel) rfl).1 hbilled (by decide +kernel), by decide +kernel⟩

/-- When pricing cannot be reached the order is COMPLETED all the same, with a
price of zero for items worth 3.00. -/
theorem completed_without_bill :
    ∃ (w : World) (items : ItemMap) (script : List (CallFault Fault)) (row' : OrderRow),
      savedWork "order-1" false w.memory = some (.client items) ∧ items.Positive ∧
      w.catalog.Cents ∧
      (runScript (InventoryHandler.finalizeOrder "order-1" false) w
        script).state.1.ordering.groceryOrders.lookup "order-1" = some row' ∧
      row'.status = .completed ∧ row'.totalPrice = 0 ∧ w.catalog.bill items = 3 :=
  ⟨billable, Sample.items, [.works, ⟨.fails "connection refused", []⟩], ⟨1, 7, .completed, 0, 0⟩,
    rfl, by decide +kernel, billable_cents, by decide +kernel, rfl, rfl, by decide +kernel⟩

end AutoGrocery

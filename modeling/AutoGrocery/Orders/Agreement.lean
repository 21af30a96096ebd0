import AutoGrocery.Orders.Requests

/-!
The places where the items of a client order are kept: its lines in the
ordering database, the map saved in Redis, and the broadcasts to the robots.
An operation keeps them in agreement on one map if the order, when it creates
it, gets the lines of that map, and the map it dispatches is that map.
-/

namespace AutoGrocery

open Interleaving

/-- Wherever the world keeps items of the order, they are these. -/
structure Agreed (orderID : OrderID) (items : ItemMap) (w : World) : Prop where
  wellFormed : w.ordering.WellFormed
  stored : ∀ row, w.ordering.groceryOrders.lookup orderID = some row →
    Lists OrderItemRow.sku OrderItemRow.quantity (w.ordering.itemRows row.id) items
  saved : ∀ saved, w.memory.getOrderItems orderID = .ok saved → saved.Same items
  told : ∀ broadcast ∈ w.broadcasts, broadcast.orderType = .customer →
    broadcast.orderID = orderID → Lists BroadcastItem.sku BroadcastItem.quantity broadcast.items items

/-! ### Broadcasts -/

/-- The broadcast of a customer order lists the map it was dispatched with. -/
theorem orderBroadcast_lists (orderID : OrderID) (dbItems : GoMap StockRow) (items : ItemMap) :
    Lists BroadcastItem.sku BroadcastItem.quantity
      (orderBroadcast orderID .customer (InventoryHandler.robotItems dbItems items)).items items := by
  refine ⟨orderBroadcast_nodup _ _ _, fun s q => ?_⟩
  have hlookup := Relational.Table.lookup_selectRows (fun sku (quantity : Int32) =>
    some (⟨quantity, ((dbItems.lookup sku).map StockRow.aisleType).getD "Unknown"⟩ : ItemDetails)) items
  constructor
  · intro hitem
    have hdetails := hlookup s
    rw [hitem] at hdetails
    exact ⟨_, List.mem_map_of_mem (AList.mem_lookup_iff.mp hdetails), rfl, rfl⟩
  · rintro ⟨_, hrow, rfl, rfl⟩
    obtain ⟨entry, hentry, rfl⟩ := List.mem_map.mp hrow
    have hdetails := (hlookup entry.1).symm.trans (AList.mem_lookup_iff.mpr hentry)
    obtain ⟨quantity, hitem, heq⟩ := Option.bind_eq_some_iff.mp hdetails
    rw [hitem, ← Option.some.inj heq]

section

variable (fault : CallFault (CallFault Fault)) (w : World)

/-- A command is broadcast or not. -/
private theorem sendRobotCommand_exec (fault : CallFault Fault) (orderID : OrderID)
    (orderType : OrderType) (items : GoMap ItemDetails) (w : World) :
    ∀ broadcast ∈ (inventoryExec fault (.sendRobotCommand orderID orderType items) w).2.broadcasts,
      broadcast ∈ w.broadcasts ∨ broadcast = orderBroadcast orderID orderType items := by
  have hsent : ∀ broadcast ∈ w.broadcasts ++ [orderBroadcast orderID orderType items],
      broadcast ∈ w.broadcasts ∨ broadcast = orderBroadcast orderID orderType items := by
    intro broadcast hbroadcast
    rcases List.mem_append.mp hbroadcast with hold | hnew
    · exact Or.inl hold
    · exact Or.inr (List.mem_singleton.mp hnew)
  rcases fault with ⟨_ | _ | _, server⟩
  · exact hsent
  · exact fun _ => Or.inl
  · exact hsent

/-- A call of `ProcessCustomerOrder` broadcasts the items it was given. -/
theorem processCustomerOrder_tells (req : ProcessCustomerOrderRequest) :
    ∀ broadcast ∈ (orderingExec fault (.processCustomerOrder req) w).2.broadcasts,
      broadcast ∈ w.broadcasts ∨ ∃ dbItems, broadcast = orderBroadcast req.orderID .customer
        (InventoryHandler.robotItems dbItems req.items) := by
  refine fault.call_preserves inventoryExec .works
    (fun w' => ∀ broadcast ∈ w'.broadcasts, broadcast ∈ w.broadcasts ∨ ∃ dbItems, broadcast =
      orderBroadcast req.orderID .customer (InventoryHandler.robotItems dbItems req.items))
    (fun fault op w' hop h => ?_) (processCustomerOrder_uses req) fun _ => Or.inl
  rcases hop with rfl | hnone | ⟨dbItems, rfl⟩
  · rw [inventoryExec_broadcasts (by simp [InventoryOp.writes])]
    exact h
  · rw [inventoryExec_broadcasts (by simp [hnone])]
    exact h
  · intro broadcast hbroadcast
    rcases sendRobotCommand_exec fault _ _ _ w' broadcast hbroadcast with hold | hnew
    · exact h broadcast hold
    · exact Or.inr ⟨dbItems, hnew⟩

/-- A call of `RestockItemsOrder` broadcasts a restock. -/
theorem restockItemsOrder_tells (req : RestockItemsOrderRequest) :
    ∀ broadcast ∈ (orderingExec fault (.restockItemsOrder req) w).2.broadcasts,
      broadcast ∈ w.broadcasts ∨ broadcast.orderType = .restock := by
  refine fault.call_preserves inventoryExec .works
    (fun w' => ∀ broadcast ∈ w'.broadcasts, broadcast ∈ w.broadcasts ∨ broadcast.orderType = .restock)
    (fun fault op w' hop h => ?_) (restockItemsOrder_uses req) fun _ => Or.inl
  rcases hop with rfl | rfl
  · rw [inventoryExec_broadcasts (by simp [InventoryOp.writes])]
    exact h
  · intro broadcast hbroadcast
    rcases sendRobotCommand_exec fault _ _ _ w' broadcast hbroadcast with hold | hnew
    · exact h broadcast hold
    · exact Or.inr (by rw [hnew]; rfl)

end

/-! ### Redis -/

namespace MemoryStore

/-- What `GET` answers after a save. -/
theorem saveOrderItems_get (now : Nat) (saved orderID : OrderID) (items : ItemMap) (m : MemoryStore) :
    (m.saveOrderItems now saved items).getOrderItems orderID =
      if orderID = saved then .ok items else m.getOrderItems orderID := by
  by_cases heq : orderID = saved
  · subst heq
    simp [saveOrderItems, getOrderItems, RedisDB.setItems, RedisDB.getItems]
  · simp [saveOrderItems, getOrderItems, RedisDB.setItems, RedisDB.getItems, heq]

end MemoryStore

/-- A callback saves no items of a client order. -/
theorem callbackOp_items {op : InventoryOp} (hop : isCallbackOp op) (fault : CallFault Fault)
    (w : World) (orderID : OrderID) :
    ((inventoryExec fault op w).2.memory.clientClient orderID).items =
        (w.memory.clientClient orderID).items ∨
      ((inventoryExec fault op w).2.memory.clientClient orderID).items = none := by
  have hcommand {α : Type} (command : MemoryStore → α × MemoryStore)
      (hitems : ((command w.memory).2.clientClient orderID).items =
          (w.memory.clientClient orderID).items ∨
        ((command w.memory).2.clientClient orderID).items = none) :
      ((fault.mode.run "" (World.onMemory command) w).2.memory.clientClient orderID).items =
          (w.memory.clientClient orderID).items ∨
        ((fault.mode.run "" (World.onMemory command) w).2.memory.clientClient orderID).items = none := by
    rcases fault.mode.run_state "" (World.onMemory command) w with h | h
    · exact Or.inl (by rw [h])
    · rw [h]
      exact hitems
  by_cases hwrites : op.writes = some .memory
  · cases op <;> simp only [InventoryOp.writes, Option.some.injEq, reduceCtorEq] at hwrites
    case saveOrderItems => exact hop.elim
    case saveRestockItems => exact hop.elim
    case incrementRobotCount reported isRestock =>
      apply hcommand
      cases isRestock with
      | false => exact Or.inl (RedisDB.incr_items _ _ _)
      | true => exact Or.inl rfl
    case deleteOrderData deleted isRestock =>
      apply hcommand
      cases isRestock with
      | false => exact (RedisDB.del_items _ _ _).symm
      | true => exact Or.inl rfl
    case tryMarkOrderFinalized marked isRestock =>
      apply hcommand
      cases isRestock with
      | false => exact Or.inl (RedisDB.setNX_items _ _ _ _)
      | true => exact Or.inl rfl
  · exact Or.inl (by rw [inventoryExec_memory hwrites])

/-! ### The agreement is kept -/

section

variable {orderID : OrderID} {items : ItemMap} {w : World}

/-- The lines a preview stores for its reserved map. -/
theorem created_lists {now : Nat} {order : GroceryOrder} {db db' : OrderingDB} {row : OrderRow}
    (hwf : db.WellFormed) (hok : db.createGroceryOrder now order (orderLines items) = .ok db')
    (hrow : db'.groceryOrders.lookup order.orderID = some row) :
    Lists OrderItemRow.sku OrderItemRow.quantity (db'.itemRows row.id) items := by
  have hnew := createGroceryOrder_new hok
  rw [createGroceryOrder_orderLines now order items db hnew] at hok
  obtain rfl := Except.ok.inj hok
  rw [AList.lookup_insert] at hrow
  obtain rfl := Option.some.inj hrow
  set lines : List OrderItemRow := items.entries.map fun entry => ⟨db.nextOrderID, entry.1, entry.2⟩
  have hold : db.groceryOrderItems.filter (fun line => line.orderID = db.nextOrderID) = [] := by
    apply List.filter_eq_nil_iff.mpr
    intro line hline
    have hissued := hwf.lines line hline
    simp only [decide_eq_true_eq]
    omega
  have hlines : lines.filter (fun line => line.orderID = db.nextOrderID) = lines := by
    apply List.filter_eq_self.mpr
    intro line hline
    obtain ⟨entry, _, rfl⟩ := List.mem_map.mp hline
    simp
  rw [OrderingDB.itemRows, List.filter_append, hold, hlines, List.nil_append]
  exact lists_entries _ (fun _ => rfl) fun _ => rfl

/-- Only a dispatch saves items of a client order. -/
theorem orderingExec_saved (fault : CallFault (CallFault Fault)) (op : OrderingOp) (w : World) :
    (∃ req, op = .processCustomerOrder req ∧ (orderingExec fault op w).2.memory =
        w.memory.saveOrderItems w.now req.orderID req.items) ∨
      (orderingExec fault op w).2.memory.clientClient = w.memory.clientClient := by
  cases op with
  | store op => exact Or.inr rfl
  | reserveItems req =>
      exact Or.inr (congrArg MemoryStore.clientClient (stockCall_frame fault w (reserveItems_uses req)).2.1)
  | releaseItems req =>
      exact Or.inr (congrArg MemoryStore.clientClient (stockCall_frame fault w (releaseItems_uses req)).2.1)
  | processCustomerOrder req =>
      rcases processCustomerOrder_memory fault w req with h | h
      · exact Or.inr (congrArg MemoryStore.clientClient h)
      · exact Or.inl ⟨req, rfl, h⟩
  | restockItemsOrder req =>
      right
      rcases restockItemsOrder_memory fault w req with h | h
      · rw [h]
      · rw [h, MemoryStore.saveRestockItems]

/-- Only a dispatch tells the robots of a client order. -/
private theorem orderingExec_told (fault : CallFault (CallFault Fault)) (op : OrderingOp) (w : World) :
    ∀ broadcast ∈ (orderingExec fault op w).2.broadcasts, broadcast ∈ w.broadcasts ∨
      broadcast.orderType = .restock ∨ ∃ req dbItems, op = .processCustomerOrder req ∧
        broadcast = orderBroadcast req.orderID .customer
          (InventoryHandler.robotItems dbItems req.items) := by
  intro broadcast hbroadcast
  cases op with
  | store op => exact Or.inl hbroadcast
  | reserveItems req =>
      have hsame := (stockCall_frame fault w (reserveItems_uses req)).2.2
      exact Or.inl (hsame ▸ hbroadcast)
  | releaseItems req =>
      have hsame := (stockCall_frame fault w (releaseItems_uses req)).2.2
      exact Or.inl (hsame ▸ hbroadcast)
  | processCustomerOrder req =>
      rcases processCustomerOrder_tells fault w req broadcast hbroadcast with hold | ⟨dbItems, hnew⟩
      · exact Or.inl hold
      · exact Or.inr (Or.inr ⟨req, dbItems, rfl, hnew⟩)
  | restockItemsOrder req =>
      rcases restockItemsOrder_tells fault w req broadcast hbroadcast with hold | hnew
      · exact Or.inl hold
      · exact Or.inr (Or.inl hnew)

/-- The lines of an order that no statement created just now are the old ones. -/
private theorem Agreed.stored_kept (hagreed : Agreed orderID items w) {db : OrderingDB} {row' : OrderRow}
    (hkept : ∃ row, w.ordering.groceryOrders.lookup orderID = some row ∧ row.id = row'.id ∧
      db.itemRows row'.id = w.ordering.itemRows row'.id) :
    Lists OrderItemRow.sku OrderItemRow.quantity (db.itemRows row'.id) items := by
  obtain ⟨row, hrow, hid, hlines⟩ := hkept
  rw [hlines, ← hid]
  exact hagreed.stored row hrow

/-- An operation of ordering that gives the order no other lines and dispatches
it with no other map keeps the agreement. -/
theorem Agreed.ordering (hagreed : Agreed orderID items w) (fault : CallFault (CallFault Fault))
    {op : OrderingOp}
    (hcreate : ∀ order lines, op = .store (.createGroceryOrder order lines) →
      order.orderID = orderID → lines = orderLines items)
    (hprocess : ∀ req, op = .processCustomerOrder req → req.orderID = orderID →
      req.items.Same items) : Agreed orderID items (orderingExec fault op w).2 := by
  refine ⟨orderingExec_wellFormed fault op w hagreed.wellFormed, fun row hrow => ?_,
    fun saved hsaved => ?_, fun broadcast hbroadcast htype horder => ?_⟩
  · rcases orderingExec_change fault op w with ⟨statement, rfl, hchange⟩ | hsame
    · by_cases hnew : ∃ order lines, statement = .createGroceryOrder order lines ∧
        order.orderID = orderID
      · obtain ⟨order, lines, rfl, rfl⟩ := hnew
        obtain rfl := hcreate order lines rfl rfl
        have hcommit := run_commit fault.mode ""
          (OrderingDB.createGroceryOrder w.now order (orderLines items)) w.ordering
        rcases hcommit.2 with hsame | hok
        · have hordering : (orderingExec fault (.store (.createGroceryOrder order (orderLines items)))
              w).2.ordering = w.ordering := hsame
          rw [hordering] at hrow ⊢
          exact hagreed.stored row hrow
        · exact created_lists hagreed.wellFormed hok hrow
      · apply hagreed.stored_kept
        apply hchange.kept hagreed.wellFormed hrow
        intro order lines heq horder
        exact hnew ⟨order, lines, heq, horder⟩
    · rw [hsame] at hrow ⊢
      exact hagreed.stored row hrow
  · rcases orderingExec_saved fault op w with ⟨req, rfl, hmemory⟩ | hsame
    · rw [hmemory, MemoryStore.saveOrderItems_get] at hsaved
      split at hsaved
      · rename_i heq
        rw [← Except.ok.inj hsaved]
        exact hprocess req rfl heq.symm
      · exact hagreed.saved saved hsaved
    · rw [MemoryStore.getOrderItems, hsame] at hsaved
      exact hagreed.saved saved hsaved
  · rcases orderingExec_told fault op w broadcast hbroadcast with hold | hrestock | ⟨req, dbItems, rfl, rfl⟩
    · exact hagreed.told broadcast hold htype horder
    · rw [htype] at hrestock
      cases hrestock
    · exact (orderBroadcast_lists req.orderID dbItems req.items).same (hprocess req rfl horder)

/-- A callback keeps the agreement. -/
theorem Agreed.callback (hagreed : Agreed orderID items w) (fault : CallFault Fault)
    {op : InventoryOp} (hop : isCallbackOp op) : Agreed orderID items (inventoryExec fault op w).2 := by
  have horders := (callbackOp_completes hop fault w).orders
  refine ⟨horders.wellFormed hagreed.wellFormed, fun row hrow => ?_, fun saved hsaved => ?_,
    fun broadcast hbroadcast => ?_⟩
  · apply hagreed.stored_kept
    obtain ⟨before, hbefore, hid, _⟩ := horders.row hrow
    exact ⟨before, hbefore, hid, by rw [OrderingDB.itemRows, horders.items]; rfl⟩
  · rcases callbackOp_items hop fault w orderID with hsame | hnone
    · rw [MemoryStore.getOrderItems, RedisDB.getItems, hsame] at hsaved
      exact hagreed.saved saved hsaved
    · rw [MemoryStore.getOrderItems, RedisDB.getItems, hnone] at hsaved
      cases hsaved
  · rw [callbackOp_broadcasts hop] at hbroadcast
    exact hagreed.told broadcast hbroadcast

end

end AutoGrocery

import AutoGrocery.Orders.Calls

/-!
The cart of a preview. The request lists lines, and the handler makes a map of
them that keeps the last line of a SKU. What is reserved, stored and returned is
the map, so it is the whole cart exactly when no SKU stands in two lines.
-/

namespace AutoGrocery

open Interleaving InventoryHandler Relational

/-- The units of a SKU in a cart. -/
def cartUnits (cart : List CartItem) (sku : SKU) : Int :=
  (cart.map fun item => if item.sku = sku then item.quantity.toInt else 0).sum

/-- The map holds the last quantity of each SKU. -/
theorem cartMap_units (cart : List CartItem) (sku : SKU) :
    (cartMap cart).units sku =
      lastWeight CartItem.sku (fun item => item.quantity.toInt) cart sku :=
  ItemMap.units_foldl CartItem.sku CartItem.quantity cart sku

/-- The map has the SKUs of the cart. -/
theorem mem_cartMap {cart : List CartItem} {sku : SKU} :
    sku ∈ cartMap cart ↔ sku ∈ cart.map CartItem.sku := by
  have hlookup := Table.lookup_foldl CartItem.sku CartItem.quantity cart sku
  rw [← AList.lookup_isSome, cartMap, hlookup, Option.isSome_map, Option.isSome_iff_ne_none, ne_eq,
    lastRow_eq_none, not_not]

theorem cartMap_positive {cart : List CartItem} (hpositive : ∀ item ∈ cart, 0 < item.quantity.toInt) :
    (cartMap cart).Positive := by
  intro sku quantity hlookup
  rw [cartMap, Table.lookup_foldl CartItem.sku CartItem.quantity] at hlookup
  obtain ⟨item, hlast, rfl⟩ := Option.map_eq_some_iff.mp hlookup
  exact hpositive item (of_lastRow CartItem.sku hlast).1

/-- The map holds the units of the cart on every SKU exactly when none repeats. -/
theorem cartMap_units_iff {cart : List CartItem}
    (hpositive : ∀ item ∈ cart, 0 < item.quantity.toInt) :
    (∀ sku, (cartMap cart).units sku = cartUnits cart sku) ↔ (cart.map CartItem.sku).Nodup := by
  have hagree : (∀ sku, cartUnits cart sku =
      lastWeight CartItem.sku (fun item => item.quantity.toInt) cart sku) ↔
      (cart.map CartItem.sku).Nodup := keyTotal_eq_lastWeight_all_iff hpositive
  rw [← hagree]
  refine forall_congr' fun sku => ?_
  rw [cartMap_units]
  exact eq_comm

/-! ### A created preview -/

/-- The items of the response to a preview. -/
def Reply.previewed : Reply → ItemMap
  | .http _ (.preview _ _ items) => items
  | _ => ∅

/-- The order a preview stores for a map, with the rows of its items. -/
private theorem createGroceryOrder_stores {now : Nat} {order : GroceryOrder} {items : ItemMap}
    {db db' : OrderingDB} (hok : db.createGroceryOrder now order (orderLines items) = .ok db') :
    ∃ row stored, db'.groceryOrders.lookup order.orderID = some row ∧
      db'.groceryOrderItems = db.groceryOrderItems ++ stored ∧
      (∀ line ∈ stored, line.orderID = row.id) ∧ ∀ sku, lineUnits stored sku = items.units sku := by
  have hnew := createGroceryOrder_new hok
  rw [createGroceryOrder_orderLines now order items db hnew] at hok
  cases hok
  refine ⟨_, _, AList.lookup_insert _, rfl, fun line hline => ?_, fun sku => ?_⟩
  · obtain ⟨entry, _, rfl⟩ := List.mem_map.mp hline
    rfl
  · have hlists : Lists OrderItemRow.sku OrderItemRow.quantity
        (items.entries.map fun entry => ⟨db.nextOrderID, entry.1, entry.2⟩) items :=
      lists_entries _ (fun _ => rfl) fun _ => rfl
    exact hlists.units sku

/-- A preview that answers 201 was granted its map, and has stored and returned it. -/
theorem previewOrder_created {user : Int} {cart : List CartItem} {orderUUID : OrderID} {w : World}
    {script : List (CallFault (CallFault Fault))}
    (hcreated : ((previewOrder (some user) (some cart) orderUUID).run (scripted orderingExec .works)
      (w, script)).value.status = some 201) :
    let answer := orderingExec (script.headD .works) (.reserveItems ⟨orderUUID, cartMap cart⟩) w
    let outcome := (previewOrder (some user) (some cart) orderUUID).run (scripted orderingExec .works)
      (w, script)
    (∃ resp, answer.1 = .ok resp ∧ resp.success = true) ∧
      outcome.state.1 = { answer.2 with ordering := outcome.state.1.ordering } ∧
      outcome.value.previewed = cartMap cart ∧
      answer.2.ordering.createGroceryOrder answer.2.now
        { orderID := orderUUID, clientID := user, status := .pending } (orderLines (cartMap cart)) =
          .ok outcome.state.1.ordering := by
  intro answer outcome
  have houtcome : outcome = _ := Prog.run_call _ _ _ _
  have hreply : outcome.value.status = some 201 := hcreated
  rw [houtcome] at hreply ⊢
  have hfirst : scripted orderingExec .works (.reserveItems ⟨orderUUID, cartMap cart⟩) (w, script) =
      (answer.1, (answer.2, script.tail)) := rfl
  rw [hfirst] at hreply ⊢
  cases hanswer : answer.1 with
  | error err =>
      rw [hanswer] at hreply
      cases hreply
  | ok resp =>
      rw [hanswer] at hreply
      cases hsuccess : resp.success with
      | false => simp [hsuccess, httpError, Reply.status] at hreply
      | true =>
          simp only [hsuccess, Bool.not_true, Bool.false_eq_true, if_false, Prog.run_call, scripted]
            at hreply ⊢
          set order : GroceryOrder := { orderID := orderUUID, clientID := user, status := .pending }
          obtain ⟨hok, _⟩ := run_commit (script.tail.headD .works).mode ""
            (OrderingDB.createGroceryOrder answer.2.now order (orderLines (cartMap cart)))
            answer.2.ordering
          cases hcreate : (orderingExec (script.tail.headD .works)
              (.store (.createGroceryOrder order (orderLines (cartMap cart)))) answer.2).1 with
          | error err =>
              rw [hcreate] at hreply
              cases hreply
          | ok value => exact ⟨⟨resp, rfl, hsuccess⟩, rfl, rfl, hok hcreate⟩

/-- **When a preview reserves the whole cart.** A preview that answers 201, under
any faults, reserves, stores and returns the units of the cart on every SKU
exactly when no SKU stands in two lines of it. -/
theorem preview_reserves_cart_iff {user : Int} {cart : List CartItem} {orderUUID : OrderID} {w : World}
    {script : List (CallFault (CallFault Fault))}
    (hpositive : ∀ item ∈ cart, 0 < item.quantity.toInt)
    (hcreated : ((previewOrder (some user) (some cart) orderUUID).run (scripted orderingExec .works)
      (w, script)).value.status = some 201) :
    let outcome := (previewOrder (some user) (some cart) orderUUID).run (scripted orderingExec .works)
      (w, script)
    ∃ row stored, outcome.state.1.ordering.groceryOrders.lookup orderUUID = some row ∧
      outcome.state.1.ordering.groceryOrderItems = w.ordering.groceryOrderItems ++ stored ∧
      (∀ line ∈ stored, line.orderID = row.id) ∧
      ((∀ sku,
          w.stock.available sku - outcome.state.1.stock.available sku = cartUnits cart sku ∧
          lineUnits stored sku = cartUnits cart sku ∧
          outcome.value.previewed.units sku = cartUnits cart sku) ↔
        (cart.map CartItem.sku).Nodup) := by
  intro outcome
  obtain ⟨⟨resp, hok, hsuccess⟩, hstate, hreturned, hstore⟩ := previewOrder_created hcreated
  have hpos : (cartMap cart).Positive := cartMap_positive hpositive
  obtain ⟨reserved, stock', hreserve, hgranted, hafter⟩ := reserveItems_granted hok hsuccess
  have hcovers := (StockTable.allReserved_iff hpos hreserve).mp hgranted
  have havailable : ∀ sku, stock'.available sku = w.stock.available sku - (cartMap cart).units sku := by
    intro sku
    rw [(StockTable.reserveStock_ok hreserve).2.1, StockTable.takes_of_covers hpos hcovers]
  have hstock : outcome.state.1.stock = stock' := (congrArg World.stock hstate).trans (by rw [hafter])
  rw [hafter] at hstore
  obtain ⟨row, stored, hrow, hstored, hlines, hunits⟩ := createGroceryOrder_stores hstore
  refine ⟨row, stored, hrow, hstored, hlines, ?_⟩
  rw [← cartMap_units_iff hpositive]
  refine forall_congr' fun sku => ?_
  rw [hunits, show outcome.value.previewed = cartMap cart from hreturned,
    hstock, havailable]
  constructor
  · exact fun h => h.2.1
  · intro h
    exact ⟨by omega, h, h⟩

/-- A cart of three units of milk and an egg is reserved whole. -/
theorem preview_reserves_cart_iff_sample :
    let cart : List CartItem := [⟨"milk", 3⟩, ⟨"eggs", 1⟩]
    let outcome := (previewOrder (some 7) (some cart) "order-2").run
      (scripted orderingExec .works) (Sample.larder, [])
    ∃ row stored, outcome.state.1.ordering.groceryOrders.lookup "order-2" = some row ∧
      (∀ line ∈ stored, line.orderID = row.id) ∧
      ∀ sku, Sample.larder.stock.available sku - outcome.state.1.stock.available sku =
          cartUnits cart sku ∧
        lineUnits stored sku = cartUnits cart sku ∧
        outcome.value.previewed.units sku = cartUnits cart sku := by
  intro cart outcome
  obtain ⟨row, stored, hrow, _, hlines, hunits⟩ :=
    @preview_reserves_cart_iff 7 cart "order-2" Sample.larder [] (by decide) (by decide +kernel)
  exact ⟨row, stored, hrow, hlines, hunits.mpr (by decide)⟩

/-- Of a cart with three and two units of milk, two are reserved, stored and
returned. -/
theorem preview_reserves_last_line :
    let cart : List CartItem := [⟨"milk", 3⟩, ⟨"milk", 2⟩]
    let outcome := (previewOrder (some 7) (some cart) "order-2").run (scripted orderingExec .works)
      (Sample.world, [])
    (∀ item ∈ cart, 0 < item.quantity.toInt) ∧ outcome.value.status = some 201 ∧
      cartUnits cart "milk" = 5 ∧
      Sample.world.stock.available "milk" - outcome.state.1.stock.available "milk" = 2 ∧
      outcome.state.1.ordering.ordered "order-2" "milk" = 2 ∧
      outcome.value.previewed.units "milk" = 2 := by
  refine ⟨by decide, ?_, ?_, ?_, ?_, ?_⟩ <;> decide +kernel

end AutoGrocery

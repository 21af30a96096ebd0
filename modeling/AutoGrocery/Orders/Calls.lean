import AutoGrocery.Ordering.Lines
import AutoGrocery.Reservation.AllOrNothing

/-!
The calls of ordering to inventory when they meet no fault: what each of them
writes, and that it writes nothing else.
-/

namespace AutoGrocery

open Interleaving

/-! ### Statements -/

section

variable (w : World) (orderID : OrderID)

theorem getOrderByID_works :
    orderingExec .works (.store (.getOrderByID orderID)) w = (.ok (w.ordering.getOrderByID orderID), w) :=
  rfl

theorem getOrderItems_works :
    orderingExec .works (.store (.getOrderItems orderID)) w = (w.ordering.getOrderItems orderID, w) :=
  rfl

theorem updateStatus_works (status : OrderStatus) :
    orderingExec .works (.store (.updateStatus orderID status)) w =
      (.ok (), { w with ordering := w.ordering.updateStatus orderID status }) :=
  rfl

/-- A statement that may fail replaces the database only if it succeeds. -/
theorem commit_ok (result : OrderingDB → Except GoError OrderingDB) {db' : OrderingDB}
    (hok : result w.ordering = .ok db') : commit result w.ordering = (.ok (), db') := by
  rw [commit, hok]

theorem createGroceryOrder_works (order : GroceryOrder) (items : List GroceryOrderItem) :
    orderingExec .works (.store (.createGroceryOrder order items)) w =
      ((commit (OrderingDB.createGroceryOrder w.now order items) w.ordering).1,
        { w with
          ordering := (commit (OrderingDB.createGroceryOrder w.now order items) w.ordering).2 }) :=
  rfl

theorem deleteOrder_works :
    orderingExec .works (.store (.deleteOrder orderID)) w =
      ((commit (OrderingDB.deleteOrder orderID) w.ordering).1,
        { w with ordering := (commit (OrderingDB.deleteOrder orderID) w.ordering).2 }) :=
  rfl

end

/-! ### Calls -/

private theorem stockCall_works {α : Type} {prog : InventoryProg (Except GoError α)}
    (huses : prog.Uses (fun op => op.writes = some .stock)) (w : World) :
    let w' := (prog.run (inventoryExec .works) w).state
    w'.ordering = w.ordering ∧ w'.memory = w.memory ∧ w'.broadcasts = w.broadcasts := by
  have hframe := stockCall_frame .works w huses
  rwa [CallFault.call_works] at hframe

/-- `ReleaseItems`, when it answers without an error: the units of each listed
SKU that has a row are on it again. -/
theorem releaseItems_works (req : ReleaseItemsRequest) (w : World)
    (hfine : isFault (orderingExec .works (.releaseItems req) w).1 = false) :
    let w' := (orderingExec .works (.releaseItems req) w).2
    (∀ sku, w'.stock.available sku =
        w.stock.available sku + if sku ∈ w.stock then req.items.units sku else 0) ∧
      (∀ sku, sku ∈ w'.stock ↔ sku ∈ w.stock) ∧
      w'.ordering = w.ordering ∧ w'.broadcasts = w.broadcasts := by
  have hexec : orderingExec .works (.releaseItems req) w =
      (((InventoryHandler.releaseItems req).run (inventoryExec .works) w).value.mapError rpcError,
        ((InventoryHandler.releaseItems req).run (inventoryExec .works) w).state) :=
    CallFault.call_works inventoryExec .works (InventoryHandler.releaseItems req) w
  obtain ⟨hordering, _, hbroadcasts⟩ := stockCall_works (releaseItems_uses req) w
  rw [hexec] at hfine ⊢
  suffices hstock : (∀ sku,
      ((InventoryHandler.releaseItems req).run (inventoryExec .works) w).state.stock.available sku =
        w.stock.available sku + if sku ∈ w.stock then req.items.units sku else 0) ∧
      ∀ sku, sku ∈ ((InventoryHandler.releaseItems req).run (inventoryExec .works) w).state.stock ↔
        sku ∈ w.stock from ⟨hstock.1, hstock.2, hordering, hbroadcasts⟩
  by_cases hempty : req.items.entries.length = 0
  · have hnone : req.items = ∅ := AList.ext (List.length_eq_zero_iff.mp hempty)
    simp [InventoryHandler.releaseItems, hnone]
  · have hstatement : inventoryExec .works (.releaseStock req.items) w =
        w.onStock fun stock => (stock.releaseStock req.items).map fun stock => ((), stock) := rfl
    rw [InventoryHandler.releaseItems, if_neg hempty, Prog.run_call, hstatement] at hfine ⊢
    cases hok : w.stock.releaseStock req.items with
    | error err =>
        obtain ⟨message, rfl⟩ := StockTable.releaseStock_error hok
        simp [World.onStock, hok, Except.map, Except.mapError, rpcError, GoError.wrap, isFault]
          at hfine
    | ok stock' =>
        simp only [World.onStock, hok, Except.map, Prog.run_ret]
        exact StockTable.releaseStock_ok hok

/-- `ReserveItems` of positive quantities: a granted request takes what it asked
for, from rows that exist, and another one takes nothing. -/
theorem reserveItems_works {req : ReserveItemsRequest} (hpos : req.items.Positive) (w : World) :
    let answer := orderingExec .works (.reserveItems req) w
    (∃ resp, answer.1 = .ok resp ∧
      ((resp.success = true ∧ (∀ sku ∈ req.items, sku ∈ w.stock) ∧
          ∀ sku, answer.2.stock.available sku = w.stock.available sku - req.items.units sku) ∨
        (resp.success = false ∧
          ∀ sku, answer.2.stock.available sku = w.stock.available sku))) ∧
      (∀ sku, sku ∈ answer.2.stock ↔ sku ∈ w.stock) ∧
      answer.2.ordering = w.ordering ∧ answer.2.broadcasts = w.broadcasts := by
  have hexec : orderingExec .works (.reserveItems req) w =
      (((InventoryHandler.reserveItems req).run (inventoryExec .works) w).value.mapError rpcError,
        ((InventoryHandler.reserveItems req).run (inventoryExec .works) w).state) :=
    CallFault.call_works inventoryExec .works (InventoryHandler.reserveItems req) w
  obtain ⟨hordering, _, hbroadcasts⟩ := stockCall_works (reserveItems_uses req) w
  rw [hexec]
  by_cases hvalid : req.Valid
  · obtain ⟨hgrant, hreject⟩ := reserveItems_alone hvalid hpos w
    by_cases hcovers : w.stock.Covers req.items
    · obtain ⟨hvalue, havailable, hrows⟩ := hgrant hcovers
      refine ⟨⟨_, by rw [hvalue]; rfl, Or.inl ⟨rfl, fun sku hsku => ?_, havailable⟩⟩, hrows,
        hordering, hbroadcasts⟩
      have hunits : 0 < req.items.units sku := (hpos.units_pos_iff sku).mpr hsku
      have htaken : w.stock.takes req.items sku ≠ 0 := by
        rw [StockTable.takes_of_covers hpos hcovers]
        exact hunits.ne'
      exact StockTable.mem_of_takes htaken
    · obtain ⟨hvalue, hstock⟩ := hreject hcovers
      exact ⟨⟨_, by rw [hvalue]; rfl, Or.inr ⟨rfl, fun sku => by rw [hstock]⟩⟩,
        fun sku => by rw [hstock], hordering, hbroadcasts⟩
  · obtain ⟨resp, hret, hfailed⟩ := reserveItems_invalid hvalid
    rw [hret]
    exact ⟨⟨resp, rfl, Or.inr ⟨hfailed, fun _ => rfl⟩⟩, fun _ => Iff.rfl, rfl, rfl⟩

/-- At its server a request is granted only if its statement answered, and the
loop over the answer was satisfied. -/
private theorem reserveItems_server_granted {req : ReserveItemsRequest} (w : World)
    (server : List (CallFault Fault)) {resp : ReserveItemsResponse}
    (hok : ((InventoryHandler.reserveItems req).run (scripted inventoryExec .works)
      (w, server)).value = .ok resp)
    (hsuccess : resp.success = true) :
    ∃ reserved stock', w.stock.reserveStock req.items = .ok (reserved, stock') ∧
      InventoryHandler.allReserved req.items reserved = true ∧
      ((InventoryHandler.reserveItems req).run (scripted inventoryExec .works)
        (w, server)).state.1 = { w with stock := stock' } := by
  by_cases hvalid : req.Valid
  · rw [reserveItems_valid hvalid, Prog.run_call] at hok ⊢
    simp only [scripted] at hok ⊢
    cases hanswer : (inventoryExec (server.headD .works) (.reserveStock req.items) w).1 with
    | error err =>
        rw [hanswer] at hok
        cases hok
    | ok answered =>
        have hworks : inventoryExec (server.headD .works) (.reserveStock req.items) w =
            w.onStock fun stock => stock.reserveStock req.items := Fault.run_of_ok hanswer
        rw [hworks] at hok hanswer ⊢
        cases hreserve : w.stock.reserveStock req.items with
        | error err =>
            rw [World.onStock, hreserve] at hanswer
            cases hanswer
        | ok result =>
            obtain ⟨reserved, stock'⟩ := result
            have hstock : (w.onStock fun stock => stock.reserveStock req.items) =
                (.ok reserved, { w with stock := stock' }) := by
              rw [World.onStock, hreserve]
            rw [hstock] at hok hanswer ⊢
            obtain rfl : reserved = answered := Except.ok.inj hanswer
            refine ⟨reserved, stock', rfl, ?_⟩
            cases hgranted : InventoryHandler.allReserved req.items reserved with
            | true => simp only [InventoryHandler.afterReserve, hgranted, if_true, Prog.run_ret, true_and]
            | false =>
                simp only [InventoryHandler.afterReserve, hgranted, Bool.false_eq_true, if_false] at hok
                split at hok
                · cases hok
                  cases hsuccess
                · cases hok
                  cases hsuccess
  · obtain ⟨rejected, hret, hfailed⟩ := reserveItems_invalid hvalid
    rw [hret] at hok
    cases hok
    rw [hsuccess] at hfailed
    cases hfailed

/-- Whatever faults a call of `ReserveItems` meets, if it is granted its
statement took what it answered, and nothing else was done. -/
theorem reserveItems_granted {req : ReserveItemsRequest} {fault : CallFault (CallFault Fault)}
    {w : World} {resp : ReserveItemsResponse}
    (hok : (orderingExec fault (.reserveItems req) w).1 = .ok resp) (hsuccess : resp.success = true) :
    ∃ reserved stock', w.stock.reserveStock req.items = .ok (reserved, stock') ∧
      InventoryHandler.allReserved req.items reserved = true ∧
      (orderingExec fault (.reserveItems req) w).2 = { w with stock := stock' } := by
  have hworks : fault.mode = .works := by
    by_contra hmode
    obtain ⟨err, herr⟩ := CallFault.call_error inventoryExec .works
      (InventoryHandler.reserveItems req) w hmode
    have hsame := herr.symm.trans hok
    cases hsame
  have hanswer := CallFault.call_answer inventoryExec .works (InventoryHandler.reserveItems req) w hworks
  have hmapped := hanswer.symm.trans hok
  have hstate : (orderingExec fault (.reserveItems req) w).2 = _ :=
    CallFault.call_state inventoryExec .works (InventoryHandler.reserveItems req) w
      (show fault.mode.reaches = true by rw [hworks]; rfl)
  rw [hstate]
  cases hvalue : ((InventoryHandler.reserveItems req).run (scripted inventoryExec .works)
      (w, fault.server)).value with
  | error err =>
      rw [hvalue] at hmapped
      cases hmapped
  | ok served =>
      rw [hvalue] at hmapped
      cases hmapped
      exact reserveItems_server_granted w fault.server hvalue hsuccess

/-- `ProcessCustomerOrder`: the items are saved and the robots told. -/
theorem processCustomerOrder_works (req : ProcessCustomerOrderRequest) (w : World) :
    orderingExec .works (.processCustomerOrder req) w =
      (.ok ⟨true, "Customer order processed and robots dispatched."⟩,
        { w with
          memory := w.memory.saveOrderItems w.now req.orderID req.items
          broadcasts := w.broadcasts ++ [orderBroadcast req.orderID .customer
            (InventoryHandler.robotItems (w.stock.getBatchItems req.items.keys) req.items)] }) :=
  CallFault.call_works inventoryExec .works (InventoryHandler.processCustomerOrder req) w

/-- `RestockItemsOrder`: the lines are saved and the robots told. -/
theorem restockItemsOrder_works (req : RestockItemsOrderRequest) (w : World) :
    orderingExec .works (.restockItemsOrder req) w =
      (.ok ⟨true⟩,
        { w with
          memory := w.memory.saveRestockItems w.now req.orderID req.items
          broadcasts := w.broadcasts ++ [orderBroadcast req.orderID .restock
            (InventoryHandler.restockRobotItems req.items)] }) :=
  CallFault.call_works inventoryExec .works (InventoryHandler.restockItemsOrder req) w

end AutoGrocery

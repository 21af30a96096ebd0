import AutoGrocery.Finalization.Completion
import AutoGrocery.Orders.Confirm
import AutoGrocery.Ordering.Lines

/-!
Failed dispatches. Both dispatching calls save the items, and then send the robot
command and ignore whether it was sent. A confirm request marks its order when the
call comes back with an error. A restock request writes PROCESSING before its call
and never takes it back.
-/

namespace AutoGrocery

open Interleaving InventoryHandler

/-- The faults inventory meets in a dispatching call; the aisle lookup belongs to
client orders only. -/
structure DispatchFaults where
  save : Fault
  lookup : Fault
  send : Fault

namespace DispatchFaults

/-- As a script of a confirm request, whose own statements work. -/
def confirmScript (faults : DispatchFaults) : List (CallFault (CallFault Fault)) :=
  [.works, .works, .works,
    ⟨.works, [⟨faults.save, []⟩, ⟨faults.lookup, []⟩, ⟨faults.send, []⟩]⟩]

/-- As a script of a truck restock request, whose own statements work. -/
def restockScript (faults : DispatchFaults) : List (CallFault (CallFault Fault)) :=
  [.works, .works, ⟨.works, [⟨faults.save, []⟩, ⟨faults.send, []⟩]⟩]

end DispatchFaults

/-- The type of the broadcasts for an order. -/
def broadcastType (isRestock : Bool) : OrderType := if isRestock then .restock else .customer

/-- A broadcast for the order was handed to the robots. -/
def Told (orderID : OrderID) (isRestock : Bool) (w : World) : Prop :=
  ∃ broadcast ∈ w.broadcasts, broadcast.orderID = orderID ∧
    broadcast.orderType = broadcastType isRestock

/-- If the order is PROCESSING the robots were told. -/
def ProcessingTold (orderID : OrderID) (isRestock : Bool) (w : World) : Prop :=
  rowStatus orderID isRestock w.ordering = some .processing → Told orderID isRestock w

/-- The broadcasts after a send that was reached or not. -/
def sentAfter (send : Fault) (broadcast : OrderBroadcast) (broadcasts : List OrderBroadcast) :
    List OrderBroadcast :=
  if send.reaches then broadcasts ++ [broadcast] else broadcasts

section

variable {faults : DispatchFaults} {w : World}

/-- `ProcessCustomerOrder` by the faults it meets. -/
private theorem processCustomerOrder_faults (faults : DispatchFaults) (req : ProcessCustomerOrderRequest) (w : World) :
    let answer := orderingExec
      ⟨.works, [⟨faults.save, []⟩, ⟨faults.lookup, []⟩, ⟨faults.send, []⟩]⟩ (.processCustomerOrder req) w
    (faults.save = .works → (∃ resp, answer.1 = .ok resp) ∧ ∃ items, answer.2.broadcasts =
      sentAfter faults.send (orderBroadcast req.orderID .customer items) w.broadcasts) ∧
    (faults.save ≠ .works → (∃ err, answer.1 = .error err) ∧ answer.2.broadcasts = w.broadcasts) := by
  obtain ⟨save, lookup, send⟩ := faults
  cases save with
  | fails err => exact ⟨fun h => absurd h (Fault.fails_ne_works err), fun _ => ⟨⟨_, rfl⟩, rfl⟩⟩
  | loses err => exact ⟨fun h => absurd h (Fault.loses_ne_works err), fun _ => ⟨⟨_, rfl⟩, rfl⟩⟩
  | works =>
      refine ⟨fun _ => ?_, fun h => absurd rfl h⟩
      cases send with
      | fails err => cases lookup <;> exact ⟨⟨_, rfl⟩, ∅, rfl⟩
      | works => cases lookup <;> exact ⟨⟨_, rfl⟩, _, rfl⟩
      | loses err => cases lookup <;> exact ⟨⟨_, rfl⟩, _, rfl⟩

/-- `RestockItemsOrder` by the faults it meets. -/
private theorem restockItemsOrder_faults (faults : DispatchFaults) (req : RestockItemsOrderRequest) (w : World) :
    let answer := orderingExec ⟨.works, [⟨faults.save, []⟩, ⟨faults.send, []⟩]⟩
      (.restockItemsOrder req) w
    answer.2.ordering = w.ordering ∧
    (faults.save = .works → answer.2.broadcasts = sentAfter faults.send
      (orderBroadcast req.orderID .restock (restockRobotItems req.items)) w.broadcasts) ∧
    (faults.save ≠ .works → answer.2.broadcasts = w.broadcasts) := by
  obtain ⟨save, lookup, send⟩ := faults
  cases save with
  | fails err => exact ⟨rfl, fun h => absurd h (Fault.fails_ne_works err), fun _ => rfl⟩
  | loses err => exact ⟨rfl, fun h => absurd h (Fault.loses_ne_works err), fun _ => rfl⟩
  | works =>
      cases send <;> exact ⟨rfl, fun _ => rfl, fun h => absurd rfl h⟩

/-- Whether the robots are told after a send for the order. -/
private theorem told_sentAfter {orderID : OrderID} (isRestock : Bool) {w' : World} {send : Fault}
    {items : GoMap ItemDetails} (hsent : w'.broadcasts =
      sentAfter send (orderBroadcast orderID (broadcastType isRestock) items) w.broadcasts) :
    Told orderID isRestock w' ↔ send.reaches = true ∨ Told orderID isRestock w := by
  unfold Told
  rw [hsent]
  cases hreaches : send.reaches with
  | false => simp [sentAfter, hreaches]
  | true => simp [sentAfter, hreaches, orderBroadcast]

/-! ### Confirm -/

/-- The request is its owner's and finds the order PENDING. -/
def Confirms (userID : Option Int) (orderID : OrderID) (db : OrderingDB) : Prop :=
  orderID ≠ "" ∧ ∃ row, db.groceryOrders.lookup orderID = some row ∧ userID = some row.clientID ∧
    row.status = .pending

/-- A confirm request from its status write on, for an order that exists. -/
private theorem dispatchOrder_run (faults : DispatchFaults) {orderID : OrderID} {status : OrderStatus} (items : ItemMap)
    (hstatus : w.ordering.status orderID = some status) :
    let w' := ((dispatchOrder orderID items).run (scripted orderingExec .works)
      (w, faults.confirmScript.tail.tail)).state.1
    (faults.save ≠ .works → w'.ordering.status orderID = some .failedDispatch) ∧
    (faults.save = .works → w'.ordering.status orderID = some .processing ∧
      ∃ items, w'.broadcasts =
        sentAfter faults.send (orderBroadcast orderID .customer items) w.broadcasts) := by
  intro w'
  set claimed : World := { w with ordering := w.ordering.updateStatus orderID .processing } with hclaimed
  have hprocessing : claimed.ordering.status orderID = some .processing := by
    rw [hclaimed, OrderingDB.status_updateStatus, if_pos rfl, hstatus]
    rfl
  obtain ⟨hworks, hfails⟩ := processCustomerOrder_faults faults ⟨orderID, items⟩ claimed
  set answer := orderingExec ⟨.works, [⟨faults.save, []⟩, ⟨faults.lookup, []⟩, ⟨faults.send, []⟩]⟩
    (.processCustomerOrder ⟨orderID, items⟩) claimed with hanswer
  have hordering : answer.2.ordering = claimed.ordering := processCustomerOrder_ordering _ _ _
  have hclaim : scripted orderingExec .works (.store (.updateStatus orderID .processing))
      (w, faults.confirmScript.tail.tail) = (.ok (), (claimed, faults.confirmScript.tail.tail.tail)) := rfl
  have hcall : scripted orderingExec .works (.processCustomerOrder ⟨orderID, items⟩)
      (claimed, faults.confirmScript.tail.tail.tail) = (answer.1, (answer.2, [])) := rfl
  have hrun : w' = ((dispatchOrder orderID items).run (scripted orderingExec .works)
    (w, faults.confirmScript.tail.tail)).state.1 := rfl
  rw [hrun, dispatchOrder, Prog.run_call, hclaim]
  simp only [Prog.run_call, hcall]
  constructor
  · intro hsave
    obtain ⟨⟨err, herr⟩, _⟩ := hfails hsave
    rw [herr]
    show (answer.2.ordering.updateStatus orderID .failedDispatch).status orderID = _
    rw [OrderingDB.status_updateStatus, if_pos rfl, hordering, hprocessing]
    rfl
  · intro hsave
    obtain ⟨⟨resp, hresp⟩, items', hsent⟩ := hworks hsave
    rw [hresp]
    exact ⟨(congrArg (fun db => OrderingDB.status db orderID) hordering).trans hprocessing,
      items', hsent⟩

/-- The two reads of a confirm request. -/
private theorem confirm_read (faults : DispatchFaults) (orderID : OrderID) (w : World) :
    scripted orderingExec .works (.store (.getOrderByID orderID)) (w, faults.confirmScript) =
      (.ok (w.ordering.getOrderByID orderID), (w, faults.confirmScript.tail)) := rfl

private theorem confirm_load (faults : DispatchFaults) {orderID : OrderID} {row : OrderRow}
    (hrow : w.ordering.groceryOrders.lookup orderID = some row) :
    scripted orderingExec .works (.store (.getOrderItems orderID)) (w, faults.confirmScript.tail) =
      (.ok (orderItems (w.ordering.itemRows row.id)), (w, faults.confirmScript.tail.tail)) := by
  show (w.ordering.getOrderItems orderID, _) = _
  rw [getOrderItems_of_lookup hrow]
  rfl

/-- A confirm request that is refused writes nothing. -/
private theorem confirmOrder_refused (faults : DispatchFaults) {userID : Option Int} {orderID : OrderID}
    (hnot : ¬ Confirms userID orderID w.ordering) :
    ((confirmOrder userID (some orderID)).run (scripted orderingExec .works)
      (w, faults.confirmScript)).state.1 = w := by
  cases userID with
  | none => rfl
  | some user =>
      by_cases hempty : orderID = ""
      · rw [confirmOrder, if_pos hempty]
        rfl
      rw [confirmOrder, if_neg hempty, Prog.run_call, confirm_read, OrderingDB.getOrderByID]
      cases hrow : w.ordering.groceryOrders.lookup orderID with
      | none => rfl
      | some row =>
          simp only [Option.map_some]
          by_cases huser : row.clientID = user
          · have hstatus : row.status ≠ .pending := fun hpending =>
              hnot ⟨hempty, row, hrow, congrArg some huser.symm, hpending⟩
            rw [if_neg (not_not_intro huser), if_pos hstatus]
            rfl
          · rw [if_pos huser]
            rfl

/-- A confirm request that is accepted dispatches its order. -/
private theorem confirmOrder_accepted (faults : DispatchFaults) {userID : Option Int} {orderID : OrderID}
    (hconfirms : Confirms userID orderID w.ordering) :
    ∃ status items, w.ordering.status orderID = some status ∧
      ((confirmOrder userID (some orderID)).run (scripted orderingExec .works)
        (w, faults.confirmScript)).state.1 =
      ((dispatchOrder orderID items).run (scripted orderingExec .works)
        (w, faults.confirmScript.tail.tail)).state.1 := by
  obtain ⟨hid, row, hrow, rfl, hpending⟩ := hconfirms
  refine ⟨row.status, protoItems (orderItems (w.ordering.itemRows row.id)),
    OrderingDB.status_of_lookup hrow, ?_⟩
  rw [confirmOrder, if_neg hid, Prog.run_call, confirm_read, OrderingDB.getOrderByID, hrow]
  simp only [Option.map_some]
  rw [if_neg (not_not_intro rfl), if_neg (not_not_intro hpending), Prog.run_call, confirm_load faults hrow]

/-! ### Truck restock -/

/-- The rows a truck manifest is stored as. -/
private abbrev restockRows (manifest : TruckManifest) : List RestockOrderItem :=
  manifest.items.map fun item => ⟨item.sku, item.quantity.toInt, item.unitCost⟩

/-- The order is new and its costs fit their columns. -/
structure Registers (manifest : TruckManifest) (restockUUID : OrderID) (db : OrderingDB) : Prop where
  new : db.restockOrders.lookup restockUUID = none
  cost : ∃ cost, numeric (manifestCost manifest.items) = .ok cost
  items : OrderingDB.checkRestockItems
    (manifest.items.map fun item => ⟨item.sku, item.quantity.toInt, item.unitCost⟩) = .ok ()

/-- The world once the supplier of the manifest has an id. -/
private abbrev supplied (manifest : TruckManifest) (w : World) : World :=
  { w with ordering := (w.ordering.getSupplierInternalID manifest.supplierID).2 }

/-- The statement that creates the order, after the one that finds the supplier. -/
private abbrev registration (manifest : TruckManifest) (restockUUID : OrderID) (w : World) :
    OrderingDB → Except GoError OrderingDB :=
  OrderingDB.createRestockOrder w.now
    ⟨restockUUID, (w.ordering.getSupplierInternalID manifest.supplierID).1, .processing,
      manifestCost manifest.items⟩ (restockRows manifest)

private theorem registration_fails {manifest : TruckManifest} {restockUUID : OrderID}
    (hnot : ¬ Registers manifest restockUUID w.ordering) :
    ∃ err, registration manifest restockUUID w (supplied manifest w).ordering = .error err := by
  unfold registration OrderingDB.createRestockOrder
  cases hnew : (supplied manifest w).ordering.restockOrders.lookup restockUUID with
  | some row => exact ⟨_, rfl⟩
  | none =>
      cases hcost : numeric (manifestCost manifest.items) with
      | error err => exact ⟨_, rfl⟩
      | ok cost =>
          cases hitems : OrderingDB.checkRestockItems (restockRows manifest) with
          | error err => exact ⟨err, rfl⟩
          | ok value => exact absurd ⟨hnew, ⟨cost, hcost⟩, hitems⟩ hnot

private theorem registration_works {manifest : TruckManifest} {restockUUID : OrderID}
    (hregisters : Registers manifest restockUUID w.ordering) :
    ∃ db, registration manifest restockUUID w (supplied manifest w).ordering = .ok db ∧
      rowStatus restockUUID true db = some .processing := by
  obtain ⟨hnew, ⟨cost, hcost⟩, hitems⟩ := hregisters
  have hrow : (supplied manifest w).ordering.restockOrders.lookup restockUUID = none := hnew
  have hrows : OrderingDB.checkRestockItems (restockRows manifest) = .ok () := hitems
  unfold registration OrderingDB.createRestockOrder
  rw [hrow, hcost]
  simp only [hrows]
  exact ⟨_, rfl, by simp [rowStatus]⟩

/-- The two statements of a truck restock request. -/
private theorem restock_find (faults : DispatchFaults) (manifest : TruckManifest) (w : World) :
    scripted orderingExec .works (.store (.getSupplierInternalID manifest.supplierID))
      (w, faults.restockScript) = (.ok (w.ordering.getSupplierInternalID manifest.supplierID).1,
        (supplied manifest w, faults.restockScript.tail)) := rfl

private theorem restock_create (faults : DispatchFaults) (manifest : TruckManifest)
    (restockUUID : OrderID) (w : World) :
    let answer := commit (registration manifest restockUUID w) (supplied manifest w).ordering
    scripted orderingExec .works (.store (.createRestockOrder
      ⟨restockUUID, (w.ordering.getSupplierInternalID manifest.supplierID).1, .processing,
        manifestCost manifest.items⟩ (restockRows manifest)))
      (supplied manifest w, faults.restockScript.tail) =
    (answer.1, ({ supplied manifest w with ordering := answer.2 }, faults.restockScript.tail.tail)) := rfl

/-- A truck restock request whose order is not registered. -/
private theorem restockOrder_refused (faults : DispatchFaults) {manifest : TruckManifest}
    {restockUUID : OrderID} (hnot : ¬ Registers manifest restockUUID w.ordering) :
    ((restockOrder (some manifest) restockUUID).run (scripted orderingExec .works)
      (w, faults.restockScript)).state.1 = supplied manifest w := by
  obtain ⟨err, herr⟩ := registration_fails hnot
  rw [restockOrder, Prog.run_call, restock_find]
  dsimp only
  rw [Prog.run_call, restock_create, commit, herr]
  rfl

/-- A truck restock request whose order is registered calls inventory, and writes
nothing after the answer. -/
private theorem restockOrder_registered (faults : DispatchFaults) {manifest : TruckManifest}
    {restockUUID : OrderID} (hregisters : Registers manifest restockUUID w.ordering) :
    let w' := ((restockOrder (some manifest) restockUUID).run (scripted orderingExec .works)
      (w, faults.restockScript)).state.1
    rowStatus restockUUID true w'.ordering = some .processing ∧
    (faults.save = .works → w'.broadcasts = sentAfter faults.send
      (orderBroadcast restockUUID .restock (restockRobotItems manifest.items)) w.broadcasts) ∧
    (faults.save ≠ .works → w'.broadcasts = w.broadcasts) := by
  obtain ⟨db, hok, hstatus⟩ := registration_works hregisters
  set created : World := { supplied manifest w with ordering := db } with hcreated
  obtain ⟨hordering, hworks, hlost⟩ := restockItemsOrder_faults faults
    ⟨restockUUID, manifest.items⟩ created
  set answer := orderingExec ⟨.works, [⟨faults.save, []⟩, ⟨faults.send, []⟩]⟩
    (.restockItemsOrder ⟨restockUUID, manifest.items⟩) created with hanswer
  have hcall : scripted orderingExec .works (.restockItemsOrder ⟨restockUUID, manifest.items⟩)
      (created, faults.restockScript.tail.tail) = (answer.1, (answer.2, [])) := rfl
  have hrun : ((restockOrder (some manifest) restockUUID).run (scripted orderingExec .works)
      (w, faults.restockScript)).state.1 = answer.2 := by
    rw [restockOrder, Prog.run_call, restock_find]
    dsimp only
    rw [Prog.run_call, restock_create, commit, hok]
    simp only [← hcreated, Prog.run_call, hcall]
    cases answer.1 with
    | error err => rfl
    | ok grpcResp =>
        dsimp only
        split <;> rfl
  rw [hrun]
  exact ⟨(congrArg (rowStatus restockUUID true) hordering).trans hstatus, hworks, hlost⟩

/-- **When PROCESSING means that robots were told.** A confirm request for an
order that kept this law keeps it if and only if, in case the request is accepted
and the items are saved, the robot command is sent, or the robots were told of
the order before. A truck restock request keeps it if and only if, in case its
order is registered, the items are saved and the command is sent. -/
theorem processing_told_iff {userID : Option Int} {orderID restockUUID : OrderID}
    {body : Option TruckManifest} (hconfirm : ProcessingTold orderID false w)
    (hrestock : ProcessingTold restockUUID true w) :
    (ProcessingTold orderID false ((confirmOrder userID (some orderID)).run
        (scripted orderingExec .works) (w, faults.confirmScript)).state.1 ↔
      (Confirms userID orderID w.ordering → faults.save = .works →
        faults.send.reaches = true ∨ Told orderID false w)) ∧
    (ProcessingTold restockUUID true ((restockOrder body restockUUID).run
        (scripted orderingExec .works) (w, faults.restockScript)).state.1 ↔
      ∀ manifest, body = some manifest → Registers manifest restockUUID w.ordering →
        (faults.save = .works ∧ faults.send.reaches = true) ∨ Told restockUUID true w) := by
  constructor
  · by_cases hconfirms : Confirms userID orderID w.ordering
    case neg =>
      rw [confirmOrder_refused faults hconfirms]
      exact ⟨fun _ h => absurd h hconfirms, fun _ => hconfirm⟩
    obtain ⟨status, items, hexists, hrun⟩ := confirmOrder_accepted faults hconfirms
    obtain ⟨hfailed, hsent⟩ := dispatchOrder_run faults items hexists
    rw [hrun]
    by_cases hsave : faults.save = .works
    · obtain ⟨hstatus, items, hbroadcasts⟩ := hsent hsave
      have htold := told_sentAfter false hbroadcasts
      exact ⟨fun h _ _ => htold.mp (h hstatus), fun h _ => htold.mpr (h hconfirms hsave)⟩
    · have hstatus := hfailed hsave
      refine ⟨fun _ _ h => absurd h hsave, fun _ hprocessing => ?_⟩
      have heq : some OrderStatus.failedDispatch = some .processing := hstatus.symm.trans hprocessing
      cases heq
  · cases body with
    | none => exact ⟨fun _ manifest h => absurd h.symm (Option.some_ne_none manifest), fun _ => hrestock⟩
    | some manifest =>
        have hbody : (∀ found, some manifest = some found → Registers found restockUUID w.ordering →
            (faults.save = .works ∧ faults.send.reaches = true) ∨ Told restockUUID true w) ↔
            (Registers manifest restockUUID w.ordering →
              (faults.save = .works ∧ faults.send.reaches = true) ∨ Told restockUUID true w) :=
          ⟨fun h => h manifest rfl, fun h found hfound => Option.some.inj hfound ▸ h⟩
        rw [hbody]
        by_cases hregisters : Registers manifest restockUUID w.ordering
        case neg =>
          rw [restockOrder_refused faults hregisters]
          exact ⟨fun _ h => absurd h hregisters, fun _ => hrestock⟩
        obtain ⟨hstatus, hworks, hlost⟩ := restockOrder_registered faults hregisters
        set w' := ((restockOrder (some manifest) restockUUID).run (scripted orderingExec .works)
          (w, faults.restockScript)).state.1
        by_cases hsave : faults.save = .works
        · have htold := told_sentAfter true (hworks hsave)
          simp only [hsave, true_and]
          exact ⟨fun h _ => htold.mp (h hstatus), fun h _ => htold.mpr (h hregisters)⟩
        · have htold : Told restockUUID true w' ↔ Told restockUUID true w := by
            rw [Told, hlost hsave]
            rfl
          simp only [hsave, false_and, false_or]
          exact ⟨fun h _ => htold.mp (h hstatus), fun h _ => htold.mpr (h hregisters)⟩

end

/-! ### On one order and one truck -/

private def truckload : TruckManifest := ⟨"supplier-1", [⟨"milk", "Milk", "dairy", 3, 1, 0, 0⟩]⟩

/-- When only the aisle lookup fails, both requests tell the robots. -/
theorem processing_told_iff_sample :
    let faults : DispatchFaults := ⟨.works, .fails "connection reset", .works⟩
    ProcessingTold "order-1" false ((confirmOrder (some 7) (some "order-1")).run
        (scripted orderingExec .works) (Sample.world, faults.confirmScript)).state.1 ∧
      ProcessingTold "restock-1" true ((restockOrder (some truckload) "restock-1").run
        (scripted orderingExec .works) (Sample.world, faults.restockScript)).state.1 := by
  intro faults
  obtain ⟨hconfirm, hrestock⟩ := @processing_told_iff faults Sample.world (some 7) "order-1"
    "restock-1" (some truckload) (fun h => absurd h (by decide +kernel))
    (fun h => absurd h (by decide +kernel))
  exact ⟨hconfirm.mpr fun _ _ => Or.inl rfl, hrestock.mpr fun _ _ _ => Or.inl ⟨rfl, rfl⟩⟩

/-- A command that cannot be sent leaves a confirmed order PROCESSING, and items
that cannot be saved leave a registered restock PROCESSING; no robot was told of
either. -/
theorem processing_untold :
    ∃ (w : World) (unsent unsaved : DispatchFaults),
      unsent.save = .works ∧ unsent.lookup = .works ∧ unsaved.lookup = .works ∧ unsaved.send = .works ∧
      w.broadcasts = [] ∧
      (let w' := ((confirmOrder (some 7) (some "order-1")).run (scripted orderingExec .works)
        (w, unsent.confirmScript)).state.1
      rowStatus "order-1" false w'.ordering = some .processing ∧ w'.broadcasts = []) ∧
      (let w' := ((restockOrder (some truckload) "restock-1").run (scripted orderingExec .works)
        (w, unsaved.restockScript)).state.1
      rowStatus "restock-1" true w'.ordering = some .processing ∧ w'.broadcasts = []) :=
  ⟨Sample.world, ⟨.works, .works, .fails "resource temporarily unavailable"⟩,
    ⟨.fails "connection refused", .works, .works⟩, rfl, rfl, rfl, rfl, rfl,
    ⟨by decide +kernel, by decide +kernel⟩, ⟨by decide +kernel, by decide +kernel⟩⟩

end AutoGrocery

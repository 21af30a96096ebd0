import AutoGrocery.Orders.Records

/-!
Restock orders as trucks see them: `GetRestockOrder` of
`internal/store/restock_orders.go` and `internal/handlers/truck/status.go`, which the
truck frontend polls. A restock order is stored as PROCESSING and becomes COMPLETED.
No handler ever gives it another status, so it cannot fail.
-/

namespace AutoGrocery

open Interleaving Relational

/-- `store.RestockOrder` as `GetRestockOrder` fills it. -/
structure StoredRestockOrder extends RestockOrder where
  id : Nat
  createdAt : Nat

/-- `GetRestockOrder`. -/
def OrderingDB.getRestockOrder (db : OrderingDB) (orderID : OrderID) : Except GoError StoredRestockOrder :=
  match db.restockOrders.lookup orderID with
  | none => .error (.notFound "restock order not found: sql: no rows in result set")
  | some row => .ok ⟨⟨orderID, row.supplierID, row.status, row.totalCost⟩, row.id, row.createdAt⟩

inductive RestockOp where
  | getRestockOrder (orderID : OrderID)

abbrev RestockAns : RestockOp → Type
  | .getRestockOrder _ => Except GoError StoredRestockOrder

/-- The statement of the handler under a fault. -/
def restockExec (fault : Fault) : Handler RestockAns OrderingDB
  | .getRestockOrder orderID, db =>
      fault.run "restock order not found: " (fun db => (db.getRestockOrder orderID, db)) db

/-- How a poll of a truck ends: like another request, or with `"status": "success"` and the
order as `"data"`. -/
inductive RestockReply where
  | reply (reply : Reply)
  | success (data : StoredRestockOrder)

/-- The status code of a response, if there is one. -/
def RestockReply.status : RestockReply → Option Nat
  | .reply answer => answer.status
  | .success _ => some 200

/-- `RestockStatusHandler.ServeHTTP`. An `order_id` that is missing is empty. -/
def restockStatus (orderID : OrderID) : Prog RestockAns RestockReply :=
  if orderID = "" then .ret (.reply (httpError "missing order_id" 400))
  else
    .call (.getRestockOrder orderID) fun
      | .error _ => .ret (.reply (httpError "order not found" 404))
      | .ok order => .ret (.success order)

/-! ### The status of a restock order -/

/-- Every restock order is PROCESSING or COMPLETED. -/
def OrderingDB.Offloading (db : OrderingDB) : Prop :=
  ∀ orderID row, db.restockOrders.lookup orderID = some row →
    row.status = .processing ∨ row.status = .completed

/-- A restock order is stored as PROCESSING, and updated to COMPLETED. -/
def StoreOp.Offloads : StoreOp → Prop
  | .createRestockOrder order _ => order.status = .processing
  | .updateRestockStatus _ status _ => status = .completed
  | _ => True

def OrderingOp.Offloads : OrderingOp → Prop
  | .store op => op.Offloads
  | _ => True

section

variable {db db' : OrderingDB}

/-- Restock orders that did not change, or one that was written with such a status. -/
private theorem OrderingDB.Offloading.insert (hoffloading : db.Offloading) {orderID : OrderID} {row : RestockRow}
    (hstatus : row.status = .processing ∨ row.status = .completed)
    (hrows : db'.restockOrders = db.restockOrders.insert orderID row) : db'.Offloading := by
  intro other found hfound
  rw [hrows] at hfound
  rcases Table.lookup_insert_eq_some.mp hfound with ⟨_, rfl⟩ | ⟨_, hbefore⟩
  · exact hstatus
  · exact hoffloading other found hbefore

private theorem OrderingDB.Offloading.same (hoffloading : db.Offloading)
    (hrows : db'.restockOrders = db.restockOrders) : db'.Offloading := by
  intro other found hfound
  rw [hrows] at hfound
  exact hoffloading other found hfound

private theorem createRestockOrder_offloading (hoffloading : db.Offloading) {now : Nat} {order : RestockOrder}
    {items : List RestockOrderItem} (hstatus : order.status = .processing)
    (hok : db.createRestockOrder now order items = .ok db') : db'.Offloading := by
  unfold OrderingDB.createRestockOrder at hok
  split at hok
  · cases hok
  · cases hok
  · rename_i totalCost hrow hcost
    cases hitems : OrderingDB.checkRestockItems items with
    | error err =>
        rw [hitems] at hok
        cases hok
    | ok value =>
        rw [hitems] at hok
        cases hok
        exact hoffloading.insert (Or.inl hstatus) rfl

private theorem updateRestockStatus_offloading (hoffloading : db.Offloading) {orderID : OrderID} {totalCost : ℚ}
    (hok : db.updateRestockStatus orderID .completed totalCost = .ok db') : db'.Offloading := by
  unfold OrderingDB.updateRestockStatus at hok
  split at hok
  · cases hok
  split at hok
  · cases hok
  cases hok
  exact hoffloading.insert (Or.inr rfl) rfl

/-- **No statement of a handler fails a restock order.** -/
theorem storeExec_offloading (now : Nat) (fault : Fault) {op : StoreOp} (hoffloading : db.Offloading)
    (hoffloads : op.Offloads) : (storeExec now fault op db).2.Offloading := by
  cases op with
  | createRestockOrder order items =>
      exact commit_keeps fault _ hoffloading fun _ hok =>
        createRestockOrder_offloading hoffloading hoffloads hok
  | updateRestockStatus orderID status totalCost =>
      obtain rfl : status = .completed := hoffloads
      exact commit_keeps fault _ hoffloading fun _ hok => updateRestockStatus_offloading hoffloading hok
  | createGroceryOrder order items =>
      refine commit_keeps fault _ hoffloading fun db' hok => hoffloading.same ?_
      unfold OrderingDB.createGroceryOrder at hok
      split at hok
      · cases hok
      · cases hitems : OrderingDB.insertItems db.nextOrderID items db.groceryOrderItems with
        | error err =>
            rw [hitems] at hok
            cases hok
        | ok rows =>
            rw [hitems] at hok
            cases hok
            rfl
  | updateOrderStatus orderID status totalPrice =>
      refine commit_keeps fault _ hoffloading fun db' hok => hoffloading.same ?_
      unfold OrderingDB.updateOrderStatus at hok
      split at hok
      · cases hok
      split at hok
      · cases hok
      · cases hok
        rfl
  | deleteOrder orderID =>
      refine commit_keeps fault _ hoffloading fun db' hok => hoffloading.same ?_
      unfold OrderingDB.deleteOrder at hok
      split at hok
      · cases hok
      · cases hok
        rfl
  | updateStatus orderID status =>
      refine run_keeps fault _ hoffloading (hoffloading.same ?_)
      unfold OrderingDB.updateStatus
      split <;> rfl
  | getSupplierInternalID businessID => exact run_keeps fault _ hoffloading (hoffloading.same rfl)
  | getOrderByID orderID => exact run_keeps fault _ hoffloading hoffloading
  | getOrderItems orderID => exact run_keeps fault _ hoffloading hoffloading

end

section

variable {w : World}

/-- An operation of ordering. -/
theorem orderingExec_offloading {op : OrderingOp} (hoffloads : op.Offloads) (fault : CallFault (CallFault Fault))
    (hoffloading : w.ordering.Offloading) : (orderingExec fault op w).2.ordering.Offloading := by
  cases op with
  | store statement => exact storeExec_offloading w.now fault.mode hoffloading hoffloads
  | reserveItems req =>
      exact hoffloading.same (congrArg _ (stockCall_frame fault w (reserveItems_uses req)).1)
  | releaseItems req =>
      exact hoffloading.same (congrArg _ (stockCall_frame fault w (releaseItems_uses req)).1)
  | processCustomerOrder req => exact hoffloading.same (congrArg _ (processCustomerOrder_ordering fault w req))
  | restockItemsOrder req => exact hoffloading.same (congrArg _ (restockItemsOrder_ordering fault w req))

/-- A completion post. -/
private theorem webhook_offloading {secret apiKey : String} {url : WebhookURL} {payload : WebhookPayload}
    (hstatus : payload.status = .completed) (now : Nat) (script : List Fault) {db : OrderingDB}
    (hoffloading : db.Offloading) : ((webhookRoute secret apiKey url payload).run
      (scripted (webhookExec now) .works) (db, script)).state.1.Offloading := by
  refine Prog.run_preserves (P := fun state : OrderingDB × List Fault => state.1.Offloading) _
    (fun op state hop hkept => ?_) (webhookRoute_completing hstatus) hoffloading
  cases op with
  | goPublish orderID status => exact hkept
  | store op =>
      refine storeExec_offloading now (state.2.headD .works) hkept ?_
      have hproper := hop .empty
      cases op with
      | createRestockOrder order items =>
          obtain ⟨businessID, hsupplier⟩ := hproper
          cases hsupplier
      | updateRestockStatus orderID status totalCost => exact hproper
      | _ => trivial

/-- An operation of a callback. -/
theorem callbackOp_offloading {op : InventoryOp} (hop : isCallbackOp op) (fault : CallFault Fault)
    (hoffloading : w.ordering.Offloading) : (inventoryExec fault op w).2.ordering.Offloading := by
  by_cases hwrites : op.writes = some .ordering
  · cases op <;> simp only [InventoryOp.writes, Option.some.injEq, reduceCtorEq] at hwrites
    case postWebhook url payload =>
      have hstate := fault.mode.run_state "" (fun w : World =>
        let outcome := (webhookRoute w.orderingSecret w.inventorySecret url payload).run
          (scripted (webhookExec w.now) .works) (w.ordering, fault.server)
        (World.httpStatus outcome.value, { w with ordering := outcome.state.1 })) w
      rcases hstate with h | h
      · rw [inventoryExec, h]
        exact hoffloading
      · rw [inventoryExec, h]
        exact webhook_offloading hop w.now fault.server hoffloading
  · exact hoffloading.same (congrArg _ (inventoryExec_ordering hwrites))

end

/-! ### What the statements of a restock leave behind -/

section

variable {fault : CallFault (CallFault Fault)} {w : World}

/-- A supplier whose id was answered has that id. -/
theorem getSupplierInternalID_supplies {businessID : String} {supplierID : Nat}
    (hanswer : (orderingExec fault (.store (.getSupplierInternalID businessID)) w).1 = .ok supplierID) :
    (orderingExec fault (.store (.getSupplierInternalID businessID)) w).2.ordering.suppliers.lookup businessID =
      some supplierID := by
  have hrun := Fault.run_of_ok (show (fault.mode.run
    ("failed to get or create supplier " ++ businessID ++ ": ") (fun db =>
      ((.ok (db.getSupplierInternalID businessID).1 : Except GoError Nat),
        (db.getSupplierInternalID businessID).2)) w.ordering).1 = .ok supplierID from hanswer)
  simp only [orderingExec, storeExec] at hanswer ⊢
  rw [hrun] at hanswer ⊢
  rw [← Except.ok.inj hanswer]
  exact AList.lookup_insert _

/-- A restock order that was stored is there, from its supplier. -/
theorem createRestockOrder_registers {order : RestockOrder} {items : List RestockOrderItem}
    (hanswer : (orderingExec fault (.store (.createRestockOrder order items)) w).1 = .ok ()) :
    ∃ row, (orderingExec fault (.store (.createRestockOrder order items)) w).2.ordering.restockOrders.lookup
      order.orderID = some row ∧ row.supplierID = order.supplierID := by
  have hresult :=
    (run_commit fault.mode "" (OrderingDB.createRestockOrder w.now order items) w.ordering).1 hanswer
  simp only [orderingExec, storeExec]
  generalize (fault.mode.run "" (commit (OrderingDB.createRestockOrder w.now order items)) w.ordering).2 = db
    at hresult ⊢
  unfold OrderingDB.createRestockOrder at hresult
  split at hresult
  · cases hresult
  · cases hresult
  · cases hitems : OrderingDB.checkRestockItems items with
    | error err =>
        rw [hitems] at hresult
        cases hresult
    | ok value =>
        rw [hitems] at hresult
        cases hresult
        exact ⟨_, AList.lookup_insert _, rfl⟩

/-- A restock order that was read is as its row says. -/
theorem getRestockOrder_row {fault : Fault} {db : OrderingDB} {orderID : OrderID} {data : StoredRestockOrder}
    (hanswer : (restockExec fault (.getRestockOrder orderID) db).1 = .ok data) :
    ∃ row, db.restockOrders.lookup orderID = some row ∧ data.status = row.status := by
  have hrun : (fault.run "restock order not found: " (fun db => (db.getRestockOrder orderID, db)) db).1 =
    .ok data := hanswer
  rw [Fault.run_of_ok hrun] at hrun
  have hread : db.getRestockOrder orderID = .ok data := hrun
  unfold OrderingDB.getRestockOrder at hread
  split at hread
  · cases hread
  · cases hread
    exact ⟨_, by assumption, rfl⟩

end

/-! ### The requests -/

private theorem restockOrder_offloads (body : Option TruckManifest) (restockUUID : OrderID) :
    (restockOrder body restockUUID).Uses OrderingOp.Offloads := by
  cases body with
  | none => exact .ret _
  | some manifest =>
      refine .call trivial fun answer => ?_
      cases answer with
      | error err => exact .ret _
      | ok supplierID =>
          refine .call rfl fun answer => ?_
          cases answer with
          | error err => exact .ret _
          | ok value =>
              refine .call trivial fun answer => ?_
              cases answer with
              | error err => exact .ret _
              | ok resp =>
                  dsimp only
                  split <;> exact .ret _

/-- A request of a client stores no restock order. -/
private theorem clientRequest_offloads (request : ClientRequest) (userID : Option Int) :
    (request.handle userID).Uses OrderingOp.Offloads := by
  cases userID with
  | none => cases request <;> exact .ret _
  | some user =>
      rcases request.handle_follows user with ⟨reply, hreply⟩ | ⟨orderID, _, hfollows⟩
      · rw [hreply]
        exact .ret reply
      · refine hfollows.uses fun phase op answer phase' hrule => ?_
        cases hrule <;> trivial

/-- A thread of the services that keeps the records whole and fails no restock order. -/
structure Thread.Offloads (db : OrderingDB) (thread : Thread) : Prop where
  recording : thread.Recording db
  statuses : ∀ prog, thread = .ordering prog → prog.Uses OrderingOp.Offloads

theorem Request.thread_offloads (request : Request) (db : OrderingDB) : request.thread.Offloads db := by
  refine ⟨request.thread_recording db, fun prog hprog => ?_⟩
  cases request with
  | client userID request =>
      cases hprog
      exact clientRequest_offloads request userID
  | restock body restockUUID =>
      cases hprog
      exact restockOrder_offloads body restockUUID
  | report req => cases hprog

theorem Thread.Offloads.continues {db db' : OrderingDB} {thread : Thread} (hthread : thread.Offloads db)
    (hcontinues : db.Continues db') : thread.Offloads db' :=
  ⟨hthread.recording.continues hcontinues, hthread.statuses⟩

/-- One step of a thread, with the goroutines it starts. -/
theorem Thread.Offloads.step {w : World} (hintact : w.ordering.Intact) (hoffloading : w.ordering.Offloading)
    {thread : Thread} (hthread : thread.Offloads w.ordering) {fault : ServiceFault}
    {move : Move Thread World ServiceEvent} (hact : serviceAct fault thread w = some move) :
    w.ordering.Grown move.state.ordering ∧ move.state.ordering.Offloading ∧
      move.thread.Offloads move.state.ordering ∧
      ∀ spawned ∈ move.spawned, spawned.Offloads move.state.ordering := by
  obtain ⟨hgrown, hmover, hspawned⟩ := hthread.recording.step hintact hact
  have hcallback {thread : Thread} (hisCallback : thread.IsCallback) {prog : OrderingProg}
      (hprog : thread = .ordering prog) : prog.Uses OrderingOp.Offloads := by
    rw [hprog] at hisCallback
    exact hisCallback.elim
  refine ⟨hgrown, ?_⟩
  cases thread with
  | ordering prog =>
      have huses := hthread.statuses prog rfl
      cases prog with
      | ret reply => cases hact
      | call op next =>
          cases hact
          cases huses with
          | call hop hnext =>
              refine ⟨orderingExec_offloading hop fault.1 hoffloading, ⟨hmover, fun prog hprog => ?_⟩,
                fun spawned hmem => absurd hmem List.not_mem_nil⟩
              cases hprog
              exact hnext _
  | inventory prog =>
      have hisCallback : Thread.IsCallback (.inventory prog) := hthread.recording
      obtain ⟨op, ans, _, hop, hstate, hmoved, hstarted⟩ := hisCallback.step hact
      refine ⟨?_, ⟨hmover, fun prog hprog => hcallback hmoved hprog⟩,
        fun spawned hmem =>
          ⟨hspawned spawned hmem, fun prog hprog => hcallback (hstarted spawned hmem) hprog⟩⟩
      rw [hstate]
      exact callbackOp_offloading hop fault.2 hoffloading

end AutoGrocery

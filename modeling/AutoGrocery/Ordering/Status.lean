import AutoGrocery.Ordering.Handlers

/-!
The status column of `grocery_orders`. The statements of confirm and of the
completion webhook change the status and the price of a row and nothing else
about an order. None of them looks at the status it replaces.
-/

namespace AutoGrocery

open Interleaving Relational

namespace OrderingDB

/-- The status of an order, if its row exists. -/
def status (db : OrderingDB) (orderID : OrderID) : Option OrderStatus :=
  (db.groceryOrders.lookup orderID).map OrderRow.status

theorem status_of_lookup {db : OrderingDB} {orderID : OrderID} {row : OrderRow}
    (h : db.groceryOrders.lookup orderID = some row) : db.status orderID = some row.status := by
  rw [status, h]
  rfl

/-- The orders are the same, with the same owners and the same lines. Sums over
orders that do not depend on the status are the same too. -/
structure SameOrders (db db' : OrderingDB) : Prop where
  items : db'.groceryOrderItems = db.groceryOrderItems
  next : db'.nextOrderID = db.nextOrderID
  rows : ∀ orderID, (db'.groceryOrders.lookup orderID).map (fun row => (row.id, row.clientID)) =
    (db.groceryOrders.lookup orderID).map fun row => (row.id, row.clientID)
  sums : ∀ weight : OrderID → Nat → Int,
    db'.groceryOrders.total (fun orderID row => weight orderID row.id) =
      db.groceryOrders.total fun orderID row => weight orderID row.id

theorem SameOrders.refl (db : OrderingDB) : SameOrders db db :=
  ⟨rfl, rfl, fun _ => rfl, fun _ => rfl⟩

theorem SameOrders.trans {db db' db'' : OrderingDB} (h : SameOrders db db')
    (h' : SameOrders db' db'') : SameOrders db db'' :=
  ⟨h'.items.trans h.items, h'.next.trans h.next, fun orderID => (h'.rows orderID).trans (h.rows orderID),
    fun weight => (h'.sums weight).trans (h.sums weight)⟩

section

variable {db db' : OrderingDB} {orderID : OrderID} {status' : OrderStatus} {totalPrice : ℚ}

/-- Rewriting the status and the price of a row keeps the orders. -/
theorem sameOrders_insert {row : OrderRow} (hrow : db.groceryOrders.lookup orderID = some row)
    (row' : OrderRow) (hid : row'.id = row.id) (hclient : row'.clientID = row.clientID) :
    SameOrders db { db with groceryOrders := db.groceryOrders.insert orderID row' } := by
  refine ⟨rfl, rfl, fun other => ?_, fun weight => ?_⟩
  · by_cases hother : other = orderID
    · subst hother
      simp [hrow, hid, hclient]
    · simp [hother]
  · have htotal := Table.total_insert_old (fun orderID (row : OrderRow) => weight orderID row.id)
      hrow row'
    rw [hid] at htotal
    exact add_right_cancel htotal

theorem sameOrders_updateStatus (orderID : OrderID) (status' : OrderStatus) (db : OrderingDB) :
    SameOrders db (db.updateStatus orderID status') := by
  unfold updateStatus
  split
  · exact .refl db
  · rename_i row hrow
    exact sameOrders_insert hrow _ rfl rfl

theorem status_updateStatus (orderID : OrderID) (status' : OrderStatus) (db : OrderingDB)
    (other : OrderID) : (db.updateStatus orderID status').status other =
      if other = orderID then (db.status orderID).map (fun _ => status') else db.status other := by
  unfold updateStatus status
  by_cases hother : other = orderID
  · subst hother
    cases hrow : db.groceryOrders.lookup other with
    | none => simp [hrow]
    | some row => simp
  · cases hrow : db.groceryOrders.lookup orderID with
    | none => simp [hother]
    | some row => simp [hother]

theorem updateOrderStatus_ok (hok : db.updateOrderStatus orderID status' totalPrice = .ok db') :
    SameOrders db db' ∧ ∀ other, db'.status other =
      if other = orderID then some status' else db.status other := by
  unfold updateOrderStatus at hok
  split at hok
  · cases hok
  rename_i row hrow
  split at hok
  · cases hok
  cases hok
  refine ⟨sameOrders_insert hrow _ rfl rfl, fun other => ?_⟩
  unfold status
  by_cases hother : other = orderID
  · subst hother
    simp
  · simp [hother]

theorem updateRestockStatus_ok (hok : db.updateRestockStatus orderID status' totalPrice = .ok db') :
    db'.groceryOrders = db.groceryOrders ∧ db'.groceryOrderItems = db.groceryOrderItems ∧
      db'.nextOrderID = db.nextOrderID := by
  unfold updateRestockStatus at hok
  split at hok
  · cases hok
  split at hok
  · cases hok
  cases hok
  exact ⟨rfl, rfl, rfl⟩

end

/-- The orders are the same, and some of those meant may have been completed. -/
structure Completes (meant : OrderID → Prop) (db db' : OrderingDB) : Prop where
  orders : SameOrders db db'
  status : ∀ orderID, db'.status orderID = db.status orderID ∨
    meant orderID ∧ db'.status orderID = some .completed

section

variable {meant : OrderID → Prop} {db db' db'' : OrderingDB}

theorem Completes.refl (db : OrderingDB) : Completes meant db db := ⟨.refl db, fun _ => Or.inl rfl⟩

theorem Completes.trans (h : Completes meant db db') (h' : Completes meant db' db'') :
    Completes meant db db'' := by
  refine ⟨h.orders.trans h'.orders, fun orderID => ?_⟩
  rcases h'.status orderID with hsame | hdone
  · rw [hsame]
    exact h.status orderID
  · exact Or.inr hdone

theorem Completes.of_orders (horders : db'.groceryOrders = db.groceryOrders)
    (hitems : db'.groceryOrderItems = db.groceryOrderItems) (hnext : db'.nextOrderID = db.nextOrderID) :
    Completes meant db db' := by
  refine ⟨⟨hitems, hnext, fun orderID => by rw [horders], fun weight => by rw [horders]⟩,
    fun orderID => Or.inl ?_⟩
  rw [OrderingDB.status, OrderingDB.status, horders]

end

end OrderingDB

/-! ### The completion webhooks -/

section

variable {meant : OrderID → Prop} {now : Nat} {fault : Fault} {db : OrderingDB}

/-- The statement of either webhook for a completed order. -/
private def completes (meant : OrderID → Prop) : WebhookOp → Prop
  | .store (.updateOrderStatus orderID status _) => status = .completed ∧ meant orderID
  | .store (.updateRestockStatus _ _ _) => True
  | .store _ => False
  | .goPublish _ _ => True

private theorem commit_completes {context : String}
    {result : OrderingDB → Except GoError OrderingDB}
    (hresult : ∀ db', result db = .ok db' → OrderingDB.Completes meant db db') :
    OrderingDB.Completes meant db (fault.run context (commit result) db).2 := by
  rcases (run_commit fault context result db).2 with hsame | hok
  · rw [hsame]
    exact .refl db
  · exact hresult _ hok

private theorem webhookExec_completes {op : WebhookOp} (hop : completes meant op) :
    OrderingDB.Completes meant db (webhookExec now fault op db).2 := by
  cases op with
  | goPublish orderID status => exact .refl db
  | store op =>
      cases op <;> try exact hop.elim
      case updateOrderStatus orderID status totalPrice =>
        obtain ⟨rfl, hmeant⟩ : status = .completed ∧ meant orderID := hop
        refine commit_completes fun db' hok => ?_
        obtain ⟨horders, hstatus⟩ := OrderingDB.updateOrderStatus_ok hok
        refine ⟨horders, fun other => ?_⟩
        rw [hstatus]
        split
        · rename_i hother
          exact Or.inr ⟨hother ▸ hmeant, rfl⟩
        · exact Or.inl rfl
      case updateRestockStatus orderID status totalCost =>
        refine commit_completes fun db' hok => ?_
        obtain ⟨horders, hitems, hnext⟩ := OrderingDB.updateRestockStatus_ok hok
        exact .of_orders horders hitems hnext

private theorem webhookRoute_uses {secret apiKey : String} {url : WebhookURL}
    {payload : WebhookPayload} (hstatus : payload.status = .completed)
    (hmeant : url = .updateOrder → meant payload.orderID) :
    (webhookRoute secret apiKey url payload).Uses (completes meant) := by
  unfold webhookRoute internalMiddleware
  split
  · exact .ret _
  split
  · exact .ret _
  cases url with
  | updateOrder =>
      refine .call ⟨hstatus, hmeant rfl⟩ fun answer => ?_
      cases answer with
      | error err => exact .ret _
      | ok value => exact .call trivial fun _ => .ret _
  | updateRestock =>
      refine .call trivial fun answer => ?_
      cases answer with
      | error err => exact .ret _
      | ok value => exact .call trivial fun _ => .ret _

/-- A completion post, whatever happens to it, completes its order at most. -/
theorem webhook_completes {secret apiKey : String} {url : WebhookURL} {payload : WebhookPayload}
    (hstatus : payload.status = .completed) (hmeant : url = .updateOrder → meant payload.orderID)
    (now : Nat) (script : List Fault) (db : OrderingDB) :
    OrderingDB.Completes meant db ((webhookRoute secret apiKey url payload).run
      (scripted (webhookExec now) .works) (db, script)).state.1 :=
  Prog.run_preserves
    (P := fun state : OrderingDB × List Fault => OrderingDB.Completes meant db state.1)
    _ (fun _ _ hop h => h.trans (webhookExec_completes hop)) (webhookRoute_uses hstatus hmeant)
    (OrderingDB.Completes.refl db)

end

end AutoGrocery

import AutoGrocery.Ordering.Router
import AutoGrocery.Ordering.Rows
import AutoGrocery.Orders.Preview
import AutoGrocery.Orders.Confirm

/-!
Preview, confirm and cancel requests as one protocol, for one user and one
order. Confirm and cancel act on an order only once a read of it has shown that
the user owns it, and the map they send to inventory is made of the lines they
have read.
-/

namespace AutoGrocery

open Interleaving

/-- Where a request of a client stands. A request that has read the lines of the
order holds the answer it got. -/
inductive ClientPhase where
  | reserving (items : ItemMap)
  | creating (items : ItemMap)
  | checking
  | owning
  | holding (answer : Except GoError (List GroceryOrderItem))
  | ended

/-- The operations of a request of a user about an order, by phase. -/
inductive ClientRule (user : Int) (orderID : OrderID) :
    ClientPhase → (op : OrderingOp) → OrderingAns op → ClientPhase → Prop where
  | reserve (items : ItemMap) (answer : Except GoError ReserveItemsResponse) :
      ClientRule user orderID (.reserving items) (.reserveItems ⟨orderID, items⟩) answer
        (.creating items)
  | create (items : ItemMap) (answer : Except GoError Unit) :
      ClientRule user orderID (.creating items)
        (.store (.createGroceryOrder (previewedOrder user orderID) (orderLines items))) answer .ended
  | refuse (answer : Except GoError (Option GroceryOrder)) :
      ClientRule user orderID .checking (.store (.getOrderByID orderID)) answer .ended
  | own (order : GroceryOrder) : order.clientID = user →
      ClientRule user orderID .checking (.store (.getOrderByID orderID)) (.ok (some order)) .owning
  | load (answer : Except GoError (List GroceryOrderItem)) :
      ClientRule user orderID .owning (.store (.getOrderItems orderID)) answer (.holding answer)
  | write (held : Except GoError (List GroceryOrderItem)) (status : OrderStatus)
      (answer : Except GoError Unit) :
      ClientRule user orderID (.holding held) (.store (.updateStatus orderID status)) answer
        (.holding held)
  | dispatch (dbItems : List GroceryOrderItem)
      (answer : Except GoError ProcessCustomerOrderResponse) :
      ClientRule user orderID (.holding (.ok dbItems))
        (.processCustomerOrder ⟨orderID, protoItems dbItems⟩) answer (.holding (.ok dbItems))
  | release (held : Except GoError (List GroceryOrderItem))
      (answer : Except GoError ReleaseItemsResponse) :
      ClientRule user orderID (.holding held) (.releaseItems ⟨orderID, protoItems (itemsRead held)⟩)
        answer (.holding held)
  | delete (held : Except GoError (List GroceryOrderItem)) (answer : Except GoError Unit) :
      ClientRule user orderID (.holding held) (.store (.deleteOrder orderID)) answer (.holding held)

/-- The step sends items to inventory under an order id. -/
inductive Sends : ServiceEvent → OrderID → ItemMap → Prop where
  | release (orderID : OrderID) (items : ItemMap) (answer : Except GoError ReleaseItemsResponse) :
      Sends (.ordering ⟨.releaseItems ⟨orderID, items⟩, answer⟩) orderID items
  | process (orderID : OrderID) (items : ItemMap)
      (answer : Except GoError ProcessCustomerOrderResponse) :
      Sends (.ordering ⟨.processCustomerOrder ⟨orderID, items⟩, answer⟩) orderID items

/-- The phase a request starts in. -/
def ClientRequest.start : ClientRequest → ClientPhase
  | .preview body _ => .reserving (cartMap (body.getD []))
  | _ => .checking

/-- A request of a client, a truck or a robot. -/
inductive Request where
  | client (userID : Option Int) (request : ClientRequest)
  | restock (body : Option TruckManifest) (restockUUID : OrderID)
  | report (req : ReportJobStatusRequest)

def Request.thread : Request → Thread
  | .client userID request => .ordering (request.handle userID)
  | .restock body restockUUID => .ordering (restockOrder body restockUUID)
  | .report req => reportThread req

/-- The client order a request previews, confirms or cancels. -/
def Request.clientOrder : Request → Option OrderID
  | .client _ request => request.orderID
  | _ => none

/-- A preview asks for positive quantities. -/
def Request.positive : Request → Bool
  | .client _ (.preview (some cart) _) => decide (cartMap cart).Positive
  | _ => true

/-! ### The handlers keep to it -/

section

variable {user : Int} {orderID : OrderID}

private theorem previewOrder_follows (cart : List CartItem) (orderUUID : OrderID) :
    (previewOrder (some user) (some cart) orderUUID).Follows (ClientRule user orderUUID)
      (.reserving (cartMap cart)) := by
  intro answer
  refine ⟨_, .reserve _ answer, ?_⟩
  cases answer with
  | error err => trivial
  | ok resp =>
      dsimp only
      split
      · trivial
      · intro answer
        refine ⟨_, .create _ answer, ?_⟩
        cases answer <;> trivial

private theorem dispatchOrder_follows (dbItems : List GroceryOrderItem) :
    (dispatchOrder orderID (protoItems dbItems)).Follows (ClientRule user orderID)
      (.holding (.ok dbItems)) := by
  intro answer
  refine ⟨_, .write _ _ answer, ?_⟩
  cases answer with
  | error err => trivial
  | ok value =>
      intro answer
      refine ⟨_, .dispatch dbItems answer, ?_⟩
      cases answer with
      | error err => exact fun answer => ⟨_, .write _ _ answer, trivial⟩
      | ok resp => trivial

private theorem confirmOrder_follows (orderID : OrderID) :
    (confirmOrder (some user) (some orderID)).Follows (ClientRule user orderID) .checking := by
  unfold confirmOrder
  dsimp only
  split
  · trivial
  intro answer
  rcases answer with err | _ | order
  · exact ⟨_, .refuse _, trivial⟩
  · exact ⟨_, .refuse _, trivial⟩
  · by_cases howner : order.clientID = user
    · refine ⟨_, .own order howner, ?_⟩
      simp only [howner, ne_eq, not_true_eq_false, if_false]
      split
      · trivial
      · intro answer
        refine ⟨_, .load answer, ?_⟩
        cases answer with
        | error err => trivial
        | ok dbItems => exact dispatchOrder_follows dbItems
    · refine ⟨_, .refuse _, ?_⟩
      simp only [ne_eq, howner, not_false_eq_true, if_true]
      trivial

private theorem cancelOrder_follows (orderID : OrderID) :
    (cancelOrder (some user) orderID).Follows (ClientRule user orderID) .checking := by
  intro answer
  rcases answer with err | _ | order
  · exact ⟨_, .refuse _, trivial⟩
  · exact ⟨_, .refuse _, trivial⟩
  · by_cases howner : order.clientID = user
    · refine ⟨_, .own order howner, ?_⟩
      simp only [howner, ne_eq, not_true_eq_false, if_false]
      intro answer
      exact ⟨_, .load answer, fun released => ⟨_, .release answer released,
        fun deleted => ⟨_, .delete answer deleted, trivial⟩⟩⟩
    · refine ⟨_, .refuse _, ?_⟩
      simp only [ne_eq, howner, not_false_eq_true, if_true]
      trivial

/-- **The protocol of a client request.** One whose body names no order has
ended at once. -/
theorem ClientRequest.handle_follows (request : ClientRequest) (user : Int) :
    (∃ reply, request.handle (some user) = .ret reply) ∨
      ∃ orderID, request.orderID = some orderID ∧
        (request.handle (some user)).Follows (ClientRule user orderID) request.start := by
  cases request with
  | preview body orderUUID =>
      cases body with
      | none => exact Or.inl ⟨_, rfl⟩
      | some cart => exact Or.inr ⟨orderUUID, rfl, previewOrder_follows cart orderUUID⟩
  | confirm body =>
      cases body with
      | none => exact Or.inl ⟨_, rfl⟩
      | some orderID => exact Or.inr ⟨orderID, rfl, confirmOrder_follows orderID⟩
  | cancel orderID => exact Or.inr ⟨orderID, rfl, cancelOrder_follows orderID⟩

end

/-! ### The client orders after an operation -/

/-- The client order an operation of ordering names. -/
def OrderingOp.names : OrderingOp → Option OrderID
  | .store op => op.names
  | .reserveItems req => some req.orderID
  | .releaseItems req => some req.orderID
  | .processCustomerOrder req => some req.orderID
  | .restockItemsOrder _ => none

theorem ClientRule.names {user : Int} {orderID : OrderID} {phase phase' : ClientPhase}
    {op : OrderingOp} {answer : OrderingAns op}
    (hrule : ClientRule user orderID phase op answer phase') : op.names = some orderID := by
  cases hrule <;> rfl

/-- A request names the order of its body throughout. -/
theorem ClientRequest.handle_uses (request : ClientRequest) (userID : Option Int) :
    (request.handle userID).Uses (fun op => op.names = request.orderID) := by
  cases userID with
  | none => cases request <;> exact .ret _
  | some user =>
      rcases request.handle_follows user with ⟨reply, hreply⟩ | ⟨orderID, horder, hfollows⟩
      · rw [hreply]
        exact .ret reply
      · rw [horder]
        exact hfollows.uses fun _ _ _ _ hrule => hrule.names

/-- A truck's request names no client order. -/
theorem restockOrder_uses (body : Option TruckManifest) (restockUUID : OrderID) :
    (restockOrder body restockUUID).Uses (fun op => op.names = none) := by
  cases body with
  | none => exact .ret _
  | some manifest =>
      refine .call rfl fun answer => ?_
      cases answer with
      | error err => exact .ret _
      | ok supplierID =>
          refine .call rfl fun answer => ?_
          cases answer with
          | error err => exact .ret _
          | ok value =>
              refine .call rfl fun answer => ?_
              cases answer with
              | error err => exact .ret _
              | ok resp =>
                  dsimp only
                  split <;> exact .ret _

/-- A call of `RestockItemsOrder` leaves the ordering database alone. -/
theorem restockItemsOrder_ordering (fault : CallFault (CallFault Fault)) (w : World)
    (req : RestockItemsOrderRequest) :
    (orderingExec fault (.restockItemsOrder req) w).2.ordering = w.ordering := by
  refine fault.call_preserves inventoryExec .works (fun w' => w'.ordering = w.ordering)
    (fun fault op w' hop h => ?_) (restockItemsOrder_uses req) rfl
  refine (inventoryExec_ordering fun hwrites => ?_).trans h
  rcases hop with rfl | rfl
  · cases hwrites
  · cases hwrites

/-- An operation of ordering is a statement, or leaves the database alone. -/
theorem orderingExec_change (fault : CallFault (CallFault Fault)) (op : OrderingOp) (w : World) :
    (∃ statement, op = .store statement ∧
        OrderChange w.ordering statement (orderingExec fault op w).2.ordering) ∨
      (orderingExec fault op w).2.ordering = w.ordering := by
  cases op with
  | store statement => exact Or.inl ⟨statement, rfl, storeExec_change w.now fault.mode statement w.ordering⟩
  | reserveItems req => exact Or.inr (stockCall_frame fault w (reserveItems_uses req)).1
  | releaseItems req => exact Or.inr (stockCall_frame fault w (releaseItems_uses req)).1
  | processCustomerOrder req => exact Or.inr (processCustomerOrder_ordering fault w req)
  | restockItemsOrder req => exact Or.inr (restockItemsOrder_ordering fault w req)

section

variable (fault : CallFault (CallFault Fault)) (op : OrderingOp) (w : World)

theorem orderingExec_wellFormed (hwf : w.ordering.WellFormed) :
    (orderingExec fault op w).2.ordering.WellFormed := by
  rcases orderingExec_change fault op w with ⟨statement, _, hchange⟩ | hsame
  · exact hchange.wellFormed hwf
  · rwa [hsame]

/-- An order the operation does not name stays as it is, and so do its lines. -/
theorem orderingExec_frame (hwf : w.ordering.WellFormed) {orderID : OrderID}
    (hother : op.names ≠ some orderID) :
    (orderingExec fault op w).2.ordering.groceryOrders.lookup orderID =
        w.ordering.groceryOrders.lookup orderID ∧
      ∀ row, w.ordering.groceryOrders.lookup orderID = some row →
        (orderingExec fault op w).2.ordering.itemRows row.id = w.ordering.itemRows row.id := by
  rcases orderingExec_change fault op w with ⟨statement, rfl, hchange⟩ | hsame
  · exact hchange.frame hwf hother
  · rw [hsame]
    exact ⟨rfl, fun _ _ => rfl⟩

/-- An order has the owner it had, or the one the operation created it for. -/
theorem orderingExec_owner {orderID : OrderID} {row' : OrderRow}
    (hrow' : (orderingExec fault op w).2.ordering.groceryOrders.lookup orderID = some row') :
    (∃ row, w.ordering.groceryOrders.lookup orderID = some row ∧ row.clientID = row'.clientID) ∨
      ∃ order items, op = .store (.createGroceryOrder order items) ∧ order.orderID = orderID ∧
        order.clientID = row'.clientID := by
  rcases orderingExec_change fault op w with ⟨statement, rfl, hchange⟩ | hsame
  · rcases hchange.owner hrow' with hbefore | ⟨order, items, rfl, horder⟩
    · exact Or.inl hbefore
    · exact Or.inr ⟨order, items, rfl, horder⟩
  · rw [hsame] at hrow'
    exact Or.inl ⟨row', hrow', rfl⟩

end

/-- Only a delete of the order removes its row. -/
theorem orderingExec_stays (fault : CallFault (CallFault Fault)) {op : OrderingOp} {w : World}
    {orderID : OrderID} (hop : op ≠ .store (.deleteOrder orderID))
    (hrow : w.ordering.groceryOrders.lookup orderID ≠ none) :
    (orderingExec fault op w).2.ordering.groceryOrders.lookup orderID ≠ none := by
  rcases orderingExec_change fault op w with ⟨statement, rfl, hchange⟩ | hsame
  · exact hchange.stays (fun h => hop (by rw [h])) hrow
  · rwa [hsame]

end AutoGrocery

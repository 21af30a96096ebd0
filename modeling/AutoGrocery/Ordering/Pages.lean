import AutoGrocery.Interleaving.Paths
import AutoGrocery.Ordering.LastOrder
import AutoGrocery.Ordering.Router

/-!
All protected routes of `internal/handlers/router.go`, as the client frontend requests
them: preview, confirm and cancel, `internal/handlers/client/history.go` and the newest
order. A preview draws the UUID of its order once its body is decoded.
-/

namespace AutoGrocery

open Interleaving

/-- The order of `ORDER BY created_at DESC`. -/
def newestFirst (row row' : Sigma fun _ : OrderID => OrderRow) : Prop := row'.2.createdAt ≤ row.2.createdAt

instance : DecidableRel newestFirst :=
  fun row row' => inferInstanceAs (Decidable (row'.2.createdAt ≤ row.2.createdAt))

/-- A row as the store scans it. -/
def scanOrder (clientID : Int) (row : Sigma fun _ : OrderID => OrderRow) : GroceryOrder :=
  ⟨row.2.id, row.1, clientID, row.2.status, row.2.totalPrice, row.2.createdAt⟩

/-- `GetOrdersByClientID`. Rows of one time stay in the order of the table. -/
def OrderingDB.getOrdersByClientID (db : OrderingDB) (clientID : Int) : List GroceryOrder :=
  ((db.clientOrders clientID).insertionSort newestFirst).map (scanOrder clientID)

/-! ### The history and the newest order -/

section

variable {db : OrderingDB} {clientID : Int}

/-- The head of a stable sort is the first of the largest. -/
private theorem head?_insertionSort (rows : List (Sigma fun _ : OrderID => OrderRow)) :
    (rows.insertionSort newestFirst).head? = rows.argmax fun row => row.2.createdAt := by
  induction rows with
  | nil => rfl
  | cons row rest ih =>
      rw [List.insertionSort_cons, List.argmax_cons, ← ih]
      cases hsorted : rest.insertionSort newestFirst with
      | nil => rfl
      | cons first later =>
          by_cases hlater : row.2.createdAt < first.2.createdAt
          · have hnot : ¬ newestFirst row first := not_le.mpr hlater
            simp [List.orderedInsert, hnot, hlater]
          · have hfirst : newestFirst row first := not_lt.mp hlater
            simp [List.orderedInsert, hfirst, hlater]

/-- **The history begins with the newest order**, the one a poll is answered with. -/
theorem head?_getOrdersByClientID :
    (db.getOrdersByClientID clientID).head? = db.getLastOrderByClientID clientID := by
  rw [OrderingDB.getOrdersByClientID, List.head?_map, head?_insertionSort]
  rfl

/-- The history lists the orders of the client, each of them once, newest first. -/
theorem getOrdersByClientID_lists :
    (db.getOrdersByClientID clientID).Perm ((db.clientOrders clientID).map (scanOrder clientID)) ∧
      (db.getOrdersByClientID clientID).Pairwise (fun order later => later.createdAt ≤ order.createdAt) := by
  have htotal : Std.Total newestFirst := ⟨fun row row' => le_total row'.2.createdAt row.2.createdAt⟩
  have htrans : IsTrans _ newestFirst := ⟨fun _ _ _ h h' => h'.trans h⟩
  refine ⟨(List.perm_insertionSort _ _).map _, ?_⟩
  exact List.pairwise_map.mpr (List.pairwise_insertionSort newestFirst (db.clientOrders clientID))

end

/-! ### Requests -/

/-- A request of the frontend for a protected route. -/
inductive PageRequest where
  | preview (body : Option (List CartItem))
  | confirm (body : Option OrderID)
  | cancel (orderID : OrderID)
  | orders
  | lastOrder

/-- What the handlers of the protected routes do. The UUID of an order is drawn for a
client. -/
inductive PageOp where
  | newUUID (clientID : Int)
  | ordering (op : OrderingOp)
  | getOrdersByClientID (clientID : Int)
  | lastOrder (op : LastOrderOp)

abbrev PageAns : PageOp → Type
  | .newUUID _ => OrderID
  | .ordering op => OrderingAns op
  | .getOrdersByClientID _ => Except GoError (List GroceryOrder)
  | .lastOrder op => LastOrderAns op

/-- How a protected request ends. A history without orders is `null`. -/
inductive PageReply where
  | reply (reply : Reply)
  | history (data : List GroceryOrder)
  | lastOrder (data : GroceryOrder)

/-- The status code of a response, if there is one. -/
def PageReply.status : PageReply → Option Nat
  | .reply answer => answer.status
  | .history _ => some 200
  | .lastOrder _ => some 200

abbrev PageProg := Prog PageAns PageReply

/-- A handler of preview, confirm or cancel. -/
def onOrdering (prog : OrderingProg) : PageProg :=
  prog.lift .ordering (fun _ ans => ans) >>= fun answer => .ret (.reply answer)

/-- `PreviewOrderHandler.ServeHTTP`, with the draw of `orderUUID`. -/
def previewPage (userID : Option Int) (body : Option (List CartItem)) : PageProg :=
  match userID, body with
  | some clientID, some items =>
      .call (.newUUID clientID) fun orderUUID =>
        onOrdering (previewOrder (some clientID) (some items) orderUUID)
  | none, _ => .ret (.reply (httpError "Unauthorized" 401))
  | some _, none => .ret (.reply (httpError "Invalid JSON" 400))

/-- `history, _ := h.OrderStore.GetOrdersByClientID(…)`: no orders after an error. -/
def ordersRead : Except GoError (List GroceryOrder) → List GroceryOrder
  | .error _ => []
  | .ok orders => orders

/-- `HistoryHandler.ServeHTTP`. -/
def orderHistory (userID : Option Int) : PageProg :=
  match userID with
  | none => .ret (.reply (httpError "Unauthorized" 401))
  | some userID => .call (.getOrdersByClientID userID) fun answer => .ret (.history (ordersRead answer))

/-- `LastOrderHandler.ServeHTTP`. -/
def lastOrderPage (userID : Option Int) : PageProg :=
  (lastOrder userID).lift .lastOrder (fun _ ans => ans) >>= fun
    | .reply answer => .ret (.reply answer)
    | .success data => .ret (.lastOrder data)

/-- The handler of a route. -/
def PageRequest.handle : PageRequest → Option Int → PageProg
  | .preview body, userID => previewPage userID body
  | .confirm body, userID => onOrdering (confirmOrder userID body)
  | .cancel orderID, userID => onOrdering (cancelOrder userID orderID)
  | .orders, userID => orderHistory userID
  | .lastOrder, userID => lastOrderPage userID

/-- A request on its way through `AuthMiddleware` to its handler. -/
def PageRequest.route (validateToken : String → Option Claims) (authHeader : String) (request : PageRequest) :
    PageProg :=
  match authenticate validateToken authHeader with
  | .error message => .ret (.reply (httpError message 401))
  | .ok userID => request.handle (some userID)

/-- The three routes that change orders are those of the router. -/
theorem PageRequest.route_confirm (validateToken : String → Option Claims) (authHeader : String)
    (body : Option OrderID) : (PageRequest.confirm body).route validateToken authHeader =
      onOrdering (clientRoute validateToken authHeader (.confirm body)) := by
  unfold PageRequest.route clientRoute authMiddleware
  cases authenticate validateToken authHeader <;> rfl

end AutoGrocery

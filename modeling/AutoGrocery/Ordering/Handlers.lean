import AutoGrocery.Ordering.Store

/-!
The request handlers of ordering: `internal/handlers/client/preview.go`,
`confirm.go`, `cancel.go` and `webhook.go`, and `restock.go` and `webhook.go`
of `internal/handlers/truck`. A handler is a program of database statements and
calls to inventory that ends with its reply.

A user id of `none` is a request whose context holds no user id, and a body of
`none` is one that does not decode. The UUID a handler draws is an argument.
-/

namespace AutoGrocery

open Interleaving

/-- The body of an HTTP response. -/
inductive Body where
  | text (message : String)
  | json (fields : List (String × String))
  | preview (status : String) (orderID : OrderID) (items : ItemMap)

/-- How a request ends. Reading a field of a nil order is a panic, which
`net/http` turns into a closed connection. -/
inductive Reply where
  | http (status : Nat) (body : Body)
  | nilDereference

/-- The status code of a response, if there is one. -/
def Reply.status : Reply → Option Nat
  | .http status _ => some status
  | .nilDereference => none

/-- `http.Error`. -/
def httpError (message : String) (status : Nat) : Reply := .http status (.text message)

inductive OrderingOp where
  | store (op : StoreOp)
  | reserveItems (req : ReserveItemsRequest)
  | releaseItems (req : ReleaseItemsRequest)
  | processCustomerOrder (req : ProcessCustomerOrderRequest)
  | restockItemsOrder (req : RestockItemsOrderRequest)

abbrev OrderingAns : OrderingOp → Type
  | .store op => StoreAns op
  | .reserveItems _ => Except GoError ReserveItemsResponse
  | .releaseItems _ => Except GoError ReleaseItemsResponse
  | .processCustomerOrder _ => Except GoError ProcessCustomerOrderResponse
  | .restockItemsOrder _ => Except GoError RestockItemsOrderResponse

instance (op : OrderingOp) : Nonempty (OrderingAns op) := by
  rcases op with op | _ | _ | _ | _
  · cases op <;> exact ⟨.error (.fault "")⟩
  all_goals exact ⟨.error (.fault "")⟩

abbrev OrderingProg := Prog OrderingAns Reply

/-- `for _, item := range req.Items { protoItems[item.Sku] = item.Quantity }`. -/
def cartMap (items : List CartItem) : ItemMap :=
  items.foldl (fun protoItems item => protoItems.insert item.sku item.quantity) ∅

/-- `for _, item := range dbItems { protoItems[item.Sku] = int32(item.Quantity) }`. -/
def protoItems (dbItems : List GroceryOrderItem) : ItemMap :=
  dbItems.foldl (fun protoItems item => protoItems.insert item.sku (Int32.ofInt item.quantity)) ∅

/-- The item rows `PreviewOrderHandler` stores for a reserved map. -/
def orderLines (items : ItemMap) : List GroceryOrderItem :=
  items.entries.map fun row => ⟨row.1, row.2.toInt⟩

/-- `PreviewOrderHandler.ServeHTTP`. -/
def previewOrder (userID : Option Int) (body : Option (List CartItem)) (orderUUID : OrderID) :
    OrderingProg :=
  match userID, body with
  | none, _ => .ret (httpError "Unauthorized" 401)
  | some _, none => .ret (httpError "Invalid JSON" 400)
  | some userID, some items =>
      .call (.reserveItems ⟨orderUUID, cartMap items⟩) fun
        | .error _ => .ret (httpError "Reservation failed" 409)
        | .ok grpcResp =>
            if !grpcResp.success then .ret (httpError "Reservation failed" 409)
            else
              .call (.store (.createGroceryOrder
                { orderID := orderUUID, clientID := userID, status := .pending }
                (orderLines (cartMap items)))) fun
                | .error _ => .ret (httpError "Failed to create order" 500)
                | .ok _ => .ret (.http 201 (.preview "reserved" orderUUID (cartMap items)))

/-- `ConfirmOrderHandler.ServeHTTP` from the status write on. -/
def dispatchOrder (orderID : OrderID) (items : ItemMap) : OrderingProg :=
  .call (.store (.updateStatus orderID .processing)) fun
    | .error _ => .ret (httpError "Database update failed" 500)
    | .ok _ =>
        .call (.processCustomerOrder ⟨orderID, items⟩) fun
          | .error err =>
              .call (.store (.updateStatus orderID .failedDispatch)) fun _ =>
                .ret (httpError ("Failed to assign robots: " ++ err.message) 500)
          | .ok resp =>
              .ret (.http 200 (.json [("message", "Order confirmed. Robots dispatched."),
                ("order_id", orderID), ("status", "PROCESSING"), ("details", resp.message)]))

/-- `ConfirmOrderHandler.ServeHTTP`. A missing order is nil without an error,
and its owner is read all the same. -/
def confirmOrder (userID : Option Int) (body : Option OrderID) : OrderingProg :=
  match userID, body with
  | none, _ => .ret (httpError "Unauthorized" 401)
  | some _, none => .ret (httpError "Invalid JSON" 400)
  | some userID, some orderID =>
      if orderID = "" then .ret (httpError "Missing order_id" 400)
      else
        .call (.store (.getOrderByID orderID)) fun
          | .error _ => .ret (httpError "Order not found" 404)
          | .ok none => .ret .nilDereference
          | .ok (some order) =>
              if order.clientID ≠ userID then
                .ret (httpError "Forbidden: You do not own this order" 403)
              else if order.status ≠ .pending then
                .ret (httpError "Order is not in PENDING state" 409)
              else
                .call (.store (.getOrderItems orderID)) fun
                  | .error _ => .ret (httpError "Failed to retrieve order items" 500)
                  | .ok dbItems => dispatchOrder orderID (protoItems dbItems)

/-- `dbItems, _ := h.OrderStore.GetOrderItems(…)`: no items after an error. -/
def itemsRead : Except GoError (List GroceryOrderItem) → List GroceryOrderItem
  | .error _ => []
  | .ok dbItems => dbItems

/-- `CancelOrderHandler.ServeHTTP` once the owner is checked. Every error from
here on is dropped. -/
def cancelItems (orderID : OrderID) : OrderingProg :=
  .call (.store (.getOrderItems orderID)) fun answer =>
    .call (.releaseItems ⟨orderID, protoItems (itemsRead answer)⟩) fun _ =>
      .call (.store (.deleteOrder orderID)) fun _ =>
        .ret (.http 200 (.json [("status", "cancelled")]))

/-- `CancelOrderHandler.ServeHTTP`. Decoding errors are dropped, so the body
is the order id that is left, which may be empty. -/
def cancelOrder (userID : Option Int) (orderID : OrderID) : OrderingProg :=
  match userID with
  | none => .ret (httpError "Unauthorized" 401)
  | some userID =>
      .call (.store (.getOrderByID orderID)) fun
        | .ok (some order) =>
            if order.clientID ≠ userID then .ret (httpError "Order not found" 404)
            else cancelItems orderID
        | _ => .ret (httpError "Order not found" 404)

/-- The payload of `POST /api/truck/restock`. The texts of the two dates are
parsed here already, with the zero time for a text that does not parse. -/
structure TruckManifest where
  supplierID : String
  items : List RestockItem

/-- The sum the loop of `RestockHandler.ServeHTTP` accumulates. -/
def manifestCost (items : List RestockItem) : ℚ :=
  items.foldl (fun cost item => cost + item.unitCost * item.quantity.toInt) 0

/-- `RestockHandler.ServeHTTP`. -/
def restockOrder (body : Option TruckManifest) (restockUUID : OrderID) : OrderingProg :=
  match body with
  | none => .ret (httpError "Invalid JSON" 400)
  | some manifest =>
      .call (.store (.getSupplierInternalID manifest.supplierID)) fun
        | .error _ => .ret (httpError "Failed to resolve supplier" 500)
        | .ok supplierID =>
            .call (.store (.createRestockOrder
              ⟨restockUUID, supplierID, .processing, manifestCost manifest.items⟩
              (manifest.items.map fun item =>
                ⟨item.sku, item.quantity.toInt, item.unitCost⟩))) fun
              | .error _ => .ret (httpError "Failed to create restock order" 500)
              | .ok _ =>
                  .call (.restockItemsOrder ⟨restockUUID, manifest.items⟩) fun
                    | .error _ =>
                        .ret (httpError "Inventory service failed to assign robots" 500)
                    | .ok grpcResp =>
                        if !grpcResp.success then
                          .ret (httpError "Inventory service failed to assign robots" 500)
                        else
                          .ret (.http 201 (.json [("status", "success"),
                            ("order_id", restockUUID),
                            ("message", "Truck registered. Robots are currently offloading.")]))

/-! ### Completion webhooks -/

/-- What a webhook handler does: database statements, and starting the
goroutine that publishes the analytics metric. -/
inductive WebhookOp where
  | store (op : StoreOp)
  | goPublish (orderID : OrderID) (status : OrderStatus)

abbrev WebhookAns : WebhookOp → Type
  | .store op => StoreAns op
  | .goPublish _ _ => Unit

/-- `WebhookHandler.ServeHTTP` of `handlers/client/webhook.go`. -/
def updateOrderWebhook (payload : WebhookPayload) : Prog WebhookAns Reply :=
  .call (.store (.updateOrderStatus payload.orderID payload.status
    (payload.number "total_price"))) fun
    | .error _ => .ret (httpError "Database update failed" 500)
    | .ok _ =>
        .call (.goPublish payload.orderID payload.status) fun _ =>
          .ret (.http 200 (.text "Webhook received"))

/-- `WebhookHandler.ServeHTTP` of `handlers/truck/webhook.go`. -/
def updateRestockWebhook (payload : WebhookPayload) : Prog WebhookAns Reply :=
  .call (.store (.updateRestockStatus payload.orderID payload.status
    (payload.number "total_cost"))) fun
    | .error _ => .ret (httpError "Failed to update order status" 500)
    | .ok _ =>
        .call (.goPublish payload.orderID payload.status) fun _ =>
          .ret (.http 200 (.json [("status", "success"),
            ("message", "Restock finalized successfully")]))

/-- `InternalMiddleware`: `secret` is the server's `INTERNAL_SECRET` and
`apiKey` the `X-Internal-Secret` header of the request. -/
def internalMiddleware (secret apiKey : String) (next : Prog WebhookAns Reply) :
    Prog WebhookAns Reply :=
  if secret = "" then .ret (httpError "Internal Server Error: Configuration Missing" 500)
  else if apiKey ≠ secret then .ret (httpError "Unauthorized: Invalid Internal Key" 401)
  else next

/-- The two routes of `NewRouter` below `/internal/webhook`. -/
def webhookRoute (secret apiKey : String) (url : WebhookURL) (payload : WebhookPayload) :
    Prog WebhookAns Reply :=
  internalMiddleware secret apiKey <|
    match url with
    | .updateOrder => updateOrderWebhook payload
    | .updateRestock => updateRestockWebhook payload

/-- One operation of a webhook handler under a fault, at a time. -/
def webhookExec (now : Nat) (fault : Fault) : Handler WebhookAns OrderingDB
  | .store op, db => storeExec now fault op db
  | .goPublish _ _, db => ((), db)

end AutoGrocery

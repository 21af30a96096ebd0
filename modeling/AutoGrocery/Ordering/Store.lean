import AutoGrocery.Fault

/-!
The ordering database: `internal/store/grocery_orders.go` and
`internal/store/restock_orders.go`. A method that opens a transaction is one
step here, and so is `GetOrderItems`, which runs two queries.

Only columns that some modelled function reads are kept. The rows of
`restock_order_items` are never read back, so inserting them is only the check
that their cost fits its column.
-/

namespace AutoGrocery

open Interleaving Relational

/-- A row of `grocery_orders`, under its unique `order_id`. -/
structure OrderRow where
  id : Nat
  clientID : Int
  status : OrderStatus
  totalPrice : ℚ
  createdAt : Nat
  deriving DecidableEq

/-- A row of `grocery_order_items`; `orderID` is the numeric id of the order. -/
structure OrderItemRow where
  orderID : Nat
  sku : SKU
  quantity : Int32

/-- A row of `restock_orders`, under its unique `order_id`. -/
structure RestockRow where
  id : Nat
  supplierID : Nat
  status : OrderStatus
  totalCost : ℚ
  createdAt : Nat

structure OrderingDB where
  groceryOrders : Table OrderID OrderRow
  groceryOrderItems : List OrderItemRow
  nextOrderID : Nat
  restockOrders : Table OrderID RestockRow
  nextRestockID : Nat
  suppliers : Table String Nat
  nextSupplierID : Nat

/-- `store.GroceryOrder`. -/
structure GroceryOrder where
  id : Nat := 0
  orderID : OrderID
  clientID : Int
  status : OrderStatus
  totalPrice : ℚ := 0
  createdAt : Nat := 0

/-- `store.GroceryOrderItem`; its quantity is a Go `int`. -/
structure GroceryOrderItem where
  sku : SKU
  quantity : Int

/-- `store.RestockOrder`. -/
structure RestockOrder where
  orderID : OrderID
  supplierID : Nat
  status : OrderStatus
  totalCost : ℚ

/-- `store.RestockOrderItem`, as far as its row can fail to be stored. -/
structure RestockOrderItem where
  sku : SKU
  quantity : Int
  unitCost : ℚ

namespace OrderingDB

def empty : OrderingDB := ⟨∅, [], 1, ∅, 1, ∅, 1⟩

/-! ### `OrderStore` -/

/-- The item inserts of `CreateGroceryOrder`, in order. -/
def insertItems (dbID : Nat) :
    List GroceryOrderItem → List OrderItemRow → Except GoError (List OrderItemRow)
  | [], rows => .ok rows
  | item :: rest, rows =>
      match int4 item.quantity with
      | .error err => .error (err.wrap ("failed to save item " ++ item.sku ++ ": "))
      | .ok quantity => insertItems dbID rest (rows ++ [⟨dbID, item.sku, quantity⟩])

/-- `CreateGroceryOrder`. The status and price written are constants. -/
def createGroceryOrder (now : Nat) (order : GroceryOrder) (items : List GroceryOrderItem)
    (db : OrderingDB) : Except GoError OrderingDB :=
  match db.groceryOrders.lookup order.orderID with
  | some _ =>
      .error (.fault "failed to save order header: pq: duplicate key value violates unique constraint")
  | none => do
      let rows ← insertItems db.nextOrderID items db.groceryOrderItems
      return { db with
        groceryOrders := db.groceryOrders.insert order.orderID
          ⟨db.nextOrderID, order.clientID, .pending, 0, now⟩
        groceryOrderItems := rows
        nextOrderID := db.nextOrderID + 1 }

/-- `GetOrderByID`: no row is a nil order without an error. -/
def getOrderByID (db : OrderingDB) (orderID : OrderID) : Option GroceryOrder :=
  (db.groceryOrders.lookup orderID).map fun row =>
    ⟨row.id, orderID, row.clientID, row.status, row.totalPrice, row.createdAt⟩

/-- The item rows of an order, in the order of the table. -/
def itemRows (db : OrderingDB) (dbID : Nat) : List OrderItemRow :=
  db.groceryOrderItems.filter fun row => row.orderID = dbID

/-- `GetOrderItems`. -/
def getOrderItems (db : OrderingDB) (orderID : OrderID) :
    Except GoError (List GroceryOrderItem) :=
  match db.groceryOrders.lookup orderID with
  | none => .error (.notFound "order not found: sql: no rows in result set")
  | some order => .ok ((db.itemRows order.id).map fun row => ⟨row.sku, row.quantity.toInt⟩)

/-- `UpdateStatus`: no row to update is no error. -/
def updateStatus (orderID : OrderID) (status : OrderStatus) (db : OrderingDB) : OrderingDB :=
  match db.groceryOrders.lookup orderID with
  | none => db
  | some order =>
      { db with groceryOrders := db.groceryOrders.insert orderID { order with status } }

/-- `OrderStore.UpdateOrderStatus`: a price that is not positive is ignored. -/
def updateOrderStatus (orderID : OrderID) (status : OrderStatus) (totalPrice : ℚ)
    (db : OrderingDB) : Except GoError OrderingDB :=
  match db.groceryOrders.lookup orderID with
  | none => .error (.notFound ("order not found: " ++ orderID))
  | some order =>
      match (if 0 < totalPrice then numeric totalPrice else .ok order.totalPrice) with
      | .error err => .error (err.wrap "failed to update order status: ")
      | .ok totalPrice =>
          .ok { db with
            groceryOrders := db.groceryOrders.insert orderID { order with status, totalPrice } }

/-- `DeleteOrder`: the item rows and the order row, in one transaction. -/
def deleteOrder (orderID : OrderID) (db : OrderingDB) : Except GoError OrderingDB :=
  match db.groceryOrders.lookup orderID with
  | none => .error (.notFound "order not found: sql: no rows in result set")
  | some order =>
      .ok { db with
        groceryOrders := db.groceryOrders.erase orderID
        groceryOrderItems := db.groceryOrderItems.filter fun row => row.orderID ≠ order.id }

/-! ### `RestockStore` -/

/-- `GetSupplierInternalID`. A conflict keeps the id; the sequence moves on. -/
def getSupplierInternalID (businessID : String) (db : OrderingDB) : Nat × OrderingDB :=
  let id := (db.suppliers.lookup businessID).getD db.nextSupplierID
  (id, { db with
    suppliers := db.suppliers.insert businessID id
    nextSupplierID := db.nextSupplierID + 1 })

/-- The item inserts of `CreateRestockOrder`, as far as they can fail. -/
def checkRestockItems : List RestockOrderItem → Except GoError Unit
  | [] => .ok ()
  | item :: rest =>
      match (do let _ ← int4 item.quantity; let _ ← numeric item.unitCost; return ()) with
      | .error err => .error (err.wrap ("failed to save restock item " ++ item.sku ++ ": "))
      | .ok () => checkRestockItems rest

/-- `CreateRestockOrder`. -/
def createRestockOrder (now : Nat) (order : RestockOrder) (items : List RestockOrderItem)
    (db : OrderingDB) : Except GoError OrderingDB :=
  match db.restockOrders.lookup order.orderID, numeric order.totalCost with
  | some _, _ =>
      .error (.fault
        "failed to save restock order header: pq: duplicate key value violates unique constraint")
  | none, .error err => .error (err.wrap "failed to save restock order header: ")
  | none, .ok totalCost => do
      checkRestockItems items
      return { db with
        restockOrders := db.restockOrders.insert order.orderID
          ⟨db.nextRestockID, order.supplierID, order.status, totalCost, now⟩
        nextRestockID := db.nextRestockID + 1 }

/-- `RestockStore.UpdateOrderStatus`. -/
def updateRestockStatus (orderID : OrderID) (status : OrderStatus) (totalCost : ℚ)
    (db : OrderingDB) : Except GoError OrderingDB :=
  match db.restockOrders.lookup orderID with
  | none => .error (.notFound ("no restock order found with order_id " ++ orderID))
  | some order =>
      match numeric totalCost with
      | .error err => .error (err.wrap ("failed to update restock order " ++ orderID ++ ": "))
      | .ok totalCost =>
          .ok { db with
            restockOrders := db.restockOrders.insert orderID { order with status, totalCost } }

end OrderingDB

/-! ### The statements as operations -/

inductive StoreOp where
  | createGroceryOrder (order : GroceryOrder) (items : List GroceryOrderItem)
  | getOrderByID (orderID : OrderID)
  | getOrderItems (orderID : OrderID)
  | updateStatus (orderID : OrderID) (status : OrderStatus)
  | updateOrderStatus (orderID : OrderID) (status : OrderStatus) (totalPrice : ℚ)
  | deleteOrder (orderID : OrderID)
  | getSupplierInternalID (businessID : String)
  | createRestockOrder (order : RestockOrder) (items : List RestockOrderItem)
  | updateRestockStatus (orderID : OrderID) (status : OrderStatus) (totalCost : ℚ)

abbrev StoreAns : StoreOp → Type
  | .createGroceryOrder _ _ => Except GoError Unit
  | .getOrderByID _ => Except GoError (Option GroceryOrder)
  | .getOrderItems _ => Except GoError (List GroceryOrderItem)
  | .updateStatus _ _ => Except GoError Unit
  | .updateOrderStatus _ _ _ => Except GoError Unit
  | .deleteOrder _ => Except GoError Unit
  | .getSupplierInternalID _ => Except GoError Nat
  | .createRestockOrder _ _ => Except GoError Unit
  | .updateRestockStatus _ _ _ => Except GoError Unit

/-- A statement that either fails without effect or replaces the database. -/
def commit (result : OrderingDB → Except GoError OrderingDB) (db : OrderingDB) :
    Except GoError Unit × OrderingDB :=
  match result db with
  | .error err => (.error err, db)
  | .ok db' => (.ok (), db')

/-- A statement under a fault leaves the database alone or replaces it, and
certainly replaces it if it answers without an error. -/
theorem run_commit (fault : Fault) (context : String)
    (result : OrderingDB → Except GoError OrderingDB) (db : OrderingDB) :
    let answer := fault.run context (commit result) db
    (answer.1 = .ok () → result db = .ok answer.2) ∧
      (answer.2 = db ∨ result db = .ok answer.2) := by
  have hcommit : (commit result db).2 = db ∨ result db = .ok (commit result db).2 := by
    unfold commit
    cases result db with
    | error err => exact Or.inl rfl
    | ok db' => exact Or.inr rfl
  refine ⟨fun hok => ?_, ?_⟩
  · have hrun := Fault.run_of_ok hok
    rw [hrun] at hok ⊢
    unfold commit at hok ⊢
    cases hresult : result db with
    | error err => simp [hresult] at hok
    | ok db' => rfl
  · rcases fault.run_state context (commit result) db with hstate | hstate
    · exact Or.inl hstate
    · rw [hstate]
      exact hcommit

/-- One statement on the ordering database under a fault, at a time. -/
def storeExec (now : Nat) (fault : Fault) : Handler StoreAns OrderingDB
  | .createGroceryOrder order items, db =>
      fault.run "" (commit (OrderingDB.createGroceryOrder now order items)) db
  | .getOrderByID orderID, db =>
      fault.run "" (fun db => (.ok (db.getOrderByID orderID), db)) db
  | .getOrderItems orderID, db =>
      fault.run "" (fun db => (db.getOrderItems orderID, db)) db
  | .updateStatus orderID status, db =>
      fault.run "" (fun db => (.ok (), db.updateStatus orderID status)) db
  | .updateOrderStatus orderID status totalPrice, db =>
      fault.run "failed to update order status: "
        (commit (OrderingDB.updateOrderStatus orderID status totalPrice)) db
  | .deleteOrder orderID, db => fault.run "" (commit (OrderingDB.deleteOrder orderID)) db
  | .getSupplierInternalID businessID, db =>
      fault.run ("failed to get or create supplier " ++ businessID ++ ": ")
        (fun db => (.ok (db.getSupplierInternalID businessID).1,
          (db.getSupplierInternalID businessID).2)) db
  | .createRestockOrder order items, db =>
      fault.run "" (commit (OrderingDB.createRestockOrder now order items)) db
  | .updateRestockStatus orderID status totalCost, db =>
      fault.run ("failed to update restock order " ++ orderID ++ ": ")
        (commit (OrderingDB.updateRestockStatus orderID status totalCost)) db

end AutoGrocery

import AutoGrocery.Fault
import AutoGrocery.Inventory.Stock

/-!
The inventory service of `internal/handler/grpc.go`. A method is a program of
stock statements, Redis commands, robot broadcasts, calls to pricing and
webhook posts. A `go` statement is an operation of its own: it answers at once,
and the goroutine it starts is a further program.
-/

namespace AutoGrocery

open Interleaving

inductive InventoryOp where
  | getBatchItems (skus : List SKU)
  | reserveStock (requests : ItemMap)
  | releaseStock (returns : ItemMap)
  | upsertStock (item : StockItem)
  | saveOrderItems (orderID : OrderID) (items : ItemMap)
  | getOrderItems (orderID : OrderID)
  | saveRestockItems (orderID : OrderID) (items : List RestockItem)
  | getRestockItems (orderID : OrderID)
  | incrementRobotCount (orderID : OrderID) (isRestock : Bool)
  | deleteOrderData (orderID : OrderID) (isRestock : Bool)
  | tryMarkOrderFinalized (orderID : OrderID) (isRestock : Bool)
  | sendRobotCommand (orderID : OrderID) (orderType : OrderType) (items : GoMap ItemDetails)
  | calculateBill (items : List CartItem)
  | updateStockMetrics (updates : List StockMetric)
  | postWebhook (url : WebhookURL) (payload : WebhookPayload)
  | goFinalizeOrder (orderID : OrderID) (isRestock : Bool)
  | goUpdateStockMetrics (metrics : List StockMetric)

abbrev InventoryAns : InventoryOp → Type
  | .getBatchItems _ => Except GoError (GoMap StockRow)
  | .reserveStock _ => Except GoError ItemMap
  | .releaseStock _ => Except GoError Unit
  | .upsertStock _ => Except GoError Unit
  | .saveOrderItems _ _ => Except GoError Unit
  | .getOrderItems _ => Except GoError ItemMap
  | .saveRestockItems _ _ => Except GoError Unit
  | .getRestockItems _ => Except GoError (List RestockItem)
  | .incrementRobotCount _ _ => Except GoError Nat
  | .deleteOrderData _ _ => Except GoError Unit
  | .tryMarkOrderFinalized _ _ => Except GoError Bool
  | .sendRobotCommand _ _ _ => Except GoError Unit
  | .calculateBill _ => Except GoError CalculateBillResponse
  | .updateStockMetrics _ => Except GoError UpdateStockMetricsResponse
  | .postWebhook _ _ => Except GoError Nat
  | .goFinalizeOrder _ _ => Unit
  | .goUpdateStockMetrics _ => Unit

abbrev InventoryProg (α : Type) := Prog InventoryAns α

/-- An answer that reports a fault. -/
def InventoryAns.faulty : (op : InventoryOp) → InventoryAns op → Bool
  | .getBatchItems _, ans => isFault ans
  | .reserveStock _, ans => isFault ans
  | .releaseStock _, ans => isFault ans
  | .upsertStock _, ans => isFault ans
  | .saveOrderItems _ _, ans => isFault ans
  | .getOrderItems _, ans => isFault ans
  | .saveRestockItems _ _, ans => isFault ans
  | .getRestockItems _, ans => isFault ans
  | .incrementRobotCount _ _, ans => isFault ans
  | .deleteOrderData _ _, ans => isFault ans
  | .tryMarkOrderFinalized _ _, ans => isFault ans
  | .sendRobotCommand _ _ _, ans => isFault ans
  | .calculateBill _, ans => isFault ans
  | .updateStockMetrics _, ans => isFault ans
  | .postWebhook _ _, ans => isFault ans
  | .goFinalizeOrder _ _, _ => false
  | .goUpdateStockMetrics _, _ => false

namespace InventoryHandler

/-! ### Reservations -/

/-- The loop over `req.GetItems()` that decides `allReserved`. -/
def allReserved (wanted reserved : ItemMap) : Bool :=
  wanted.entries.all fun row => decide (¬ reserved.at row.1 < row.2)

/-- `ReserveItems` after its reserve statement. The error of the compensating
release is dropped. -/
def afterReserve (req : ReserveItemsRequest) :
    Except GoError ItemMap → InventoryProg (Except GoError ReserveItemsResponse)
  | .error err => .ret (.error err)
  | .ok reserved =>
      let rejected : ReserveItemsResponse := ⟨req.orderID, false, "insufficient stock"⟩
      if allReserved req.items reserved then .ret (.ok ⟨req.orderID, true, ""⟩)
      else if 0 < reserved.entries.length then
        .call (.releaseStock reserved) fun _ => .ret (.ok rejected)
      else .ret (.ok rejected)

/-- `ReserveItems`. -/
def reserveItems (req : ReserveItemsRequest) :
    InventoryProg (Except GoError ReserveItemsResponse) :=
  if req.orderID = "" then .ret (.ok ⟨"", false, "missing order_id"⟩)
  else if req.items.entries.length = 0 then
    .ret (.ok ⟨req.orderID, false, "no items to reserve"⟩)
  else .call (.reserveStock req.items) (afterReserve req)

/-- `ReleaseItems`. -/
def releaseItems (req : ReleaseItemsRequest) :
    InventoryProg (Except GoError ReleaseItemsResponse) :=
  if req.items.entries.length = 0 then .ret (.ok ⟨true⟩)
  else
    .call (.releaseStock req.items) fun
      | .error err => .ret (.error err)
      | .ok _ => .ret (.ok ⟨true⟩)

/-! ### Dispatch -/

/-- The map `prepareRobotItems` builds from the rows it found. -/
def robotItems (dbItems : GoMap StockRow) (items : ItemMap) : GoMap ItemDetails :=
  items.selectRows fun sku qty =>
    some ⟨qty, ((dbItems.lookup sku).map StockRow.aisleType).getD "Unknown"⟩

/-- `prepareRobotItems`. A failed lookup leaves a nil map, so no row is found. -/
def prepareRobotItems (items : ItemMap) : InventoryProg (GoMap ItemDetails) :=
  .call (.getBatchItems items.keys) fun
    | .error _ => .ret (robotItems ∅ items)
    | .ok dbItems => .ret (robotItems dbItems items)

/-- `assignRobots`. A failed broadcast is only logged. -/
def assignRobots (orderID : OrderID) (orderType : OrderType) (items : GoMap ItemDetails) :
    InventoryProg Unit :=
  .call (.sendRobotCommand orderID orderType items) fun _ => .ret ()

/-- `ProcessCustomerOrder`. -/
def processCustomerOrder (req : ProcessCustomerOrderRequest) :
    InventoryProg (Except GoError ProcessCustomerOrderResponse) :=
  .call (.saveOrderItems req.orderID req.items) fun
    | .error err => .ret (.error err)
    | .ok _ => do
        let items ← prepareRobotItems req.items
        assignRobots req.orderID .customer items
        return .ok ⟨true, "Customer order processed and robots dispatched."⟩

/-- The robot map of `RestockItemsOrder`: a later line of a SKU replaces an
earlier one. -/
def restockRobotItems (items : List RestockItem) : GoMap ItemDetails :=
  items.foldl (fun details item => details.insert item.sku ⟨item.quantity, item.aisleType⟩) ∅

/-- `RestockItemsOrder`. -/
def restockItemsOrder (req : RestockItemsOrderRequest) :
    InventoryProg (Except GoError RestockItemsOrderResponse) :=
  .call (.saveRestockItems req.orderID req.items) fun
    | .error err => .ret (.error err)
    | .ok _ => do
        assignRobots req.orderID .restock (restockRobotItems req.items)
        return .ok ⟨true⟩

/-! ### Robot callbacks -/

/-- `ReportJobStatus` once the counter is incremented. -/
def afterIncrement (orderID : OrderID) (isRestock : Bool) :
    Except GoError Nat → InventoryProg (Except GoError ReportJobStatusResponse)
  | .error err => .ret (.error err)
  | .ok count =>
      if 5 ≤ count then
        .call (.tryMarkOrderFinalized orderID isRestock) fun
          | .error markErr => .ret (.error markErr)
          | .ok marked =>
              if marked then .call (.goFinalizeOrder orderID isRestock) fun _ => .ret (.ok ⟨true⟩)
              else .ret (.ok ⟨true⟩)
      else .ret (.ok ⟨true⟩)

/-- `isRestock` of `ReportJobStatus`: every other order type is a client order. -/
def isRestock (req : ReportJobStatusRequest) : Bool := decide (req.orderType = .restock)

/-- `ReportJobStatus`. The increment is on the restock counter or on the client
counter. -/
def reportJobStatus (req : ReportJobStatusRequest) :
    InventoryProg (Except GoError ReportJobStatusResponse) :=
  .call (.incrementRobotCount req.orderID (isRestock req))
    (afterIncrement req.orderID (isRestock req))

/-! ### Finalization -/

/-- `callWebhook`. Neither the error nor the HTTP status has any effect. -/
def callWebhook (orderID : OrderID) (price : ℚ) (url : WebhookURL) (priceKey : String) :
    InventoryProg Unit :=
  .call (.postWebhook url ⟨orderID, .completed, priceKey, price⟩) fun _ => .ret ()

/-- `DeleteOrderData`, whose error is dropped. -/
def deleteOrderData (orderID : OrderID) (isRestock : Bool) : InventoryProg Unit :=
  .call (.deleteOrderData orderID isRestock) fun _ => .ret ()

/-- The stock item `finalizeRestock` upserts for a manifest line. -/
def stockItem (pi : RestockItem) : StockItem :=
  ⟨pi.sku, pi.name, pi.aisleType, pi.quantity, pi.unitCost, pi.mfdDate, pi.expiryDate⟩

/-- The accumulators of the loop of `finalizeRestock`. The SKU set it also
keeps is the set of keys of `latestUnitCostBySKU`. -/
structure RestockTotals where
  totalCost : ℚ
  latestUnitCostBySKU : GoMap ℚ

/-- The loop of `finalizeRestock`: a line whose upsert fails still counts for
the cost and is otherwise skipped. -/
def upsertItems : List RestockItem → RestockTotals → InventoryProg RestockTotals
  | [], totals => .ret totals
  | pi :: rest, totals =>
      let totalCost := totals.totalCost + pi.unitCost * pi.quantity.toInt
      .call (.upsertStock (stockItem pi)) fun
        | .error _ => upsertItems rest ⟨totalCost, totals.latestUnitCostBySKU⟩
        | .ok _ => upsertItems rest ⟨totalCost, totals.latestUnitCostBySKU.insert pi.sku pi.unitCost⟩

/-- `pricingUpdates` for the rows that were read back. -/
def stockMetrics (latestUnitCostBySKU : GoMap ℚ) (currentItems : GoMap StockRow) :
    List StockMetric :=
  latestUnitCostBySKU.entries.filterMap fun row =>
    (currentItems.lookup row.1).map fun currentItem => ⟨row.1, currentItem.quantity, row.2⟩

/-- The read-back of `finalizeRestock`; it is skipped when no line was stored. -/
def pricingUpdates (latestUnitCostBySKU : GoMap ℚ) : InventoryProg (List StockMetric) :=
  if 0 < latestUnitCostBySKU.keys.length then
    .call (.getBatchItems latestUnitCostBySKU.keys) fun
      | .error _ => .ret []
      | .ok currentItems => .ret (stockMetrics latestUnitCostBySKU currentItems)
  else .ret []

/-- `finalizeRestock`. -/
def finalizeRestock (orderID : OrderID) : InventoryProg Unit :=
  .call (.getRestockItems orderID) fun
    | .error _ => .ret ()
    | .ok items => do
        let totals ← upsertItems items ⟨0, ∅⟩
        let metrics ← pricingUpdates totals.latestUnitCostBySKU
        let () ← .call (.goUpdateStockMetrics metrics) .ret
        callWebhook orderID totals.totalCost .updateRestock "total_cost"
        deleteOrderData orderID true

/-- The body of the goroutine `finalizeRestock` starts. -/
def asyncStockMetrics (metrics : List StockMetric) : InventoryProg Unit :=
  if metrics.length = 0 then .ret ()
  else .call (.updateStockMetrics metrics) fun _ => .ret ()

/-- The cart `finalizeClientOrder` bills. -/
def cartItems (items : ItemMap) : List CartItem :=
  items.entries.map fun row => ⟨row.1, row.2⟩

/-- `finalizeClientOrder` once the items are read. A failed bill is a price of
zero. -/
def billClientOrder (orderID : OrderID) (items : ItemMap) : InventoryProg Unit :=
  .call (.calculateBill (cartItems items)) fun answer => do
    let finalPrice := match answer with
      | .ok resp => resp.grandTotal
      | .error _ => 0
    callWebhook orderID finalPrice .updateOrder "total_price"
    deleteOrderData orderID false

/-- `finalizeClientOrder`. -/
def finalizeClientOrder (orderID : OrderID) : InventoryProg Unit :=
  .call (.getOrderItems orderID) fun
    | .error _ => .ret ()
    | .ok items => billClientOrder orderID items

/-- `finalizeOrder`. -/
def finalizeOrder (orderID : OrderID) (isRestock : Bool) : InventoryProg Unit :=
  if isRestock then finalizeRestock orderID else finalizeClientOrder orderID

/-- The goroutines an operation starts. -/
def goroutines : Event InventoryAns → List (InventoryProg Unit)
  | ⟨.goFinalizeOrder orderID isRestock, _⟩ => [finalizeOrder orderID isRestock]
  | ⟨.goUpdateStockMetrics metrics, _⟩ => [asyncStockMetrics metrics]
  | _ => []

end InventoryHandler

end AutoGrocery

import AutoGrocery.Frontend.Client
import AutoGrocery.Orders.Restocks

/-!
The truck frontend, `frontend/truck/app.py`: the button OFFLOAD TRUCK sends the manifest and
then polls the status of the restock order, 120 times at most. Any number of trucks offload
next to the requests of clients, other trucks and robots, operation by operation.
-/

namespace AutoGrocery

open Interleaving

/-- A row of `st.session_state.restock_items`, whose quantity is a Python integer. -/
structure ManifestRow where
  sku : SKU
  name : String
  aisleType : String
  quantity : Int
  unitCost : ℚ
  deriving DecidableEq

/-- The fields of the page. Its two dates are those of every row. -/
structure OffloadForm where
  supplierID : String
  supplierName : String
  mfdDate : Timestamp
  expiryDate : Timestamp
  rows : List ManifestRow
  deriving DecidableEq

/-- A JSON number as an `int32` field of Go; the whole body does not decode out of range. -/
def decodeInt32 (x : Int) : Option Int32 :=
  if -2 ^ 31 ≤ x ∧ x < 2 ^ 31 then some (Int32.ofInt x) else none

namespace OffloadForm

/-- `manifest`: the rows with a SKU. -/
def manifest (form : OffloadForm) : List ManifestRow := form.rows.filter fun row => row.sku ≠ ""

/-- The payload as `RestockHandler` decodes it. -/
def body (form : OffloadForm) : Option TruckManifest :=
  (form.manifest.mapM fun row => (decodeInt32 row.quantity).map fun quantity =>
    (⟨row.sku, row.name, row.aisleType, quantity, row.unitCost, form.mfdDate,
      form.expiryDate⟩ : RestockItem)).map fun items => ⟨form.supplierID, items⟩

end OffloadForm

/-- What a truck's page and the handlers it waits for do. -/
inductive TruckOp where
  | send
  | receive
  | newUUID
  | ordering (op : OrderingOp)
  | restock (op : RestockOp)

abbrev TruckAns : TruckOp → Type
  | .send => Bool
  | .receive => Bool
  | .newUUID => OrderID
  | .ordering op => OrderingAns op
  | .restock op => RestockAns op

abbrev TruckProg := Prog TruckAns

/-- How the polling ends: with a receipt, with OFFLOAD FAILED, with CONNECTION ERROR, or after
the last poll. -/
inductive OffloadEnd where
  | complete (totalCost : ℚ)
  | failed
  | unreachable
  | waiting
  deriving DecidableEq

/-- What the page shows in the end. The telemetry are the statuses it was told. -/
inductive OffloadScreen where
  | missingFields
  | noItems
  | failure (status : Nat)
  | unreachable
  | offloading (orderID : OrderID) (telemetry : List OrderStatus) (finish : OffloadEnd)
  deriving DecidableEq

/-- `requests.get` and `requests.post` of the truck frontend. -/
def truckExchange {α : Type} (status : α → Option Nat) (server : TruckProg α) : TruckProg (Option α) :=
  Prog.roundTrip (.call .send .ret) (.call .receive .ret) (fun reply => (status reply).isSome) server

/-- `POST /api/truck/restock`. -/
def restockRoute (form : OffloadForm) : TruckProg Reply :=
  .call .newUUID fun restockUUID => (restockOrder form.body restockUUID).lift .ordering fun _ ans => ans

/-- The loop `for _ in range(120)`. A poll that is not answered with 200 counts and shows nothing. -/
def pollRestock (orderID : OrderID) : Nat → List OrderStatus → TruckProg OffloadScreen
  | 0, telemetry => .ret (.offloading orderID telemetry .waiting)
  | turns + 1, telemetry =>
      truckExchange RestockReply.status ((restockStatus orderID).lift .restock fun _ ans => ans) >>= fun
        | none => .ret (.offloading orderID telemetry .unreachable)
        | some (.reply _) => pollRestock orderID turns telemetry
        | some (.success data) =>
            if data.status = .completed then
              .ret (.offloading orderID (telemetry ++ [data.status]) (.complete data.totalCost))
            else if data.status.saysFailed then
              .ret (.offloading orderID (telemetry ++ [data.status]) .failed)
            else pollRestock orderID turns (telemetry ++ [data.status])

/-- The button OFFLOAD TRUCK. -/
def offloadTruck (form : OffloadForm) : TruckProg OffloadScreen :=
  if form.supplierID = "" ∨ form.supplierName = "" then .ret .missingFields
  else if form.manifest = [] then .ret .noItems
  else
    truckExchange Reply.status (restockRoute form) >>= fun
      | none => .ret .unreachable
      | some (.http 201 data) => pollRestock ((data.get "order_id").getD "") 120 []
      | some reply => .ret (.failure (reply.status.getD 0))

/-! ### Trucks and services at the same time -/

/-- What the surroundings decide about one operation of a page or its handlers. -/
structure TruckSurroundings where
  succeeds : Bool := true
  orderUUID : OrderID := ""
  statement : Fault := .works
  call : CallFault (CallFault Fault) := .works

def truckExec (env : TruckSurroundings) : Handler TruckAns World
  | .send, w => (env.succeeds, w)
  | .receive, w => (env.succeeds, w)
  | .newUUID, w => (env.orderUUID, w)
  | .ordering op, w => orderingExec env.call op w
  | .restock op, w => ((restockExec env.statement op w.ordering).1, w)

/-- A page whose button was pressed, or a handler or goroutine of the services. -/
inductive DepotThread where
  | truck (form : OffloadForm) (prog : TruckProg OffloadScreen)
  | service (thread : Thread)

inductive DepotChoice where
  | truck (env : TruckSurroundings)
  | service (fault : ServiceFault)

inductive DepotEvent where
  | truck (event : Event TruckAns)
  | service (event : ServiceEvent)

/-- One step of a thread. -/
def depotAct : Act DepotChoice DepotThread World DepotEvent
  | .truck env, .truck form (.call op next), w =>
      let answer := truckExec env op w
      some ⟨.truck ⟨op, answer.1⟩, .truck form (next answer.1), [], answer.2⟩
  | .service fault, .service thread, w =>
      (serviceAct fault thread w).map fun move =>
        ⟨.service move.event, .service move.thread, move.spawned.map .service, move.state⟩
  | _, _, _ => none

/-- Trucks that start to offload, and requests. -/
def depotOpening (forms : List OffloadForm) (requests : List Request) (w : World) : Pool DepotThread World :=
  ⟨forms.map (fun form => .truck form (offloadTruck form)) ++
    requests.map fun request => .service request.thread, w⟩

end AutoGrocery

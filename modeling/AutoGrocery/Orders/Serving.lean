import AutoGrocery.Orders.Agreement
import AutoGrocery.Orders.Dispatch
import AutoGrocery.Orders.Cancel
import AutoGrocery.Reservation.Ledger

/-!
Requests served one at a time, each from its beginning to the end of the
goroutines it started, and the units of a SKU that are in stock, in orders no
robot has heard of, or told to the robots.
-/

namespace AutoGrocery

open Interleaving InventoryHandler

/-! ### Serving a request -/

/-- The world a request leaves, and its steps. -/
structure Served where
  state : World
  events : List ServiceEvent

/-- Run goroutines one after the other. -/
def runAll (run : InventoryProg Unit → World → World × List (Event InventoryAns)) :
    List (InventoryProg Unit) → World → World × List (Event InventoryAns)
  | [], w => (w, [])
  | prog :: rest, w =>
      let first := run prog w
      let later := runAll run rest first.1
      (later.1, first.2 ++ later.2)

/-- Run a method of inventory and the goroutines it starts, down to a depth. -/
def settle : Nat → InventoryProg Unit → World → World × List (Event InventoryAns)
  | 0, prog, w =>
      let outcome := prog.run (inventoryExec .works) w
      (outcome.state, outcome.trace)
  | depth + 1, prog, w =>
      let outcome := prog.run (inventoryExec .works) w
      let started := runAll (settle depth) (outcome.trace.flatMap goroutines) outcome.state
      (started.1, outcome.trace ++ started.2)

/-- Serve a request. A robot's report may start a finalization, which may start
a delivery of metrics, which starts nothing. -/
def Request.serve : Request → World → Served
  | .client userID request, w =>
      let outcome := (request.handle userID).run (orderingExec .works) w
      ⟨outcome.state, outcome.trace.map .ordering⟩
  | .restock body restockUUID, w =>
      let outcome := (restockOrder body restockUUID).run (orderingExec .works) w
      ⟨outcome.state, outcome.trace.map .ordering⟩
  | .report req, w =>
      let settled := settle 2 (rpcThread (reportJobStatus req)) w
      ⟨settled.1, settled.2.map .inventory⟩

/-- Serve requests in order. -/
def serveAll : List Request → World → Served
  | [], w => ⟨w, []⟩
  | request :: rest, w =>
      let first := request.serve w
      let later := serveAll rest first.state
      ⟨later.state, first.events ++ later.events⟩

/-- A condition that every request meets in the world it finds. -/
def throughout (allowed : World → Request → Bool) : List Request → World → Bool
  | [], _ => true
  | request :: rest, w => allowed w request && throughout allowed rest (request.serve w).state

/-! ### The books -/

/-- The robots have been told of the client order. -/
def World.dispatched (w : World) (orderID : OrderID) : Bool :=
  w.broadcasts.any (OrderBroadcast.isFor orderID)

/-- The units of a SKU in a broadcast. -/
def OrderBroadcast.units (broadcast : OrderBroadcast) (sku : SKU) : Int :=
  (broadcast.items.map fun item => if item.sku = sku then item.quantity.toInt else 0).sum

/-- The units of a SKU the robots were told to pick for customers. -/
def World.told (w : World) (sku : SKU) : Int :=
  (w.broadcasts.map fun broadcast =>
    if broadcast.orderType = .customer then broadcast.units sku else 0).sum

/-- The units of a SKU that existing orders list and no robot has heard of. -/
def World.untold (w : World) (sku : SKU) : Int :=
  w.ordering.groceryOrders.total fun orderID row =>
    if w.dispatched orderID then 0 else lineUnits (w.ordering.itemRows row.id) sku

/-- All units of a SKU there are. -/
def World.ledger (w : World) (sku : SKU) : Int :=
  w.stock.available sku + w.untold sku + w.told sku

/-- The units of a SKU that restocks added in these steps. -/
def restocked (sku : SKU) (events : List ServiceEvent) : Int :=
  (events.map fun
    | .inventory event => upsertedBy sku event.op
    | .ordering _ => 0).sum

theorem restocked_append (sku : SKU) (events events' : List ServiceEvent) :
    restocked sku (events ++ events') = restocked sku events + restocked sku events' := by
  simp [restocked]

/-- Steps of ordering restock nothing. -/
theorem restocked_ordering (sku : SKU) (trace : List (Event OrderingAns)) :
    restocked sku (trace.map .ordering) = 0 := by
  unfold restocked
  rw [List.map_map]
  apply List.sum_eq_zero
  intro units hunits
  obtain ⟨event, _, rfl⟩ := List.mem_map.mp hunits
  rfl

/-- The books are in order: the lines of an order are as a preview stores them,
and an order is PENDING exactly as long as no robot has heard of it. -/
structure Booked (w : World) : Prop where
  wellFormed : w.ordering.WellFormed
  placed : ∀ orderID row, w.ordering.groceryOrders.lookup orderID = some row →
    Placed w.stock (w.ordering.itemRows row.id)
  pending : ∀ orderID row, w.ordering.groceryOrders.lookup orderID = some row →
    (row.status = .pending ↔ w.dispatched orderID = false)
  known : ∀ orderID, w.dispatched orderID = true → w.ordering.groceryOrders.lookup orderID ≠ none
  saved : ∀ orderID items, w.memory.getOrderItems orderID = .ok items → w.dispatched orderID = true

/-- The books are still in order, and hold what was restocked besides. -/
structure Balanced (w w' : World) (events : List ServiceEvent) : Prop where
  booked : Booked w'
  ledger : ∀ sku, w'.ledger sku = w.ledger sku + restocked sku events

theorem Balanced.refl {w : World} (hbooked : Booked w) : Balanced w w [] :=
  ⟨hbooked, fun sku => by simp [restocked]⟩

theorem Balanced.trans {w w' w'' : World} {events events' : List ServiceEvent}
    (h : Balanced w w' events) (h' : Balanced w' w'' events') : Balanced w w'' (events ++ events') := by
  refine ⟨h'.booked, fun sku => ?_⟩
  rw [h'.ledger, h.ledger, restocked_append]
  ring

end AutoGrocery

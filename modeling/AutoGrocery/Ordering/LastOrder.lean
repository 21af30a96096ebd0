import Mathlib.Data.List.MinMax
import AutoGrocery.Ordering.Handlers

/-!
The newest order of a client: `GetLastOrderByClientID` of
`internal/store/grocery_orders.go`, and `internal/handlers/client/receipt.go`,
which the frontend polls. The store reports that there is no order by a nil order
without an error, and the handler expects an error.
-/

namespace AutoGrocery

open Interleaving

/-- The rows of a client. -/
def OrderingDB.clientOrders (db : OrderingDB) (clientID : Int) : List (Sigma fun _ : OrderID => OrderRow) :=
  db.groceryOrders.entries.filter fun row => row.2.clientID = clientID

/-- `GetLastOrderByClientID`: `ORDER BY created_at DESC LIMIT 1`. Of rows of one time
the database may return any; here it is the first. -/
def OrderingDB.getLastOrderByClientID (db : OrderingDB) (clientID : Int) : Option GroceryOrder :=
  ((db.clientOrders clientID).argmax fun row => row.2.createdAt).map fun row =>
    ⟨row.2.id, row.1, clientID, row.2.status, row.2.totalPrice, row.2.createdAt⟩

inductive LastOrderOp where
  | getLastOrderByClientID (clientID : Int)

abbrev LastOrderAns : LastOrderOp → Type
  | .getLastOrderByClientID _ => Except GoError (Option GroceryOrder)

/-- The statement of the handler under a fault. -/
def lastOrderExec (fault : Fault) : Handler LastOrderAns OrderingDB
  | .getLastOrderByClientID clientID, db =>
      fault.run "failed to get last order: " (fun db => (.ok (db.getLastOrderByClientID clientID), db)) db

/-- How a poll ends: like another request, or with `"status": "success"` and the order
as `"data"`. -/
inductive LastOrderReply where
  | reply (reply : Reply)
  | success (data : GroceryOrder)

/-- The status code of a response, if there is one. -/
def LastOrderReply.status : LastOrderReply → Option Nat
  | .reply answer => answer.status
  | .success _ => some 200

/-- `LastOrderHandler.ServeHTTP`. The order is read for the log before it is encoded. -/
def lastOrder (userID : Option Int) : Prog LastOrderAns LastOrderReply :=
  match userID with
  | none => .ret (.reply (httpError "Unauthorized" 401))
  | some userID =>
      .call (.getLastOrderByClientID userID) fun
        | .error _ => .ret (.reply (.http 404 (.json [("error", "No orders found for this user")])))
        | .ok none => .ret (.reply .nilDereference)
        | .ok (some order) => .ret (.success order)

/-- There is a newest order when there is an order at all. -/
theorem OrderingDB.getLastOrderByClientID_isSome {db : OrderingDB} {clientID : Int} :
    (db.getLastOrderByClientID clientID).isSome = true ↔
      ∃ orderID row, db.groceryOrders.lookup orderID = some row ∧ row.clientID = clientID := by
  rw [getLastOrderByClientID, Option.isSome_map, ← Option.ne_none_iff_isSome, ne_eq, List.argmax_eq_none]
  constructor
  · intro hne
    obtain ⟨⟨orderID, row⟩, hmem⟩ := List.exists_mem_of_ne_nil _ hne
    obtain ⟨hentry, hclient⟩ := List.mem_filter.mp hmem
    exact ⟨orderID, row, AList.mem_lookup_iff.mpr hentry, of_decide_eq_true hclient⟩
  · rintro ⟨orderID, row, hrow, hclient⟩
    apply List.ne_nil_of_mem (a := ⟨orderID, row⟩)
    exact List.mem_filter.mpr ⟨AList.mem_lookup_iff.mp hrow, decide_eq_true hclient⟩

end AutoGrocery

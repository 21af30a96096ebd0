import AutoGrocery.Data

/-!
The robot side: the broadcast `internal/mq` of inventory builds, and the worker
loop of `robots/internal/bot/main.cpp`, which filters a broadcast by the aisle
it was started with and reports what it picked.
-/

namespace AutoGrocery

/-- The message `SendRobotCommand` serializes, one item for each map entry. -/
def orderBroadcast (orderID : OrderID) (orderType : OrderType) (items : GoMap ItemDetails) :
    OrderBroadcast :=
  ⟨orderID, orderType, items.entries.map fun row => ⟨row.1, row.2.quantity, row.2.aisle⟩⟩

/-- A worker process, bound to one aisle. -/
structure RobotWorker where
  aisleType : String
  deriving DecidableEq

namespace RobotWorker

/-- The items of a broadcast the worker picks: a direct string comparison. -/
def matching (worker : RobotWorker) (broadcast : OrderBroadcast) : List BroadcastItem :=
  broadcast.items.filter fun item => item.aisle = worker.aisleType

/-- `processed_items` after the loop over the broadcast. -/
def processedItems (worker : RobotWorker) (broadcast : OrderBroadcast) : ItemMap :=
  (worker.matching broadcast).foldl (fun items item => items.insert item.sku item.quantity) ∅

/-- How long the loop sleeps on a broadcast, in milliseconds: five seconds for each
item it picks. -/
def sleeps (worker : RobotWorker) (broadcast : OrderBroadcast) : Nat :=
  (worker.matching broadcast).length * 5000

/-- `ReportToInventory`. -/
def report (worker : RobotWorker) (broadcast : OrderBroadcast) : ReportJobStatusRequest :=
  ⟨broadcast.orderID, broadcast.orderType,
    if (worker.matching broadcast).isEmpty then "NO_OP" else "SUCCESS",
    worker.processedItems broadcast⟩

end RobotWorker

/-- The aisles of the deployment, one worker process each. -/
def deploymentAisles : List String := ["bread", "meat", "produce", "dairy", "party"]

def deploymentWorkers : List RobotWorker := deploymentAisles.map RobotWorker.mk

/-! ### What the workers pick -/

section

variable (orderID : OrderID) (orderType : OrderType) (items : GoMap ItemDetails)

/-- A broadcast lists each SKU once. -/
theorem orderBroadcast_nodup :
    ((orderBroadcast orderID orderType items).items.map BroadcastItem.sku).Nodup := by
  have hkeys : (orderBroadcast orderID orderType items).items.map BroadcastItem.sku =
      items.entries.map Sigma.fst := by
    simp [orderBroadcast, Function.comp_def]
  rw [hkeys]
  exact items.nodupKeys

/-- A worker reports the items of its aisle, each with its full quantity. -/
theorem processedItems_lookup (worker : RobotWorker) (sku : SKU) :
    (worker.processedItems (orderBroadcast orderID orderType items)).lookup sku =
      (items.lookup sku).bind fun details =>
        if details.aisle = worker.aisleType then some details.quantity else none := by
  have hnodup := orderBroadcast_nodup orderID orderType items
  set broadcast := orderBroadcast orderID orderType items
  have hsub : ((worker.matching broadcast).map BroadcastItem.sku).Nodup :=
    hnodup.sublist (List.filter_sublist.map _)
  apply Option.ext
  intro quantity
  constructor
  · intro hlookup
    rcases Relational.Table.mem_of_lookup_foldl BroadcastItem.sku BroadcastItem.quantity _ _ hlookup
      with ⟨item, hmatch, rfl, rfl⟩ | hnone
    · obtain ⟨hitem, haisle⟩ := List.mem_filter.mp hmatch
      obtain ⟨row, hrow, rfl⟩ := List.mem_map.mp hitem
      rw [AList.mem_lookup_iff.mpr hrow, Option.bind_some, if_pos (of_decide_eq_true haisle)]
    · cases hnone
  · intro hpicked
    obtain ⟨details, hdetails, hselect⟩ := Option.bind_eq_some_iff.mp hpicked
    split at hselect
    · rename_i haisle
      cases hselect
      have hitem : (⟨sku, details.quantity, details.aisle⟩ : BroadcastItem) ∈ broadcast.items :=
        List.mem_map.mpr ⟨⟨sku, details⟩, AList.mem_lookup_iff.mp hdetails, rfl⟩
      exact Relational.Table.lookup_foldl_of_mem BroadcastItem.sku BroadcastItem.quantity hsub ∅
        (List.mem_filter.mpr ⟨hitem, by simpa using haisle⟩)
    · cases hselect

/-- A worker reports an item with its full quantity exactly when the item is
in the worker's aisle. -/
theorem processedItems_iff (worker : RobotWorker) {item : BroadcastItem}
    (hitem : item ∈ (orderBroadcast orderID orderType items).items) :
    (worker.processedItems (orderBroadcast orderID orderType items)).lookup item.sku =
      some item.quantity ↔ item.aisle = worker.aisleType := by
  obtain ⟨row, hrow, rfl⟩ := List.mem_map.mp hitem
  have hlookup : items.lookup row.1 = some row.2 := AList.mem_lookup_iff.mpr hrow
  rw [processedItems_lookup, hlookup, Option.bind_some]
  constructor
  · intro hpicked
    by_contra haisle
    rw [if_neg haisle] at hpicked
    cases hpicked
  · intro haisle
    exact if_pos haisle

end

end AutoGrocery

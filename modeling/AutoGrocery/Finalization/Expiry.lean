import AutoGrocery.Finalization.Keys
import AutoGrocery.Finalization.Workers
import AutoGrocery.Orders.Calls

/-!
The time an order takes. Saving its items starts their hour in Redis, the broadcast
follows at once, and each worker sleeps five seconds on every item of its aisle
before it reports. Everything else takes no time. The fifth report comes when the
worker with the longest list is through, and it finds the items if that is within
the hour: 720 items of one aisle take the whole of it.
-/

namespace AutoGrocery

open Interleaving InventoryHandler

/-- Either of the two calls that dispatch an order. -/
inductive DispatchRequest where
  | customer (req : ProcessCustomerOrderRequest)
  | restock (req : RestockItemsOrderRequest)

namespace DispatchRequest

def orderID : DispatchRequest → OrderID
  | .customer req => req.orderID
  | .restock req => req.orderID

def isRestock : DispatchRequest → Bool
  | .customer _ => false
  | .restock _ => true

/-- The items a finalization of the order has to find. -/
def work : DispatchRequest → Work
  | .customer req => .client req.items
  | .restock req => .restock req.items

/-- The world after the call, which meets no fault. -/
def dispatch : DispatchRequest → World → World
  | .customer req, w => (orderingExec .works (.processCustomerOrder req) w).2
  | .restock req, w => (orderingExec .works (.restockItemsOrder req) w).2

/-- The broadcast the call sends. -/
def broadcast : DispatchRequest → World → OrderBroadcast
  | .customer req, w =>
      orderBroadcast req.orderID .customer
        (robotItems (w.stock.getBatchItems req.items.keys) req.items)
  | .restock req, _ => orderBroadcast req.orderID .restock (restockRobotItems req.items)

/-- The reports of the five workers, each with the time it arrives. -/
def arrivals (order : DispatchRequest) (w : World) : List (Nat × ReportJobStatusRequest) :=
  deploymentWorkers.map fun worker =>
    (w.now + worker.sleeps (order.broadcast w), worker.report (order.broadcast w))

end DispatchRequest

/-- The world at a later time. The keys whose time has come are gone. -/
def World.at (w : World) (time : Nat) : World :=
  { w with
    now := time
    memory := ⟨w.memory.clientClient.expire time, w.memory.restockClient.expire time⟩ }

/-- A report that arrives at a time and is served at once. -/
def serveReport (arrival : Nat × ReportJobStatusRequest) (w : World) :
    Outcome InventoryAns World (Except GoError ReportJobStatusResponse) :=
  (reportJobStatus arrival.2).run (inventoryExec .works) (w.at arrival.1)

/-- The world after reports that arrive one after the other. -/
def serveReports (arrivals : List (Nat × ReportJobStatusRequest)) (w : World) : World :=
  arrivals.foldl (fun w arrival => (serveReport arrival w).state) w

/-! ### The keys of an order and their expiry times -/

/-- The keys of an order whose items were saved with this deadline, once `count`
workers have reported and before the fifth of them, as they are at a time. -/
structure Awaiting (work : Work) (deadline count time : Nat) (keys : OrderKeys Work) : Prop where
  items : keys.items = if time < deadline then some ⟨work, some deadline⟩ else none
  count : keys.count = if count = 0 then none else some ⟨count, none⟩
  finalized : keys.finalized = none

section

variable {orderID : OrderID} {isRestock : Bool} {work : Work} {deadline count time : Nat} {w : World}

private theorem map_filter_live {I J : Type} (f : I → J) (time : Nat)
    (entry : Option (RedisEntry I)) :
    (entry.filter (·.live time)).map (fun entry => (⟨f entry.value, entry.expiresAt⟩ : RedisEntry J)) =
      (entry.map fun entry => ⟨f entry.value, entry.expiresAt⟩).filter (·.live time) := by
  rw [Option.filter_map]
  rfl

/-- A later time takes the keys whose deadline it has reached. -/
theorem orderKeys_at (orderID : OrderID) (isRestock : Bool) (w : World) (time : Nat) :
    let keys := orderKeys orderID isRestock w.memory
    orderKeys orderID isRestock (w.at time).memory =
      ⟨keys.items.filter (·.live time), keys.count.filter (·.live time),
        keys.finalized.filter (·.live time)⟩ := by
  cases isRestock with
  | false =>
      have hitems := map_filter_live Work.client time (w.memory.clientClient orderID).items
      exact congrArg (fun items => (⟨items, _, _⟩ : OrderKeys Work)) hitems
  | true =>
      have hitems := map_filter_live Work.restock time (w.memory.restockClient orderID).items
      exact congrArg (fun items => (⟨items, _, _⟩ : OrderKeys Work)) hitems

theorem Awaiting.at (hawaiting : Awaiting work deadline count time (orderKeys orderID isRestock w.memory))
    {later : Nat} (hle : time ≤ later) :
    Awaiting work deadline count later (orderKeys orderID isRestock (w.at later).memory) := by
  rw [orderKeys_at]
  refine ⟨?_, ?_, ?_⟩
  · rw [hawaiting.items]
    by_cases hlater : later < deadline
    · have hnow : time < deadline := by omega
      simp [RedisEntry.live, hlater, hnow]
    · by_cases hnow : time < deadline <;> simp [RedisEntry.live, hlater, hnow]
  · rw [hawaiting.count]
    by_cases hzero : count = 0 <;> simp [RedisEntry.live, hzero]
  · rw [hawaiting.finalized]
    rfl

/-- The increment counts one more and leaves the other keys alone. -/
theorem Awaiting.increment
    (hawaiting : Awaiting work deadline count time (orderKeys orderID isRestock w.memory)) :
    (incrementRobotCount orderID isRestock w.memory).1 = count + 1 ∧
      Awaiting work deadline (count + 1) time
        (orderKeys orderID isRestock (incrementRobotCount orderID isRestock w.memory).2) := by
  have hvalue : (keysOf orderID isRestock w.memory).count = count := by
    rw [keysOf_eq, OrderKeys.barrier, hawaiting.count]
    by_cases hzero : count = 0 <;> simp [hzero]
  obtain ⟨hanswer, _, _⟩ := increment_spec orderID isRestock w.memory
  rw [hvalue] at hanswer
  refine ⟨hanswer, ?_⟩
  rw [orderKeys_increment, hvalue]
  refine ⟨hawaiting.items, ?_, hawaiting.finalized⟩
  rw [hawaiting.count]
  by_cases hzero : count = 0 <;> simp [hzero]

end

/-! ### Five reports, one after the other -/

section

variable {orderID : OrderID} {isRestock : Bool} {work : Work} {deadline count time : Nat} {w : World}
  {arrival : Nat × ReportJobStatusRequest}

/-- The first command of a report. -/
private theorem increment_exec (orderID : OrderID) (isRestock : Bool) (w : World) :
    inventoryExec .works (.incrementRobotCount orderID isRestock) w =
      (.ok (incrementRobotCount orderID isRestock w.memory).1,
        { w with memory := (incrementRobotCount orderID isRestock w.memory).2 }) := rfl

private theorem mark_exec (orderID : OrderID) (isRestock : Bool) (w : World) :
    inventoryExec .works (.tryMarkOrderFinalized orderID isRestock) w =
      (.ok (w.memory.tryMarkOrderFinalized w.now orderID isRestock).1,
        { w with memory := (w.memory.tryMarkOrderFinalized w.now orderID isRestock).2 }) := rfl

/-- One of the first four reports counts and does nothing else. -/
theorem serveReport_early (hreports : Reports orderID isRestock arrival.2)
    (hawaiting : Awaiting work deadline count time (orderKeys orderID isRestock w.memory))
    (hle : time ≤ arrival.1) (hcount : count < 4) :
    Awaiting work deadline (count + 1) arrival.1
      (orderKeys orderID isRestock (serveReport arrival w).state.memory) := by
  obtain ⟨rfl, rfl⟩ := hreports
  obtain ⟨hanswer, hafter⟩ := (hawaiting.at hle).increment
  have hlow : ¬ 5 ≤ count + 1 := by omega
  rw [serveReport, reportJobStatus, Prog.run_call, increment_exec, hanswer, afterIncrement,
    if_neg hlow]
  exact hafter

/-- The fifth report starts the finalization, and the items are there if its time
has not reached their deadline. -/
theorem serveReport_fifth (hreports : Reports orderID isRestock arrival.2)
    (hawaiting : Awaiting work deadline 4 time (orderKeys orderID isRestock w.memory))
    (hle : time ≤ arrival.1) :
    let fifth := serveReport arrival w
    .goFinalizeOrder orderID isRestock ∈ fifth.ops ∧
      (keysOf orderID isRestock fifth.state.memory).count = 5 ∧
      savedWork orderID isRestock fifth.state.memory =
        if arrival.1 < deadline then some work else none := by
  obtain ⟨rfl, rfl⟩ := hreports
  obtain ⟨hanswer, hafter⟩ := (hawaiting.at hle).increment
  set counted := (incrementRobotCount arrival.2.orderID (InventoryHandler.isRestock arrival.2)
    (w.at arrival.1).memory).2
  obtain ⟨hmarked, hkeys, hwork⟩ := tryMark_spec arrival.2.orderID
    (InventoryHandler.isRestock arrival.2) counted (w.at arrival.1).now
  have hmarker : (keysOf arrival.2.orderID (InventoryHandler.isRestock arrival.2) counted).marker =
      false := by
    rw [keysOf_eq, OrderKeys.barrier, hafter.finalized]
    rfl
  have hfive : (keysOf arrival.2.orderID (InventoryHandler.isRestock arrival.2) counted).count =
      5 := by
    rw [keysOf_eq, OrderKeys.barrier, hafter.count]
    rfl
  have hitems : savedWork arrival.2.orderID (InventoryHandler.isRestock arrival.2) counted =
      if arrival.1 < deadline then some work else none := by
    rw [savedWork_eq, hafter.items]
    split <;> rfl
  rw [hmarker] at hmarked
  rw [hitems] at hwork
  rw [serveReport, reportJobStatus, Prog.run_call, increment_exec, hanswer, afterIncrement,
    if_pos (by decide : 5 ≤ 4 + 1)]
  dsimp only
  rw [Prog.run_call, mark_exec, hmarked]
  refine ⟨List.mem_cons_of_mem _ (List.mem_cons_of_mem _ List.mem_cons_self), ?_, hwork⟩
  exact (congrArg Barrier.Keys.count hkeys).trans hfive

/-- Reports that come in the order of their times count one by one, up to four. -/
theorem serveReports_early {arrivals : List (Nat × ReportJobStatusRequest)} {fifth : Nat}
    (hreports : ∀ arrival ∈ arrivals, Reports orderID isRestock arrival.2)
    (hordered : arrivals.Pairwise fun earlier later => earlier.1 ≤ later.1)
    (hlater : ∀ arrival ∈ arrivals, time ≤ arrival.1 ∧ arrival.1 ≤ fifth) (htime : time ≤ fifth)
    (hawaiting : Awaiting work deadline count time (orderKeys orderID isRestock w.memory))
    (hfour : count + arrivals.length ≤ 4) :
    ∃ last ≤ fifth, Awaiting work deadline (count + arrivals.length) last
      (orderKeys orderID isRestock (serveReports arrivals w).memory) := by
  induction arrivals generalizing count time w with
  | nil => exact ⟨time, htime, hawaiting⟩
  | cons arrival rest ih =>
      obtain ⟨hfirst, hrest⟩ := List.pairwise_cons.mp hordered
      obtain ⟨hreport, hreports'⟩ := List.forall_mem_cons.mp hreports
      obtain ⟨⟨hnext, hbefore⟩, hlater'⟩ := List.forall_mem_cons.mp hlater
      rw [List.length_cons] at hfour
      have hcounted := serveReport_early hreport hawaiting hnext (by omega)
      obtain ⟨last, hlast, hrun⟩ := ih hreports' hrest
        (fun later hmem => ⟨hfirst later hmem, (hlater' later hmem).2⟩) hbefore hcounted (by omega)
      refine ⟨last, hlast, ?_⟩
      have hlength : count + (rest.length + 1) = count + 1 + rest.length := by omega
      rw [List.length_cons, hlength]
      exact hrun

end

section

variable {w : World} {arrivals : List (Nat × ReportJobStatusRequest)}

/-- The order has no counter and no marker yet. -/
structure DispatchRequest.Unreported (order : DispatchRequest) (w : World) : Prop where
  count : (orderKeys order.orderID order.isRestock w.memory).count = none
  finalized : (orderKeys order.orderID order.isRestock w.memory).finalized = none

/-- The call saves the items for an hour and touches no other key of the order. -/
theorem DispatchRequest.dispatch_keys (order : DispatchRequest) (w : World) :
    orderKeys order.orderID order.isRestock (order.dispatch w).memory =
      { orderKeys order.orderID order.isRestock w.memory with
        items := some ⟨order.work, some (w.now + hour)⟩ } := by
  cases order with
  | customer req =>
      rw [DispatchRequest.dispatch, processCustomerOrder_works]
      simp [MemoryStore.saveOrderItems, RedisDB.setItems, OrderKeys.map, DispatchRequest.work,
        orderKeys, DispatchRequest.orderID, DispatchRequest.isRestock]
  | restock req =>
      rw [DispatchRequest.dispatch, restockItemsOrder_works]
      simp [MemoryStore.saveRestockItems, RedisDB.setItems, OrderKeys.map, DispatchRequest.work,
        orderKeys, DispatchRequest.orderID, DispatchRequest.isRestock]

theorem DispatchRequest.dispatch_awaiting {order : DispatchRequest} (hnew : order.Unreported w) :
    Awaiting order.work (w.now + hour) 0 w.now
      (orderKeys order.orderID order.isRestock (order.dispatch w).memory) := by
  have hnow : w.now < w.now + hour := Nat.lt_add_of_pos_right (by decide)
  rw [order.dispatch_keys]
  exact ⟨(if_pos hnow).symm, hnew.count, hnew.finalized⟩

/-- A report of the five comes once its worker has slept. -/
theorem DispatchRequest.mem_arrivals {order : DispatchRequest}
    {arrival : Nat × ReportJobStatusRequest} :
    arrival ∈ order.arrivals w ↔ ∃ worker ∈ deploymentWorkers,
      arrival = (w.now + worker.sleeps (order.broadcast w), worker.report (order.broadcast w)) := by
  simp [DispatchRequest.arrivals, eq_comm]

theorem DispatchRequest.arrivals_report {order : DispatchRequest}
    {arrival : Nat × ReportJobStatusRequest} (harrival : arrival ∈ order.arrivals w) :
    Reports order.orderID order.isRestock arrival.2 ∧ w.now ≤ arrival.1 := by
  obtain ⟨worker, _, rfl⟩ := DispatchRequest.mem_arrivals.mp harrival
  refine ⟨?_, Nat.le_add_right _ _⟩
  cases order <;> exact ⟨rfl, rfl⟩

/-- The fifth report comes when the worker with the most items is through. It starts
the finalization, and the items are there if it comes within their hour. -/
theorem fifth_report (order : DispatchRequest) (hnew : order.Unreported w)
    (harrivals : arrivals.Perm (order.arrivals w))
    (hordered : arrivals.Pairwise fun earlier later => earlier.1 ≤ later.1) :
    ∃ before fifth, arrivals = before ++ [fifth] ∧
      (∃ worker ∈ deploymentWorkers, fifth.1 = w.now + worker.sleeps (order.broadcast w)) ∧
      (∀ worker ∈ deploymentWorkers, w.now + worker.sleeps (order.broadcast w) ≤ fifth.1) ∧
      let outcome := serveReport fifth (serveReports before (order.dispatch w))
      .goFinalizeOrder order.orderID order.isRestock ∈ outcome.ops ∧
      (keysOf order.orderID order.isRestock outcome.state.memory).count = 5 ∧
      savedWork order.orderID order.isRestock outcome.state.memory =
        if fifth.1 < w.now + hour then some order.work else none := by
  have hfive : arrivals.length = 5 := harrivals.length_eq
  obtain ⟨before, fifth, rfl⟩ : ∃ before fifth, arrivals = before ++ [fifth] :=
    ⟨_, _, (List.dropLast_append_getLast (List.ne_nil_of_length_eq_add_one hfive)).symm⟩
  have hfour : before.length = 4 := by simpa using hfive
  have hreport (arrival) (hmem : arrival ∈ before ++ [fifth]) :=
    DispatchRequest.arrivals_report (harrivals.mem_iff.mp hmem)
  have hfifth : fifth ∈ before ++ [fifth] := List.mem_append_right _ (List.mem_singleton_self _)
  obtain ⟨hbefore, _, hlast⟩ := List.pairwise_append.mp hordered
  obtain ⟨time, htime, hawaiting⟩ := serveReports_early
    (fun arrival hmem => (hreport arrival (List.mem_append_left _ hmem)).1) hbefore
    (fun arrival hmem => ⟨(hreport arrival (List.mem_append_left _ hmem)).2,
      hlast arrival hmem fifth (List.mem_singleton_self _)⟩)
    (hreport fifth hfifth).2 (DispatchRequest.dispatch_awaiting hnew) (by omega)
  rw [hfour] at hawaiting
  refine ⟨before, fifth, rfl, ?_, fun worker hworker => ?_,
    serveReport_fifth (hreport fifth hfifth).1 hawaiting htime⟩
  · obtain ⟨worker, hworker, htimed⟩ := DispatchRequest.mem_arrivals.mp (harrivals.mem_iff.mp hfifth)
    exact ⟨worker, hworker, congrArg Prod.fst htimed⟩
  · have harrival := harrivals.mem_iff.mpr (DispatchRequest.mem_arrivals.mpr ⟨worker, hworker, rfl⟩)
    rcases List.mem_append.mp harrival with hearlier | hlatest
    · exact hlast _ hearlier fifth (List.mem_singleton_self _)
    · rw [← List.mem_singleton.mp hlatest]

/-- **Up to which size an order outlasts its work.** The workers start at once,
their reports come in the order of their times, and the fifth starts the
finalization. It finds the items if no worker's aisle has 720 items of the order
or more, and does not find them if one has more than 720. -/
theorem items_at_fifth_report (order : DispatchRequest) (hnew : order.Unreported w)
    (harrivals : arrivals.Perm (order.arrivals w))
    (hordered : arrivals.Pairwise fun earlier later => earlier.1 ≤ later.1) :
    ∃ before fifth, arrivals = before ++ [fifth] ∧
      let outcome := serveReport fifth (serveReports before (order.dispatch w))
      .goFinalizeOrder order.orderID order.isRestock ∈ outcome.ops ∧
      (keysOf order.orderID order.isRestock outcome.state.memory).count = 5 ∧
      ((∀ worker ∈ deploymentWorkers, (worker.matching (order.broadcast w)).length < 720) →
        savedWork order.orderID order.isRestock outcome.state.memory = some order.work) ∧
      ((∃ worker ∈ deploymentWorkers, 720 < (worker.matching (order.broadcast w)).length) →
        savedWork order.orderID order.isRestock outcome.state.memory = none) := by
  obtain ⟨before, fifth, hsplit, hslowest, hlongest, hstarts, hcount, hwork⟩ :=
    fifth_report order hnew harrivals hordered
  refine ⟨before, fifth, hsplit, hstarts, hcount, fun hsmall => ?_, ?_⟩
  · obtain ⟨worker, hworker, hslept⟩ := hslowest
    have hlength := hsmall worker hworker
    rw [hwork, if_pos]
    rw [hslept, RobotWorker.sleeps, hour]
    omega
  · rintro ⟨worker, hworker, hlength⟩
    have hslept := hlongest worker hworker
    rw [RobotWorker.sleeps] at hslept
    rw [hwork, if_neg]
    rw [hour]
    omega

end

/-! ### A truck with 721 kinds of dairy -/

/-- The five reports in the order of their times. -/
private def inOrder (order : DispatchRequest) (w : World) : List (Nat × ReportJobStatusRequest) :=
  (order.arrivals w).mergeSort fun earlier later => earlier.1 ≤ later.1

private theorem inOrder_perm (order : DispatchRequest) (w : World) :
    (inOrder order w).Perm (order.arrivals w) :=
  List.mergeSort_perm _ _

private theorem inOrder_ordered (order : DispatchRequest) (w : World) :
    (inOrder order w).Pairwise fun earlier later => earlier.1 ≤ later.1 := by
  have hsorted : (inOrder order w).Pairwise fun earlier later =>
      decide (earlier.1 ≤ later.1) = true := by
    apply List.pairwise_mergeSort
    · intro a b c hab hbc
      simp only [decide_eq_true_eq] at *
      omega
    · intro a b
      simp only [Bool.or_eq_true, decide_eq_true_eq]
      omega
  exact hsorted.imp fun hle => of_decide_eq_true hle

/-- Two units of milk are picked in time. -/
theorem items_at_fifth_report_sample :
    ∃ before fifth, savedWork "order-1" false (serveReport fifth (serveReports before
        ((DispatchRequest.customer ⟨"order-1", Sample.items⟩).dispatch Sample.world))).state.memory =
      some (.client Sample.items) := by
  obtain ⟨before, fifth, _, _, _, hsmall, _⟩ :=
    items_at_fifth_report (.customer ⟨"order-1", Sample.items⟩) (w := Sample.world) ⟨rfl, rfl⟩
      (inOrder_perm _ _) (inOrder_ordered _ _)
  exact ⟨before, fifth, hsmall (by decide +kernel)⟩

/-- Lines of dairy, each with a SKU of its own. -/
private def dairyLines (n : Nat) : List RestockItem :=
  (List.range n).map fun i => ⟨String.ofList (List.replicate i 'a'), "Milk", "dairy", 1, 1, 0, 0⟩

private theorem dairyLines_length (n : Nat) : (dairyLines n).length = n := by
  simp [dairyLines]

private theorem dairyLines_nodup (n : Nat) : ((dairyLines n).map RestockItem.sku).Nodup := by
  rw [dairyLines, List.map_map]
  refine List.nodup_range.map fun i j hsame => ?_
  have hlist := congrArg (fun sku => sku.toList.length) hsame
  simpa using hlist

private theorem dairyLines_line {n : Nat} : ∀ item ∈ dairyLines n,
    item.quantity = 1 ∧ item.unitCost = 1 ∧ item.aisleType = "dairy" := by
  intro item hitem
  obtain ⟨i, _, rfl⟩ := List.mem_map.mp hitem
  exact ⟨rfl, rfl, rfl⟩

/-- A line of quantity one costs what a unit costs. -/
private theorem dairyLines_cost (items : List RestockItem) (cost : ℚ)
    (hlines : ∀ item ∈ items, item.quantity = 1 ∧ item.unitCost = 1 ∧ item.aisleType = "dairy") :
    items.foldl (fun (cost : ℚ) item => cost + item.unitCost * (item.quantity.toInt : ℚ)) cost =
      cost + items.length := by
  induction items generalizing cost with
  | nil => simp
  | cons item rest ih =>
      obtain ⟨⟨hquantity, hcost, _⟩, hrest⟩ := List.forall_mem_cons.mp hlines
      have hone : (1 : Int32).toInt = 1 := by decide
      rw [List.foldl_cons, ih _ hrest, hquantity, hcost, hone, List.length_cons]
      push_cast
      ring

private theorem dairyLines_rows (items : List RestockItem)
    (hlines : ∀ item ∈ items, item.quantity = 1 ∧ item.unitCost = 1 ∧ item.aisleType = "dairy") :
    OrderingDB.checkRestockItems
      (items.map fun item => ⟨item.sku, item.quantity.toInt, item.unitCost⟩) = .ok () := by
  induction items with
  | nil => rfl
  | cons item rest ih =>
      obtain ⟨⟨hquantity, hcost, _⟩, hrest⟩ := List.forall_mem_cons.mp hlines
      have hnumeric : numeric 1 = .ok 1 := by decide +kernel
      rw [List.map_cons, OrderingDB.checkRestockItems, int4_of_toInt, hcost, hnumeric]
      exact ih hrest

/-- A new order whose values fit their columns is accepted. -/
private theorem restockOrder_accepted {manifest : TruckManifest} {restockUUID : OrderID} {w : World}
    {cost : ℚ} (hnew : w.ordering.restockOrders.lookup restockUUID = none)
    (hcost : numeric (manifestCost manifest.items) = .ok cost)
    (hrows : OrderingDB.checkRestockItems
      (manifest.items.map fun item => ⟨item.sku, item.quantity.toInt, item.unitCost⟩) = .ok ()) :
    ((restockOrder (some manifest) restockUUID).run (orderingExec .works) w).value =
      .http 201 (.json [("status", "success"), ("order_id", restockUUID),
        ("message", "Truck registered. Robots are currently offloading.")]) := by
  set supplierID := (w.ordering.getSupplierInternalID manifest.supplierID).1
  set supplied := (w.ordering.getSupplierInternalID manifest.supplierID).2 with hsupplied
  have hfind : orderingExec .works (.store (.getSupplierInternalID manifest.supplierID)) w =
      (.ok supplierID, { w with ordering := supplied }) := rfl
  obtain ⟨db', hcreated⟩ : ∃ db', supplied.createRestockOrder w.now
      ⟨restockUUID, supplierID, .processing, manifestCost manifest.items⟩
      (manifest.items.map fun item => ⟨item.sku, item.quantity.toInt, item.unitCost⟩) = .ok db' := by
    have hnew' : supplied.restockOrders.lookup restockUUID = none := hnew
    rw [OrderingDB.createRestockOrder]
    simp only [hnew', hcost, hrows]
    exact ⟨_, rfl⟩
  have hcreate : orderingExec .works (.store (.createRestockOrder
      ⟨restockUUID, supplierID, .processing, manifestCost manifest.items⟩
      (manifest.items.map fun item => ⟨item.sku, item.quantity.toInt, item.unitCost⟩)))
      { w with ordering := supplied } = (.ok (), { w with ordering := db' }) := by
    show ((commit _ supplied).1, { w with ordering := (commit _ supplied).2 }) = _
    rw [commit, hcreated]
  rw [restockOrder, Prog.run_call, hfind]
  dsimp only
  rw [Prog.run_call, hcreate]
  dsimp only
  rw [Prog.run_call, restockItemsOrder_works]
  rfl

/-- When no SKU repeats, the worker of an aisle gets every line of it. -/
private theorem matching_of_nodup {items : List RestockItem} {worker : RobotWorker}
    (hnodup : (items.map RestockItem.sku).Nodup)
    (haisle : ∀ item ∈ items, item.aisleType = worker.aisleType) (orderID : OrderID) :
    items.length ≤
      (worker.matching (orderBroadcast orderID .restock (restockRobotItems items))).length := by
  have hsub : items.map RestockItem.sku ⊆
      (worker.matching (orderBroadcast orderID .restock (restockRobotItems items))).map
        BroadcastItem.sku := by
    intro sku hsku
    obtain ⟨item, hitem, rfl⟩ := List.mem_map.mp hsku
    have hlookup := Relational.Table.lookup_foldl_of_mem RestockItem.sku
      (fun item => (⟨item.quantity, item.aisleType⟩ : ItemDetails)) hnodup ∅ hitem
    have hentry := AList.mem_lookup_iff.mp hlookup
    refine List.mem_map.mpr ⟨⟨item.sku, item.quantity, item.aisleType⟩, ?_, rfl⟩
    exact List.mem_filter.mpr ⟨List.mem_map.mpr ⟨_, hentry, rfl⟩, by simp [haisle item hitem]⟩
  simpa using (List.subperm_of_subset hnodup hsub).length_le

/-- A truck with 721 kinds of dairy is accepted. The dairy worker reports an hour
and five seconds after the items were saved, and they are gone. -/
theorem items_gone_at_fifth_report :
    ∃ manifest : TruckManifest,
      (∀ item ∈ manifest.items, item.quantity = 1 ∧ item.unitCost = 1 ∧ item.aisleType = "dairy") ∧
      ((restockOrder (some manifest) "restock-1").run (orderingExec .works) Sample.world).value =
        .http 201 (.json [("status", "success"), ("order_id", "restock-1"),
          ("message", "Truck registered. Robots are currently offloading.")]) ∧
      let order : DispatchRequest := .restock ⟨"restock-1", manifest.items⟩
      ∃ before fifth, (before ++ [fifth]).Perm (order.arrivals Sample.world) ∧
        ((before ++ [fifth]).Pairwise fun earlier later => earlier.1 ≤ later.1) ∧
        let outcome := serveReport fifth (serveReports before (order.dispatch Sample.world))
        .goFinalizeOrder "restock-1" true ∈ outcome.ops ∧
        savedWork "restock-1" true outcome.state.memory = none := by
  obtain ⟨items, hlength, hnodup, hlines⟩ : ∃ items : List RestockItem, items.length = 721 ∧
      (items.map RestockItem.sku).Nodup ∧
      ∀ item ∈ items, item.quantity = 1 ∧ item.unitCost = 1 ∧ item.aisleType = "dairy" :=
    ⟨dairyLines 721, dairyLines_length 721, dairyLines_nodup 721, dairyLines_line⟩
  refine ⟨⟨"supplier-1", items⟩, hlines, ?_, ?_⟩
  · have hcost : numeric (manifestCost items) = .ok 721 := by
      rw [manifestCost, dairyLines_cost items 0 hlines, hlength]
      decide +kernel
    exact restockOrder_accepted rfl hcost (dairyLines_rows items hlines)
  · intro order
    obtain ⟨before, fifth, hsplit, _, hlongest, hstarts, _, hwork⟩ :=
      fifth_report order (w := Sample.world) ⟨rfl, rfl⟩ (inOrder_perm _ _) (inOrder_ordered _ _)
    refine ⟨before, fifth, hsplit ▸ inOrder_perm _ _, hsplit ▸ inOrder_ordered _ _, hstarts, ?_⟩
    have hslept := hlongest ⟨"dairy"⟩ (by decide)
    have hmany : 721 ≤ (RobotWorker.matching ⟨"dairy"⟩ (order.broadcast Sample.world)).length := by
      rw [← hlength]
      exact matching_of_nodup hnodup (fun item hitem => (hlines item hitem).2.2) "restock-1"
    rw [RobotWorker.sleeps] at hslept
    refine Eq.trans hwork (if_neg ?_)
    rw [hour]
    omega

end AutoGrocery

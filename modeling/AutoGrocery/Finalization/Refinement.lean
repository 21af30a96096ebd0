import AutoGrocery.Interleaving.Barrier
import AutoGrocery.System

/-!
`ReportJobStatus` and the goroutines it starts refine the counted barrier.

For one order the three Redis keys are the barrier's keys, a report that has
not incremented the counter is a fresh participant, and a finalization that has
read the items is a closing worker whose log holds the stock upserts, bills and
webhook posts it made. Every step of the services is a step of the barrier for
that order, whatever faults it meets.
-/

namespace AutoGrocery

open Interleaving InventoryHandler

/-! ### The keys of one order -/

/-- The keys as the barrier sees them. -/
def OrderKeys.barrier {I : Type} (keys : OrderKeys I) : Barrier.Keys :=
  ⟨keys.items.isSome, (keys.count.map RedisEntry.value).getD 0, keys.finalized.isSome⟩

namespace RedisDB

variable {I : Type} (db : RedisDB I) (orderID : OrderID)

theorem nextCount_eq : db.nextCount orderID = (db orderID).barrier.count + 1 := by
  unfold nextCount OrderKeys.barrier
  cases (db orderID).count <;> rfl

theorem incr_barrier : (db.incr orderID orderID).barrier =
    { (db orderID).barrier with count := (db orderID).barrier.count + 1 } := by
  simp only [incr, Function.update_self, ← nextCount_eq]
  rfl

theorem canMark_eq : db.canMark orderID = !(db orderID).barrier.marker := by
  unfold canMark OrderKeys.barrier
  cases (db orderID).finalized <;> rfl

theorem setNX_barrier (now : Nat) : (db.setNX now orderID orderID).barrier =
    { (db orderID).barrier with marker := true } := by
  unfold setNX
  split
  · rw [Function.update_self]
    rfl
  · rename_i hmarked
    have hmarker : (db orderID).barrier.marker = true := by
      simpa [canMark_eq] using hmarked
    rw [← hmarker]

theorem setItems_barrier (now : Nat) (items : I) : (db.setItems now orderID items orderID).barrier =
    { (db orderID).barrier with items := true } := by
  rw [setItems, Function.update_self]
  rfl

end RedisDB

/-- The items saved for an order. -/
inductive Work where
  | client (items : ItemMap)
  | restock (items : List RestockItem)

/-- What a finalization of the order would read. -/
def savedWork (orderID : OrderID) (isRestock : Bool) (m : MemoryStore) : Option Work :=
  if isRestock then (m.restockClient orderID).items.map fun entry => .restock entry.value
  else (m.clientClient orderID).items.map fun entry => .client entry.value

/-- The keys of the order in its database. -/
def keysOf (orderID : OrderID) (isRestock : Bool) (m : MemoryStore) : Barrier.Keys :=
  if isRestock then (m.restockClient orderID).barrier else (m.clientClient orderID).barrier

theorem keysOf_items (orderID : OrderID) (isRestock : Bool) (m : MemoryStore) :
    (keysOf orderID isRestock m).items = (savedWork orderID isRestock m).isSome := by
  cases isRestock <;> simp [keysOf, savedWork, OrderKeys.barrier]

/-- The `ReportJobStatus` increment of an order's own counter. -/
def incrementRobotCount (orderID : OrderID) (isRestock : Bool) (m : MemoryStore) :
    Nat × MemoryStore :=
  if isRestock then m.incrementRestockRobotCount orderID
  else m.incrementClientRobotCount orderID

section

variable (orderID : OrderID) (isRestock : Bool) (m : MemoryStore)

theorem increment_spec :
    (incrementRobotCount orderID isRestock m).1 = (keysOf orderID isRestock m).count + 1 ∧
    keysOf orderID isRestock (incrementRobotCount orderID isRestock m).2 =
      { keysOf orderID isRestock m with count := (keysOf orderID isRestock m).count + 1 } ∧
    savedWork orderID isRestock (incrementRobotCount orderID isRestock m).2 =
      savedWork orderID isRestock m := by
  cases isRestock
  · refine ⟨RedisDB.nextCount_eq _ _, RedisDB.incr_barrier _ _, ?_⟩
    simp [incrementRobotCount, savedWork, MemoryStore.incrementClientRobotCount, RedisDB.incr]
  · refine ⟨RedisDB.nextCount_eq _ _, RedisDB.incr_barrier _ _, ?_⟩
    simp [incrementRobotCount, savedWork, MemoryStore.incrementRestockRobotCount, RedisDB.incr]

theorem tryMark_spec (now : Nat) :
    (m.tryMarkOrderFinalized now orderID isRestock).1 = !(keysOf orderID isRestock m).marker ∧
    keysOf orderID isRestock (m.tryMarkOrderFinalized now orderID isRestock).2 =
      { keysOf orderID isRestock m with marker := true } ∧
    savedWork orderID isRestock (m.tryMarkOrderFinalized now orderID isRestock).2 =
      savedWork orderID isRestock m := by
  cases isRestock
  · refine ⟨RedisDB.canMark_eq _ _, RedisDB.setNX_barrier _ _ _, ?_⟩
    simp [savedWork, MemoryStore.tryMarkOrderFinalized, RedisDB.setNX_items]
  · refine ⟨RedisDB.canMark_eq _ _, RedisDB.setNX_barrier _ _ _, ?_⟩
    simp [savedWork, MemoryStore.tryMarkOrderFinalized, RedisDB.setNX_items]

theorem delete_spec :
    keysOf orderID isRestock (m.deleteOrderData orderID isRestock) = ⟨false, 0, false⟩ ∧
    savedWork orderID isRestock (m.deleteOrderData orderID isRestock) = none := by
  cases isRestock <;>
    simp [keysOf, savedWork, MemoryStore.deleteOrderData, RedisDB.del, OrderKeys.barrier]

end

/-! ### Effects of a finalization -/

/-- The operations of a finalization that others can see. -/
def isEffect : InventoryOp → Bool
  | .upsertStock _ => true
  | .calculateBill _ => true
  | .postWebhook _ _ => true
  | _ => false

/-- The other operations between reading the items and deleting the keys. -/
def isQuiet : InventoryOp → Bool
  | .getBatchItems _ => true
  | .goUpdateStockMetrics _ => true
  | _ => false

/-- The effects of one whole finalization of the order, in order. The price of
a client order is whatever the bill came to. -/
def Execution (orderID : OrderID) : Work → List InventoryOp → Prop
  | .client items, ops => ∃ price, ops = [.calculateBill (cartItems items),
      .postWebhook .updateOrder ⟨orderID, .completed, "total_price", price⟩]
  | .restock items, ops => ops = items.map (fun pi => .upsertStock (stockItem pi)) ++
      [.postWebhook .updateRestock ⟨orderID, .completed, "total_cost", manifestCost items⟩]

/-- A finalization after the read: it performs the rest of an execution,
possibly with quiet operations in between, and then deletes the keys. -/
inductive Closing (orderID : OrderID) (isRestock : Bool) (complete : List InventoryOp → Prop) :
    List InventoryOp → InventoryProg Unit → Prop where
  | effect {log : List InventoryOp} {op : InventoryOp} {next : InventoryAns op → InventoryProg Unit} :
      isEffect op = true → Barrier.Extends complete (log ++ [op]) →
      (∀ ans, Closing orderID isRestock complete (log ++ [op]) (next ans)) →
      Closing orderID isRestock complete log (.call op next)
  | quiet {log : List InventoryOp} {op : InventoryOp} {next : InventoryAns op → InventoryProg Unit} :
      isQuiet op = true → (∀ ans, Closing orderID isRestock complete log (next ans)) →
      Closing orderID isRestock complete log (.call op next)
  | delete {log : List InventoryOp} : complete log →
      Closing orderID isRestock complete log
        (InventoryHandler.deleteOrderData orderID isRestock)

section

variable {orderID : OrderID} {complete : List InventoryOp → Prop}

theorem closing_client (items : ItemMap)
    (hcomplete : ∀ ops, Execution orderID (.client items) ops → complete ops) :
    Closing orderID false complete [] (billClientOrder orderID items) := by
  refine .effect rfl ⟨_, hcomplete _ ⟨0, rfl⟩, by simp⟩ fun answer => ?_
  exact .effect rfl (.of_complete (hcomplete _ ⟨_, rfl⟩)) fun _ =>
    .delete (hcomplete _ ⟨_, rfl⟩)

/-- The end of `finalizeRestock`, once every line went through the loop. -/
private theorem closing_post {items : List RestockItem}
    (hcomplete : ∀ ops, Execution orderID (.restock items) ops → complete ops) :
    Closing orderID true complete (items.map fun pi => .upsertStock (stockItem pi))
      (callWebhook orderID (manifestCost items) .updateRestock "total_cost" >>= fun _ =>
        InventoryHandler.deleteOrderData orderID true) :=
  .effect rfl (.of_complete (hcomplete _ rfl)) fun _ => .delete (hcomplete _ rfl)

private theorem closing_metrics {log : List InventoryOp} {rest : List StockMetric → InventoryProg Unit}
    (latestUnitCostBySKU : GoMap ℚ)
    (hrest : ∀ metrics, Closing orderID true complete log (rest metrics)) :
    Closing orderID true complete log (pricingUpdates latestUnitCostBySKU >>= rest) := by
  unfold pricingUpdates
  split
  · refine .quiet rfl fun answer => ?_
    cases answer <;> exact hrest _
  · exact hrest []

/-- The loop: `finished` lines are in the log and their cost is summed up. -/
private theorem closing_upserts {rest : RestockTotals → InventoryProg Unit}
    (items : List RestockItem)
    (hcomplete : ∀ ops, Execution orderID (.restock items) ops → complete ops)
    (hrest : ∀ latest, Closing orderID true complete
      (items.map fun pi => .upsertStock (stockItem pi)) (rest ⟨manifestCost items, latest⟩))
    (todo : List RestockItem) :
    ∀ (finished : List RestockItem) (latest : GoMap ℚ), finished ++ todo = items →
      Closing orderID true complete (finished.map fun pi => .upsertStock (stockItem pi))
        (upsertItems todo ⟨manifestCost finished, latest⟩ >>= rest) := by
  induction todo with
  | nil =>
      intro finished latest hitems
      obtain rfl : finished = items := by simpa using hitems
      exact hrest latest
  | cons pi todo ih =>
      intro finished latest hitems
      have hmap : finished.map (fun pi => InventoryOp.upsertStock (stockItem pi)) ++
          [.upsertStock (stockItem pi)] =
          (finished ++ [pi]).map fun pi => .upsertStock (stockItem pi) := by simp
      have hcost : manifestCost finished + pi.unitCost * pi.quantity.toInt =
          manifestCost (finished ++ [pi]) := by simp [manifestCost]
      have hitems' : (finished ++ [pi]) ++ todo = items := by simpa using hitems
      refine .effect rfl ⟨_, hcomplete _ rfl, ?_⟩ fun answer => ?_
      · rw [hmap, ← hitems', List.map_append]
        simp
      · rw [hmap]
        cases answer with
        | error err =>
            have hnext := ih (finished ++ [pi]) latest hitems'
            rw [← hcost] at hnext
            exact hnext
        | ok value =>
            have hnext := ih (finished ++ [pi]) (latest.insert pi.sku pi.unitCost) hitems'
            rw [← hcost] at hnext
            exact hnext

/-- `finalizeRestock` after its read. -/
def restockRest (orderID : OrderID) (items : List RestockItem) : InventoryProg Unit := do
  let totals ← upsertItems items ⟨0, ∅⟩
  let metrics ← pricingUpdates totals.latestUnitCostBySKU
  let () ← .call (.goUpdateStockMetrics metrics) .ret
  callWebhook orderID totals.totalCost .updateRestock "total_cost"
  InventoryHandler.deleteOrderData orderID true

theorem closing_restock (items : List RestockItem)
    (hcomplete : ∀ ops, Execution orderID (.restock items) ops → complete ops) :
    Closing orderID true complete [] (restockRest orderID items) := by
  refine closing_upserts items hcomplete (fun latest => ?_) items [] ∅ rfl
  refine closing_metrics latest fun metrics => ?_
  exact .quiet rfl fun _ => closing_post hcomplete

end

/-! ### Threads as phases -/

/-- The report is about the order, in its database. -/
def Reports (orderID : OrderID) (isRestock : Bool) (req : ReportJobStatusRequest) : Prop :=
  req.orderID = orderID ∧ InventoryHandler.isRestock req = isRestock

/-- Which phase a thread is in. Request handlers of ordering, where there are
any, take no part. -/
inductive At (orderID : OrderID) (isRestock : Bool) (complete : List InventoryOp → Prop)
    (clients : Prop) : Barrier.Phase InventoryOp → Thread → Prop where
  | fresh {req : ReportJobStatusRequest} : Reports orderID isRestock req →
      At orderID isRestock complete clients .fresh (reportThread req)
  | counted {count : Nat} : 5 ≤ count →
      At orderID isRestock complete clients .counted
        (.inventory (rpcThread (afterIncrement orderID isRestock (.ok count))))
  | starting : At orderID isRestock complete clients .starting
      (.inventory (.call (.goFinalizeOrder orderID isRestock) fun _ => .ret ()))
  | reading : At orderID isRestock complete clients .reading
      (.inventory (finalizeOrder orderID isRestock))
  | closing {log : List InventoryOp} {prog : InventoryProg Unit} :
      Closing orderID isRestock complete log prog →
      At orderID isRestock complete clients (.closing log) (.inventory prog)
  | ret : At orderID isRestock complete clients .ended (.inventory (.ret ()))
  | metrics (metrics : List StockMetric) :
      At orderID isRestock complete clients .ended (.inventory (asyncStockMetrics metrics))
  | client (prog : OrderingProg) : clients →
      At orderID isRestock complete clients .ended (.ordering prog)

/-- The increment of the order's counter. -/
def isIncrement (orderID : OrderID) (isRestock : Bool) : InventoryOp → Bool
  | .incrementRobotCount orderID' isRestock' => orderID' = orderID && isRestock' == isRestock
  | _ => false

/-- What one step of an inventory thread is for the barrier. -/
structure StepOf (orderID : OrderID) (isRestock : Bool) (complete : List InventoryOp → Prop)
    (clients : Prop) (phase : Barrier.Phase InventoryOp) (op : InventoryOp) (ans : InventoryAns op)
    (next : InventoryProg Unit) (m m' : MemoryStore) : Prop where
  advance : ∃ phase' faulty emitted spawned,
    Barrier.Advance 5 complete faulty phase (keysOf orderID isRestock m) phase'
      (keysOf orderID isRestock m') emitted spawned ∧
    (faulty = true → InventoryAns.faulty op ans = true) ∧
    At orderID isRestock complete clients phase' (.inventory next) ∧
    List.Forall₂ (At orderID isRestock complete clients) spawned
      ((goroutines ⟨op, ans⟩).map .inventory) ∧
    emitted = [op].filter isEffect
  fresh : phase.isFresh = isIncrement orderID isRestock op
  work : ∀ work, savedWork orderID isRestock m' = some work → savedWork orderID isRestock m = some work

section

variable {orderID : OrderID} {isRestock : Bool} {complete : List InventoryOp → Prop}
  {clients : Prop} {fault : CallFault Fault} {w : World}

/-- Neither effects nor quiet operations touch Redis. -/
theorem closing_memory {op : InventoryOp} (hop : isEffect op = true ∨ isQuiet op = true) :
    (inventoryExec fault op w).2.memory = w.memory := by
  apply inventoryExec_memory
  cases op <;> simp [isEffect, isQuiet, InventoryOp.writes] at hop ⊢

theorem step_of_report {req : ReportJobStatusRequest} (hreq : Reports orderID isRestock req) :
    StepOf orderID isRestock complete clients .fresh
      (.incrementRobotCount req.orderID (InventoryHandler.isRestock req))
      (inventoryExec fault (.incrementRobotCount req.orderID (InventoryHandler.isRestock req)) w).1
      (rpcThread (afterIncrement req.orderID (InventoryHandler.isRestock req)
        (inventoryExec fault
          (.incrementRobotCount req.orderID (InventoryHandler.isRestock req)) w).1))
      w.memory
      (inventoryExec fault
        (.incrementRobotCount req.orderID (InventoryHandler.isRestock req)) w).2.memory := by
  obtain ⟨rfl, rfl⟩ := hreq
  set isRestock := InventoryHandler.isRestock req
  obtain ⟨hcount, hkeys, hwork⟩ := increment_spec req.orderID isRestock w.memory
  have hfresh : Barrier.Phase.fresh.isFresh (E := InventoryOp) =
      isIncrement req.orderID isRestock (.incrementRobotCount req.orderID isRestock) := by
    simp [Barrier.Phase.isFresh, isIncrement]
  rcases fault with ⟨mode, server⟩
  cases mode with
  | works =>
      refine ⟨?_, hfresh, fun work h => hwork ▸ h⟩
      by_cases hle : 5 ≤ (keysOf req.orderID isRestock w.memory).count + 1
      · refine ⟨.counted, false, [], [], ?_, by simp, .counted (hcount ▸ hle), .nil, rfl⟩
        have hadv : Barrier.Advance 5 complete false .fresh (keysOf req.orderID isRestock w.memory)
            .counted _ [] [] := .countHigh hle
        rwa [← hkeys] at hadv
      · refine ⟨.ended, false, [], [], ?_, by simp, ?_, .nil, rfl⟩
        · have hadv : Barrier.Advance 5 complete false .fresh
              (keysOf req.orderID isRestock w.memory) .ended _ [] [] :=
            .countLow (Nat.lt_of_not_le hle)
          rwa [← hkeys] at hadv
        · have hret : rpcThread (afterIncrement req.orderID isRestock
              (.ok (incrementRobotCount req.orderID isRestock w.memory).1)) = .ret () := by
            rw [hcount, afterIncrement, if_neg hle]
            rfl
          exact hret ▸ At.ret
  | fails err =>
      exact ⟨⟨.ended, true, [], [], .countFault (Or.inl rfl), fun _ => rfl, .ret, .nil, rfl⟩,
        hfresh, fun work h => h⟩
  | loses err =>
      exact ⟨⟨.ended, true, [], [], .countFault (Or.inr hkeys), fun _ => rfl, .ret, .nil, rfl⟩,
        hfresh, fun work h => hwork ▸ h⟩

theorem step_of_mark :
    StepOf orderID isRestock complete clients .counted (.tryMarkOrderFinalized orderID isRestock)
      (inventoryExec fault (.tryMarkOrderFinalized orderID isRestock) w).1
      (rpcThread (match (inventoryExec fault (.tryMarkOrderFinalized orderID isRestock) w).1 with
        | .error markErr => .ret (.error markErr)
        | .ok marked =>
            if marked then .call (.goFinalizeOrder orderID isRestock) fun _ => .ret (.ok ⟨true⟩)
            else .ret (.ok ⟨true⟩) : InventoryProg (Except GoError ReportJobStatusResponse)))
      w.memory
      (inventoryExec fault (.tryMarkOrderFinalized orderID isRestock) w).2.memory := by
  obtain ⟨hanswer, hkeys, hwork⟩ := tryMark_spec orderID isRestock w.memory w.now
  rcases fault with ⟨mode, server⟩
  cases mode with
  | works =>
      refine ⟨?_, rfl, fun work h => hwork ▸ h⟩
      cases hmarker : (keysOf orderID isRestock w.memory).marker with
      | false =>
          rw [hmarker] at hanswer
          refine ⟨.starting, false, [], [], ?_, by simp, ?_, .nil, rfl⟩
          · have hadv : Barrier.Advance 5 complete false .counted
                (keysOf orderID isRestock w.memory) .starting _ [] [] := .win hmarker
            rwa [← hkeys] at hadv
          · have hnext : (inventoryExec ⟨.works, server⟩
                (.tryMarkOrderFinalized orderID isRestock) w).1 = .ok true :=
              congrArg Except.ok hanswer
            rw [hnext]
            exact .starting
      | true =>
          rw [hmarker] at hanswer
          refine ⟨.ended, false, [], [], ?_, by simp, ?_, .nil, rfl⟩
          · have hsame : keysOf orderID isRestock
                (w.memory.tryMarkOrderFinalized w.now orderID isRestock).2 =
                keysOf orderID isRestock w.memory := by
              rw [hkeys, ← hmarker]
            have hadv : Barrier.Advance 5 complete false .counted
                (keysOf orderID isRestock w.memory) .ended _ [] [] := .lose hmarker
            rw [← hsame] at hadv
            exact hsame ▸ hadv
          · have hnext : (inventoryExec ⟨.works, server⟩
                (.tryMarkOrderFinalized orderID isRestock) w).1 = .ok false :=
              congrArg Except.ok hanswer
            rw [hnext]
            exact .ret
  | fails err =>
      exact ⟨⟨.ended, true, [], [], .markFault (Or.inl rfl), fun _ => rfl, .ret, .nil, rfl⟩,
        rfl, fun work h => h⟩
  | loses err =>
      exact ⟨⟨.ended, true, [], [], .markFault (Or.inr hkeys), fun _ => rfl, .ret, .nil, rfl⟩,
        rfl, fun work h => hwork ▸ h⟩

private theorem read_missing {op : InventoryOp} {ans : InventoryAns op}
    {next : InventoryProg Unit} (hop : isEffect op = false)
    (hfresh : isIncrement orderID isRestock op = false)
    (hgo : goroutines ⟨op, ans⟩ = []) (hnext : next = .ret ())
    (hread : InventoryAns.faulty op ans = true ∨ savedWork orderID isRestock w.memory = none) :
    StepOf orderID isRestock complete clients .reading op ans next w.memory w.memory := by
  refine ⟨?_, hfresh.symm, fun work h => h⟩
  rcases hread with hfaulty | hnone
  · exact ⟨.ended, true, [], [], .readFault, fun _ => hfaulty, hnext ▸ .ret,
      by rw [hgo]; exact .nil, by simp [hop]⟩
  · have hitems : (keysOf orderID isRestock w.memory).items = false := by
      rw [keysOf_items, hnone]
      rfl
    exact ⟨.ended, false, [], [], .readMissing hitems, by simp, hnext ▸ .ret,
      by rw [hgo]; exact .nil, by simp [hop]⟩

private theorem read_found {op : InventoryOp} {ans : InventoryAns op} {next : InventoryProg Unit}
    {work : Work} (hop : isEffect op = false)
    (hfresh : isIncrement orderID isRestock op = false) (hgo : goroutines ⟨op, ans⟩ = [])
    (hwork : savedWork orderID isRestock w.memory = some work)
    (hextends : Barrier.Extends complete [])
    (hclosing : Closing orderID isRestock complete [] next) :
    StepOf orderID isRestock complete clients .reading op ans next w.memory w.memory := by
  have hitems : (keysOf orderID isRestock w.memory).items = true := by
    rw [keysOf_items, hwork]
    rfl
  exact ⟨⟨.closing [], false, [], [], .readFound hitems hextends, by simp, .closing hclosing,
    by rw [hgo]; exact .nil, by simp [hop]⟩, hfresh.symm, fun work h => h⟩

theorem step_of_read {op : InventoryOp} {next : InventoryAns op → InventoryProg Unit}
    (hprog : finalizeOrder orderID isRestock = .call op next)
    (hcomplete : ∀ work, savedWork orderID isRestock w.memory = some work →
      ∀ ops, Execution orderID work ops → complete ops) :
    StepOf orderID isRestock complete clients .reading op (inventoryExec fault op w).1
      (next (inventoryExec fault op w).1) w.memory (inventoryExec fault op w).2.memory := by
  rcases fault with ⟨mode, server⟩
  cases isRestock with
  | false =>
      injection hprog with hop hnext
      subst hop
      obtain rfl := eq_of_heq hnext
      cases mode with
      | works =>
          cases hread : (w.memory.clientClient orderID).items with
          | none =>
              have hanswer : (inventoryExec ⟨.works, server⟩ (.getOrderItems orderID) w).1 =
                  .error (.notFound "redis: nil") := by
                simp [inventoryExec, MemoryStore.getOrderItems, RedisDB.getItems, hread]
              rw [hanswer]
              exact read_missing rfl rfl rfl rfl (Or.inr (by simp [savedWork, hread]))
          | some entry =>
              have hanswer : (inventoryExec ⟨.works, server⟩ (.getOrderItems orderID) w).1 =
                  .ok entry.value := by
                simp [inventoryExec, MemoryStore.getOrderItems, RedisDB.getItems, hread]
              have hwork : savedWork orderID false w.memory = some (.client entry.value) := by
                simp [savedWork, hread]
              have hexec := hcomplete _ hwork
              rw [hanswer]
              exact read_found rfl rfl rfl hwork ⟨_, hexec _ ⟨0, rfl⟩, List.nil_prefix⟩
                (closing_client _ hexec)
      | fails err => exact read_missing rfl rfl rfl rfl (Or.inl rfl)
      | loses err => exact read_missing rfl rfl rfl rfl (Or.inl rfl)
  | true =>
      injection hprog with hop hnext
      subst hop
      obtain rfl := eq_of_heq hnext
      cases mode with
      | works =>
          cases hread : (w.memory.restockClient orderID).items with
          | none =>
              have hanswer : (inventoryExec ⟨.works, server⟩ (.getRestockItems orderID) w).1 =
                  .error (.notFound "redis: nil") := by
                simp [inventoryExec, MemoryStore.getRestockItems, RedisDB.getItems, hread]
              rw [hanswer]
              exact read_missing rfl rfl rfl rfl (Or.inr (by simp [savedWork, hread]))
          | some entry =>
              have hanswer : (inventoryExec ⟨.works, server⟩ (.getRestockItems orderID) w).1 =
                  .ok entry.value := by
                simp [inventoryExec, MemoryStore.getRestockItems, RedisDB.getItems, hread]
              have hwork : savedWork orderID true w.memory = some (.restock entry.value) := by
                simp [savedWork, hread]
              have hexec := hcomplete _ hwork
              rw [hanswer]
              exact read_found rfl rfl rfl hwork ⟨_, hexec _ rfl, List.nil_prefix⟩
                (closing_restock _ hexec)
      | fails err => exact read_missing rfl rfl rfl rfl (Or.inl rfl)
      | loses err => exact read_missing rfl rfl rfl rfl (Or.inl rfl)

theorem step_of_closing {log : List InventoryOp} {op : InventoryOp}
    {next : InventoryAns op → InventoryProg Unit}
    (hclosing : Closing orderID isRestock complete log (.call op next)) :
    StepOf orderID isRestock complete clients (.closing log) op (inventoryExec fault op w).1
      (next (inventoryExec fault op w).1) w.memory (inventoryExec fault op w).2.memory := by
  generalize hprog : Prog.call op next = prog at hclosing
  cases hclosing with
  | effect heffect hextends hnext =>
      injection hprog with hop hnext'
      subst hop
      obtain rfl := eq_of_heq hnext'
      rw [closing_memory (Or.inl heffect)]
      refine ⟨⟨_, false, _, [], .effect op hextends, by simp, .closing (hnext _), ?_,
        by simp [heffect]⟩, ?_, fun work h => h⟩
      · cases op <;> first | exact .nil | simp [isEffect] at heffect
      · cases op <;> first | rfl | simp [isEffect] at heffect
  | quiet hquiet hnext =>
      injection hprog with hop hnext'
      subst hop
      obtain rfl := eq_of_heq hnext'
      rw [closing_memory (Or.inr hquiet)]
      cases op <;> simp [isQuiet] at hquiet
      case getBatchItems skus =>
        exact ⟨⟨_, false, [], [], .quiet (by simp), by simp, .closing (hnext _), .nil, rfl⟩, rfl,
          fun work h => h⟩
      case goUpdateStockMetrics metrics =>
        exact ⟨⟨_, false, [], [.ended], .quiet (by simp), by simp, .closing (hnext _),
          .cons (.metrics metrics) .nil, rfl⟩, rfl, fun work h => h⟩
  | delete hlog =>
      injection hprog with hop hnext
      subst hop
      obtain rfl := eq_of_heq hnext
      obtain ⟨hkeys, hwork⟩ := delete_spec orderID isRestock w.memory
      rcases fault with ⟨mode, server⟩
      cases mode with
      | works =>
          refine ⟨⟨.ended, false, [], [], ?_, by simp, .ret, .nil, rfl⟩, rfl, fun work h => ?_⟩
          · have hadv : Barrier.Advance 5 complete false (.closing _)
                (keysOf orderID isRestock w.memory) .ended _ [] [] := .delete hlog
            rwa [← hkeys] at hadv
          · have hnone : savedWork orderID isRestock
                (w.memory.deleteOrderData orderID isRestock) = some work := h
            simp [hwork] at hnone
      | fails err =>
          exact ⟨⟨.ended, true, [], [], .deleteFault hlog (Or.inl rfl), fun _ => rfl, .ret, .nil,
            rfl⟩, rfl, fun work h => h⟩
      | loses err =>
          refine ⟨⟨.ended, true, [], [], .deleteFault hlog (Or.inr hkeys), fun _ => rfl, .ret,
            .nil, rfl⟩, rfl, fun work h => ?_⟩
          have hnone : savedWork orderID isRestock
              (w.memory.deleteOrderData orderID isRestock) = some work := h
          simp [hwork] at hnone

theorem step_of_metrics {metrics : List StockMetric} {op : InventoryOp}
    {next : InventoryAns op → InventoryProg Unit} (hprog : asyncStockMetrics metrics = .call op next) :
    StepOf orderID isRestock complete clients .ended op (inventoryExec fault op w).1
      (next (inventoryExec fault op w).1) w.memory (inventoryExec fault op w).2.memory := by
  unfold asyncStockMetrics at hprog
  split at hprog
  · cases hprog
  · injection hprog with hop hnext
    subst hop
    obtain rfl := eq_of_heq hnext
    exact ⟨⟨.ended, false, [], [], .ended, by simp, .ret, .nil, rfl⟩, rfl, fun work h => h⟩

/-- Every step of an inventory thread of the order is a step of the barrier. -/
theorem step_of_thread (fault : CallFault Fault) {phase : Barrier.Phase InventoryOp} {op : InventoryOp}
    {next : InventoryAns op → InventoryProg Unit}
    (hat : At orderID isRestock complete clients phase (.inventory (.call op next)))
    (hcomplete : ∀ work, savedWork orderID isRestock w.memory = some work →
      ∀ ops, Execution orderID work ops → complete ops) :
    StepOf orderID isRestock complete clients phase op (inventoryExec fault op w).1
      (next (inventoryExec fault op w).1) w.memory (inventoryExec fault op w).2.memory := by
  generalize hthread : Thread.inventory (.call op next) = thread at hat
  cases hat with
  | fresh hreq =>
      injection hthread with hprog
      injection hprog with hop hnext
      subst hop
      obtain rfl := eq_of_heq hnext
      exact step_of_report hreq
  | counted hle =>
      injection hthread with hprog
      rw [afterIncrement, if_pos hle] at hprog
      injection hprog with hop hnext
      subst hop
      obtain rfl := eq_of_heq hnext
      exact step_of_mark
  | starting =>
      injection hthread with hprog
      injection hprog with hop hnext
      subst hop
      obtain rfl := eq_of_heq hnext
      exact ⟨⟨.ended, false, [], [.reading], .start, by simp, .ret, .cons .reading .nil, rfl⟩,
        rfl, fun work h => h⟩
  | reading =>
      injection hthread with hprog
      exact step_of_read hprog.symm hcomplete
  | closing hclosing =>
      injection hthread with hprog
      subst hprog
      exact step_of_closing hclosing
  | ret => cases hthread
  | metrics metrics =>
      injection hthread with hprog
      exact step_of_metrics hprog.symm
  | client => cases hthread

end

end AutoGrocery

import AutoGrocery.Interleaving.Pool
import AutoGrocery.Inventory.Handler
import AutoGrocery.Inventory.Memory
import AutoGrocery.Ordering.Handlers
import AutoGrocery.Pricing
import AutoGrocery.Robots

/-!
The services together. A `World` holds the databases and the broadcasts sent
so far, and each operation of a service acts on its part of it. A call to
another service runs that service's handler without interruption and under its
own script of faults.

Threads are the request handlers of ordering and the methods and goroutines of
inventory. Any thread may take the next step.
-/

namespace AutoGrocery

open Interleaving

structure World where
  now : Nat
  ordering : OrderingDB
  orderingSecret : String
  stock : StockTable
  memory : MemoryStore
  inventorySecret : String
  broadcasts : List OrderBroadcast
  catalog : Catalog

namespace World

/-- A statement on the stock table. -/
def onStock {α : Type} (result : StockTable → Except GoError (α × StockTable)) (w : World) :
    Except GoError α × World :=
  match result w.stock with
  | .error err => (.error err, w)
  | .ok (value, stock) => (.ok value, { w with stock })

/-- A Redis command that always answers. -/
def onMemory {α : Type} (command : MemoryStore → α × MemoryStore) (w : World) :
    Except GoError α × World :=
  (.ok (command w.memory).1, { w with memory := (command w.memory).2 })

/-- The HTTP status `client.Do` answers; a closed connection is an error. -/
def httpStatus : Reply → Except GoError Nat
  | .http status _ => .ok status
  | .nilDereference => .error (.fault "EOF")

end World

/-- One operation of inventory under a fault. -/
def inventoryExec (fault : CallFault Fault) : Handler InventoryAns World
  | .getBatchItems skus, w =>
      fault.mode.run "failed to batch get items: "
        (fun w => (.ok (w.stock.getBatchItems skus), w)) w
  | .reserveStock requests, w =>
      fault.mode.run "failed to reserve stock: "
        (World.onStock fun stock => stock.reserveStock requests) w
  | .releaseStock returns, w =>
      fault.mode.run "failed to release stock: "
        (World.onStock fun stock => (stock.releaseStock returns).map fun stock => ((), stock)) w
  | .upsertStock item, w =>
      fault.mode.run "failed to upsert stock: "
        (World.onStock fun stock => (stock.upsertStock item).map fun stock => ((), stock)) w
  | .saveOrderItems orderID items, w =>
      fault.mode.run "" (World.onMemory fun m => ((), m.saveOrderItems w.now orderID items)) w
  | .getOrderItems orderID, w =>
      fault.mode.run "" (fun w => (w.memory.getOrderItems orderID, w)) w
  | .saveRestockItems orderID items, w =>
      fault.mode.run "" (World.onMemory fun m => ((), m.saveRestockItems w.now orderID items)) w
  | .getRestockItems orderID, w =>
      fault.mode.run "" (fun w => (w.memory.getRestockItems orderID, w)) w
  | .incrementRobotCount orderID isRestock, w =>
      fault.mode.run "" (World.onMemory fun m =>
        if isRestock then m.incrementRestockRobotCount orderID
        else m.incrementClientRobotCount orderID) w
  | .deleteOrderData orderID isRestock, w =>
      fault.mode.run "" (World.onMemory fun m => ((), m.deleteOrderData orderID isRestock)) w
  | .tryMarkOrderFinalized orderID isRestock, w =>
      fault.mode.run "" (World.onMemory fun m => m.tryMarkOrderFinalized w.now orderID isRestock) w
  | .sendRobotCommand orderID orderType items, w =>
      fault.mode.run "" (fun w =>
        (.ok (), { w with broadcasts := w.broadcasts ++ [orderBroadcast orderID orderType items] })) w
  | .calculateBill items, w =>
      let answer := fault.call pricingExec .works (PricingHandler.calculateBill items) w.catalog
      (answer.1, { w with catalog := answer.2 })
  | .updateStockMetrics updates, w =>
      let answer := fault.call pricingExec .works (PricingHandler.updateStockMetrics updates) w.catalog
      (answer.1, { w with catalog := answer.2 })
  | .postWebhook url payload, w =>
      fault.mode.run "" (fun w =>
        let outcome := (webhookRoute w.orderingSecret w.inventorySecret url payload).run
          (scripted (webhookExec w.now) .works) (w.ordering, fault.server)
        (World.httpStatus outcome.value, { w with ordering := outcome.state.1 })) w
  | .goFinalizeOrder _ _, w => ((), w)
  | .goUpdateStockMetrics _, w => ((), w)

/-- One operation of ordering under a fault. -/
def orderingExec (fault : CallFault (CallFault Fault)) : Handler OrderingAns World
  | .store op, w =>
      let answer := storeExec w.now fault.mode op w.ordering
      (answer.1, { w with ordering := answer.2 })
  | .reserveItems req, w => fault.call inventoryExec .works (InventoryHandler.reserveItems req) w
  | .releaseItems req, w => fault.call inventoryExec .works (InventoryHandler.releaseItems req) w
  | .processCustomerOrder req, w =>
      fault.call inventoryExec .works (InventoryHandler.processCustomerOrder req) w
  | .restockItemsOrder req, w =>
      fault.call inventoryExec .works (InventoryHandler.restockItemsOrder req) w

/-! ### What an operation leaves alone -/

/-- The parts of the world that operations of inventory write. -/
inductive Part where
  | ordering
  | stock
  | memory
  | broadcasts
  | catalog
  deriving DecidableEq

/-- The part an operation of inventory may write. -/
def InventoryOp.writes : InventoryOp → Option Part
  | .reserveStock _ => some .stock
  | .releaseStock _ => some .stock
  | .upsertStock _ => some .stock
  | .saveOrderItems _ _ => some .memory
  | .saveRestockItems _ _ => some .memory
  | .incrementRobotCount _ _ => some .memory
  | .deleteOrderData _ _ => some .memory
  | .tryMarkOrderFinalized _ _ => some .memory
  | .sendRobotCommand _ _ _ => some .broadcasts
  | .calculateBill _ => some .catalog
  | .updateStockMetrics _ => some .catalog
  | .postWebhook _ _ => some .ordering
  | _ => none

/-- An operation keeps every part of the world but the one it writes. -/
theorem inventoryExec_frame (fault : CallFault Fault) (op : InventoryOp) (w : World) :
    let w' := (inventoryExec fault op w).2
    (op.writes ≠ some .ordering → w'.ordering = w.ordering) ∧
      (op.writes ≠ some .stock → w'.stock = w.stock) ∧
      (op.writes ≠ some .memory → w'.memory = w.memory) ∧
      (op.writes ≠ some .broadcasts → w'.broadcasts = w.broadcasts) ∧
      (w'.now = w.now ∧ w'.orderingSecret = w.orderingSecret ∧
        w'.inventorySecret = w.inventorySecret) := by
  rcases fault with ⟨mode, server⟩
  have honStock {α : Type} (result : StockTable → Except GoError (α × StockTable)) :
      (w.onStock result).2 = { w with stock := (w.onStock result).2.stock } := by
    unfold World.onStock
    split <;> rfl
  cases op <;> cases mode <;>
    simp [InventoryOp.writes, inventoryExec, Fault.run, World.onMemory]
  all_goals
    rw [honStock]
    simp

section

variable {fault : CallFault Fault} {op : InventoryOp} {w : World}

theorem inventoryExec_ordering (hop : op.writes ≠ some .ordering) :
    (inventoryExec fault op w).2.ordering = w.ordering :=
  (inventoryExec_frame fault op w).1 hop

theorem inventoryExec_stock (hop : op.writes ≠ some .stock) :
    (inventoryExec fault op w).2.stock = w.stock :=
  (inventoryExec_frame fault op w).2.1 hop

theorem inventoryExec_memory (hop : op.writes ≠ some .memory) :
    (inventoryExec fault op w).2.memory = w.memory :=
  (inventoryExec_frame fault op w).2.2.1 hop

theorem inventoryExec_broadcasts (hop : op.writes ≠ some .broadcasts) :
    (inventoryExec fault op w).2.broadcasts = w.broadcasts :=
  (inventoryExec_frame fault op w).2.2.2.1 hop

theorem inventoryExec_catalog (hop : op.writes ≠ some .catalog) :
    (inventoryExec fault op w).2.catalog = w.catalog := by
  obtain ⟨mode, server⟩ := fault
  have honStock {α : Type} (result : StockTable → Except GoError (α × StockTable)) :
      (w.onStock result).2.catalog = w.catalog := by
    unfold World.onStock
    split <;> rfl
  cases op <;> cases mode <;> first
    | exact absurd rfl hop
    | rfl
    | exact honStock _

end

/-! ### What a call leaves alone -/

section

variable (fault : CallFault (CallFault Fault)) (w : World)

/-- The operations of reservations and releases. -/
theorem reserveItems_uses (req : ReserveItemsRequest) :
    (InventoryHandler.reserveItems req).Uses (fun op => op.writes = some .stock) := by
  unfold InventoryHandler.reserveItems
  split
  · exact .ret _
  split
  · exact .ret _
  refine .call rfl fun answer => ?_
  cases answer with
  | error err => exact .ret _
  | ok reserved =>
      unfold InventoryHandler.afterReserve
      dsimp only
      split
      · exact .ret _
      split
      · exact .call rfl fun _ => .ret _
      · exact .ret _

theorem releaseItems_uses (req : ReleaseItemsRequest) :
    (InventoryHandler.releaseItems req).Uses (fun op => op.writes = some .stock) := by
  unfold InventoryHandler.releaseItems
  split
  · exact .ret _
  refine .call rfl fun answer => ?_
  cases answer <;> exact .ret _

/-- A call that only writes stock keeps the rest of the world. -/
theorem stockCall_frame {α : Type} {prog : InventoryProg (Except GoError α)}
    (huses : prog.Uses (fun op => op.writes = some .stock)) :
    let w' := (fault.call inventoryExec .works prog w).2
    w'.ordering = w.ordering ∧ w'.memory = w.memory ∧ w'.broadcasts = w.broadcasts := by
  refine fault.call_preserves inventoryExec .works
    (fun w' => w'.ordering = w.ordering ∧ w'.memory = w.memory ∧
      w'.broadcasts = w.broadcasts) (fun fault op w' hop h => ?_) huses ⟨rfl, rfl, rfl⟩
  obtain ⟨hordering, hmemory, hbroadcasts⟩ := h
  exact ⟨(inventoryExec_ordering (by simp [hop])).trans hordering,
    (inventoryExec_memory (by simp [hop])).trans hmemory,
    (inventoryExec_broadcasts (by simp [hop])).trans hbroadcasts⟩

/-- A dispatch saves the items, reads stock rows and broadcasts the items. -/
theorem processCustomerOrder_uses (req : ProcessCustomerOrderRequest) :
    (InventoryHandler.processCustomerOrder req).Uses (fun op =>
      op = .saveOrderItems req.orderID req.items ∨ op.writes = none ∨ ∃ dbItems,
        op = .sendRobotCommand req.orderID .customer
          (InventoryHandler.robotItems dbItems req.items)) := by
  refine .call (Or.inl rfl) fun answer => ?_
  cases answer with
  | error err => exact .ret _
  | ok value =>
      refine .call (Or.inr (Or.inl rfl)) fun answer => ?_
      cases answer with
      | error err => exact .call (Or.inr (Or.inr ⟨∅, rfl⟩)) fun _ => .ret _
      | ok dbItems => exact .call (Or.inr (Or.inr ⟨dbItems, rfl⟩)) fun _ => .ret _

/-- A restock saves its lines and broadcasts them. -/
theorem restockItemsOrder_uses (req : RestockItemsOrderRequest) :
    (InventoryHandler.restockItemsOrder req).Uses (fun op =>
      op = .saveRestockItems req.orderID req.items ∨
        op = .sendRobotCommand req.orderID .restock
          (InventoryHandler.restockRobotItems req.items)) := by
  refine .call (Or.inl rfl) fun answer => ?_
  cases answer with
  | error err => exact .ret _
  | ok value => exact .call (Or.inr rfl) fun _ => .ret _

/-- A call whose only Redis command is a save leaves Redis alone or as the save
does. -/
private theorem save_memory {α : Type} {prog : InventoryProg (Except GoError α)} (save : InventoryOp)
    (effect : MemoryStore → MemoryStore) (htwice : ∀ m, effect (effect m) = effect m)
    (hsave : ∀ fault w', w'.now = w.now → (inventoryExec fault save w').2.memory = w'.memory ∨
      (inventoryExec fault save w').2.memory = effect w'.memory)
    (huses : prog.Uses (fun op => op = save ∨ op.writes ≠ some .memory)) :
    let w' := (fault.call inventoryExec .works prog w).2
    w'.memory = w.memory ∨ w'.memory = effect w.memory := by
  have hkept := fault.call_preserves inventoryExec .works
    (fun w' => w'.now = w.now ∧ (w'.memory = w.memory ∨ w'.memory = effect w.memory))
    (fun fault op w' hop h => ?_) huses
    (show w.now = w.now ∧ (w.memory = w.memory ∨ _) from ⟨rfl, Or.inl rfl⟩)
  · exact hkept.2
  · obtain ⟨hnow, hmemory⟩ := h
    refine ⟨(inventoryExec_frame fault op w').2.2.2.2.1.trans hnow, ?_⟩
    rcases hop with rfl | hop
    · rcases hsave fault w' hnow with h | h <;> rcases hmemory with hm | hm <;> rw [h, hm]
      · exact Or.inl rfl
      · exact Or.inr rfl
      · exact Or.inr rfl
      · exact Or.inr (htwice w.memory)
    · rw [inventoryExec_memory hop]
      exact hmemory

/-- A call of `ProcessCustomerOrder` saves the items or leaves Redis alone. -/
theorem processCustomerOrder_memory (req : ProcessCustomerOrderRequest) :
    let w' := (orderingExec fault (.processCustomerOrder req) w).2
    w'.memory = w.memory ∨ w'.memory = w.memory.saveOrderItems w.now req.orderID req.items := by
  refine save_memory fault w (.saveOrderItems req.orderID req.items)
    (MemoryStore.saveOrderItems w.now req.orderID req.items)
    (MemoryStore.saveOrderItems_twice _ _ _) (fun fault w' hnow => ?_)
    ((processCustomerOrder_uses req).mono fun op hop => ?_)
  · rw [← hnow]
    rcases fault with ⟨_ | _ | _, server⟩
    · exact Or.inr rfl
    · exact Or.inl rfl
    · exact Or.inr rfl
  · rcases hop with hop | hnone | ⟨dbItems, rfl⟩
    · exact Or.inl hop
    · exact Or.inr (by simp [hnone])
    · exact Or.inr (by simp [InventoryOp.writes])

/-- A call of `RestockItemsOrder` saves the items or leaves Redis alone. -/
theorem restockItemsOrder_memory (req : RestockItemsOrderRequest) :
    let w' := (orderingExec fault (.restockItemsOrder req) w).2
    w'.memory = w.memory ∨ w'.memory = w.memory.saveRestockItems w.now req.orderID req.items := by
  refine save_memory fault w (.saveRestockItems req.orderID req.items)
    (MemoryStore.saveRestockItems w.now req.orderID req.items)
    (MemoryStore.saveRestockItems_twice _ _ _) (fun fault w' hnow => ?_)
    ((restockItemsOrder_uses req).mono fun op hop => ?_)
  · rw [← hnow]
    rcases fault with ⟨_ | _ | _, server⟩
    · exact Or.inr rfl
    · exact Or.inl rfl
    · exact Or.inr rfl
  · rcases hop with hop | rfl
    · exact Or.inl hop
    · exact Or.inr (by simp [InventoryOp.writes])

end

/-! ### Threads -/

/-- A request handler of ordering, or a method or goroutine of inventory. -/
inductive Thread where
  | ordering (prog : OrderingProg)
  | inventory (prog : InventoryProg Unit)

inductive ServiceEvent where
  | ordering (event : Event OrderingAns)
  | inventory (event : Event InventoryAns)

/-- An answer of a statement that reports a fault. -/
def StoreAns.faulty : (op : StoreOp) → StoreAns op → Bool
  | .createGroceryOrder _ _, ans => isFault ans
  | .getOrderByID _, ans => isFault ans
  | .getOrderItems _, ans => isFault ans
  | .updateStatus _ _, ans => isFault ans
  | .updateOrderStatus _ _ _, ans => isFault ans
  | .deleteOrder _, ans => isFault ans
  | .getSupplierInternalID _, ans => isFault ans
  | .createRestockOrder _ _, ans => isFault ans
  | .updateRestockStatus _ _ _, ans => isFault ans

/-- An answer of an operation of ordering that reports a fault. -/
def OrderingAns.faulty : (op : OrderingOp) → OrderingAns op → Bool
  | .store op, ans => StoreAns.faulty op ans
  | .reserveItems _, ans => isFault ans
  | .releaseItems _, ans => isFault ans
  | .processCustomerOrder _, ans => isFault ans
  | .restockItemsOrder _, ans => isFault ans

/-- A step whose operation failed. -/
def ServiceEvent.faulty : ServiceEvent → Bool
  | .ordering event => OrderingAns.faulty event.op event.ans
  | .inventory event => InventoryAns.faulty event.op event.ans

/-- Runs in which no operation fails. -/
abbrev faultFree : Pool Thread World → Nat → ServiceEvent → Prop :=
  fun _ _ event => event.faulty = false

/-- The faults a step may meet: the first if an ordering thread takes it, the
second if an inventory thread does. -/
abbrev ServiceFault := CallFault (CallFault Fault) × CallFault Fault

/-- A step that meets no fault. -/
def noFault : ServiceFault := (.works, .works)

/-- One step of a thread. The goroutines an operation of inventory starts
become threads. -/
def serviceAct : Act ServiceFault Thread World ServiceEvent
  | fault, .ordering (.call op next), w =>
      let answer := orderingExec fault.1 op w
      some ⟨.ordering ⟨op, answer.1⟩, .ordering (next answer.1), [], answer.2⟩
  | fault, .inventory (.call op next), w =>
      let answer := inventoryExec fault.2 op w
      some ⟨.inventory ⟨op, answer.1⟩, .inventory (next answer.1),
        (InventoryHandler.goroutines ⟨op, answer.1⟩).map .inventory, answer.2⟩
  | _, _, _ => none

/-- Steps of threads that meet no fault. A statement can still fail by itself,
on a value that does not fit its column. -/
def steadyAct : Act Unit Thread World ServiceEvent := fun _ => serviceAct noFault

/-- What a step was: the thread stood before a call, and the handler of its
service made the move. -/
theorem serviceAct_eq_some {fault : ServiceFault} {thread : Thread} {w : World}
    {move : Move Thread World ServiceEvent} (hact : serviceAct fault thread w = some move) :
    (∃ op next, thread = .ordering (.call op next) ∧
      move = ⟨.ordering ⟨op, (orderingExec fault.1 op w).1⟩,
        .ordering (next (orderingExec fault.1 op w).1), [], (orderingExec fault.1 op w).2⟩) ∨
    (∃ op next, thread = .inventory (.call op next) ∧
      move = ⟨.inventory ⟨op, (inventoryExec fault.2 op w).1⟩,
        .inventory (next (inventoryExec fault.2 op w).1),
        (InventoryHandler.goroutines ⟨op, (inventoryExec fault.2 op w).1⟩).map .inventory,
        (inventoryExec fault.2 op w).2⟩) := by
  rcases thread with (_ | ⟨op, next⟩) | (_ | ⟨op, next⟩)
  · cases hact
  · exact Or.inl ⟨op, next, rfl, (Option.some.inj hact).symm⟩
  · cases hact
  · exact Or.inr ⟨op, next, rfl, (Option.some.inj hact).symm⟩

/-- A gRPC method as a thread: its answer goes back to the caller. -/
def rpcThread {α : Type} (method : InventoryProg α) : InventoryProg Unit :=
  method >>= fun _ => .ret ()

/-- A robot callback as a thread. -/
def reportThread (req : ReportJobStatusRequest) : Thread :=
  .inventory (rpcThread (InventoryHandler.reportJobStatus req))

/-! ### A small deployment, for examples -/

namespace Sample

/-- Two units of milk. -/
def items : ItemMap := (∅ : ItemMap).insert "milk" 2

/-- Five units of milk in stock, and a pending order of client 7 for two more. -/
def world : World where
  now := 0
  ordering := { OrderingDB.empty with
    groceryOrders := (∅ : Relational.Table OrderID OrderRow).insert "order-1" ⟨1, 7, .pending, 0, 0⟩
    groceryOrderItems := [⟨1, "milk", 2⟩]
    nextOrderID := 2 }
  orderingSecret := "secret"
  stock := (∅ : StockTable).insert "milk" ⟨"Milk", "dairy", 5, 1, 0, 0⟩
  memory := .empty
  inventorySecret := "secret"
  broadcasts := []
  catalog := ⟨(∅ : Relational.Table SKU CatalogRow).insert "milk" ⟨1, 3 / 2⟩, 2⟩

/-- The same with one egg in stock. -/
def larder : World :=
  { world with stock := world.stock.insert "eggs" ⟨"Eggs", "dairy", 1, 1, 0, 0⟩ }

/-- A world once order-1 is dispatched and no robot has reported. -/
def dispatch (w : World) : World :=
  (orderingExec .works (.processCustomerOrder ⟨"order-1", items⟩) w).2

def dispatched : World := dispatch world

/-- The broadcast of order-1 when milk is in this aisle. -/
def broadcast (aisle : String) : OrderBroadcast :=
  ⟨"order-1", .customer, [⟨"milk", 2, aisle⟩]⟩

def report : ReportJobStatusRequest := ⟨"order-1", .customer, "NO_OP", ∅⟩

/-- The robots' round on an order: five reports, the first of them by the thread
at `first`, and the finalization to its end. -/
def robotRound (first : Nat) : List (Nat × ServiceFault) :=
  [0, 1, 2, 3, 4, 4, 4, 5, 5, 5, 5].map fun i => (first + i, noFault)

end Sample

end AutoGrocery

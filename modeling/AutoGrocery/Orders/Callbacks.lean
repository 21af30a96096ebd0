import AutoGrocery.Ordering.Status
import AutoGrocery.System

/-!
What the robot callbacks of inventory, and the finalizations they start, can do
to orders: they complete them and nothing else. They never broadcast.
-/

namespace AutoGrocery

open Interleaving InventoryHandler

/-- The operations of callbacks and of the goroutines they start. -/
def isCallbackOp : InventoryOp → Prop
  | .postWebhook _ payload => payload.status = .completed
  | .reserveStock _ => False
  | .releaseStock _ => False
  | .saveOrderItems _ _ => False
  | .saveRestockItems _ _ => False
  | .sendRobotCommand _ _ _ => False
  | _ => True

/-- The operation posts the completion of this client order. -/
def InventoryOp.completes (orderID : OrderID) : InventoryOp → Bool
  | .postWebhook .updateOrder payload => payload.orderID = orderID
  | _ => false

/-- A callback or a goroutine it started, at any point. -/
def Thread.IsCallback : Thread → Prop
  | .inventory prog => prog.Uses isCallbackOp
  | .ordering _ => False

/-- The client order whose items an operation reads from Redis. -/
def InventoryOp.loads : InventoryOp → Option OrderID
  | .getOrderItems orderID => some orderID
  | _ => none

/-- The client order an operation reads the items of or posts the completion of. -/
def InventoryOp.concerns : InventoryOp → Option OrderID
  | .getOrderItems orderID => some orderID
  | .postWebhook .updateOrder payload => some payload.orderID
  | _ => none

theorem InventoryOp.concerns_of_loads {op : InventoryOp} {orderID : OrderID}
    (hloads : op.loads = some orderID) : op.concerns = some orderID := by
  cases op with
  | getOrderItems read => exact hloads
  | _ => cases hloads

theorem InventoryOp.concerns_of_completes {op : InventoryOp} {orderID : OrderID}
    (hcompletes : op.completes orderID = true) : op.concerns = some orderID := by
  cases op with
  | postWebhook url payload =>
      cases url with
      | updateOrder => exact congrArg some (of_decide_eq_true hcompletes)
      | updateRestock => cases hcompletes
  | _ => cases hcompletes

theorem reportJobStatus_uses (req : ReportJobStatusRequest) :
    (reportJobStatus req).Uses (fun op => isCallbackOp op ∧ op.concerns = none) := by
  refine .call ⟨trivial, rfl⟩ fun answer => ?_
  cases answer with
  | error err => exact .ret _
  | ok count =>
      unfold afterIncrement
      dsimp only
      split
      · refine .call ⟨trivial, rfl⟩ fun answer => ?_
        cases answer with
        | error err => exact .ret _
        | ok marked =>
            cases marked with
            | false => exact .ret _
            | true => exact .call ⟨trivial, rfl⟩ fun _ => .ret _
      · exact .ret _

theorem reportThread_isCallback (req : ReportJobStatusRequest) : (reportThread req).IsCallback :=
  ((reportJobStatus_uses req).mono fun _ => And.left).bind fun _ => .ret _

private theorem deleteOrderData_uses (orderID : OrderID) (isRestock : Bool) :
    (deleteOrderData orderID isRestock).Uses (fun op => isCallbackOp op ∧ op.concerns = none) :=
  .call ⟨trivial, rfl⟩ fun _ => .ret _

private theorem upsertItems_uses (items : List RestockItem) (totals : RestockTotals) :
    (upsertItems items totals).Uses (fun op => isCallbackOp op ∧ op.concerns = none) := by
  induction items generalizing totals with
  | nil => exact .ret _
  | cons pi rest ih =>
      refine .call ⟨trivial, rfl⟩ fun answer => ?_
      cases answer with
      | error err => exact ih _
      | ok value => exact ih _

private theorem pricingUpdates_uses (latest : GoMap ℚ) :
    (pricingUpdates latest).Uses (fun op => isCallbackOp op ∧ op.concerns = none) := by
  unfold pricingUpdates
  split
  · refine .call ⟨trivial, rfl⟩ fun answer => ?_
    cases answer <;> exact .ret _
  · exact .ret _

/-- A bill is made out, posted and its keys deleted. -/
theorem billClientOrder_uses (orderID : OrderID) (items : ItemMap) :
    (billClientOrder orderID items).Uses (fun op => isCallbackOp op ∧ op.loads = none ∧
      (op.concerns = none ∨ op.concerns = some orderID)) := by
  refine .call ⟨trivial, rfl, Or.inl rfl⟩ fun answer => ?_
  refine .call ⟨rfl, rfl, Or.inr rfl⟩ fun posted => ?_
  exact .call ⟨trivial, rfl, Or.inl rfl⟩ fun deleted => .ret _

theorem finalizeRestock_uses (orderID : OrderID) :
    (finalizeRestock orderID).Uses (fun op => isCallbackOp op ∧ op.concerns = none) := by
  refine .call ⟨trivial, rfl⟩ fun answer => ?_
  cases answer with
  | error err => exact .ret _
  | ok items =>
      refine (upsertItems_uses items _).bind fun totals => ?_
      refine (pricingUpdates_uses _).bind fun metrics => ?_
      refine .call ⟨trivial, rfl⟩ fun _ => ?_
      refine .call ⟨rfl, rfl⟩ fun _ => ?_
      exact deleteOrderData_uses _ _

theorem asyncStockMetrics_uses (metrics : List StockMetric) :
    (asyncStockMetrics metrics).Uses (fun op => isCallbackOp op ∧ op.concerns = none) := by
  unfold asyncStockMetrics
  split
  · exact .ret _
  · exact .call ⟨trivial, rfl⟩ fun _ => .ret _

theorem finalizeOrder_uses (orderID : OrderID) (isRestock : Bool) :
    (finalizeOrder orderID isRestock).Uses isCallbackOp := by
  cases isRestock with
  | false =>
      refine .call trivial fun answer => ?_
      cases answer with
      | error err => exact .ret _
      | ok items => exact (billClientOrder_uses orderID items).mono fun _ => And.left
  | true => exact (finalizeRestock_uses orderID).mono fun _ => And.left

theorem goroutines_isCallback (event : Event InventoryAns) :
    ∀ prog ∈ goroutines event, prog.Uses isCallbackOp := by
  obtain ⟨op, ans⟩ := event
  cases op with
  | goFinalizeOrder orderID isRestock =>
      intro prog hprog
      rw [List.mem_singleton.mp hprog]
      exact finalizeOrder_uses orderID isRestock
  | goUpdateStockMetrics metrics =>
      intro prog hprog
      rw [List.mem_singleton.mp hprog]
      exact (asyncStockMetrics_uses metrics).mono fun _ => And.left
  | _ => intro prog hprog; cases hprog

/-- What an operation of a callback does to the orders. -/
theorem callbackOp_completes {op : InventoryOp} (hop : isCallbackOp op) (fault : CallFault Fault)
    (w : World) : OrderingDB.Completes (fun orderID => op.completes orderID = true) w.ordering
      (inventoryExec fault op w).2.ordering := by
  by_cases hwrites : op.writes = some .ordering
  · cases op <;> simp only [InventoryOp.writes, Option.some.injEq, reduceCtorEq] at hwrites
    case postWebhook url payload =>
      have hstate := fault.mode.run_state "" (fun w : World =>
        let outcome := (webhookRoute w.orderingSecret w.inventorySecret url payload).run
          (scripted (webhookExec w.now) .works) (w.ordering, fault.server)
        (World.httpStatus outcome.value, { w with ordering := outcome.state.1 })) w
      rcases hstate with h | h
      · rw [inventoryExec, h]
        exact .refl _
      · rw [inventoryExec, h]
        exact webhook_completes hop (fun hurl => by simp [hurl, InventoryOp.completes]) _ _ _
  · rw [inventoryExec_ordering hwrites]
    exact .refl _

theorem callbackOp_broadcasts {op : InventoryOp} (hop : isCallbackOp op) (fault : CallFault Fault)
    (w : World) : (inventoryExec fault op w).2.broadcasts = w.broadcasts := by
  refine inventoryExec_broadcasts fun hwrites => ?_
  cases op <;> simp only [InventoryOp.writes, Option.some.injEq, reduceCtorEq] at hwrites
  exact hop

/-- One step of a callback: it stays one, and so are the goroutines it starts. -/
theorem Thread.IsCallback.step {thread : Thread} {fault : ServiceFault} {w : World}
    {move : Move Thread World ServiceEvent} (hthread : thread.IsCallback)
    (hact : serviceAct fault thread w = some move) :
    ∃ op ans, move.event = .inventory ⟨op, ans⟩ ∧ isCallbackOp op ∧
      move.state = (inventoryExec fault.2 op w).2 ∧ move.thread.IsCallback ∧
      ∀ spawned ∈ move.spawned, spawned.IsCallback := by
  rcases serviceAct_eq_some hact with ⟨op, next, rfl, rfl⟩ | ⟨op, next, rfl, rfl⟩
  · exact hthread.elim
  · cases hthread with
    | call hop hnext =>
        refine ⟨op, _, rfl, hop, rfl, hnext _, fun spawned hspawned => ?_⟩
        obtain ⟨prog, hprog, rfl⟩ := List.mem_map.mp hspawned
        exact goroutines_isCallback _ prog hprog

end AutoGrocery

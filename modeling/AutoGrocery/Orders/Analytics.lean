import AutoGrocery.Orders.Requests

/-!
The goroutine that a completion webhook of a client order starts. It reads the
order again to compute how long it took, and an order that is gone is nil without
an error. Reading a field of nil panics, nothing recovers a panic in a goroutine,
and the whole service ends. The order is gone when a cancel request deletes it
between the update of the webhook and the read of the goroutine.
-/

namespace AutoGrocery

open Interleaving

inductive AnalyticsOp where
  | getOrderByID (orderID : OrderID)
  | publish (orderID : OrderID) (status : OrderStatus) (createdAt : Nat)

abbrev AnalyticsAns : AnalyticsOp → Type
  | .getOrderByID _ => Except GoError (Option GroceryOrder)
  | .publish _ _ _ => Unit

/-- How the goroutine ends. -/
inductive PublishEnd where
  | returned
  | nilDereference
  deriving DecidableEq

/-- The goroutine `WebhookHandler.ServeHTTP` starts; `analytics` is whether the
service has a publisher. `Publish` is handed the time since the order was created. -/
def publishOrder (analytics : Bool) (orderID : OrderID) (status : OrderStatus) :
    Prog AnalyticsAns PublishEnd :=
  .call (.getOrderByID orderID) fun
    | .error _ => .ret .returned
    | .ok order =>
        if analytics then
          match order with
          | none => .ret .nilDereference
          | some order =>
              .call (.publish orderID status order.createdAt) fun _ => .ret .returned
        else .ret .returned

/-- A statement of the goroutine when nothing fails. -/
def analyticsExec : Handler AnalyticsAns OrderingDB
  | .getOrderByID orderID, db => (.ok (db.getOrderByID orderID), db)
  | .publish _ _ _, db => ((), db)

/-! ### The threads -/

/-- A request to ordering, a completion webhook, or the goroutine of one. -/
inductive CompletionThread where
  | request (prog : OrderingProg)
  | webhook (prog : Prog WebhookAns Reply)
  | publishing (prog : Prog AnalyticsAns PublishEnd)

inductive CompletionEvent where
  | request (event : Event OrderingAns)
  | webhook (event : Event WebhookAns)
  | publishing (event : Event AnalyticsAns)

/-- The goroutine an operation of the webhook starts. -/
def WebhookOp.goroutine (analytics : Bool) : WebhookOp → List (Prog AnalyticsAns PublishEnd)
  | .store _ => []
  | .goPublish orderID status => [publishOrder analytics orderID status]

/-- The fault of an operation when no statement on the ordering database fails. -/
def OrderingOp.sparing (fault : CallFault (CallFault Fault)) : OrderingOp → CallFault (CallFault Fault)
  | .store _ => .works
  | _ => fault

/-- One step of a thread, without an error of the ordering database. -/
def completionAct (analytics : Bool) :
    Act (CallFault (CallFault Fault)) CompletionThread World CompletionEvent
  | fault, .request (.call op next), w =>
      let answer := orderingExec (op.sparing fault) op w
      some ⟨.request ⟨op, answer.1⟩, .request (next answer.1), [], answer.2⟩
  | _, .webhook (.call op next), w =>
      let answer := webhookExec w.now .works op w.ordering
      some ⟨.webhook ⟨op, answer.1⟩, .webhook (next answer.1),
        (op.goroutine analytics).map .publishing, { w with ordering := answer.2 }⟩
  | _, .publishing (.call op next), w =>
      let answer := analyticsExec op w.ordering
      some ⟨.publishing ⟨op, answer.1⟩, .publishing (next answer.1), [],
        { w with ordering := answer.2 }⟩
  | _, _, _ => none

/-- Requests and completion webhooks, each webhook with its `X-Internal-Secret`. -/
def completions (requests : List OrderingProg) (webhooks : List (String × WebhookPayload)) (w : World) :
    Pool CompletionThread World :=
  ⟨requests.map .request ++ webhooks.map fun webhook =>
    .webhook (webhookRoute w.orderingSecret webhook.1 .updateOrder webhook.2), w⟩

/-- A goroutine that read a field of a nil order. -/
def CompletionThread.crashed : CompletionThread → Bool
  | .publishing (.ret .nilDereference) => true
  | _ => false

/-- The order a webhook has updated and its goroutine has still to read. -/
def CompletionThread.awaits : CompletionThread → Option OrderID
  | .webhook (.call (.goPublish orderID _) _) => some orderID
  | .publishing (.call (.getOrderByID orderID) _) => some orderID
  | _ => none

/-- The order an event deletes. -/
def CompletionEvent.deletes : CompletionEvent → Option OrderID
  | .request ⟨.store (.deleteOrder orderID), _⟩ => some orderID
  | _ => none

/-- No order is deleted between its completion and the read of the goroutine,
or there is no publisher. -/
def sparesAwaited (analytics : Bool) (pool : Pool CompletionThread World) (_ : Nat)
    (event : CompletionEvent) : Bool :=
  !analytics || event.deletes.all fun orderID =>
    pool.threads.all fun thread => thread.awaits ≠ some orderID

/-! ### The goroutine finds its order -/

/-- A request; a webhook before its update, before it starts its goroutine, or at
its end; a goroutine before its read, before it publishes, or at its end. An order
that a publisher needs is there. -/
inductive CompletionAt (analytics : Bool) (db : OrderingDB) : CompletionThread → Prop where
  | request (prog : OrderingProg) : CompletionAt analytics db (.request prog)
  | updating (payload : WebhookPayload) :
      CompletionAt analytics db (.webhook (updateOrderWebhook payload))
  | starting {orderID : OrderID} {status : OrderStatus} {reply : Reply} :
      (analytics = true → db.groceryOrders.lookup orderID ≠ none) →
      CompletionAt analytics db (.webhook (.call (.goPublish orderID status) fun _ => .ret reply))
  | answered (reply : Reply) : CompletionAt analytics db (.webhook (.ret reply))
  | reading {orderID : OrderID} {status : OrderStatus} :
      (analytics = true → db.groceryOrders.lookup orderID ≠ none) →
      CompletionAt analytics db (.publishing (publishOrder analytics orderID status))
  | publishing {orderID : OrderID} {status : OrderStatus} {createdAt : Nat} :
      CompletionAt analytics db
        (.publishing (.call (.publish orderID status createdAt) fun _ => .ret .returned))
  | returned : CompletionAt analytics db (.publishing (.ret .returned))

section

variable {analytics : Bool} {w : World} {db db' : OrderingDB} {thread : CompletionThread}
  {fault : CallFault (CallFault Fault)} {move : Move CompletionThread World CompletionEvent}

theorem CompletionAt.sound (hat : CompletionAt analytics db thread) : thread.crashed = false := by
  cases hat <;> rfl

/-- A webhook starts before its update, or is refused. -/
theorem CompletionAt.route (secret apiKey : String) (payload : WebhookPayload) :
    CompletionAt analytics db (.webhook (webhookRoute secret apiKey .updateOrder payload)) := by
  unfold webhookRoute internalMiddleware
  split
  · exact .answered _
  split
  · exact .answered _
  exact .updating payload

/-- Only the order a thread awaits matters to it. -/
theorem CompletionAt.other (hat : CompletionAt analytics db thread)
    (hkept : analytics = true → ∀ orderID, thread.awaits = some orderID →
      db.groceryOrders.lookup orderID ≠ none → db'.groceryOrders.lookup orderID ≠ none) :
    CompletionAt analytics db' thread := by
  cases hat with
  | request prog => exact .request prog
  | updating payload => exact .updating payload
  | starting hrow => exact .starting fun hanalytics => hkept hanalytics _ rfl (hrow hanalytics)
  | answered reply => exact .answered reply
  | reading hrow => exact .reading fun hanalytics => hkept hanalytics _ rfl (hrow hanalytics)
  | publishing => exact .publishing
  | returned => exact .returned

/-- A step removes the row it deletes and no other. -/
theorem CompletionAt.stays (hat : CompletionAt analytics w.ordering thread)
    (hact : completionAct analytics fault thread w = some move) {orderID : OrderID}
    (hspared : move.event.deletes ≠ some orderID)
    (hrow : w.ordering.groceryOrders.lookup orderID ≠ none) :
    move.state.ordering.groceryOrders.lookup orderID ≠ none := by
  cases hat with
  | request prog =>
      cases prog with
      | ret reply => cases hact
      | call op next =>
          cases hact
          refine orderingExec_stays _ (fun hop => ?_) hrow
          subst hop
          exact hspared rfl
  | updating payload =>
      cases hact
      exact (storeExec_change w.now .works _ w.ordering).stays (fun hop => by cases hop) hrow
  | starting _ =>
      cases hact
      exact hrow
  | answered reply => cases hact
  | reading _ =>
      cases hact
      exact hrow
  | publishing =>
      cases hact
      exact hrow
  | returned => cases hact

/-- What an update leaves behind it: the row it has updated. -/
private theorem updated_row {orderID : OrderID} {status : OrderStatus} {totalPrice : ℚ}
    (hok : (storeExec w.now .works (.updateOrderStatus orderID status totalPrice) w.ordering).1 =
      .ok ()) :
    (storeExec w.now .works (.updateOrderStatus orderID status totalPrice)
      w.ordering).2.groceryOrders.lookup orderID ≠ none := by
  have hresult := (run_commit .works "failed to update order status: "
    (OrderingDB.updateOrderStatus orderID status totalPrice) w.ordering).1 hok
  have hstatus := (OrderingDB.updateOrderStatus_ok hresult).2 orderID
  rw [if_pos rfl] at hstatus
  intro hnone
  rw [OrderingDB.status] at hstatus
  simp only [storeExec] at hnone
  rw [hnone] at hstatus
  cases hstatus

/-- **The step lemma.** The thread that moves finds the order it reads, and hands
an order it has updated to a goroutine. -/
theorem CompletionAt.step (hat : CompletionAt analytics w.ordering thread)
    (hact : completionAct analytics fault thread w = some move) :
    CompletionAt analytics move.state.ordering move.thread ∧
      ∀ spawned ∈ move.spawned, CompletionAt analytics move.state.ordering spawned := by
  cases hat with
  | request prog =>
      cases prog with
      | ret reply => cases hact
      | call op next =>
          cases hact
          exact ⟨.request _, fun spawned hspawned => absurd hspawned List.not_mem_nil⟩
  | updating payload =>
      cases hact
      refine ⟨?_, fun spawned hspawned => absurd hspawned List.not_mem_nil⟩
      have hrow := @updated_row w payload.orderID payload.status (payload.number "total_price")
      dsimp only [webhookExec]
      generalize hanswer : (storeExec w.now .works (.updateOrderStatus payload.orderID payload.status
        (payload.number "total_price")) w.ordering).1 = answer at hrow
      cases answer with
      | error err => exact .answered _
      | ok value => exact .starting fun _ => hrow rfl
  | starting hrow =>
      cases hact
      refine ⟨.answered _, fun spawned hspawned => ?_⟩
      rw [List.mem_singleton.mp hspawned]
      exact .reading hrow
  | answered reply => cases hact
  | @reading orderID status hrow =>
      cases hact
      refine ⟨?_, fun spawned hspawned => absurd hspawned List.not_mem_nil⟩
      cases analytics with
      | false => exact .returned
      | true =>
          obtain ⟨row, hlookup⟩ := Option.ne_none_iff_exists'.mp (hrow rfl)
          simp only [analyticsExec, OrderingDB.getOrderByID, hlookup]
          exact .publishing
  | publishing =>
      cases hact
      exact ⟨.returned, fun spawned hspawned => absurd hspawned List.not_mem_nil⟩
  | returned => cases hact

end

/-! ### Every run -/

/-- Every thread is at one of the points of `CompletionAt`. -/
def Completing (analytics : Bool) (pool : Pool CompletionThread World) : Prop :=
  ∀ thread ∈ pool.threads, CompletionAt analytics pool.state.ordering thread

section

variable {analytics : Bool} {pool : Pool CompletionThread World}

theorem Completing.opening (requests : List OrderingProg) (webhooks : List (String × WebhookPayload))
    (w : World) : Completing analytics (completions requests webhooks w) := by
  intro thread hthread
  rcases List.mem_append.mp hthread with hrequest | hwebhook
  · obtain ⟨prog, _, rfl⟩ := List.mem_map.mp hrequest
    exact .request prog
  · obtain ⟨webhook, _, rfl⟩ := List.mem_map.mp hwebhook
    exact .route _ _ _

theorem Completing.after (hat : Completing analytics pool) {index : Nat} {thread : CompletionThread}
    {fault : CallFault (CallFault Fault)} {move : Move CompletionThread World CompletionEvent}
    (hthread : pool.threads[index]? = some thread)
    (hact : completionAct analytics fault thread pool.state = some move)
    (hspares : sparesAwaited analytics pool index move.event = true) :
    Completing analytics (pool.after index move) := by
  have hmover := hat thread (List.mem_of_getElem? hthread)
  obtain ⟨hafter, hspawned⟩ := hmover.step hact
  refine Pool.forall_threads_after (fun other hother => ?_) hafter hspawned
  refine (hat other hother).other fun hanalytics orderID hawaits hrow => ?_
  refine hmover.stays hact (fun hdeletes => ?_) hrow
  subst hanalytics
  rw [sparesAwaited, hdeletes] at hspares
  have hspared : ∀ thread ∈ pool.threads, thread.awaits ≠ some orderID := by simpa using hspares
  exact hspared other hother hawaits

/-- **The goroutine of a completion webhook reads no nil order.** Among any
requests and any completion webhooks, in every run in which no order is deleted
between the update of its webhook and the read of the goroutine. -/
theorem completed_without_panic {requests : List OrderingProg}
    {webhooks : List (String × WebhookPayload)} {w : World} {trace : List (Nat × CompletionEvent)}
    (hrun : Run (completionAct analytics)
      (fun pool index event => sparesAwaited analytics pool index event = true)
      (completions requests webhooks w) trace pool) :
    ∀ thread ∈ pool.threads, thread.crashed = false := by
  have hat : Completing analytics pool :=
    hrun.invariant (fun pool _ => Completing analytics pool) (.opening requests webhooks w)
      fun _ _ _ _ _ _ hat hthread hact hspares => hat.after hthread hact hspares
  exact fun thread hthread => (hat thread hthread).sound

end

/-! ### A cancel between the update and the read -/

namespace Sample

/-- The completion webhook of order-1. -/
def completion : String × WebhookPayload := ("secret", ⟨"order-1", .completed, "total_price", 3⟩)

/-- Client 7 cancels order-1 while its completion is posted. -/
def cancelled : Pool CompletionThread World :=
  completions [cancelOrder (some 7) "order-1"] [completion] world

end Sample

/-- The goroutine reads before the cancel begins. -/
theorem completed_without_panic_sample :
    ∃ trace pool, Run (completionAct true)
        (fun pool index event => sparesAwaited true pool index event = true)
        Sample.cancelled trace pool ∧
      trace.length = 8 ∧ ∀ thread ∈ pool.threads, thread.crashed = false := by
  obtain ⟨trace, pool, hrun, hlength⟩ := run_of_play (completionAct true) (sparesAwaited true)
    Sample.cancelled ([1, 1, 2, 2, 0, 0, 0, 0].map fun index => (index, .works))
    (fun trace _ => trace.length = 8) (by decide +kernel)
  exact ⟨trace, pool, hrun, of_decide_eq_true hlength, completed_without_panic hrun⟩

/-- The cancel comes between the answer of the webhook and the read of its
goroutine. -/
theorem panic_after_cancel :
    ∃ trace pool, Run (completionAct true) anyStep Sample.cancelled trace pool ∧
      ∃ thread ∈ pool.threads, thread.crashed = true := by
  obtain ⟨trace, pool, hrun, hcrashed⟩ := run_of_play (completionAct true) (fun _ _ _ => true)
    Sample.cancelled ([1, 1, 0, 0, 0, 0, 2].map fun index => (index, .works))
    (fun _ pool => pool.threads.any CompletionThread.crashed) (by decide +kernel)
  exact ⟨trace, pool, hrun.mono fun _ _ _ _ => trivial, List.any_eq_true.mp hcrashed⟩

end AutoGrocery

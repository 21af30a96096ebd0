import AutoGrocery.Ordering.Integrity
import AutoGrocery.Orders.Requests
import AutoGrocery.Orders.Callbacks

/-!
The records of ordering in every run. Requests of clients and trucks, reports of
robots and the goroutines they start run in any interleaving and meet any faults.
A statement of a handler keeps the records whole because of what the handler has
learnt before it: that inventory granted a map with something in it, or the id of a
supplier. Both stay true while other requests run.
-/

namespace AutoGrocery

open Interleaving InventoryHandler Relational

/-! ### The requests -/

/-- A statement that keeps the records whole in whatever it finds. -/
def OrderingOp.Plain : OrderingOp → Prop
  | .store op => ∀ db, op.Proper db
  | _ => True

/-- What a request has learnt and not used yet. -/
inductive RecordPhase where
  | idle
  | granted (items : ItemMap)
  | supplied (supplierID : Nat)

/-- The operations of a request by what it has learnt. -/
inductive RecordRule : RecordPhase → (op : OrderingOp) → OrderingAns op → RecordPhase → Prop where
  | plain (phase : RecordPhase) {op : OrderingOp} (answer : OrderingAns op) : op.Plain →
      RecordRule phase op answer phase
  | grant (orderID : OrderID) (items : ItemMap) (resp : ReserveItemsResponse) : resp.success = true →
      RecordRule .idle (.reserveItems ⟨orderID, items⟩) (.ok resp) (.granted items)
  | create (items : ItemMap) (order : GroceryOrder) (answer : Except GoError Unit) :
      RecordRule (.granted items) (.store (.createGroceryOrder order (orderLines items))) answer .idle
  | supply (businessID : String) (supplierID : Nat) :
      RecordRule .idle (.store (.getSupplierInternalID businessID)) (.ok supplierID) (.supplied supplierID)
  | register (order : RestockOrder) (items : List RestockOrderItem) (answer : Except GoError Unit) :
      RecordRule (.supplied order.supplierID) (.store (.createRestockOrder order items)) answer .idle

/-- What was learnt is still so. -/
def RecordPhase.Sound (db : OrderingDB) : RecordPhase → Prop
  | .idle => True
  | .granted items => items.entries ≠ []
  | .supplied supplierID => ∃ businessID, db.suppliers.lookup businessID = some supplierID

theorem RecordPhase.Sound.continues {db db' : OrderingDB} {phase : RecordPhase} (hsound : phase.Sound db)
    (hcontinues : db.Continues db') : phase.Sound db' := by
  cases phase with
  | idle => trivial
  | granted items => exact hsound
  | supplied supplierID =>
      obtain ⟨businessID, hid⟩ := hsound
      exact ⟨businessID, hcontinues.suppliers hid⟩

private theorem previewOrder_records (userID : Option Int) (body : Option (List CartItem))
    (orderUUID : OrderID) : (previewOrder userID body orderUUID).Follows RecordRule .idle := by
  rcases userID with _ | user <;> rcases body with _ | items
  · trivial
  · trivial
  · trivial
  intro answer
  cases answer with
  | error err => exact ⟨_, .plain .idle _ trivial, trivial⟩
  | ok grpcResp =>
      cases hsuccess : grpcResp.success with
      | false =>
          refine ⟨_, .plain .idle _ trivial, ?_⟩
          dsimp only
          rw [hsuccess]
          trivial
      | true =>
          refine ⟨_, .grant orderUUID (cartMap items) grpcResp hsuccess, ?_⟩
          dsimp only
          rw [hsuccess]
          intro answer
          refine ⟨_, .create (cartMap items) _ answer, ?_⟩
          cases answer <;> trivial

private theorem confirmOrder_records (userID : Option Int) (body : Option OrderID) :
    (confirmOrder userID body).Uses OrderingOp.Plain := by
  unfold confirmOrder
  split
  · exact .ret _
  · exact .ret _
  split
  · exact .ret _
  refine .call (fun _ => trivial) fun answer => ?_
  rcases answer with err | _ | order
  · exact .ret _
  · exact .ret _
  dsimp only
  split
  · exact .ret _
  split
  · exact .ret _
  refine .call (fun _ => trivial) fun answer => ?_
  cases answer with
  | error err => exact .ret _
  | ok dbItems =>
      refine .call (fun _ h => by cases h) fun answer => ?_
      cases answer with
      | error err => exact .ret _
      | ok value =>
          refine .call trivial fun answer => ?_
          cases answer with
          | error err => exact .call (fun _ h => by cases h) fun _ => .ret _
          | ok resp => exact .ret _

private theorem cancelOrder_records (userID : Option Int) (orderID : OrderID) :
    (cancelOrder userID orderID).Uses OrderingOp.Plain := by
  cases userID with
  | none => exact .ret _
  | some user =>
      refine .call (fun _ => trivial) fun answer => ?_
      rcases answer with err | _ | order
      · exact .ret _
      · exact .ret _
      dsimp only
      split
      · exact .ret _
      · exact .call (fun _ => trivial) fun _ => .call trivial fun _ => .call (fun _ => trivial) fun _ => .ret _

private theorem restockOrder_records (body : Option TruckManifest) (restockUUID : OrderID) :
    (restockOrder body restockUUID).Follows RecordRule .idle := by
  cases body with
  | none => trivial
  | some manifest =>
      intro answer
      cases answer with
      | error err => exact ⟨_, .plain .idle _ fun _ => trivial, trivial⟩
      | ok supplierID =>
          refine ⟨_, .supply manifest.supplierID supplierID, fun answer => ?_⟩
          refine ⟨_, .register ⟨restockUUID, supplierID, .processing, manifestCost manifest.items⟩ _ answer, ?_⟩
          cases answer with
          | error err => trivial
          | ok value =>
              intro answer
              refine ⟨_, .plain .idle answer trivial, ?_⟩
              cases answer with
              | error err => trivial
              | ok resp =>
                  dsimp only
                  split <;> trivial

/-- A client's request keeps to the rule. -/
theorem ClientRequest.handle_records (request : ClientRequest) (userID : Option Int) :
    (request.handle userID).Follows RecordRule .idle := by
  cases request with
  | preview body orderUUID => exact previewOrder_records userID body orderUUID
  | confirm body =>
      exact (confirmOrder_records userID body).follows fun _ answer hop => .plain .idle answer hop
  | cancel orderID =>
      exact (cancelOrder_records userID orderID).follows fun _ answer hop => .plain .idle answer hop

/-! ### The callbacks -/

/-- The statements of a completion webhook. -/
def completing : WebhookOp → Prop
  | .store op => ∀ db, op.Proper db
  | .goPublish _ _ => True

theorem webhookRoute_completing {secret apiKey : String} {url : WebhookURL}
    {payload : WebhookPayload} (hstatus : payload.status = .completed) :
    (webhookRoute secret apiKey url payload).Uses completing := by
  unfold webhookRoute internalMiddleware
  split
  · exact .ret _
  split
  · exact .ret _
  cases url with
  | updateOrder =>
      refine .call (fun _ => hstatus) fun answer => ?_
      cases answer with
      | error err => exact .ret _
      | ok value => exact .call trivial fun _ => .ret _
  | updateRestock =>
      refine .call (fun _ => hstatus) fun answer => ?_
      cases answer with
      | error err => exact .ret _
      | ok value => exact .call trivial fun _ => .ret _

section

variable {w : World}

/-- A completion post leaves whole records, whatever happens to it. -/
private theorem webhook_grown {secret apiKey : String} {url : WebhookURL} {payload : WebhookPayload}
    (hstatus : payload.status = .completed) (now : Nat) (script : List Fault) {db : OrderingDB}
    (hintact : db.Intact) : db.Grown ((webhookRoute secret apiKey url payload).run
      (scripted (webhookExec now) .works) (db, script)).state.1 := by
  refine Prog.run_preserves (P := fun state : OrderingDB × List Fault => db.Grown state.1) _
    (fun op state hop hgrown => ?_) (webhookRoute_completing hstatus) (.refl hintact)
  cases op with
  | goPublish orderID status => exact hgrown
  | store op =>
      have hstep := storeExec_grown now (state.2.headD .works) hgrown.intact (hop state.1)
      exact ⟨hstep.intact, hgrown.continues.trans hstep.continues⟩

/-- So does an operation of a callback. -/
theorem callbackOp_grown {op : InventoryOp} (hop : isCallbackOp op) (fault : CallFault Fault)
    (hintact : w.ordering.Intact) : w.ordering.Grown (inventoryExec fault op w).2.ordering := by
  by_cases hwrites : op.writes = some .ordering
  · cases op <;> simp only [InventoryOp.writes, Option.some.injEq, reduceCtorEq] at hwrites
    case postWebhook url payload =>
      have hstate := fault.mode.run_state "" (fun w : World =>
        let outcome := (webhookRoute w.orderingSecret w.inventorySecret url payload).run
          (scripted (webhookExec w.now) .works) (w.ordering, fault.server)
        (World.httpStatus outcome.value, { w with ordering := outcome.state.1 })) w
      rcases hstate with h | h
      · rw [inventoryExec, h]
        exact .refl hintact
      · rw [inventoryExec, h]
        exact webhook_grown hop w.now fault.server hintact
  · rw [inventoryExec_ordering hwrites]
    exact .refl hintact

/-! ### One step -/

/-- Inventory grants no empty map. -/
private theorem granted_filled {fault : CallFault (CallFault Fault)} {req : ReserveItemsRequest}
    {resp : ReserveItemsResponse} (hanswer : (orderingExec fault (.reserveItems req) w).1 = .ok resp)
    (hsuccess : resp.success = true) : req.items.entries ≠ [] := by
  intro hempty
  have hprog : ∃ refused : ReserveItemsResponse, refused.success = false ∧
      InventoryHandler.reserveItems req = .ret (.ok refused) := by
    unfold InventoryHandler.reserveItems
    split
    · exact ⟨_, rfl, rfl⟩
    · rw [if_pos (by rw [hempty]; rfl)]
      exact ⟨_, rfl, rfl⟩
  obtain ⟨refused, hrefused, hprog⟩ := hprog
  simp only [orderingExec, hprog] at hanswer
  cases hmode : fault.mode <;> simp only [CallFault.call, hmode, Fault.run] at hanswer
  case works =>
    obtain rfl : refused = resp := Except.ok.inj hanswer
    rw [hrefused] at hsuccess
    cases hsuccess
  all_goals cases hanswer

/-- **The step lemma** of requests. -/
private theorem RecordRule.step (hintact : w.ordering.Intact) {fault : CallFault (CallFault Fault)}
    {phase phase' : RecordPhase} {op : OrderingOp}
    (hrule : RecordRule phase op (orderingExec fault op w).1 phase') (hsound : phase.Sound w.ordering) :
    w.ordering.Grown (orderingExec fault op w).2.ordering ∧
      phase'.Sound (orderingExec fault op w).2.ordering := by
  have hproper : ∀ statement, op = .store statement → statement.Proper w.ordering := by
    rintro statement rfl
    generalize (orderingExec fault (.store statement) w).1 = answer at hrule
    cases hrule with
    | plain phase answer hop => exact hop w.ordering
    | create items order answer => exact ⟨items, hsound, rfl⟩
    | supply businessID supplierID => trivial
    | register order items answer => exact hsound
  have hgrown : w.ordering.Grown (orderingExec fault op w).2.ordering := by
    rcases orderingExec_change fault op w with ⟨statement, rfl, _⟩ | hsame
    · exact storeExec_grown w.now fault.mode hintact (hproper statement rfl)
    · rw [hsame]
      exact .refl hintact
  refine ⟨hgrown, ?_⟩
  generalize hanswer : (orderingExec fault op w).1 = answer at hrule
  cases hrule with
  | plain phase answer hop => exact hsound.continues hgrown.continues
  | grant orderID items resp hsuccess => exact granted_filled hanswer hsuccess
  | create items order answer => trivial
  | supply businessID supplierID =>
      have hrun := Fault.run_of_ok (show (fault.mode.run
        ("failed to get or create supplier " ++ businessID ++ ": ") (fun db =>
          ((.ok (db.getSupplierInternalID businessID).1 : Except GoError Nat),
            (db.getSupplierInternalID businessID).2)) w.ordering).1 = .ok supplierID from hanswer)
      refine ⟨businessID, ?_⟩
      simp only [orderingExec, storeExec] at hanswer ⊢
      rw [hrun] at hanswer ⊢
      rw [← Except.ok.inj hanswer]
      exact AList.lookup_insert _
  | register order items answer => trivial

end

/-- A request that keeps to the rule and knows what it has learnt, or a callback. -/
def Thread.Recording (db : OrderingDB) : Thread → Prop
  | .ordering prog => ∃ phase : RecordPhase, prog.Follows RecordRule phase ∧ phase.Sound db
  | .inventory prog => prog.Uses isCallbackOp

theorem Request.thread_recording (request : Request) (db : OrderingDB) : request.thread.Recording db := by
  cases request with
  | client userID request => exact ⟨.idle, request.handle_records userID, trivial⟩
  | restock body restockUUID => exact ⟨.idle, restockOrder_records body restockUUID, trivial⟩
  | report req => exact reportThread_isCallback req

theorem Thread.Recording.continues {db db' : OrderingDB} {thread : Thread}
    (hrecording : thread.Recording db) (hcontinues : db.Continues db') : thread.Recording db' := by
  cases thread with
  | inventory prog => exact hrecording
  | ordering prog =>
      obtain ⟨phase, hfollows, hsound⟩ := hrecording
      exact ⟨phase, hfollows, hsound.continues hcontinues⟩

/-- One step of a thread, with the goroutines it starts. -/
theorem Thread.Recording.step {w : World} (hintact : w.ordering.Intact) {thread : Thread}
    (hrecording : thread.Recording w.ordering) {fault : ServiceFault}
    {move : Move Thread World ServiceEvent} (hact : serviceAct fault thread w = some move) :
    w.ordering.Grown move.state.ordering ∧ move.thread.Recording move.state.ordering ∧
      ∀ spawned ∈ move.spawned, spawned.Recording move.state.ordering := by
  cases thread with
  | ordering prog =>
      obtain ⟨phase, hfollows, hsound⟩ := hrecording
      cases prog with
      | ret reply => cases hact
      | call op next =>
          cases hact
          obtain ⟨phase', hrule, hnext⟩ := hfollows (orderingExec fault.1 op w).1
          obtain ⟨hgrown, hsound'⟩ := hrule.step hintact hsound
          exact ⟨hgrown, ⟨phase', hnext, hsound'⟩, fun spawned hspawned =>
            absurd hspawned List.not_mem_nil⟩
  | inventory prog =>
      have hcallback : Thread.IsCallback (.inventory prog) := hrecording
      obtain ⟨op, ans, _, hop, hstate, hmover, hspawned⟩ := hcallback.step hact
      refine ⟨?_, ?_, fun spawned hmem => ?_⟩
      · rw [hstate]
        exact callbackOp_grown hop fault.2 hintact
      · cases hthread : move.thread with
        | ordering prog => rw [hthread] at hmover; exact hmover.elim
        | inventory prog => rw [hthread] at hmover; exact hmover
      · have hstarted := hspawned spawned hmem
        cases spawned with
        | ordering prog => exact hstarted.elim
        | inventory prog => exact hstarted

/-! ### Every run -/

/-- Whole records, and threads that keep them whole. -/
structure RecordsKept (pool : Pool Thread World) : Prop where
  intact : pool.state.ordering.Intact
  threads : ∀ thread ∈ pool.threads, thread.Recording pool.state.ordering

section

variable {start pool : Pool Thread World} {trace : List (Nat × ServiceEvent)}

theorem RecordsKept.opening (requests : List Request) {w : World} (hintact : w.ordering.Intact) :
    RecordsKept ⟨requests.map Request.thread, w⟩ := by
  refine ⟨hintact, fun thread hthread => ?_⟩
  obtain ⟨request, _, rfl⟩ := List.mem_map.mp hthread
  exact request.thread_recording w.ordering

/-- **The run lemma.** The records stay whole and go on from those of the start. -/
theorem RecordsKept.run (hstart : RecordsKept start) (hrun : Run serviceAct anyStep start trace pool) :
    RecordsKept pool ∧ start.state.ordering.Continues pool.state.ordering := by
  refine hrun.invariant (fun pool _ => RecordsKept pool ∧
    start.state.ordering.Continues pool.state.ordering) ⟨hstart, .refl _⟩ ?_
  intro trace pool index thread fault move hkept hthread hact _
  obtain ⟨⟨hintact, hthreads⟩, hcontinues⟩ := hkept
  obtain ⟨hgrown, hmover, hspawned⟩ :=
    (hthreads thread (List.mem_of_getElem? hthread)).step hintact hact
  refine ⟨⟨hgrown.intact, ?_⟩, hcontinues.trans hgrown.continues⟩
  exact Pool.forall_threads_after (fun other hother => (hthreads other hother).continues hgrown.continues)
    hmover hspawned

end

section

variable {requests : List Request} {w : World} {pool : Pool Thread World}

/-- **The records of ordering are always whole.** In every run of requests of clients,
trucks and robots, with whatever faults, the foreign keys and the serial ids of the
schema hold, every order lists some SKUs, each of them once, and no order that is
PENDING has a price. -/
theorem records_intact (hintact : w.ordering.Intact) {trace : List (Nat × ServiceEvent)}
    (hrun : Run serviceAct anyStep ⟨requests.map Request.thread, w⟩ trace pool) :
    pool.state.ordering.Intact :=
  ((RecordsKept.opening requests hintact).run hrun).1.intact

/-- **No record is ever rewritten into another.** Of any two moments of a run the later one
has of the earlier one's orders only what stood there, with the same client, time and
lines, and none of them back in PENDING. A restock order stays, and once COMPLETED it stays
COMPLETED. A supplier keeps its id. -/
theorem records_continue (hintact : w.ordering.Intact) {earlier : Pool Thread World}
    (hpasses : Passes serviceAct ⟨requests.map Request.thread, w⟩ earlier pool) :
    earlier.state.ordering.Continues pool.state.ordering := by
  obtain ⟨⟨_, hbefore⟩, _, hafter⟩ := hpasses
  exact (((RecordsKept.opening requests hintact).run hbefore).1.run hafter).2

end

/-! ### A confirm and a restock -/

namespace Sample

/-- Client 7 confirms order-1 and previews order-2 while a truck brings milk. -/
def bookings : List Request :=
  [.client (some 7) (.confirm (some "order-1")), .client (some 7) (.preview (some [⟨"milk", 1⟩]) "order-2"),
    .restock (some ⟨"SUPP-1", [⟨"milk", "Milk", "dairy", 3, 1, 0, 0⟩]⟩) "restock-1"]

theorem ordering_intact : world.ordering.Intact :=
  OrderingDB.intact_of_entries (by decide) (by decide) (by decide) (by decide) (by decide) (by decide)
    (by decide) (by decide)

end Sample

/-- The preview creates an order and the truck a restock order between the steps of the
confirm. -/
theorem records_intact_sample :
    ∃ trace pool, Run serviceAct anyStep ⟨Sample.bookings.map Request.thread, Sample.world⟩ trace pool ∧
      pool.state.ordering.groceryOrders.keys.length = 2 ∧
      pool.state.ordering.restockOrders.keys.length = 1 ∧ pool.state.ordering.Intact := by
  obtain ⟨trace, pool, hplayed, hcheck⟩ := run_of_play serviceAct (fun _ _ _ => true)
    ⟨Sample.bookings.map Request.thread, Sample.world⟩
    ([0, 1, 2, 0, 1, 2, 0, 2, 0].map fun index => (index, noFault))
    (fun _ pool => pool.state.ordering.groceryOrders.keys.length = 2 &&
      pool.state.ordering.restockOrders.keys.length = 1) (by decide +kernel)
  have hrun : Run serviceAct anyStep _ trace pool := hplayed.mono fun _ _ _ _ => trivial
  rw [Bool.and_eq_true, decide_eq_true_eq, decide_eq_true_eq] at hcheck
  exact ⟨trace, pool, hrun, hcheck.1, hcheck.2, records_intact Sample.ordering_intact hrun⟩

/-- The confirm sets order-1 to PROCESSING after the start. -/
theorem records_continue_sample :
    ∃ trace pool, Run serviceAct anyStep ⟨Sample.bookings.map Request.thread, Sample.world⟩ trace pool ∧
      pool.state.ordering.status "order-1" = some .processing ∧
      Sample.world.ordering.Continues pool.state.ordering := by
  obtain ⟨trace, pool, hplayed, hcheck⟩ := run_of_play serviceAct (fun _ _ _ => true)
    ⟨Sample.bookings.map Request.thread, Sample.world⟩
    ([0, 1, 2, 0, 1, 2, 0, 2, 0].map fun index => (index, noFault))
    (fun _ pool => pool.state.ordering.status "order-1" = some .processing) (by decide +kernel)
  have hrun : Run serviceAct anyStep _ trace pool := hplayed.mono fun _ _ _ _ => trivial
  have hpasses : Passes serviceAct ⟨Sample.bookings.map Request.thread, Sample.world⟩
      ⟨Sample.bookings.map Request.thread, Sample.world⟩ pool := ⟨⟨[], .start⟩, trace, hrun⟩
  exact ⟨trace, pool, hrun, of_decide_eq_true hcheck, records_continue Sample.ordering_intact hpasses⟩

end AutoGrocery

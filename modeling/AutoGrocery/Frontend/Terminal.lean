import AutoGrocery.Frontend.Offload

/-!
What the truck frontend shows is so. A page that was told of its restock order finds it
registered for its supplier for good. The statuses it is told are PROCESSING up to a last
COMPLETED, which stays true, and OFFLOAD FAILED is never shown: no handler ever fails a
restock order.
-/

namespace AutoGrocery

open Interleaving Relational

/-- The restock order is stored, for the supplier of the form. -/
def OffloadForm.Registered (form : OffloadForm) (w : World) (orderID : OrderID) : Prop :=
  ∃ row, w.ordering.restockOrders.lookup orderID = some row ∧
    w.ordering.suppliers.lookup form.supplierID = some row.supplierID

/-- The restock order is COMPLETED. -/
def World.offloaded (w : World) (orderID : OrderID) : Prop :=
  ∃ row, w.ordering.restockOrders.lookup orderID = some row ∧ row.status = .completed

/-- The last status of a page that ends this way. -/
def OffloadEnd.last : OffloadEnd → List OrderStatus
  | .complete _ => [.completed]
  | _ => []

/-- What a page shows of its restock order is so. -/
structure OffloadForm.Watches (form : OffloadForm) (w : World) (orderID : OrderID)
    (telemetry : List OrderStatus) (finish : OffloadEnd) : Prop where
  registered : form.Registered w orderID
  watched : ∃ turns ≤ 120, telemetry = List.replicate turns .processing ++ finish.last
  completed : ∀ totalCost, finish = .complete totalCost → w.offloaded orderID
  unfailed : finish ≠ .failed

/-- A page tells the truth. A restock is refused with 400 only if a quantity is out of range. -/
def OffloadForm.Truthful (form : OffloadForm) (w : World) : OffloadScreen → Prop
  | .offloading orderID telemetry finish => form.Watches w orderID telemetry finish
  | .failure status => status = 500 ∨ status = 400 ∧ form.body = none
  | _ => True

/-! ### The rules of the trucks -/

/-- Records stay whole and no restock order fails. -/
structure World.Depot (w : World) : Prop where
  intact : w.ordering.Intact
  offloading : w.ordering.Offloading

/-- A statement has proper arguments. -/
def TruckOp.Allowed (w : World) (op : TruckOp) : Prop :=
  ∀ statement, op = .ordering (.store statement) → statement.Proper w.ordering ∧ statement.Offloads

/-- The operation is no statement of ordering. -/
def TruckOp.plain : TruckOp → Bool
  | .ordering (.store _) => false
  | _ => true

section

variable {w w' : World} {form : OffloadForm} {orderID : OrderID}

private theorem allowed_kept {op : TruckOp} {ans : TruckAns op} (hdepot : w.Depot) (hallowed : op.Allowed w)
    (hdoes : ∃ env, truckExec env op w = (ans, w')) : w.ordering.Continues w'.ordering ∧ w'.Depot := by
  obtain ⟨env, hexec⟩ := hdoes
  have hsame (h : w' = w) : w.ordering.Continues w'.ordering ∧ w'.Depot := by
    rw [h]
    exact ⟨.refl _, hdepot⟩
  cases op with
  | send => exact hsame (congrArg Prod.snd hexec).symm
  | receive => exact hsame (congrArg Prod.snd hexec).symm
  | newUUID => exact hsame (congrArg Prod.snd hexec).symm
  | restock op => exact hsame (congrArg Prod.snd hexec).symm
  | ordering op =>
      have hstate : w' = (orderingExec env.call op w).2 := (congrArg Prod.snd hexec).symm
      have hoffloads : op.Offloads := by
        cases op with
        | store statement => exact (hallowed statement rfl).2
        | _ => trivial
      rw [hstate]
      have hoffloading := orderingExec_offloading hoffloads env.call hdepot.offloading
      rcases orderingExec_change env.call op w with ⟨statement, rfl, _⟩ | hordering
      · have hgrown := storeExec_grown w.now env.call.mode hdepot.intact (hallowed statement rfl).1
        exact ⟨hgrown.continues, hgrown.intact, hoffloading⟩
      · rw [hordering]
        exact ⟨.refl _, by rw [hordering]; exact hdepot.intact, hoffloading⟩

/-- The rules of the truck frontend. -/
def depotRules : Rules TruckAns World where
  does w op ans w' := ∃ env, truckExec env op w = (ans, w')
  allowed w op := op.Allowed w
  invariant w := w.Depot
  later w w' := w.ordering.Continues w'.ordering
  refl w := .refl w.ordering
  trans := .trans
  kept := allowed_kept

theorem OffloadForm.Registered.later (hregistered : form.Registered w orderID)
    (hlater : w.ordering.Continues w'.ordering) : form.Registered w' orderID := by
  obtain ⟨row, hrow, hsupplier⟩ := hregistered
  obtain ⟨row', hrow', _, hsame, _⟩ := hlater.restocks hrow
  exact ⟨row', hrow', by rw [hsame]; exact hlater.suppliers hsupplier⟩

theorem World.offloaded.later (hoffloaded : w.offloaded orderID)
    (hlater : w.ordering.Continues w'.ordering) : w'.offloaded orderID := by
  obtain ⟨row, hrow, hcompleted⟩ := hoffloaded
  obtain ⟨row', hrow', _, _, _, rfl | hdone⟩ := hlater.restocks hrow
  · exact ⟨row', hrow', hcompleted⟩
  · exact ⟨row', hrow', hdone⟩

theorem OffloadForm.Truthful.later {screen : OffloadScreen} (htruthful : form.Truthful w screen)
    (hlater : w.ordering.Continues w'.ordering) : form.Truthful w' screen := by
  cases screen with
  | offloading orderID telemetry finish =>
      exact ⟨htruthful.registered.later hlater, htruthful.watched,
        fun totalCost hfinish => (htruthful.completed totalCost hfinish).later hlater, htruthful.unfailed⟩
  | _ => exact htruthful

/-- An operation of ordering in the name of a page. -/
private theorem does_ordering {op : OrderingOp} {ans : OrderingAns op}
    (hdoes : ∃ env, truckExec env (.ordering op) w = (ans, w')) :
    ∃ fault, (orderingExec fault op w).1 = ans ∧ w' = (orderingExec fault op w).2 := by
  obtain ⟨env, hexec⟩ := hdoes
  exact ⟨env.call, congrArg Prod.fst hexec, (congrArg Prod.snd hexec).symm⟩

/-! ### The requests of a page -/

/-- An operation that is no statement of ordering is always allowed. -/
private theorem keeps_plain {α : Type} {promised : World → α → Prop} {op : TruckOp}
    {next : TruckAns op → TruckProg α} (hplain : op.plain = true)
    (hnext : ∀ w' ans w'', w.ordering.Continues w'.ordering → w'.Depot →
      (∃ env, truckExec env op w' = (ans, w'')) → w'.ordering.Continues w''.ordering →
      (next ans).Keeps depotRules promised w'') : (Prog.call op next).Keeps depotRules promised w := by
  refine .perform (fun _ _ _ statement hop => ?_) fun w' ans w'' hlater hdepot hdoes hlater' _ =>
    hnext w' ans w'' hlater hdepot hdoes hlater'
  rw [hop] at hplain
  cases hplain

private theorem truckExchange_keeps {α : Type} {promised : World → α → Prop} {status : α → Option Nat}
    {server : TruckProg α} (hserver : server.Keeps depotRules promised w)
    (hstable : ∀ {w w' reply}, promised w reply → w.ordering.Continues w'.ordering → promised w' reply) :
    (truckExchange status server).Keeps depotRules
      (fun w answer => ∀ reply, answer = some reply → promised w reply) w := by
  refine hserver.roundTrip hstable (fun _ => ?_) fun _ => ?_
  · exact keeps_plain rfl fun _ _ _ _ _ _ _ => .ret trivial
  · exact keeps_plain rfl fun _ _ _ _ _ _ _ => .ret trivial

/-- A reply to a restock: it names a restock order that is registered, or it is a refusal. -/
private def Accepts (form : OffloadForm) (w : World) (reply : Reply) : Prop :=
  (∃ orderID data, reply = .http 201 data ∧ data.get "order_id" = some orderID ∧
    form.Registered w orderID) ∨
    ∃ status data, reply = .http status data ∧ (status = 500 ∨ status = 400 ∧ form.body = none)

private theorem Accepts.later {reply : Reply} (haccepts : Accepts form w reply)
    (hlater : w.ordering.Continues w'.ordering) : Accepts form w' reply := by
  rcases haccepts with ⟨orderID, data, hreply, hnamed, hregistered⟩ | hrefused
  · exact Or.inl ⟨orderID, data, hreply, hnamed, hregistered.later hlater⟩
  · exact Or.inr hrefused

private theorem refused_500 (message : String) : Accepts form w (httpError message 500) :=
  Or.inr ⟨500, .text message, rfl, Or.inl rfl⟩

/-- A truck's manifest is stored before it is accepted. -/
private theorem restockRoute_keeps (form : OffloadForm) :
    (restockRoute form).Keeps depotRules (Accepts form) w := by
  refine keeps_plain rfl fun _ restockUUID w' _ _ _ _ => ?_
  cases hbody : form.body with
  | none => exact .ret (Or.inr ⟨400, .text "Invalid JSON", rfl, Or.inr ⟨rfl, hbody⟩⟩)
  | some manifest =>
      have hnamed : manifest.supplierID = form.supplierID := by
        obtain ⟨items, _, rfl⟩ := Option.map_eq_some_iff.mp hbody
        rfl
      refine .perform (fun _ _ _ statement hop => ?_) fun first answer second _ _ hdoes _ _ => ?_
      · cases hop
        exact ⟨trivial, trivial⟩
      cases answer with
      | error err => exact .ret (refused_500 _)
      | ok supplierID =>
          have hsupplier : second.ordering.suppliers.lookup form.supplierID = some supplierID := by
            obtain ⟨fault, hanswer, rfl⟩ := does_ordering hdoes
            rw [← hnamed]
            exact getSupplierInternalID_supplies hanswer
          refine .perform (fun later hlater _ statement hop => ?_)
            fun third answer fourth hlater _ hdoes hlater' _ => ?_
          · cases hop
            exact ⟨⟨form.supplierID, hlater.suppliers hsupplier⟩, rfl⟩
          cases answer with
          | error err => exact .ret (refused_500 _)
          | ok value =>
              have hregistered : form.Registered fourth restockUUID := by
                obtain ⟨fault, hanswer, rfl⟩ := does_ordering hdoes
                obtain ⟨row, hrow, hsame⟩ := createRestockOrder_registers hanswer
                exact ⟨row, hrow, by rw [hsame]; exact hlater'.suppliers (hlater.suppliers hsupplier)⟩
              refine keeps_plain rfl fun _ answer last hlast _ _ hlast' => ?_
              cases answer with
              | error err => exact .ret (refused_500 _)
              | ok grpcResp =>
                  dsimp only
                  split
                  · exact .ret (refused_500 _)
                  · exact .ret (Or.inl ⟨restockUUID, _, rfl, rfl, (hregistered.later hlast).later hlast'⟩)

/-- A status that was read: PROCESSING, or COMPLETED for good. -/
private def Reads (orderID : OrderID) (w : World) (reply : RestockReply) : Prop :=
  ∀ data, reply = .success data →
    data.status = .processing ∨ data.status = .completed ∧ w.offloaded orderID

private theorem Reads.later {reply : RestockReply} (hreads : Reads orderID w reply)
    (hlater : w.ordering.Continues w'.ordering) : Reads orderID w' reply :=
  fun data hreply => (hreads data hreply).imp_right fun hdone => ⟨hdone.1, hdone.2.later hlater⟩

private theorem restockStatus_keeps (orderID : OrderID) :
    (Prog.lift TruckOp.restock (fun _ ans => ans) (restockStatus orderID) : TruckProg RestockReply).Keeps
      depotRules (Reads orderID) w := by
  unfold restockStatus
  split
  · exact .ret nofun
  refine keeps_plain rfl fun w' answer w'' _ hdepot hdoes hlater => ?_
  cases answer with
  | error err => exact .ret nofun
  | ok order =>
      refine .ret fun data hdata => ?_
      cases hdata
      obtain ⟨env, hexec⟩ := hdoes
      obtain ⟨row, hrow, hstatus⟩ := getRestockOrder_row (congrArg Prod.fst hexec)
      rw [hstatus]
      refine (hdepot.offloading orderID row hrow).imp_right fun hcompleted => ⟨hcompleted, ?_⟩
      exact World.offloaded.later ⟨row, hrow, hcompleted⟩ hlater

/-- A page that has seen PROCESSING only. -/
private theorem watches_open (hregistered : form.Registered w orderID) {seen : Nat} (hseen : seen ≤ 120)
    {finish : OffloadEnd} (hopen : finish.last = []) (hunfailed : finish ≠ .failed) :
    form.Truthful w (.offloading orderID (List.replicate seen .processing) finish) := by
  refine ⟨hregistered, ⟨seen, hseen, by rw [hopen, List.append_nil]⟩, ?_, hunfailed⟩
  rintro totalCost rfl
  cases hopen

/-- **The polling loop**, by induction on the turns that are left. -/
private theorem pollRestock_keeps (turns : Nat) {seen : Nat} (hseen : seen + turns ≤ 120)
    (hregistered : form.Registered w orderID) :
    (pollRestock orderID turns (List.replicate seen .processing)).Keeps depotRules form.Truthful w := by
  induction turns generalizing seen w with
  | zero => exact .ret (watches_open hregistered (by omega) rfl nofun)
  | succ turns ih =>
      refine (truckExchange_keeps (restockStatus_keeps orderID) Reads.later).bind
        fun w' answer hlater hreads => ?_
      have hstill := hregistered.later hlater
      rcases answer with _ | answer | data
      · exact .ret (watches_open hstill (by omega) rfl nofun)
      · exact ih (by omega) hstill
      · dsimp only
        rcases hreads _ rfl data rfl with hprocessing | ⟨hcompleted, hoffloaded⟩
        · rw [hprocessing, if_neg (by decide), if_neg (by decide), ← List.replicate_succ']
          exact ih (by omega) hstill
        · rw [if_pos hcompleted, hcompleted]
          exact .ret ⟨hstill, ⟨seen, by omega, rfl⟩, fun _ _ => hoffloaded, nofun⟩

/-- **The button.** -/
theorem offloadTruck_keeps (form : OffloadForm) :
    (offloadTruck form).Keeps depotRules form.Truthful w := by
  unfold offloadTruck
  split
  · exact .ret trivial
  split
  · exact .ret trivial
  refine (truckExchange_keeps (restockRoute_keeps form) Accepts.later).bind fun w' answer _ haccepts => ?_
  cases answer with
  | none => exact .ret trivial
  | some reply =>
      rcases haccepts reply rfl with
        ⟨orderID, data, rfl, hnamed, hregistered⟩ | ⟨status, data, rfl, hrefused⟩
      · have hpoll : (pollRestock ((data.get "order_id").getD "") 120 []).Keeps depotRules form.Truthful w' := by
          rw [hnamed]
          exact pollRestock_keeps 120 (Nat.le_refl 120) hregistered
        exact hpoll
      · rcases hrefused with rfl | ⟨rfl, hbody⟩
        · exact .ret (Or.inl rfl)
        · exact .ret (Or.inr ⟨rfl, hbody⟩)

/-! ### Every run -/

/-- A page keeps to the rules of the trucks, and a service fails no restock order. -/
def DepotThread.Lawful (w : World) : DepotThread → Prop
  | .truck form prog => prog.Keeps depotRules form.Truthful w
  | .service thread => thread.Offloads w.ordering

theorem DepotThread.Lawful.later {thread : DepotThread} (hlawful : thread.Lawful w)
    (hlater : w.ordering.Continues w'.ordering) : thread.Lawful w' := by
  cases thread with
  | truck form prog => exact Prog.Keeps.later hlawful hlater fun htruthful => htruthful.later
  | service thread => exact Thread.Offloads.continues hlawful hlater

/-- **The step lemma.** -/
theorem DepotThread.Lawful.step (hdepot : w.Depot) {thread : DepotThread} (hlawful : thread.Lawful w)
    {choice : DepotChoice} {move : Move DepotThread World DepotEvent}
    (hact : depotAct choice thread w = some move) :
    w.ordering.Continues move.state.ordering ∧ move.state.Depot ∧ move.thread.Lawful move.state ∧
      ∀ spawned ∈ move.spawned, spawned.Lawful move.state := by
  unfold depotAct at hact
  split at hact
  case h_1 env form op next =>
    cases hact
    obtain ⟨hlater, hdepot', hnext⟩ := Prog.Keeps.step hlawful hdepot ⟨env, rfl⟩
    exact ⟨hlater, hdepot', hnext, nofun⟩
  case h_2 fault thread =>
    obtain ⟨inner, hinner, hmove⟩ := Option.map_eq_some_iff.mp hact
    subst hmove
    obtain ⟨hgrown, hoffloading, hmover, hspawned⟩ :=
      Thread.Offloads.step hdepot.intact hdepot.offloading hlawful hinner
    refine ⟨hgrown.continues, ⟨hgrown.intact, hoffloading⟩, hmover, fun spawned hmem => ?_⟩
    obtain ⟨started, hstarted, rfl⟩ := List.mem_map.mp hmem
    exact hspawned started hstarted
  case h_3 => cases hact

/-- The records of the depot, and threads that keep to the rules. -/
private structure DepotKept (pool : Pool DepotThread World) : Prop where
  depot : pool.state.Depot
  threads : ∀ thread ∈ pool.threads, thread.Lawful pool.state

private theorem depotKept_opening (hdepot : w.Depot) (forms : List OffloadForm) (requests : List Request) :
    DepotKept (depotOpening forms requests w) := by
  refine ⟨hdepot, fun thread hthread => ?_⟩
  rcases List.mem_append.mp hthread with hthread | hthread
  · obtain ⟨form, _, rfl⟩ := List.mem_map.mp hthread
    exact offloadTruck_keeps form
  · obtain ⟨request, _, rfl⟩ := List.mem_map.mp hthread
    exact request.thread_offloads w.ordering

private theorem depotKept_run {start pool : Pool DepotThread World} {trace : List (Nat × DepotEvent)}
    (hstart : DepotKept start) (hrun : Run depotAct anyStep start trace pool) : DepotKept pool := by
  refine hrun.invariant (fun pool _ => DepotKept pool) hstart
    fun _ pool index thread choice move hkept hthread hact _ => ?_
  obtain ⟨hlater, hdepot, hmover, hspawned⟩ :=
    (hkept.threads thread (List.mem_of_getElem? hthread)).step hkept.depot hact
  refine ⟨hdepot, Pool.forall_threads_after (fun other hother => ?_) hmover hspawned⟩
  exact (hkept.threads other hother).later hlater

/-- **A truck's page tells the truth.** In every run of trucks that offload and of requests,
whatever gets lost or fails: the restock order a page shows is registered for the supplier
of its form; the page was told PROCESSING, 120 times at most, and COMPLETED at the end if
it shows a receipt, and then the order is COMPLETED for good. No page ever shows that an
offload failed, and none is refused with 400 unless a quantity is out of range. -/
theorem truck_pages_truthful {forms : List OffloadForm} {requests : List Request} (hintact : w.ordering.Intact)
    (hoffloading : w.ordering.Offloading) {trace : List (Nat × DepotEvent)} {pool : Pool DepotThread World}
    (hrun : Run depotAct anyStep (depotOpening forms requests w) trace pool) {screen : OffloadScreen}
    (hscreen : .truck form (.ret screen) ∈ pool.threads) :
    (∀ orderID telemetry finish, screen = .offloading orderID telemetry finish →
      form.Registered pool.state orderID ∧ finish ≠ .failed ∧
      (∃ turns ≤ 120, telemetry = List.replicate turns .processing ++ finish.last) ∧
      ∀ totalCost, finish = .complete totalCost → pool.state.offloaded orderID) ∧
    ∀ status, screen = .failure status → status = 500 ∨ status = 400 ∧ form.body = none := by
  have hkept := depotKept_run (depotKept_opening ⟨hintact, hoffloading⟩ forms requests) hrun
  have hthread : Prog.Keeps depotRules form.Truthful (.ret screen) pool.state := hkept.threads _ hscreen
  cases hthread with
  | ret htruthful =>
      constructor
      · rintro orderID telemetry finish rfl
        exact ⟨htruthful.registered, htruthful.unfailed, htruthful.watched, htruthful.completed⟩
      · rintro status rfl
        exact htruthful

end

/-! ### A truck of milk -/

namespace Sample

/-- Three units of milk. -/
def truckload : OffloadForm := ⟨"SUPP-1", "Dairy Farm", 0, 0, [⟨"milk", "Milk", "dairy", 3, 1⟩]⟩

def offloaded : ReportJobStatusRequest := ⟨"restock-1", .restock, "SUCCESS", ∅⟩

/-- The page sends its manifest and polls once before the robots report and once after. -/
def offloading : List (Nat × DepotChoice) :=
  let page : Nat × DepotChoice := (0, .truck { orderUUID := "restock-1" })
  List.replicate 9 page ++ ([1, 2, 3, 4, 5, 5, 5, 6, 6, 6, 6, 6].map fun index => (index, .service noFault)) ++
    List.replicate 3 page

/-- A page at its end. -/
def finished : DepotThread → Option (OffloadForm × OffloadScreen)
  | .truck form (.ret screen) => some (form, screen)
  | _ => none

theorem finished_eq_some {thread : DepotThread} {form : OffloadForm} {screen : OffloadScreen}
    (hfinished : finished thread = some (form, screen)) : thread = .truck form (.ret screen) := by
  unfold finished at hfinished
  split at hfinished
  · cases hfinished
    rfl
  · cases hfinished

theorem world_offloading : world.ordering.Offloading := fun _ _ hrow => nomatch hrow

end Sample

/-- The page shows its receipt. -/
theorem truck_pages_truthful_sample :
    ∃ trace pool, Run depotAct anyStep
        (depotOpening [Sample.truckload] (List.replicate 5 (.report Sample.offloaded)) Sample.world)
        trace pool ∧
      .truck Sample.truckload (.ret (.offloading "restock-1" [.processing, .completed] (.complete 3))) ∈
        pool.threads ∧
      Sample.truckload.Registered pool.state "restock-1" ∧ pool.state.offloaded "restock-1" := by
  obtain ⟨trace, pool, hplayed, hcheck⟩ := run_of_play depotAct (fun _ _ _ => true)
    (depotOpening [Sample.truckload] (List.replicate 5 (.report Sample.offloaded)) Sample.world)
    Sample.offloading (fun _ pool => (pool.threads.head?.bind Sample.finished) = some (Sample.truckload,
      .offloading "restock-1" [.processing, .completed] (.complete 3))) (by decide +kernel)
  have hrun : Run depotAct anyStep _ trace pool := hplayed.mono fun _ _ _ _ => trivial
  obtain ⟨thread, hthread, hfinished⟩ := Option.bind_eq_some_iff.mp (of_decide_eq_true hcheck)
  have hscreen := List.mem_of_mem_head? hthread
  rw [Sample.finished_eq_some hfinished] at hscreen
  obtain ⟨hregistered, _, _, hcompleted⟩ :=
    (truck_pages_truthful Sample.ordering_intact Sample.world_offloading hrun hscreen).1 _ _ _ rfl
  exact ⟨trace, pool, hrun, hscreen, hregistered, hcompleted 3 rfl⟩

end AutoGrocery

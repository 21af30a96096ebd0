import AutoGrocery.Catalog.Holdings

/-!
Every SKU in stock has a price or will get one. A restock finalization puts rows
into stock first and hands their metrics to a goroutine later, so for a while a
SKU can be sold that pricing does not know. As long as that is so, a thread of
the system still has the metric of the SKU to hand on or to deliver.
-/

namespace AutoGrocery

open Interleaving InventoryHandler

/-! ### One step -/

/-- A step without a fault. A delivery does not fail when a price cannot be stored, so
each `UpsertItem` of its loop is asked to work as well. -/
def uninterrupted (pool : Pool Thread World) (_ : Nat) : ServiceEvent → Bool
  | .inventory ⟨.updateStockMetrics updates, .ok _⟩ =>
      ((PricingHandler.updateItems updates 0).run (pricingExec .works) pool.state.catalog).value =
        updates.length
  | event => !event.faulty

/-- What a step does, as far as rows and prices go. -/
structure ShelfStep (w : World) (move : Move Thread World ServiceEvent) : Prop where
  reserved : Reserved move.state
  rows : ∀ sku ∈ w.stock, sku ∈ move.state.stock
  prices : ∀ sku ∈ w.catalog.rows, sku ∈ move.state.catalog.rows
  mover : Stocked move.state.stock move.thread
  spawned : ∀ spawned ∈ move.spawned, Stocked move.state.stock spawned
  added : ∀ sku ∈ move.state.stock, sku ∈ w.stock ∨ move.thread.Owes sku

section

variable {w : World} {thread : Thread} {move : Move Thread World ServiceEvent}

private theorem uninterrupted_fine {pool : Pool Thread World} {index : Nat} {event : ServiceEvent}
    (hallowed : uninterrupted pool index event = true) : event.faulty = false := by
  unfold uninterrupted at hallowed
  split at hallowed
  · rfl
  · rwa [Bool.not_eq_true'] at hallowed

/-- A step of ordering. -/
private theorem ordering_step (hreserved : Reserved w) {op : OrderingOp}
    {next : OrderingAns op → OrderingProg}
    (hact : steadyAct () (.ordering (.call op next)) w = some move) (hfine : move.event.faulty = false)
    (hpos : ∀ req, op = .reserveItems req → req.items.Positive)
    (hcreate : ∀ order items, op = .store (.createGroceryOrder order items) →
      ∀ item ∈ items, item.sku ∈ w.stock)
    (hprocess : ∀ req, op = .processCustomerOrder req → ∀ sku ∈ req.items, sku ∈ w.stock)
    (hmover : Stocked w.stock (.ordering (next (orderingExec .works op w).1))) : ShelfStep w move := by
  cases hact
  obtain ⟨hrows, hcatalog⟩ := orderingExec_rows hpos hfine
  constructor
  case reserved => exact hreserved.ordering hpos hcreate hprocess hfine
  case rows => exact fun sku => (hrows sku).mpr
  case prices => exact fun sku hsku => hcatalog ▸ hsku
  case mover => exact hmover.mono fun sku => (hrows sku).mpr
  case spawned =>
    intro spawned hspawned
    cases hspawned
  case added => exact fun sku hsku => Or.inl ((hrows sku).mp hsku)

/-- A preview. -/
private theorem preview_shelf (hreserved : Reserved w) {user : Int} {orderID : OrderID} {items : ItemMap}
    {phase : PreviewPhase} (hpos : items.Positive) (hat : PreviewAt user orderID items phase thread)
    (hitems : phase = .creating → ∀ sku ∈ items, sku ∈ w.stock)
    (hact : steadyAct () thread w = some move) (hfine : move.event.faulty = false) :
    ShelfStep w move := by
  cases hat with
  | created _ => cases hact
  | refused _ => cases hact
  | reserving hgranted hrejected =>
      apply ordering_step hreserved hact hfine
      · intro req heq
        cases heq
        exact hpos
      · intro order lines heq
        cases heq
      · intro req heq
        cases heq
      · obtain ⟨⟨resp, hanswer, hgrant⟩, _⟩ :=
          reserveItems_works (show (ReserveItemsRequest.mk orderID items).items.Positive from hpos) w
        rw [hanswer]
        rcases hgrant with ⟨hsuccess, hstocked, _⟩ | ⟨hfailed, _⟩
        · exact .preview hpos (hgranted _ hsuccess) fun _ => hstocked
        · exact .preview hpos (hrejected _ hfailed) fun hphase => by cases hphase
  | creating hcreated hfailed =>
      apply ordering_step hreserved hact hfine
      · intro req heq
        cases heq
      · intro order lines heq item hitem
        cases heq
        obtain ⟨entry, hentry, rfl⟩ := List.mem_map.mp hitem
        exact hitems rfl entry.1 (List.mem_map_of_mem hentry)
      · intro req heq
        cases heq
      · cases (orderingExec .works (.store (.createGroceryOrder (previewedOrder user orderID)
          (orderLines items))) w).1 with
        | error err => exact .preview hpos (hfailed err) fun hphase => by cases hphase
        | ok value => exact .preview hpos hcreated fun hphase => by cases hphase

/-- What a confirm or cancel has read names SKUs with a row, and so does the map
it dispatches. -/
private theorem ClientRule.stocked (hreserved : Reserved w) {user : Int} {orderID : OrderID}
    {phase phase' : ClientPhase} {op : OrderingOp}
    (hrule : ClientRule user orderID phase op (orderingExec .works op w).1 phase')
    (hphase : phase.Stocked w.stock) :
    phase'.Stocked w.stock ∧ (∀ req, op ≠ .reserveItems req) ∧
      (∀ order items, op ≠ .store (.createGroceryOrder order items)) ∧
      ∀ req, op = .processCustomerOrder req → ∀ sku ∈ req.items, sku ∈ w.stock := by
  generalize hanswer : (orderingExec .works op w).1 = answer at hrule
  cases hrule with
  | reserve items answer => exact hphase.elim
  | create items answer => exact hphase.elim
  | refuse answer => simp [ClientPhase.Stocked]
  | own order howner => simp [ClientPhase.Stocked]
  | load answer =>
      refine ⟨fun dbItems hok => ?_, by simp, by simp, by simp⟩
      rw [getOrderItems_works, hok] at hanswer
      exact hreserved.read hanswer
  | write held status answer => exact ⟨hphase, by simp, by simp, by simp⟩
  | dispatch dbItems answer =>
      refine ⟨hphase, by simp, by simp, fun req heq sku hsku => ?_⟩
      cases heq
      obtain ⟨item, hitem, rfl⟩ := mem_protoItems hsku
      exact hphase dbItems rfl item hitem
  | release held answer => exact ⟨hphase, by simp, by simp, by simp⟩
  | delete held answer => exact ⟨hphase, by simp, by simp, by simp⟩

/-- A confirm or a cancel. -/
private theorem later_shelf (hreserved : Reserved w) {user : Int} {orderID : OrderID}
    {phase : ClientPhase} {prog : OrderingProg} (hfollows : prog.Follows (ClientRule user orderID) phase)
    (hphase : phase.Stocked w.stock) (hact : steadyAct () (.ordering prog) w = some move)
    (hfine : move.event.faulty = false) : ShelfStep w move := by
  cases prog with
  | ret reply => cases hact
  | call op next =>
      obtain ⟨phase', hrule, hnext⟩ := hfollows (orderingExec .works op w).1
      obtain ⟨hphase', hreserve, hcreate, hprocess⟩ := hrule.stocked hreserved hphase
      exact ordering_step hreserved hact hfine (fun req heq => absurd heq (hreserve req))
        (fun order items heq => absurd heq (hcreate order items)) hprocess (.later hnext hphase')

/-- A truck's request. -/
private theorem truck_shelf (hreserved : Reserved w) {prog : OrderingProg}
    (huses : prog.Uses (fun op => op.names = none)) (hact : steadyAct () (.ordering prog) w = some move)
    (hfine : move.event.faulty = false) : ShelfStep w move := by
  cases huses with
  | ret reply => cases hact
  | @call op next hop hnext =>
      apply ordering_step hreserved hact hfine
      · intro req heq
        cases heq
        cases hop
      · intro order items heq
        cases heq
        cases hop
      · intro req heq
        cases heq
        cases hop
      · exact .truck (hnext _)

/-- A step of a callback, of a finalization or of a delivery. -/
private theorem inventory_step (hreserved : Reserved w) {op : InventoryOp}
    {next : InventoryAns op → InventoryProg Unit}
    (hact : steadyAct () (.inventory (.call op next)) w = some move) (hop : isCallbackOp op)
    (hmover : Stocked w.stock (.inventory (next (inventoryExec .works op w).1)))
    (hupsert : ∀ item, op = .upsertStock item →
      (Thread.inventory (next (inventoryExec .works op w).1)).Owes item.sku) : ShelfStep w move := by
  cases hact
  have hrows (sku : SKU) := @inventoryExec_rows .works op w sku
  constructor
  case reserved => exact hreserved.callback .works hop
  case rows => exact fun sku => (hrows sku).2
  case prices => exact inventoryExec_prices w op
  case mover => exact hmover.mono fun sku => (hrows sku).2
  case spawned =>
    intro spawned hspawned
    obtain ⟨prog, hprog, rfl⟩ := List.mem_map.mp hspawned
    exact goroutines_stocked _ _ prog hprog
  case added =>
    intro sku hsku
    rcases (hrows sku).1 hsku with hold | ⟨item, rfl, rfl⟩
    · exact Or.inl hold
    · exact Or.inr (hupsert item rfl)

/-- A callback, or the finalization of a client order. -/
private theorem callback_shelf (hreserved : Reserved w) {phase : CartPhase} {prog : InventoryProg Unit}
    (hfollows : prog.Follows CartRule phase) (hphase : phase.Stocked w.stock)
    (hact : steadyAct () (.inventory prog) w = some move) : ShelfStep w move := by
  cases prog with
  | ret value => cases hact
  | call op next =>
      obtain ⟨phase', hrule, hnext⟩ := hfollows (inventoryExec .works op w).1
      have hrule' : isCallbackOp op ∧ (∀ item, op ≠ .upsertStock item) ∧ phase'.Stocked w.stock := by
        generalize hanswer : (inventoryExec .works op w).1 = answer at hrule
        cases hrule with
        | plain phase answer hop => cases op <;> first | exact hop.elim | exact ⟨hop, by simp, hphase⟩
        | read orderID items =>
            exact ⟨trivial, by simp, fun sku hsku => hreserved.saved orderID items hanswer sku hsku⟩
        | unread orderID err => exact ⟨trivial, by simp, trivial⟩
        | bill items answer => exact ⟨trivial, by simp, hphase⟩
      obtain ⟨hop, hupsert, hphase'⟩ := hrule'
      exact inventory_step hreserved hact hop (.callback hnext hphase')
        fun item heq => absurd heq (hupsert item)

/-- A restock finalization. -/
private theorem restock_shelf (hreserved : Reserved w) {phase : MetricsPhase} {prog : InventoryProg Unit}
    (hat : RestockAt phase prog) (hact : steadyAct () (.inventory prog) w = some move)
    (hfine : move.event.faulty = false) : ShelfStep w move := by
  cases prog with
  | ret value => cases hact
  | call op next =>
      have hanswered : InventoryAns.faulty op (inventoryExec .works op w).1 = false := by
        cases hact
        exact hfine
      obtain ⟨phase', hrule, hnext⟩ := hat.step (inventoryExec .works op w).1
      have hrule' : isCallbackOp op ∧ ∀ item, op = .upsertStock item → phase'.Lists item.sku := by
        generalize hanswer : (inventoryExec .works op w).1 = answer at hrule
        cases hrule with
        | upsert latest pi =>
            refine ⟨trivial, fun item heq => ?_⟩
            cases heq
            exact (AList.mem_insert latest).mpr (Or.inl rfl)
        | skip latest pi err =>
            -- an upsert fails only by a fault
            have hok := (upsertStock_works w (stockItem pi) hanswered).1
            cases hok.symm.trans hanswer
        | close answer hop => cases op <;> first | exact hop.elim | exact ⟨hop, by simp⟩
        | _ => exact ⟨trivial, by simp⟩
      exact inventory_step hreserved hact hrule'.1 (.restock hnext)
        fun item heq => .restock hnext (hrule'.2 item heq)

/-- **The step lemma.** -/
theorem Stocked.step (hstocked : Stocked w.stock thread) (hreserved : Reserved w)
    (hact : steadyAct () thread w = some move) (hfine : move.event.faulty = false) : ShelfStep w move := by
  cases hstocked with
  | preview hpos hat hitems => exact preview_shelf hreserved hpos hat hitems hact hfine
  | later hfollows hphase => exact later_shelf hreserved hfollows hphase hact hfine
  | truck huses => exact truck_shelf hreserved huses hact hfine
  | callback hfollows hphase => exact callback_shelf hreserved hfollows hphase hact
  | restock hat => exact restock_shelf hreserved hat hact hfine

/-- A thread that owes the metric of a SKU in stock still owes it after its step,
has handed it to a goroutine, or has delivered it. -/
theorem Thread.Owes.step {sku : SKU} {pool : Pool Thread World} {index : Nat} (howes : thread.Owes sku)
    (hsku : sku ∈ pool.state.stock) (hact : steadyAct () thread pool.state = some move)
    (hallowed : uninterrupted pool index move.event = true) :
    sku ∈ move.state.catalog.rows ∨ move.thread.Owes sku ∨
      ∃ spawned ∈ move.spawned, spawned.Owes sku := by
  cases howes with
  | @restock phase prog hat hlists =>
      cases prog with
      | ret value => cases hact
      | call op next =>
          cases hact
          obtain ⟨phase', hrule, hnext⟩ := hat.step (inventoryExec .works op pool.state).1
          suffices howed : phase'.Lists sku ∨ ∃ metrics, op = .goUpdateStockMetrics metrics ∧
              sku ∈ metrics.map StockMetric.sku by
            rcases howed with hlists' | ⟨metrics, rfl, hmetrics⟩
            · exact Or.inr (Or.inl (.restock hnext hlists'))
            · exact Or.inr (Or.inr ⟨_, List.mem_singleton.mpr rfl, .delivery hmetrics⟩)
          generalize hanswer : (inventoryExec .works op pool.state).1 = answer at hrule
          cases hrule with
          | load orderID items => exact hlists.elim
          | unloaded orderID err => exact hlists.elim
          | upsert latest pi => exact Or.inl ((AList.mem_insert latest).mpr (Or.inr hlists))
          | skip latest pi err => exact Or.inl hlists
          | readBack latest currentItems =>
              cases hanswer
              exact Or.inl (mem_stockMetrics hlists hsku)
          | unread latest err => cases hanswer
          | launch metrics => exact Or.inr ⟨metrics, rfl, hlists⟩
          | launchNone => cases hlists
          | close answer hop => exact hlists.elim
  | @delivery metrics hmetrics =>
      unfold asyncStockMetrics at hact
      split at hact
      · cases hact
      · cases hact
        left
        change uninterrupted pool index (.inventory ⟨.updateStockMetrics metrics,
          (inventoryExec .works (.updateStockMetrics metrics) pool.state).1⟩) = true at hallowed
        show sku ∈ (inventoryExec .works (.updateStockMetrics metrics) pool.state).2.catalog.rows
        rw [updateStockMetrics_works] at hallowed ⊢
        have hcount := of_decide_eq_true hallowed
        refine (updateItems_run metrics 0 pool.state.catalog).2.2 ?_ sku hmetrics
        rw [zero_add]
        exact hcount

end

/-! ### Runs -/

/-- The invariant: item lists name SKUs with a row of stock, and such a SKU has a
row of the catalog or its metric is on its way. -/
structure Shelved (pool : Pool Thread World) : Prop where
  reserved : Reserved pool.state
  threads : ∀ thread ∈ pool.threads, Stocked pool.state.stock thread
  priced : ∀ sku ∈ pool.state.stock, sku ∈ pool.state.catalog.rows ∨
    ∃ thread ∈ pool.threads, thread.Owes sku

section

variable {w : World} {pool : Pool Thread World} {index : Nat} {thread : Thread}
  {move : Move Thread World ServiceEvent}

theorem Shelved.step (hshelved : Shelved pool) (hthread : pool.threads[index]? = some thread)
    (hact : steadyAct () thread pool.state = some move)
    (hallowed : uninterrupted pool index move.event = true) : Shelved (pool.after index move) := by
  have hmem := List.mem_of_getElem? hthread
  have hstep := (hshelved.threads thread hmem).step hshelved.reserved hact (uninterrupted_fine hallowed)
  have hmover : move.thread ∈ (pool.after index move).threads :=
    List.mem_of_getElem? (Pool.mover_after hthread move)
  constructor
  case reserved => exact hstep.reserved
  case threads =>
    exact Pool.forall_threads_after (fun other hother => (hshelved.threads other hother).mono hstep.rows)
      hstep.mover hstep.spawned
  case priced =>
    intro sku hsku
    rcases hstep.added sku hsku with hold | howes
    · rcases hshelved.priced sku hold with hprice | ⟨owing, howing, howes⟩
      · exact Or.inl (hstep.prices sku hprice)
      · obtain ⟨found, hfound⟩ := List.getElem?_of_mem howing
        by_cases heq : found = index
        · subst heq
          obtain rfl := Option.some.inj (hthread.symm.trans hfound)
          rcases howes.step hold hact hallowed with hprice | hstill | ⟨spawned, hspawned, hhanded⟩
          · exact Or.inl hprice
          · exact Or.inr ⟨_, hmover, hstill⟩
          · exact Or.inr ⟨spawned, List.mem_append_right _ hspawned, hhanded⟩
        · exact Or.inr ⟨owing, List.mem_of_getElem? (Pool.other_after hfound heq move), howes⟩
    · exact Or.inr ⟨_, hmover, howes⟩

/-- A bill is made out for items with a row of stock, and fails only for one
without a row of the catalog. -/
private theorem Stocked.bills (hstocked : Stocked w.stock thread)
    (hact : steadyAct () thread w = some move) {cart : List CartItem} {err : GoError}
    (hbill : move.event = .inventory ⟨.calculateBill cart, .error err⟩) :
    ∃ line ∈ cart, line.sku ∈ w.stock ∧ line.sku ∉ w.catalog.rows := by
  rcases serviceAct_eq_some hact with ⟨op, next, rfl, rfl⟩ | ⟨op, next, rfl, rfl⟩
  · cases hbill
  have hfailed (hop : op = .calculateBill cart)
      (hrows : ∀ line ∈ cart, line.sku ∈ w.stock) :
      ∃ line ∈ cart, line.sku ∈ w.stock ∧ line.sku ∉ w.catalog.rows := by
    subst hop
    by_contra hnone
    have hlisted : ∀ line ∈ cart, line.sku ∈ w.catalog.rows := by
      intro line hline
      by_contra hmissing
      exact hnone ⟨line, hline, hrows line hline, hmissing⟩
    obtain ⟨resp, hok, _⟩ := (calculateBill_call .works cart w.catalog).2.1 ⟨rfl, rfl, hlisted⟩
    have hanswer : (inventoryExec .works (.calculateBill cart) w).1 = .ok resp := hok
    rw [show noFault.2 = .works from rfl, hanswer] at hbill
    cases hbill
  have hop : op = .calculateBill cart := congrArg Event.op (ServiceEvent.inventory.inj hbill)
  cases hstocked with
  | preview _ hat => cases hat
  | @callback phase prog hfollows hphase =>
      obtain ⟨phase', hrule, _⟩ := hfollows (inventoryExec .works op w).1
      generalize (inventoryExec .works op w).1 = answer at hrule
      cases hrule with
      | plain phase answer hplain =>
          rw [hop] at hplain
          exact hplain.elim
      | read orderID items => cases hop
      | unread orderID err => cases hop
      | bill items answer =>
          cases hop
          refine hfailed rfl fun line hline => ?_
          obtain ⟨entry, hentry, rfl⟩ := List.mem_map.mp hline
          exact hphase entry.1 (List.mem_map_of_mem hentry)
  | restock hat =>
      obtain ⟨phase', hrule, _⟩ := hat.step (inventoryExec .works op w).1
      generalize (inventoryExec .works op w).1 = answer at hrule
      cases hrule with
      | close answer hclosing =>
          rw [hop] at hclosing
          exact hclosing.elim
      | _ => cases hop

private theorem request_stocked {request : Request} (hpos : request.positive = true) (stock : StockTable) :
    Stocked stock request.thread := by
  have hended {reply : Reply} : Stocked stock (.ordering (.ret reply)) := .truck (.ret reply)
  cases request with
  | client userID request =>
      cases userID with
      | none => cases request <;> exact hended
      | some user =>
          cases request with
          | preview body orderUUID =>
              rcases previewOrder_at (some user) body orderUUID with
                ⟨_, cart, _, hbody, hat⟩ | ⟨reply, hreply, _⟩
              · subst hbody
                exact .preview (of_decide_eq_true hpos) hat fun hphase => by cases hphase
              · show Stocked stock (.ordering (previewOrder (some user) body orderUUID))
                rw [hreply]
                exact hended
          | confirm body =>
              rcases (ClientRequest.confirm body).handle_follows user with ⟨reply, hreply⟩ | ⟨_, _, hfollows⟩
              · rw [Request.thread, hreply]
                exact hended
              · exact .later hfollows trivial
          | cancel orderID =>
              rcases (ClientRequest.cancel orderID).handle_follows user with ⟨reply, hreply⟩ | ⟨_, _, hfollows⟩
              · rw [Request.thread, hreply]
                exact hended
              · exact .later hfollows trivial
  | restock body restockUUID => exact .truck (restockOrder_uses body restockUUID)
  | report req =>
      exact @Stocked.callback stock .idle _
        (plain_follows ((reportJobStatus_plain req).bind fun _ => .ret _)) trivial

variable {requests : List Request} {trace : List (Nat × ServiceEvent)}

/-- **Everything sellable has a price or is awaited.** However the requests of
clients, trucks and robots and the finalizations they start interleave without a
fault: a SKU in stock has a row of the catalog, or its metric is on its way to
pricing. So a bill fails only for a SKU whose metric is still on its way. -/
theorem unpriced_awaited (hreserved : Reserved w) (hpriced : ∀ sku ∈ w.stock, sku ∈ w.catalog.rows)
    (hpos : ∀ request ∈ requests, request.positive = true)
    (hrun : Run steadyAct (fun pool index event => uninterrupted pool index event = true)
      ⟨requests.map Request.thread, w⟩ trace pool) :
    (∀ sku ∈ pool.state.stock, sku ∈ pool.state.catalog.rows ∨
        ∃ thread ∈ pool.threads, thread.Owes sku) ∧
      ∀ (index : Nat) (thread : Thread) (move : Move Thread World ServiceEvent) (cart : List CartItem)
        (message : String), pool.threads[index]? = some thread →
        steadyAct () thread pool.state = some move →
        move.event = .inventory ⟨.calculateBill cart, .error (.notFound message)⟩ →
        ∃ line ∈ cart, line.sku ∉ pool.state.catalog.rows ∧
          ∃ thread ∈ pool.threads, thread.Owes line.sku := by
  have hstart : Shelved ⟨requests.map Request.thread, w⟩ := by
    refine ⟨hreserved, fun thread hthread => ?_, fun sku hsku => Or.inl (hpriced sku hsku)⟩
    obtain ⟨request, hrequest, rfl⟩ := List.mem_map.mp hthread
    exact request_stocked (hpos request hrequest) w.stock
  have hshelved := hrun.invariant (fun pool _ => Shelved pool) hstart
    fun _ _ _ _ _ _ hinv hthread hact hallowed => hinv.step hthread hact hallowed
  refine ⟨hshelved.priced, fun index thread move cart message hthread hact hbill => ?_⟩
  obtain ⟨line, hline, hstock, hmissing⟩ :=
    (hshelved.threads thread (List.mem_of_getElem? hthread)).bills hact hbill
  exact ⟨line, hline, hmissing, (hshelved.priced line.sku hstock).resolve_left hmissing⟩

end

/-! ### On one delivery -/

namespace Sample

/-- Nothing in stock, nothing in the catalog. -/
def unopened : World :=
  { world with ordering := .empty, stock := ∅, catalog := ⟨∅, 1⟩ }

/-- A truck brings five units of milk, which the robots unload, and client 7
orders two of them, which the robots pick. -/
def supply : List Request :=
  [.restock (some ⟨"supplier", [⟨"milk", "Milk", "dairy", 5, 1, 0, 0⟩]⟩) "restock-1"] ++
    List.replicate 5 (.report ⟨"restock-1", .restock, "NO_OP", ∅⟩) ++
    [.client (some 7) (.preview (some [⟨"milk", 2⟩]) "order-1"),
      .client (some 7) (.confirm (some "order-1"))] ++ List.replicate 5 (.report report)

/-- The truck is unloaded up to the upsert of its milk. -/
def unloading : List (Nat × Unit) :=
  [0, 0, 0, 1, 2, 3, 4, 5, 5, 5, 13, 13].map fun i => (i, ())

/-- The order is previewed, confirmed and picked, up to its bill. -/
def selling : List (Nat × Unit) :=
  [6, 6, 7, 7, 7, 7, 8, 9, 10, 11, 12, 12, 12, 14, 14].map fun i => (i, ())

theorem unopened_reserved : Reserved unopened := by
  constructor
  · intro line hline
    cases hline
  · intro orderID items hsaved
    cases hsaved

end Sample

/-- The milk is in stock, and its metric is on its way. -/
theorem unpriced_awaited_sample :
    ∃ trace pool, Run steadyAct (fun pool index event => uninterrupted pool index event = true)
        ⟨Sample.supply.map Request.thread, Sample.unopened⟩ trace pool ∧
      "milk" ∉ pool.state.catalog.rows ∧ ∃ thread ∈ pool.threads, thread.Owes "milk" := by
  obtain ⟨trace, pool, hrun, hcheck⟩ := run_of_play steadyAct uninterrupted
    ⟨Sample.supply.map Request.thread, Sample.unopened⟩ Sample.unloading
    (fun _ pool => decide ("milk" ∈ pool.state.stock) && decide ("milk" ∉ pool.state.catalog.rows))
    (by decide +kernel)
  rw [Bool.and_eq_true, decide_eq_true_eq, decide_eq_true_eq] at hcheck
  have hpriced : ∀ sku ∈ Sample.unopened.stock, sku ∈ Sample.unopened.catalog.rows := fun _ => id
  have hshelved := (unpriced_awaited Sample.unopened_reserved hpriced (by decide) hrun).1 "milk" hcheck.1
  exact ⟨trace, pool, hrun, hcheck.2, hshelved.resolve_left hcheck.2⟩

private def isUnpriced : ServiceEvent → Bool
  | .inventory ⟨.calculateBill _, .error (.notFound _)⟩ => true
  | _ => false

/-- Two units of the milk are ordered and picked before its metric is handed on:
the bill of the order fails. -/
theorem unpriced_bill :
    ∃ trace pool, Run steadyAct (fun pool index event => uninterrupted pool index event = true)
        ⟨Sample.supply.map Request.thread, Sample.unopened⟩ trace pool ∧
      ∃ index cart message,
        (index, .inventory ⟨.calculateBill cart, .error (.notFound message)⟩) ∈ trace := by
  obtain ⟨trace, pool, hrun, hcheck⟩ := run_of_play steadyAct uninterrupted
    ⟨Sample.supply.map Request.thread, Sample.unopened⟩ (Sample.unloading ++ Sample.selling)
    (fun trace _ => trace.any fun step => isUnpriced step.2) (by decide +kernel)
  obtain ⟨⟨index, event⟩, hmem, hevent⟩ := List.any_eq_true.mp hcheck
  have hunpriced : ∃ cart message,
      event = .inventory ⟨.calculateBill cart, .error (.notFound message)⟩ := by
    dsimp only at hevent
    unfold isUnpriced at hevent
    split at hevent
    · exact ⟨_, _, rfl⟩
    · cases hevent
  obtain ⟨cart, message, rfl⟩ := hunpriced
  exact ⟨trace, pool, hrun, index, cart, message, hmem⟩

end AutoGrocery

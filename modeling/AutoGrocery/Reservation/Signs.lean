import AutoGrocery.Orders.Callbacks
import AutoGrocery.Orders.Cart
import AutoGrocery.Orders.Preview

/-!
The signs of quantities. No handler checks a quantity it decodes, and the table
has no check either. A reserve statement for a negative quantity adds units, and
an upsert of one takes them away. As long as no SKU in stock is asked for in a
negative quantity and no upsert is negative, previews only take, restocks only
add, and no quantity of the table becomes negative. A preview takes what its cart
lists if the lines of a SKU add up to the last of them, which is all it asks for.
-/

namespace AutoGrocery

open Interleaving InventoryHandler Relational

/-- What a request asks for has a sign that the statement can honour: no SKU in
stock is asked for in a negative quantity, and a request the table covers lists
no negative quantity and no SKU without a row. -/
structure WellSigned (stock : StockTable) (items : ItemMap) : Prop where
  nonneg : ∀ sku ∈ items, 0 < stock.available sku → 0 ≤ items.units sku
  covered : stock.Covers items → ∀ sku ∈ items, sku ∈ stock ∧ 0 ≤ items.units sku

instance (stock : StockTable) (items : ItemMap) : Decidable (WellSigned stock items) :=
  decidable_of_iff
    ((∀ sku ∈ items.keys, 0 < stock.available sku → 0 ≤ items.units sku) ∧
      (stock.Covers items → ∀ sku ∈ items.keys, sku ∈ stock ∧ 0 ≤ items.units sku))
    ⟨fun h => ⟨h.1, h.2⟩, fun h => ⟨h.nonneg, h.covered⟩⟩

/-- No quantity of the table is negative. -/
def StockTable.NonNeg (stock : StockTable) : Prop := ∀ sku, 0 ≤ stock.available sku

section

variable {stock stock' : StockTable} {requests reserved : ItemMap}

/-- The statement takes no more than there is, and never a negative quantity. -/
private theorem takes_bounds (hnonneg : stock.NonNeg) (hsigned : WellSigned stock requests)
    (sku : SKU) : 0 ≤ stock.takes requests sku ∧ stock.takes requests sku ≤ stock.available sku := by
  refine ⟨?_, StockTable.takes_le_available requests (hnonneg sku)⟩
  unfold StockTable.takes
  split
  · rename_i h
    exact le_min h.1.le (hsigned.nonneg sku h.2 h.1)
  · exact le_refl 0

/-- A granted request was covered, and the statement took what it listed. -/
private theorem granted_takes (hnonneg : stock.NonNeg) (hsigned : WellSigned stock requests)
    (hok : stock.reserveStock requests = .ok (reserved, stock'))
    (hgranted : allReserved requests reserved = true) :
    stock.Covers requests ∧
      ∀ sku ∈ requests, sku ∈ stock ∧ stock.takes requests sku = requests.units sku := by
  have htakes := (StockTable.allReserved_iff_takes hok).mp hgranted
  have hcovers : stock.Covers requests := fun sku hsku =>
    (htakes sku hsku).trans (takes_bounds hnonneg hsigned sku).2
  refine ⟨hcovers, fun sku hsku => ?_⟩
  obtain ⟨hrow, hunits⟩ := hsigned.covered hcovers sku hsku
  refine ⟨hrow, le_antisymm ?_ (htakes sku hsku)⟩
  unfold StockTable.takes
  split
  · exact min_le_right _ _
  · exact hunits

/-- What a reservation may do to the table: it takes units and leaves none
negative. -/
def TakesOnly (stock stock' : StockTable) : Prop :=
  stock'.NonNeg ∧ ∀ sku, stock'.available sku ≤ stock.available sku

private theorem takesOnly_refl (hnonneg : stock.NonNeg) : TakesOnly stock stock :=
  ⟨hnonneg, fun _ => le_refl _⟩

private theorem takesOnly_reserve (hnonneg : stock.NonNeg) (hsigned : WellSigned stock requests)
    (hok : stock.reserveStock requests = .ok (reserved, stock')) : TakesOnly stock stock' := by
  obtain ⟨_, havailable, _⟩ := StockTable.reserveStock_ok hok
  constructor
  · intro sku
    have hbounds := takes_bounds hnonneg hsigned sku
    rw [havailable]
    omega
  · intro sku
    have hbounds := takes_bounds hnonneg hsigned sku
    rw [havailable]
    omega

/-- After its statement a reservation gives back what it took, or keeps it. -/
private theorem afterReserve_signed {req : ReserveItemsRequest} {w : World}
    (hnonneg : w.stock.NonNeg) (hsigned : WellSigned w.stock req.items)
    (hok : w.stock.reserveStock req.items = .ok (reserved, stock')) (script : List (CallFault Fault)) :
    TakesOnly w.stock ((afterReserve req (.ok reserved)).run (scripted inventoryExec .works)
      ({ w with stock := stock' }, script)).state.1.stock := by
  have htaken := takesOnly_reserve hnonneg hsigned hok
  have hundo := StockTable.releaseStock_reserveStock hok
  unfold afterReserve
  dsimp only
  split
  · exact htaken
  split
  · have hreleased : (World.onStock (fun stock =>
        (stock.releaseStock reserved).map fun stock => ((), stock))
        { w with stock := stock' }).2.stock = w.stock := by
      rw [World.onStock, hundo]
      rfl
    have hrelease := (script.headD .works).mode.run_state "failed to release stock: "
      (World.onStock fun stock => (stock.releaseStock reserved).map fun stock => ((), stock))
      { w with stock := stock' }
    show TakesOnly w.stock ((script.headD .works).mode.run "failed to release stock: "
      (World.onStock fun stock => (stock.releaseStock reserved).map fun stock => ((), stock))
      { w with stock := stock' }).2.stock
    rcases hrelease with h | h
    · rw [h]
      exact htaken
    · rw [h, hreleased]
      exact takesOnly_refl hnonneg
  · exact htaken

/-- `ReserveItems` at its server, under any faults. -/
private theorem reserveItems_server_signed {req : ReserveItemsRequest} {w : World}
    (hnonneg : w.stock.NonNeg) (hsigned : WellSigned w.stock req.items)
    (server : List (CallFault Fault)) :
    TakesOnly w.stock ((reserveItems req).run (scripted inventoryExec .works)
      (w, server)).state.1.stock := by
  unfold reserveItems
  split
  · exact takesOnly_refl hnonneg
  split
  · exact takesOnly_refl hnonneg
  rw [Prog.run_call]
  simp only [scripted, inventoryExec]
  cases hok : w.stock.reserveStock req.items with
  | error err =>
      have hstock : World.onStock (fun stock => stock.reserveStock req.items) w = (.error err, w) := by
        rw [World.onStock, hok]
      cases (server.headD .works).mode with
      | works =>
          simp only [Fault.run_works, hstock]
          exact takesOnly_refl hnonneg
      | fails message => exact takesOnly_refl hnonneg
      | loses message =>
          simp only [Fault.run, hstock]
          exact takesOnly_refl hnonneg
  | ok result =>
      obtain ⟨reserved, stock'⟩ := result
      have hstock : World.onStock (fun stock => stock.reserveStock req.items) w =
          (.ok reserved, { w with stock := stock' }) := by
        rw [World.onStock, hok]
      cases (server.headD .works).mode with
      | works =>
          simp only [Fault.run_works, hstock]
          exact afterReserve_signed hnonneg hsigned hok server.tail
      | fails message => exact takesOnly_refl hnonneg
      | loses message =>
          simp only [Fault.run, hstock]
          exact takesOnly_reserve hnonneg hsigned hok

/-- The call of `ReserveItems`, under any faults. -/
private theorem reserveItems_signed {req : ReserveItemsRequest} {w : World}
    (hnonneg : w.stock.NonNeg) (hsigned : WellSigned w.stock req.items)
    (fault : CallFault (CallFault Fault)) :
    let answer := orderingExec fault (.reserveItems req) w
    TakesOnly w.stock answer.2.stock ∧
    (isGrant answer.1 = true → w.stock.Covers req.items ∧ ∀ sku ∈ req.items, sku ∈ w.stock ∧
      answer.2.stock.available sku = w.stock.available sku - req.items.units sku) := by
  intro answer
  constructor
  · have htakes := reserveItems_server_signed hnonneg hsigned fault.server
    cases hreaches : fault.mode.reaches with
    | false =>
        have hstate : answer.2 = w := CallFault.call_unreached _ _ _ _ hreaches
        rw [hstate]
        exact takesOnly_refl hnonneg
    | true =>
        have hstate : answer.2 = _ := CallFault.call_state _ _ _ _ hreaches
        rw [hstate]
        exact htakes
  · intro hgrant
    cases hanswer : answer.1 with
    | error err =>
        rw [hanswer] at hgrant
        cases hgrant
    | ok resp =>
        rw [hanswer] at hgrant
        obtain ⟨reserved, stock', hreserve, hgranted, hafter⟩ := reserveItems_granted hanswer hgrant
        obtain ⟨hcovers, htakes⟩ := granted_takes hnonneg hsigned hreserve hgranted
        refine ⟨hcovers, fun sku hsku => ⟨(htakes sku hsku).1, ?_⟩⟩
        rw [show answer.2 = _ from hafter, ← (htakes sku hsku).2]
        exact (StockTable.reserveStock_ok hreserve).2.1 sku

end

/-! ### What the other operations do -/

/-- The operations of preview and truck restock requests. -/
def isStockRequestOp : OrderingOp → Prop
  | .releaseItems _ => False
  | _ => True

/-- Every operation of these requests but `ReserveItems` leaves stock alone. -/
private theorem orderingExec_stock {op : OrderingOp} (hop : isStockRequestOp op)
    (hreserve : ∀ req, op ≠ .reserveItems req) (fault : CallFault (CallFault Fault)) (w : World) :
    (orderingExec fault op w).2.stock = w.stock := by
  have hcall {α : Type} {prog : InventoryProg (Except GoError α)}
      (huses : prog.Uses fun op => op.writes ≠ some .stock) :
      (fault.call inventoryExec .works prog w).2.stock = w.stock :=
    fault.call_preserves inventoryExec .works (fun w' => w'.stock = w.stock)
      (fun _ _ _ hop h => (inventoryExec_stock hop).trans h) huses rfl
  cases op with
  | store op => rfl
  | reserveItems req => exact absurd rfl (hreserve req)
  | releaseItems req => exact hop.elim
  | processCustomerOrder req =>
      apply hcall
      apply (processCustomerOrder_uses req).mono
      rintro op (rfl | hnone | ⟨dbItems, rfl⟩)
      · simp [InventoryOp.writes]
      · simp [hnone]
      · simp [InventoryOp.writes]
  | restockItemsOrder req =>
      apply hcall
      apply (restockItemsOrder_uses req).mono
      rintro op (rfl | rfl) <;> simp [InventoryOp.writes]

/-- An upsert of a quantity that is not negative adds units at most. -/
private theorem upsertStock_signed {item : StockItem} {w : World}
    (hquantity : 0 ≤ item.quantity.toInt) (fault : CallFault Fault) (sku : SKU) :
    w.stock.available sku ≤ (inventoryExec fault (.upsertStock item) w).2.stock.available sku := by
  have hstate := fault.mode.run_state "failed to upsert stock: " (World.onStock fun stock =>
    (stock.upsertStock item).map fun stock => ((), stock)) w
  show _ ≤ (fault.mode.run _ _ w).2.stock.available sku
  rcases hstate with h | h
  · rw [h]
  · rw [h, World.onStock]
    cases hok : w.stock.upsertStock item with
    | error err => exact le_refl _
    | ok stock' =>
        show _ ≤ stock'.available sku
        rw [(StockTable.upsertStock_ok hok).1]
        split <;> omega

/-! ### Runs of preview and restock requests -/

/-- A request of the HTTP API, or a robot's report, which may start the
finalization of a restock. -/
inductive StockRequest where
  | preview (userID : Option Int) (body : Option (List CartItem)) (orderUUID : OrderID)
  | restock (body : Option TruckManifest) (restockUUID : OrderID)
  | report (req : ReportJobStatusRequest)

def StockRequest.thread : StockRequest → Thread
  | .preview userID body orderUUID => .ordering (previewOrder userID body orderUUID)
  | .restock body restockUUID => .ordering (restockOrder body restockUUID)
  | .report req => reportThread req

def stockPool (requests : List StockRequest) (w : World) : Pool Thread World :=
  ⟨requests.map StockRequest.thread, w⟩

/-- The lines of a SKU add up to the last of them, as they do when it stands in one. -/
def StockRequest.addsUp : StockRequest → Bool
  | .preview _ (some cart) _ => decide (∀ sku ∈ cart.map CartItem.sku,
      cartUnits cart sku = lastWeight CartItem.sku (fun item => item.quantity.toInt) cart sku)
  | _ => true

/-- The quantities of a step have signs the statements can honour, and a cart the stock
covers adds up. -/
def signSafe (requests : List StockRequest) (pool : Pool Thread World) (index : Nat) : ServiceEvent → Bool
  | .ordering ⟨.reserveItems req, _⟩ => decide (WellSigned pool.state.stock req.items) &&
      (!decide (pool.state.stock.Covers req.items) || requests[index]?.all StockRequest.addsUp)
  | .inventory ⟨.upsertStock item, _⟩ => decide (0 ≤ item.quantity.toInt)
  | _ => true

/-- Runs of steps that are safe. -/
abbrev SafeRun (requests : List StockRequest) (w : World) :
    List (Nat × ServiceEvent) → Pool Thread World → Prop :=
  Run serviceAct (fun pool index event => signSafe requests pool index event = true) (stockPool requests w)

/-- What a step does to stock: a step of a preview or restock request takes at
most, a step of a finalization adds at most, and a granted reservation takes
exactly what it lists, from rows that exist and cover it. -/
structure SignedStep (w : World) (event : ServiceEvent) (w' : World) : Prop where
  nonneg : w'.stock.NonNeg
  takes : ∀ request, event = .ordering request → ∀ sku, w'.stock.available sku ≤ w.stock.available sku
  adds : ∀ callback, event = .inventory callback →
    ∀ sku, w.stock.available sku ≤ w'.stock.available sku
  grants : ∀ orderUUID items, Granted orderUUID items event → w.stock.Covers items ∧
    ∀ sku ∈ items, sku ∈ w.stock ∧ w'.stock.available sku = w.stock.available sku - items.units sku

/-- A thread of preview and restock requests and of callbacks. -/
def Thread.SignSafe : Thread → Prop
  | .ordering prog => prog.Uses isStockRequestOp
  | .inventory prog => prog.Uses isCallbackOp

section

variable {w : World} {pool : Pool Thread World} {index : Nat} {thread : Thread}
  {fault : ServiceFault} {move : Move Thread World ServiceEvent}

private theorem Thread.IsCallback.signSafe (hthread : thread.IsCallback) : thread.SignSafe := by
  cases thread with
  | ordering prog => exact hthread.elim
  | inventory prog => exact hthread

/-- A step that leaves stock alone and is no grant. -/
private theorem signedStep_of_stock {w' : World} {event : ServiceEvent} (hnonneg : w.stock.NonNeg)
    (hstock : w'.stock = w.stock) (hevent : ∀ orderUUID items, ¬ Granted orderUUID items event) :
    SignedStep w event w' := by
  refine ⟨hstock ▸ hnonneg, fun _ _ sku => ?_, fun _ _ sku => ?_,
    fun orderUUID items h => absurd h (hevent orderUUID items)⟩
  · rw [hstock]
  · rw [hstock]

/-- What an operation of a callback does to stock. -/
private theorem callbackOp_signed {op : InventoryOp} {ans : InventoryAns op} (hop : isCallbackOp op)
    (hnonneg : w.stock.NonNeg) (hsigned : ∀ item, op = .upsertStock item → 0 ≤ item.quantity.toInt)
    (fault : CallFault Fault) :
    SignedStep w (.inventory ⟨op, ans⟩) (inventoryExec fault op w).2 := by
  have hgrant : ∀ orderUUID items, ¬ Granted orderUUID items (.inventory ⟨op, ans⟩) := by
    rintro orderUUID items ⟨answer, hevent, _⟩
    cases hevent
  by_cases hupsert : ∃ item, op = .upsertStock item
  · obtain ⟨item, rfl⟩ := hupsert
    have hadds := upsertStock_signed (w := w) (hsigned item rfl) fault
    exact ⟨fun sku => (hnonneg sku).trans (hadds sku), fun _ h => absurd h (by simp), fun _ _ => hadds,
      fun orderUUID items h => absurd h (hgrant orderUUID items)⟩
  · refine signedStep_of_stock hnonneg (inventoryExec_stock fun hwrites => ?_) hgrant
    cases op <;> simp only [InventoryOp.writes, Option.some.injEq, reduceCtorEq] at hwrites
    case reserveStock requests => exact hop
    case releaseStock returns => exact hop
    case upsertStock item => exact hupsert ⟨item, rfl⟩

/-- What an operation of a request does to stock. -/
private theorem stockRequestOp_signed {op : OrderingOp} (hop : isStockRequestOp op)
    (hnonneg : w.stock.NonNeg)
    (hsigned : ∀ req, op = .reserveItems req → WellSigned w.stock req.items)
    (fault : CallFault (CallFault Fault)) :
    SignedStep w (.ordering ⟨op, (orderingExec fault op w).1⟩) (orderingExec fault op w).2 := by
  by_cases hreserve : ∃ req, op = .reserveItems req
  · obtain ⟨req, rfl⟩ := hreserve
    obtain ⟨⟨hnonneg', htakes⟩, hgranted⟩ := reserveItems_signed hnonneg (hsigned req rfl) fault
    refine ⟨hnonneg', fun _ _ => htakes, fun _ h => absurd h (by simp), ?_⟩
    rintro orderUUID items ⟨answer, hevent, hgrant⟩
    cases hevent
    exact hgranted hgrant
  · refine signedStep_of_stock hnonneg
      (orderingExec_stock hop (fun req h => hreserve ⟨req, h⟩) fault w) ?_
    rintro orderUUID items ⟨answer, hevent, _⟩
    cases hevent
    exact hreserve ⟨_, rfl⟩

/-- **The step lemma.** -/
theorem Thread.SignSafe.step (hsafe : thread.SignSafe) (hnonneg : pool.state.stock.NonNeg)
    (hact : serviceAct fault thread pool.state = some move)
    {requests : List StockRequest} (hsigned : signSafe requests pool index move.event = true) :
    SignedStep pool.state move.event move.state ∧ move.thread.SignSafe ∧
      ∀ spawned ∈ move.spawned, spawned.SignSafe := by
  cases thread with
  | inventory prog =>
      have hcallback : (Thread.inventory prog).IsCallback := hsafe
      obtain ⟨op, ans, hevent, hop, hstate, hthread, hspawned⟩ := hcallback.step hact
      rw [hevent] at hsigned
      rw [hevent, hstate]
      refine ⟨callbackOp_signed hop hnonneg (fun item h => ?_) fault.2, hthread.signSafe,
        fun spawned h => (hspawned spawned h).signSafe⟩
      subst h
      exact of_decide_eq_true hsigned
  | ordering prog =>
      rcases serviceAct_eq_some hact with ⟨op, next, hprog, rfl⟩ | ⟨_, _, hprog, _⟩
      · cases hprog
        cases hsafe with
        | call hop hnext =>
            refine ⟨stockRequestOp_signed hop hnonneg (fun req h => ?_) fault.1, hnext _, by simp⟩
            subst h
            exact of_decide_eq_true (Bool.and_eq_true_iff.mp hsigned).1
      · cases hprog

private theorem previewOrder_uses (userID : Option Int) (body : Option (List CartItem))
    (orderUUID : OrderID) : (previewOrder userID body orderUUID).Uses isStockRequestOp := by
  cases userID with
  | none => exact .ret _
  | some user =>
      cases body with
      | none => exact .ret _
      | some cart =>
          refine .call trivial fun answer => ?_
          cases answer with
          | error err => exact .ret _
          | ok resp =>
              dsimp only
              split
              · exact .ret _
              · refine .call trivial fun answer => ?_
                cases answer <;> exact .ret _

private theorem restockOrder_requestOps (body : Option TruckManifest) (restockUUID : OrderID) :
    (restockOrder body restockUUID).Uses isStockRequestOp := by
  cases body with
  | none => exact .ret _
  | some manifest =>
      refine .call trivial fun answer => ?_
      cases answer with
      | error err => exact .ret _
      | ok supplierID =>
          refine .call trivial fun answer => ?_
          cases answer with
          | error err => exact .ret _
          | ok value =>
              refine .call trivial fun answer => ?_
              cases answer with
              | error err => exact .ret _
              | ok resp =>
                  dsimp only
                  split <;> exact .ret _

theorem StockRequest.signSafe (request : StockRequest) : request.thread.SignSafe := by
  cases request with
  | preview userID body orderUUID => exact previewOrder_uses userID body orderUUID
  | restock body restockUUID => exact restockOrder_requestOps body restockUUID
  | report req => exact (reportThread_isCallback req).signSafe

/-- A step of the thread has taken from each SKU of the cart the units the cart lists, from
a row that was there. -/
def Took (requests : List StockRequest) (w : World) (trace : List (Nat × ServiceEvent)) (index : Nat)
    (cart : List CartItem) : Prop :=
  ∃ (before after : List (Nat × ServiceEvent)) (earlier : Pool Thread World) (thread : Thread)
    (fault : ServiceFault) (move : Move Thread World ServiceEvent),
    trace = before ++ (index, move.event) :: after ∧ SafeRun requests w before earlier ∧
    earlier.threads[index]? = some thread ∧ serviceAct fault thread earlier.state = some move ∧
    ∀ sku ∈ cart.map CartItem.sku, sku ∈ earlier.state.stock ∧
      move.state.stock.available sku = earlier.state.stock.available sku - cartUnits cart sku

/-- A preview request that is about to create its order, or answered 201, has taken its cart. -/
def PreviewTook (requests : List StockRequest) (w : World) (trace : List (Nat × ServiceEvent))
    (index : Nat) (body : Option (List CartItem)) (orderUUID : OrderID) (thread : Thread) : Prop :=
  (∃ user cart phase, body = some cart ∧ PreviewAt user orderUUID (cartMap cart) phase thread ∧
    (phase = .creating ∨ phase = .created → Took requests w trace index cart)) ∨
  ∃ reply, thread = .ordering (.ret reply) ∧ reply.status ≠ some 201

/-- What holds in every state of a run. -/
structure SignsKept (requests : List StockRequest) (w : World) (pool : Pool Thread World)
    (trace : List (Nat × ServiceEvent)) : Prop where
  run : SafeRun requests w trace pool
  stock : pool.state.stock.NonNeg
  threads : ∀ thread ∈ pool.threads, thread.SignSafe
  previews : ∀ index userID body orderUUID,
    requests[index]? = some (.preview userID body orderUUID) →
    ∃ thread, pool.threads[index]? = some thread ∧ PreviewTook requests w trace index body orderUUID thread

variable {requests : List StockRequest} {trace : List (Nat × ServiceEvent)}

private theorem signsKept_start (hstart : w.stock.NonNeg) :
    SignsKept requests w (stockPool requests w) [] := by
  refine ⟨.start, hstart, fun thread hthread => ?_, fun index userID body orderUUID hrequest => ?_⟩
  · obtain ⟨request, _, rfl⟩ := List.mem_map.mp hthread
    exact request.signSafe
  · refine ⟨.ordering (previewOrder userID body orderUUID), ?_, ?_⟩
    · rw [stockPool, List.getElem?_map, hrequest]
      rfl
    · rcases previewOrder_at userID body orderUUID with ⟨user, cart, _, hbody, hat⟩ | ⟨reply, hret, h⟩
      · exact Or.inl ⟨user, cart, _, hbody, hat, by simp⟩
      · exact Or.inr ⟨reply, congrArg Thread.ordering hret, h⟩

/-- What was taken stays in the trace. -/
private theorem Took.snoc {cart : List CartItem} (htook : Took requests w trace index cart)
    (step : Nat × ServiceEvent) : Took requests w (trace ++ [step]) index cart := by
  obtain ⟨before, after, earlier, thread, fault, move, rfl, hrest⟩ := htook
  exact ⟨before, after ++ [step], earlier, thread, fault, move, by simp, hrest⟩

/-- A grant takes the cart, if the cart adds up. -/
private theorem SignedStep.took {userID : Option Int} {cart : List CartItem} {orderUUID : OrderID}
    (hstep : SignedStep pool.state move.event move.state) (hrun : SafeRun requests w trace pool)
    (hrequest : requests[index]? = some (.preview userID (some cart) orderUUID))
    (hthread : pool.threads[index]? = some thread)
    (hact : serviceAct fault thread pool.state = some move)
    (hsigned : signSafe requests pool index move.event = true)
    (hgrant : Granted orderUUID (cartMap cart) move.event) :
    Took requests w (trace ++ [(index, move.event)]) index cart := by
  obtain ⟨hcovers, htakes⟩ := hstep.grants orderUUID (cartMap cart) hgrant
  have hadds : ∀ sku ∈ cart.map CartItem.sku,
      cartUnits cart sku = lastWeight CartItem.sku (fun item => item.quantity.toInt) cart sku := by
    obtain ⟨answer, hevent, _⟩ := hgrant
    rw [hevent] at hsigned
    have hadds := (Bool.and_eq_true_iff.mp hsigned).2
    rw [decide_eq_true hcovers, hrequest] at hadds
    exact of_decide_eq_true hadds
  refine ⟨trace, [], pool, thread, fault, move, rfl, hrun, hthread, hact, fun sku hsku => ?_⟩
  rw [hadds sku hsku, ← cartMap_units]
  exact htakes sku (mem_cartMap.mpr hsku)

/-- A step of a preview request keeps what is known of what it took. -/
private theorem PreviewTook.step {userID : Option Int} {body : Option (List CartItem)} {orderUUID : OrderID}
    (htook : PreviewTook requests w trace index body orderUUID thread)
    (hstep : SignedStep pool.state move.event move.state) (hrun : SafeRun requests w trace pool)
    (hrequest : requests[index]? = some (.preview userID body orderUUID))
    (hthread : pool.threads[index]? = some thread)
    (hact : serviceAct fault thread pool.state = some move)
    (hsigned : signSafe requests pool index move.event = true) :
    PreviewTook requests w (trace ++ [(index, move.event)]) index body orderUUID move.thread := by
  rcases htook with ⟨user, cart, phase, rfl, hat, hgrant⟩ | ⟨reply, rfl, _⟩
  · obtain ⟨_, phase', hat', hpreview⟩ := hat.step hact
    refine Or.inl ⟨user, cart, phase', rfl, hat', fun hphase => ?_⟩
    have htaken := hstep.took hrun hrequest hthread hact hsigned
    generalize move.state = w' at hpreview
    cases hpreview with
    | grant _ hevent => exact htaken hevent
    | reject _ => simp at hphase
    | create _ => exact (hgrant (Or.inl rfl)).snoc _
    | fail _ _ => simp at hphase
  · cases hact

private theorem SignsKept.step (hkept : SignsKept requests w pool trace)
    (hthread : pool.threads[index]? = some thread)
    (hact : serviceAct fault thread pool.state = some move)
    (hsigned : signSafe requests pool index move.event = true) :
    SignsKept requests w (pool.after index move) (trace ++ [(index, move.event)]) := by
  obtain ⟨hstep, hmover, hspawned⟩ :=
    (hkept.threads thread (List.mem_of_getElem? hthread)).step hkept.stock hact hsigned
  refine ⟨.move index fault hkept.run hthread hact hsigned, hstep.nonneg,
    Pool.forall_threads_after hkept.threads hmover hspawned,
    fun found userID body orderUUID hrequest => ?_⟩
  obtain ⟨previewer, hfound, htook⟩ := hkept.previews found userID body orderUUID hrequest
  by_cases hindex : found = index
  · subst hindex
    obtain rfl := Option.some.inj (hfound.symm.trans hthread)
    exact ⟨move.thread, Pool.mover_after hthread move,
      htook.step hstep hkept.run hrequest hthread hact hsigned⟩
  · refine ⟨previewer, Pool.other_after hfound hindex move, ?_⟩
    rcases htook with ⟨user, cart, phase, hbody, hat, htaken⟩ | hrefused
    · exact Or.inl ⟨user, cart, phase, hbody, hat, fun hphase => (htaken hphase).snoc _⟩
    · exact Or.inr hrefused

/-- **Well-signed requests keep the signs of stock.** Take any number of preview
and truck restock requests and reports, with any quantities, and a run under any
faults in which every quantity that reaches a statement has a sign the statement
can honour, and every cart the stock covers adds up. No quantity of the table is
negative in any state; no step of a preview or restock request raises one; no
step of a finalization lowers one; and every preview that answered 201 has taken
from each SKU of its cart the units the cart lists, from a row that exists. -/
theorem signs_kept (hstart : w.stock.NonNeg) (hrun : SafeRun requests w trace pool) :
    pool.state.stock.NonNeg ∧
    (∀ index thread fault move, pool.threads[index]? = some thread →
      serviceAct fault thread pool.state = some move →
      signSafe requests pool index move.event = true → SignedStep pool.state move.event move.state) ∧
    (∀ index userID body orderUUID reply,
      requests[index]? = some (.preview userID body orderUUID) →
      pool.threads[index]? = some (.ordering (.ret reply)) → reply.status = some 201 →
      ∃ cart, body = some cart ∧ Took requests w trace index cart) := by
  have hkept := hrun.invariant (SignsKept requests w) (signsKept_start hstart)
    fun _ _ _ _ _ _ hkept hthread hact hsigned => hkept.step hthread hact hsigned
  refine ⟨hkept.stock, fun index thread fault move hthread hact hsigned => ?_,
    fun index userID body orderUUID reply hrequest hthread hstatus => ?_⟩
  · exact ((hkept.threads thread (List.mem_of_getElem? hthread)).step hkept.stock hact hsigned).1
  · obtain ⟨thread, hfound, htook⟩ := hkept.previews index userID body orderUUID hrequest
    obtain rfl := Option.some.inj (hfound.symm.trans hthread)
    rcases htook with ⟨user, cart, phase, hbody, hat, htaken⟩ | ⟨other, hother, hnot⟩
    · refine ⟨cart, hbody, htaken ?_⟩
      cases hat with
      | created _ => exact Or.inr rfl
      | refused hnot => exact absurd hstatus hnot
    · cases hother
      exact absurd hstatus hnot

end

/-! ### Small runs -/

private theorem sample_nonneg : Sample.world.stock.NonNeg := by
  intro sku
  show 0 ≤ StockTable.available ((∅ : StockTable).insert "milk" _) sku
  rw [StockTable.available_insert]
  split
  · decide
  · exact le_refl 0

/-- The status a thread answered. -/
private def Thread.answered : Thread → Option Nat
  | .ordering (.ret reply) => reply.status
  | _ => none

private theorem Thread.answered_eq_some {thread : Thread} {status : Nat}
    (hanswered : thread.answered = some status) :
    ∃ reply, thread = .ordering (.ret reply) ∧ reply.status = some status := by
  unfold answered at hanswered
  split at hanswered
  · exact ⟨_, rfl, hanswered⟩
  · cases hanswered

/-- A restock of nine units of milk that the robots finish, and a preview of three. -/
def Sample.deliveryAndPreview : List StockRequest :=
  .restock (some ⟨"supplier-1", [⟨"milk", "Milk", "dairy", 9, 1, 0, 0⟩]⟩) "restock-1" ::
    .preview (some 7) (some [⟨"milk", 3⟩]) "order-2" ::
    List.replicate 5 (.report ⟨"restock-1", .restock, "NO_OP", ∅⟩)

/-- The restock is finalized, and then the preview takes three of fourteen units. -/
theorem signs_kept_sample :
    ∃ trace pool, SafeRun Sample.deliveryAndPreview Sample.world trace pool ∧
      pool.state.stock.NonNeg ∧ pool.state.stock.available "milk" = 11 ∧
      Took Sample.deliveryAndPreview Sample.world trace 1 [⟨"milk", 3⟩] := by
  obtain ⟨trace, pool, hrun, hcheck⟩ := run_of_play serviceAct (signSafe Sample.deliveryAndPreview)
    (stockPool Sample.deliveryAndPreview Sample.world)
    ([0, 0, 0, 2, 3, 4, 5, 6, 6, 6, 7, 7, 1, 1].map fun index => (index, noFault))
    (fun _ pool => decide (pool.state.stock.available "milk" = 11) &&
      decide (pool.threads[1]?.bind Thread.answered = some 201)) (by decide +kernel)
  rw [Bool.and_eq_true, decide_eq_true_eq, decide_eq_true_eq] at hcheck
  obtain ⟨hnonneg, _, htook⟩ := signs_kept sample_nonneg hrun
  obtain ⟨thread, hthread, hanswered⟩ := Option.bind_eq_some_iff.mp hcheck.2
  obtain ⟨reply, rfl, hstatus⟩ := Thread.answered_eq_some hanswered
  obtain ⟨cart, hcart, htaken⟩ := htook 1 _ _ _ reply rfl hthread hstatus
  obtain rfl := Option.some.inj hcart
  exact ⟨trace, pool, hrun, hnonneg, hcheck.1, htaken⟩

/-- A preview of minus three units of milk answers 201 and adds three units, and
a restock of minus nine leaves minus four. -/
theorem signs_not_kept :
    ∃ (previews restocks : List StockRequest) (w : World)
      (trace trace' : List (Nat × ServiceEvent)) (pool pool' : Pool Thread World),
      w.stock.NonNeg ∧
      Run serviceAct (fun _ _ event => event.faulty = false) (stockPool previews w) trace pool ∧
      previews = [.preview (some 7) (some [⟨"milk", -3⟩]) "order-2"] ∧
      w.stock.available "milk" = 5 ∧ pool.state.stock.available "milk" = 8 ∧
      pool.threads.map Thread.answered = [some 201] ∧
      Run serviceAct (fun _ _ event => event.faulty = false) (stockPool restocks w) trace' pool' ∧
      pool'.state.stock.available "milk" = -4 := by
  obtain ⟨trace, pool, hrun, hcheck⟩ := run_of_play serviceAct (fun _ _ event => !event.faulty)
    (stockPool [.preview (some 7) (some [⟨"milk", -3⟩]) "order-2"] Sample.world)
    [(0, noFault), (0, noFault)] (fun _ pool => decide (pool.state.stock.available "milk" = 8) &&
      decide (pool.threads.map Thread.answered = [some 201])) (by decide +kernel)
  obtain ⟨trace', pool', hrun', hcheck'⟩ := run_of_play serviceAct (fun _ _ event => !event.faulty)
    (stockPool (.restock (some ⟨"supplier-1", [⟨"milk", "Milk", "dairy", -9, 1, 0, 0⟩]⟩) "restock-1" ::
      List.replicate 5 (.report ⟨"restock-1", .restock, "NO_OP", ∅⟩)) Sample.world)
    ([0, 0, 0, 1, 2, 3, 4, 5, 5, 5, 6, 6].map fun i => (i, noFault))
    (fun _ pool => decide (pool.state.stock.available "milk" = -4)) (by decide +kernel)
  rw [Bool.and_eq_true, decide_eq_true_eq, decide_eq_true_eq] at hcheck
  exact ⟨_, _, Sample.world, trace, trace', pool, pool', sample_nonneg,
    hrun.mono fun _ _ event h => by simpa using h, rfl, by decide +kernel, hcheck.1, hcheck.2,
    hrun'.mono fun _ _ event h => by simpa using h, of_decide_eq_true hcheck'⟩

end AutoGrocery

import AutoGrocery.Reservation.AllOrNothing

/-!
Reservations as a ledger. Any number of `ReserveItems` calls, of `ReleaseItems`
calls that give a granted reservation back, and of restock loops act on the
stock table, one statement at a time and in any order. A unit that was in the
table at the start or upserted later is on its row, in a granted reservation,
or with a call that got too few and is about to give them back.
-/

namespace AutoGrocery

open Interleaving InventoryHandler

/-- The users of the stock table. A reserving thread keeps its request, so that
a granted one can be given back. -/
inductive StockThread where
  | reserving (req : ReserveItemsRequest)
      (prog : InventoryProg (Except GoError ReserveItemsResponse))
  | releasing (prog : InventoryProg (Except GoError ReleaseItemsResponse))
  | upserting (prog : InventoryProg RestockTotals)

/-- The first operation of a program, and what the thread is after it. -/
def firstStatement {α : Type} (wrap : InventoryProg α → StockThread) :
    InventoryProg α → Option ((op : InventoryOp) × (InventoryAns op → StockThread))
  | .ret _ => none
  | .call op next => some ⟨op, fun ans => wrap (next ans)⟩

/-- The operation a thread performs next. A granted reservation may turn into
the `ReleaseItems` call that gives back what was requested. -/
def StockThread.next? :
    StockThread → Option ((op : InventoryOp) × (InventoryAns op → StockThread))
  | .reserving req (.ret (.ok resp)) =>
      if resp.success then firstStatement .releasing (releaseItems ⟨req.orderID, req.items⟩)
      else none
  | .reserving req prog => firstStatement (.reserving req) prog
  | .releasing prog => firstStatement .releasing prog
  | .upserting prog => firstStatement .upserting prog

/-- One step on the stock table. A step that fails is no step. -/
def stockAct : Act Unit StockThread World (Event InventoryAns) := fun _ thread w =>
  match thread.next? with
  | none => none
  | some ⟨op, next⟩ =>
      let answer := inventoryExec .works op w
      if InventoryAns.faulty op answer.1 then none
      else some ⟨⟨op, answer.1⟩, next answer.1, [], answer.2⟩

namespace StockThread

/-- The units of a granted reservation that was not given back: all that were
requested. -/
def granted (sku : SKU) : StockThread → Int
  | .reserving req (.ret (.ok resp)) => if resp.success then req.items.units sku else 0
  | _ => 0

/-- The units a call took and has yet to give back. -/
def waiting (sku : SKU) : StockThread → Int
  | .reserving _ (.call (.releaseStock returns) _) => returns.units sku
  | _ => 0

end StockThread

/-- The units of a SKU an operation upserts. -/
def upsertedBy (sku : SKU) : InventoryOp → Int
  | .upsertStock item => if sku = item.sku then item.quantity.toInt else 0
  | _ => 0

/-- The units of a SKU upserted in a run. -/
def upserted (sku : SKU) (trace : List (Nat × Event InventoryAns)) : Int :=
  (trace.map fun step => upsertedBy sku step.2.op).sum

/-- Where a thread stands. -/
inductive Session (stock : StockTable) : StockThread → Prop where
  | fresh {req : ReserveItemsRequest} : req.items.Positive →
      Session stock (.reserving req (reserveItems req))
  | waiting {req : ReserveItemsRequest} {returns : ItemMap} {resp : ReserveItemsResponse}
      {next : Except GoError Unit → InventoryProg (Except GoError ReserveItemsResponse)} :
      (∀ sku, 0 ≤ returns.units sku) → (∀ sku, returns.units sku ≠ 0 → sku ∈ stock) →
      (∀ answer, next answer = .ret (.ok resp)) → resp.success = false →
      Session stock (.reserving req (.call (.releaseStock returns) next))
  | granted {req : ReserveItemsRequest} {resp : ReserveItemsResponse} : resp.success = true →
      req.items.Positive → (∀ sku ∈ req.items, sku ∈ stock) →
      Session stock (.reserving req (.ret (.ok resp)))
  | rejected {req : ReserveItemsRequest} {resp : ReserveItemsResponse} : resp.success = false →
      Session stock (.reserving req (.ret (.ok resp)))
  | released (answer : Except GoError ReleaseItemsResponse) :
      Session stock (.releasing (.ret answer))
  | upserting {items : List RestockItem} {totals : RestockTotals} :
      (∀ item ∈ items, 0 ≤ item.quantity.toInt) →
      Session stock (.upserting (upsertItems items totals))

/-- What one step of a thread does to the ledger. -/
structure Entry (stock : StockTable) (thread : StockThread) (op : InventoryOp)
    (stock' : StockTable) (thread' : StockThread) : Prop where
  balance : ∀ sku, stock'.available sku + (thread'.granted sku + thread'.waiting sku) =
    stock.available sku + (thread.granted sku + thread.waiting sku) + upsertedBy sku op
  nonneg : (∀ sku, 0 ≤ stock.available sku) → ∀ sku, 0 ≤ stock'.available sku
  rows : ∀ sku ∈ stock, sku ∈ stock'
  session : Session stock' thread'

section

variable {stock stock' : StockTable} {w : World} {thread : StockThread}
  {move : Move StockThread World (Event InventoryAns)}

theorem Session.mono (hsession : Session stock thread) (hrows : ∀ sku ∈ stock, sku ∈ stock') :
    Session stock' thread := by
  cases hsession with
  | fresh hpos => exact .fresh hpos
  | waiting hnonneg hstock hnext hfailed =>
      exact .waiting hnonneg (fun sku h => hrows sku (hstock sku h)) hnext hfailed
  | granted hsuccess hpos hstock => exact .granted hsuccess hpos fun sku h => hrows sku (hstock sku h)
  | rejected hsuccess => exact .rejected hsuccess
  | released answer => exact .released answer
  | upserting hitems => exact .upserting hitems

theorem stockAct_eq_some (hact : stockAct () thread w = some move) :
    ∃ op next, thread.next? = some ⟨op, next⟩ ∧
      InventoryAns.faulty op (inventoryExec .works op w).1 = false ∧
      move = ⟨⟨op, (inventoryExec .works op w).1⟩, next (inventoryExec .works op w).1, [],
        (inventoryExec .works op w).2⟩ := by
  unfold stockAct at hact
  split at hact
  · cases hact
  · rename_i op next hnext
    dsimp only at hact
    split at hact
    · cases hact
    · rename_i hfine
      exact ⟨op, next, hnext, by simpa using hfine, (Option.some.inj hact).symm⟩

/-- A statement that did not fail succeeded. -/
theorem onStock_ok (w : World) (statement : StockTable → Except GoError StockTable)
    (herror : ∀ err, statement w.stock = .error err → ∃ message, err = .fault message)
    (hfine : isFault
      (w.onStock fun stock => (statement stock).map fun stock => ((), stock)).1 = false) :
    ∃ stock', statement w.stock = .ok stock' ∧
      (w.onStock fun stock => (statement stock).map fun stock => ((), stock)) =
        (.ok (), { w with stock := stock' }) := by
  cases hresult : statement w.stock with
  | error err =>
      obtain ⟨message, rfl⟩ := herror err hresult
      simp [World.onStock, hresult, isFault, Except.map] at hfine
  | ok stock' => exact ⟨stock', rfl, by simp [World.onStock, hresult, Except.map]⟩

/-! ### The steps -/

/-- The reserve statement: what it takes is granted, waits to be given back,
or is nothing. -/
private theorem entry_reserve {req : ReserveItemsRequest} (hpos : req.items.Positive) (w : World) :
    let answer := inventoryExec .works (.reserveStock req.items) w
    Entry w.stock (.reserving req (.call (.reserveStock req.items) (afterReserve req)))
      (.reserveStock req.items) answer.2.stock (.reserving req (afterReserve req answer.1)) := by
  obtain ⟨reserved, stock', hok, hexec⟩ := exec_reserveStock w hpos
  obtain ⟨hreserved, havailable, hrows⟩ := StockTable.reserveStock_ok hok
  have hrows' : ∀ sku ∈ w.stock, sku ∈ stock' := fun sku hsku => (hrows sku).mpr hsku
  have hnonneg : (∀ sku, 0 ≤ w.stock.available sku) → ∀ sku, 0 ≤ stock'.available sku := by
    intro hold sku
    have htakes := StockTable.takes_le_available req.items (hold sku)
    rw [havailable]
    omega
  simp only [hexec, afterReserve]
  by_cases hall : allReserved req.items reserved = true
  · have hcovers := (StockTable.allReserved_iff hpos hok).mp hall
    have htakes := StockTable.takes_of_covers hpos hcovers
    rw [if_pos hall]
    refine ⟨fun sku => ?_, hnonneg, hrows', .granted rfl hpos fun sku hsku => ?_⟩
    · simp [StockThread.granted, StockThread.waiting, upsertedBy, havailable, htakes]
    · have hunits : 0 < req.items.units sku := (hpos.units_pos_iff sku).mpr hsku
      have htaken : w.stock.takes req.items sku ≠ 0 := by
        rw [htakes]
        exact hunits.ne'
      exact hrows' sku (StockTable.mem_of_takes htaken)
  · rw [if_neg hall]
    by_cases hlength : 0 < reserved.entries.length
    · rw [if_pos hlength]
      refine ⟨fun sku => ?_, hnonneg, hrows', .waiting (fun sku => ?_) (fun sku hsku => ?_)
        (fun _ => rfl) rfl⟩
      · simp [StockThread.granted, StockThread.waiting, upsertedBy, havailable, hreserved]
      · rw [hreserved]
        exact StockTable.takes_nonneg hpos w.stock sku
      · rw [hreserved] at hsku
        exact hrows' sku (StockTable.mem_of_takes hsku)
    · rw [if_neg hlength]
      have hempty : reserved = ∅ := AList.ext (List.length_eq_zero_iff.mp (by omega))
      refine ⟨fun sku => ?_, hnonneg, hrows', .rejected rfl⟩
      have hzero : StockTable.takes w.stock req.items sku = 0 := by
        rw [← hreserved, hempty, ItemMap.units_empty]
      simp [StockThread.granted, StockThread.waiting, upsertedBy, havailable, hzero]

/-- A release gives back exactly the units the thread held. -/
private theorem entry_release {thread thread' : StockThread} {returns : ItemMap}
    (hfine : InventoryAns.faulty _ (inventoryExec .works (.releaseStock returns) w).1 = false)
    (hheld : ∀ sku, thread.granted sku + thread.waiting sku = returns.units sku)
    (hnonneg : ∀ sku, 0 ≤ returns.units sku) (hstock : ∀ sku, returns.units sku ≠ 0 → sku ∈ w.stock)
    (hover : ∀ sku, thread'.granted sku + thread'.waiting sku = 0)
    (hsession : ∀ stock', Session stock' thread') :
    Entry w.stock thread (.releaseStock returns)
      (inventoryExec .works (.releaseStock returns) w).2.stock thread' := by
  obtain ⟨stock', hok, hexec⟩ := onStock_ok w (fun stock => stock.releaseStock returns)
    (fun _ herr => StockTable.releaseStock_error herr) hfine
  obtain ⟨havailable, hrows⟩ := StockTable.releaseStock_ok hok
  have hstock' : (inventoryExec .works (.releaseStock returns) w).2.stock = stock' :=
    congrArg (fun answer => answer.2.stock) hexec
  rw [hstock']
  refine ⟨fun sku => ?_, fun hold sku => ?_, fun sku hsku => (hrows sku).mpr hsku, hsession _⟩
  · have hback : (if sku ∈ w.stock then returns.units sku else 0) = returns.units sku := by
      by_cases hsku : sku ∈ w.stock
      · rw [if_pos hsku]
      · rw [if_neg hsku]
        by_contra hne
        exact hsku (hstock sku (Ne.symm hne))
    rw [havailable, hback, hover, hheld]
    simp [upsertedBy]
  · have hreturns := hnonneg sku
    have havail := hold sku
    rw [havailable]
    split <;> omega

/-- One turn of the restock loop. -/
private theorem entry_upsert {items : List RestockItem} {pi : RestockItem}
    {thread thread' : StockThread} {totals : RestockTotals}
    (hfine : InventoryAns.faulty _ (inventoryExec .works (.upsertStock (stockItem pi)) w).1 = false)
    (hheld : ∀ sku, thread.granted sku + thread.waiting sku = 0)
    (hheld' : ∀ sku, thread'.granted sku + thread'.waiting sku = 0)
    (hitems : ∀ item ∈ pi :: items, 0 ≤ item.quantity.toInt)
    (hthread' : thread' = .upserting (upsertItems items totals)) :
    Entry w.stock thread (.upsertStock (stockItem pi))
      (inventoryExec .works (.upsertStock (stockItem pi)) w).2.stock thread' := by
  obtain ⟨stock', hok, hexec⟩ := onStock_ok w (fun stock => stock.upsertStock (stockItem pi))
    (fun _ herr => StockTable.upsertStock_error herr) hfine
  obtain ⟨havailable, hrows⟩ := StockTable.upsertStock_ok hok
  have hstock' : (inventoryExec .works (.upsertStock (stockItem pi)) w).2.stock = stock' :=
    congrArg (fun answer => answer.2.stock) hexec
  have hquantity : 0 ≤ (stockItem pi).quantity.toInt := hitems pi List.mem_cons_self
  rw [hstock']
  refine ⟨fun sku => ?_, fun hold sku => ?_, fun sku hsku => (hrows sku).mpr (Or.inr hsku), ?_⟩
  · rw [havailable, hheld, hheld']
    simp [upsertedBy]
  · have havail := hold sku
    rw [havailable]
    split <;> omega
  · rw [hthread']
    exact .upserting fun item hitem => hitems item (List.mem_cons_of_mem _ hitem)

private theorem held_upserting (prog : InventoryProg RestockTotals) (sku : SKU) :
    (StockThread.upserting prog).granted sku + (StockThread.upserting prog).waiting sku = 0 := rfl

/-- **The step lemma.** -/
theorem Session.step (hsession : Session w.stock thread) (hact : stockAct () thread w = some move) :
    Entry w.stock thread move.event.op move.state.stock move.thread ∧ move.spawned = [] := by
  obtain ⟨op, next, hnext, hfine, rfl⟩ := stockAct_eq_some hact
  refine ⟨?_, rfl⟩
  cases hsession with
  | @fresh req hpos =>
      by_cases hvalid : req.Valid
      · rw [reserveItems_valid hvalid] at hnext ⊢
        cases hnext
        exact entry_reserve hpos w
      · obtain ⟨resp, hret, hfailed⟩ := reserveItems_invalid hvalid
        simp [hret, StockThread.next?, hfailed] at hnext
  | waiting hnonneg hstock hrest hfailed =>
      cases hnext
      dsimp only
      rw [hrest]
      exact entry_release hfine (fun sku => by simp [StockThread.granted, StockThread.waiting])
        hnonneg hstock (fun sku => by simp [StockThread.granted, StockThread.waiting, hfailed])
        fun stock' => .rejected hfailed
  | @granted req resp hsuccess hpos hstock =>
      simp only [StockThread.next?, hsuccess, if_true] at hnext
      unfold releaseItems at hnext
      split at hnext
      · cases hnext
      · cases hnext
        have hheld : ∀ sku, req.items.units sku ≠ 0 → sku ∈ w.stock := by
          intro sku hsku
          have hunits := lt_of_le_of_ne (hpos.units_nonneg sku) (Ne.symm hsku)
          exact hstock sku ((hpos.units_pos_iff sku).mp hunits)
        refine entry_release hfine
          (fun sku => by simp [StockThread.granted, StockThread.waiting, hsuccess])
          hpos.units_nonneg hheld (fun sku => rfl) fun stock' => ?_
        dsimp only
        cases (inventoryExec .works (.releaseStock req.items) w).1 <;> exact .released _
  | rejected hfailed => simp [StockThread.next?, hfailed] at hnext
  | released answer => cases hnext
  | @upserting items totals hitems =>
      cases items with
      | nil => cases hnext
      | cons pi items =>
          cases hnext
          dsimp only
          cases (inventoryExec .works (.upsertStock (stockItem pi)) w).1 <;>
            exact entry_upsert hfine (held_upserting _) (held_upserting _) hitems rfl

end

/-! ### The runs -/

theorem sessions_after {pool : Pool StockThread World} {index : Nat} {thread : StockThread}
    {move : Move StockThread World (Event InventoryAns)}
    (hsessions : ∀ thread ∈ pool.threads, Session pool.state.stock thread)
    (hthread : pool.threads[index]? = some thread)
    (hact : stockAct () thread pool.state = some move) :
    ∀ thread ∈ (pool.after index move).threads, Session (pool.after index move).state.stock thread := by
  obtain ⟨hentry, hspawned⟩ := (hsessions thread (List.mem_of_getElem? hthread)).step hact
  refine Pool.forall_threads_after (P := Session move.state.stock) ?_ hentry.session
    (by simp [hspawned])
  exact fun other hother => (hsessions other hother).mono hentry.rows

/-- The calls and the restock loops before their first steps. -/
def stockThreads (requests : List ReserveItemsRequest) (manifests : List (List RestockItem)) :
    List StockThread :=
  requests.map (fun req => .reserving req (reserveItems req)) ++
    manifests.map fun items => .upserting (upsertItems items ⟨0, ∅⟩)

section

variable {requests : List ReserveItemsRequest} {manifests : List (List RestockItem)} {w : World}
  {trace : List (Nat × Event InventoryAns)} {pool : Pool StockThread World}

private theorem held_start (sku : SKU) :
    ((stockThreads requests manifests).map
      fun thread => thread.granted sku + thread.waiting sku).sum = 0 := by
  apply List.sum_eq_zero
  intro held hheld
  obtain ⟨thread, hthread, rfl⟩ := List.mem_map.mp hheld
  rcases List.mem_append.mp hthread with hreq | hupsert
  · obtain ⟨req, _, rfl⟩ := List.mem_map.mp hreq
    by_cases hvalid : req.Valid
    · rw [reserveItems_valid hvalid]
      rfl
    · obtain ⟨resp, hret, hfailed⟩ := reserveItems_invalid hvalid
      simp [hret, StockThread.granted, StockThread.waiting, hfailed]
  · obtain ⟨items, _, rfl⟩ := List.mem_map.mp hupsert
    rfl

/-- **No overselling.** In every state that any number of reservations, their
releases and restocks reach without faults, no quantity is negative, and what
is on the row of a SKU, what granted reservations requested of it and what
unfinished calls have yet to give back add up to what there was at the start
and what was upserted. -/
theorem no_overselling (hpos : ∀ req ∈ requests, req.items.Positive)
    (hupserts : ∀ items ∈ manifests, ∀ item ∈ items, 0 ≤ item.quantity.toInt)
    (hstock : ∀ sku, 0 ≤ w.stock.available sku)
    (hrun : Run stockAct anyStep ⟨stockThreads requests manifests, w⟩ trace pool) (sku : SKU) :
    0 ≤ pool.state.stock.available sku ∧
      pool.state.stock.available sku + (pool.threads.map (StockThread.granted sku)).sum +
        (pool.threads.map (StockThread.waiting sku)).sum =
      w.stock.available sku + upserted sku trace := by
  have hinv := hrun.invariant (fun pool trace =>
    (∀ thread ∈ pool.threads, Session pool.state.stock thread) ∧
    (∀ sku, 0 ≤ pool.state.stock.available sku) ∧
    ∀ sku, pool.state.stock.available sku +
        (pool.threads.map fun thread => thread.granted sku + thread.waiting sku).sum =
      w.stock.available sku + upserted sku trace) ⟨?_, hstock, ?_⟩ ?_
  · obtain ⟨_, hnonneg, hbalance⟩ := hinv
    refine ⟨hnonneg sku, ?_⟩
    rw [← hbalance sku, List.sum_map_add]
    ring
  · intro thread hthread
    rcases List.mem_append.mp hthread with hreq | hupsert
    · obtain ⟨req, hmem, rfl⟩ := List.mem_map.mp hreq
      exact .fresh (hpos req hmem)
    · obtain ⟨items, hmem, rfl⟩ := List.mem_map.mp hupsert
      exact .upserting (hupserts items hmem)
  · intro sku
    rw [held_start]
    rfl
  · rintro trace pool index thread ⟨⟩ move ⟨hsessions, hnonneg, hbalance⟩ hthread hact _
    obtain ⟨hentry, hspawned⟩ :=
      (hsessions thread (List.mem_of_getElem? hthread)).step hact
    refine ⟨sessions_after hsessions hthread hact, hentry.nonneg hnonneg, fun sku => ?_⟩
    · have hsum := Pool.sum_after (fun thread => thread.granted sku + thread.waiting sku) hthread
        move
      have hentrySku := hentry.balance sku
      have hold := hbalance sku
      have htrace : upserted sku (trace ++ [(index, move.event)]) =
          upserted sku trace + upsertedBy sku move.event.op := by
        simp [upserted]
      rw [hspawned, List.map_nil, List.sum_nil, add_zero] at hsum
      rw [Pool.after_state, htrace]
      omega

/-- Four of five units are granted, a second call gets one of three and waits
to give it back, two units are upserted and the grant is given back. -/
theorem no_overselling_sample :
    let four : ReserveItemsRequest := ⟨"order-2", (∅ : ItemMap).insert "milk" 4⟩
    let three : ReserveItemsRequest := ⟨"order-3", (∅ : ItemMap).insert "milk" 3⟩
    let manifest : List RestockItem := [⟨"milk", "Milk", "dairy", 2, 1, 0, 0⟩]
    ∃ trace pool,
      Run stockAct anyStep ⟨stockThreads [four, three] [manifest], Sample.world⟩ trace pool ∧
      trace.length = 4 ∧ 0 ≤ pool.state.stock.available "milk" ∧
      pool.state.stock.available "milk" + (pool.threads.map (StockThread.granted "milk")).sum +
          (pool.threads.map (StockThread.waiting "milk")).sum =
        Sample.world.stock.available "milk" + upserted "milk" trace := by
  intro four three manifest
  obtain ⟨trace, pool, hrun, hcheck⟩ := run_of_play stockAct
    (fun _ _ _ => true)
    (⟨stockThreads [four, three] [manifest], Sample.world⟩)
    ([0, 1, 2, 0].map fun i => (i, ()))
    (fun trace _ => trace.length = 4) (by decide +kernel)
  have hrun' : Run stockAct anyStep _ trace pool := hrun.mono fun _ _ _ _ => trivial
  refine ⟨trace, pool, hrun', by simpa using hcheck, no_overselling ?_ ?_ ?_ hrun' "milk"⟩
  · intro req hreq
    rcases List.mem_pair.mp hreq with rfl | rfl
    · decide
    · decide
  · intro items hitems item hitem
    obtain rfl := List.mem_singleton.mp hitems
    obtain rfl := List.mem_singleton.mp hitem
    decide
  · intro sku
    show 0 ≤ StockTable.available ((∅ : StockTable).insert "milk" _) sku
    rw [StockTable.available_insert]
    split
    · decide
    · exact le_refl 0

end

end AutoGrocery

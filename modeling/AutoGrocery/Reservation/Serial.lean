import AutoGrocery.Reservation.Ledger

/-!
Concurrent `ReserveItems` calls against the same calls run one after another,
in the order of their reserve statements. Between a reserve statement that got
too few units and the release that gives them back these units are on no row,
so a call in between can be refused for want of them. As long as that does not
happen the two agree: the answers are the same, and the quantities differ only
by the units still to be given back.
-/

namespace AutoGrocery

open Interleaving InventoryHandler

/-- What a `ReserveItems` call returns. -/
abbrev ReserveAnswer := Except GoError ReserveItemsResponse

/-- Run the handler to completion for each request in turn. -/
def serve : List ReserveItemsRequest → World → List ReserveAnswer × World
  | [], w => ([], w)
  | req :: rest, w =>
      let outcome := (reserveItems req).run (inventoryExec .works) w
      let later := serve rest outcome.state
      (outcome.value :: later.1, later.2)

theorem serve_append (first : List ReserveItemsRequest) (req : ReserveItemsRequest) (w : World) :
    serve (first ++ [req]) w =
      let outcome := (reserveItems req).run (inventoryExec .works) (serve first w).2
      ((serve first w).1 ++ [outcome.value], outcome.state) := by
  induction first generalizing w with
  | nil => rfl
  | cons head rest ih => simp only [List.cons_append, serve, ih]

namespace StockThread

/-- The answer of a call whose reserve statement has run, with its request. -/
def verdict : StockThread → Multiset (ReserveItemsRequest × ReserveAnswer)
  | .reserving req (.ret answer) => {(req, answer)}
  | .reserving req (.call (.releaseStock _) next) =>
      match next (.ok ()) with
      | .ret answer => {(req, answer)}
      | .call _ _ => 0
  | _ => 0

/-- The request of a reserving thread. -/
def request? : StockThread → Option ReserveItemsRequest
  | .reserving req _ => some req
  | _ => none

/-- The thread is a `ReserveItems` call that has not returned. -/
def calling : StockThread → Bool
  | .reserving _ (.call _ _) => true
  | _ => false

end StockThread

/-- Only steps of `ReserveItems` calls. -/
def reserveSteps (pool : Pool StockThread World) (index : Nat) (_ : Event InventoryAns) : Bool :=
  pool.threads[index]?.any StockThread.calling

/-- The units of a SKU on its row and with calls about to give them back. -/
def recoverable (pool : Pool StockThread World) (sku : SKU) : Int :=
  pool.state.stock.available sku + (pool.threads.map (StockThread.waiting sku)).sum

/-- Steps of `ReserveItems` calls in which no reserve statement is refused for
units that another call is about to give back: if the table covered the
request with them, it covers it without them. -/
def undisturbed (pool : Pool StockThread World) (index : Nat) (event : Event InventoryAns) : Bool :=
  reserveSteps pool index event &&
    match event.op with
    | .reserveStock items => decide
        ((∀ sku ∈ items.keys, items.units sku ≤ recoverable pool sku) →
          pool.state.stock.Covers items)
    | _ => true

theorem undisturbed_iff {pool : Pool StockThread World} {index : Nat} {event : Event InventoryAns} :
    undisturbed pool index event = true ↔ reserveSteps pool index event = true ∧
      ∀ items, event.op = .reserveStock items →
        (∀ sku ∈ items, items.units sku ≤ recoverable pool sku) → pool.state.stock.Covers items := by
  unfold undisturbed
  rw [Bool.and_eq_true]
  refine and_congr_right fun _ => ?_
  split
  · rename_i items hop
    rw [decide_eq_true_iff, hop]
    exact ⟨fun h found hfound => by cases hfound; exact h, fun h => h items rfl⟩
  · rename_i hop
    exact ⟨fun _ items h => absurd h (hop items), fun _ => rfl⟩

/-- The concurrent calls up to now, as calls served in an order. -/
structure Serialized (requests : List ReserveItemsRequest) (start : World)
    (pool : Pool StockThread World) : Prop where
  sessions : ∀ thread ∈ pool.threads, Session pool.state.stock thread
  requests : pool.threads.map StockThread.request? = requests.map some
  order : ∃ order : List (ReserveItemsRequest × ReserveAnswer),
    (order : Multiset (ReserveItemsRequest × ReserveAnswer)) =
      (pool.threads.map StockThread.verdict).sum ∧
    (serve (order.map Prod.fst) start).1 = order.map Prod.snd ∧
    ∀ sku, (serve (order.map Prod.fst) start).2.stock.available sku = recoverable pool sku

section

variable {requests : List ReserveItemsRequest} {start w : World}
  {trace : List (Nat × Event InventoryAns)} {pool : Pool StockThread World}

/-! ### The start -/

private theorem verdict_fresh {req : ReserveItemsRequest} (hvalid : req.Valid) :
    (StockThread.reserving req (reserveItems req)).verdict = 0 := by
  rw [reserveItems_valid hvalid]
  rfl

/-- Requests that never reach the table have their answer at once. -/
private theorem serialized_start (requests : List ReserveItemsRequest) :
    ∃ order : List (ReserveItemsRequest × ReserveAnswer),
      (order : Multiset (ReserveItemsRequest × ReserveAnswer)) =
        ((stockThreads requests []).map StockThread.verdict).sum ∧
      serve (order.map Prod.fst) w = (order.map Prod.snd, w) := by
  induction requests with
  | nil => exact ⟨[], rfl, rfl⟩
  | cons req rest ih =>
      obtain ⟨order, hverdicts, hserve⟩ := ih
      have hthreads : stockThreads (req :: rest) [] =
          .reserving req (reserveItems req) :: stockThreads rest [] := rfl
      by_cases hvalid : req.Valid
      · refine ⟨order, ?_, hserve⟩
        rw [hthreads, List.map_cons, List.sum_cons, verdict_fresh hvalid, zero_add, hverdicts]
      · obtain ⟨resp, hret, _⟩ := reserveItems_invalid hvalid
        refine ⟨(req, .ok resp) :: order, ?_, ?_⟩
        · rw [hthreads, List.map_cons, List.sum_cons, hret, ← hverdicts]
          rfl
        · simp only [List.map_cons, serve, hret, Prog.run_ret, hserve]

private theorem waiting_fresh (sku : SKU) :
    ((stockThreads requests []).map (StockThread.waiting sku)).sum = 0 := by
  apply List.sum_eq_zero
  intro units hunits
  obtain ⟨thread, hthread, rfl⟩ := List.mem_map.mp hunits
  rw [stockThreads, List.map_nil, List.append_nil] at hthread
  obtain ⟨req, _, rfl⟩ := List.mem_map.mp hthread
  by_cases hvalid : req.Valid
  · rw [reserveItems_valid hvalid]
    rfl
  · obtain ⟨resp, hret, _⟩ := reserveItems_invalid hvalid
    rw [hret]
    rfl

/-! ### One step -/

/-- Calls that wait hold no negative amount. -/
private theorem available_le_recoverable
    (hsessions : ∀ thread ∈ pool.threads, Session pool.state.stock thread) (sku : SKU) :
    pool.state.stock.available sku ≤ recoverable pool sku := by
  have hwaiting : 0 ≤ (pool.threads.map (StockThread.waiting sku)).sum := by
    apply List.sum_nonneg
    intro units hunits
    obtain ⟨thread, hthread, rfl⟩ := List.mem_map.mp hunits
    cases hsessions thread hthread with
    | @fresh req hpos =>
        by_cases hvalid : req.Valid
        · rw [reserveItems_valid hvalid]
          exact le_refl 0
        · obtain ⟨resp, hret, _⟩ := reserveItems_invalid hvalid
          rw [hret]
          exact le_refl 0
    | waiting hnonneg => exact hnonneg sku
    | _ => exact le_refl 0
  unfold recoverable
  omega

/-- After the reserve statement the answer is settled, whether or not units
have to be given back. -/
private theorem verdict_afterReserve (req : ReserveItemsRequest) (reserved : ItemMap) :
    (StockThread.reserving req (afterReserve req (.ok reserved))).verdict =
      {(req, .ok (if allReserved req.items reserved then ⟨req.orderID, true, ""⟩
        else ⟨req.orderID, false, "insufficient stock"⟩))} := by
  unfold afterReserve
  dsimp only
  by_cases hall : allReserved req.items reserved = true
  · rw [if_pos hall, if_pos hall]
    rfl
  · rw [if_neg hall, if_neg hall]
    split <;> rfl

private theorem granted_afterReserve (req : ReserveItemsRequest) (reserved : ItemMap) (sku : SKU) :
    (StockThread.reserving req (afterReserve req (.ok reserved))).granted sku =
      if allReserved req.items reserved then req.items.units sku else 0 := by
  unfold afterReserve
  dsimp only
  by_cases hall : allReserved req.items reserved = true
  · rw [if_pos hall, if_pos hall]
    rfl
  · rw [if_neg hall, if_neg hall]
    split <;> rfl

/-- Only a grant changes what can be had of a SKU. -/
private theorem recoverable_after {index : Nat} {thread : StockThread}
    {move : Move StockThread World (Event InventoryAns)}
    (hsessions : ∀ thread ∈ pool.threads, Session pool.state.stock thread)
    (hthread : pool.threads[index]? = some thread)
    (hact : stockAct () thread pool.state = some move) (sku : SKU) :
    recoverable (pool.after index move) sku + move.thread.granted sku =
      recoverable pool sku + thread.granted sku + upsertedBy sku move.event.op := by
  obtain ⟨hentry, hspawned⟩ := (hsessions thread (List.mem_of_getElem? hthread)).step hact
  have hbalance := hentry.balance sku
  have hsum := Pool.sum_after (StockThread.waiting sku) hthread move
  rw [hspawned, List.map_nil, List.sum_nil, add_zero] at hsum
  unfold recoverable
  rw [Pool.after_state]
  omega

/-- The reserve statement of a call: serving the request next in the serial
order gives the answer it settles on. -/
private theorem serialized_reserve {req : ReserveItemsRequest} (hvalid : req.Valid)
    (hpos : req.items.Positive) {order : List (ReserveItemsRequest × ReserveAnswer)}
    (hanswers : (serve (order.map Prod.fst) start).1 = order.map Prod.snd)
    (hquantities : ∀ sku, (serve (order.map Prod.fst) start).2.stock.available sku =
      recoverable pool sku)
    (hcovers : pool.state.stock.Covers req.items ↔
      ∀ sku ∈ req.items, req.items.units sku ≤ recoverable pool sku)
    {reserved : ItemMap} (hall : allReserved req.items reserved = true ↔
      pool.state.stock.Covers req.items)
    {pool' : Pool StockThread World}
    (hrecoverable : ∀ sku, recoverable pool' sku +
      (if allReserved req.items reserved then req.items.units sku else 0) = recoverable pool sku) :
    ∃ answer, (StockThread.reserving req (afterReserve req (.ok reserved))).verdict =
        {(req, answer)} ∧
      (serve ((order ++ [(req, answer)]).map Prod.fst) start).1 =
        (order ++ [(req, answer)]).map Prod.snd ∧
      ∀ sku, (serve ((order ++ [(req, answer)]).map Prod.fst) start).2.stock.available sku =
        recoverable pool' sku := by
  refine ⟨_, verdict_afterReserve req reserved, ?_⟩
  simp only [List.map_append, List.map_cons, List.map_nil, serve_append, hanswers]
  set serial := (serve (order.map Prod.fst) start).2 with hserial
  obtain ⟨hgrant, hreject⟩ := reserveItems_alone hvalid hpos serial
  have hserves : serial.stock.Covers req.items ↔ allReserved req.items reserved = true := by
    rw [hall, hcovers]
    exact forall₂_congr fun sku _ => by rw [hquantities]
  by_cases hgranted : allReserved req.items reserved = true
  · obtain ⟨hvalue, havailable, _⟩ := hgrant (hserves.mpr hgranted)
    refine ⟨by rw [hvalue, if_pos hgranted], fun sku => ?_⟩
    have hsku := hrecoverable sku
    rw [if_pos hgranted] at hsku
    rw [havailable, hquantities]
    omega
  · obtain ⟨hvalue, hstock⟩ := hreject fun h => hgranted (hserves.mp h)
    refine ⟨by rw [hvalue, if_neg hgranted], fun sku => ?_⟩
    have hsku := hrecoverable sku
    rw [if_neg hgranted] at hsku
    rw [hstock, hquantities]
    omega

theorem Serialized.step {index : Nat} {thread : StockThread}
    {move : Move StockThread World (Event InventoryAns)} (hinv : Serialized requests start pool)
    (hthread : pool.threads[index]? = some thread)
    (hact : stockAct () thread pool.state = some move)
    (hallowed : undisturbed pool index move.event = true) :
    Serialized requests start (pool.after index move) := by
  obtain ⟨hsessions, hrequests, order, hverdicts, hanswers, hquantities⟩ := hinv
  obtain ⟨hcalling, hundisturbed⟩ := undisturbed_iff.mp hallowed
  have hrecoverable := recoverable_after hsessions hthread hact
  have hverdicts' := Pool.sum_after StockThread.verdict hthread move
  have hsessions' := sessions_after hsessions hthread hact
  obtain ⟨op, next, hnext, hfine, rfl⟩ := stockAct_eq_some hact
  rw [List.map_nil, List.sum_nil, add_zero] at hverdicts'
  rw [reserveSteps, hthread, Option.any_some] at hcalling
  cases hsessions thread (List.mem_of_getElem? hthread) with
  | @fresh req hpos =>
      by_cases hvalid : req.Valid
      · rw [verdict_fresh hvalid, add_zero] at hverdicts'
        rw [reserveItems_valid hvalid] at hnext hrecoverable
        cases hnext
        obtain ⟨reserved, stock', hok, hexec⟩ := exec_reserveStock pool.state hpos
        have hall := StockTable.allReserved_iff hpos hok
        have hcovers : pool.state.stock.Covers req.items ↔
            ∀ sku ∈ req.items, req.items.units sku ≤ recoverable pool sku :=
          ⟨fun h sku hsku => (h sku hsku).trans (available_le_recoverable hsessions sku),
            hundisturbed req.items rfl⟩
        dsimp only at hverdicts' hrecoverable hsessions' ⊢
        simp only [hexec, granted_afterReserve] at hverdicts' hrecoverable hsessions' ⊢
        obtain ⟨answer, hverdict, hanswers', hquantities'⟩ := serialized_reserve hvalid hpos
          hanswers hquantities hcovers hall fun sku => by
            simpa [StockThread.granted, upsertedBy] using hrecoverable sku
        refine ⟨hsessions', ?_, order ++ [(req, answer)], ?_, hanswers', hquantities'⟩
        · rw [← hrequests]
          exact Pool.map_after StockThread.request? hthread rfl rfl
        · rw [hverdicts', hverdict, ← hverdicts]
          rfl
      · obtain ⟨resp, hret, _⟩ := reserveItems_invalid hvalid
        rw [hret] at hcalling
        cases hcalling
  | @waiting req returns resp rest hnonneg hstock hrest hfailed =>
      cases hnext
      have hsame : (StockThread.reserving req (.call (.releaseStock returns) rest)).verdict =
          {(req, .ok resp)} := by
        simp [StockThread.verdict, hrest]
      dsimp only at hverdicts' hrecoverable hsessions' ⊢
      simp only [hrest] at hverdicts' hrecoverable hsessions' ⊢
      rw [hsame] at hverdicts'
      refine ⟨hsessions', ?_, order, ?_, hanswers, fun sku => ?_⟩
      · rw [← hrequests]
        exact Pool.map_after StockThread.request? hthread rfl rfl
      · rw [hverdicts]
        exact (add_right_cancel hverdicts').symm
      · have hsku := hrecoverable sku
        simp only [StockThread.granted, hfailed, upsertedBy] at hsku
        rw [hquantities]
        simpa using hsku.symm
  | granted => cases hcalling
  | rejected => cases hcalling
  | released => cases hcalling
  | upserting => cases hcalling

end

/-! ### Serializability -/

section

variable {requests : List ReserveItemsRequest} {w : World}
  {trace : List (Nat × Event InventoryAns)} {pool : Pool StockThread World}

theorem serialized (hpos : ∀ req ∈ requests, req.items.Positive)
    (hrun : Run stockAct (fun pool index event => undisturbed pool index event = true)
      ⟨stockThreads requests [], w⟩ trace pool) :
    Serialized requests w pool := by
  refine hrun.invariant (fun pool _ => Serialized requests w pool) ⟨?_, ?_, ?_⟩ ?_
  · intro thread hthread
    rw [stockThreads, List.map_nil, List.append_nil] at hthread
    obtain ⟨req, hreq, rfl⟩ := List.mem_map.mp hthread
    exact .fresh (hpos req hreq)
  · simp [stockThreads, StockThread.request?, Function.comp_def]
  · obtain ⟨order, hverdicts, hserve⟩ := serialized_start (w := w) requests
    refine ⟨order, hverdicts, by rw [hserve], fun sku => ?_⟩
    rw [hserve, recoverable, waiting_fresh, add_zero]
  · rintro trace pool index thread ⟨⟩ move hinv hthread hact hallowed
    exact hinv.step hthread hact hallowed

/-- **Reservations that do not disturb each other are serializable.** When all
calls have returned, there is an order of them in which running the handler to
completion for each gives every request the same answer, and the same final
quantities. -/
theorem reservations_serializable (hpos : ∀ req ∈ requests, req.items.Positive)
    (hrun : Run stockAct (fun pool index event => undisturbed pool index event = true)
      ⟨stockThreads requests [], w⟩ trace pool)
    {returned : List (ReserveItemsRequest × ReserveAnswer)}
    (hreturned : pool.threads = returned.map fun call => .reserving call.1 (.ret call.2)) :
    returned.map Prod.fst = requests ∧
      ∃ order : List (ReserveItemsRequest × ReserveAnswer), order.Perm returned ∧
        (serve (order.map Prod.fst) w).1 = order.map Prod.snd ∧
        ∀ sku, (serve (order.map Prod.fst) w).2.stock.available sku =
          pool.state.stock.available sku := by
  obtain ⟨_, hrequests, order, hverdicts, hanswers, hquantities⟩ := serialized hpos hrun
  rw [hreturned, List.map_map] at hrequests hverdicts
  refine ⟨?_, order, ?_, hanswers, fun sku => ?_⟩
  · refine List.map_injective_iff.mpr (Option.some_injective _) ?_
    rw [List.map_map]
    exact hrequests
  · have hsum := Multiset.sum_map_singleton (returned : Multiset (ReserveItemsRequest × ReserveAnswer))
    rw [Multiset.map_coe, Multiset.sum_coe] at hsum
    exact Multiset.coe_eq_coe.mp (hverdicts.trans hsum)
  · rw [hquantities, recoverable, hreturned, List.map_map]
    simp [Function.comp_def, StockThread.waiting]

/-- Four of five units are granted, and a call that wants three gets one and
gives it back. -/
theorem reservations_serializable_sample :
    let four : ReserveItemsRequest := ⟨"order-2", (∅ : ItemMap).insert "milk" 4⟩
    let three : ReserveItemsRequest := ⟨"order-3", (∅ : ItemMap).insert "milk" 3⟩
    ∃ order : List (ReserveItemsRequest × ReserveAnswer),
      order.Perm [(three, .ok ⟨"order-3", false, "insufficient stock"⟩),
        (four, .ok ⟨"order-2", true, ""⟩)] ∧
      (serve (order.map Prod.fst) Sample.world).1 = order.map Prod.snd := by
  intro four three
  let returned : List (ReserveItemsRequest × ReserveAnswer) :=
    [(three, .ok ⟨"order-3", false, "insufficient stock"⟩), (four, .ok ⟨"order-2", true, ""⟩)]
  have hpos : ∀ req ∈ [three, four], req.items.Positive := by decide
  have hrun : Run stockAct (fun pool index event => undisturbed pool index event = true)
      ⟨stockThreads [three, four] [], Sample.world⟩ _ _ :=
    .move 0 () (.move 0 () (.move 1 () .start rfl rfl (by decide +kernel)) rfl rfl
      (by decide +kernel)) rfl rfl (by decide +kernel)
  obtain ⟨_, order, hperm, hanswers, _⟩ := reservations_serializable hpos hrun
    (show _ = returned.map fun call => StockThread.reserving call.1 (.ret call.2) from rfl)
  exact ⟨order, hperm, hanswers⟩

/-- One unit of milk. A call that wants two takes it and has yet to give it
back when a call that wants one comes; both are refused, and in either order
the second call would have been granted. -/
theorem reservations_not_serializable :
    ∃ (requests : List ReserveItemsRequest) (w : World) (trace : List (Nat × Event InventoryAns))
      (pool : Pool StockThread World) (returned : List (ReserveItemsRequest × ReserveAnswer)),
      (∀ req ∈ requests, req.items.Positive) ∧
      Run stockAct (fun pool index event => reserveSteps pool index event = true)
        ⟨stockThreads requests [], w⟩ trace pool ∧
      pool.threads = returned.map (fun call => .reserving call.1 (.ret call.2)) ∧
      ∀ order : List (ReserveItemsRequest × ReserveAnswer), order.Perm returned →
        (serve (order.map Prod.fst) w).1 ≠ order.map Prod.snd := by
  let two : ReserveItemsRequest := ⟨"order-2", (∅ : ItemMap).insert "milk" 2⟩
  let one : ReserveItemsRequest := ⟨"order-3", (∅ : ItemMap).insert "milk" 1⟩
  let w : World := { Sample.world with
    stock := (∅ : StockTable).insert "milk" ⟨"Milk", "dairy", 1, 1, 0, 0⟩ }
  refine ⟨[two, one], w, _, _, [(two, .ok ⟨"order-2", false, "insufficient stock"⟩),
    (one, .ok ⟨"order-3", false, "insufficient stock"⟩)], by decide,
    .move 0 () (.move 1 () (.move 0 () .start rfl rfl rfl) rfl rfl rfl) rfl rfl rfl, rfl, ?_⟩
  intro order horder
  rcases List.perm_pair.mp horder with rfl | rfl
  · decide +kernel
  · decide +kernel

end

end AutoGrocery

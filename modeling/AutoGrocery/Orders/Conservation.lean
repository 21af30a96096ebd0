import AutoGrocery.Orders.Settling

/-!
Stock conservation over the life of orders. When requests are served one at a
time and nothing fails, each of them moves units between stock, the open orders
and the robots, and only restocks add any. The exception is a cancel of an order
the robots have heard of: it puts units back that were handed out already.
-/

namespace AutoGrocery

open Interleaving

/-! ### The requests of clients -/

section

variable {w w' : World}

/-- Steps of ordering restock nothing. -/
private theorem Balanced.by_ordering (h : Balanced w w' []) (trace : List (Event OrderingAns)) :
    Balanced w w' (trace.map .ordering) := by
  refine ⟨h.booked, fun sku => ?_⟩
  rw [h.ledger, restocked_ordering]
  rfl

/-- A preview of positive quantities. -/
private theorem preview_balanced {user : Int} {cart : List CartItem} {orderUUID : OrderID}
    (hpos : (cartMap cart).Positive) (hbooked : Booked w)
    (hfine : fine ((Request.client (some user) (.preview (some cart) orderUUID)).serve w).events = true) :
    Balanced w ((Request.client (some user) (.preview (some cart) orderUUID)).serve w).state [] := by
  obtain ⟨⟨resp, hanswer, hgrant⟩, hrows, hordering, hbroadcasts⟩ :=
    reserveItems_works (show (ReserveItemsRequest.mk orderUUID (cartMap cart)).items.Positive from hpos) w
  have hmemory := (stockCall_frame .works w (reserveItems_uses ⟨orderUUID, cartMap cart⟩)).2.1
  simp only [Request.serve, ClientRequest.handle, previewOrder, Prog.run_call, hanswer] at hfine ⊢
  set reserved := (orderingExec .works (.reserveItems ⟨orderUUID, cartMap cart⟩) w).2
  have hrows' : ∀ sku ∈ w.stock, sku ∈ reserved.stock := fun sku hsku => (hrows sku).mpr hsku
  rcases hgrant with ⟨hsuccess, hstocked, havailable⟩ | ⟨hfailed, havailable⟩
  · simp only [hsuccess, Bool.not_true, Bool.false_eq_true, if_false, Prog.run_call,
      createGroceryOrder_works] at hfine ⊢
    set order := GroceryOrder.mk 0 orderUUID user .pending 0 0
    cases hrow : reserved.ordering.groceryOrders.lookup orderUUID with
    | some row =>
        -- the id is taken already, and the statement fails
        simp [commit, OrderingDB.createGroceryOrder, order, hrow, fine, ServiceEvent.faulty,
          OrderingAns.faulty, StoreAns.faulty, isFault] at hfine
    | none =>
        obtain ⟨db, hok⟩ : ∃ db, reserved.ordering.createGroceryOrder reserved.now order
            (orderLines (cartMap cart)) = .ok db :=
          ⟨_, createGroceryOrder_orderLines reserved.now order (cartMap cart) reserved.ordering hrow⟩
        rw [commit_ok reserved _ hok]
        rw [hordering] at hok
        exact hbooked.create hpos hstocked havailable hrows' hok hmemory hbroadcasts
  · simp only [hfailed, Bool.not_false, if_true, Prog.run_ret]
    exact hbooked.quiet havailable hrows' ⟨by rw [hordering], by rw [hordering], by rw [hordering]⟩
      (congrArg MemoryStore.clientClient hmemory) (Or.inl hbroadcasts)

/-- A confirm of an order, by anybody. -/
private theorem confirm_balanced (user : Int) (orderID : OrderID) (hbooked : Booked w) :
    Balanced w ((Request.client (some user) (.confirm (some orderID))).serve w).state [] := by
  simp only [Request.serve, ClientRequest.handle, confirmOrder]
  split
  · exact .refl hbooked
  simp only [Prog.run_call, getOrderByID_works, OrderingDB.getOrderByID]
  cases hrow : w.ordering.groceryOrders.lookup orderID with
  | none => exact .refl hbooked
  | some row =>
      simp only [Option.map_some]
      split
      · exact .refl hbooked
      split
      · exact .refl hbooked
      rename_i hpending
      rw [ne_eq, not_not] at hpending
      have hplaced := hbooked.placed orderID row hrow
      simp only [Prog.run_call, getOrderItems_works, getOrderItems_of_lookup hrow, dispatchOrder,
        updateStatus_works, processCustomerOrder_works, Prog.run_ret]
      refine hbooked.dispatch hrow hpending rfl rfl rfl ⟨rfl, rfl⟩ (fun sku => ?_) fun other items hsaved => ?_
      · rw [← protoItems_units hplaced.nodup]
        exact (orderBroadcast_lists orderID _ _).units sku
      · rw [MemoryStore.saveOrderItems_get] at hsaved
        split at hsaved
        · exact Or.inl (by assumption)
        · exact Or.inr hsaved

/-- A cancel that finds its owner's order PENDING. -/
private theorem cancel_balanced (user : Int) (orderID : OrderID) (hbooked : Booked w)
    (hpending : ∀ row, w.ordering.groceryOrders.lookup orderID = some row → row.clientID = user →
      row.status = .pending)
    (hfine : fine ((Request.client (some user) (.cancel orderID)).serve w).events = true) :
    Balanced w ((Request.client (some user) (.cancel orderID)).serve w).state [] := by
  simp only [Request.serve, ClientRequest.handle, cancelOrder, Prog.run_call, getOrderByID_works,
    OrderingDB.getOrderByID] at hfine ⊢
  cases hrow : w.ordering.groceryOrders.lookup orderID with
  | none => exact .refl hbooked
  | some row =>
      simp only [hrow, Option.map_some] at hfine ⊢
      split
      · exact .refl hbooked
      rename_i howner
      rw [if_neg howner] at hfine
      simp only [cancelItems, Prog.run_call, getOrderItems_works, deleteOrder_works, Prog.run_ret] at hfine ⊢
      have hlisted : protoItems (itemsRead (w.ordering.getOrderItems orderID)) = w.ordering.listed orderID := rfl
      rw [hlisted] at hfine ⊢
      set releases : OrderingOp := .releaseItems ⟨orderID, w.ordering.listed orderID⟩
      have hreleased : isFault (orderingExec .works releases w).1 = false := by
        simp only [fine, List.map_cons, List.all_cons, Bool.and_eq_true] at hfine
        simpa [ServiceEvent.faulty, OrderingAns.faulty, releases] using hfine.2.2.1
      obtain ⟨havailable, hrows, hordering, hbroadcasts⟩ :=
        releaseItems_works ⟨orderID, w.ordering.listed orderID⟩ w hreleased
      have hmemory := (stockCall_frame .works w
        (releaseItems_uses ⟨orderID, w.ordering.listed orderID⟩)).2.1
      obtain ⟨db, hok⟩ : ∃ db, w.ordering.deleteOrder orderID = .ok db := by
        simp [OrderingDB.deleteOrder, hrow]
      have hcommit : commit (OrderingDB.deleteOrder orderID) (orderingExec .works releases w).2.ordering =
          (.ok (), db) := by
        rw [hordering]
        exact commit_ok w _ hok
      rw [hcommit]
      refine hbooked.cancel hrow (hpending row hrow (by simpa using howner)) (fun sku => ?_)
        (fun sku hsku => (hrows sku).mpr hsku) hok hmemory hbroadcasts
      rw [← OrderingDB.ordered_of_lookup hrow, ← released_units hrow (hbooked.placed orderID row hrow)]
      exact havailable sku

/-- An operation that names no client order moves no units. -/
private theorem restockOp_balanced {op : OrderingOp} (hop : op.names = none) (hbooked : Booked w) :
    Balanced w (orderingExec .works op w).2 [] := by
  cases op with
  | store statement =>
      have hchange := storeExec_change w.now (CallFault.works : CallFault (CallFault Fault)).mode
        statement w.ordering
      have htables : w.ordering.SameTables (orderingExec .works (.store statement) w).2.ordering := by
        cases hchange with
        | keep hsame => exact hsame
        | create => cases hop
        | rewrite hnames => cases hop.symm.trans hnames
        | delete => cases hop
      exact hbooked.quiet (fun _ => rfl) (fun _ => id) htables rfl (Or.inl rfl)
  | restockItemsOrder req =>
      rw [restockItemsOrder_works]
      exact hbooked.quiet (fun _ => rfl) (fun _ => id) (.refl _) rfl (Or.inr ⟨_, rfl, rfl⟩)
  | _ => cases hop

private theorem restock_balanced (body : Option TruckManifest) (restockUUID : OrderID)
    (hbooked : Booked w) :
    Balanced w ((Request.restock body restockUUID).serve w).state [] := by
  apply Prog.run_preserves (P := fun w' => Balanced w w' []) (orderingExec .works) (fun op w' hop h => ?_)
    (restockOrder_uses body restockUUID) (Balanced.refl hbooked)
  exact h.trans (restockOp_balanced hop h.booked)

end

/-! ### Whole runs -/

/-- A request that asks for positive quantities, and of which no step fails. -/
def smooth (w : World) (request : Request) : Bool :=
  request.positive && fine (request.serve w).events

/-- A cancel by the owner of an order finds it PENDING. -/
def cancelsPending (w : World) : Request → Bool
  | .client (some user) (.cancel orderID) =>
      (w.ordering.groceryOrders.lookup orderID).all fun row =>
        row.clientID ≠ user || row.status = .pending
  | _ => true

/-- No client has ordered yet. -/
structure Fresh (w : World) : Prop where
  orders : w.ordering.groceryOrders = ∅
  lines : w.ordering.groceryOrderItems = []
  broadcasts : ∀ broadcast ∈ w.broadcasts, broadcast.orderType ≠ .customer
  saved : ∀ orderID items, w.memory.getOrderItems orderID ≠ .ok items

section

variable {w : World}

private theorem client_balanced {userID : Option Int} {request : ClientRequest} (hbooked : Booked w)
    (hsmooth : smooth w (.client userID request) = true)
    (hcancels : cancelsPending w (.client userID request) = true) :
    Balanced w ((Request.client userID request).serve w).state [] := by
  rw [smooth, Bool.and_eq_true] at hsmooth
  obtain ⟨hpositive, hfine⟩ := hsmooth
  cases userID with
  | none => cases request <;> exact .refl hbooked
  | some user =>
      cases request with
      | preview body orderUUID =>
          cases body with
          | none => exact .refl hbooked
          | some cart => exact preview_balanced (of_decide_eq_true hpositive) hbooked hfine
      | confirm body =>
          cases body with
          | none => exact .refl hbooked
          | some orderID => exact confirm_balanced user orderID hbooked
      | cancel orderID =>
          refine cancel_balanced user orderID hbooked (fun row hrow howner => ?_) hfine
          simpa [cancelsPending, hrow, howner] using hcancels

/-- **The step lemma.** -/
private theorem serve_balanced {request : Request} (hbooked : Booked w) (hsmooth : smooth w request = true)
    (hcancels : cancelsPending w request = true) :
    Balanced w (request.serve w).state (request.serve w).events := by
  cases request with
  | client userID request => exact (client_balanced hbooked hsmooth hcancels).by_ordering _
  | restock body restockUUID => exact (restock_balanced body restockUUID hbooked).by_ordering _
  | report req =>
      rw [smooth, Bool.and_eq_true] at hsmooth
      exact report_balanced req hbooked hsmooth.2

/-- **The run lemma.** -/
private theorem serveAll_balanced {requests : List Request} (hbooked : Booked w)
    (hsmooth : throughout smooth requests w = true)
    (hcancels : throughout cancelsPending requests w = true) :
    Balanced w (serveAll requests w).state (serveAll requests w).events := by
  induction requests generalizing w with
  | nil => exact .refl hbooked
  | cons request rest ih =>
      rw [throughout, Bool.and_eq_true] at hsmooth hcancels
      have hfirst := serve_balanced hbooked hsmooth.1 hcancels.1
      exact hfirst.trans (ih hfirst.booked hsmooth.2 hcancels.2)

private theorem Fresh.dispatched (hfresh : Fresh w) (orderID : OrderID) : w.dispatched orderID = false := by
  rw [World.dispatched, List.any_eq_false]
  intro broadcast hbroadcast
  simp [OrderBroadcast.isFor, hfresh.broadcasts broadcast hbroadcast]

private theorem Fresh.booked (hfresh : Fresh w) : Booked w := by
  have hnone (orderID : OrderID) : w.ordering.groceryOrders.lookup orderID = none := by
    rw [hfresh.orders]
    rfl
  refine ⟨⟨?_, ?_, ?_⟩, ?_, ?_, ?_, fun orderID items hsaved => absurd hsaved (hfresh.saved orderID items)⟩
  · intro orderID row hrow
    rw [hnone] at hrow
    cases hrow
  · intro orderID other row row' hrow
    rw [hnone] at hrow
    cases hrow
  · rw [hfresh.lines]
    intro line hline
    cases hline
  · intro orderID row hrow
    rw [hnone] at hrow
    cases hrow
  · intro orderID row hrow
    rw [hnone] at hrow
    cases hrow
  · intro orderID hknown
    rw [hfresh.dispatched] at hknown
    cases hknown

/-- At the start all units are in stock. -/
private theorem Fresh.ledger (hfresh : Fresh w) (sku : SKU) : w.ledger sku = w.stock.available sku := by
  have htold : w.told sku = 0 := by
    apply List.sum_eq_zero
    intro units hunits
    obtain ⟨broadcast, hbroadcast, rfl⟩ := List.mem_map.mp hunits
    exact if_neg (hfresh.broadcasts broadcast hbroadcast)
  have huntold : w.untold sku = 0 := by
    rw [World.untold, hfresh.orders]
    rfl
  rw [World.ledger, htold, huntold]
  omega

/-- Open orders list no negative units. -/
private theorem Booked.untold_nonneg (hbooked : Booked w) (sku : SKU) : 0 ≤ w.untold sku := by
  apply List.sum_nonneg
  intro units hunits
  obtain ⟨entry, hentry, rfl⟩ := List.mem_map.mp hunits
  dsimp only
  split
  · exact le_refl 0
  · have hplaced := hbooked.placed entry.1 entry.2 (AList.mem_lookup_iff.mpr hentry)
    exact lineUnits_nonneg hplaced.nonneg sku

/-- **Stock conservation.** However whole requests follow each other, as long as
none of their steps fails and every cancel by the owner of an order finds it
PENDING: a unit that was in stock at the start or came with a restock is in
stock, in an existing order no robot has heard of, or told to the robots. What
the robots were told to pick is never in stock again. -/
theorem stock_conserved {requests : List Request} (hfresh : Fresh w)
    (hsmooth : throughout smooth requests w = true)
    (hcancels : throughout cancelsPending requests w = true) (sku : SKU) :
    let served := serveAll requests w
    served.state.stock.available sku + served.state.untold sku + served.state.told sku =
        w.stock.available sku + restocked sku served.events ∧
      served.state.stock.available sku ≤
        w.stock.available sku + restocked sku served.events - served.state.told sku := by
  have hbalanced := serveAll_balanced hfresh.booked hsmooth hcancels
  have hledger := hbalanced.ledger sku
  rw [hfresh.ledger, World.ledger] at hledger
  have hopen := hbalanced.booked.untold_nonneg sku
  refine ⟨hledger, ?_⟩
  omega

end

/-! ### On one order -/

namespace Sample

/-- Five units of milk and no order. -/
def opening : World := { world with ordering := .empty }

/-- Client 7 orders two of them, and the robots pick them. -/
def lifecycle : List Request :=
  [.client (some 7) (.preview (some [⟨"milk", 2⟩]) "order-1"),
    .client (some 7) (.confirm (some "order-1"))] ++ List.replicate 5 (.report report)

theorem opening_fresh : Fresh opening := by
  refine ⟨rfl, rfl, ?_, ?_⟩
  · intro broadcast hbroadcast
    cases hbroadcast
  · intro orderID items hsaved
    cases hsaved

end Sample

theorem stock_conserved_sample :
    let served := serveAll Sample.lifecycle Sample.opening
    served.state.ordering.status "order-1" = some .completed ∧
      served.state.stock.available "milk" + served.state.untold "milk" + served.state.told "milk" =
        Sample.opening.stock.available "milk" + restocked "milk" served.events :=
  ⟨by decide +kernel,
    (stock_conserved Sample.opening_fresh (by decide +kernel) (by decide +kernel) "milk").1⟩

/-- A cancel of an order that is COMPLETED: its two units are in stock again,
and the robots have picked them. -/
theorem stock_not_conserved :
    ∃ requests w, Fresh w ∧ throughout smooth requests w = true ∧
      let served := serveAll requests w
      served.state.told "milk" = 2 ∧ served.state.stock.available "milk" = 5 ∧
        served.state.stock.available "milk" + served.state.untold "milk" + served.state.told "milk" ≠
          w.stock.available "milk" + restocked "milk" served.events :=
  ⟨Sample.lifecycle ++ [.client (some 7) (.cancel "order-1")], Sample.opening, Sample.opening_fresh,
    by decide +kernel, by decide +kernel⟩

end AutoGrocery

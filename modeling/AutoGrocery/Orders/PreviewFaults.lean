import AutoGrocery.Orders.Calls

/-!
Failed previews. A preview reserves stock by a call and then creates its order.
Inventory gives back what it took for a request it rejects. Nobody gives back
what was taken when the reserve statement or the call answers with an error
after it took effect, or when the order cannot be created.
-/

namespace AutoGrocery

open Interleaving InventoryHandler

/-- The faults of one preview: of the statement and the release inventory runs
for its call, of the call, and of the statement that creates the order. -/
structure PreviewFaults where
  call : CallFault (CallFault Fault)
  create : CallFault (CallFault Fault)

namespace PreviewFaults

/-- The reserve statement. -/
def statement (faults : PreviewFaults) : Fault := (faults.call.server.headD .works).mode

/-- The release of what a rejected request took. -/
def release (faults : PreviewFaults) : Fault := (faults.call.server.tail.headD .works).mode

/-- As a script of the request. -/
def script (faults : PreviewFaults) : List (CallFault (CallFault Fault)) :=
  [faults.call, faults.create]

end PreviewFaults

section

variable {userID : Option Int} {orderUUID : OrderID} {items : ItemMap} {w : World}
  {faults : PreviewFaults}

/-- Some units are taken: the statement is reached, by a request that names its
order, and finds units it wants. -/
structure Reserves (userID : Option Int) (orderUUID : OrderID) (items : ItemMap) (w : World)
    (faults : PreviewFaults) : Prop where
  user : userID ≠ none
  named : orderUUID ≠ ""
  called : faults.call.mode.reaches = true
  executed : faults.statement.reaches = true
  taken : ∃ sku, w.stock.takes items sku ≠ 0

/-- What was taken goes with an order that is created, or is given back. -/
structure Settles (orderUUID : OrderID) (items : ItemMap) (w : World) (faults : PreviewFaults) :
    Prop where
  answered : faults.statement = .works
  covered : w.stock.Covers items → faults.call.mode = .works ∧ faults.create.mode = .works ∧
    w.ordering.groceryOrders.lookup orderUUID = none
  uncovered : ¬ w.stock.Covers items → faults.release.reaches = true

/-- Everything the statement takes is gone from the table. -/
def Taken (items : ItemMap) (w w' : World) : Prop :=
  ∀ sku, w'.stock.available sku = w.stock.available sku - w.stock.takes items sku

/-- `ReserveItems` at its server, by the faults it meets there. -/
private theorem reserveItems_server {req : ReserveItemsRequest} (hvalid : req.Valid)
    (hpos : req.items.Positive) (w : World) (server : List (CallFault Fault)) :
    let statement := (server.headD .works).mode
    let release := (server.tail.headD .works).mode
    let outcome := (reserveItems req).run (scripted inventoryExec .works) (w, server)
    (statement.reaches = false → outcome.state.1.stock = w.stock) ∧
    (statement.reaches = true → statement ≠ .works →
      (∃ err, outcome.value = .error err) ∧ Taken req.items w outcome.state.1) ∧
    (statement = .works → w.stock.Covers req.items →
      outcome.value = .ok ⟨req.orderID, true, ""⟩ ∧ Taken req.items w outcome.state.1) ∧
    (statement = .works → ¬ w.stock.Covers req.items →
      outcome.value = .ok ⟨req.orderID, false, "insufficient stock"⟩ ∧
      (release.reaches = true → outcome.state.1.stock = w.stock) ∧
      (release.reaches = false → Taken req.items w outcome.state.1)) := by
  obtain ⟨reserved, stock', hok, hexec⟩ := exec_reserveStock w hpos
  obtain ⟨_, havailable, _⟩ := StockTable.reserveStock_ok hok
  have hiff := StockTable.allReserved_iff hpos hok
  have hundo := StockTable.releaseStock_reserveStock hok
  have hstock : World.onStock (fun stock => stock.reserveStock req.items) w =
      (.ok reserved, { w with stock := stock' }) := hexec
  rw [reserveItems_valid hvalid, Prog.run_call]
  simp only [scripted, inventoryExec]
  cases hstatement : (server.headD .works).mode with
  | fails err =>
      exact ⟨fun _ => rfl, fun h => absurd h Bool.false_ne_true,
        fun h => absurd h (Fault.fails_ne_works err), fun h => absurd h (Fault.fails_ne_works err)⟩
  | loses err =>
      have hstate : (Fault.loses err).run "failed to reserve stock: "
          (World.onStock fun stock => stock.reserveStock req.items) w =
          (.error (.fault ("failed to reserve stock: " ++ err)), { w with stock := stock' }) :=
        congrArg (Prod.mk _) (congrArg Prod.snd hstock)
      simp only [hstate]
      exact ⟨fun h => absurd h.symm Bool.false_ne_true, fun _ _ => ⟨⟨_, rfl⟩, havailable⟩,
        fun h => absurd h (Fault.loses_ne_works err), fun h => absurd h (Fault.loses_ne_works err)⟩
  | works =>
      simp only [Fault.run_works, hstock]
      refine ⟨fun h => absurd h.symm Bool.false_ne_true, fun _ h => absurd rfl h, fun _ hcovers => ?_,
        fun _ hnot => ?_⟩
      · simp only [afterReserve, if_pos (hiff.mpr hcovers), Prog.run_ret, true_and]
        exact havailable
      · have hrejected : allReserved req.items reserved = false :=
          Bool.eq_false_iff.mpr fun h => hnot (hiff.mp h)
        simp only [afterReserve, hrejected, Bool.false_eq_true, if_false]
        split
        · simp only [Prog.run_call, Prog.run_ret, true_and]
          refine ⟨fun hreaches => ?_, fun hreaches => ?_⟩
          · have hrelease : (World.onStock (fun stock =>
                (stock.releaseStock reserved).map fun stock => ((), stock))
                { w with stock := stock' }).2.stock = w.stock := by
              rw [World.onStock, hundo]
              rfl
            refine Eq.trans ?_ hrelease
            exact congrArg World.stock (Fault.run_state_of_reaches hreaches _ _ _)
          · have hunreached : ((server.tail.headD .works).mode.run "failed to release stock: "
                (World.onStock fun stock =>
                  (stock.releaseStock reserved).map fun stock => ((), stock))
                { w with stock := stock' }).2 = { w with stock := stock' } :=
              Fault.run_state_of_not_reaches hreaches _ _ _
            intro sku
            refine Eq.trans ?_ (havailable sku)
            exact congrArg (fun w : World => w.stock.available sku) hunreached
        · rename_i hnone
          have hsame : stock' = w.stock := by
            rw [StockTable.releaseStock_empty stock' (by omega)] at hundo
            exact Except.ok.inj hundo
          exact ⟨rfl, fun _ => hsame, fun _ => havailable⟩

/-- When the statement that creates an order answers without an error. -/
private theorem createGroceryOrder_exec (fault : CallFault (CallFault Fault)) (order : GroceryOrder)
    (items : ItemMap) (w : World) :
    let answer := orderingExec fault (.store (.createGroceryOrder order (orderLines items))) w
    answer.2.stock = w.stock ∧ (answer.1 = .ok () ↔ fault.mode = .works ∧
      w.ordering.groceryOrders.lookup order.orderID = none) := by
  intro answer
  have hanswer : answer.1 = (fault.mode.run ""
      (commit (OrderingDB.createGroceryOrder w.now order (orderLines items))) w.ordering).1 := rfl
  refine ⟨rfl, ?_⟩
  rw [hanswer]
  cases fault.mode with
  | fails err =>
      refine ⟨fun h => ?_, fun h => absurd h.1 (Fault.fails_ne_works err)⟩
      cases h
  | loses err =>
      refine ⟨fun h => ?_, fun h => absurd h.1 (Fault.loses_ne_works err)⟩
      cases h
  | works =>
      rw [Fault.run_works, commit]
      cases hrow : w.ordering.groceryOrders.lookup order.orderID with
      | none =>
          rw [createGroceryOrder_orderLines _ _ _ _ hrow]
          exact ⟨fun _ => ⟨rfl, rfl⟩, fun _ => rfl⟩
      | some row =>
          rw [OrderingDB.createGroceryOrder, hrow]
          refine ⟨fun h => ?_, fun h => absurd h.2 (Option.some_ne_none row)⟩
          cases h

/-- The request after its call: no other step touches stock, and it answers 201
when the call granted the items and the order is created. -/
private theorem previewOrder_run (user : Int) (cart : List CartItem) (orderUUID : OrderID)
    (w : World) (faults : PreviewFaults) :
    let answer := orderingExec faults.call (.reserveItems ⟨orderUUID, cartMap cart⟩) w
    let outcome := (previewOrder (some user) (some cart) orderUUID).run
      (scripted orderingExec .works) (w, faults.script)
    outcome.state.1.stock = answer.2.stock ∧
      (outcome.value.status = some 201 ↔
        (∃ resp, answer.1 = .ok resp ∧ resp.success = true) ∧ faults.create.mode = .works ∧
          answer.2.ordering.groceryOrders.lookup orderUUID = none) := by
  intro answer outcome
  have hfirst : scripted orderingExec .works (.reserveItems ⟨orderUUID, cartMap cart⟩)
      (w, faults.script) = (answer.1, (answer.2, [faults.create])) := rfl
  have houtcome : outcome = _ := Prog.run_call _ _ _ _
  rw [houtcome, hfirst]
  cases hanswer : answer.1 with
  | error err => simp [httpError, Reply.status]
  | ok resp =>
      cases hsuccess : resp.success with
      | false => simp [hsuccess, httpError, Reply.status]
      | true =>
          obtain ⟨hstock, hcreated⟩ := createGroceryOrder_exec faults.create
            { orderID := orderUUID, clientID := user, status := .pending } (cartMap cart) answer.2
          simp only [hsuccess, Bool.not_true, Bool.false_eq_true, if_false, Prog.run_call, scripted,
            List.headD_cons]
          have hgranted : ∃ granted, Except.ok (ε := GoError) resp = .ok granted ∧
              granted.success = true := ⟨resp, rfl, hsuccess⟩
          refine ⟨?_, ?_⟩
          · split <;> exact hstock
          · rw [← hcreated, and_iff_right hgranted]
            split
            · rename_i herror
              simp [herror, httpError, Reply.status]
            · rename_i hok
              simp [hok, Reply.status]

private theorem Taken.unchanged_iff {w' : World} (htaken : Taken items w w') :
    (∀ sku, w'.stock.available sku = w.stock.available sku) ↔
      ¬ ∃ sku, w.stock.takes items sku ≠ 0 := by
  push Not
  refine forall_congr' fun sku => ?_
  rw [htaken sku]
  omega

/-- What the call of `ReserveItems` leaves behind, for a request that reaches its
statement. -/
private theorem reserveItems_call (hnamed : orderUUID ≠ "") (hitems : items.entries.length ≠ 0)
    (hpos : items.Positive) (hcalled : faults.call.mode.reaches = true)
    (hexecuted : faults.statement.reaches = true) :
    let answer := orderingExec faults.call (.reserveItems ⟨orderUUID, items⟩) w
    answer.2.ordering = w.ordering ∧
    ((faults.statement = .works ∧ w.stock.Covers items ∧ Taken items w answer.2 ∧
        ((∃ resp, answer.1 = .ok resp ∧ resp.success = true) ↔ faults.call.mode = .works)) ∨
      ((¬ ∃ resp, answer.1 = .ok resp ∧ resp.success = true) ∧
        ((faults.statement ≠ .works ∧ Taken items w answer.2) ∨
          (faults.statement = .works ∧ ¬ w.stock.Covers items ∧
            (faults.release.reaches = true → answer.2.stock = w.stock) ∧
            (faults.release.reaches = false → Taken items w answer.2))))) := by
  intro answer
  have hvalid : ReserveItemsRequest.Valid ⟨orderUUID, items⟩ := ⟨hnamed, hitems⟩
  obtain ⟨_, hlost, hgranted, hrejected⟩ := reserveItems_server hvalid hpos w faults.call.server
  have hstate : answer.2 = _ := CallFault.call_state _ _ _ _ hcalled
  have hanswer (hmode : faults.call.mode = .works) : answer.1 = _ :=
    CallFault.call_answer _ _ _ _ hmode
  have hunanswered (hmode : faults.call.mode ≠ .works) :
      ¬ ∃ resp, answer.1 = .ok resp ∧ resp.success = true := by
    rintro ⟨resp, hresp, _⟩
    obtain ⟨err, herr⟩ := CallFault.call_error inventoryExec .works
      (reserveItems ⟨orderUUID, items⟩) w hmode
    have hsame := herr.symm.trans hresp
    cases hsame
  refine ⟨(stockCall_frame faults.call w (reserveItems_uses _)).1, ?_⟩
  by_cases hworks : faults.statement = .works
  · by_cases hcovers : w.stock.Covers items
    · obtain ⟨hvalue, htaken⟩ := hgranted hworks hcovers
      refine Or.inl ⟨hworks, hcovers, hstate ▸ htaken, fun hresp => ?_, fun hmode => ?_⟩
      · by_contra hmode
        exact hunanswered hmode hresp
      · exact ⟨⟨orderUUID, true, ""⟩, by rw [hanswer hmode, hvalue]; rfl, rfl⟩
    · obtain ⟨hvalue, hback, hkept⟩ := hrejected hworks hcovers
      refine Or.inr ⟨?_, Or.inr ⟨hworks, hcovers, hstate ▸ hback, hstate ▸ hkept⟩⟩
      by_cases hmode : faults.call.mode = .works
      · rintro ⟨resp, hresp, hsuccess⟩
        rw [hanswer hmode, hvalue] at hresp
        cases hresp
        cases hsuccess
      · exact hunanswered hmode
  · obtain ⟨⟨err, hvalue⟩, htaken⟩ := hlost hexecuted hworks
    refine Or.inr ⟨?_, Or.inl ⟨hworks, hstate ▸ htaken⟩⟩
    by_cases hmode : faults.call.mode = .works
    · rintro ⟨resp, hresp, _⟩
      rw [hanswer hmode, hvalue] at hresp
      cases hresp
    · exact hunanswered hmode

/-- A request that does not reach its statement takes nothing. -/
private theorem reserveItems_unreached (hpos : items.Positive)
    (hunreached : orderUUID = "" ∨ items.entries.length = 0 ∨ faults.call.mode.reaches = false ∨
      faults.statement.reaches = false) :
    (orderingExec faults.call (.reserveItems ⟨orderUUID, items⟩) w).2.stock = w.stock := by
  cases hcalled : faults.call.mode.reaches with
  | false => exact congrArg World.stock (CallFault.call_unreached _ _ _ _ hcalled)
  | true =>
      refine (congrArg World.stock (CallFault.call_state _ _ _ _ hcalled)).trans ?_
      by_cases hvalid : ReserveItemsRequest.Valid ⟨orderUUID, items⟩
      · obtain ⟨hnamed, hitems⟩ := hvalid
        rcases hunreached with h | h | h | h
        · exact absurd h hnamed
        · exact absurd h hitems
        · rw [hcalled] at h
          cases h
        · exact (reserveItems_server ⟨hnamed, hitems⟩ hpos w faults.call.server).1 h
      · obtain ⟨resp, hret, _⟩ := reserveItems_invalid hvalid
        rw [hret]
        rfl

/-- A request that takes units reaches its statement. -/
private theorem Reserves.reached (hreserves : Reserves userID orderUUID items w faults) :
    ¬ (orderUUID = "" ∨ items.entries.length = 0 ∨ faults.call.mode.reaches = false ∨
      faults.statement.reaches = false) := by
  rintro (hunnamed | hempty | huncalled | hunexecuted)
  · exact hreserves.named hunnamed
  · obtain ⟨sku, htaken⟩ := hreserves.taken
    obtain rfl : items = ∅ := AList.ext (List.length_eq_zero_iff.mp hempty)
    simp [StockTable.takes] at htaken
  · exact Bool.false_ne_true (huncalled.symm.trans hreserves.called)
  · exact Bool.false_ne_true (hunexecuted.symm.trans hreserves.executed)

/-- **When a failed preview holds no stock.** Under any faults, a preview of
positive quantities that does not answer 201 leaves every quantity as it was if
and only if, in case it takes units at all, the reserve statement answers, and
then: when the stock covers the request the answer of the call arrives and the
order is created, and when it does not the release of what was taken takes
effect. -/
theorem failed_preview_holds_no_stock_iff {cart : List CartItem} (hpos : (cartMap cart).Positive) :
    let outcome := (previewOrder userID (some cart) orderUUID).run (scripted orderingExec .works)
      (w, faults.script)
    (outcome.value.status ≠ some 201 →
      ∀ sku, outcome.state.1.stock.available sku = w.stock.available sku) ↔
    (Reserves userID orderUUID (cartMap cart) w faults →
      Settles orderUUID (cartMap cart) w faults) := by
  intro outcome
  cases userID with
  | none => exact ⟨fun _ h => absurd rfl h.user, fun _ _ _ => rfl⟩
  | some user =>
      obtain ⟨hstock, hstatus⟩ := previewOrder_run user cart orderUUID w faults
      set answer := orderingExec faults.call (.reserveItems ⟨orderUUID, cartMap cart⟩) w
      have houtcome : (∀ sku, outcome.state.1.stock.available sku = w.stock.available sku) ↔
          ∀ sku, answer.2.stock.available sku = w.stock.available sku := by
        rw [show outcome.state.1.stock = answer.2.stock from hstock]
      rw [houtcome, show outcome.value.status ≠ some 201 ↔ _ from not_congr hstatus]
      by_cases hunreached : orderUUID = "" ∨ (cartMap cart).entries.length = 0 ∨
          faults.call.mode.reaches = false ∨ faults.statement.reaches = false
      · have hsame := reserveItems_unreached (w := w) hpos hunreached
        exact ⟨fun _ hreserves => absurd hunreached hreserves.reached,
          fun _ _ sku => congrArg (fun stock => stock.available sku) hsame⟩
      · push Not at hunreached
        obtain ⟨hnamed, hitems, hcalled, hexecuted⟩ := hunreached
        rw [ne_eq, Bool.not_eq_false] at hcalled hexecuted
        have hreserves : Reserves (some user) orderUUID (cartMap cart) w faults ↔
            ∃ sku, w.stock.takes (cartMap cart) sku ≠ 0 :=
          ⟨fun h => h.taken, fun h => ⟨Option.some_ne_none user, hnamed, hcalled, hexecuted, h⟩⟩
        obtain ⟨hordering, hcall⟩ := reserveItems_call (w := w) hnamed hitems hpos hcalled hexecuted
        rw [hreserves, show answer.2.ordering = w.ordering from hordering]
        rcases hcall with ⟨hworks, hcovers, htaken, hgranted⟩ | ⟨hrejected, hlost | hback⟩
        · rw [htaken.unchanged_iff, hgranted]
          refine ⟨fun h hsome => ⟨hworks, fun _ => ?_, fun hnot => absurd hcovers hnot⟩,
            fun h hfailed hsome => hfailed ((h hsome).covered hcovers)⟩
          by_contra hfailed
          exact h hfailed hsome
        · obtain ⟨hstatement, htaken⟩ := hlost
          rw [htaken.unchanged_iff]
          exact ⟨fun h hsome => absurd hsome (h fun hcreated => hrejected hcreated.1),
            fun h _ hsome => hstatement (h hsome).answered⟩
        · obtain ⟨hstatement, hnot, hundone, hkept⟩ := hback
          cases hrelease : faults.release.reaches with
          | true =>
              have hsame := hundone hrelease
              exact ⟨fun _ _ => ⟨hstatement, fun h => absurd h hnot, fun _ => hrelease⟩,
                fun _ _ sku => congrArg (fun stock => stock.available sku) hsame⟩
          | false =>
              rw [(hkept hrelease).unchanged_iff]
              refine ⟨fun h hsome => absurd hsome (h fun hcreated => hrejected hcreated.1),
                fun h _ hsome => ?_⟩
              have hreached := (h hsome).uncovered hnot
              rw [hrelease] at hreached
              cases hreached

end

/-- Nine units of milk when there are five: the request is rejected, and what it
took is released. -/
theorem failed_preview_holds_no_stock_iff_sample :
    let outcome := (previewOrder (some 7) (some [⟨"milk", 9⟩]) "order-2").run
      (scripted orderingExec .works) (Sample.world, PreviewFaults.script ⟨.works, .works⟩)
    outcome.value.status = some 409 ∧
      ∀ sku, outcome.state.1.stock.available sku = Sample.world.stock.available sku := by
  intro outcome
  have hstatus : outcome.value.status = some 409 := by decide +kernel
  have hsettles : Settles "order-2" (cartMap [⟨"milk", 9⟩]) Sample.world ⟨.works, .works⟩ :=
    ⟨rfl, fun h => absurd h (by decide +kernel), fun _ => rfl⟩
  refine ⟨hstatus, (failed_preview_holds_no_stock_iff (by decide)).mpr (fun _ => hsettles) ?_⟩
  intro h
  exact absurd (hstatus.symm.trans h) (by decide)

/-- When the order cannot be created the request answers 500, and the two units
it reserved stay out of stock. -/
theorem failed_preview_holds_stock :
    ∃ (w : World) (cart : List CartItem) (faults : PreviewFaults),
      (cartMap cart).Positive ∧
      let outcome := (previewOrder (some 7) (some cart) "order-2").run (scripted orderingExec .works)
        (w, faults.script)
      outcome.value.status = some 500 ∧ w.stock.available "milk" = 5 ∧
        outcome.state.1.stock.available "milk" = 3 ∧
        outcome.state.1.ordering.groceryOrders.lookup "order-2" = none :=
  ⟨Sample.world, [⟨"milk", 2⟩], ⟨.works, ⟨.fails "failed to save order header: bad connection", []⟩⟩,
    by decide, by decide +kernel, by decide +kernel, by decide +kernel, by decide +kernel⟩

end AutoGrocery

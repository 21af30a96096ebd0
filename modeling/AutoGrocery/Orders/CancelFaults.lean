import AutoGrocery.Orders.Cancel

/-!
Failed cancels. A cancel request reads the lines of the order, releases them and
deletes the order, and looks at the answer of none of these steps. It loses or
invents no stock when the release and the delete take effect together or not at
all.
-/

namespace AutoGrocery

open Interleaving InventoryHandler

/-- The faults of one cancel request. -/
structure CancelFaults where
  check : CallFault (CallFault Fault)
  load : CallFault (CallFault Fault)
  release : CallFault (CallFault Fault)
  delete : CallFault (CallFault Fault)

namespace CancelFaults

/-- The statement inventory runs for the release. -/
def statement (faults : CancelFaults) : Fault := (faults.release.server.headD .works).mode

/-- As a script of the request. -/
def script (faults : CancelFaults) : List (CallFault (CallFault Fault)) :=
  [faults.check, faults.load, faults.release, faults.delete]

end CancelFaults

/-- The request is its owner's and finds the order. -/
def CancelFaults.Admits (faults : CancelFaults) (userID : Option Int) (row : OrderRow) : Prop :=
  userID = some row.clientID ∧ faults.check.mode = .works

/-- The lines are read, the release arrives, its statement is reached, and no
quantity grows out of its column. -/
structure CancelFaults.Releases (faults : CancelFaults) (orderID : OrderID) (w : World) : Prop where
  loaded : faults.load.mode = .works
  called : faults.release.mode.reaches = true
  executed : faults.statement.reaches = true
  fits : ∀ sku ∈ w.stock, w.stock.available sku + w.ordering.ordered orderID sku < 2 ^ 31

section

variable {orderID : OrderID} {w : World} {row : OrderRow} {faults : CancelFaults}

/-- What the call of `ReleaseItems` does to stock under any faults. -/
private theorem releaseItems_call (fault : CallFault (CallFault Fault)) (req : ReleaseItemsRequest)
    (w : World) :
    let w' := (orderingExec fault (.releaseItems req) w).2
    let executed := fault.mode.reaches = true ∧ (fault.server.headD .works).mode.reaches = true
    w'.ordering = w.ordering ∧
    (∀ stock', executed → w.stock.releaseStock req.items = .ok stock' → w'.stock = stock') ∧
    (¬ (executed ∧ ∃ stock', w.stock.releaseStock req.items = .ok stock') → w'.stock = w.stock) := by
  intro w' executed
  refine ⟨(stockCall_frame fault w (releaseItems_uses req)).1, ?_⟩
  cases hcalled : fault.mode.reaches with
  | false =>
      have hstate : w' = w := CallFault.call_unreached _ _ _ _ hcalled
      exact ⟨fun _ h => absurd (hcalled.symm.trans h.1) Bool.false_ne_true,
        fun _ => congrArg World.stock hstate⟩
  | true =>
      have hstate : w' = _ := CallFault.call_state _ _ _ _ hcalled
      rw [hstate]
      by_cases hempty : req.items.entries.length = 0
      · rw [releaseItems, if_pos hempty]
        refine ⟨fun stock' _ hok => ?_, fun _ => rfl⟩
        rw [StockTable.releaseStock_empty _ hempty] at hok
        exact Except.ok.inj hok
      · have hstatement : ((releaseItems req).run (scripted inventoryExec .works)
            (w, fault.server)).state.1 =
            ((fault.server.headD .works).mode.run "failed to release stock: "
              (World.onStock fun stock =>
                (stock.releaseStock req.items).map fun stock => ((), stock)) w).2 := by
          rw [releaseItems, if_neg hempty, Prog.run_call]
          simp only [scripted, inventoryExec]
          split <;> rfl
        rw [hstatement]
        cases hexecuted : (fault.server.headD .works).mode.reaches with
        | false =>
            rw [Fault.run_state_of_not_reaches hexecuted]
            exact ⟨fun _ h => absurd (hexecuted.symm.trans h.2) Bool.false_ne_true, fun _ => rfl⟩
        | true =>
            rw [Fault.run_state_of_reaches hexecuted, World.onStock]
            cases hok : w.stock.releaseStock req.items with
            | error err =>
                refine ⟨fun _ _ h => ?_, fun _ => rfl⟩
                cases h
            | ok stock =>
                refine ⟨fun stock' _ h => Except.ok.inj h, fun hnot => ?_⟩
                exact absurd ⟨⟨hcalled, hexecuted⟩, stock, rfl⟩ hnot

/-- What the request holds after reading the lines. -/
private theorem getOrderItems_load (fault : CallFault (CallFault Fault)) (orderID : OrderID) (w : World) :
    let answer := orderingExec fault (.store (.getOrderItems orderID)) w
    answer.2 = w ∧
      (fault.mode = .works → protoItems (itemsRead answer.1) = w.ordering.listed orderID) ∧
      (fault.mode ≠ .works → protoItems (itemsRead answer.1) = ∅) := by
  rcases fault with ⟨_ | _ | _, script⟩
  · exact ⟨rfl, fun _ => rfl, fun h => absurd rfl h⟩
  · exact ⟨rfl, fun h => absurd h (Fault.fails_ne_works _), fun _ => rfl⟩
  · exact ⟨rfl, fun h => absurd h (Fault.loses_ne_works _), fun _ => rfl⟩

/-- The delete of an order that exists. -/
private theorem deleteOrder_call (fault : CallFault (CallFault Fault)) {w : World}
    (hrow : w.ordering.groceryOrders.lookup orderID = some row) :
    let w' := (orderingExec fault (.store (.deleteOrder orderID)) w).2
    w'.stock = w.stock ∧
      (w'.ordering.groceryOrders.lookup orderID = none ↔ fault.mode.reaches = true) := by
  intro w'
  have hordering : w'.ordering =
      (fault.mode.run "" (commit (OrderingDB.deleteOrder orderID)) w.ordering).2 := rfl
  refine ⟨rfl, ?_⟩
  rw [hordering]
  cases hreaches : fault.mode.reaches with
  | false =>
      rw [Fault.run_state_of_not_reaches hreaches, hrow]
      exact ⟨fun h => absurd h (Option.some_ne_none row), fun h => absurd h Bool.false_ne_true⟩
  | true =>
      rw [Fault.run_state_of_reaches hreaches, commit, OrderingDB.deleteOrder, hrow]
      exact ⟨fun _ => rfl, fun _ => AList.lookup_erase orderID _⟩

/-- Past its check, the request leaves the lines released or not and the order
deleted or not. -/
private theorem cancelItems_run (faults : CancelFaults) (hrow : w.ordering.groceryOrders.lookup orderID = some row)
    (hplaced : Placed w.stock (w.ordering.itemRows row.id)) :
    let w' := ((cancelItems orderID).run (scripted orderingExec .works)
      (w, [faults.load, faults.release, faults.delete])).state.1
    (faults.Releases orderID w → ∀ sku, w'.stock.available sku =
      w.stock.available sku + w.ordering.ordered orderID sku) ∧
    (¬ faults.Releases orderID w → ∀ sku, w'.stock.available sku = w.stock.available sku) ∧
    (w'.ordering.groceryOrders.lookup orderID = none ↔ faults.delete.mode.reaches = true) := by
  intro w'
  obtain ⟨hread, hloaded, hunloaded⟩ := getOrderItems_load faults.load orderID w
  set answer := orderingExec faults.load (.store (.getOrderItems orderID)) w with hanswer
  set req : ReleaseItemsRequest := ⟨orderID, protoItems (itemsRead answer.1)⟩ with hreq
  set released := (orderingExec faults.release (.releaseItems req) w).2 with hreleased
  obtain ⟨hordering, htaken, hnot⟩ := releaseItems_call faults.release req w
  have hstate : w' = (orderingExec faults.delete (.store (.deleteOrder orderID)) released).2 := by
    have hrun : w' = ((cancelItems orderID).run (scripted orderingExec .works)
        (w, [faults.load, faults.release, faults.delete])).state.1 := rfl
    rw [hrun, cancelItems, Prog.run_call]
    simp only [scripted, List.headD_cons, ← hanswer, hread]
    rfl
  obtain ⟨hstock, hgone⟩ := deleteOrder_call faults.delete
    (show released.ordering.groceryOrders.lookup orderID = some row by rw [hordering]; exact hrow)
  rw [hstate, hstock]
  refine ⟨fun hreleases sku => ?_, fun hunreleased sku => ?_, hgone⟩
  · have hitems : req.items = w.ordering.listed orderID := hloaded hreleases.loaded
    obtain ⟨stock', hok⟩ := (StockTable.releaseStock_isOk_iff w.stock req.items).mpr fun sku hsku => by
      have hunits := released_units hrow hplaced sku
      rw [if_pos hsku, ← hitems] at hunits
      have hupper := hreleases.fits sku hsku
      have hordered : 0 ≤ w.ordering.ordered orderID sku := by
        rw [OrderingDB.ordered_of_lookup hrow]
        exact lineUnits_nonneg hplaced.nonneg sku
      have hlower := (StockTable.available_range w.stock sku).1
      omega
    rw [htaken stock' ⟨hreleases.called, hreleases.executed⟩ hok, (StockTable.releaseStock_ok hok).1,
      hitems, released_units hrow hplaced]
  · by_cases hloads : faults.load.mode = .works
    · have hitems : req.items = w.ordering.listed orderID := hloaded hloads
      rw [hnot]
      rintro ⟨⟨hcalled, hexecuted⟩, hok⟩
      refine hunreleased ⟨hloads, hcalled, hexecuted, fun sku hsku => ?_⟩
      have hrange := (StockTable.releaseStock_isOk_iff w.stock req.items).mp hok sku hsku
      have hunits := released_units hrow hplaced sku
      rw [if_pos hsku, ← hitems] at hunits
      omega
    · have hitems : req.items = ∅ := hunloaded hloads
      have hsame : w.stock.releaseStock req.items = .ok w.stock :=
        StockTable.releaseStock_empty _ (by rw [hitems]; rfl)
      by_cases hexecuted : faults.release.mode.reaches = true ∧
          (faults.release.server.headD .works).mode.reaches = true
      · rw [htaken w.stock hexecuted hsame]
      · rw [hnot fun h => hexecuted h.1]

/-- The check of a cancel request. -/
private theorem cancelOrder_run (faults : CancelFaults) (hrow : w.ordering.groceryOrders.lookup orderID = some row)
    (userID : Option Int) :
    let w' := ((cancelOrder userID orderID).run (scripted orderingExec .works)
      (w, faults.script)).state.1
    (faults.Admits userID row → w' = ((cancelItems orderID).run (scripted orderingExec .works)
      (w, [faults.load, faults.release, faults.delete])).state.1) ∧
    (¬ faults.Admits userID row → w' = w) := by
  intro w'
  cases userID with
  | none => exact ⟨fun h => absurd h.1.symm (Option.some_ne_none row.clientID), fun _ => rfl⟩
  | some user =>
      have hrun : w' = ((cancelOrder (some user) orderID).run (scripted orderingExec .works)
        (w, faults.script)).state.1 := rfl
      rw [hrun, cancelOrder, Prog.run_call]
      simp only [scripted, CancelFaults.script, List.headD_cons, List.tail_cons]
      cases hcheck : faults.check.mode with
      | fails err =>
          have hexec : orderingExec faults.check (.store (.getOrderByID orderID)) w =
              (.error (.fault ("" ++ err)), w) := by
            simp [orderingExec, storeExec, hcheck, Fault.run]
          rw [hexec]
          exact ⟨fun h => absurd (hcheck.symm.trans h.2) (Fault.fails_ne_works err), fun _ => rfl⟩
      | loses err =>
          have hexec : orderingExec faults.check (.store (.getOrderByID orderID)) w =
              (.error (.fault ("" ++ err)), w) := by
            simp [orderingExec, storeExec, hcheck, Fault.run]
          rw [hexec]
          exact ⟨fun h => absurd (hcheck.symm.trans h.2) (Fault.loses_ne_works err), fun _ => rfl⟩
      | works =>
          have hexec : orderingExec faults.check (.store (.getOrderByID orderID)) w =
              (.ok (some ⟨row.id, orderID, row.clientID, row.status, row.totalPrice, row.createdAt⟩),
                w) := by
            simp [orderingExec, storeExec, hcheck, OrderingDB.getOrderByID, hrow]
          rw [hexec]
          by_cases howner : row.clientID = user
          · simp only [howner, ne_eq, not_true_eq_false, if_false]
            exact ⟨fun _ => trivial, fun h => absurd ⟨by rw [howner], hcheck⟩ h⟩
          · simp only [howner, ne_eq, not_false_eq_true, if_true]
            exact ⟨fun h => absurd (Option.some.inj h.1).symm howner, fun _ => rfl⟩

/-- **When a cancel neither loses nor invents stock.** Take an order whose lines
are as a preview stores them, and one cancel request under any faults. If the
order's row is gone afterwards the units of every line are back, and if it still
exists none are, if and only if, in case the request is admitted and the order
has any units, the delete takes effect exactly when the release does. -/
theorem cancel_keeps_stock_iff {userID : Option Int}
    (hrow : w.ordering.groceryOrders.lookup orderID = some row)
    (hplaced : Placed w.stock (w.ordering.itemRows row.id)) :
    let w' := ((cancelOrder userID orderID).run (scripted orderingExec .works)
      (w, faults.script)).state.1
    ((w'.ordering.groceryOrders.lookup orderID = none → ∀ sku, w'.stock.available sku =
        w.stock.available sku + w.ordering.ordered orderID sku) ∧
      (w'.ordering.groceryOrders.lookup orderID ≠ none → ∀ sku, w'.stock.available sku =
        w.stock.available sku)) ↔
    (faults.Admits userID row → (∃ sku, w.ordering.ordered orderID sku ≠ 0) →
      (faults.delete.mode.reaches = true ↔ faults.Releases orderID w)) := by
  intro w'
  obtain ⟨hadmitted, hrefused⟩ := cancelOrder_run faults hrow userID
  by_cases hadmits : faults.Admits userID row
  case neg =>
    have hsame : w' = w := hrefused hadmits
    rw [hsame, hrow]
    exact ⟨fun _ h => absurd h hadmits, fun _ =>
      ⟨fun h => absurd h (Option.some_ne_none row), fun _ _ => rfl⟩⟩
  have hrun : w' = _ := hadmitted hadmits
  obtain ⟨hback, hkept, hgone⟩ := cancelItems_run faults hrow hplaced
  rw [hrun, ne_eq, hgone]
  by_cases hreleases : faults.Releases orderID w
  · have havailable := hback hreleases
    constructor
    · rintro ⟨_, hexists⟩ _ ⟨sku, hsku⟩
      refine ⟨fun _ => hreleases, fun _ => ?_⟩
      by_contra hdelete
      have hunits := hexists hdelete sku
      rw [havailable sku] at hunits
      omega
    · intro h
      refine ⟨fun _ => havailable, fun hdelete sku => ?_⟩
      have hzero : w.ordering.ordered orderID sku = 0 := by
        by_contra hsku
        exact hdelete ((h hadmits ⟨sku, hsku⟩).mpr hreleases)
      rw [havailable sku, hzero, add_zero]
  · have havailable := hkept hreleases
    constructor
    · rintro ⟨hdeleted, _⟩ _ ⟨sku, hsku⟩
      refine ⟨fun hdelete => ?_, fun h => absurd h hreleases⟩
      have hunits := hdeleted hdelete sku
      rw [havailable sku] at hunits
      omega
    · intro h
      refine ⟨fun hdelete sku => ?_, fun _ => havailable⟩
      have hzero : w.ordering.ordered orderID sku = 0 := by
        by_contra hsku
        exact hreleases ((h hadmits ⟨sku, hsku⟩).mp hdelete)
      rw [havailable sku, hzero, add_zero]

end

/-! ### On one order -/

/-- Cancelled by its owner without a fault, the sample order is gone and its two
units are back. -/
theorem cancel_keeps_stock_iff_sample :
    let w' := ((cancelOrder (some 7) "order-1").run (scripted orderingExec .works)
      (Sample.world, CancelFaults.script ⟨.works, .works, .works, .works⟩)).state.1
    w'.ordering.groceryOrders.lookup "order-1" = none ∧
      ∀ sku, w'.stock.available sku =
        Sample.world.stock.available sku + Sample.world.ordering.ordered "order-1" sku := by
  intro w'
  have hgone : w'.ordering.groceryOrders.lookup "order-1" = none := by decide +kernel
  have hreleases : CancelFaults.Releases ⟨.works, .works, .works, .works⟩ "order-1" Sample.world :=
    ⟨rfl, rfl, rfl, by decide +kernel⟩
  refine ⟨hgone, ((@cancel_keeps_stock_iff "order-1" _ ⟨1, 7, .pending, 0, 0⟩ _ _ rfl
    ⟨by decide, by decide, by decide⟩).mpr fun _ _ => ⟨fun _ => hreleases, fun _ => rfl⟩).1 hgone⟩

/-- When the release cannot reach inventory the order is deleted all the same,
and its two units are in no order and not in stock. -/
theorem cancel_loses_stock :
    ∃ (w : World) (faults : CancelFaults) (row : OrderRow),
      w.ordering.groceryOrders.lookup "order-1" = some row ∧ row.status = .pending ∧
      Placed w.stock (w.ordering.itemRows row.id) ∧
      let w' := ((cancelOrder (some 7) "order-1").run (scripted orderingExec .works)
        (w, faults.script)).state.1
      w'.ordering.groceryOrders.lookup "order-1" = none ∧
        w.ordering.ordered "order-1" "milk" = 2 ∧
        w'.stock.available "milk" = w.stock.available "milk" :=
  ⟨Sample.world, ⟨.works, .works, ⟨.fails "connection refused", []⟩, .works⟩, ⟨1, 7, .pending, 0, 0⟩,
    rfl, rfl, ⟨by decide, by decide, by decide⟩, by decide +kernel, by decide +kernel,
    by decide +kernel⟩

end AutoGrocery

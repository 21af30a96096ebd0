import AutoGrocery.Orders.Calls

/-!
How often a cancelled order is given back. A cancel request reads the order,
reads its lines, releases them and deletes the order. Inventory keeps no record
of order ids, so what is released is what the request read. If a request reads
the lines of an existing order only while no other one stands between its own
reading and its delete, the units of the order come back once.
-/

namespace AutoGrocery

open Interleaving

/-- The lines of an order as a preview stores them: a SKU stands in one line,
and units can only have been reserved from a row. -/
structure Placed (stock : StockTable) (lines : List OrderItemRow) : Prop where
  nodup : (lines.map OrderItemRow.sku).Nodup
  nonneg : ∀ line ∈ lines, 0 ≤ line.quantity.toInt
  stocked : ∀ line ∈ lines, 0 < line.quantity.toInt → line.sku ∈ stock

theorem Placed.mem_of_units {stock : StockTable} {lines : List OrderItemRow}
    (hplaced : Placed stock lines) {sku : SKU} (hunits : lineUnits lines sku ≠ 0) : sku ∈ stock := by
  obtain ⟨line, hline, hsku, hquantity⟩ := mem_of_lineUnits hunits
  have hnonneg := hplaced.nonneg line hline
  exact hsku ▸ hplaced.stocked line hline (by omega)

/-- The map a cancel request makes of the lines it reads. -/
def OrderingDB.listed (db : OrderingDB) (orderID : OrderID) : ItemMap :=
  protoItems (itemsRead (db.getOrderItems orderID))

theorem OrderingDB.listed_of_lookup {db : OrderingDB} {orderID : OrderID} {row : OrderRow}
    (hrow : db.groceryOrders.lookup orderID = some row) :
    db.listed orderID = protoItems (orderItems (db.itemRows row.id)) := by
  rw [listed, getOrderItems_of_lookup hrow]
  rfl

theorem OrderingDB.listed_of_lookup_none {db : OrderingDB} {orderID : OrderID}
    (hrow : db.groceryOrders.lookup orderID = none) : db.listed orderID = ∅ := by
  rw [listed, getOrderItems, hrow]
  rfl

/-! ### The request as a protocol -/

/-- Where a cancel request stands; each phase but the last is named after the
operation it performs next. -/
inductive CancelPhase where
  | checking
  | loading
  | releasing (items : ItemMap)
  | deleting
  | ended

/-- The thread of a cancel request of an order at a phase. -/
inductive CancelAt (orderID : OrderID) : CancelPhase → Thread → Prop where
  | ended (reply : Reply) : CancelAt orderID .ended (.ordering (.ret reply))
  | deleting (reply : Reply) :
      CancelAt orderID .deleting (.ordering (.call (.store (.deleteOrder orderID)) fun _ => .ret reply))
  | releasing (items : ItemMap) (reply : Reply) :
      CancelAt orderID (.releasing items) (.ordering (.call (.releaseItems ⟨orderID, items⟩) fun _ =>
        .call (.store (.deleteOrder orderID)) fun _ => .ret reply))
  | loading : CancelAt orderID .loading (.ordering (cancelItems orderID))
  | checking {next : Except GoError (Option GroceryOrder) → OrderingProg} :
      (∀ answer, (∃ reply, next answer = .ret reply) ∨ next answer = cancelItems orderID) →
      CancelAt orderID .checking (.ordering (.call (.store (.getOrderByID orderID)) next))

/-- What a step of a cancel request does to the world. -/
inductive CancelStep (orderID : OrderID) : CancelPhase → World → CancelPhase → World → Prop where
  | refuse (w : World) : CancelStep orderID .checking w .ended w
  | find (w : World) : CancelStep orderID .checking w .loading w
  | load (w : World) : CancelStep orderID .loading w (.releasing (w.ordering.listed orderID)) w
  | release {items : ItemMap} {w w' : World} : w'.ordering = w.ordering →
      (∀ sku, w'.stock.available sku =
        w.stock.available sku + if sku ∈ w.stock then items.units sku else 0) →
      (∀ sku, sku ∈ w'.stock ↔ sku ∈ w.stock) →
      CancelStep orderID (.releasing items) w .deleting w'
  | delete {w w' : World} : w'.stock = w.stock →
      w'.ordering.groceryOrders.lookup orderID = none → CancelStep orderID .deleting w .ended w'

section

variable {orderID : OrderID} {w : World}

theorem cancelOrder_at (userID : Option Int) (orderID : OrderID) :
    CancelAt orderID .ended (.ordering (cancelOrder userID orderID)) ∨
      CancelAt orderID .checking (.ordering (cancelOrder userID orderID)) := by
  cases userID with
  | none => exact Or.inl (.ended _)
  | some userID =>
      refine Or.inr (.checking fun answer => ?_)
      rcases answer with err | _ | order
      · exact Or.inl ⟨_, rfl⟩
      · exact Or.inl ⟨_, rfl⟩
      · dsimp only
        split
        · exact Or.inl ⟨_, rfl⟩
        · exact Or.inr rfl

private theorem deleteOrder_exec (orderID : OrderID) (w : World) :
    let w' := (orderingExec .works (.store (.deleteOrder orderID)) w).2
    w'.stock = w.stock ∧ w'.ordering.groceryOrders.lookup orderID = none := by
  refine ⟨rfl, ?_⟩
  show (commit (OrderingDB.deleteOrder orderID) w.ordering).2.groceryOrders.lookup orderID = none
  unfold commit OrderingDB.deleteOrder
  cases hrow : w.ordering.groceryOrders.lookup orderID with
  | none => exact hrow
  | some row => exact AList.lookup_erase orderID _

/-- **The step lemma.** -/
theorem CancelAt.step {phase : CancelPhase} {thread : Thread}
    {move : Move Thread World ServiceEvent} (hat : CancelAt orderID phase thread)
    (hact : steadyAct () thread w = some move) (hfine : move.event.faulty = false) :
    move.spawned = [] ∧ ∃ phase', CancelAt orderID phase' move.thread ∧
      CancelStep orderID phase w phase' move.state := by
  cases hat with
  | ended reply => cases hact
  | deleting reply =>
      cases hact
      obtain ⟨hstock, hgone⟩ := deleteOrder_exec orderID w
      exact ⟨rfl, .ended, .ended _, .delete hstock hgone⟩
  | releasing items reply =>
      cases hact
      obtain ⟨havailable, hrows, hordering, _⟩ :=
        releaseItems_works ⟨orderID, items⟩ w hfine
      exact ⟨rfl, .deleting, .deleting _, .release hordering havailable hrows⟩
  | loading =>
      cases hact
      exact ⟨rfl, _, .releasing _ _, .load w⟩
  | checking hnext =>
      cases hact
      dsimp only
      rcases hnext (orderingExec .works (.store (.getOrderByID orderID)) w).1 with ⟨reply, h⟩ | h
      · exact ⟨rfl, .ended, h ▸ .ended reply, .refuse w⟩
      · exact ⟨rfl, .loading, h ▸ .loading, .find w⟩

end

/-! ### Pools of cancel requests -/

namespace Thread

/-- The thread is about to read the lines of the order. -/
def reads (orderID : OrderID) : Thread → Bool
  | .inventory _ => false
  | .ordering prog =>
      match prog.next? with
      | some (.store (.getOrderItems orderID')) => orderID' = orderID
      | _ => false

/-- The thread is about to release the lines it read. -/
def releases (orderID : OrderID) : Thread → Bool
  | .inventory _ => false
  | .ordering prog =>
      match prog.next? with
      | some (.releaseItems req) => req.orderID = orderID
      | _ => false

/-- The thread is about to delete the order. -/
def deletes (orderID : OrderID) : Thread → Bool
  | .inventory _ => false
  | .ordering prog =>
      match prog.next? with
      | some (.store (.deleteOrder orderID')) => orderID' = orderID
      | _ => false

end Thread

/-- The lines of the order are read while its row exists only when no other
request has read them and not deleted the order yet. -/
def solitary (orderID : OrderID) (pool : Pool Thread World) (index : Nat) (_ : ServiceEvent) : Bool :=
  !(pool.threads[index]?.any (Thread.reads orderID) &&
      (pool.state.ordering.groceryOrders.lookup orderID).isSome) ||
    pool.threads.all fun thread => !thread.releases orderID && !thread.deletes orderID

/-- Cancel requests for an order by any users. -/
def cancelPool (orderID : OrderID) (users : List (Option Int)) (w : World) : Pool Thread World :=
  ⟨users.map fun userID => .ordering (cancelOrder userID orderID), w⟩

/-- What came back of the order, with how many requests are about to release
its lines and how many about to delete it. While its row exists, at most one
request has read its lines, and they are back exactly when that request is about
to delete the order; once the row is gone they are back. -/
inductive Returned (orderID : OrderID) (w state : World) (releasing deleting : Nat) : Prop where
  | present : state.ordering = w.ordering → releasing + deleting ≤ 1 →
      (∀ sku, state.stock.available sku =
        w.stock.available sku + deleting * w.ordering.ordered orderID sku) →
      Returned orderID w state releasing deleting
  | gone : state.ordering.groceryOrders.lookup orderID = none →
      (∀ sku, state.stock.available sku =
        w.stock.available sku + w.ordering.ordered orderID sku) →
      Returned orderID w state releasing deleting

/-- Every thread is a cancel request of the order, one that has read the lines
holds what a request would read now, and the order is given back once. -/
structure GivenBack (orderID : OrderID) (w : World) (pool : Pool Thread World) : Prop where
  threads : ∀ thread ∈ pool.threads, ∃ phase, CancelAt orderID phase thread ∧
    ∀ held, phase = .releasing held → held = pool.state.ordering.listed orderID
  rows : ∀ sku, sku ∈ pool.state.stock ↔ sku ∈ w.stock
  returned : Returned orderID w pool.state (pool.tally (Thread.releases orderID))
    (pool.tally (Thread.deletes orderID))

private def CancelPhase.isReleasing : CancelPhase → Bool
  | .releasing _ => true
  | _ => false

private def CancelPhase.isDeleting : CancelPhase → Bool
  | .deleting => true
  | _ => false

section

variable {orderID : OrderID} {w : World} {pool : Pool Thread World} {row : OrderRow}

private theorem cancel_phase {phase : CancelPhase} {thread : Thread}
    (hat : CancelAt orderID phase thread) :
    (phase = .loading → thread.reads orderID = true) ∧
      thread.releases orderID = phase.isReleasing ∧ thread.deletes orderID = phase.isDeleting := by
  cases hat <;> simp [Thread.reads, Thread.releases, Thread.deletes, CancelPhase.isReleasing,
    CancelPhase.isDeleting, cancelItems]

/-- The lines of the order, released while it exists, are its units again. -/
theorem released_units (hrow : w.ordering.groceryOrders.lookup orderID = some row)
    (hplaced : Placed w.stock (w.ordering.itemRows row.id)) (sku : SKU) :
    (if sku ∈ w.stock then (w.ordering.listed orderID).units sku else 0) =
      w.ordering.ordered orderID sku := by
  rw [OrderingDB.listed_of_lookup hrow, OrderingDB.ordered_of_lookup hrow,
    protoItems_units hplaced.nodup]
  by_cases hsku : sku ∈ w.stock
  · rw [if_pos hsku]
  · rw [if_neg hsku]
    by_contra hne
    exact hsku (hplaced.mem_of_units (Ne.symm hne))

/-- What a step does to the units that came back, by the phases of the mover. -/
private theorem returned_step (hrow : w.ordering.groceryOrders.lookup orderID = some row)
    (hplaced : Placed w.stock (w.ordering.itemRows row.id)) {phase phase' : CancelPhase}
    {state state' : World} (hstep : CancelStep orderID phase state phase' state')
    (hrows : ∀ sku, sku ∈ state.stock ↔ sku ∈ w.stock)
    {releasing releasing' deleting deleting' : Nat}
    (hreleasing : releasing' + phase.isReleasing.toNat = releasing + phase'.isReleasing.toNat)
    (hdeleting : deleting' + phase.isDeleting.toNat = deleting + phase'.isDeleting.toNat)
    (hheld : ∀ held, phase = .releasing held → held = state.ordering.listed orderID)
    (hsolitary : phase = .loading → state.ordering.groceryOrders.lookup orderID ≠ none →
      releasing + deleting = 0)
    (hreturned : Returned orderID w state releasing deleting) :
    Returned orderID w state' releasing' deleting' := by
  cases hstep with
  | refuse =>
      simp only [CancelPhase.isReleasing, CancelPhase.isDeleting, add_left_inj] at hreleasing hdeleting
      rwa [hreleasing, hdeleting]
  | find =>
      simp only [CancelPhase.isReleasing, CancelPhase.isDeleting, add_left_inj] at hreleasing hdeleting
      rwa [hreleasing, hdeleting]
  | load =>
      simp only [CancelPhase.isReleasing, CancelPhase.isDeleting, Bool.toNat_false, Bool.toNat_true,
        add_zero] at hreleasing hdeleting
      cases hreturned with
      | present hsame hone hstock =>
          have hnone := hsolitary rfl (by rw [hsame, hrow]; exact Option.some_ne_none row)
          exact .present hsame (by omega) (hdeleting ▸ hstock)
      | gone hgone hstock => exact .gone hgone hstock
  | release hordering havailable _ =>
      simp only [CancelPhase.isReleasing, CancelPhase.isDeleting, Bool.toNat_false, Bool.toNat_true,
        add_zero] at hreleasing hdeleting
      obtain rfl := hheld _ rfl
      cases hreturned with
      | present hsame hone hstock =>
          refine .present (hordering.trans hsame) (by omega) fun sku => ?_
          have hunits := released_units hrow hplaced sku
          have hzero : deleting = 0 := by omega
          have hfirst : deleting' = 1 := by omega
          rw [havailable, hstock, hsame, if_congr (hrows sku) rfl rfl, hunits, hzero, hfirst]
          push_cast
          ring
      | gone hgone hstock =>
          refine .gone (by rw [hordering]; exact hgone) fun sku => ?_
          rw [havailable, hstock, OrderingDB.listed_of_lookup_none hgone, ItemMap.units_empty]
          simp
  | delete hsame hgone =>
      simp only [CancelPhase.isReleasing, CancelPhase.isDeleting, Bool.toNat_false, Bool.toNat_true,
        add_zero] at hreleasing hdeleting
      cases hreturned with
      | present _ hone hstock =>
          refine .gone hgone fun sku => ?_
          have honly : deleting = 1 := by omega
          rw [hsame, hstock, honly]
          push_cast
          ring
      | gone _ hstock => exact .gone hgone fun sku => by rw [hsame, hstock]

/-- A step adds and drops no row of stock, and only a delete changes what a
request reads. -/
private theorem cancelStep_frame {phase phase' : CancelPhase} {state state' : World}
    (hstep : CancelStep orderID phase state phase' state') :
    (∀ sku, sku ∈ state'.stock ↔ sku ∈ state.stock) ∧
      (∀ held, phase' = .releasing held → held = state'.ordering.listed orderID) ∧
      (state'.ordering = state.ordering ∨
        phase = .deleting ∧ state'.ordering.groceryOrders.lookup orderID = none) := by
  cases hstep with
  | refuse => exact ⟨fun _ => Iff.rfl, fun _ h => (nomatch h), Or.inl rfl⟩
  | find => exact ⟨fun _ => Iff.rfl, fun _ h => (nomatch h), Or.inl rfl⟩
  | load => exact ⟨fun _ => Iff.rfl, fun _ h => (CancelPhase.releasing.inj h).symm, Or.inl rfl⟩
  | release hordering _ hrows => exact ⟨hrows, fun _ h => (nomatch h), Or.inl hordering⟩
  | delete hsame hgone =>
      exact ⟨fun _ => by rw [hsame], fun _ h => (nomatch h), Or.inr ⟨rfl, hgone⟩⟩

/-- When a request deletes the order, no other one holds anything of it. -/
private theorem holds_nothing {index : Nat} {thread : Thread} (hinv : GivenBack orderID w pool)
    (hthread : pool.threads[index]? = some thread) (hdeletes : thread.deletes orderID = true)
    {other : Thread} (hother : other ∈ pool.threads) {held : ItemMap}
    (hat : CancelAt orderID (.releasing held) other) (hheld : held = pool.state.ordering.listed orderID) :
    held = ∅ := by
  have hcount : pool.tally (Thread.deletes orderID) ≠ 0 := by
    intro hzero
    rw [Pool.tally_eq_zero.mp hzero thread (List.mem_of_getElem? hthread)] at hdeletes
    cases hdeletes
  cases hinv.returned with
  | present _ hone _ =>
      have hzero : pool.tally (Thread.releases orderID) = 0 := by omega
      have hreleases := (cancel_phase hat).2.1
      rw [Pool.tally_eq_zero.mp hzero other hother] at hreleases
      cases hreleases
  | gone hgone _ => rw [hheld, OrderingDB.listed_of_lookup_none hgone]

/-- **The step lemma.** -/
theorem GivenBack.step (hrow : w.ordering.groceryOrders.lookup orderID = some row)
    (hplaced : Placed w.stock (w.ordering.itemRows row.id)) {index : Nat} {thread : Thread}
    {move : Move Thread World ServiceEvent} (hinv : GivenBack orderID w pool)
    (hthread : pool.threads[index]? = some thread)
    (hact : steadyAct () thread pool.state = some move) (hfine : move.event.faulty = false)
    (hsolitary : solitary orderID pool index move.event = true) :
    GivenBack orderID w (pool.after index move) := by
  obtain ⟨phase, hat, hheld⟩ := hinv.threads thread (List.mem_of_getElem? hthread)
  obtain ⟨hspawned, phase', hat', hstep⟩ := hat.step hact hfine
  obtain ⟨hreads, hreleases, hdeletes⟩ := cancel_phase hat
  obtain ⟨_, hreleases', hdeletes'⟩ := cancel_phase hat'
  have htallyReleases := Pool.tally_after (Thread.releases orderID) hthread move (by simp [hspawned])
  have htallyDeletes := Pool.tally_after (Thread.deletes orderID) hthread move (by simp [hspawned])
  rw [hreleases, hreleases'] at htallyReleases
  rw [hdeletes, hdeletes'] at htallyDeletes
  have hnone : phase = .loading → pool.state.ordering.groceryOrders.lookup orderID ≠ none →
      pool.tally (Thread.releases orderID) + pool.tally (Thread.deletes orderID) = 0 := by
    intro hphase hexists
    have hall : ∀ other ∈ pool.threads,
        other.releases orderID = false ∧ other.deletes orderID = false := by
      simpa [solitary, hthread, hreads hphase, Option.isSome_iff_ne_none.mpr hexists] using hsolitary
    rw [Pool.tally_eq_zero.mpr fun other h => (hall other h).1,
      Pool.tally_eq_zero.mpr fun other h => (hall other h).2]
  obtain ⟨hrows, hmover, hframe⟩ := cancelStep_frame hstep
  refine ⟨Pool.forall_threads_after (fun other hother => ?_) ⟨phase', hat', hmover⟩
      (by simp [hspawned]), fun sku => (hrows sku).trans (hinv.rows sku),
    returned_step hrow hplaced hstep hinv.rows htallyReleases htallyDeletes hheld hnone
      hinv.returned⟩
  obtain ⟨phase'', hat'', hheld''⟩ := hinv.threads other hother
  refine ⟨phase'', hat'', fun held hphase => ?_⟩
  have hlisted := hheld'' held hphase
  rcases hframe with hsame | ⟨hdeleting, hgone⟩
  · rw [Pool.after_state, hsame]
    exact hlisted
  · rw [Pool.after_state, OrderingDB.listed_of_lookup_none hgone]
    exact holds_nothing hinv hthread (by rw [hdeletes, hdeleting]; rfl) hother (hphase ▸ hat'')
      hlisted

variable {users : List (Option Int)} {trace : List (Nat × ServiceEvent)}

private theorem givenBack_start (orderID : OrderID) (users : List (Option Int)) (w : World) :
    GivenBack orderID w (cancelPool orderID users w) := by
  have hphase : ∀ thread ∈ (cancelPool orderID users w).threads, ∃ phase,
      CancelAt orderID phase thread ∧ phase.isReleasing = false ∧ phase.isDeleting = false := by
    intro thread hthread
    obtain ⟨userID, _, rfl⟩ := List.mem_map.mp hthread
    rcases cancelOrder_at userID orderID with h | h
    · exact ⟨.ended, h, rfl, rfl⟩
    · exact ⟨.checking, h, rfl, rfl⟩
  have hreleases : (cancelPool orderID users w).tally (Thread.releases orderID) = 0 := by
    apply Pool.tally_eq_zero.mpr
    intro thread hthread
    obtain ⟨phase, hat, hreleasing, _⟩ := hphase thread hthread
    rw [(cancel_phase hat).2.1, hreleasing]
  have hdeletes : (cancelPool orderID users w).tally (Thread.deletes orderID) = 0 := by
    apply Pool.tally_eq_zero.mpr
    intro thread hthread
    obtain ⟨phase, hat, _, hdeleting⟩ := hphase thread hthread
    rw [(cancel_phase hat).2.2, hdeleting]
  refine ⟨fun thread hthread => ?_, fun _ => Iff.rfl, ?_⟩
  · obtain ⟨phase, hat, hreleasing, _⟩ := hphase thread hthread
    refine ⟨phase, hat, fun held h => ?_⟩
    rw [h] at hreleasing
    cases hreleasing
  · rw [hreleases, hdeletes]
    exact .present rfl (Nat.zero_le 1) fun sku => by simp [cancelPool]

/-- **Solitary cancels give an order back once.** Take an order whose lines are
as a preview stores them, any number of cancel requests for it, and a run
without faults in which the lines of the existing order are read only when no
other request has read them and not deleted the order yet. The requests never
add more of a SKU to stock than the order lists, and have added exactly that
once the order's row is gone. -/
theorem cancelled_given_back_once (hrow : w.ordering.groceryOrders.lookup orderID = some row)
    (hplaced : Placed w.stock (w.ordering.itemRows row.id))
    (hrun : Run steadyAct (fun pool index event => event.faulty = false ∧
      solitary orderID pool index event = true) (cancelPool orderID users w) trace pool) (sku : SKU) :
    pool.state.stock.available sku - w.stock.available sku ≤ w.ordering.ordered orderID sku ∧
      (pool.state.ordering.groceryOrders.lookup orderID = none →
        pool.state.stock.available sku - w.stock.available sku = w.ordering.ordered orderID sku) := by
  have hinv := hrun.invariant (fun pool _ => GivenBack orderID w pool)
    (givenBack_start orderID users w) fun _ _ _ _ _ _ hinv hthread hact hallowed =>
      hinv.step hrow hplaced hthread hact hallowed.1 hallowed.2
  have hnonneg : 0 ≤ w.ordering.ordered orderID sku := by
    rw [OrderingDB.ordered_of_lookup hrow]
    exact lineUnits_nonneg hplaced.nonneg sku
  cases hinv.returned with
  | present hsame hone hstock =>
      have hstockSku := hstock sku
      refine ⟨?_, fun hgone => ?_⟩
      · rcases Nat.le_one_iff_eq_zero_or_eq_one.mp (Nat.le_of_add_left_le hone) with hdeleting | hdeleting
        · rw [hdeleting] at hstockSku
          push_cast at hstockSku
          omega
        · rw [hdeleting] at hstockSku
          push_cast at hstockSku
          omega
      · rw [hsame, hrow] at hgone
        cases hgone
  | gone _ hstock =>
      have hstockSku := hstock sku
      exact ⟨by omega, fun _ => by omega⟩

end

/-! ### On one order -/

private theorem sample_placed : Placed Sample.world.stock (Sample.world.ordering.itemRows 1) :=
  ⟨by decide, by decide, by decide⟩

/-- Two cancel requests one after the other: the second finds no order. -/
theorem cancelled_given_back_once_sample :
    ∃ trace pool,
      Run steadyAct (fun pool index event => event.faulty = false ∧
        solitary "order-1" pool index event = true)
        (cancelPool "order-1" [some 7, some 7] Sample.world) trace pool ∧
      pool.state.ordering.groceryOrders.lookup "order-1" = none ∧
      pool.state.stock.available "milk" - Sample.world.stock.available "milk" =
        Sample.world.ordering.ordered "order-1" "milk" := by
  obtain ⟨trace, pool, hrun, hcheck⟩ := run_of_play steadyAct
    (fun pool index event => !event.faulty && solitary "order-1" pool index event)
    (cancelPool "order-1" [some 7, some 7] Sample.world)
    ([0, 0, 0, 0, 1].map fun i => (i, ()))
    (fun _ pool => (pool.state.ordering.groceryOrders.lookup "order-1").isNone) (by decide +kernel)
  have hrun' := hrun.mono fun _ _ event h => by simpa using h
  have hgone := Option.isNone_iff_eq_none.mp hcheck
  exact ⟨trace, pool, hrun', hgone,
    (cancelled_given_back_once rfl sample_placed hrun' "milk").2 hgone⟩

/-- Two cancel requests that both read the lines before either deletes the
order: its two units come back twice. -/
theorem cancelled_given_back_twice :
    ∃ (users : List (Option Int)) (w : World) (trace : List (Nat × ServiceEvent))
      (pool : Pool Thread World) (row : OrderRow),
      w.ordering.groceryOrders.lookup "order-1" = some row ∧
      Placed w.stock (w.ordering.itemRows row.id) ∧
      Run steadyAct faultFree (cancelPool "order-1" users w) trace pool ∧
      pool.state.ordering.groceryOrders.lookup "order-1" = none ∧
      w.ordering.ordered "order-1" "milk" = 2 ∧
      pool.state.stock.available "milk" - w.stock.available "milk" = 4 := by
  obtain ⟨trace, pool, hrun, hcheck⟩ := run_of_play steadyAct (fun _ _ event => !event.faulty)
    (cancelPool "order-1" [some 7, some 7] Sample.world)
    ([0, 0, 1, 1, 0, 0, 1, 1].map fun i => (i, ()))
    (fun _ pool => (pool.state.ordering.groceryOrders.lookup "order-1").isNone &&
      pool.state.stock.available "milk" - Sample.world.stock.available "milk" = 4)
    (by decide +kernel)
  rw [Bool.and_eq_true, decide_eq_true_eq, Option.isNone_iff_eq_none] at hcheck
  exact ⟨_, _, trace, pool, _, rfl, sample_placed, hrun.mono fun _ _ event h => by simpa using h,
    hcheck.1, by decide, hcheck.2⟩

end AutoGrocery

import AutoGrocery.Inventory.Availability
import AutoGrocery.Orders.Callbacks
import AutoGrocery.Orders.Requests

/-!
The aisle of a SKU. A restock may name any aisle for a SKU, but the row of the SKU
keeps the one it was stored with first. So the aisle that `CheckAvailability` answers
is settled for good, and robots are sent for the SKU to that aisle or, when its row
was not found, to none.
-/

namespace AutoGrocery

open Interleaving InventoryHandler Relational

/-- A call for a SKU in a customer's broadcast names the aisle of its row, or none. -/
def World.Signposted (w : World) : Prop :=
  ∀ broadcast ∈ w.broadcasts, broadcast.orderType = .customer → ∀ item ∈ broadcast.items,
    item.aisle = "Unknown" ∨ ∃ row, w.stock.lookup item.sku = some row ∧ row.aisleType = item.aisle

/-- Rows that were read name the aisles of the rows that are there. -/
def World.Names (w : World) (dbItems : GoMap StockRow) : Prop :=
  ∀ sku row, dbItems.lookup sku = some row →
    ∃ row', w.stock.lookup sku = some row' ∧ row'.aisleType = row.aisleType

section

variable {w w' : World}

theorem World.Signposted.keeps (hsigns : w.Signposted) (hkeeps : w.stock.Keeps w'.stock)
    (hbroadcasts : w'.broadcasts = w.broadcasts) : w'.Signposted := by
  intro broadcast hbroadcast htype item hitem
  rw [hbroadcasts] at hbroadcast
  rcases hsigns broadcast hbroadcast htype item hitem with hunknown | ⟨row, hrow, haisle⟩
  · exact Or.inl hunknown
  · obtain ⟨later, hlater, hsame, _⟩ := hkeeps _ row hrow
    exact Or.inr ⟨later, hlater, hsame.trans haisle⟩

/-! ### Operations of inventory -/

private theorem onStock_keeps {α : Type} {result : StockTable → Except GoError (α × StockTable)}
    (hresult : ∀ value stock', result w.stock = .ok (value, stock') → w.stock.Keeps stock') :
    w.stock.Keeps (w.onStock result).2.stock := by
  unfold World.onStock
  split
  · exact StockTable.Keeps.refl _
  · rename_i value stock' hok
    exact hresult value stock' hok

private theorem statement_keeps {α : Type} (fault : Fault) (context : String)
    {result : StockTable → Except GoError (α × StockTable)}
    (hresult : ∀ value stock', result w.stock = .ok (value, stock') → w.stock.Keeps stock') :
    w.stock.Keeps (fault.run context (World.onStock result) w).2.stock := by
  rcases fault.run_state context (World.onStock result) w with hsame | hstate
  · rw [hsame]
    exact StockTable.Keeps.refl _
  · rw [hstate]
    exact onStock_keeps hresult

/-- A statement that answers nothing. -/
private theorem written_keeps {written : Except GoError StockTable}
    (hwritten : ∀ stock', written = .ok stock' → w.stock.Keeps stock') (value : Unit)
    (stock' : StockTable) (hok : written.map (fun stock => ((), stock)) = .ok (value, stock')) :
    w.stock.Keeps stock' := by
  cases written with
  | error err => cases hok
  | ok stock =>
      obtain rfl : stock = stock' := congrArg Prod.snd (Except.ok.inj hok)
      exact hwritten stock rfl

/-- No operation of inventory moves a SKU to another aisle, whatever fault it meets. -/
theorem inventoryExec_keeps (fault : CallFault Fault) (op : InventoryOp) (w : World) :
    w.stock.Keeps (inventoryExec fault op w).2.stock := by
  by_cases hwrites : op.writes = some .stock
  · cases op <;> simp only [InventoryOp.writes, Option.some.injEq, reduceCtorEq] at hwrites
    case reserveStock requests =>
      exact statement_keeps fault.mode _ fun _ _ hok => StockTable.reserveStock_keeps hok
    case releaseStock returns =>
      exact statement_keeps fault.mode _ (written_keeps fun _ => StockTable.releaseStock_keeps)
    case upsertStock item =>
      exact statement_keeps fault.mode _ (written_keeps fun _ => StockTable.upsertStock_keeps)
  · rw [inventoryExec_stock hwrites]
    exact StockTable.Keeps.refl _

/-! ### Dispatch -/

/-- What a dispatch has read. -/
private inductive DispatchPhase where
  | saving
  | reading
  | sending (dbItems : GoMap StockRow)
  | done

/-- The operations of `ProcessCustomerOrder`, by what it has read. -/
private inductive DispatchRule (req : ProcessCustomerOrderRequest) :
    DispatchPhase → (op : InventoryOp) → InventoryAns op → DispatchPhase → Prop where
  | save (answer : Except GoError Unit) :
      DispatchRule req .saving (.saveOrderItems req.orderID req.items) answer .reading
  | unread (err : GoError) :
      DispatchRule req .reading (.getBatchItems req.items.keys) (.error err) (.sending ∅)
  | read (dbItems : GoMap StockRow) :
      DispatchRule req .reading (.getBatchItems req.items.keys) (.ok dbItems) (.sending dbItems)
  | send (dbItems : GoMap StockRow) (answer : Except GoError Unit) :
      DispatchRule req (.sending dbItems)
        (.sendRobotCommand req.orderID .customer (robotItems dbItems req.items)) answer .done

private theorem processCustomerOrder_follows (req : ProcessCustomerOrderRequest) :
    (processCustomerOrder req).Follows (DispatchRule req) .saving := by
  intro answer
  refine ⟨_, .save answer, ?_⟩
  cases answer with
  | error err => trivial
  | ok value =>
      intro answer
      cases answer with
      | error err => exact ⟨_, .unread err, fun sent => ⟨_, .send ∅ sent, trivial⟩⟩
      | ok dbItems => exact ⟨_, .read dbItems, fun sent => ⟨_, .send dbItems sent, trivial⟩⟩

/-- The signs stand, and what was read still names the aisles that are there. -/
private structure Dispatching (w : World) (phase : DispatchPhase) (w' : World) : Prop where
  keeps : w.stock.Keeps w'.stock
  signs : w'.Signposted
  names : ∀ dbItems, phase = .sending dbItems → w'.Names dbItems

/-- A broadcast of rows that were read. -/
private theorem sendRobotCommand_signs (hsigns : w.Signposted) {dbItems : GoMap StockRow}
    (hnames : w.Names dbItems) (fault : CallFault Fault) (orderID : OrderID) (items : ItemMap) :
    (inventoryExec fault (.sendRobotCommand orderID .customer (robotItems dbItems items)) w).2.Signposted := by
  have hstate := fault.mode.run_state "" (fun w : World => ((.ok () : Except GoError Unit),
    { w with broadcasts := w.broadcasts ++ [orderBroadcast orderID .customer (robotItems dbItems items)] })) w
  rcases hstate with hsame | hsent
  · rw [inventoryExec, hsame]
    exact hsigns
  · rw [inventoryExec, hsent]
    intro broadcast hbroadcast htype item hitem
    rcases List.mem_append.mp hbroadcast with hbefore | hnew
    · exact hsigns broadcast hbefore htype item hitem
    · rw [List.mem_singleton.mp hnew] at hitem
      obtain ⟨entry, hentry, rfl⟩ := List.mem_map.mp hitem
      have hlookup := AList.mem_lookup_iff.mpr hentry
      rw [robotItems, Table.lookup_selectRows] at hlookup
      obtain ⟨quantity, _, hdetails⟩ := Option.bind_eq_some_iff.mp hlookup
      rw [← Option.some.inj hdetails]
      cases hrow : dbItems.lookup entry.1 with
      | none => exact Or.inl rfl
      | some row =>
          obtain ⟨row', hrow', haisle⟩ := hnames _ row hrow
          exact Or.inr ⟨row', hrow', haisle⟩

private theorem dispatching_step {req : ProcessCustomerOrderRequest} {fault : CallFault Fault}
    {phase phase' : DispatchPhase} {op : InventoryOp} (hdispatching : Dispatching w phase w')
    (hrule : DispatchRule req phase op (inventoryExec fault op w').1 phase') :
    Dispatching w phase' (inventoryExec fault op w').2 := by
  obtain ⟨hkeeps, hsigns, hnames⟩ := hdispatching
  have hstep := inventoryExec_keeps fault op w'
  generalize hanswer : (inventoryExec fault op w').1 = answer at hrule
  cases hrule with
  | save answer =>
      refine ⟨hkeeps.trans hstep, hsigns.keeps hstep ?_, fun dbItems h => by cases h⟩
      exact inventoryExec_broadcasts (by simp [InventoryOp.writes])
  | unread err =>
      refine ⟨hkeeps.trans hstep, hsigns.keeps hstep ?_, fun dbItems h => ?_⟩
      · exact inventoryExec_broadcasts (by simp [InventoryOp.writes])
      · cases h
        intro sku row hrow
        cases hrow
  | read dbItems =>
      refine ⟨hkeeps.trans hstep, hsigns.keeps hstep ?_, fun found h => ?_⟩
      · exact inventoryExec_broadcasts (by simp [InventoryOp.writes])
      · cases h
        have hrun := Fault.run_of_ok (show (fault.mode.run "failed to batch get items: "
          (fun w : World => ((.ok (w.stock.getBatchItems req.items.keys) :
            Except GoError (GoMap StockRow)), w)) w').1 = .ok dbItems from hanswer)
        simp only [inventoryExec] at hanswer ⊢
        rw [hrun] at hanswer ⊢
        rw [← Except.ok.inj hanswer]
        intro sku row hrow
        rw [StockTable.getBatchItems, Table.lookup_selectRows] at hrow
        obtain ⟨found, hfound, hselect⟩ := Option.bind_eq_some_iff.mp hrow
        split at hselect
        · exact ⟨found, hfound, by rw [Option.some.inj hselect]⟩
        · cases hselect
  | send dbItems answer =>
      refine ⟨hkeeps.trans hstep, ?_, fun found h => by cases h⟩
      exact sendRobotCommand_signs hsigns (hnames dbItems rfl) fault req.orderID req.items

/-! ### One step -/

/-- The signs stand, and the rows before are kept. -/
private structure Maintains (w w' : World) : Prop where
  keeps : w.stock.Keeps w'.stock
  signs : w'.Signposted

/-- An operation that is no broadcast to a customer's robots. -/
private theorem inventoryExec_maintains (fault : CallFault Fault) {op : InventoryOp}
    (hop : op.writes ≠ some .broadcasts ∨ ∃ orderID items, op = .sendRobotCommand orderID .restock items)
    (hmaintains : Maintains w w') : Maintains w (inventoryExec fault op w').2 := by
  obtain ⟨hkeeps, hsigns⟩ := hmaintains
  have hstep := inventoryExec_keeps fault op w'
  refine ⟨hkeeps.trans hstep, ?_⟩
  rcases hop with hquiet | ⟨orderID, items, rfl⟩
  · exact hsigns.keeps hstep (inventoryExec_broadcasts hquiet)
  · have hstate := fault.mode.run_state "" (fun w : World => ((.ok () : Except GoError Unit),
      { w with broadcasts := w.broadcasts ++ [orderBroadcast orderID .restock items] })) w'
    rcases hstate with hsame | hsent
    · rw [inventoryExec, hsame]
      exact hsigns
    · rw [inventoryExec, hsent]
      intro broadcast hbroadcast htype
      rcases List.mem_append.mp hbroadcast with hbefore | hnew
      · exact hsigns broadcast hbefore htype
      · rw [List.mem_singleton.mp hnew] at htype
        cases htype

private theorem call_maintains {α : Type} (fault : CallFault (CallFault Fault))
    {prog : InventoryProg (Except GoError α)} (huses : prog.Uses fun op =>
      op.writes ≠ some .broadcasts ∨ ∃ orderID items, op = .sendRobotCommand orderID .restock items)
    (hsigns : w.Signposted) : Maintains w (fault.call inventoryExec .works prog w).2 :=
  fault.call_preserves inventoryExec .works (Maintains w)
    (fun fault _ _ hop hmaintains => inventoryExec_maintains fault hop hmaintains) huses
    ⟨StockTable.Keeps.refl _, hsigns⟩

private theorem stock_silent {op : InventoryOp} (hop : op.writes = some .stock) :
    op.writes ≠ some .broadcasts := by
  rw [hop]
  exact fun h => by cases h

/-- An operation of ordering. -/
private theorem orderingExec_maintains (fault : CallFault (CallFault Fault)) (op : OrderingOp)
    (hsigns : w.Signposted) : Maintains w (orderingExec fault op w).2 := by
  cases op with
  | store statement => exact ⟨StockTable.Keeps.refl _, hsigns⟩
  | reserveItems req =>
      exact call_maintains fault ((reserveItems_uses req).mono fun _ hop => Or.inl (stock_silent hop)) hsigns
  | releaseItems req =>
      exact call_maintains fault ((releaseItems_uses req).mono fun _ hop => Or.inl (stock_silent hop)) hsigns
  | restockItemsOrder req =>
      refine call_maintains fault ((restockItemsOrder_uses req).mono fun op hop => ?_) hsigns
      rcases hop with rfl | rfl
      · exact Or.inl (by simp [InventoryOp.writes])
      · exact Or.inr ⟨_, _, rfl⟩
  | processCustomerOrder req =>
      obtain ⟨phase, hkeeps, hsigns', _⟩ := fault.call_follows inventoryExec .works
        (I := fun phase w' => Dispatching w phase w')
        (fun _ _ _ _ _ hdispatching hrule => dispatching_step hdispatching hrule)
        (processCustomerOrder_follows req)
        (⟨StockTable.Keeps.refl _, hsigns, fun dbItems h => by cases h⟩ : Dispatching w .saving w)
      exact ⟨hkeeps, hsigns'⟩

/-- A request of ordering, or a method of inventory that broadcasts nothing. -/
private def Thread.Unheard : Thread → Prop
  | .ordering _ => True
  | .inventory prog => prog.Uses isCallbackOp

private theorem isCallbackOp_silent {op : InventoryOp} (hop : isCallbackOp op) :
    op.writes ≠ some .broadcasts := by
  cases op <;> simp [InventoryOp.writes]
  exact hop

private theorem Unheard.step {thread : Thread} (hunheard : thread.Unheard) (hsigns : w.Signposted)
    {fault : ServiceFault} {move : Move Thread World ServiceEvent}
    (hact : serviceAct fault thread w = some move) :
    Maintains w move.state ∧ move.thread.Unheard ∧ ∀ spawned ∈ move.spawned, spawned.Unheard := by
  rcases serviceAct_eq_some hact with ⟨op, next, rfl, rfl⟩ | ⟨op, next, rfl, rfl⟩
  · exact ⟨orderingExec_maintains fault.1 op hsigns, trivial,
      fun spawned hspawned => absurd hspawned List.not_mem_nil⟩
  · cases hunheard with
    | call hop hnext =>
        refine ⟨inventoryExec_maintains fault.2 (Or.inl (isCallbackOp_silent hop))
          ⟨StockTable.Keeps.refl _, hsigns⟩, hnext _, fun spawned hspawned => ?_⟩
        obtain ⟨prog, hprog, rfl⟩ := List.mem_map.mp hspawned
        exact goroutines_isCallback _ prog hprog

end

/-! ### Every run -/

/-- A call of `CheckAvailability` as a thread. -/
def availabilityThread (skus : List SKU) : Thread := .inventory (rpcThread (checkAvailability skus))

/-- Requests of clients, trucks and robots, and checks of the availability of some SKUs. -/
def shopPool (requests : List Request) (checks : List (List SKU)) (w : World) : Pool Thread World :=
  ⟨requests.map Request.thread ++ checks.map availabilityThread, w⟩

section

variable {w : World} {requests : List Request} {checks : List (List SKU)}

private theorem checkAvailability_uses (skus : List SKU) :
    (checkAvailability skus).Uses isCallbackOp := by
  unfold checkAvailability
  split
  · exact .ret _
  · refine .call trivial fun answer => ?_
    cases answer <;> exact .ret _

private theorem shopPool_unheard : ∀ thread ∈ (shopPool requests checks w).threads, thread.Unheard := by
  intro thread hthread
  rcases List.mem_append.mp hthread with hrequest | hcheck
  · obtain ⟨request, _, rfl⟩ := List.mem_map.mp hrequest
    cases request with
    | client userID request => trivial
    | restock body restockUUID => trivial
    | report req => exact reportThread_isCallback req
  · obtain ⟨skus, _, rfl⟩ := List.mem_map.mp hcheck
    exact (checkAvailability_uses skus).bind fun _ => .ret _

/-- **The run lemma.** -/
private theorem Unheard.run {start pool : Pool Thread World} {trace : List (Nat × ServiceEvent)}
    (hunheard : ∀ thread ∈ start.threads, thread.Unheard) (hsigns : start.state.Signposted)
    (hrun : Run serviceAct anyStep start trace pool) :
    (∀ thread ∈ pool.threads, thread.Unheard) ∧ Maintains start.state pool.state := by
  refine hrun.invariant (fun pool _ => (∀ thread ∈ pool.threads, thread.Unheard) ∧
    Maintains start.state pool.state) ⟨hunheard, StockTable.Keeps.refl _, hsigns⟩ ?_
  intro trace pool index thread fault move hinv hthread hact _
  obtain ⟨hthreads, hkeeps, hsigns⟩ := hinv
  obtain ⟨hmaintains, hmover, hspawned⟩ :=
    Unheard.step (hthreads thread (List.mem_of_getElem? hthread)) hsigns hact
  exact ⟨Pool.forall_threads_after hthreads hmover hspawned, hkeeps.trans hmaintains.keeps,
    hmaintains.signs⟩

/-- What `CheckAvailability` answers about a SKU is the row of the SKU. -/
theorem checkAvailability_level {fault : CallFault Fault} {skus : List SKU} {levels : GoMap StockLevel}
    (hread : ((checkAvailability skus).run (inventoryExec fault) w).value = .ok levels) (sku : SKU) :
    levels.lookup sku = if sku ∈ skus then (w.stock.lookup sku).map fun item =>
      ⟨sku, item.name, item.aisleType, item.quantity⟩ else none := by
  unfold checkAvailability at hread
  split at hread
  · rename_i hnone
    obtain rfl := List.length_eq_zero_iff.mp hnone
    rw [← Except.ok.inj hread]
    rfl
  rw [Prog.run_call] at hread
  dsimp only at hread
  cases hanswer : (inventoryExec fault (.getBatchItems skus) w).1 with
  | error err =>
      rw [hanswer] at hread
      cases hread
  | ok dbItems =>
      rw [hanswer] at hread
      have hrun := Fault.run_of_ok (show (fault.mode.run "failed to batch get items: "
        (fun w : World => ((.ok (w.stock.getBatchItems skus) : Except GoError (GoMap StockRow)), w)) w).1 =
          .ok dbItems from hanswer)
      simp only [inventoryExec] at hanswer
      rw [hrun] at hanswer
      rw [← Except.ok.inj hread, stockLevels_lookup, ← Except.ok.inj hanswer, StockTable.getBatchItems,
        Table.lookup_selectRows]
      by_cases hsku : sku ∈ skus
      · cases w.stock.lookup sku <;> simp [hsku]
      · simp [hsku]

/-- **The aisle of a SKU is settled once it is known.** When `CheckAvailability` has
answered with an aisle for a SKU at one moment of a run, then at every later moment it
answers with the same aisle for it, and every broadcast to robots for a customer sends for
it to that aisle or to none, whatever requests and faults there are in between and
whatever aisles later restocks name. -/
theorem aisle_settled (hsigns : w.Signposted) {earlier pool : Pool Thread World}
    (hpasses : Passes serviceAct (shopPool requests checks w) earlier pool) {fault : CallFault Fault}
    {skus : List SKU} {levels : GoMap StockLevel}
    (hread : ((checkAvailability skus).run (inventoryExec fault) earlier.state).value = .ok levels)
    {sku : SKU} {level : StockLevel} (hlevel : levels.lookup sku = some level) :
    (∀ fault' skus' levels',
      ((checkAvailability skus').run (inventoryExec fault') pool.state).value = .ok levels' →
      sku ∈ skus' → ∃ level', levels'.lookup sku = some level' ∧ level'.aisleType = level.aisleType) ∧
    ∀ broadcast ∈ pool.state.broadcasts, broadcast.orderType = .customer → ∀ item ∈ broadcast.items,
      item.sku = sku → item.aisle = level.aisleType ∨ item.aisle = "Unknown" := by
  obtain ⟨⟨_, hbefore⟩, _, hafter⟩ := hpasses
  obtain ⟨hthreads, _, hearlier⟩ := Unheard.run shopPool_unheard hsigns hbefore
  obtain ⟨_, hkeeps, hlater⟩ := Unheard.run hthreads hearlier hafter
  rw [checkAvailability_level hread] at hlevel
  split at hlevel
  case isFalse => cases hlevel
  obtain ⟨row, hrow, rfl⟩ := Option.map_eq_some_iff.mp hlevel
  obtain ⟨row', hrow', haisle, _⟩ := hkeeps sku row hrow
  constructor
  · intro fault' skus' levels' hread' hsku
    refine ⟨⟨sku, row'.name, row'.aisleType, row'.quantity⟩, ?_, haisle⟩
    rw [checkAvailability_level hread', if_pos hsku, hrow']
    rfl
  · rintro broadcast hbroadcast htype item hitem rfl
    rcases hlater broadcast hbroadcast htype item hitem with hunknown | ⟨found, hfound, hnamed⟩
    · exact Or.inr hunknown
    · obtain rfl := Option.some.inj (hrow'.symm.trans hfound)
      exact Or.inl (hnamed.symm.trans haisle)

end

/-! ### Milk in another aisle -/

namespace Sample

/-- A truck brings milk for the produce aisle, the robots report it, and order-1 is
confirmed. -/
def relocation : List Request :=
  [.restock (some ⟨"SUPP-1", [⟨"milk", "Milk", "produce", 3, 1, 0, 0⟩]⟩) "restock-1",
    .client (some 7) (.confirm (some "order-1"))] ++
    List.replicate 5 (.report ⟨"restock-1", .restock, "NO_OP", ∅⟩)

end Sample

/-- The robots are sent to the dairy aisle. -/
theorem aisle_settled_sample :
    ∃ trace pool, Run serviceAct anyStep (shopPool Sample.relocation [] Sample.world) trace pool ∧
      pool.state.stock.available "milk" = 8 ∧ pool.state.broadcasts.length = 2 ∧
      ∀ broadcast ∈ pool.state.broadcasts, broadcast.orderType = .customer → ∀ item ∈ broadcast.items,
        item.sku = "milk" → item.aisle = "dairy" ∨ item.aisle = "Unknown" := by
  obtain ⟨trace, pool, hplayed, hcheck⟩ := run_of_play serviceAct (fun _ _ _ => true)
    (shopPool Sample.relocation [] Sample.world)
    ([0, 0, 0, 2, 3, 4, 5, 6, 6, 6, 7, 7, 1, 1, 1, 1].map fun index => (index, noFault))
    (fun _ pool => pool.state.stock.available "milk" = 8 && pool.state.broadcasts.length = 2)
    (by decide +kernel)
  have hrun : Run serviceAct anyStep _ trace pool := hplayed.mono fun _ _ _ _ => trivial
  have hpasses : Passes serviceAct (shopPool Sample.relocation [] Sample.world)
      (shopPool Sample.relocation [] Sample.world) pool := ⟨⟨[], .start⟩, trace, hrun⟩
  have hsigns : Sample.world.Signposted := fun broadcast hbroadcast => absurd hbroadcast List.not_mem_nil
  have hread : ((checkAvailability ["milk"]).run (inventoryExec .works) Sample.world).value =
    .ok (stockLevels (Sample.world.stock.getBatchItems ["milk"]) ["milk"]) := rfl
  have hlevel : (stockLevels (Sample.world.stock.getBatchItems ["milk"]) ["milk"]).lookup "milk" =
    some ⟨"milk", "Milk", "dairy", 5⟩ := rfl
  rw [Bool.and_eq_true, decide_eq_true_eq, decide_eq_true_eq] at hcheck
  exact ⟨trace, pool, hrun, hcheck.1, hcheck.2, (aisle_settled hsigns hpasses hread hlevel).2⟩

end AutoGrocery

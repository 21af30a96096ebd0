import AutoGrocery.Orders.Books

/-!
A report of a robot keeps the books, with all it starts: a finalization, and the
delivery of its metrics. Only a restock adds units, and an order is completed
only after its items were found in Redis, so the robots have heard of it.
-/

namespace AutoGrocery

open Interleaving InventoryHandler

section

variable {w w' : World}

/-- What an operation of a callback adds to stock. -/
private theorem callbackOp_stock {op : InventoryOp} (hop : isCallbackOp op)
    (hfine : InventoryAns.faulty op (inventoryExec .works op w).1 = false) :
    (∀ sku, (inventoryExec .works op w).2.stock.available sku =
        w.stock.available sku + upsertedBy sku op) ∧
      ∀ sku ∈ w.stock, sku ∈ (inventoryExec .works op w).2.stock := by
  by_cases hwrites : op.writes = some .stock
  · cases op <;> simp only [InventoryOp.writes, Option.some.injEq, reduceCtorEq] at hwrites
    case reserveStock => exact hop.elim
    case releaseStock => exact hop.elim
    case upsertStock item =>
      obtain ⟨stock', hok, hexec⟩ := onStock_ok w (fun stock => stock.upsertStock item)
        (fun err => StockTable.upsertStock_error) hfine
      have hstock : (inventoryExec .works (.upsertStock item) w).2.stock = stock' :=
        congrArg (fun answer => answer.2.stock) hexec
      obtain ⟨havailable, hrows⟩ := StockTable.upsertStock_ok hok
      rw [hstock]
      exact ⟨havailable, fun sku hsku => (hrows sku).mpr (Or.inr hsku)⟩
  · rw [inventoryExec_stock hwrites]
    refine ⟨fun sku => ?_, fun sku => id⟩
    cases op with
    | upsertStock item => exact absurd rfl hwrites
    | _ => simp [upsertedBy]

/-- An operation of a callback that completes dispatched orders only. -/
private theorem callbackOp_balanced (hbooked : Booked w) {op : InventoryOp} (hop : isCallbackOp op)
    (hfine : InventoryAns.faulty op (inventoryExec .works op w).1 = false)
    (hcompletes : ∀ orderID, op.completes orderID = true → w.dispatched orderID = true) :
    Balanced w (inventoryExec .works op w).2 [.inventory ⟨op, (inventoryExec .works op w).1⟩] := by
  obtain ⟨horders, hstatus⟩ := callbackOp_completes hop .works w
  have hbroadcasts := callbackOp_broadcasts hop .works w
  obtain ⟨havailable, hrows⟩ := callbackOp_stock hop hfine
  have hdispatched := dispatched_congr hbroadcasts
  constructor
  case ledger =>
    intro sku
    rw [World.ledger, havailable, untold_congr hbroadcasts horders, told_congr hbroadcasts, World.ledger]
    simp only [restocked, List.map_cons, List.map_nil, List.sum_singleton]
    ring
  constructor
  case wellFormed => exact horders.wellFormed hbooked.wellFormed
  case placed =>
    intro orderID row hrow
    obtain ⟨before, hbefore, hid, _⟩ := horders.row hrow
    have hlines : (inventoryExec .works op w).2.ordering.itemRows row.id =
        w.ordering.itemRows before.id := by
      rw [OrderingDB.itemRows, horders.items, hid]
      rfl
    rw [hlines]
    exact (hbooked.placed orderID before hbefore).mono hrows
  case pending =>
    intro orderID row hrow
    obtain ⟨before, hbefore, _⟩ := horders.row hrow
    have hbefore' := hbooked.pending orderID before hbefore
    rw [hdispatched]
    have hsame := hstatus orderID
    rw [OrderingDB.status_of_lookup hrow, OrderingDB.status_of_lookup hbefore] at hsame
    rcases hsame with hkept | ⟨hmeant, hdone⟩
    · rw [Option.some.inj hkept]
      exact hbefore'
    · rw [Option.some.inj hdone, hcompletes orderID hmeant]
      simp
  case known =>
    intro orderID hknown hnone
    rw [hdispatched] at hknown
    have hsame := horders.rows orderID
    rw [hnone, Option.map_none, eq_comm, Option.map_eq_none_iff] at hsame
    exact hbooked.known orderID hknown hsame
  case saved =>
    intro orderID items hsaved
    rw [hdispatched]
    rcases callbackOp_items hop .works w orderID with hsame | hnone
    · rw [MemoryStore.getOrderItems, RedisDB.getItems, hsame] at hsaved
      exact hbooked.saved orderID items hsaved
    · rw [MemoryStore.getOrderItems, RedisDB.getItems, hnone] at hsaved
      cases hsaved

/-- Where a callback stands: it may complete an order whose items it has read. -/
inductive PostPhase where
  | idle
  | closing (orderID : OrderID)

inductive PostRule : PostPhase → (op : InventoryOp) → InventoryAns op → PostPhase → Prop where
  | quiet (phase : PostPhase) {op : InventoryOp} (answer : InventoryAns op) : isCallbackOp op →
      op.concerns = none → PostRule phase op answer phase
  | read (orderID : OrderID) (items : ItemMap) :
      PostRule .idle (.getOrderItems orderID) (.ok items) (.closing orderID)
  | unread (orderID : OrderID) (err : GoError) :
      PostRule .idle (.getOrderItems orderID) (.error err) .idle
  | close (orderID : OrderID) {op : InventoryOp} (answer : InventoryAns op) : isCallbackOp op →
      op.concerns = none ∨ op.concerns = some orderID →
      PostRule (.closing orderID) op answer (.closing orderID)

/-- Items are only saved for orders the robots have heard of. -/
def PostPhase.Sound (w : World) : PostPhase → Prop
  | .idle => True
  | .closing orderID => w.dispatched orderID = true

private theorem quiet_follows {prog : InventoryProg Unit}
    (huses : prog.Uses (fun op => isCallbackOp op ∧ op.concerns = none)) :
    prog.Follows PostRule .idle :=
  huses.follows fun _ answer hop => .quiet .idle answer hop.1 hop.2

private theorem goroutines_post (event : Event InventoryAns) :
    ∀ prog ∈ goroutines event, prog.Follows PostRule .idle := by
  obtain ⟨op, ans⟩ := event
  cases op with
  | goFinalizeOrder orderID isRestock =>
      intro prog hprog
      rw [List.mem_singleton.mp hprog]
      cases isRestock with
      | true => exact quiet_follows (finalizeRestock_uses orderID)
      | false =>
          intro answer
          cases answer with
          | error err => exact ⟨_, .unread orderID err, trivial⟩
          | ok items =>
              refine ⟨_, .read orderID items, ?_⟩
              apply (billClientOrder_uses orderID items).follows
              exact fun op answer hop => .close orderID answer hop.1 hop.2.2
  | goUpdateStockMetrics metrics =>
      intro prog hprog
      rw [List.mem_singleton.mp hprog]
      exact quiet_follows (asyncStockMetrics_uses metrics)
  | _ => intro prog hprog; cases hprog

/-- An operation a callback may do completes dispatched orders only. -/
private theorem PostRule.completes {phase phase' : PostPhase} {op : InventoryOp}
    {answer : InventoryAns op} (hrule : PostRule phase op answer phase') (hsound : phase.Sound w) :
    isCallbackOp op ∧ ∀ orderID, op.completes orderID = true → w.dispatched orderID = true := by
  cases hrule with
  | quiet phase answer hop hquiet =>
      refine ⟨hop, fun orderID hcompletes => ?_⟩
      rw [InventoryOp.concerns_of_completes hcompletes] at hquiet
      cases hquiet
  | read orderID items => exact ⟨trivial, fun other hcompletes => by cases hcompletes⟩
  | unread orderID err => exact ⟨trivial, fun other hcompletes => by cases hcompletes⟩
  | close orderID answer hop hconcerns =>
      refine ⟨hop, fun other hcompletes => ?_⟩
      rw [InventoryOp.concerns_of_completes hcompletes] at hconcerns
      rcases hconcerns with hnone | hsame
      · cases hnone
      · rw [Option.some.inj hsame]
        exact hsound

/-- **The step lemma** of callbacks. -/
private theorem PostRule.step (hbooked : Booked w) {phase phase' : PostPhase} {op : InventoryOp}
    (hrule : PostRule phase op (inventoryExec .works op w).1 phase') (hsound : phase.Sound w)
    (hfine : InventoryAns.faulty op (inventoryExec .works op w).1 = false) :
    Balanced w (inventoryExec .works op w).2 [.inventory ⟨op, (inventoryExec .works op w).1⟩] ∧
      phase'.Sound (inventoryExec .works op w).2 := by
  obtain ⟨hop, hcompletes⟩ := hrule.completes hsound
  refine ⟨callbackOp_balanced hbooked hop hfine hcompletes, ?_⟩
  have hkept := dispatched_congr (callbackOp_broadcasts hop .works w)
  generalize hanswer : (inventoryExec .works op w).1 = answer at hrule
  cases hrule with
  | quiet phase answer _ _ =>
      cases phase with
      | idle => trivial
      | closing orderID => exact (hkept orderID).trans hsound
  | read orderID items => exact (hkept orderID).trans (hbooked.saved orderID items hanswer)
  | unread orderID err => trivial
  | close orderID answer _ _ => exact (hkept orderID).trans hsound

/-- No event of a list reports a fault. -/
def fine (events : List ServiceEvent) : Bool := events.all fun event => !event.faulty

private theorem fine_append {events events' : List ServiceEvent} (hfine : fine (events ++ events') = true) :
    fine events = true ∧ fine events' = true := by
  rwa [fine, List.all_append, Bool.and_eq_true] at hfine

private theorem callback_run {prog : InventoryProg Unit} {phase : PostPhase}
    (hfollows : prog.Follows PostRule phase) (hbooked : Booked w) (hsound : phase.Sound w)
    (hfine : fine ((prog.run (inventoryExec .works) w).trace.map .inventory) = true) :
    Balanced w (prog.run (inventoryExec .works) w).state
      ((prog.run (inventoryExec .works) w).trace.map .inventory) := by
  induction prog generalizing phase w with
  | ret value => exact .refl hbooked
  | call op next ih =>
      rw [Prog.run_call] at hfine ⊢
      simp only [List.map_cons] at hfine ⊢
      rw [← List.singleton_append] at hfine ⊢
      obtain ⟨hfirst, hrest⟩ := fine_append hfine
      obtain ⟨phase', hrule, hnext⟩ := hfollows (inventoryExec .works op w).1
      have hop : InventoryAns.faulty op (inventoryExec .works op w).1 = false := by
        simpa [fine, ServiceEvent.faulty] using hfirst
      obtain ⟨hbalanced, hsound'⟩ := hrule.step hbooked hsound hop
      exact hbalanced.trans (ih _ hnext hbalanced.booked hsound' hrest)

private theorem runAll_balanced {run : InventoryProg Unit → World → World × List (Event InventoryAns)}
    (hrun : ∀ prog w, prog.Follows PostRule .idle → Booked w →
      fine ((run prog w).2.map .inventory) = true → Balanced w (run prog w).1 ((run prog w).2.map .inventory))
    {progs : List (InventoryProg Unit)} (hprogs : ∀ prog ∈ progs, prog.Follows PostRule .idle)
    (hbooked : Booked w) (hfine : fine ((runAll run progs w).2.map .inventory) = true) :
    Balanced w (runAll run progs w).1 ((runAll run progs w).2.map .inventory) := by
  induction progs generalizing w with
  | nil => exact .refl hbooked
  | cons prog rest ih =>
      simp only [runAll, List.map_append] at hfine ⊢
      obtain ⟨hfirst, hrest⟩ := fine_append hfine
      have hbalanced := hrun prog w (hprogs prog List.mem_cons_self) hbooked hfirst
      exact hbalanced.trans
        (ih (fun other h => hprogs other (List.mem_cons_of_mem prog h)) hbalanced.booked hrest)

/-- A callback with all the goroutines it starts. -/
private theorem settle_balanced (depth : Nat) {prog : InventoryProg Unit}
    (hfollows : prog.Follows PostRule .idle) (hbooked : Booked w)
    (hfine : fine ((settle depth prog w).2.map .inventory) = true) :
    Balanced w (settle depth prog w).1 ((settle depth prog w).2.map .inventory) := by
  induction depth generalizing prog w with
  | zero => exact callback_run hfollows hbooked trivial hfine
  | succ depth ih =>
      simp only [settle, List.map_append] at hfine ⊢
      obtain ⟨hown, hstarted⟩ := fine_append hfine
      have hbalanced := callback_run hfollows hbooked trivial hown
      refine hbalanced.trans (runAll_balanced (fun prog w => ih) (fun started h => ?_)
        hbalanced.booked hstarted)
      obtain ⟨event, _, hevent⟩ := List.mem_flatMap.mp h
      exact goroutines_post event started hevent

theorem report_balanced (req : ReportJobStatusRequest) (hbooked : Booked w)
    (hfine : fine ((Request.report req).serve w).events = true) :
    Balanced w ((Request.report req).serve w).state ((Request.report req).serve w).events :=
  settle_balanced 2 (quiet_follows ((reportJobStatus_uses req).bind fun _ => .ret _)) hbooked hfine

end

end AutoGrocery

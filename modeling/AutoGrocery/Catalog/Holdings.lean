import AutoGrocery.Catalog.Metrics
import AutoGrocery.Catalog.Reserved

/-!
What a thread holds of stock and owes to pricing. Whoever reserves, bills or
reports items holds SKUs that have a row in stock, and rows are never dropped.
A restock finalization owes the metric of a SKU it has upserted until a
goroutine has delivered it.
-/

namespace AutoGrocery

open Interleaving InventoryHandler

/-! ### Pricing -/

/-- The loop of `UpdateStockMetrics` drops no row of the catalog, and counts all
metrics only if each SKU has a row afterwards. -/
theorem updateItems_run (updates : List StockMetric) (updatedCount : Int) (catalog : Catalog) :
    let outcome := (PricingHandler.updateItems updates updatedCount).run (pricingExec .works) catalog
    (∀ sku ∈ catalog.rows, sku ∈ outcome.state.rows) ∧
      outcome.value ≤ updatedCount + updates.length ∧
      (outcome.value = updatedCount + updates.length →
        ∀ sku ∈ updates.map StockMetric.sku, sku ∈ outcome.state.rows) := by
  induction updates generalizing updatedCount catalog with
  | nil =>
      refine ⟨fun sku => id, by simp [PricingHandler.updateItems], fun _ sku hsku => ?_⟩
      cases hsku
  | cons update rest ih =>
      set price := calculatePrice update.unitCost update.quantity.toInt
      simp only [PricingHandler.updateItems, Prog.run_call]
      cases hupsert : catalog.upsertItem update.sku price with
      | error err =>
          rw [pricingExec_upsertItem_error hupsert]
          obtain ⟨hrows, hle, _⟩ := ih updatedCount catalog
          refine ⟨hrows, ?_, fun hall => ?_⟩
          · simp only [List.length_cons]
            push_cast
            omega
          · simp only [List.length_cons] at hall
            push_cast at hall
            omega
      | ok answer =>
          obtain ⟨id, catalog'⟩ := answer
          rw [pricingExec_upsertItem_ok hupsert]
          obtain ⟨hrows, hle, hlisted⟩ := ih (updatedCount + 1) catalog'
          have hinsert : ∀ sku, sku ∈ catalog'.rows ↔ sku = update.sku ∨ sku ∈ catalog.rows := by
            obtain ⟨unitPrice, _, hdone⟩ := bind_eq_ok hupsert
            cases hdone
            exact fun sku => AList.mem_insert _
          refine ⟨fun sku hsku => hrows sku ((hinsert sku).mpr (Or.inr hsku)), ?_, fun hall => ?_⟩
          · simp only [List.length_cons]
            push_cast
            omega
          · have hrest := hlisted (by
              simp only [List.length_cons] at hall
              push_cast at hall
              omega)
            intro sku hsku
            rcases List.mem_cons.mp hsku with rfl | hsku
            · exact hrows _ ((hinsert _).mpr (Or.inl rfl))
            · exact hrest sku hsku

section

variable (w : World)

/-- `UpdateStockMetrics` as a call that meets no fault. -/
theorem updateStockMetrics_works (updates : List StockMetric) :
    inventoryExec .works (.updateStockMetrics updates) w =
      let outcome := (PricingHandler.updateItems updates 0).run (pricingExec .works) w.catalog
      (.ok ⟨true, Int32.ofInt outcome.value⟩, { w with catalog := outcome.state }) := by
  set items := (PricingHandler.updateItems updates 0).run (pricingExec .works) w.catalog
  have hcall := CallFault.call_works pricingExec .works (PricingHandler.updateStockMetrics updates) w.catalog
  have hrun : (PricingHandler.updateStockMetrics updates).run (pricingExec .works) w.catalog =
      ⟨.ok ⟨true, Int32.ofInt items.value⟩, items.state, items.trace ++ []⟩ :=
    Prog.run_bind (pricingExec .works) (PricingHandler.updateItems updates 0) _ w.catalog
  rw [hrun] at hcall
  simp only [inventoryExec, hcall]
  rfl

/-- No operation drops a row of the catalog. -/
theorem inventoryExec_prices (op : InventoryOp) :
    ∀ sku ∈ w.catalog.rows, sku ∈ (inventoryExec .works op w).2.catalog.rows := by
  by_cases hwrites : op.writes = some .catalog
  · cases op <;> simp only [InventoryOp.writes, Option.some.injEq, reduceCtorEq] at hwrites
    case calculateBill cart =>
      have hsame : (inventoryExec .works (.calculateBill cart) w).2.catalog = w.catalog :=
        (calculateBill_call .works cart w.catalog).1
      rw [hsame]
      exact fun sku => id
    case updateStockMetrics updates =>
      rw [updateStockMetrics_works]
      exact (updateItems_run updates 0 w.catalog).1
  · rw [inventoryExec_catalog hwrites]
    exact fun sku => id

end

/-! ### What the threads hold -/

/-- The metric of the SKU is on its way: a restock finalization has upserted the
SKU and will hand its metric on, or a goroutine is about to deliver it. -/
inductive Thread.Owes (sku : SKU) : Thread → Prop where
  | restock {phase : MetricsPhase} {prog : InventoryProg Unit} : RestockAt phase prog →
      phase.Lists sku → Owes sku (.inventory prog)
  | delivery {metrics : List StockMetric} : sku ∈ metrics.map StockMetric.sku →
      Owes sku (.inventory (asyncStockMetrics metrics))

/-- An operation that neither reads or bills items nor puts rows into stock. -/
def isPlainOp : InventoryOp → Prop
  | .getOrderItems _ => False
  | .calculateBill _ => False
  | .upsertStock _ => False
  | op => isCallbackOp op

/-- Where a callback stands; one that finalizes a client order holds its items. -/
inductive CartPhase where
  | idle
  | holding (items : ItemMap)

inductive CartRule : CartPhase → (op : InventoryOp) → InventoryAns op → CartPhase → Prop where
  | plain (phase : CartPhase) {op : InventoryOp} (answer : InventoryAns op) : isPlainOp op →
      CartRule phase op answer phase
  | read (orderID : OrderID) (items : ItemMap) :
      CartRule .idle (.getOrderItems orderID) (.ok items) (.holding items)
  | unread (orderID : OrderID) (err : GoError) :
      CartRule .idle (.getOrderItems orderID) (.error err) .idle
  | bill (items : ItemMap) (answer : Except GoError CalculateBillResponse) :
      CartRule (.holding items) (.calculateBill (cartItems items)) answer (.holding items)

/-- The items held name SKUs with a row. -/
def CartPhase.Stocked (stock : StockTable) : CartPhase → Prop
  | .idle => True
  | .holding items => ∀ sku ∈ items, sku ∈ stock

/-- The lines read name SKUs with a row. A confirm or cancel reserves nothing. -/
def ClientPhase.Stocked (stock : StockTable) : ClientPhase → Prop
  | .reserving _ => False
  | .creating _ => False
  | .holding answer => ∀ dbItems, answer = .ok dbItems → ∀ item ∈ dbItems, item.sku ∈ stock
  | _ => True

/-- The items a thread holds name SKUs with a row. -/
inductive Stocked (stock : StockTable) : Thread → Prop where
  | preview {user : Int} {orderID : OrderID} {items : ItemMap} {phase : PreviewPhase} {thread : Thread} :
      items.Positive → PreviewAt user orderID items phase thread →
      (phase = .creating → ∀ sku ∈ items, sku ∈ stock) → Stocked stock thread
  | later {user : Int} {orderID : OrderID} {phase : ClientPhase} {prog : OrderingProg} :
      prog.Follows (ClientRule user orderID) phase → phase.Stocked stock →
      Stocked stock (.ordering prog)
  | truck {prog : OrderingProg} : prog.Uses (fun op => op.names = none) → Stocked stock (.ordering prog)
  | callback {phase : CartPhase} {prog : InventoryProg Unit} : prog.Follows CartRule phase →
      phase.Stocked stock → Stocked stock (.inventory prog)
  | restock {phase : MetricsPhase} {prog : InventoryProg Unit} : RestockAt phase prog →
      Stocked stock (.inventory prog)

/-- More rows of stock do no harm. -/
theorem Stocked.mono {stock stock' : StockTable} {thread : Thread} (hstocked : Stocked stock thread)
    (hrows : ∀ sku ∈ stock, sku ∈ stock') : Stocked stock' thread := by
  cases hstocked with
  | preview hpos hat hitems => exact .preview hpos hat fun hphase sku hsku => hrows sku (hitems hphase sku hsku)
  | @later user orderID phase prog hfollows hphase =>
      refine .later hfollows ?_
      cases phase with
      | reserving items => exact hphase
      | creating items => exact hphase
      | holding answer => exact fun dbItems hok item hitem => hrows _ (hphase dbItems hok item hitem)
      | _ => trivial
  | truck huses => exact .truck huses
  | @callback phase prog hfollows hphase =>
      refine .callback hfollows ?_
      cases phase with
      | idle => trivial
      | holding items => exact fun sku hsku => hrows sku (hphase sku hsku)
  | restock hat => exact .restock hat

theorem plain_follows {prog : InventoryProg Unit} {phase : CartPhase}
    (huses : prog.Uses isPlainOp) : prog.Follows CartRule phase :=
  huses.follows fun _ answer hop => .plain phase answer hop

theorem reportJobStatus_plain (req : ReportJobStatusRequest) :
    (reportJobStatus req).Uses isPlainOp := by
  refine .call trivial fun answer => ?_
  cases answer with
  | error err => exact .ret _
  | ok count =>
      unfold afterIncrement
      dsimp only
      split
      · refine .call trivial fun answer => ?_
        cases answer with
        | error err => exact .ret _
        | ok marked =>
            cases marked with
            | false => exact .ret _
            | true => exact .call trivial fun _ => .ret _
      · exact .ret _

private theorem asyncStockMetrics_plain (metrics : List StockMetric) :
    (asyncStockMetrics metrics).Uses isPlainOp := by
  unfold asyncStockMetrics
  split
  · exact .ret _
  · exact .call trivial fun _ => .ret _

private theorem finalizeClientOrder_cart (orderID : OrderID) :
    (finalizeClientOrder orderID).Follows CartRule .idle := by
  intro answer
  cases answer with
  | error err => exact ⟨_, .unread orderID err, trivial⟩
  | ok items =>
      refine ⟨_, .read orderID items, fun answer => ⟨_, .bill items answer, fun posted => ?_⟩⟩
      exact ⟨_, .plain _ posted rfl, fun deleted => ⟨_, .plain _ deleted trivial, trivial⟩⟩

/-- The goroutines an operation starts hold no items yet. -/
theorem goroutines_stocked (stock : StockTable) (event : Event InventoryAns) :
    ∀ prog ∈ goroutines event, Stocked stock (.inventory prog) := by
  obtain ⟨op, ans⟩ := event
  cases op with
  | goFinalizeOrder orderID isRestock =>
      intro prog hprog
      rw [List.mem_singleton.mp hprog]
      cases isRestock with
      | true => exact .restock (.loading orderID)
      | false => exact .callback (finalizeClientOrder_cart orderID) trivial
  | goUpdateStockMetrics metrics =>
      intro prog hprog
      rw [List.mem_singleton.mp hprog]
      exact @Stocked.callback stock .idle _ (plain_follows (asyncStockMetrics_plain metrics)) trivial
  | _ => intro prog hprog; cases hprog

end AutoGrocery

import AutoGrocery.Catalog.Metrics

/-!
Restock finalizations and their deliveries, statement by statement. A
finalization acts on the stock table; the goroutine it starts runs
`UpdateStockMetrics` at pricing, one `UpsertItem` at a time. Nothing keeps two
deliveries in the order in which their finalizations ran.
-/

namespace AutoGrocery

open Interleaving InventoryHandler

/-- `UpdateStockMetrics` as the goroutine of a finalization calls it. -/
def delivery (metrics : List StockMetric) : Prog PricingAns (Except GoError UpdateStockMetricsResponse) :=
  if metrics.length = 0 then .ret (.ok ⟨true, 0⟩) else PricingHandler.updateStockMetrics metrics

/-- A finalization, which has started its goroutine or not, or a delivery. Both
know which finalization they are of. -/
inductive PriceThread where
  | finalizing (origin : Nat) (launched : Bool) (prog : InventoryProg Unit)
  | delivering (origin : Nat) (prog : Prog PricingAns (Except GoError UpdateStockMetricsResponse))

inductive PriceEvent where
  | inventory (origin : Nat) (event : Event InventoryAns)
  | pricing (origin : Nat) (event : Event PricingAns)

/-- The deliveries an operation starts. -/
def deliveries : InventoryOp → List (Prog PricingAns (Except GoError UpdateStockMetricsResponse))
  | .goUpdateStockMetrics metrics => [delivery metrics]
  | _ => []

/-- One statement of a finalization or of a delivery. -/
def priceAct : Act Unit PriceThread World PriceEvent
  | _, .finalizing origin launched (.call op next), w =>
      let answer := inventoryExec .works op w
      some ⟨.inventory origin ⟨op, answer.1⟩,
        .finalizing origin (launched || !(deliveries op).isEmpty) (next answer.1),
        (deliveries op).map (.delivering origin), answer.2⟩
  | _, .delivering origin (.call op next), w =>
      let answer := pricingExec .works op w.catalog
      some ⟨.pricing origin ⟨op, answer.1⟩, .delivering origin (next answer.1), [],
        { w with catalog := answer.2 }⟩
  | _, _, _ => none

/-- A statement that worked. -/
def PriceEvent.fine : PriceEvent → Bool
  | .inventory _ event => !InventoryAns.faulty event.op event.ans
  | .pricing _ ⟨.upsertItem _ _, .error _⟩ => false
  | .pricing _ _ => true

/-- Runs in which every statement works. -/
abbrev fineSteps : Pool PriceThread World → Nat → PriceEvent → Bool := fun _ _ event => event.fine

/-- Finalizations of these restocks, numbered from zero. -/
def finalizations (orderIDs : List OrderID) (w : World) : Pool PriceThread World :=
  ⟨orderIDs.zipIdx.map fun entry => .finalizing entry.2 false (finalizeRestock entry.1), w⟩

def PriceThread.ended : PriceThread → Bool
  | .finalizing _ _ (.ret _) => true
  | .delivering _ (.ret _) => true
  | _ => false

/-- The finalization whose metrics the thread has still to hand on or to deliver. -/
def PriceThread.carries : PriceThread → Option Nat
  | .finalizing origin launched _ => if launched then none else some origin
  | .delivering origin _ => some origin

/-! ### Who was last -/

/-- The finalization that upserts the SKU into stock with this step. -/
def upserterOf (sku : SKU) : PriceEvent → Option Nat
  | .inventory origin ⟨.upsertStock item, _⟩ => if item.sku = sku then some origin else none
  | _ => none

/-- The finalization whose metric of the SKU is stored with this step. -/
def applierOf (sku : SKU) : PriceEvent → Option Nat
  | .pricing origin ⟨.upsertItem stored _, _⟩ => if stored = sku then some origin else none
  | _ => none

/-- The finalization that was the last to upsert the SKU. -/
def lastUpserter (sku : SKU) (trace : List (Nat × PriceEvent)) : Option Nat :=
  (trace.filterMap fun step => upserterOf sku step.2).getLast?

/-- The finalization whose metric of the SKU was stored last. -/
def lastApplier (sku : SKU) (trace : List (Nat × PriceEvent)) : Option Nat :=
  (trace.filterMap fun step => applierOf sku step.2).getLast?

section

variable (sku : SKU) (trace : List (Nat × PriceEvent)) (step : Nat × PriceEvent)

private theorem getLast?_snoc {A B : Type} (f : A → Option B) (list : List A) (last : A) :
    ((list ++ [last]).filterMap f).getLast? = (f last).or (list.filterMap f).getLast? := by
  rw [List.filterMap_append]
  cases hlast : f last with
  | none => simp [hlast]
  | some value => simp [hlast]

theorem lastUpserter_append : lastUpserter sku (trace ++ [step]) =
    (upserterOf sku step.2).or (lastUpserter sku trace) :=
  getLast?_snoc (fun step : Nat × PriceEvent => upserterOf sku step.2) trace step

theorem lastApplier_append : lastApplier sku (trace ++ [step]) =
    (applierOf sku step.2).or (lastApplier sku trace) :=
  getLast?_snoc (fun step : Nat × PriceEvent => applierOf sku step.2) trace step

end

/-! ### Deliveries -/

/-- A delivery with the metrics it has still to store. -/
inductive DeliverAt :
    List StockMetric → Prog PricingAns (Except GoError UpdateStockMetricsResponse) → Prop where
  | ended (answer : Except GoError UpdateStockMetricsResponse) : DeliverAt [] (.ret answer)
  | item {metric : StockMetric} {rest : List StockMetric}
      {next : Except GoError Nat → Prog PricingAns (Except GoError UpdateStockMetricsResponse)} :
      (∀ answer, DeliverAt rest (next answer)) →
      DeliverAt (metric :: rest)
        (.call (.upsertItem metric.sku (calculatePrice metric.unitCost metric.quantity.toInt)) next)

private theorem updateItems_at (updates : List StockMetric) (updatedCount : Int) :
    DeliverAt updates (PricingHandler.updateItems updates updatedCount >>= fun updatedCount =>
      .ret (.ok ⟨true, Int32.ofInt updatedCount⟩)) := by
  induction updates generalizing updatedCount with
  | nil => exact .ended _
  | cons update rest ih =>
      refine .item fun answer => ?_
      cases answer with
      | error err => exact ih updatedCount
      | ok id => exact ih (updatedCount + 1)

theorem delivery_at (metrics : List StockMetric) : DeliverAt metrics (delivery metrics) := by
  unfold delivery
  split
  · rename_i hnone
    rw [List.eq_nil_of_length_eq_zero hnone]
    exact .ended _
  · exact updateItems_at metrics 0

end AutoGrocery

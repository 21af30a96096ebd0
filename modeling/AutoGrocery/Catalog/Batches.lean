import AutoGrocery.Pricing
import AutoGrocery.Relational.Overwrite

/-!
A batch of stock metrics of which some updates fail. `UpdateStockMetrics` goes on
after a failed `UpsertItem`, so the catalog it leaves is the old one with the
updates that went through written over it in order, and the last one of a SKU
decides its price.
-/

namespace AutoGrocery

open Interleaving Relational

/-- The database refuses a statement with an error, or lets it work. -/
def Fault.refusal : Option String → Fault
  | none => .works
  | some err => .fails err

/-- `UpsertItem` was answered without an error. -/
def wentThrough : Event PricingAns → Bool
  | ⟨.upsertItem _ _, .ok _⟩ => true
  | _ => false

/-- The statement of an update. -/
def metricOp (update : StockMetric) : PricingOp :=
  .upsertItem update.sku (calculatePrice update.unitCost update.quantity.toInt)

/-- The updates whose statement went through, in order. -/
def storedUpdates (updates : List StockMetric) (trace : List (Event PricingAns)) : List StockMetric :=
  ((updates.zip trace).filter fun step => wentThrough step.2).map Prod.fst

/-- What a price calculated from an update needs to fit its column. -/
def PriceFits (update : StockMetric) : Prop :=
  |calculatePrice update.unitCost update.quantity.toInt| < 100000000

namespace Catalog

/-- The catalog after an update went through. -/
def storeMetric (catalog : Catalog) (update : StockMetric) : Catalog :=
  let id := ((catalog.rows.lookup update.sku).map CatalogRow.id).getD catalog.nextID
  ⟨catalog.rows.insert update.sku ⟨id, calculatePrice update.unitCost update.quantity.toInt⟩,
    catalog.nextID + 1⟩

/-- Every row is still there under its id. -/
def KeepsIDs (catalog catalog' : Catalog) : Prop :=
  ∀ sku row, catalog.rows.lookup sku = some row →
    ∃ row', catalog'.rows.lookup sku = some row' ∧ row'.id = row.id

variable {catalog catalog' catalog'' : Catalog} {update : StockMetric}

theorem KeepsIDs.refl : catalog.KeepsIDs catalog := fun _ row hrow => ⟨row, hrow, rfl⟩

theorem KeepsIDs.trans (h : catalog.KeepsIDs catalog') (h' : catalog'.KeepsIDs catalog'') :
    catalog.KeepsIDs catalog'' := by
  intro sku row hrow
  obtain ⟨row', hrow', hid⟩ := h sku row hrow
  obtain ⟨row'', hrow'', hid'⟩ := h' sku row' hrow'
  exact ⟨row'', hrow'', hid'.trans hid⟩

theorem storeMetric_keepsIDs (catalog : Catalog) (update : StockMetric) :
    catalog.KeepsIDs (catalog.storeMetric update) := by
  intro sku row hrow
  by_cases heq : sku = update.sku
  · subst heq
    exact ⟨_, AList.lookup_insert _, by rw [hrow]; rfl⟩
  · exact ⟨row, (AList.lookup_insert_ne heq).trans hrow, rfl⟩

/-- A statement that does not overflow stores the calculated price, and answers with
the id of its row. -/
theorem upsertItem_metric (catalog : Catalog) (hfits : PriceFits update) :
    ∃ id row, catalog.upsertItem update.sku (calculatePrice update.unitCost update.quantity.toInt) =
        .ok (id, catalog.storeMetric update) ∧
      (catalog.storeMetric update).rows.lookup update.sku = some row ∧ row.id = id := by
  unfold PriceFits at hfits
  refine ⟨_, _, ?_, AList.lookup_insert _, rfl⟩
  rw [upsertItem, numeric_of_cents (calculatePrice_cents _ _), if_pos hfits]
  rfl

theorem upsertItem_overflow (catalog : Catalog) (hfits : ¬ PriceFits update) :
    ∃ err, catalog.upsertItem update.sku (calculatePrice update.unitCost update.quantity.toInt) =
      .error err := by
  unfold PriceFits at hfits
  refine ⟨.fault "pq: numeric field overflow", ?_⟩
  rw [upsertItem, numeric_of_cents (calculatePrice_cents _ _), if_neg hfits]
  rfl

/-- The last update of a SKU decides its price, and the others have their old row. -/
theorem foldl_storeMetric (catalog : Catalog) (stored : List StockMetric) :
    let after := stored.foldl storeMetric catalog
    catalog.KeepsIDs after ∧
      (∀ sku update, lastRow StockMetric.sku stored sku = some update →
        ∃ row, after.rows.lookup sku = some row ∧
          row.unitPrice = calculatePrice update.unitCost update.quantity.toInt) ∧
      ∀ sku, lastRow StockMetric.sku stored sku = none →
        after.rows.lookup sku = catalog.rows.lookup sku := by
  intro after
  induction stored using List.reverseRecOn with
  | nil =>
      refine ⟨.refl, fun sku update hlast => ?_, fun sku _ => rfl⟩
      cases hlast
  | append_singleton stored update ih =>
      obtain ⟨hids, hprices, hothers⟩ := ih
      have hafter : after = (stored.foldl storeMetric catalog).storeMetric update := by
        simp only [after, List.foldl_append, List.foldl_cons, List.foldl_nil]
      have hother : ∀ sku, update.sku ≠ sku →
          after.rows.lookup sku = (stored.foldl storeMetric catalog).rows.lookup sku := by
        intro sku hne
        rw [hafter]
        exact AList.lookup_insert_ne hne.symm
      simp only [lastRow_append_singleton]
      refine ⟨?_, fun sku last hlast => ?_, fun sku hlast => ?_⟩
      · rw [hafter]
        exact hids.trans (storeMetric_keepsIDs _ update)
      · by_cases heq : update.sku = sku
        · rw [if_pos heq] at hlast
          cases hlast
          subst heq
          rw [hafter]
          exact ⟨_, AList.lookup_insert _, rfl⟩
        · rw [if_neg heq] at hlast
          rw [hother sku heq]
          exact hprices sku last hlast
      · by_cases heq : update.sku = sku
        · rw [if_pos heq] at hlast
          cases hlast
        · rw [if_neg heq] at hlast
          rw [hother sku heq]
          exact hothers sku hlast

end Catalog

/-! ### The loop -/

/-- One statement of the loop: it goes through unless it is refused or the price does
not fit. -/
theorem metricOp_exec (failure : Option String) (update : StockMetric) (catalog : Catalog) :
    let answer := pricingExec (.refusal failure) (metricOp update) catalog
    (wentThrough ⟨metricOp update, answer.1⟩ = true ↔ failure = none ∧ PriceFits update) ∧
      answer.2 = (if wentThrough ⟨metricOp update, answer.1⟩ = true then catalog.storeMetric update
        else catalog) ∧
      ∀ id, answer.1 = .ok id → ∃ row, answer.2.rows.lookup update.sku = some row ∧ row.id = id := by
  intro answer
  have hthrough (hgo : failure = none ∧ PriceFits update) : ∃ id row,
      answer = (.ok id, catalog.storeMetric update) ∧
        (catalog.storeMetric update).rows.lookup update.sku = some row ∧ row.id = id := by
    obtain ⟨rfl, hfits⟩ := hgo
    obtain ⟨id, row, hok, hrow, hid⟩ := catalog.upsertItem_metric hfits
    exact ⟨id, row, pricingExec_upsertItem_ok hok, hrow, hid⟩
  have hrefused (hnot : ¬ (failure = none ∧ PriceFits update)) : ∃ err, answer = (.error err, catalog) := by
    cases failure with
    | some err => exact ⟨_, rfl⟩
    | none =>
        obtain ⟨err, herror⟩ := catalog.upsertItem_overflow fun hfits => hnot ⟨rfl, hfits⟩
        exact ⟨_, pricingExec_upsertItem_error herror⟩
  by_cases hgo : failure = none ∧ PriceFits update
  · obtain ⟨id, row, hanswer, hrow, hid⟩ := hthrough hgo
    rw [hanswer]
    refine ⟨iff_of_true rfl hgo, rfl, fun found hfound => ⟨row, hrow, ?_⟩⟩
    cases hfound
    exact hid
  · obtain ⟨err, hanswer⟩ := hrefused hgo
    rw [hanswer]
    refine ⟨iff_of_false (by simp [wentThrough, metricOp]) hgo, rfl, fun found hfound => ?_⟩
    cases hfound

/-- A round of the loop performs the statement of its update and goes on. -/
theorem updateItems_cons (update : StockMetric) (rest : List StockMetric) (failures : List (Option String))
    (updatedCount : Int) (catalog : Catalog) :
    let answer := pricingExec (.refusal failures[0]?.join) (metricOp update) catalog
    let event : Event PricingAns := ⟨metricOp update, answer.1⟩
    let later := (PricingHandler.updateItems rest (updatedCount + if wentThrough event then 1 else 0)).run
      (scripted pricingExec .works) (answer.2, failures.tail.map Fault.refusal)
    (PricingHandler.updateItems (update :: rest) updatedCount).run (scripted pricingExec .works)
      (catalog, failures.map Fault.refusal) = ⟨later.value, later.state, event :: later.trace⟩ := by
  intro answer event later
  have hstep : scripted pricingExec .works
      (.upsertItem update.sku (calculatePrice update.unitCost update.quantity.toInt))
      (catalog, failures.map Fault.refusal) = (answer.1, answer.2, failures.tail.map Fault.refusal) := by
    cases failures <;> rfl
  rw [PricingHandler.updateItems, Prog.run_call, hstep]
  cases hanswer : answer.1 with
  | error err => simp [later, event, hanswer, wentThrough, metricOp]
  | ok id => simp [later, event, hanswer, wentThrough, metricOp]

/-- What the loop has done when it ends. -/
structure BatchDone (updates : List StockMetric) (failures : List (Option String)) (catalog catalog' : Catalog)
    (events : List (Event PricingAns)) : Prop where
  stored : catalog' = (storedUpdates updates events).foldl Catalog.storeMetric catalog
  length : events.length = updates.length
  answered : ∀ (i : Nat) update, updates[i]? = some update → ∃ event, events[i]? = some event ∧
    event.op = metricOp update ∧ (wentThrough event = true ↔ failures[i]?.join = none ∧ PriceFits update)
  ids : ∀ sku unitPrice id, ⟨.upsertItem sku unitPrice, .ok id⟩ ∈ events →
    ∃ row, catalog'.rows.lookup sku = some row ∧ row.id = id

theorem storedUpdates_length_le (updates : List StockMetric) (events : List (Event PricingAns)) :
    (storedUpdates updates events).length ≤ updates.length := by
  rw [storedUpdates, List.length_map]
  exact (List.length_filter_le _ _).trans (by simp)

theorem storedUpdates_cons (update : StockMetric) (rest : List StockMetric) (event : Event PricingAns)
    (events : List (Event PricingAns)) :
    storedUpdates (update :: rest) (event :: events) =
      if wentThrough event = true then update :: storedUpdates rest events else storedUpdates rest events := by
  simp only [storedUpdates, List.zip_cons_cons, List.filter_cons]
  split <;> rfl

theorem Catalog.foldl_keepsIDs (catalog : Catalog) (stored : List StockMetric) :
    catalog.KeepsIDs (stored.foldl Catalog.storeMetric catalog) := (catalog.foldl_storeMetric stored).1

/-- A round before a loop that is done. -/
theorem BatchDone.cons {update : StockMetric} {rest : List StockMetric} {failures : List (Option String)}
    {catalog catalog' : Catalog} {events : List (Event PricingAns)} :
    let answer := pricingExec (.refusal failures[0]?.join) (metricOp update) catalog
    BatchDone rest failures.tail answer.2 catalog' events →
      BatchDone (update :: rest) failures catalog catalog' (⟨metricOp update, answer.1⟩ :: events) := by
  intro answer hdone
  obtain ⟨hthrough, hstate, hid⟩ := metricOp_exec failures[0]?.join update catalog
  constructor
  · rw [storedUpdates_cons, hdone.stored, hstate]
    split <;> rfl
  · rw [List.length_cons, List.length_cons, hdone.length]
  · intro i found hfound
    cases i with
    | zero =>
        obtain rfl : update = found := Option.some.inj hfound
        exact ⟨_, rfl, rfl, hthrough⟩
    | succ i =>
        obtain ⟨event, hevent, hop, hanswered⟩ := hdone.answered i found hfound
        rw [List.getElem?_tail] at hanswered
        exact ⟨event, hevent, hop, hanswered⟩
  · intro sku unitPrice id hmem
    rcases List.mem_cons.mp hmem with hfirst | hlater
    · have hkept : answer.2.KeepsIDs catalog' := by
        rw [hdone.stored]
        exact answer.2.foldl_keepsIDs _
      injection hfirst with hop hanswer
      injection hop with hsku
      subst hsku
      obtain ⟨row, hrow, hrowID⟩ := hid id hanswer.symm
      obtain ⟨row', hrow', hkeptID⟩ := hkept update.sku row hrow
      exact ⟨row', hrow', hkeptID.trans hrowID⟩
    · exact hdone.ids sku unitPrice id hlater

theorem updateItems_done (updates : List StockMetric) (failures : List (Option String))
    (updatedCount : Int) (catalog : Catalog) :
    let outcome := (PricingHandler.updateItems updates updatedCount).run (scripted pricingExec .works)
      (catalog, failures.map Fault.refusal)
    BatchDone updates failures catalog outcome.state.1 outcome.trace ∧
      outcome.value = updatedCount + (storedUpdates updates outcome.trace).length := by
  induction updates generalizing failures updatedCount catalog with
  | nil =>
      refine ⟨⟨rfl, rfl, fun i update hget => ?_, fun sku unitPrice id hmem => ?_⟩, (add_zero _).symm⟩
      · cases hget
      · cases hmem
  | cons update rest ih =>
      rw [updateItems_cons]
      obtain ⟨hdone, hcount⟩ := ih failures.tail _ _
      refine ⟨BatchDone.cons hdone, ?_⟩
      rw [storedUpdates_cons]
      refine hcount.trans ?_
      split
      · rw [List.length_cons]
        push_cast
        ring
      · rw [add_zero]

/-- The answer has the count of the loop. -/
theorem updateStockMetrics_run {σ : Type} (handler : Handler PricingAns σ) (updates : List StockMetric)
    (state : σ) :
    let loop := (PricingHandler.updateItems updates 0).run handler state
    (PricingHandler.updateStockMetrics updates).run handler state =
      ⟨.ok ⟨true, Int32.ofInt loop.value⟩, loop.state, loop.trace⟩ := by
  intro loop
  rw [PricingHandler.updateStockMetrics, Prog.run_bind]
  simp only [Prog.pure_eq, Prog.run_ret, List.append_nil]
  rfl

/-- **A batch with failures.** The database may refuse any statements of the batch, and
refuses a price that overflows its column. An update that goes through stores the
price of the last one of its SKU, the other rows stay as they are, and every row stays
under the id it has. The count is the number of updates that went through, as an
`int32`; no batch below 2 ^ 31 updates makes it wrap. -/
theorem updateStockMetrics_batch (catalog : Catalog) (updates : List StockMetric)
    (failures : List (Option String)) :
    let outcome := (PricingHandler.updateStockMetrics updates).run (scripted pricingExec .works)
      (catalog, failures.map Fault.refusal)
    let after := outcome.state.1
    let stored := storedUpdates updates outcome.trace
    outcome.trace.length = updates.length ∧
    (∀ (i : Nat) update, updates[i]? = some update → ∃ event, outcome.trace[i]? = some event ∧
      event.op = metricOp update ∧
      (wentThrough event = true ↔ failures[i]?.join = none ∧ PriceFits update)) ∧
    (∀ sku update, lastRow StockMetric.sku stored sku = some update →
      ∃ row, after.rows.lookup sku = some row ∧
        row.unitPrice = calculatePrice update.unitCost update.quantity.toInt) ∧
    (∀ sku, sku ∉ stored.map StockMetric.sku → after.rows.lookup sku = catalog.rows.lookup sku) ∧
    catalog.KeepsIDs after ∧
    (∀ sku unitPrice id, ⟨.upsertItem sku unitPrice, .ok id⟩ ∈ outcome.trace →
      ∃ row, after.rows.lookup sku = some row ∧ row.id = id) ∧
    after.rows.keys.Nodup ∧
    (∃ updatedCount, outcome.value = .ok ⟨true, updatedCount⟩ ∧
      updatedCount = Int32.ofInt stored.length ∧
      (updates.length < 2 ^ 31 → updatedCount.toInt = stored.length)) := by
  rw [updateStockMetrics_run]
  set loop := (PricingHandler.updateItems updates 0).run (scripted pricingExec .works)
    (catalog, failures.map Fault.refusal)
  intro outcome after stored
  obtain ⟨hdone, hcount⟩ := updateItems_done updates failures 0 catalog
  have hafter : after = stored.foldl Catalog.storeMetric catalog := hdone.stored
  obtain ⟨hkept, hprices, hothers⟩ := catalog.foldl_storeMetric stored
  rw [← hafter] at hkept hprices hothers
  have hvalue : outcome.value = .ok ⟨true, Int32.ofInt stored.length⟩ := by
    have hloop := hcount.trans (zero_add _)
    show Except.ok (UpdateStockMetricsResponse.mk true (Int32.ofInt loop.value)) = _
    rw [hloop]
  refine ⟨hdone.length, hdone.answered, hprices, fun sku hnot => ?_, hkept, hdone.ids,
    after.rows.nodupKeys, _, hvalue, rfl, fun hshort => ?_⟩
  · exact hothers sku ((lastRow_eq_none StockMetric.sku).mpr hnot)
  · have hfew := storedUpdates_length_le updates outcome.trace
    have hstored : stored.length < 2 ^ 31 := lt_of_le_of_lt hfew hshort
    exact Int32.toInt_ofInt_of_le (by omega) (by omega)

/-- The second update of milk is refused, so the first one decides. -/
theorem updateStockMetrics_batch_sample :
    let updates : List StockMetric := [⟨"milk", 10, 1⟩, ⟨"milk", 3, 2⟩]
    let outcome := (PricingHandler.updateStockMetrics updates).run (scripted pricingExec .works)
      ((⟨∅, 1⟩ : Catalog), [none, some "deadlock detected"].map Fault.refusal)
    ∃ row, outcome.state.1.rows.lookup "milk" = some row ∧ row.unitPrice = calculatePrice 1 10 := by
  have hlast : (lastRow StockMetric.sku (storedUpdates [⟨"milk", 10, 1⟩, ⟨"milk", 3, 2⟩]
      ((PricingHandler.updateStockMetrics [⟨"milk", 10, 1⟩, ⟨"milk", 3, 2⟩]).run
        (scripted pricingExec .works)
        ((⟨∅, 1⟩ : Catalog), [none, some "deadlock detected"].map Fault.refusal)).trace) "milk").map
          (fun update => (update.unitCost, update.quantity)) = some (1, 10) := by decide +kernel
  obtain ⟨⟨_, _, _⟩, hfirst, hmetric⟩ := Option.map_eq_some_iff.mp hlast
  cases hmetric
  exact (updateStockMetrics_batch ⟨∅, 1⟩ _ _).2.2.1 "milk" _ hfirst

end AutoGrocery

import AutoGrocery.Finalization.Runs

/-!
What the completion barrier says about the workers. `ReportJobStatus` counts
reports and looks at nothing else in them, so a started finalization means that
five different reports were counted. Which aisles these came from, and whether
every item of the broadcast had a worker, follows only from how the workers
are deployed.
-/

namespace AutoGrocery

open Interleaving

/-- The start of the order's finalization by `ReportJobStatus`. -/
def isStart (orderID : OrderID) (isRestock : Bool) : ServiceEvent → Bool
  | .inventory ⟨.goFinalizeOrder orderID' isRestock', _⟩ =>
      orderID' = orderID && isRestock' == isRestock
  | _ => false

/-- The run has started a finalization of the order. -/
def Started (orderID : OrderID) (isRestock : Bool) (trace : List (Nat × ServiceEvent)) : Prop :=
  ∃ step ∈ trace, isStart orderID isRestock step.2 = true

/-- No report has come for the order yet. -/
structure Untouched (orderID : OrderID) (isRestock : Bool) (w : World) : Prop where
  count : (keysOf orderID isRestock w.memory).count = 0
  marker : (keysOf orderID isRestock w.memory).marker = false

/-- The reports the workers make on a broadcast, one each. -/
def workerReports (workers : List RobotWorker) (broadcast : OrderBroadcast) :
    List ReportJobStatusRequest :=
  workers.map fun worker => worker.report broadcast

/-- The database the reports on a broadcast count in. -/
def OrderBroadcast.isRestock (broadcast : OrderBroadcast) : Bool :=
  decide (broadcast.orderType = .restock)

section

variable {orderID : OrderID} {isRestock : Bool} {requests : List ReportJobStatusRequest} {w : World}
  {trace : List (Nat × ServiceEvent)} {pool : Pool Thread World}

private theorem simulates_untouched
    (hrequests : ∀ req ∈ requests, Reports orderID isRestock req) :
    Simulates orderID isRestock (fun ops => ∃ work, Execution orderID work ops) False 1 []
      ⟨requests.map reportThread, w⟩ (barrierStart orderID isRestock requests.length w) :=
  ⟨reports_at hrequests, rfl, fun work _ _ hops => ⟨work, hops⟩, rfl, rfl, le_refl 1⟩

private theorem start_untouched (hkeys : Untouched orderID isRestock w) (n : Nat) :
    Barrier.Start (barrierStart orderID isRestock n w) := by
  refine ⟨?_, hkeys.count, hkeys.marker, rfl, rfl, fun _ => le_refl 1⟩
  intro i phase hphase
  exact Or.inl (List.eq_of_mem_replicate (List.mem_of_getElem? hphase))

/-- The reports counted in a run are different ones of those sent. -/
theorem counters_distinct (hrequests : ∀ req ∈ requests, Reports orderID isRestock req)
    (hkeys : Untouched orderID isRestock w)
    (hrun : Run serviceAct anyStep ⟨requests.map reportThread, w⟩ trace pool) :
    (counters orderID isRestock trace).Nodup ∧
      ∀ i ∈ counters orderID isRestock trace, i < requests.length := by
  obtain ⟨s, hreach, hsim⟩ := simulated False hrun
    (simulates_untouched hrequests) False.elim False.elim
  have hcounting := Barrier.counting (start_untouched hkeys requests.length) hreach
  rw [← hsim.counted]
  refine ⟨hcounting.nodup, fun i hi => ?_⟩
  have hfresh := hcounting.participant i hi
  have hlt := (List.getElem?_eq_some_iff.mp hfresh).1
  simpa [barrierStart] using hlt

private theorem counters_mono (orderID : OrderID) (isRestock : Bool)
    (trace : List (Nat × ServiceEvent)) (step : Nat × ServiceEvent) :
    (counters orderID isRestock trace).length ≤
      (counters orderID isRestock (trace ++ [step])).length := by
  simp [counters]

/-- Only a report that won the marker starts a finalization. -/
private theorem phase_of_start {complete : List InventoryOp → Prop} {clients : Prop}
    {phase : Barrier.Phase InventoryOp} {next : Unit → InventoryProg Unit}
    {orderID' : OrderID} {isRestock' : Bool}
    (hat : At orderID isRestock complete clients phase
      (.inventory (.call (.goFinalizeOrder orderID' isRestock') next))) : phase.Past := by
  generalize hthread : Thread.inventory (.call (.goFinalizeOrder orderID' isRestock') next) =
    thread at hat
  cases hat with
  | fresh => cases hthread
  | counted => exact Or.inl rfl
  | starting => exact Or.inr trivial
  | reading => exact Or.inr trivial
  | closing => exact Or.inr trivial
  | ret => cases hthread
  | metrics metrics =>
      unfold InventoryHandler.asyncStockMetrics at hthread
      split at hthread <;> cases hthread
  | client => cases hthread

/-- A finalization starts only after five reports were counted, whatever
faults the steps meet. -/
theorem five_counted (hrequests : ∀ req ∈ requests, Reports orderID isRestock req)
    (hkeys : Untouched orderID isRestock w)
    (hrun : Run serviceAct anyStep ⟨requests.map reportThread, w⟩ trace pool)
    (hstarted : Started orderID isRestock trace) :
    5 ≤ (counters orderID isRestock trace).length := by
  have hinv := hrun.invariant (fun pool trace =>
    (∃ s, Barrier.Reach 5 (fun ops => ∃ work, Execution orderID work ops) False
        (barrierStart orderID isRestock requests.length w) s ∧
      Simulates orderID isRestock (fun ops => ∃ work, Execution orderID work ops) False 1
        trace pool s) ∧
    (Started orderID isRestock trace → 5 ≤ (counters orderID isRestock trace).length)) ⟨?_, ?_⟩ ?_
  · exact hinv.2 hstarted
  · exact ⟨_, .start, simulates_untouched hrequests⟩
  · rintro ⟨step, hmem, _⟩
    cases hmem
  · rintro trace pool index thread fault move ⟨⟨s, hreach, hsim⟩, hfive⟩ hthread hact _
    refine ⟨hsim.step hreach False.elim hthread hact False.elim, ?_⟩
    rintro ⟨step, hmem, hstep⟩
    have hmono := counters_mono orderID isRestock trace (index, move.event)
    rcases List.mem_append.mp hmem with hold | hnew
    · exact (hfive ⟨step, hold, hstep⟩).trans hmono
    · obtain rfl := List.mem_singleton.mp hnew
      obtain ⟨phase, hphase, hat⟩ := Pool.getElem?_of_forall₂ hsim.phases hthread
      rcases serviceAct_eq_some hact with ⟨op, next, rfl, rfl⟩ | ⟨op, next, rfl, rfl⟩
      · cases hstep
      · cases op <;> simp [isStart] at hstep
        have hcounting := Barrier.counting (start_untouched hkeys requests.length) hreach
        have hpast := hcounting.past index phase hphase (phase_of_start hat)
        rw [hsim.counted] at hpast
        exact hpast.trans hmono

end

section

variable {broadcast : OrderBroadcast} {workers : List RobotWorker} {w : World}
  {trace : List (Nat × ServiceEvent)} {pool : Pool Thread World}

private theorem workerReports_reports (broadcast : OrderBroadcast) (workers : List RobotWorker) :
    ∀ req ∈ workerReports workers broadcast,
      Reports broadcast.orderID broadcast.isRestock req := by
  intro req hreq
  obtain ⟨worker, _, rfl⟩ := List.mem_map.mp hreq
  exact ⟨rfl, rfl⟩

/-- At most as many reports are counted as there are workers to send them. -/
private theorem counted_le_filter {p : RobotWorker → Bool} {indices : List Nat}
    (hnodup : indices.Nodup)
    (hmem : ∀ i ∈ indices, ∃ worker, workers[i]? = some worker ∧ p worker = true) :
    indices.length ≤ (workers.filter p).length := by
  have hsub : indices ⊆ (workers.zipIdx.filter fun entry => p entry.1).map Prod.snd := by
    intro i hi
    obtain ⟨worker, hworker, hp⟩ := hmem i hi
    exact List.mem_map.mpr ⟨(worker, i),
      List.mem_filter.mpr ⟨List.mem_zipIdx_iff_getElem?.mpr hworker, hp⟩, rfl⟩
  have hlength : (workers.zipIdx.filter fun entry => p entry.1).length =
      (workers.filter p).length := by
    conv_rhs => rw [← List.zipIdx_map_fst 0 workers, List.filter_map, List.length_map]
    rfl
  calc indices.length
      ≤ ((workers.zipIdx.filter fun entry => p entry.1).map Prod.snd).length :=
        (List.subperm_of_subset hnodup hsub).length_le
    _ = (workers.filter p).length := by rw [List.length_map, hlength]

/-- **The barrier and one aisle.** If the workers of all other aisles are at
most four, a finalization starts only after a report from this aisle. So with
one worker for each of five aisles it waits for all five. -/
theorem aisle_counted (aisle : String)
    (hothers : (workers.filter fun worker => worker.aisleType ≠ aisle).length ≤ 4)
    (hkeys : Untouched broadcast.orderID broadcast.isRestock w)
    (hrun : Run serviceAct anyStep ⟨(workerReports workers broadcast).map reportThread, w⟩ trace pool)
    (hstarted : Started broadcast.orderID broadcast.isRestock trace) :
    ∃ i worker, workers[i]? = some worker ∧ worker.aisleType = aisle ∧
      i ∈ counters broadcast.orderID broadcast.isRestock trace := by
  obtain ⟨hnodup, hlt⟩ := counters_distinct (workerReports_reports broadcast workers) hkeys hrun
  have hfive := five_counted (workerReports_reports broadcast workers) hkeys hrun hstarted
  by_contra hnone
  have hother : ∀ i ∈ counters broadcast.orderID broadcast.isRestock trace,
      ∃ worker, workers[i]? = some worker ∧ decide (worker.aisleType ≠ aisle) = true := by
    intro i hi
    have hlength : i < workers.length := by simpa [workerReports] using hlt i hi
    refine ⟨workers[i], List.getElem?_eq_getElem hlength, ?_⟩
    simp only [decide_eq_true_eq]
    exact fun haisle => hnone ⟨i, workers[i], List.getElem?_eq_getElem hlength, haisle, hi⟩
  have hle := counted_le_filter hnodup hother
  omega

/-- Milk in dairy and the five workers: the fifth report starts the
finalization, and party has been counted by then. -/
theorem aisle_counted_sample :
    ∃ trace pool, Run serviceAct anyStep
        ⟨(workerReports deploymentWorkers (Sample.broadcast "dairy")).map reportThread,
          Sample.dispatched⟩ trace pool ∧
      ∃ i worker, deploymentWorkers[i]? = some worker ∧ worker.aisleType = "party" ∧
        i ∈ counters "order-1" false trace := by
  obtain ⟨trace, pool, hrun, hcheck⟩ := run_of_play serviceAct
    (fun _ _ _ => true)
    (⟨(workerReports deploymentWorkers (Sample.broadcast "dairy")).map reportThread,
      Sample.dispatched⟩)
    ([4, 3, 2, 1, 0, 0, 0].map fun i => (i, noFault))
    (fun trace _ => trace.any fun step => isStart "order-1" false step.2) (by decide +kernel)
  have hrun' : Run serviceAct anyStep _ trace pool := hrun.mono fun _ _ _ _ => trivial
  obtain ⟨step, hmem, hstep⟩ := List.any_eq_true.mp hcheck
  exact ⟨trace, pool, hrun', aisle_counted "party" (by decide) ⟨rfl, rfl⟩ hrun' ⟨step, hmem, hstep⟩⟩

/-- With a second bread worker the finalization of an order starts although
nobody has reported from party. -/
theorem aisle_not_counted :
    ∃ (workers : List RobotWorker) (broadcast : OrderBroadcast) (w : World)
      (trace : List (Nat × ServiceEvent)) (pool : Pool Thread World),
      (∀ aisle ∈ deploymentAisles, ∃ worker ∈ workers, worker.aisleType = aisle) ∧
      (∀ item ∈ broadcast.items, item.aisle ∈ deploymentAisles) ∧
      broadcast ∈ w.broadcasts ∧ Untouched broadcast.orderID broadcast.isRestock w ∧
      Run serviceAct faultFree ⟨(workerReports workers broadcast).map reportThread, w⟩ trace pool ∧
      Started broadcast.orderID broadcast.isRestock trace ∧
      ∃ aisle ∈ deploymentAisles, ∀ i worker, workers[i]? = some worker →
        worker.aisleType = aisle → i ∉ counters broadcast.orderID broadcast.isRestock trace := by
  obtain ⟨trace, pool, hrun, hcheck⟩ := run_of_play serviceAct
    (fun _ _ event => !event.faulty)
    (⟨(workerReports (⟨"bread"⟩ :: deploymentWorkers) (Sample.broadcast "dairy")).map
      reportThread, Sample.dispatched⟩)
    ([0, 1, 2, 3, 4, 4, 4].map fun i => (i, noFault))
    (fun trace _ => (trace.any fun step => isStart "order-1" false step.2) &&
      (counters "order-1" false trace).all fun i =>
        (⟨"bread"⟩ :: deploymentWorkers)[i]? ≠ some ⟨"party"⟩) (by decide +kernel)
  simp only [Bool.and_eq_true, List.any_eq_true, List.all_eq_true, decide_eq_true_eq] at hcheck
  obtain ⟨⟨step, hmem, hstep⟩, hparty⟩ := hcheck
  refine ⟨⟨"bread"⟩ :: deploymentWorkers, Sample.broadcast "dairy", Sample.dispatched, trace, pool,
    by decide, by decide, by decide +kernel, ⟨rfl, rfl⟩,
    hrun.mono fun _ _ event h => by simpa using h, ⟨step, hmem, hstep⟩, "party", by decide, ?_⟩
  rintro i ⟨_⟩ hworker rfl hi
  exact hparty i hi hworker

end

/-! ### What the reports add up to -/

section

variable {orderID : OrderID} {orderType : OrderType} {items : GoMap ItemDetails} {w : World}
  {trace : List (Nat × ServiceEvent)} {pool : Pool Thread World}

/-- **Completion and the work done.** When the five workers of the deployment
report on a broadcast and a finalization starts, all five reports have been
counted; and an item of the broadcast is in one of them with its full quantity
exactly when its aisle is one of the five. -/
theorem completion_covers
    (hkeys : Untouched orderID (decide (orderType = .restock)) w)
    (hrun : Run serviceAct anyStep
      ⟨(workerReports deploymentWorkers (orderBroadcast orderID orderType items)).map reportThread,
        w⟩ trace pool)
    (hstarted : Started orderID (decide (orderType = .restock)) trace) :
    (∀ i < deploymentWorkers.length,
        i ∈ counters orderID (decide (orderType = .restock)) trace) ∧
      ∀ item ∈ (orderBroadcast orderID orderType items).items,
        (∃ worker ∈ deploymentWorkers,
          (worker.report (orderBroadcast orderID orderType items)).processedItems.lookup item.sku =
            some item.quantity) ↔ item.aisle ∈ deploymentAisles := by
  set broadcast := orderBroadcast orderID orderType items
  constructor
  · obtain ⟨hnodup, hlt⟩ := counters_distinct (workerReports_reports broadcast _) hkeys
      hrun
    have hfive := five_counted (workerReports_reports broadcast _) hkeys hrun hstarted
    have hsub : counters orderID (decide (orderType = .restock)) trace ⊆ List.range 5 :=
      fun i hi => List.mem_range.mpr (hlt i hi)
    have hperm := (List.subperm_of_subset hnodup hsub).perm_of_length_le hfive
    exact fun i hi => hperm.mem_iff.mpr (List.mem_range.mpr hi)
  · intro item hitem
    constructor
    · rintro ⟨worker, hworker, hlookup⟩
      have haisle := (processedItems_iff orderID orderType items worker hitem).mp hlookup
      obtain ⟨aisle, hmem, rfl⟩ := List.mem_map.mp hworker
      exact haisle ▸ hmem
    · intro haisle
      exact ⟨⟨item.aisle⟩, List.mem_map_of_mem haisle,
        (processedItems_iff orderID orderType items ⟨item.aisle⟩ hitem).mpr rfl⟩

theorem completion_covers_sample :
    ∃ trace pool, Run serviceAct anyStep
        ⟨(workerReports deploymentWorkers (orderBroadcast "order-1" .customer
          ((∅ : GoMap ItemDetails).insert "milk" ⟨2, "dairy"⟩))).map reportThread,
          Sample.dispatched⟩ trace pool ∧
      ∀ i < deploymentWorkers.length, i ∈ counters "order-1" false trace := by
  obtain ⟨trace, pool, hrun, hcheck⟩ := run_of_play serviceAct
    (fun _ _ _ => true)
    (⟨(workerReports deploymentWorkers (orderBroadcast "order-1" .customer
      ((∅ : GoMap ItemDetails).insert "milk" ⟨2, "dairy"⟩))).map reportThread, Sample.dispatched⟩)
    ([4, 3, 2, 1, 0, 0, 0].map fun i => (i, noFault))
    (fun trace _ => trace.any fun step => isStart "order-1" false step.2) (by decide +kernel)
  have hrun' : Run serviceAct anyStep _ trace pool := hrun.mono fun _ _ _ _ => trivial
  obtain ⟨step, hmem, hstep⟩ := List.any_eq_true.mp hcheck
  exact ⟨trace, pool, hrun', (completion_covers ⟨rfl, rfl⟩ hrun' ⟨step, hmem, hstep⟩).1⟩

/-- Milk in an aisle without a worker: the order is dispatched, all five
workers report, the finalization starts, and nobody has picked the milk. -/
theorem completion_without_work :
    ∃ (w : World) (broadcast : OrderBroadcast) (trace : List (Nat × ServiceEvent))
      (pool : Pool Thread World),
      broadcast ∈ (Sample.dispatch w).broadcasts ∧
      Untouched broadcast.orderID broadcast.isRestock (Sample.dispatch w) ∧
      Run serviceAct faultFree
        ⟨(workerReports deploymentWorkers broadcast).map reportThread, Sample.dispatch w⟩
        trace pool ∧
      Started broadcast.orderID broadcast.isRestock trace ∧
      ∃ item ∈ broadcast.items, ∀ worker ∈ deploymentWorkers,
        (worker.report broadcast).processedItems.lookup item.sku ≠ some item.quantity := by
  let frozen : World := { Sample.world with
    stock := (∅ : StockTable).insert "milk" ⟨"Milk", "frozen", 5, 1, 0, 0⟩ }
  obtain ⟨trace, pool, hrun, hcheck⟩ := run_of_play serviceAct
    (fun _ _ event => !event.faulty)
    (⟨(workerReports deploymentWorkers (Sample.broadcast "frozen")).map reportThread,
      Sample.dispatch frozen⟩)
    ([0, 1, 2, 3, 4, 4, 4].map fun i => (i, noFault))
    (fun trace _ => trace.any fun step => isStart "order-1" false step.2) (by decide +kernel)
  obtain ⟨step, hmem, hstep⟩ := List.any_eq_true.mp hcheck
  exact ⟨frozen, Sample.broadcast "frozen", trace, pool, by decide +kernel, ⟨rfl, rfl⟩,
    hrun.mono fun _ _ event h => by simpa using h, ⟨step, hmem, hstep⟩, ⟨"milk", 2, "frozen"⟩,
    by decide, by decide +kernel⟩

end

end AutoGrocery

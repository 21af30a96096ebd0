import AutoGrocery.Finalization.Workers

/-!
One Redis command that fails. The finalization of an order waits for the fifth of
five reports, and only that report tries to set the marker. No worker reports
twice and nothing else looks at the counter, so an increment or a marker that
fails without effect leaves the order without a finalization, wherever in the
interleaving it falls.
-/

namespace AutoGrocery

open Interleaving InventoryHandler

/-! ### Steps that fail without effect -/

/-- A step of a thread. It works, or it fails with an error and has no effect. -/
def cleanAct : Act (Option String) Thread World ServiceEvent :=
  fun failure => serviceAct (.works, ⟨failure.elim .works .fails, []⟩)

/-- The operations of a report. -/
def isReporting : InventoryOp → Bool
  | .incrementRobotCount _ _ => true
  | .tryMarkOrderFinalized _ _ => true
  | .goFinalizeOrder _ _ => true
  | _ => false

/-- An increment or a marker that failed. -/
def ServiceEvent.failsReport : ServiceEvent → Bool
  | .inventory event => isReporting event.op && InventoryAns.faulty event.op event.ans
  | .ordering _ => false

/-- The command that set the marker of the order. -/
def isMark (orderID : OrderID) (isRestock : Bool) : ServiceEvent → Bool
  | .inventory ⟨.tryMarkOrderFinalized orderID' isRestock', .ok true⟩ =>
      orderID' = orderID && isRestock' == isRestock
  | _ => false

/-- A finalization of the order has been started, after its marker was set. -/
structure Finalizing (orderID : OrderID) (isRestock : Bool) (trace : List (Nat × ServiceEvent)) :
    Prop where
  marked : ∃ step ∈ trace, isMark orderID isRestock step.2 = true
  started : Started orderID isRestock trace

/-- Neither has happened. -/
structure Dormant (orderID : OrderID) (isRestock : Bool) (trace : List (Nat × ServiceEvent)) :
    Prop where
  unmarked : ∀ step ∈ trace, isMark orderID isRestock step.2 = false
  unstarted : ∀ step ∈ trace, isStart orderID isRestock step.2 = false

/-- How many increments and markers have failed. -/
def failures (trace : List (Nat × ServiceEvent)) : Nat :=
  trace.countP fun step => step.2.failsReport

/-! ### A finalization makes no report -/

/-- A finalization that has read its items performs effects and quiet operations
and deletes the keys. -/
theorem Closing.silent {orderID : OrderID} {isRestock : Bool} {complete : List InventoryOp → Prop}
    {log : List InventoryOp} {prog : InventoryProg Unit}
    (hclosing : Closing orderID isRestock complete log prog) :
    prog.Uses (fun op => isReporting op = false) := by
  induction hclosing with
  | @effect log op next heffect hextends hnext ih =>
      refine .call ?_ ih
      cases op <;> first | rfl | cases heffect
  | @quiet log op next hquiet hnext ih =>
      refine .call ?_ ih
      cases op <;> first | rfl | cases hquiet
  | delete hcomplete => exact .call rfl fun _ => .ret _

theorem finalizeOrder_silent (orderID : OrderID) (isRestock : Bool) :
    (finalizeOrder orderID isRestock).Uses (fun op => isReporting op = false) := by
  cases isRestock with
  | false =>
      refine .call rfl fun answer => ?_
      cases answer with
      | error err => exact .ret _
      | ok items =>
          have hclosing : Closing orderID false (fun _ => True) [] (billClientOrder orderID items) :=
            closing_client items fun _ _ => trivial
          exact hclosing.silent
  | true =>
      refine .call rfl fun answer => ?_
      cases answer with
      | error err => exact .ret _
      | ok items =>
          have hclosing : Closing orderID true (fun _ => True) [] (restockRest orderID items) :=
            closing_restock items fun _ _ => trivial
          exact hclosing.silent

theorem asyncStockMetrics_silent (metrics : List StockMetric) :
    (asyncStockMetrics metrics).Uses (fun op => isReporting op = false) := by
  unfold asyncStockMetrics
  split
  · exact .ret _
  · exact .call rfl fun _ => .ret _

/-- A goroutine makes no report, whatever started it. -/
theorem goroutines_silent (event : Event InventoryAns) :
    ∀ prog ∈ goroutines event, prog.Uses (fun op => isReporting op = false) := by
  obtain ⟨op, ans⟩ := event
  cases op with
  | goFinalizeOrder orderID isRestock =>
      intro prog hprog
      rw [List.mem_singleton.mp hprog]
      exact finalizeOrder_silent orderID isRestock
  | goUpdateStockMetrics metrics =>
      intro prog hprog
      rw [List.mem_singleton.mp hprog]
      exact asyncStockMetrics_silent metrics
  | _ => intro prog hprog; cases hprog

/-! ### The stages of a report -/

/-- A report that has been answered. -/
def answered : Thread := .inventory (.ret ())

/-- A report that has counted the fifth robot and has still to set the marker. -/
def marking (orderID : OrderID) (isRestock : Bool) : Thread :=
  .inventory (rpcThread (afterIncrement orderID isRestock (.ok 5)))

/-- A report that has set the marker and has still to start the finalization. -/
def starting (orderID : OrderID) (isRestock : Bool) : Thread :=
  .inventory (.call (.goFinalizeOrder orderID isRestock) fun _ => .ret ())

/-- A report that has not incremented the counter yet. -/
def Thread.unreported : Thread → Bool
  | .inventory (.call (.incrementRobotCount _ _) _) => true
  | _ => false

section

variable {orderID : OrderID} {isRestock : Bool} {req : ReportJobStatusRequest} {w : World}
  {failure : Option String} {move : Move Thread World ServiceEvent}
  {trace : List (Nat × ServiceEvent)}

/-- What every step of a report does apart from its own command: it starts
nothing, marks nothing and finalizes nothing. -/
structure Plain (orderID : OrderID) (isRestock : Bool) (move : Move Thread World ServiceEvent) :
    Prop where
  spawned : move.spawned = []
  unmarked : isMark orderID isRestock move.event = false
  unstarted : isStart orderID isRestock move.event = false

theorem Dormant.append (hdormant : Dormant orderID isRestock trace)
    (hplain : Plain orderID isRestock move) (index : Nat) :
    Dormant orderID isRestock (trace ++ [(index, move.event)]) := by
  constructor
  · intro step hstep
    rcases List.mem_append.mp hstep with hold | hnew
    · exact hdormant.unmarked step hold
    · rw [List.mem_singleton.mp hnew]
      exact hplain.unmarked
  · intro step hstep
    rcases List.mem_append.mp hstep with hold | hnew
    · exact hdormant.unstarted step hold
    · rw [List.mem_singleton.mp hnew]
      exact hplain.unstarted

theorem failures_append (trace : List (Nat × ServiceEvent)) (index : Nat) (event : ServiceEvent) :
    failures (trace ++ [(index, event)]) = failures trace + event.failsReport.toNat := by
  cases hfails : event.failsReport <;> simp [failures, hfails]

/-- The increment fails, or it counts and the report goes on with the count. -/
theorem count_move (hreports : Reports orderID isRestock req)
    (hact : cleanAct failure (reportThread req) w = some move) :
    Plain orderID isRestock move ∧
      ((move.event.failsReport = true ∧ move.thread = answered ∧ move.state = w) ∨
        (move.event.failsReport = false ∧
          keysOf orderID isRestock move.state.memory =
            { keysOf orderID isRestock w.memory with
              count := (keysOf orderID isRestock w.memory).count + 1 } ∧
          move.thread = .inventory (rpcThread (afterIncrement orderID isRestock
            (.ok ((keysOf orderID isRestock w.memory).count + 1)))))) := by
  obtain ⟨rfl, rfl⟩ := hreports
  obtain ⟨hcount, hkeys, _⟩ := increment_spec req.orderID (InventoryHandler.isRestock req) w.memory
  cases failure with
  | none =>
      cases hact
      refine ⟨⟨rfl, rfl, rfl⟩, Or.inr ⟨rfl, hkeys, ?_⟩⟩
      rw [← hcount]
      rfl
  | some err =>
      cases hact
      exact ⟨⟨rfl, rfl, rfl⟩, Or.inl ⟨rfl, rfl, rfl⟩⟩

/-- The marker of an order that has none fails, or is set. -/
theorem mark_move (hmarker : (keysOf orderID isRestock w.memory).marker = false)
    (hact : cleanAct failure (marking orderID isRestock) w = some move) :
    move.spawned = [] ∧ isStart orderID isRestock move.event = false ∧
      ((move.event.failsReport = true ∧ isMark orderID isRestock move.event = false ∧
          move.thread = answered) ∨
        (move.event.failsReport = false ∧ isMark orderID isRestock move.event = true ∧
          move.thread = starting orderID isRestock)) := by
  obtain ⟨hanswer, _, _⟩ := tryMark_spec orderID isRestock w.memory w.now
  rw [hmarker] at hanswer
  cases failure with
  | none =>
      cases hact
      refine ⟨rfl, rfl, Or.inr ⟨rfl, ?_, ?_⟩⟩
      · show isMark orderID isRestock (.inventory ⟨.tryMarkOrderFinalized orderID isRestock,
          .ok (w.memory.tryMarkOrderFinalized w.now orderID isRestock).1⟩) = true
        rw [hanswer]
        simp [isMark]
      · show Thread.inventory (rpcThread (if (w.memory.tryMarkOrderFinalized w.now orderID isRestock).1
          then _ else _)) = _
        rw [hanswer]
        rfl
  | some err =>
      cases hact
      exact ⟨rfl, rfl, Or.inl ⟨rfl, rfl, rfl⟩⟩

/-- The finalization is started, whatever the environment does. -/
theorem start_move (hact : cleanAct failure (starting orderID isRestock) w = some move) :
    move.spawned = [.inventory (finalizeOrder orderID isRestock)] ∧ move.thread = answered ∧
      move.event.failsReport = false ∧ isStart orderID isRestock move.event = true := by
  cases hact
  exact ⟨rfl, rfl, rfl, by simp [isStart]⟩

/-- A thread that makes no report goes on so, and so does what it starts. -/
theorem silent_move {prog : InventoryProg Unit}
    (hsilent : prog.Uses (fun op => isReporting op = false))
    (hact : cleanAct failure (.inventory prog) w = some move) :
    move.event.failsReport = false ∧
      ∀ thread ∈ move.thread :: move.spawned, ∃ prog, thread = .inventory prog ∧
        prog.Uses (fun op => isReporting op = false) := by
  cases hsilent with
  | ret value => cases hact
  | call hop hnext =>
      cases hact
      refine ⟨by simp [ServiceEvent.failsReport, hop], fun thread hthread => ?_⟩
      rcases List.mem_cons.mp hthread with rfl | hspawned
      · exact ⟨_, rfl, hnext _⟩
      · obtain ⟨prog, hprog, rfl⟩ := List.mem_map.mp hspawned
        exact ⟨prog, rfl, goroutines_silent _ prog hprog⟩

end

/-! ### Five reports -/

/-- Every thread but this one has been answered. -/
def OthersAnswered (pool : Pool Thread World) (index : Nat) : Prop :=
  ∀ (i : Nat) (thread : Thread), pool.threads[i]? = some thread → i ≠ index → thread = answered

/-- Where five reports on an order stand. Until the fifth increment each of them
is unreported, counted or failed; then one report marks and starts; and once all
have been answered either some command has failed or the finalization runs. -/
inductive Standing (orderID : OrderID) (isRestock : Bool) (pool : Pool Thread World)
    (trace : List (Nat × ServiceEvent)) : Prop where
  | counting : pool.threads.length = 5 →
      (∀ thread ∈ pool.threads, (∃ req, Reports orderID isRestock req ∧ thread = reportThread req) ∨
        thread = answered) →
      (keysOf orderID isRestock pool.state.memory).marker = false →
      (keysOf orderID isRestock pool.state.memory).count < 5 →
      (keysOf orderID isRestock pool.state.memory).count + pool.tally Thread.unreported +
        failures trace = 5 →
      Dormant orderID isRestock trace → Standing orderID isRestock pool trace
  | marking (index : Nat) : pool.threads.length = 5 →
      pool.threads[index]? = some (marking orderID isRestock) → OthersAnswered pool index →
      (keysOf orderID isRestock pool.state.memory).marker = false → failures trace = 0 →
      Dormant orderID isRestock trace → Standing orderID isRestock pool trace
  | starting (index : Nat) : pool.threads.length = 5 →
      pool.threads[index]? = some (starting orderID isRestock) → OthersAnswered pool index →
      failures trace = 0 → (∃ step ∈ trace, isMark orderID isRestock step.2 = true) →
      Standing orderID isRestock pool trace
  | stranded : (∀ thread ∈ pool.threads, thread = answered) → 0 < failures trace →
      Dormant orderID isRestock trace → Standing orderID isRestock pool trace
  | finalizing : (∀ thread ∈ pool.threads, ∃ prog, thread = .inventory prog ∧
        prog.Uses (fun op => isReporting op = false)) →
      failures trace = 0 → Finalizing orderID isRestock trace → Standing orderID isRestock pool trace

section

variable {orderID : OrderID} {isRestock : Bool} {requests : List ReportJobStatusRequest} {w : World}
  {pool : Pool Thread World} {trace : List (Nat × ServiceEvent)} {index : Nat} {thread : Thread}
  {failure : Option String} {move : Move Thread World ServiceEvent}

theorem OthersAnswered.after (hothers : OthersAnswered pool index) (hspawned : move.spawned = []) :
    OthersAnswered (pool.after index move) index := by
  intro i thread hthread hne
  rcases Pool.threads_after hthread with ⟨rfl, _⟩ | ⟨_, hold⟩ | ⟨_, hnew⟩
  · exact absurd rfl hne
  · exact hothers i thread hold hne
  · rw [hspawned] at hnew
    cases hnew

/-- The last unreported report is answered or marks; the others were answered. -/
theorem OthersAnswered.of_tally
    (hthreads : ∀ thread ∈ pool.threads,
      (∃ req, Reports orderID isRestock req ∧ thread = reportThread req) ∨ thread = answered)
    (hspawned : move.spawned = []) (hnone : (pool.after index move).tally Thread.unreported = 0) :
    OthersAnswered (pool.after index move) index := by
  intro i thread hthread hne
  have hreported := Pool.tally_eq_zero.mp hnone thread (List.mem_of_getElem? hthread)
  rcases Pool.threads_after hthread with ⟨rfl, _⟩ | ⟨_, hold⟩ | ⟨_, hnew⟩
  · exact absurd rfl hne
  · rcases hthreads thread (List.mem_of_getElem? hold) with ⟨req, _, rfl⟩ | hanswered
    · cases hreported
    · exact hanswered
  · rw [hspawned] at hnew
    cases hnew

theorem Standing.opening (hfive : requests.length = 5)
    (hrequests : ∀ req ∈ requests, Reports orderID isRestock req)
    (hkeys : Untouched orderID isRestock w) :
    Standing orderID isRestock ⟨requests.map reportThread, w⟩ [] := by
  have htally : Pool.tally Thread.unreported (⟨requests.map reportThread, w⟩ : Pool Thread World) =
      5 := by
    have hone : (fun req => (reportThread req).unreported.toNat) = fun _ => 1 := rfl
    rw [Pool.tally, List.map_map, Function.comp_def, hone]
    simp [hfive]
  refine .counting (by simpa using hfive) (fun thread hthread => ?_) hkeys.marker ?_ ?_
    ⟨fun step hstep => absurd hstep List.not_mem_nil, fun step hstep => absurd hstep List.not_mem_nil⟩
  · obtain ⟨req, hreq, rfl⟩ := List.mem_map.mp hthread
    exact Or.inl ⟨req, hrequests req hreq, rfl⟩
  · rw [hkeys.count]
    decide
  · rw [hkeys.count, htally]
    rfl

/-- A report counts: another one may follow it, or it is the fifth. -/
theorem Standing.count (hfive : pool.threads.length = 5)
    (hthreads : ∀ thread ∈ pool.threads,
      (∃ req, Reports orderID isRestock req ∧ thread = reportThread req) ∨ thread = answered)
    (hmarker : (keysOf orderID isRestock pool.state.memory).marker = false)
    (hcount : (keysOf orderID isRestock pool.state.memory).count < 5)
    (hsum : (keysOf orderID isRestock pool.state.memory).count + pool.tally Thread.unreported +
      failures trace = 5)
    (hdormant : Dormant orderID isRestock trace) {req : ReportJobStatusRequest}
    (hreports : Reports orderID isRestock req)
    (hthread : pool.threads[index]? = some (reportThread req))
    (hact : cleanAct failure (reportThread req) pool.state = some move) :
    Standing orderID isRestock (pool.after index move) (trace ++ [(index, move.event)]) := by
  obtain ⟨hplain, hcounted⟩ := count_move hreports hact
  have hspawned := hplain.spawned
  have hlength : (pool.after index move).threads.length = 5 := by
    rw [Pool.length_after, hspawned]
    exact hfive
  have htally := Pool.tally_after Thread.unreported hthread move
    (by rw [hspawned]; exact fun spawned hnew => absurd hnew List.not_mem_nil)
  have hfailures := failures_append trace index move.event
  have hdormant' := hdormant.append hplain index
  have hafter (hanswered : move.thread = answered) :
      ∀ thread ∈ (pool.after index move).threads,
        (∃ req, Reports orderID isRestock req ∧ thread = reportThread req) ∨ thread = answered :=
    Pool.forall_threads_after hthreads (Or.inr hanswered)
      (by rw [hspawned]; exact fun spawned hnew => absurd hnew List.not_mem_nil)
  have hreported : (reportThread req).unreported.toNat = 1 := rfl
  rcases hcounted with ⟨hfails, hanswered, hstate⟩ | ⟨hworks, hkeys, hnext⟩
  · have hdone : move.thread.unreported.toNat = 0 := by
      rw [hanswered]
      rfl
    rw [hfails, Bool.toNat_true] at hfailures
    refine .counting hlength (hafter hanswered) ?_ ?_ ?_ hdormant'
    · rwa [Pool.after_state, hstate]
    · rwa [Pool.after_state, hstate]
    · rw [Pool.after_state, hstate]
      omega
  · have hkeys' : keysOf orderID isRestock (pool.after index move).state.memory =
        { keysOf orderID isRestock pool.state.memory with
          count := (keysOf orderID isRestock pool.state.memory).count + 1 } := hkeys
    rw [hworks, Bool.toNat_false] at hfailures
    by_cases hlast : 5 ≤ (keysOf orderID isRestock pool.state.memory).count + 1
    · have hcount' : (keysOf orderID isRestock pool.state.memory).count + 1 = 5 := by omega
      rw [hcount'] at hnext
      have hdone : move.thread.unreported.toNat = 0 := by
        rw [hnext]
        rfl
      have hnone : (pool.after index move).tally Thread.unreported = 0 := by omega
      refine .marking index hlength ?_ (.of_tally hthreads hspawned hnone) ?_ (by omega) hdormant'
      · rw [Pool.mover_after hthread move, hnext]
        rfl
      · rw [hkeys']
        exact hmarker
    · rw [afterIncrement, if_neg hlast] at hnext
      have hdone : move.thread.unreported.toNat = 0 := by
        rw [hnext]
        rfl
      refine .counting hlength (hafter hnext) ?_ ?_ ?_ hdormant'
      · rw [hkeys']
        exact hmarker
      · rw [hkeys']
        dsimp only
        omega
      · rw [hkeys']
        dsimp only
        omega

/-- **The step lemma.** One command of a report, or one operation of the
finalization. -/
theorem Standing.step (hstanding : Standing orderID isRestock pool trace)
    (hthread : pool.threads[index]? = some thread)
    (hact : cleanAct failure thread pool.state = some move) :
    Standing orderID isRestock (pool.after index move) (trace ++ [(index, move.event)]) := by
  have hmover := Pool.mover_after hthread move
  have hfailures := failures_append trace index move.event
  have hlength (hspawned : move.spawned = []) :
      (pool.after index move).threads.length = pool.threads.length := by
    rw [Pool.length_after, hspawned]
    rfl
  -- an answered thread makes no move, so the mover is the one that is not
  have hsame {other : Nat} (hothers : OthersAnswered pool other) : index = other := by
    by_contra hne
    obtain rfl := hothers index thread hthread hne
    cases hact
  cases hstanding with
  | counting hfive hthreads hmarker hcount hsum hdormant =>
      rcases hthreads thread (List.mem_of_getElem? hthread) with ⟨req, hreports, rfl⟩ | rfl
      · exact .count hfive hthreads hmarker hcount hsum hdormant hreports hthread hact
      · cases hact
  | marking marker hfive hmarking hothers hmarker hnone hdormant =>
      obtain rfl := hsame hothers
      obtain rfl := Option.some.inj (hmarking.symm.trans hthread)
      obtain ⟨hspawned, hunstarted, hmarked⟩ := mark_move hmarker hact
      rcases hmarked with ⟨hfails, hunmarked, hanswered⟩ | ⟨hworks, hmarks, hstarting⟩
      · have hdormant' := hdormant.append ⟨hspawned, hunmarked, hunstarted⟩ index
        rw [hfails, Bool.toNat_true] at hfailures
        refine .stranded (fun other hother => ?_) (by omega) hdormant'
        obtain ⟨i, hi⟩ := List.getElem?_of_mem hother
        by_cases heq : i = index
        · subst heq
          exact (Option.some.inj (hi.symm.trans hmover)).trans hanswered
        · exact hothers.after hspawned i other hi heq
      · rw [hworks, Bool.toNat_false] at hfailures
        exact .starting index ((hlength hspawned).trans hfive) (hmover.trans (congrArg some hstarting))
          (hothers.after hspawned) (by omega)
          ⟨_, List.mem_append_right _ (List.mem_singleton_self _), hmarks⟩
  | starting starter hfive hstarting hothers hnone hmarked =>
      obtain rfl := hsame hothers
      obtain rfl := Option.some.inj (hstarting.symm.trans hthread)
      obtain ⟨hspawned, hanswered, hworks, hstarts⟩ := start_move hact
      rw [hworks, Bool.toNat_false] at hfailures
      obtain ⟨step, hstep, hmark⟩ := hmarked
      have hsilent : ∃ prog, answered = .inventory prog ∧ prog.Uses (fun op => isReporting op = false) :=
        ⟨_, rfl, .ret ()⟩
      refine .finalizing (fun other hother => ?_) (by omega)
        ⟨⟨step, List.mem_append_left _ hstep, hmark⟩,
          ⟨_, List.mem_append_right _ (List.mem_singleton_self _), hstarts⟩⟩
      obtain ⟨i, hi⟩ := List.getElem?_of_mem hother
      rcases Pool.threads_after hi with ⟨_, rfl⟩ | ⟨hne, hold⟩ | ⟨_, hnew⟩
      · rwa [hanswered]
      · rwa [hothers i other hold hne]
      · rw [hspawned] at hnew
        rw [List.mem_singleton.mp (List.mem_of_getElem? hnew)]
        exact ⟨_, rfl, finalizeOrder_silent orderID isRestock⟩
  | stranded hthreads hfailed hdormant =>
      obtain rfl := hthreads thread (List.mem_of_getElem? hthread)
      cases hact
  | finalizing hsilent hnone hfinalizing =>
      obtain ⟨prog, rfl, huses⟩ := hsilent thread (List.mem_of_getElem? hthread)
      obtain ⟨hworks, hafter⟩ := silent_move huses hact
      rw [hworks, Bool.toNat_false] at hfailures
      obtain ⟨⟨step, hstep, hmark⟩, start, hstart, hstarts⟩ := hfinalizing
      exact .finalizing
        (Pool.forall_threads_after hsilent (hafter _ List.mem_cons_self)
          fun spawned hspawned => hafter _ (List.mem_cons_of_mem _ hspawned))
        (by omega)
        ⟨⟨step, List.mem_append_left _ hstep, hmark⟩, start, List.mem_append_left _ hstart, hstarts⟩

/-- **One failed command decides.** Five reports come for an order, one each, and
any command may fail without effect. Once all five have been answered, the marker
is set and a finalization started if no increment and no marker has failed, and
neither has happened if one has. -/
theorem stranded_by_failure (hfive : requests.length = 5)
    (hrequests : ∀ req ∈ requests, Reports orderID isRestock req)
    (hkeys : Untouched orderID isRestock w)
    (hrun : Run cleanAct anyStep ⟨requests.map reportThread, w⟩ trace pool)
    (hanswered : ∀ i < 5, pool.threads[i]? = some answered) :
    ((∀ step ∈ trace, step.2.failsReport = false) → Finalizing orderID isRestock trace) ∧
      ((∃ step ∈ trace, step.2.failsReport = true) → Dormant orderID isRestock trace) := by
  have hstanding : Standing orderID isRestock pool trace :=
    hrun.invariant (Standing orderID isRestock) (.opening hfive hrequests hkeys)
      fun _ _ _ _ _ _ hstanding hthread hact _ => hstanding.step hthread hact
  have hnone : failures trace = 0 ↔ ∀ step ∈ trace, step.2.failsReport = false := by
    simp [failures, List.countP_eq_zero]
  have hsome (hfailed : ∃ step ∈ trace, step.2.failsReport = true) : 0 < failures trace :=
    List.countP_pos_iff.mpr hfailed
  cases hstanding with
  | counting hlength hthreads hmarker hcount hsum hdormant =>
      have htally : pool.tally Thread.unreported = 0 := by
        refine Pool.tally_eq_zero.mpr fun thread hthread => ?_
        obtain ⟨i, hi⟩ := List.getElem?_of_mem hthread
        have hlt : i < 5 := hlength ▸ (List.getElem?_eq_some_iff.mp hi).1
        rw [Option.some.inj (hi.symm.trans (hanswered i hlt))]
        rfl
      refine ⟨fun hworks => ?_, fun _ => hdormant⟩
      have hzero := hnone.mpr hworks
      omega
  | marking index hlength hmarking _ _ _ _ =>
      have hlt : index < 5 := hlength ▸ (List.getElem?_eq_some_iff.mp hmarking).1
      cases hmarking.symm.trans (hanswered index hlt)
  | starting index hlength hstarting _ _ _ =>
      have hlt : index < 5 := hlength ▸ (List.getElem?_eq_some_iff.mp hstarting).1
      cases hstarting.symm.trans (hanswered index hlt)
  | stranded _ hfailed hdormant =>
      refine ⟨fun hworks => ?_, fun _ => hdormant⟩
      have hzero := hnone.mpr hworks
      omega
  | finalizing _ hzero hfinalizing =>
      refine ⟨fun _ => hfinalizing, fun hfailed => ?_⟩
      have hpos := hsome hfailed
      omega

end

/-! ### One report that fails -/

private def Thread.isAnswered : Thread → Bool
  | .inventory (.ret _) => true
  | _ => false

private theorem all_answered {pool : Pool Thread World}
    (h : (List.range 5).all fun i => (pool.threads[i]?).any Thread.isAnswered) :
    ∀ i < 5, pool.threads[i]? = some answered := by
  intro i hi
  have hanswered := List.all_eq_true.mp h i (List.mem_range.mpr hi)
  obtain ⟨thread, hthread, hret⟩ := Option.any_eq_true _ _ |>.mp hanswered
  rw [hthread]
  rcases thread with prog | prog <;> cases prog <;> first | rfl | cases hret

/-- No command fails, and the fifth report starts the finalization. -/
theorem stranded_by_failure_sample :
    ∃ trace pool, Run cleanAct anyStep
        ⟨(List.replicate 5 Sample.report).map reportThread, Sample.dispatched⟩ trace pool ∧
      Finalizing "order-1" false trace := by
  obtain ⟨trace, pool, hrun, hcheck⟩ := run_of_play cleanAct (fun _ _ _ => true)
    ⟨(List.replicate 5 Sample.report).map reportThread, Sample.dispatched⟩
    ([0, 1, 2, 3, 4, 4, 4].map fun index => (index, none))
    (fun trace pool => ((List.range 5).all fun i => (pool.threads[i]?).any Thread.isAnswered) &&
      trace.all fun step => !step.2.failsReport) (by decide +kernel)
  simp only [Bool.and_eq_true, List.all_eq_true (l := trace), Bool.not_eq_true'] at hcheck
  have hrun' : Run cleanAct anyStep _ trace pool := hrun.mono fun _ _ _ _ => trivial
  have hrequests : ∀ req ∈ List.replicate 5 Sample.report, Reports "order-1" false req := by
    intro req hreq
    rw [List.eq_of_mem_replicate hreq]
    exact ⟨rfl, rfl⟩
  exact ⟨trace, pool, hrun',
    (stranded_by_failure rfl hrequests ⟨rfl, rfl⟩ hrun' (all_answered hcheck.1)).1 hcheck.2⟩

/-- The five workers report on order-1, and the increment of the third fails. The
others count to four, and nothing is left that could finalize the order. -/
theorem stranded_order :
    ∃ trace pool, Run cleanAct anyStep
        ⟨(workerReports deploymentWorkers (Sample.broadcast "dairy")).map reportThread,
          Sample.dispatched⟩ trace pool ∧
      failures trace = 1 ∧ (∀ thread ∈ pool.threads, thread = answered) ∧
      pool.threads.length = 5 ∧ ¬ Started "order-1" false trace := by
  obtain ⟨trace, pool, hrun, hcheck⟩ := run_of_play cleanAct (fun _ _ _ => true)
    ⟨(workerReports deploymentWorkers (Sample.broadcast "dairy")).map reportThread, Sample.dispatched⟩
    [(0, none), (1, none), (2, some "connection refused"), (3, none), (4, none)]
    (fun trace pool => ((List.range 5).all fun i => (pool.threads[i]?).any Thread.isAnswered) &&
      decide (pool.threads.length = 5) && decide (failures trace = 1) &&
      trace.all fun step => !isStart "order-1" false step.2) (by decide +kernel)
  simp only [Bool.and_eq_true, decide_eq_true_eq] at hcheck
  obtain ⟨⟨⟨hanswered, hfive⟩, hone⟩, hstarts⟩ := hcheck
  refine ⟨trace, pool, hrun.mono fun _ _ _ _ => trivial, hone, fun thread hthread => ?_, hfive, ?_⟩
  · obtain ⟨i, hi⟩ := List.getElem?_of_mem hthread
    have hlt : i < 5 := hfive ▸ (List.getElem?_eq_some_iff.mp hi).1
    exact Option.some.inj (hi.symm.trans (all_answered hanswered i hlt))
  · rintro ⟨step, hstep, hstarted⟩
    have hnot := List.all_eq_true.mp hstarts step hstep
    rw [hstarted] at hnot
    cases hnot

end AutoGrocery

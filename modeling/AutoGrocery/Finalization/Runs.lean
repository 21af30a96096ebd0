import AutoGrocery.Finalization.Refinement

/-!
Runs of the services as runs of the barrier, and finalization exactly once.
-/

namespace AutoGrocery

open Interleaving

/-- The operations of inventory in a run, in order. -/
def inventoryOps (trace : List (Nat × ServiceEvent)) : List InventoryOp :=
  trace.filterMap fun step =>
    match step.2 with
    | .inventory event => some event.op
    | .ordering _ => none

/-- The effects of finalizations in a run, in order. -/
def effects (trace : List (Nat × ServiceEvent)) : List InventoryOp :=
  (inventoryOps trace).filter isEffect

/-- The threads that incremented the counter of an order, in order. -/
def counters (orderID : OrderID) (isRestock : Bool) (trace : List (Nat × ServiceEvent)) :
    List Nat :=
  trace.filterMap fun step =>
    match step.2 with
    | .inventory event => if isIncrement orderID isRestock event.op then some step.1 else none
    | .ordering _ => none

/-- A dispatch of the order, which saves its items. -/
def isDispatch (orderID : OrderID) (isRestock : Bool) : ServiceEvent → Bool
  | .ordering ⟨.processCustomerOrder req, _⟩ => !isRestock && req.orderID = orderID
  | .ordering ⟨.restockItemsOrder req, _⟩ => isRestock && req.orderID = orderID
  | _ => false

/-- How often the order was dispatched. -/
def dispatches (orderID : OrderID) (isRestock : Bool) (trace : List (Nat × ServiceEvent)) : Nat :=
  trace.countP fun step => isDispatch orderID isRestock step.2

section

variable (trace : List (Nat × ServiceEvent)) (index : Nat)

theorem effects_inventory (event : Event InventoryAns) :
    effects (trace ++ [(index, .inventory event)]) =
      effects trace ++ [event.op].filter isEffect := by
  simp [effects, inventoryOps]

theorem effects_ordering (event : Event OrderingAns) :
    effects (trace ++ [(index, .ordering event)]) = effects trace := by
  simp [effects, inventoryOps]

variable (orderID : OrderID) (isRestock : Bool)

theorem counters_inventory (event : Event InventoryAns) :
    counters orderID isRestock (trace ++ [(index, .inventory event)]) =
      if isIncrement orderID isRestock event.op then counters orderID isRestock trace ++ [index]
      else counters orderID isRestock trace := by
  by_cases hop : isIncrement orderID isRestock event.op = true <;> simp [counters, hop]

theorem counters_ordering (event : Event OrderingAns) :
    counters orderID isRestock (trace ++ [(index, .ordering event)]) =
      counters orderID isRestock trace := by
  simp [counters]

theorem dispatches_append (event : ServiceEvent) :
    dispatches orderID isRestock (trace ++ [(index, event)]) =
      dispatches orderID isRestock trace + if isDispatch orderID isRestock event then 1 else 0 := by
  simp [dispatches, List.countP_append, List.countP_singleton]

end

/-- The services and the barrier of one order, step for step. -/
structure Simulates (orderID : OrderID) (isRestock : Bool) (complete : List InventoryOp → Prop)
    (clients : Prop) (saved : Nat) (trace : List (Nat × ServiceEvent)) (pool : Pool Thread World)
    (s : Barrier.State InventoryOp) : Prop where
  phases : List.Forall₂ (At orderID isRestock complete clients) s.threads pool.threads
  keys : s.state.keys = keysOf orderID isRestock pool.state.memory
  work : ∀ work, savedWork orderID isRestock pool.state.memory = some work →
    ∀ ops, Execution orderID work ops → complete ops
  log : s.state.log = effects trace
  counted : s.state.counted = counters orderID isRestock trace
  saves : s.state.saves ≤ saved + dispatches orderID isRestock trace

section

variable {orderID : OrderID} {isRestock : Bool} {complete : List InventoryOp → Prop}
  {clients strict : Prop} {saved : Nat} {trace : List (Nat × ServiceEvent)}
  {start pool : Pool Thread World} {s s₀ : Barrier.State InventoryOp}

private theorem saveOrderItems_keys (orderID : OrderID) (isRestock : Bool) (now : Nat) (orderID' : OrderID)
    (items : ItemMap) (m : MemoryStore) :
    (keysOf orderID isRestock (m.saveOrderItems now orderID' items) = keysOf orderID isRestock m ∧
      savedWork orderID isRestock (m.saveOrderItems now orderID' items) =
        savedWork orderID isRestock m) ∨
    (keysOf orderID isRestock (m.saveOrderItems now orderID' items) =
        { keysOf orderID isRestock m with items := true } ∧
      isRestock = false ∧ orderID' = orderID) := by
  cases isRestock with
  | true => exact Or.inl ⟨rfl, rfl⟩
  | false =>
      by_cases heq : orderID' = orderID
      · subst heq
        exact Or.inr ⟨RedisDB.setItems_barrier _ _ _ _, rfl, rfl⟩
      · left
        simp [keysOf, savedWork, MemoryStore.saveOrderItems, RedisDB.setItems,
          Function.update_of_ne (Ne.symm heq)]

private theorem saveRestockItems_keys (orderID : OrderID) (isRestock : Bool) (now : Nat) (orderID' : OrderID)
    (items : List RestockItem) (m : MemoryStore) :
    (keysOf orderID isRestock (m.saveRestockItems now orderID' items) =
        keysOf orderID isRestock m ∧
      savedWork orderID isRestock (m.saveRestockItems now orderID' items) =
        savedWork orderID isRestock m) ∨
    (keysOf orderID isRestock (m.saveRestockItems now orderID' items) =
        { keysOf orderID isRestock m with items := true } ∧
      isRestock = true ∧ orderID' = orderID) := by
  cases isRestock with
  | false => exact Or.inl ⟨rfl, rfl⟩
  | true =>
      by_cases heq : orderID' = orderID
      · subst heq
        exact Or.inr ⟨RedisDB.setItems_barrier _ _ _ _, rfl, rfl⟩
      · left
        simp [keysOf, savedWork, MemoryStore.saveRestockItems, RedisDB.setItems,
          Function.update_of_ne (Ne.symm heq)]

/-- What a call of ordering may do to the keys of an order: nothing, or the
save that comes with a dispatch. -/
theorem orderingExec_keys (orderID : OrderID) (isRestock : Bool) (fault : CallFault (CallFault Fault))
    (op : OrderingOp) (w : World) :
    let answer := orderingExec fault op w
    (keysOf orderID isRestock answer.2.memory = keysOf orderID isRestock w.memory ∧
      savedWork orderID isRestock answer.2.memory = savedWork orderID isRestock w.memory) ∨
    (keysOf orderID isRestock answer.2.memory =
        { keysOf orderID isRestock w.memory with items := true } ∧
      isDispatch orderID isRestock (.ordering ⟨op, answer.1⟩) = true) := by
  have hsame {m : MemoryStore} (h : m = w.memory) :
      keysOf orderID isRestock m = keysOf orderID isRestock w.memory ∧
        savedWork orderID isRestock m = savedWork orderID isRestock w.memory := by
    rw [h]
    exact ⟨rfl, rfl⟩
  cases op with
  | store op => exact Or.inl (hsame rfl)
  | reserveItems req => exact Or.inl (hsame (stockCall_frame _ _ (reserveItems_uses req)).2.1)
  | releaseItems req => exact Or.inl (hsame (stockCall_frame _ _ (releaseItems_uses req)).2.1)
  | processCustomerOrder req =>
      rcases processCustomerOrder_memory fault w req with h | h
      · exact Or.inl (hsame h)
      · dsimp only
        rw [h]
        have hsave := saveOrderItems_keys orderID isRestock w.now
          req.orderID req.items w.memory
        rcases hsave with hkept | ⟨hkeys, rfl, rfl⟩
        · exact Or.inl hkept
        · exact Or.inr ⟨hkeys, by simp [isDispatch]⟩
  | restockItemsOrder req =>
      rcases restockItemsOrder_memory fault w req with h | h
      · exact Or.inl (hsame h)
      · dsimp only
        rw [h]
        have hsave := saveRestockItems_keys orderID isRestock w.now
          req.orderID req.items w.memory
        rcases hsave with hkept | ⟨hkeys, rfl, rfl⟩
        · exact Or.inl hkept
        · exact Or.inr ⟨hkeys, by simp [isDispatch]⟩

/-- One step of the services is at most two steps of the barrier. -/
theorem Simulates.step {index : Nat} {thread : Thread} {fault : ServiceFault}
    {move : Move Thread World ServiceEvent}
    (hsim : Simulates orderID isRestock complete clients saved trace pool s)
    (hreach : Barrier.Reach 5 complete strict s₀ s)
    (hany : clients → ∀ work ops, Execution orderID work ops → complete ops)
    (hthread : pool.threads[index]? = some thread)
    (hact : serviceAct fault thread pool.state = some move)
    (hstrict : strict → move.event.faulty = false) :
    ∃ s', Barrier.Reach 5 complete strict s₀ s' ∧
      Simulates orderID isRestock complete clients saved (trace ++ [(index, move.event)])
        (pool.after index move) s' := by
  obtain ⟨phase, hphase, hat⟩ := Pool.getElem?_of_forall₂ hsim.phases hthread
  rcases serviceAct_eq_some hact with ⟨op, next, rfl, rfl⟩ | ⟨op, next, rfl, rfl⟩
  · -- an ordering thread is nobody's participant, but may save a job
    obtain ⟨rfl, hclients⟩ : phase = .ended ∧ clients := by
      cases hat
      exact ⟨rfl, ‹_›⟩
    have hended : Barrier.Advance 5 complete false .ended s.state.keys .ended s.state.keys [] [] :=
      .ended
    have hreach' := hreach.step (.advance hphase hended fun _ => rfl)
    have hphases := Pool.forall₂_after hsim.phases index
      (Barrier.advanceMove s index .ended .ended s.state.keys [] [])
      (⟨.ordering ⟨op, (orderingExec fault.1 op pool.state).1⟩,
        .ordering (next (orderingExec fault.1 op pool.state).1), [],
        (orderingExec fault.1 op pool.state).2⟩ : Move Thread World ServiceEvent)
      (At.client _ hclients) .nil
    have hlog : s.state.log ++ [] = effects (trace ++ [(index, .ordering
        ⟨op, (orderingExec fault.1 op pool.state).1⟩)]) := by
      rw [effects_ordering, List.append_nil, hsim.log]
    have hcounted : s.state.counted = counters orderID isRestock (trace ++ [(index, .ordering
        ⟨op, (orderingExec fault.1 op pool.state).1⟩)]) := by
      rw [counters_ordering, hsim.counted]
    have hsaves := hsim.saves
    rcases orderingExec_keys orderID isRestock fault.1 op pool.state with
      ⟨hkeys, hwork⟩ | ⟨hkeys, hdispatch⟩
    · refine ⟨_, hreach', hphases, hsim.keys.trans hkeys.symm, ?_, hlog, hcounted, ?_⟩
      · intro work h
        exact hsim.work work (hwork ▸ h)
      · rw [dispatches_append]
        exact hsaves.trans (by omega)
    · refine ⟨_, hreach'.step .save, hphases, ?_, fun work _ => hany hclients work, hlog,
        hcounted, ?_⟩
      · rw [← hsim.keys] at hkeys
        exact hkeys.symm
      · rw [dispatches_append, if_pos hdispatch]
        exact (Nat.succ_le_succ hsaves).trans (by omega)
  · obtain ⟨⟨phase', faulty, emitted, spawned, hadv, hfaulty, hat', hspawned, hemitted⟩, hfresh,
      hwork⟩ := step_of_thread fault.2 hat hsim.work
    rw [← hsim.keys] at hadv
    have hstep : Barrier.Step 5 complete strict s _ := .advance hphase hadv fun h => by
      by_contra hfault
      have := hfaulty (by simpa using hfault)
      simp [ServiceEvent.faulty, this] at hstrict
      exact hstrict h
    refine ⟨_, hreach.step hstep, ?_, rfl, ?_, ?_, ?_, ?_⟩
    · exact Pool.forall₂_after hsim.phases index _ _ hat' hspawned
    · intro work h
      exact hsim.work work (hwork work h)
    · rw [effects_inventory, ← hemitted, ← hsim.log]
      rfl
    · rw [counters_inventory, ← hsim.counted, ← hfresh]
      rfl
    · rw [dispatches_append]
      exact hsim.saves.trans (by omega)

/-- Every run of the services is a run of the barrier of the order. -/
theorem simulated (strict : Prop) {allowed : Pool Thread World → Nat → ServiceEvent → Prop}
    (hrun : Run serviceAct allowed start trace pool)
    (hstart : Simulates orderID isRestock complete clients saved [] start s₀)
    (hany : clients → ∀ work ops, Execution orderID work ops → complete ops)
    (hstrict : strict → ∀ pool index event, allowed pool index event → event.faulty = false) :
    ∃ s, Barrier.Reach 5 complete strict s₀ s ∧
      Simulates orderID isRestock complete clients saved trace pool s := by
  refine hrun.invariant (fun pool trace => ∃ s, Barrier.Reach 5 complete strict s₀ s ∧
    Simulates orderID isRestock complete clients saved trace pool s) ⟨s₀, .start, hstart⟩ ?_
  rintro trace pool index thread fault move ⟨s, hreach, hsim⟩ hthread hact hallowed
  exact hsim.step hreach hany hthread hact fun h => hstrict h pool index _ hallowed

end

/-! ### Exactly once -/

/-- The items of the order are saved, and no report has come for it yet. -/
structure SavedOnce (orderID : OrderID) (isRestock : Bool) (work : Work) (w : World) : Prop where
  work : savedWork orderID isRestock w.memory = some work
  count : (keysOf orderID isRestock w.memory).count = 0
  marker : (keysOf orderID isRestock w.memory).marker = false

/-- Whether a thread has ended. The goroutine that hands price metrics to
pricing is neither a call nor a finalization and need not have ended. -/
def Thread.finished : Thread → Bool
  | .ordering prog => prog.next?.isNone
  | .inventory prog =>
      match prog.next? with
      | none => true
      | some (.updateStockMetrics _) => true
      | some _ => false

theorem phase_of_finished {orderID : OrderID} {isRestock : Bool}
    {complete : List InventoryOp → Prop} {clients : Prop} {phase : Barrier.Phase InventoryOp}
    {thread : Thread} (hat : At orderID isRestock complete clients phase thread)
    (hfinished : thread.finished = true) : phase = .ended := by
  cases hat with
  | fresh => cases hfinished
  | counted hle =>
      simp [Thread.finished, rpcThread, InventoryHandler.afterIncrement, hle] at hfinished
  | starting => cases hfinished
  | reading => cases isRestock <;> cases hfinished
  | @closing log prog hclosing =>
      cases hclosing with
      | @effect _ op _ hop => cases op <;> simp [isEffect] at hop <;> cases hfinished
      | @quiet _ op _ hop => cases op <;> simp [isQuiet] at hop <;> cases hfinished
      | delete => cases hfinished
  | ret => rfl
  | metrics => rfl
  | client => rfl

/-- The barrier at the start: one fresh participant for each report. -/
def barrierStart (orderID : OrderID) (isRestock : Bool) (n : Nat) (w : World) :
    Barrier.State InventoryOp :=
  ⟨List.replicate n .fresh, keysOf orderID isRestock w.memory, [], [], 1⟩

section

variable {orderID : OrderID} {isRestock : Bool} {work : Work} {requests : List ReportJobStatusRequest}
  {w : World}

theorem reports_at {complete : List InventoryOp → Prop} {clients : Prop}
    (hrequests : ∀ req ∈ requests, Reports orderID isRestock req) :
    List.Forall₂ (At orderID isRestock complete clients)
      (List.replicate requests.length .fresh) (requests.map reportThread) := by
  induction requests with
  | nil => exact .nil
  | cons req rest ih =>
      exact .cons (.fresh (hrequests req List.mem_cons_self))
        (ih fun req hreq => hrequests req (List.mem_cons_of_mem _ hreq))

theorem simulates_start (hrequests : ∀ req ∈ requests, Reports orderID isRestock req)
    (hsaved : SavedOnce orderID isRestock work w) :
    Simulates orderID isRestock (Execution orderID work) False 1 []
      ⟨requests.map reportThread, w⟩ (barrierStart orderID isRestock requests.length w) := by
  refine ⟨reports_at hrequests, rfl, ?_, rfl, rfl, le_refl 1⟩
  intro work' hwork' ops hops
  rw [hsaved.work] at hwork'
  obtain rfl := Option.some.inj hwork'
  exact hops

theorem start_barrier (hsaved : SavedOnce orderID isRestock work w) (n : Nat) :
    Barrier.Start (barrierStart orderID isRestock n w) := by
  refine ⟨?_, hsaved.count, hsaved.marker, rfl, rfl, fun _ => le_refl 1⟩
  intro i phase hphase
  exact Or.inl (List.eq_of_mem_replicate (List.mem_of_getElem? hphase))

/-- Without request handlers of ordering nothing is dispatched. -/
theorem no_dispatch {trace : List (Nat × ServiceEvent)} {pool : Pool Thread World}
    {allowed : Pool Thread World → Nat → ServiceEvent → Prop}
    (hrun : Run serviceAct allowed ⟨requests.map reportThread, w⟩ trace pool) :
    dispatches orderID isRestock trace = 0 := by
  have hinv := hrun.invariant (fun pool trace =>
    (∀ thread ∈ pool.threads, ∃ prog, thread = .inventory prog) ∧
      dispatches orderID isRestock trace = 0) ⟨?_, rfl⟩ ?_
  · exact hinv.2
  · intro thread hthread
    obtain ⟨req, _, rfl⟩ := List.mem_map.mp hthread
    exact ⟨_, rfl⟩
  · rintro trace pool index thread fault move ⟨hthreads, hnone⟩ hthread hact _
    rcases serviceAct_eq_some hact with ⟨op, next, rfl, _⟩ | ⟨op, next, rfl, rfl⟩
    · obtain ⟨prog, hprog⟩ := hthreads _ (List.mem_of_getElem? hthread)
      cases hprog
    · refine ⟨Pool.forall_threads_after hthreads ⟨_, rfl⟩ ?_, ?_⟩
      · intro thread hspawned
        obtain ⟨prog, _, rfl⟩ := List.mem_map.mp hspawned
        exact ⟨prog, rfl⟩
      · rw [dispatches_append, hnone]
        rfl

theorem start_items (hsaved : SavedOnce orderID isRestock work w) (n : Nat) :
    (barrierStart orderID isRestock n w).state.keys.items = true := by
  show (keysOf orderID isRestock w.memory).items = true
  rw [keysOf_items, hsaved.work]
  rfl

section

variable {trace : List (Nat × ServiceEvent)} {pool : Pool Thread World} {s : Barrier.State InventoryOp}

/-- The items of the order are not saved again in a run of reports. -/
theorem reports_saves {allowed : Pool Thread World → Nat → ServiceEvent → Prop}
    (hrun : Run serviceAct allowed ⟨requests.map reportThread, w⟩ trace pool)
    (hsim : Simulates orderID isRestock (Execution orderID work) False 1 trace pool s) :
    s.state.saves ≤ 1 := by
  simpa [no_dispatch hrun] using hsim.saves

/-- When five reports and all finalizations are over, there was one execution, and
it has deleted the keys. -/
theorem reports_done (hsaved : SavedOnce orderID isRestock work w) (hfive : 5 ≤ requests.length)
    (hreach : Barrier.Reach 5 (Execution orderID work) True
      (barrierStart orderID isRestock requests.length w) s)
    (hsim : Simulates orderID isRestock (Execution orderID work) False 1 trace pool s)
    (hsaves : s.state.saves ≤ 1) (hfinished : ∀ thread ∈ pool.threads, thread.finished = true) :
    Execution orderID work s.state.log ∧ s.state.keys.items = false := by
  have hstart := start_barrier hsaved requests.length
  have hguard := Barrier.guard (by decide) hstart (fun _ => start_items hsaved _) hreach hsaves
  have hended : ∀ (i : Nat) (phase : Barrier.Phase InventoryOp),
      s.threads[i]? = some phase → phase = .ended := by
    intro i phase hphase
    obtain ⟨thread, hthread, hat⟩ := Pool.getElem?_of_forall₂
      (R := fun thread phase => At orderID isRestock _ _ phase thread) hsim.phases.flip hphase
    exact phase_of_finished hat (hfinished thread (List.mem_of_getElem? hthread))
  refine hguard.done_of_ended trivial hended (hfive.trans ?_)
  apply (Barrier.counting hstart hreach).all_counted
  · intro i hi
    simp [barrierStart, hi]
  · intro i hi
    cases hended i _ hi

end

private theorem exists_execution (orderID : OrderID) (work : Work) :
    ∃ execution, Execution orderID work execution := by
  cases work with
  | client items => exact ⟨_, 0, rfl⟩
  | restock items => exact ⟨_, rfl⟩

/-- **Finalization happens exactly once.** In every state that any number of
reports for an order can reach without faults, the effects so far are an
initial part of one execution, there are none before five increments, and once
all reports and finalizations have ended there is one whole execution if at
least five reports came. -/
theorem finalization_exactly_once {trace : List (Nat × ServiceEvent)} {pool : Pool Thread World}
    (hrequests : ∀ req ∈ requests, Reports orderID isRestock req)
    (hsaved : SavedOnce orderID isRestock work w)
    (hrun : Run serviceAct faultFree ⟨requests.map reportThread, w⟩ trace pool) :
    (∃ execution, Execution orderID work execution ∧ effects trace <+: execution) ∧
      (effects trace ≠ [] → 5 ≤ (counters orderID isRestock trace).length) ∧
      ((∀ thread ∈ pool.threads, thread.finished = true) → 5 ≤ requests.length →
        Execution orderID work (effects trace)) := by
  obtain ⟨s, hreach, hsim⟩ := simulated True hrun
    (simulates_start hrequests hsaved) False.elim fun _ _ _ _ h => h
  have hstart := start_barrier hsaved requests.length
  have hsaves := reports_saves hrun hsim
  have hguard := Barrier.guard (by decide) hstart (fun _ => start_items hsaved _) hreach hsaves
  have hcounting := Barrier.counting hstart hreach
  refine ⟨?_, ?_, ?_⟩
  · rw [← hsim.log]
    rcases hguard.extends with hnil | hextends
    · obtain ⟨execution, hexecution⟩ := exists_execution orderID work
      exact ⟨execution, hexecution, hnil ▸ List.nil_prefix⟩
    · exact hextends
  · rw [← hsim.log, ← hsim.counted]
    exact hcounting.effects
  · intro hfinished hfive
    rw [← hsim.log]
    exact (reports_done hsaved hfive hreach hsim hsaves hfinished).1

/-- Five reports, the last of which finalizes the order to the end. -/
theorem finalization_exactly_once_sample :
    ∃ trace pool, Run serviceAct faultFree
        ⟨(List.replicate 5 Sample.report).map reportThread, Sample.dispatched⟩ trace pool ∧
      Execution "order-1" (.client Sample.items) (effects trace) := by
  obtain ⟨trace, pool, hrun, hcheck⟩ := run_of_play serviceAct
    (fun _ _ event => !event.faulty)
    (⟨(List.replicate 5 Sample.report).map reportThread, Sample.dispatched⟩)
    ([0, 1, 2, 3, 4, 4, 4, 5, 5, 5, 5].map fun i => (i, noFault))
    (fun _ pool => pool.threads.all Thread.finished) (by decide +kernel)
  have hrun' : Run serviceAct faultFree _ trace pool := hrun.mono fun _ _ event h => by simpa using h
  refine ⟨trace, pool, hrun', ?_⟩
  have hsaved : SavedOnce "order-1" false (.client Sample.items) Sample.dispatched :=
    ⟨rfl, rfl, rfl⟩
  exact (finalization_exactly_once
    (fun req hreq => by rw [List.eq_of_mem_replicate hreq]; exact ⟨rfl, rfl⟩) hsaved hrun').2.2
    (List.all_eq_true.mp hcheck) (by decide)

end

end AutoGrocery

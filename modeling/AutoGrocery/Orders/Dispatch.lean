import AutoGrocery.Orders.Confirm

/-!
How often an order is dispatched. A confirm request checks that the order is
PENDING in one step and claims it, by writing PROCESSING, in a later one. If no
two requests are between check and claim at a time, at most one of them gets to
call inventory, so the order is broadcast and billed at most once.
-/

namespace AutoGrocery

open Interleaving

/-- A command to the robots for this client order. -/
def OrderBroadcast.isFor (orderID : OrderID) (broadcast : OrderBroadcast) : Bool :=
  broadcast.orderType = .customer && broadcast.orderID = orderID

def isBill : InventoryOp → Bool
  | .calculateBill _ => true
  | _ => false

/-- How often something was billed in a run. -/
def bills (trace : List (Nat × ServiceEvent)) : Nat := (inventoryOps trace).countP isBill

/-- The order was not dispatched yet: no robot has heard of it and Redis has
nothing about it. -/
structure Undispatched (orderID : OrderID) (w : World) : Prop where
  broadcasts : ∀ broadcast ∈ w.broadcasts, broadcast.isFor orderID = false
  keys : keysOf orderID false w.memory = ⟨false, 0, false⟩

namespace Thread

/-- The thread is about to read the row of the order. -/
def checks (orderID : OrderID) : Thread → Bool
  | .inventory _ => false
  | .ordering prog =>
      match prog.next? with
      | some (.store (.getOrderByID orderID')) => orderID' = orderID
      | _ => false

/-- The thread has found the order PENDING and has not written PROCESSING yet. -/
def claims (orderID : OrderID) : Thread → Bool
  | .inventory _ => false
  | .ordering prog =>
      match prog.next? with
      | some (.store (.getOrderItems orderID')) => orderID' = orderID
      | some (.store (.updateStatus orderID' .processing)) => orderID' = orderID
      | _ => false

/-- The thread is about to call inventory. -/
def calls (orderID : OrderID) : Thread → Bool
  | .inventory _ => false
  | .ordering prog =>
      match prog.next? with
      | some (.processCustomerOrder req) => req.orderID = orderID
      | _ => false

end Thread

/-- The row of the order is read while it is PENDING only when no confirm
request stands between its own check and its PROCESSING write. -/
def exclusive (orderID : OrderID) (pool : Pool Thread World) (index : Nat) (_ : ServiceEvent) : Bool :=
  !(pool.threads[index]?.any (Thread.checks orderID) &&
      pool.state.ordering.status orderID = some .pending) ||
    pool.threads.all fun thread => !thread.claims orderID

section

variable {orderID : OrderID}

private def claimPhase : ConfirmPhase → Bool
  | .loading => true
  | .claiming => true
  | _ => false

private theorem confirming_phase {phase : ConfirmPhase} {thread : Thread}
    (hat : Confirming orderID phase thread) :
    thread.checks orderID = decide (phase = .checking) ∧
      thread.claims orderID = claimPhase phase ∧
      thread.calls orderID = decide (phase = .dispatching) := by
  cases hat with
  | confirm hprog =>
      cases hprog <;> simp [Thread.checks, Thread.claims, Thread.calls, claimPhase]
  | callback hcallback =>
      cases thread with
      | ordering prog => exact hcallback.elim
      | inventory prog => simp [Thread.checks, Thread.claims, Thread.calls, claimPhase]

/-- Either somebody may still call inventory, or somebody did, and not both;
while the order is PENDING and nobody has checked it, neither. -/
structure DispatchedOnce (orderID : OrderID) (trace : List (Nat × ServiceEvent))
    (pool : Pool Thread World) : Prop where
  threads : ∀ thread ∈ pool.threads, ∃ phase, Confirming orderID phase thread
  once : pool.tally (Thread.claims orderID) + pool.tally (Thread.calls orderID) +
    dispatches orderID false trace ≤ 1
  pending : pool.state.ordering.status orderID = some .pending →
    pool.tally (Thread.claims orderID) = 0 →
    pool.tally (Thread.calls orderID) + dispatches orderID false trace = 0
  broadcasts : pool.state.broadcasts.countP (OrderBroadcast.isFor orderID) ≤
    dispatches orderID false trace

variable {trace : List (Nat × ServiceEvent)} {pool : Pool Thread World}

/-- What a step changes in the counts, by the phases of the mover. -/
private theorem confirmStep_counts {phase phase' : ConfirmPhase} {s s' : Option OrderStatus}
    {called : Bool} (hstep : ConfirmStep phase s phase' s' called)
    {claims claims' calls calls' dispatched : Nat}
    (hclaims : claims' + (claimPhase phase).toNat = claims + (claimPhase phase').toNat)
    (hcalls : calls' + (decide (phase = .dispatching)).toNat =
      calls + (decide (phase' = .dispatching)).toNat)
    (honce : claims + calls + dispatched ≤ 1)
    (hpending : s = some .pending → claims = 0 → calls + dispatched = 0)
    (hexclusive : phase = .checking → s = some .pending → claims = 0) :
    claims' + calls' + (dispatched + if called then 1 else 0) ≤ 1 ∧
      (s' = some .pending → claims' = 0 → calls' + (dispatched + if called then 1 else 0) = 0) := by
  cases hstep with
  | refuse => simp [claimPhase] at hclaims hcalls ⊢; grind
  | find => simp [claimPhase] at hclaims hcalls ⊢; grind
  | unread => simp [claimPhase] at hclaims hcalls ⊢; grind
  | load => simp [claimPhase] at hclaims hcalls ⊢; grind
  | claim =>
      have hnot : s.map (fun _ => OrderStatus.processing) ≠ some .pending := by cases s <;> simp
      simp [claimPhase, hnot] at hclaims hcalls ⊢; grind
  | unclaimed _ _ hs => simp [claimPhase] at hclaims hcalls ⊢; grind
  | dispatch => simp [claimPhase] at hclaims hcalls ⊢; grind
  | undispatched => simp [claimPhase] at hclaims hcalls ⊢; grind
  | fail _ _ hs =>
      have hnot : s.map (fun _ => OrderStatus.failedDispatch) ≠ some .pending := by cases s <;> simp
      simp [claimPhase] at hclaims hcalls ⊢
      grind

/-- **The step lemma.** -/
theorem DispatchedOnce.step {index : Nat} {thread : Thread} {fault : ServiceFault}
    {move : Move Thread World ServiceEvent} (hinv : DispatchedOnce orderID trace pool)
    (hthread : pool.threads[index]? = some thread)
    (hact : serviceAct fault thread pool.state = some move)
    (hallowed : exclusive orderID pool index move.event = true) :
    DispatchedOnce orderID (trace ++ [(index, move.event)]) (pool.after index move) := by
  obtain ⟨phase, hat⟩ := hinv.threads thread (List.mem_of_getElem? hthread)
  obtain ⟨hchecks, hclaims, hcalls⟩ := confirming_phase hat
  obtain ⟨hspawned, hcases⟩ := hat.step hact
  have htallyClaims := Pool.tally_after (Thread.claims orderID) hthread move
    fun spawned h => (confirming_phase (hspawned spawned h)).2.1
  have htallyCalls := Pool.tally_after (Thread.calls orderID) hthread move
    fun spawned h => (confirming_phase (hspawned spawned h)).2.2
  have hthreads {phase' : ConfirmPhase} (hat' : Confirming orderID phase' move.thread) :
      ∀ thread ∈ (pool.after index move).threads, ∃ phase, Confirming orderID phase thread :=
    Pool.forall_threads_after hinv.threads ⟨phase', hat'⟩
      fun spawned h => ⟨.ended, hspawned spawned h⟩
  rcases hcases with ⟨phase', hat', hstep, hbroadcasts⟩ | ⟨rfl, hat', hcall, op, ans, _, hop, hstate⟩
  · obtain ⟨_, hclaims', hcalls'⟩ := confirming_phase hat'
    rw [hclaims, hclaims'] at htallyClaims
    rw [hcalls, hcalls'] at htallyCalls
    obtain ⟨honce, hpending⟩ := confirmStep_counts hstep htallyClaims htallyCalls hinv.once
      hinv.pending fun hphase hs => by
        apply Pool.tally_eq_zero.mpr
        simpa [exclusive, hthread, hchecks, hphase, hs] using hallowed
    refine ⟨hthreads hat', ?_, ?_, ?_⟩
    · rw [dispatches_append]
      exact honce
    · rw [dispatches_append]
      exact hpending
    · rw [dispatches_append]
      have hold := hinv.broadcasts
      rcases hbroadcasts with h | ⟨hcall, broadcast, h⟩
      · rw [Pool.after_state, h]
        omega
      · rw [Pool.after_state, h, if_pos hcall, List.countP_append, List.countP_singleton]
        split <;> omega
  · obtain ⟨_, hclaims', hcalls'⟩ := confirming_phase hat'
    rw [hclaims, hclaims'] at htallyClaims
    rw [hcalls, hcalls'] at htallyCalls
    have hstatus := (callbackOp_completes hop fault.2 pool.state).status orderID
    have hsame := callbackOp_broadcasts hop fault.2 pool.state
    rw [← hstate] at hstatus hsame
    have hdispatches : dispatches orderID false (trace ++ [(index, move.event)]) =
        dispatches orderID false trace := by
      rw [dispatches_append, hcall]
      rfl
    have honce := hinv.once
    refine ⟨hthreads hat', by rw [hdispatches]; omega, fun hpending hnone => ?_, ?_⟩
    · have hbefore : pool.state.ordering.status orderID = some .pending := by
        rcases hstatus with h | ⟨_, h⟩
        · exact h.symm.trans hpending
        · have hdone := h.symm.trans hpending
          cases hdone
      have := hinv.pending hbefore (by omega)
      rw [hdispatches]
      omega
    · rw [hdispatches, Pool.after_state, hsame]
      exact hinv.broadcasts

variable {users : List (Option Int)} {reports : List ReportJobStatusRequest} {w : World}

private theorem dispatchedOnce_start (hnew : Undispatched orderID w) :
    DispatchedOnce orderID [] (confirmPool orderID users reports w) := by
  have hphase : ∀ thread ∈ (confirmPool orderID users reports w).threads,
      ∃ phase, Confirming orderID phase thread ∧ (phase = .ended ∨ phase = .checking) := by
    intro thread hthread
    rcases List.mem_append.mp hthread with hconfirm | hreport
    · obtain ⟨userID, _, rfl⟩ := List.mem_map.mp hconfirm
      rcases confirmOrder_at userID orderID with h | h
      · exact ⟨.ended, .confirm h, Or.inl rfl⟩
      · exact ⟨.checking, .confirm h, Or.inr rfl⟩
    · obtain ⟨req, _, rfl⟩ := List.mem_map.mp hreport
      exact ⟨.ended, .callback (reportThread_isCallback req), Or.inl rfl⟩
  have hzero (test : Thread → Bool) (htest : ∀ phase thread, Confirming orderID phase thread →
      phase = .ended ∨ phase = .checking → test thread = false) :
      (confirmPool orderID users reports w).tally test = 0 := by
    apply Pool.tally_eq_zero.mpr
    intro thread hmem
    obtain ⟨phase, hat, hkind⟩ := hphase thread hmem
    exact htest phase thread hat hkind
  have hclaims := hzero (Thread.claims orderID) fun phase thread hat hkind => by
    rw [(confirming_phase hat).2.1]
    rcases hkind with rfl | rfl <;> rfl
  have hcalls := hzero (Thread.calls orderID) fun phase thread hat hkind => by
    rw [(confirming_phase hat).2.2]
    rcases hkind with rfl | rfl <;> rfl
  refine ⟨fun thread h => ?_, ?_, fun _ _ => ?_, ?_⟩
  · obtain ⟨phase, hat, _⟩ := hphase thread h
    exact ⟨phase, hat⟩
  · rw [hclaims, hcalls]
    exact Nat.zero_le 1
  · rw [hcalls]
    rfl
  · have hnone : w.broadcasts.countP (OrderBroadcast.isFor orderID) = 0 :=
      List.countP_eq_zero.mpr fun broadcast h => by simp [hnew.broadcasts broadcast h]
    exact hnone.le

/-! ### Bills -/

/-- The execution of some work for the order. -/
private abbrev someExecution (orderID : OrderID) (ops : List InventoryOp) : Prop :=
  ∃ work, Execution orderID work ops

private theorem execution_bills {ops : List InventoryOp} (hops : someExecution orderID ops) :
    ops.countP isBill ≤ 1 := by
  obtain ⟨work, hwork⟩ := hops
  cases work with
  | client items =>
      obtain ⟨price, rfl⟩ := hwork
      exact le_refl 1
  | restock items =>
      have hlist : ops = items.map (fun pi => .upsertStock (InventoryHandler.stockItem pi)) ++
          [.postWebhook .updateRestock
            ⟨orderID, .completed, "total_cost", manifestCost items⟩] := hwork
      simp [hlist, isBill, Function.comp_def]

private theorem bills_eq (trace : List (Nat × ServiceEvent)) :
    bills trace = (effects trace).countP isBill := by
  rw [effects, List.countP_filter, bills]
  refine List.countP_congr fun op _ => ?_
  cases op <;> simp [isBill, isEffect]

private theorem clients_at (users : List (Option Int)) :
    List.Forall₂ (At orderID false (someExecution orderID) True) (List.replicate users.length .ended)
      (users.map fun userID => .ordering (confirmOrder userID (some orderID))) := by
  induction users with
  | nil => exact .nil
  | cons userID rest ih => exact .cons (.client _ trivial) ih

/-- While the order is dispatched at most once its keys are guarded, so there
is at most one finalization that bills. -/
private theorem billed_at_most_once
    {allowed : Pool Thread World → Nat → ServiceEvent → Prop}
    (hreports : ∀ req ∈ reports, Reports orderID false req) (hnew : Undispatched orderID w)
    (hrun : Run serviceAct allowed (confirmPool orderID users reports w) trace pool)
    (honce : dispatches orderID false trace ≤ 1) : bills trace ≤ 1 := by
  let start : Barrier.State InventoryOp :=
    ⟨List.replicate users.length .ended ++ List.replicate reports.length .fresh,
      ⟨keysOf orderID false w.memory, [], [], 0⟩⟩
  have hstart : Barrier.Start start := by
    have hkeys : start.state.keys = ⟨false, 0, false⟩ := hnew.keys
    refine ⟨?_, by rw [hkeys], by rw [hkeys], rfl, rfl, fun h => by rw [hkeys] at h; cases h⟩
    intro i phase hphase
    rcases List.mem_append.mp (List.mem_of_getElem? hphase) with h | h
    · exact Or.inr (List.eq_of_mem_replicate h)
    · exact Or.inl (List.eq_of_mem_replicate h)
  have hsimulates : Simulates orderID false (someExecution orderID) True 0 []
      (confirmPool orderID users reports w) start :=
    ⟨List.rel_append (clients_at users) (reports_at hreports), rfl, fun work _ ops h => ⟨work, h⟩, rfl, rfl,
      le_refl 0⟩
  obtain ⟨s, hreach, hsim⟩ := simulated False hrun hsimulates
    (fun _ work ops h => ⟨work, h⟩) False.elim
  have hsaves : s.state.saves ≤ 1 := hsim.saves.trans (by omega)
  have hguard := Barrier.guard (by decide) hstart False.elim hreach hsaves
  rw [bills_eq, ← hsim.log]
  rcases hguard.extends with hnil | ⟨full, hfull, hprefix⟩
  · rw [hnil]
    exact Nat.zero_le 1
  · exact hprefix.sublist.countP_le.trans (execution_bills hfull)

/-- **Exclusive confirms dispatch once.** In a run in which no confirm request
finds the order PENDING while another stands between check and claim, inventory
is called at most once for the order, whatever faults the steps meet; the
robots get at most one command for it and it is billed at most once. -/
theorem dispatched_at_most_once (hreports : ∀ req ∈ reports, Reports orderID false req)
    (hnew : Undispatched orderID w)
    (hrun : Run serviceAct (fun pool index event => exclusive orderID pool index event = true)
      (confirmPool orderID users reports w) trace pool) :
    dispatches orderID false trace ≤ 1 ∧
      pool.state.broadcasts.countP (OrderBroadcast.isFor orderID) ≤ 1 ∧ bills trace ≤ 1 := by
  have hinv := hrun.invariant (fun pool trace => DispatchedOnce orderID trace pool)
    (dispatchedOnce_start hnew)
    fun _ _ _ _ _ _ hinv hthread hact hallowed => hinv.step hthread hact hallowed
  have honce : dispatches orderID false trace ≤ 1 := (Nat.le_add_left _ _).trans hinv.once
  exact ⟨honce, hinv.broadcasts.trans honce, billed_at_most_once hreports hnew hrun honce⟩

end

/-! ### On one order -/

/-- Two confirm requests one after the other, and the robots' round. -/
theorem dispatched_at_most_once_sample :
    ∃ trace pool,
      Run serviceAct (fun pool index event => exclusive "order-1" pool index event = true)
        (confirmPool "order-1" [some 7, some 7] (List.replicate 5 Sample.report) Sample.world)
        trace pool ∧
      bills trace = 1 ∧ dispatches "order-1" false trace ≤ 1 := by
  obtain ⟨trace, pool, hrun, hcheck⟩ := run_of_play serviceAct
    (exclusive "order-1")
    (confirmPool "order-1" [some 7, some 7] (List.replicate 5 Sample.report) Sample.world)
    ([(0, noFault), (0, noFault), (0, noFault), (0, noFault), (1, noFault)] ++
      Sample.robotRound 2) (fun trace _ => bills trace = 1) (by decide +kernel)
  refine ⟨trace, pool, hrun, by simpa using hcheck, (dispatched_at_most_once ?_ ?_ hrun).1⟩
  · intro req hreq
    rw [List.eq_of_mem_replicate hreq]
    exact ⟨rfl, rfl⟩
  · exact ⟨by simp [Sample.world], rfl⟩

/-- Two confirm requests that both find the order PENDING before either claims
it: it is dispatched twice. -/
theorem dispatched_twice :
    ∃ (users : List (Option Int)) (w : World) (trace : List (Nat × ServiceEvent))
      (pool : Pool Thread World),
      Undispatched "order-1" w ∧ Run serviceAct faultFree (confirmPool "order-1" users [] w) trace pool ∧
      dispatches "order-1" false trace = 2 ∧
      pool.state.broadcasts.countP (OrderBroadcast.isFor "order-1") = 2 := by
  obtain ⟨trace, pool, hrun, hcheck⟩ := run_of_play serviceAct
    (fun _ _ event => !event.faulty)
    (confirmPool "order-1" [some 7, some 7] [] Sample.world)
    ([0, 1, 0, 0, 0, 1, 1, 1].map fun i => (i, noFault))
    (fun trace pool => dispatches "order-1" false trace = 2 &&
      pool.state.broadcasts.countP (OrderBroadcast.isFor "order-1") = 2) (by decide +kernel)
  rw [Bool.and_eq_true, decide_eq_true_eq, decide_eq_true_eq] at hcheck
  exact ⟨_, _, trace, pool, ⟨by simp [Sample.world], rfl⟩,
    hrun.mono fun _ _ event h => by simpa using h, hcheck.1, hcheck.2⟩

end AutoGrocery

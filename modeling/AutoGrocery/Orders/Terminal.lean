import AutoGrocery.Orders.Confirm

/-!
COMPLETED against the writes of confirm. The webhook writes COMPLETED and
confirm writes PROCESSING and FAILED_DISPATCH, each without looking at the
status it replaces. A completed order stays completed if no confirm request is
on its way to such a write when the completion arrives; a later one is refused.
-/

namespace AutoGrocery

open Interleaving

/-- Past the PENDING check with a status write still to come. -/
def ConfirmPhase.writes : ConfirmPhase → Bool
  | .checking => false
  | .ended => false
  | _ => true

/-- The thread is a request that may still write the status of the order. -/
def Thread.writesAhead (orderID : OrderID) : Thread → Bool
  | .inventory _ => false
  | .ordering prog =>
      match prog.next? with
      | some (.store (.getOrderItems orderID')) => orderID' = orderID
      | some (.store (.updateStatus orderID' _)) => orderID' = orderID
      | some (.processCustomerOrder req) => req.orderID = orderID
      | _ => false

/-- When the completion of the order is posted, no confirm request of it stands
between its PENDING check and its last status write. -/
def uncontested (orderID : OrderID) (pool : Pool Thread World) (_ : Nat) : ServiceEvent → Bool
  | .inventory ⟨op, _⟩ =>
      !op.completes orderID || pool.threads.all fun thread => !thread.writesAhead orderID
  | .ordering _ => true

/-- Once the order is completed nobody has a status write to come. -/
def Settled (orderID : OrderID) (pool : Pool Thread World) : Prop :=
  ∀ thread ∈ pool.threads, ∃ phase, Confirming orderID phase thread ∧
    (pool.state.ordering.status orderID = some .completed → phase.writes = false)

section

variable {orderID : OrderID} {pool : Pool Thread World}

theorem Confirming.writesAhead {phase : ConfirmPhase} {thread : Thread}
    (hat : Confirming orderID phase thread) : thread.writesAhead orderID = phase.writes := by
  cases hat with
  | confirm hprog => cases hprog <;> simp [Thread.writesAhead, ConfirmPhase.writes]
  | callback hcallback =>
      cases thread with
      | ordering prog => exact hcallback.elim
      | inventory prog => rfl

/-- A step of a confirm request neither completes the order nor, once it is
completed, does it change that. -/
private theorem confirmStep_completed {phase phase' : ConfirmPhase} {s s' : Option OrderStatus}
    {called : Bool} (hstep : ConfirmStep phase s phase' s' called)
    (hwrites : s = some .completed → phase.writes = false) :
    (s = some .completed ↔ s' = some .completed) ∧
      (s' = some .completed → phase'.writes = false) := by
  cases hstep with
  | refuse => exact ⟨Iff.rfl, fun _ => rfl⟩
  | find => exact ⟨Iff.rfl, fun h => by cases h⟩
  | unread => exact ⟨Iff.rfl, fun _ => rfl⟩
  | load => exact ⟨Iff.rfl, fun h => absurd (hwrites h) (by decide)⟩
  | claim =>
      have hnot : s ≠ some .completed := fun h => absurd (hwrites h) (by decide)
      simp [hnot]
  | unclaimed _ _ hs =>
      have hnot : s ≠ some .completed := fun h => absurd (hwrites h) (by decide)
      rcases hs with rfl | rfl <;> simp [hnot]
  | dispatch => exact ⟨Iff.rfl, fun _ => rfl⟩
  | undispatched => exact ⟨Iff.rfl, fun h => absurd (hwrites h) (by decide)⟩
  | fail _ _ hs =>
      have hnot : s ≠ some .completed := fun h => absurd (hwrites h) (by decide)
      rcases hs with rfl | rfl <;> simp [hnot]

/-- **The step lemma.** -/
theorem Settled.step {index : Nat} {thread : Thread} {fault : ServiceFault}
    {move : Move Thread World ServiceEvent} (hinv : Settled orderID pool)
    (hthread : pool.threads[index]? = some thread)
    (hact : serviceAct fault thread pool.state = some move)
    (hallowed : uncontested orderID pool index move.event = true) :
    Settled orderID (pool.after index move) ∧
      (pool.state.ordering.status orderID = some .completed →
        move.state.ordering.status orderID = some .completed) := by
  obtain ⟨phase, hat, hwrites⟩ := hinv thread (List.mem_of_getElem? hthread)
  obtain ⟨hspawned, hcases⟩ := hat.step hact
  rcases hcases with ⟨phase', hat', hstep, _⟩ | ⟨rfl, hat', _, op, ans, hevent, hop, hstate⟩
  · obtain ⟨hiff, hwrites'⟩ := confirmStep_completed hstep hwrites
    refine ⟨?_, hiff.mp⟩
    refine Pool.forall_threads_after (fun other hother => ?_) ⟨phase', hat', hwrites'⟩
      fun spawned h => ⟨.ended, hspawned spawned h, fun _ => rfl⟩
    obtain ⟨phase, hat, hwrites⟩ := hinv other hother
    exact ⟨phase, hat, fun h => hwrites (hiff.mpr h)⟩
  · have hcompletes := (callbackOp_completes hop fault.2 pool.state).status orderID
    rw [← hstate] at hcompletes
    refine ⟨?_, fun hdone => ?_⟩
    · refine Pool.forall_threads_after (fun other hother => ?_) ⟨.ended, hat', fun _ => rfl⟩
        fun spawned h => ⟨.ended, hspawned spawned h, fun _ => rfl⟩
      obtain ⟨phase, hat, hwrites⟩ := hinv other hother
      refine ⟨phase, hat, fun hdone => ?_⟩
      rcases hcompletes with hsame | ⟨hposts, _⟩
      · exact hwrites (hsame ▸ hdone)
      · -- the completion arrives now, and the condition speaks of this moment
        rw [hevent] at hallowed
        have hfree : ∀ other ∈ pool.threads, other.writesAhead orderID = false := by
          simpa [uncontested, hposts] using hallowed
        rw [← hat.writesAhead]
        exact hfree other hother
    · rcases hcompletes with hsame | ⟨_, hcompleted⟩
      · exact hsame.trans hdone
      · exact hcompleted

variable {users : List (Option Int)} {reports : List ReportJobStatusRequest} {w : World}

private theorem settled_start : Settled orderID (confirmPool orderID users reports w) := by
  intro thread hthread
  rcases List.mem_append.mp hthread with hconfirm | hreport
  · obtain ⟨userID, _, rfl⟩ := List.mem_map.mp hconfirm
    rcases confirmOrder_at userID orderID with h | h
    · exact ⟨.ended, .confirm h, fun _ => rfl⟩
    · exact ⟨.checking, .confirm h, fun _ => rfl⟩
  · obtain ⟨req, _, rfl⟩ := List.mem_map.mp hreport
    exact ⟨.ended, .callback (reportThread_isCallback req), fun _ => rfl⟩

/-- **Uncontested completions are final.** Whatever faults the steps meet, an
order that is COMPLETED in some state of a run whose completions are
uncontested is COMPLETED in every later state of it. -/
theorem completed_is_terminal {trace trace' : List (Nat × ServiceEvent)} {pool' : Pool Thread World}
    (hrun : Run serviceAct (fun pool index event => uncontested orderID pool index event = true)
      (confirmPool orderID users reports w) trace pool)
    (hcompleted : pool.state.ordering.status orderID = some .completed)
    (hlater : Run serviceAct (fun pool index event => uncontested orderID pool index event = true)
      pool trace' pool') :
    pool'.state.ordering.status orderID = some .completed := by
  have hsettled := hrun.invariant (fun pool _ => Settled orderID pool) settled_start
    fun _ _ _ _ _ _ hinv hthread hact hallowed => (hinv.step hthread hact hallowed).1
  have hkept := hlater.invariant (fun pool _ => Settled orderID pool ∧
    pool.state.ordering.status orderID = some .completed) ⟨hsettled, hcompleted⟩ ?_
  · exact hkept.2
  · rintro trace pool index thread fault move ⟨hinv, hdone⟩ hthread hact hallowed
    obtain ⟨hinv', hkeep⟩ := hinv.step hthread hact hallowed
    exact ⟨hinv', hkeep hdone⟩

end

/-! ### On one order -/

/-- A dispatch whose reply is lost on the way back. -/
private def replyLost : ServiceFault := (⟨.loses "unavailable", []⟩, .works)

/-- An order is confirmed and completed, and confirmed a second time after. -/
theorem completed_is_terminal_sample :
    ∃ trace pool trace' pool',
      Run serviceAct (fun pool index event => uncontested "order-1" pool index event = true)
        (confirmPool "order-1" [some 7, some 7] (List.replicate 5 Sample.report) Sample.world)
        trace pool ∧
      Run serviceAct (fun pool index event => uncontested "order-1" pool index event = true)
        pool trace' pool' ∧
      trace'.length = 1 ∧ pool'.state.ordering.status "order-1" = some .completed := by
  obtain ⟨trace, pool, hrun, hcheck⟩ := run_of_play serviceAct
    (uncontested "order-1")
    (confirmPool "order-1" [some 7, some 7] (List.replicate 5 Sample.report) Sample.world)
    ([(0, noFault), (0, noFault), (0, noFault), (0, noFault)] ++ Sample.robotRound 2)
    (fun _ pool => pool.state.ordering.status "order-1" = some .completed &&
      (play serviceAct (uncontested "order-1") [(1, noFault)] pool).any fun result =>
        result.1.length = 1) (by decide +kernel)
  rw [Bool.and_eq_true, decide_eq_true_eq] at hcheck
  obtain ⟨trace', pool', hlater, hlength⟩ := run_of_play serviceAct (uncontested "order-1") pool
    [(1, noFault)] (fun trace _ => trace.length = 1) hcheck.2
  exact ⟨trace, pool, trace', pool', hrun, hlater, by simpa using hlength,
    completed_is_terminal hrun hcheck.1 hlater⟩

/-- The reply of the dispatch is lost, the robots finish and the order is
COMPLETED; then confirm writes FAILED_DISPATCH over it. -/
theorem completed_not_terminal :
    ∃ (users : List (Option Int)) (reports : List ReportJobStatusRequest) (w : World)
      (trace trace' : List (Nat × ServiceEvent)) (pool pool' : Pool Thread World),
      Run serviceAct anyStep (confirmPool "order-1" users reports w) trace pool ∧
      pool.state.ordering.status "order-1" = some .completed ∧
      Run serviceAct anyStep pool trace' pool' ∧
      pool'.state.ordering.status "order-1" = some .failedDispatch := by
  obtain ⟨trace, pool, hrun, hcheck⟩ := run_of_play serviceAct
    (fun _ _ _ => true)
    (confirmPool "order-1" [some 7] (List.replicate 5 Sample.report) Sample.world)
    ([(0, noFault), (0, noFault), (0, noFault), (0, replyLost)] ++ Sample.robotRound 1)
    (fun _ pool => pool.state.ordering.status "order-1" = some .completed &&
      (play serviceAct (fun _ _ _ => true) [(0, noFault)] pool).any fun result =>
        result.2.state.ordering.status "order-1" = some .failedDispatch) (by decide +kernel)
  rw [Bool.and_eq_true, decide_eq_true_eq] at hcheck
  obtain ⟨trace', pool', hlater, hfailed⟩ := run_of_play serviceAct (fun _ _ _ => true) pool
    [(0, noFault)] (fun _ pool => pool.state.ordering.status "order-1" = some .failedDispatch) hcheck.2
  exact ⟨_, _, _, trace, trace', pool, pool', hrun.mono fun _ _ _ _ => trivial, hcheck.1,
    hlater.mono fun _ _ _ _ => trivial, by simpa using hfailed⟩

end AutoGrocery

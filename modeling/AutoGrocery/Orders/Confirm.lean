import AutoGrocery.Finalization.Runs
import AutoGrocery.Orders.Callbacks

/-!
A confirm request as a protocol. It reads the order and goes on only if it
finds it PENDING, reads the items, writes PROCESSING, calls inventory, and
writes FAILED_DISPATCH when the call comes back with an error. Between any two
of these steps other requests and callbacks run.
-/

namespace AutoGrocery

open Interleaving

/-- Where a confirm request stands; each phase but the last is named after the
operation it performs next. -/
inductive ConfirmPhase where
  | checking
  | loading
  | claiming
  | dispatching
  | failing
  | ended
  deriving DecidableEq

/-- The program of a confirm request of an order at a phase. `after` is the
phase an answer leads to. -/
inductive ConfirmAt (orderID : OrderID) : ConfirmPhase → OrderingProg → Prop where
  | ended (reply : Reply) : ConfirmAt orderID .ended (.ret reply)
  | failing {next : Except GoError Unit → OrderingProg} :
      (∀ answer, ConfirmAt orderID .ended (next answer)) →
      ConfirmAt orderID .failing (.call (.store (.updateStatus orderID .failedDispatch)) next)
  | dispatching {items : ItemMap}
      {next : Except GoError ProcessCustomerOrderResponse → OrderingProg}
      (after : Except GoError ProcessCustomerOrderResponse → ConfirmPhase) :
      (∀ answer, after answer = .ended ∨ after answer = .failing) →
      (∀ answer, ConfirmAt orderID (after answer) (next answer)) →
      ConfirmAt orderID .dispatching (.call (.processCustomerOrder ⟨orderID, items⟩) next)
  | claiming {next : Except GoError Unit → OrderingProg} :
      (∀ err, ConfirmAt orderID .ended (next (.error err))) →
      ConfirmAt orderID .dispatching (next (.ok ())) →
      ConfirmAt orderID .claiming (.call (.store (.updateStatus orderID .processing)) next)
  | loading {next : Except GoError (List GroceryOrderItem) → OrderingProg}
      (after : Except GoError (List GroceryOrderItem) → ConfirmPhase) :
      (∀ answer, after answer = .ended ∨ after answer = .claiming) →
      (∀ answer, ConfirmAt orderID (after answer) (next answer)) →
      ConfirmAt orderID .loading (.call (.store (.getOrderItems orderID)) next)
  | checking {next : Except GoError (Option GroceryOrder) → OrderingProg}
      (after : Except GoError (Option GroceryOrder) → ConfirmPhase) :
      (∀ answer, after answer = .ended ∨ after answer = .loading ∧
        ∃ order, answer = .ok (some order) ∧ order.status = .pending) →
      (∀ answer, ConfirmAt orderID (after answer) (next answer)) →
      ConfirmAt orderID .checking (.call (.store (.getOrderByID orderID)) next)

/-- What a step of a confirm request does: the phase and the status of the order
before and after, and whether it called inventory. -/
inductive ConfirmStep : ConfirmPhase → Option OrderStatus → ConfirmPhase → Option OrderStatus →
    Bool → Prop where
  | refuse (s : Option OrderStatus) : ConfirmStep .checking s .ended s false
  | find : ConfirmStep .checking (some .pending) .loading (some .pending) false
  | unread (s : Option OrderStatus) : ConfirmStep .loading s .ended s false
  | load (s : Option OrderStatus) : ConfirmStep .loading s .claiming s false
  | claim (s : Option OrderStatus) :
      ConfirmStep .claiming s .dispatching (s.map fun _ => .processing) false
  | unclaimed (s s' : Option OrderStatus) : s' = s ∨ s' = s.map (fun _ => .processing) →
      ConfirmStep .claiming s .ended s' false
  | dispatch (s : Option OrderStatus) : ConfirmStep .dispatching s .ended s true
  | undispatched (s : Option OrderStatus) : ConfirmStep .dispatching s .failing s true
  | fail (s s' : Option OrderStatus) : s' = s ∨ s' = s.map (fun _ => .failedDispatch) →
      ConfirmStep .failing s .ended s' false

section

variable {orderID : OrderID} (fault : CallFault (CallFault Fault)) (w : World)

/-- The phase after the call of inventory, and after the two reads. -/
private def afterDispatch : Except GoError ProcessCustomerOrderResponse → ConfirmPhase
  | .error _ => .failing
  | .ok _ => .ended

private def afterLoad : Except GoError (List GroceryOrderItem) → ConfirmPhase
  | .error _ => .ended
  | .ok _ => .claiming

private def afterCheck (userID : Int) : Except GoError (Option GroceryOrder) → ConfirmPhase
  | .ok (some order) =>
      if order.clientID = userID ∧ order.status = .pending then .loading else .ended
  | _ => .ended

/-- A confirm request starts by reading the order, or has ended already. -/
theorem confirmOrder_at (userID : Option Int) (orderID : OrderID) :
    ConfirmAt orderID .ended (confirmOrder userID (some orderID)) ∨
      ConfirmAt orderID .checking (confirmOrder userID (some orderID)) := by
  unfold confirmOrder
  cases userID with
  | none => exact Or.inl (.ended _)
  | some userID =>
      dsimp only
      split
      · exact Or.inl (.ended _)
      right
      have hclaim (items : ItemMap) : ConfirmAt orderID .claiming (dispatchOrder orderID items) := by
        refine .claiming (fun err => .ended _) (.dispatching afterDispatch ?_ ?_)
        · rintro (err | resp)
          · exact Or.inr rfl
          · exact Or.inl rfl
        · rintro (err | resp)
          · exact .failing fun _ => .ended _
          · exact .ended _
      refine .checking (afterCheck userID) ?_ ?_
      · rintro (err | _ | order)
        · exact Or.inl rfl
        · exact Or.inl rfl
        · by_cases hfound : order.clientID = userID ∧ order.status = .pending
          · exact Or.inr ⟨if_pos hfound, order, rfl, hfound.2⟩
          · exact Or.inl (if_neg hfound)
      · rintro (err | _ | order)
        · exact .ended _
        · exact .ended _
        · by_cases hclient : order.clientID = userID
          · by_cases hpending : order.status = .pending
            · simp only [afterCheck, hclient, hpending, ne_eq, not_true_eq_false, if_false, and_self,
                if_true]
              refine .loading afterLoad ?_ ?_
              · rintro (err | dbItems)
                · exact Or.inl rfl
                · exact Or.inr rfl
              · rintro (err | dbItems)
                · exact .ended _
                · exact hclaim _
            · simp only [afterCheck, hclient, hpending, ne_eq, not_true_eq_false, if_false, and_false,
                not_false_eq_true, if_true]
              exact .ended _
          · simp only [afterCheck, hclient, ne_eq, not_false_eq_true, if_true, false_and, if_false]
            exact .ended _

/-- A read leaves the database alone, and an answer without an error is what
the database holds. -/
theorem getOrderByID_exec (orderID : OrderID) :
    (orderingExec fault (.store (.getOrderByID orderID)) w).2.ordering = w.ordering ∧
      ∀ found, (orderingExec fault (.store (.getOrderByID orderID)) w).1 = .ok found →
        found = w.ordering.getOrderByID orderID := by
  rcases fault with ⟨_ | _ | _, script⟩
  · exact ⟨rfl, fun found h => (Except.ok.inj h).symm⟩
  · exact ⟨rfl, fun found h => nomatch h⟩
  · exact ⟨rfl, fun found h => nomatch h⟩

theorem getOrderItems_exec (orderID : OrderID) :
    (orderingExec fault (.store (.getOrderItems orderID)) w).2.ordering = w.ordering ∧
      ∀ items, (orderingExec fault (.store (.getOrderItems orderID)) w).1 = .ok items →
        w.ordering.getOrderItems orderID = .ok items := by
  rcases fault with ⟨_ | _ | _, script⟩
  · exact ⟨rfl, fun items h => h⟩
  · exact ⟨rfl, fun items h => nomatch h⟩
  · exact ⟨rfl, fun items h => nomatch h⟩

/-- A status write takes effect or not, and certainly if it reports no error. -/
private theorem updateStatus_exec (orderID : OrderID) (status : OrderStatus) :
    let answer := orderingExec fault (.store (.updateStatus orderID status)) w
    (answer.2.ordering = w.ordering ∨ answer.2.ordering = w.ordering.updateStatus orderID status) ∧
      (answer.1 = .ok () → answer.2.ordering = w.ordering.updateStatus orderID status) := by
  rcases fault with ⟨_ | _ | _, script⟩
  · exact ⟨Or.inr rfl, fun _ => rfl⟩
  · exact ⟨Or.inl rfl, fun h => nomatch h⟩
  · exact ⟨Or.inr rfl, fun h => nomatch h⟩

/-- A call of `ProcessCustomerOrder` leaves the ordering database alone. -/
theorem processCustomerOrder_ordering (fault : CallFault (CallFault Fault)) (w : World)
    (req : ProcessCustomerOrderRequest) :
    (orderingExec fault (.processCustomerOrder req) w).2.ordering = w.ordering := by
  refine fault.call_preserves inventoryExec .works
    (fun w' => w'.ordering = w.ordering) (fun fault op w' hop h => ?_)
    (processCustomerOrder_uses req) rfl
  refine (inventoryExec_ordering fun hwrites => ?_).trans h
  rcases hop with rfl | hnone | ⟨dbItems, rfl⟩
  · cases hwrites
  · rw [hnone] at hwrites
    cases hwrites
  · cases hwrites

private theorem scripted_broadcasts {op : InventoryOp} (hop : op.writes ≠ some .broadcasts)
    (state : World × List (CallFault Fault)) :
    (scripted inventoryExec .works op state).2.1.broadcasts = state.1.broadcasts :=
  inventoryExec_broadcasts hop

/-- What a call of `ProcessCustomerOrder` broadcasts: one command at most. -/
theorem processCustomerOrder_broadcasts (fault : CallFault (CallFault Fault)) (w : World)
    (req : ProcessCustomerOrderRequest) :
    (orderingExec fault (.processCustomerOrder req) w).2.broadcasts = w.broadcasts ∨
      ∃ broadcast, (orderingExec fault (.processCustomerOrder req) w).2.broadcasts =
        w.broadcasts ++ [broadcast] := by
  set handler := scripted inventoryExec .works
  have hsend (items : GoMap ItemDetails) (state : World × List (CallFault Fault)) :
      let sent := (handler (.sendRobotCommand req.orderID .customer items) state).2.1
      sent.broadcasts = state.1.broadcasts ∨
        ∃ broadcast, sent.broadcasts = state.1.broadcasts ++ [broadcast] := by
    have hstate := (state.2.headD .works).mode.run_state "" (fun w : World => ((.ok () : Except GoError Unit),
      { w with broadcasts := w.broadcasts ++ [orderBroadcast req.orderID .customer items] })) state.1
    rcases hstate with h | h
    · exact Or.inl (congrArg World.broadcasts h)
    · exact Or.inr ⟨_, congrArg World.broadcasts h⟩
  have hrun : ((InventoryHandler.processCustomerOrder req).run handler
        (w, fault.server)).state.1.broadcasts = w.broadcasts ∨
      ∃ broadcast, ((InventoryHandler.processCustomerOrder req).run handler
        (w, fault.server)).state.1.broadcasts = w.broadcasts ++ [broadcast] := by
    have hsave : (handler (.saveOrderItems req.orderID req.items)
        (w, fault.server)).2.1.broadcasts = w.broadcasts :=
      scripted_broadcasts (by simp [InventoryOp.writes]) _
    unfold InventoryHandler.processCustomerOrder
    rw [Prog.run_call]
    cases (handler (.saveOrderItems req.orderID req.items) (w, fault.server)).1 with
    | error err => exact Or.inl hsave
    | ok value =>
        set saved := (handler (.saveOrderItems req.orderID req.items) (w, fault.server)).2
        have hlookup : (handler (.getBatchItems req.items.keys) saved).2.1.broadcasts =
            saved.1.broadcasts :=
          scripted_broadcasts (by simp [InventoryOp.writes]) _
        rw [← hsave, ← hlookup]
        cases hfound : (handler (.getBatchItems req.items.keys) saved).1 with
        | error err =>
            have := hsend (InventoryHandler.robotItems ∅ req.items)
              (handler (.getBatchItems req.items.keys) saved).2
            simpa [InventoryHandler.prepareRobotItems, InventoryHandler.assignRobots, Prog.run_call,
              hfound] using this
        | ok dbItems =>
            have := hsend (InventoryHandler.robotItems dbItems req.items)
              (handler (.getBatchItems req.items.keys) saved).2
            simpa [InventoryHandler.prepareRobotItems, InventoryHandler.assignRobots, Prog.run_call,
              hfound] using this
  have hcall := fault.mode.run_state "" (fun w : World =>
    let outcome := (InventoryHandler.processCustomerOrder req).run handler (w, fault.server)
    (outcome.value.mapError rpcError, outcome.state.1)) w
  rcases hcall with h | h
  · exact Or.inl (congrArg World.broadcasts h)
  · rw [orderingExec, CallFault.call, h]
    exact hrun

private theorem status_self {db : OrderingDB} {status : OrderStatus} :
    (db.updateStatus orderID status).status orderID =
      (db.status orderID).map fun _ => status := by
  rw [OrderingDB.status_updateStatus, if_pos rfl]

/-- **The step lemma.** -/
theorem ConfirmAt.step {phase : ConfirmPhase} {op : OrderingOp} {next : OrderingAns op → OrderingProg}
    (hat : ConfirmAt orderID phase (.call op next)) :
    let answer := orderingExec fault op w
    ∃ phase', ConfirmAt orderID phase' (next answer.1) ∧
      ConfirmStep phase (w.ordering.status orderID) phase' (answer.2.ordering.status orderID)
        (isDispatch orderID false (.ordering ⟨op, answer.1⟩)) := by
  cases hat with
  | failing hnext =>
      have hwrite := updateStatus_exec fault w orderID .failedDispatch
      refine ⟨.ended, hnext _, .fail _ _ ?_⟩
      rcases hwrite.1 with h | h
      · exact Or.inl (by rw [h])
      · exact Or.inr (by rw [h, status_self])
  | @dispatching items next after hafter hnext =>
      have hdispatch : isDispatch orderID false (.ordering ⟨.processCustomerOrder ⟨orderID, items⟩,
          (orderingExec fault (.processCustomerOrder ⟨orderID, items⟩) w).1⟩) = true := by
        simp [isDispatch]
      dsimp only
      rw [hdispatch, processCustomerOrder_ordering]
      refine ⟨_, hnext _, ?_⟩
      rcases hafter (orderingExec fault (.processCustomerOrder ⟨orderID, items⟩) w).1 with h | h
      · exact h ▸ .dispatch _
      · exact h ▸ .undispatched _
  | @claiming next herror hok =>
      obtain ⟨hwrite, hwritten⟩ := updateStatus_exec fault w orderID .processing
      cases hanswer : (orderingExec fault (.store (.updateStatus orderID .processing)) w).1 with
      | error err =>
          refine ⟨.ended, hanswer ▸ herror err, .unclaimed _ _ ?_⟩
          rcases hwrite with h | h
          · exact Or.inl (by rw [h])
          · exact Or.inr (by rw [h, status_self])
      | ok value =>
          refine ⟨.dispatching, hanswer ▸ hok, ?_⟩
          rw [hwritten hanswer, status_self]
          exact .claim _
  | loading after hafter hnext =>
      dsimp only
      rw [(getOrderItems_exec fault w orderID).1]
      refine ⟨_, hnext _, ?_⟩
      rcases hafter (orderingExec fault (.store (.getOrderItems orderID)) w).1 with h | h
      · exact h ▸ .unread _
      · exact h ▸ .load _
  | checking after hafter hnext =>
      obtain ⟨hsame, hfound⟩ := getOrderByID_exec fault w orderID
      dsimp only
      rw [hsame]
      refine ⟨_, hnext _, ?_⟩
      rcases hafter (orderingExec fault (.store (.getOrderByID orderID)) w).1 with h |
        ⟨h, order, hanswer, hpending⟩
      · exact h ▸ .refuse _
      · have horder := hfound _ hanswer
        unfold OrderingDB.getOrderByID at horder
        obtain ⟨row, hrow, rfl⟩ := Option.map_eq_some_iff.mp horder.symm
        have hstatus : w.ordering.status orderID = some .pending := by
          rw [OrderingDB.status_of_lookup hrow]
          exact congrArg some hpending
        rw [hstatus, h]
        exact .find

/-- Only the call of inventory broadcasts anything. -/
theorem ConfirmAt.broadcasts {phase : ConfirmPhase} {op : OrderingOp}
    {next : OrderingAns op → OrderingProg} (hat : ConfirmAt orderID phase (.call op next)) :
    let answer := orderingExec fault op w
    answer.2.broadcasts = w.broadcasts ∨
      isDispatch orderID false (.ordering ⟨op, answer.1⟩) = true ∧
        ∃ broadcast, answer.2.broadcasts = w.broadcasts ++ [broadcast] := by
  cases hat with
  | dispatching =>
      rcases processCustomerOrder_broadcasts fault w _ with h | h
      · exact Or.inl h
      · exact Or.inr ⟨by simp [isDispatch], h⟩
  | _ => exact Or.inl rfl

end

/-! ### Pools of confirm requests and callbacks -/

/-- Where a thread stands as far as confirming an order goes. -/
inductive Confirming (orderID : OrderID) : ConfirmPhase → Thread → Prop where
  | confirm {phase : ConfirmPhase} {prog : OrderingProg} : ConfirmAt orderID phase prog →
      Confirming orderID phase (.ordering prog)
  | callback {thread : Thread} : thread.IsCallback → Confirming orderID .ended thread

/-- Confirm requests for an order by any users, and robot callbacks. -/
def confirmPool (orderID : OrderID) (users : List (Option Int))
    (reports : List ReportJobStatusRequest) (w : World) : Pool Thread World :=
  ⟨users.map (fun userID => .ordering (confirmOrder userID (some orderID))) ++
    reports.map reportThread, w⟩

/-- One step of the pool, as far as the order's confirmation goes. -/
theorem Confirming.step {orderID : OrderID} {phase : ConfirmPhase} {thread : Thread}
    {fault : ServiceFault} {w : World} {move : Move Thread World ServiceEvent}
    (hat : Confirming orderID phase thread) (hact : serviceAct fault thread w = some move) :
    (∀ spawned ∈ move.spawned, Confirming orderID .ended spawned) ∧
    ((∃ phase', Confirming orderID phase' move.thread ∧
        ConfirmStep phase (w.ordering.status orderID) phase' (move.state.ordering.status orderID)
          (isDispatch orderID false move.event) ∧
        (move.state.broadcasts = w.broadcasts ∨ isDispatch orderID false move.event = true ∧
          ∃ broadcast, move.state.broadcasts = w.broadcasts ++ [broadcast])) ∨
      (phase = .ended ∧ Confirming orderID .ended move.thread ∧
        isDispatch orderID false move.event = false ∧
        ∃ op ans, move.event = .inventory ⟨op, ans⟩ ∧ isCallbackOp op ∧
          move.state = (inventoryExec fault.2 op w).2)) := by
  cases hat with
  | confirm hprog =>
      rcases serviceAct_eq_some hact with ⟨op, next, hthread, rfl⟩ | ⟨op, next, hthread, _⟩
      · cases hthread
        obtain ⟨phase', hat', hstep⟩ := hprog.step fault.1 w
        exact ⟨by simp, Or.inl ⟨phase', .confirm hat', hstep, hprog.broadcasts fault.1 w⟩⟩
      · cases hthread
  | callback hcallback =>
      obtain ⟨op, ans, hevent, hop, hstate, hthread, hspawned⟩ := hcallback.step hact
      refine ⟨fun spawned h => .callback (hspawned spawned h),
        Or.inr ⟨rfl, .callback hthread, by rw [hevent]; rfl, op, ans, hevent, hop, hstate⟩⟩

end AutoGrocery

import AutoGrocery.Finalization.Keys
import AutoGrocery.Finalization.Runs

/-!
What the reports of an order leave in Redis. The items and the marker expire after
an hour, and the finalization deletes all three keys of the order. A report that is
counted after that delete makes a new counter, and an increment gives it no expiry
time: nothing ever takes it away, because no finalization will find the items again.
-/

namespace AutoGrocery

open Interleaving InventoryHandler

/-- The delete of the order's keys. -/
def isDelete (orderID : OrderID) (isRestock : Bool) : InventoryOp → Bool
  | .deleteOrderData orderID' isRestock' => orderID' = orderID && isRestock' == isRestock
  | _ => false

/-- The increments of the counter since the last delete. -/
def sinceDelete (orderID : OrderID) (isRestock : Bool) (ops : List InventoryOp) : Nat :=
  ops.foldl (fun count op =>
    if isDelete orderID isRestock op then 0
    else if isIncrement orderID isRestock op then count + 1 else count) 0

section

variable {orderID : OrderID} {isRestock : Bool}

theorem isDelete_iff {op : InventoryOp} :
    isDelete orderID isRestock op = true ↔ op = .deleteOrderData orderID isRestock := by
  constructor
  · intro hdelete
    cases op with
    | deleteOrderData orderID' isRestock' =>
        simp only [isDelete, Bool.and_eq_true, decide_eq_true_eq, beq_iff_eq] at hdelete
        rw [hdelete.1, hdelete.2]
    | _ => cases hdelete
  · rintro rfl
    simp [isDelete]

theorem sinceDelete_append (ops : List InventoryOp) (op : InventoryOp) :
    sinceDelete orderID isRestock (ops ++ [op]) =
      if isDelete orderID isRestock op then 0
      else if isIncrement orderID isRestock op then sinceDelete orderID isRestock ops + 1
      else sinceDelete orderID isRestock ops := by
  simp [sinceDelete]

end

/-! ### What one operation does to the keys -/

/-- The keys of the order after these operations. -/
structure KeysAfter (orderID : OrderID) (isRestock : Bool) (saved : RedisEntry Work)
    (ops : List InventoryOp) (keys : OrderKeys Work) : Prop where
  items : keys.items = if ops.any (isDelete orderID isRestock) then none else some saved
  count : keys.count = if sinceDelete orderID isRestock ops = 0 then none
    else some ⟨sinceDelete orderID isRestock ops, none⟩
  finalized : ∀ entry, keys.finalized = some entry → entry.expiresAt ≠ none

/-- The operations of the order's own reports and finalizations. -/
inductive OwnOp (orderID : OrderID) (isRestock : Bool) : InventoryOp → Prop where
  | increment : OwnOp orderID isRestock (.incrementRobotCount orderID isRestock)
  | mark : OwnOp orderID isRestock (.tryMarkOrderFinalized orderID isRestock)
  | delete : OwnOp orderID isRestock (.deleteOrderData orderID isRestock)
  | other {op : InventoryOp} : op.writes ≠ some .memory → OwnOp orderID isRestock op

section

variable {orderID : OrderID} {isRestock : Bool} {complete : List InventoryOp → Prop} {clients : Prop}
  {phase : Barrier.Phase InventoryOp} {op : InventoryOp} {next : InventoryAns op → InventoryProg Unit}

/-- A thread of the order performs its own operations, and a delete only when it is
closing. -/
theorem At.own (hat : At orderID isRestock complete clients phase (.inventory (.call op next))) :
    OwnOp orderID isRestock op ∧
      (isDelete orderID isRestock op = true → ∃ log, phase = .closing log) := by
  generalize hthread : Thread.inventory (.call op next) = thread at hat
  cases hat with
  | @fresh req hreports =>
      injection hthread with hprog
      injection hprog with hop _
      obtain ⟨rfl, rfl⟩ := hreports
      subst hop
      exact ⟨.increment, fun hdelete => by cases hdelete⟩
  | counted hle =>
      injection hthread with hprog
      rw [afterIncrement, if_pos hle] at hprog
      injection hprog with hop _
      subst hop
      exact ⟨.mark, fun hdelete => by cases hdelete⟩
  | starting =>
      injection hthread with hprog
      injection hprog with hop _
      subst hop
      exact ⟨.other (by simp [InventoryOp.writes]), fun hdelete => by cases hdelete⟩
  | reading =>
      injection hthread with hprog
      cases isRestock <;> injection hprog with hop _ <;> subst hop <;>
        exact ⟨.other (by simp [InventoryOp.writes]), fun hdelete => by cases hdelete⟩
  | @closing log prog hclosing =>
      injection hthread with hprog
      subst hprog
      refine ⟨?_, fun _ => ⟨log, rfl⟩⟩
      generalize hcall : Prog.call op next = prog at hclosing
      cases hclosing with
      | @effect _ op' _ heffect _ _ =>
          injection hcall with hop _
          subst hop
          refine .other fun hwrites => ?_
          cases op <;> simp [isEffect, InventoryOp.writes] at heffect hwrites
      | @quiet _ op' _ hquiet _ =>
          injection hcall with hop _
          subst hop
          refine .other fun hwrites => ?_
          cases op <;> simp [isQuiet, InventoryOp.writes] at hquiet hwrites
      | delete _ =>
          injection hcall with hop _
          subst hop
          exact .delete
  | ret => cases hthread
  | metrics metrics =>
      injection hthread with hprog
      unfold asyncStockMetrics at hprog
      split at hprog
      · cases hprog
      · injection hprog with hop _
        subst hop
        exact ⟨.other (by simp [InventoryOp.writes]), fun hdelete => by cases hdelete⟩
  | client => cases hthread

end

section

variable {orderID : OrderID} {isRestock : Bool} {saved : RedisEntry Work} {ops : List InventoryOp}
  {op : InventoryOp} {fault : CallFault Fault} {w : World}

/-- A command that answered without a fault took place. -/
private theorem works_of_fine {σ α : Type} {fault : Fault} {context : String}
    {effect : σ → Except GoError α × σ} {state : σ}
    (hfine : isFault (fault.run context effect state).1 = false) :
    fault.run context effect state = effect state := by
  cases fault with
  | works => rfl
  | fails err => cases hfine
  | loses err => cases hfine

theorem KeysAfter.step (hkeys : KeysAfter orderID isRestock saved ops (orderKeys orderID isRestock w.memory))
    (hown : OwnOp orderID isRestock op)
    (hfine : InventoryAns.faulty op (inventoryExec fault op w).1 = false) :
    KeysAfter orderID isRestock saved (ops ++ [op])
      (orderKeys orderID isRestock (inventoryExec fault op w).2.memory) := by
  cases hown with
  | increment =>
      have hmemory : (inventoryExec fault (.incrementRobotCount orderID isRestock) w).2.memory =
          (incrementRobotCount orderID isRestock w.memory).2 :=
        congrArg (fun answer => answer.2.memory) (works_of_fine hfine)
      have hincrement : isIncrement orderID isRestock (.incrementRobotCount orderID isRestock) = true := by
        simp [isIncrement]
      have hvalue : (keysOf orderID isRestock w.memory).count = sinceDelete orderID isRestock ops := by
        rw [keysOf_eq, OrderKeys.barrier, hkeys.count]
        by_cases hzero : sinceDelete orderID isRestock ops = 0 <;> simp [hzero]
      have hexpiry : ((orderKeys orderID isRestock w.memory).count.map RedisEntry.expiresAt).getD none =
          none := by
        rw [hkeys.count]
        by_cases hzero : sinceDelete orderID isRestock ops = 0 <;> simp [hzero]
      rw [hmemory, orderKeys_increment, hvalue, hexpiry]
      refine ⟨?_, ?_, hkeys.finalized⟩
      · rw [hkeys.items]
        simp [isDelete]
      · rw [sinceDelete_append, hincrement]
        simp [isDelete]
  | mark =>
      have hmemory : (inventoryExec fault (.tryMarkOrderFinalized orderID isRestock) w).2.memory =
          (w.memory.tryMarkOrderFinalized w.now orderID isRestock).2 :=
        congrArg (fun answer => answer.2.memory) (works_of_fine hfine)
      have hdelete : isDelete orderID isRestock (.tryMarkOrderFinalized orderID isRestock) = false := rfl
      have hitems : (ops ++ [InventoryOp.tryMarkOrderFinalized orderID isRestock]).any
          (isDelete orderID isRestock) = ops.any (isDelete orderID isRestock) := by simp [hdelete]
      have hcount : sinceDelete orderID isRestock (ops ++ [.tryMarkOrderFinalized orderID isRestock]) =
          sinceDelete orderID isRestock ops := by simp [sinceDelete_append, isDelete, isIncrement]
      rw [hmemory]
      rcases orderKeys_mark orderID isRestock w.memory w.now with hset | hkept
      · rw [hset]
        refine ⟨by rw [hitems]; exact hkeys.items, by rw [hcount]; exact hkeys.count, ?_⟩
        intro entry hentry
        cases hentry
        exact Option.some_ne_none _
      · rw [hkept]
        exact ⟨by rw [hitems]; exact hkeys.items, by rw [hcount]; exact hkeys.count, hkeys.finalized⟩
  | delete =>
      have hmemory : (inventoryExec fault (.deleteOrderData orderID isRestock) w).2.memory =
          w.memory.deleteOrderData orderID isRestock :=
        congrArg (fun answer => answer.2.memory) (works_of_fine hfine)
      have hdelete : isDelete orderID isRestock (.deleteOrderData orderID isRestock) = true :=
        isDelete_iff.mpr rfl
      rw [hmemory, orderKeys_delete]
      refine ⟨?_, ?_, fun entry hentry => by cases hentry⟩
      · simp [hdelete]
      · simp [sinceDelete_append, hdelete]
  | other hwrites =>
      have hdelete : isDelete orderID isRestock op = false := by
        cases op <;> first | rfl | exact absurd rfl hwrites
      have hincrement : isIncrement orderID isRestock op = false := by
        cases op <;> first | rfl | exact absurd rfl hwrites
      rw [inventoryExec_memory hwrites]
      refine ⟨?_, ?_, hkeys.finalized⟩
      · rw [hkeys.items]
        simp [hdelete]
      · rw [hkeys.count, sinceDelete_append, hdelete, hincrement]
        rfl

end

/-! ### Runs -/

section

variable {orderID : OrderID} {isRestock : Bool} {work : Work} {requests : List ReportJobStatusRequest}
  {w : World} {trace : List (Nat × ServiceEvent)} {pool : Pool Thread World}

end

/-! ### A sixth report -/

end AutoGrocery

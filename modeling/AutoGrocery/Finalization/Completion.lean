import AutoGrocery.Finalization.Runs

/-!
What a finalization leaves behind. It posts the completion to ordering once,
whatever becomes of the post, and then deletes the keys of the order. Whether
ordering recorded the completion is a matter of that one post.
-/

namespace AutoGrocery

open Interleaving

/-! ### Runs of one program under a script of faults -/

/-- What the operations between two worlds have left alone. -/
structure Kept (ops : List InventoryOp) (w w' : World) : Prop where
  ordering : (∀ op ∈ ops, op.writes ≠ some .ordering) → w'.ordering = w.ordering
  memory : (∀ op ∈ ops, op.writes ≠ some .memory) → w'.memory = w.memory
  orderingSecret : w'.orderingSecret = w.orderingSecret
  inventorySecret : w'.inventorySecret = w.inventorySecret

theorem Kept.refl (w : World) : Kept [] w w := ⟨fun _ => rfl, fun _ => rfl, rfl, rfl⟩

theorem Kept.cons {fault : CallFault Fault} {op : InventoryOp} {ops : List InventoryOp}
    {w w' : World} (h : Kept ops (inventoryExec fault op w).2 w') : Kept (op :: ops) w w' := by
  obtain ⟨_, _, _, _, _, hordering, hinventory⟩ := inventoryExec_frame fault op w
  refine ⟨fun hops => ?_, fun hops => ?_, h.orderingSecret.trans hordering,
    h.inventorySecret.trans hinventory⟩
  · obtain ⟨hop, hops⟩ := List.forall_mem_cons.mp hops
    exact (h.ordering hops).trans (inventoryExec_ordering hop)
  · obtain ⟨hop, hops⟩ := List.forall_mem_cons.mp hops
    exact (h.memory hops).trans (inventoryExec_memory hop)

/-- One operation after another under a script. -/
abbrev runScript (prog : InventoryProg Unit) (w : World) (script : List (CallFault Fault)) :
    Outcome InventoryAns (World × List (CallFault Fault)) Unit :=
  prog.run (scripted inventoryExec .works) (w, script)

theorem runScript_kept (prog : InventoryProg Unit) (w : World) (script : List (CallFault Fault)) :
    Kept (runScript prog w script).ops w (runScript prog w script).state.1 := by
  induction prog generalizing w script with
  | ret value => exact Kept.refl w
  | call op next ih => exact (ih _ _ _).cons

private theorem getD_cons_tail (script : List (CallFault Fault)) (n : Nat) :
    script.tail.getD n .works = script.getD (n + 1) .works := by
  cases script <;> simp

/-- A run around one of its operations. -/
theorem runScript_split {prog : InventoryProg Unit} {w : World} {script : List (CallFault Fault)}
    {before after : List InventoryOp} {op : InventoryOp}
    (hops : (runScript prog w script).ops = before ++ op :: after) :
    ∃ w', Kept before w w' ∧
      Kept after (inventoryExec (script.getD before.length .works) op w').2
        (runScript prog w script).state.1 := by
  induction prog generalizing w script before with
  | ret value => cases before <;> cases hops
  | call first next ih =>
      have hhead : script.headD .works = script.getD 0 .works := by cases script <;> rfl
      cases before with
      | nil =>
          obtain ⟨rfl, rfl⟩ := List.cons.inj hops
          refine ⟨w, Kept.refl w, ?_⟩
          rw [List.length_nil, ← hhead]
          exact runScript_kept _ _ _
      | cons head before =>
          obtain ⟨rfl, hrest⟩ := List.cons.inj hops
          obtain ⟨w', hbefore, hafter⟩ := ih _ hrest
          refine ⟨w', hbefore.cons, ?_⟩
          rw [getD_cons_tail] at hafter
          exact hafter

/-! ### One finalization, from its read to its delete -/

section

variable {orderID : OrderID} {isRestock : Bool} {complete : List InventoryOp → Prop}

/-- A closing worker completes its log and then deletes, under any script. -/
theorem Closing.run {log : List InventoryOp} {prog : InventoryProg Unit}
    (hclosing : Closing orderID isRestock complete log prog) (w : World)
    (script : List (CallFault Fault)) :
    ∃ body, (runScript prog w script).ops = body ++ [.deleteOrderData orderID isRestock] ∧
      (∀ op ∈ body, isEffect op = true ∨ isQuiet op = true) ∧
      complete (log ++ body.filter isEffect) := by
  induction hclosing generalizing w script with
  | @effect log op next heffect hextends hnext ih =>
      obtain ⟨body, hops, hkinds, hcomplete⟩ := ih (inventoryExec (script.headD .works) op w).1
        (inventoryExec (script.headD .works) op w).2 script.tail
      refine ⟨op :: body, congrArg (op :: ·) hops, ?_, ?_⟩
      · exact List.forall_mem_cons.mpr ⟨Or.inl heffect, hkinds⟩
      · simpa [heffect] using hcomplete
  | @quiet log op next hquiet hnext ih =>
      obtain ⟨body, hops, hkinds, hcomplete⟩ := ih (inventoryExec (script.headD .works) op w).1
        (inventoryExec (script.headD .works) op w).2 script.tail
      have heffect : isEffect op = false := by
        cases op <;> first | rfl | cases hquiet
      refine ⟨op :: body, congrArg (op :: ·) hops, ?_, ?_⟩
      · exact List.forall_mem_cons.mpr ⟨Or.inr hquiet, hkinds⟩
      · simpa [heffect] using hcomplete
  | @delete log hcomplete => exact ⟨[], rfl, by simp, by simpa using hcomplete⟩

end

/-! ### The post -/

/-- The post that completes an order. -/
def completionPost (orderID : OrderID) (isRestock : Bool) (amount : ℚ) : InventoryOp :=
  if isRestock then .postWebhook .updateRestock ⟨orderID, .completed, "total_cost", amount⟩
  else .postWebhook .updateOrder ⟨orderID, .completed, "total_price", amount⟩

def isPost : InventoryOp → Bool
  | .postWebhook _ _ => true
  | _ => false

/-- The statement ordering runs for that post. -/
def recordCompletion (orderID : OrderID) (isRestock : Bool) (amount : ℚ) (db : OrderingDB) :
    Except GoError OrderingDB :=
  if isRestock then db.updateRestockStatus orderID .completed amount
  else db.updateOrderStatus orderID .completed amount

/-- The status of the order's row. -/
def rowStatus (orderID : OrderID) (isRestock : Bool) (db : OrderingDB) : Option OrderStatus :=
  if isRestock then (db.restockOrders.lookup orderID).map RestockRow.status
  else (db.groceryOrders.lookup orderID).map OrderRow.status

/-- The post reaches ordering, passes its secret check, and the statement behind
it takes effect. -/
structure Recorded (fault : CallFault Fault) (orderID : OrderID) (isRestock : Bool) (amount : ℚ)
    (w : World) : Prop where
  arrives : fault.mode.reaches = true
  configured : w.orderingSecret ≠ ""
  authorized : w.inventorySecret = w.orderingSecret
  executes : (fault.server.headD .works).reaches = true
  succeeds : ∃ db, recordCompletion orderID isRestock amount w.ordering = .ok db

theorem Recorded.congr (fault : CallFault Fault) (orderID : OrderID) (isRestock : Bool) (amount : ℚ)
    {w w' : World} (hordering : w'.ordering = w.ordering)
    (hsecret : w'.orderingSecret = w.orderingSecret)
    (hkey : w'.inventorySecret = w.inventorySecret) :
    Recorded fault orderID isRestock amount w' ↔ Recorded fault orderID isRestock amount w := by
  constructor
  · rintro ⟨harrives, hconfigured, hauthorized, hexecutes, hsucceeds⟩
    exact ⟨harrives, hsecret ▸ hconfigured, by rw [← hkey, ← hsecret, hauthorized], hexecutes,
      hordering ▸ hsucceeds⟩
  · rintro ⟨harrives, hconfigured, hauthorized, hexecutes, hsucceeds⟩
    exact ⟨harrives, hsecret ▸ hconfigured, by rw [hkey, hsecret, hauthorized], hexecutes,
      hordering ▸ hsucceeds⟩

theorem recordCompletion_status {orderID : OrderID} {isRestock : Bool} {amount : ℚ}
    {db db' : OrderingDB} (h : recordCompletion orderID isRestock amount db = .ok db') :
    rowStatus orderID isRestock db' = some .completed := by
  cases isRestock with
  | false =>
      simp only [recordCompletion, Bool.false_eq_true, if_false, OrderingDB.updateOrderStatus] at h
      split at h
      · cases h
      split at h
      · cases h
      · cases h
        simp [rowStatus]
  | true =>
      simp only [recordCompletion, if_true, OrderingDB.updateRestockStatus] at h
      split at h
      · cases h
      split at h
      · cases h
      · cases h
        simp [rowStatus]

section

variable {orderID : OrderID} {isRestock : Bool} {amount : ℚ}

private theorem run_context {σ α : Type} (fault : Fault) (context : String)
    (effect : σ → Except GoError α × σ) (state : σ) :
    (fault.run context effect state).2 = (fault.run "" effect state).2 := by
  cases fault <;> rfl

/-- After its statement a webhook handler writes nothing more. -/
private theorem webhook_run (now : Nat) {op : StoreOp} (script : List Fault) (db : OrderingDB)
    (next : StoreAns op → Prog WebhookAns Reply)
    (hnext : ∀ ans, (∃ reply, next ans = .ret reply) ∨
      ∃ orderID status reply, next ans = .call (.goPublish orderID status) fun _ => .ret reply) :
    (Prog.run (scripted (webhookExec now) .works) (.call (.store op) next)
      (db, script)).state.1 = (storeExec now (script.headD .works) op db).2 := by
  have hans := hnext (storeExec now (script.headD .works) op db).1
  have hrun : (Prog.run (scripted (webhookExec now) .works) (.call (.store op) next)
      (db, script)).state.1 =
      (Prog.run (scripted (webhookExec now) .works)
        (next (storeExec now (script.headD .works) op db).1)
        ((storeExec now (script.headD .works) op db).2, script.tail)).state.1 := rfl
  rcases hans with ⟨reply, h⟩ | ⟨orderID, status, reply, h⟩ <;> rw [hrun, h] <;> rfl

/-- The ordering database after the handler behind the post has run. -/
private theorem webhook_ordering (now : Nat) (script : List Fault) (db : OrderingDB) :
    let prog := if isRestock then
        updateRestockWebhook ⟨orderID, .completed, "total_cost", amount⟩
      else updateOrderWebhook ⟨orderID, .completed, "total_price", amount⟩
    (prog.run (scripted (webhookExec now) .works) (db, script)).state.1 =
      ((script.headD .works).run "" (commit (recordCompletion orderID isRestock amount)) db).2 := by
  cases isRestock with
  | false =>
      refine (webhook_run now script db _ fun ans => ?_).trans (run_context _ _ _ _)
      cases ans with
      | error err => exact Or.inl ⟨_, rfl⟩
      | ok value => exact Or.inr ⟨_, _, _, rfl⟩
  | true =>
      refine (webhook_run now script db _ fun ans => ?_).trans (run_context _ _ _ _)
      cases ans with
      | error err => exact Or.inl ⟨_, rfl⟩
      | ok value => exact Or.inr ⟨_, _, _, rfl⟩

/-- The ordering database after the post, behind the secret check. -/
theorem post_run (fault : CallFault Fault) (w : World) :
    (inventoryExec fault (completionPost orderID isRestock amount) w).2.ordering =
      if fault.mode.reaches = true ∧ w.orderingSecret ≠ "" ∧ w.inventorySecret = w.orderingSecret
      then ((fault.server.headD .works).run ""
        (commit (recordCompletion orderID isRestock amount)) w.ordering).2
      else w.ordering := by
  set handler := if isRestock then
      updateRestockWebhook ⟨orderID, .completed, "total_cost", amount⟩
    else updateOrderWebhook ⟨orderID, .completed, "total_price", amount⟩ with hhandler
  have hexec : (inventoryExec fault (completionPost orderID isRestock amount) w).2.ordering =
      (fault.mode.run "" (fun w : World =>
        let outcome := (internalMiddleware w.orderingSecret w.inventorySecret handler).run
          (scripted (webhookExec w.now) .works) (w.ordering, fault.server)
        (World.httpStatus outcome.value, { w with ordering := outcome.state.1 })) w).2.ordering := by
    cases isRestock <;> rfl
  rw [hexec]
  cases hreaches : fault.mode.reaches with
  | false =>
      rw [Fault.run_state_of_not_reaches hreaches, if_neg]
      rintro ⟨h, _⟩
      cases h
  | true =>
      rw [Fault.run_state_of_reaches hreaches]
      dsimp only
      unfold internalMiddleware
      by_cases hempty : w.orderingSecret = ""
      · rw [if_pos hempty, if_neg fun h => h.2.1 hempty]
        rfl
      rw [if_neg hempty]
      by_cases hkey : w.inventorySecret = w.orderingSecret
      · rw [if_neg (not_not_intro hkey), if_pos ⟨rfl, hempty, hkey⟩]
        exact webhook_ordering w.now fault.server w.ordering
      · rw [if_pos hkey, if_neg fun h => hkey h.2.2]
        rfl

theorem post_ordering (orderID : OrderID) (isRestock : Bool) (amount : ℚ)
    (fault : CallFault Fault) (w : World) :
    (Recorded fault orderID isRestock amount w →
      rowStatus orderID isRestock
        (inventoryExec fault (completionPost orderID isRestock amount) w).2.ordering =
        some .completed) ∧
    (¬ Recorded fault orderID isRestock amount w →
      (inventoryExec fault (completionPost orderID isRestock amount) w).2.ordering =
        w.ordering) := by
  rw [post_run]
  constructor
  · rintro ⟨harrives, hconfigured, hauthorized, hexecutes, db, hdb⟩
    rw [if_pos ⟨harrives, hconfigured, hauthorized⟩, Fault.run_state_of_reaches hexecutes, commit,
      hdb]
    exact recordCompletion_status hdb
  · intro hnot
    split
    · rename_i hserved
      cases hexecutes : (fault.server.headD .works).reaches with
      | false => exact Fault.run_state_of_not_reaches hexecutes _ _ _
      | true =>
          rw [Fault.run_state_of_reaches hexecutes, commit]
          cases hdb : recordCompletion orderID isRestock amount w.ordering with
          | error err => rfl
          | ok db =>
              exact absurd ⟨hserved.1, hserved.2.1, hserved.2.2, hexecutes, db, hdb⟩ hnot
    · rfl

end

/-! ### The whole finalization -/

theorem writes_ordering_iff (op : InventoryOp) :
    op.writes = some .ordering ↔ isPost op = true := by
  cases op <;> simp [InventoryOp.writes, isPost]

/-- An execution is some upserts or a bill, and one post at its end. -/
private theorem execution_post {orderID : OrderID} {work : Work} {isRestock : Bool}
    {m : MemoryStore} (hwork : savedWork orderID isRestock m = some work) {ops : List InventoryOp}
    (hops : Execution orderID work ops) :
    ∃ pre amount, ops = pre ++ [completionPost orderID isRestock amount] ∧
      ∀ op ∈ pre, isPost op = false := by
  cases isRestock with
  | false =>
      obtain ⟨entry, _, rfl⟩ := Option.map_eq_some_iff.mp hwork
      obtain ⟨price, rfl⟩ := hops
      exact ⟨[.calculateBill (InventoryHandler.cartItems entry.value)], price, rfl,
        by simp [isPost]⟩
  | true =>
      obtain ⟨entry, _, rfl⟩ := Option.map_eq_some_iff.mp hwork
      refine ⟨_, _, hops, ?_⟩
      intro op hop
      obtain ⟨pi, _, rfl⟩ := List.mem_map.mp hop
      rfl

/-- What a finalization does when its read finds the items. -/
theorem finalize_ops {orderID : OrderID} {isRestock : Bool} {work : Work} {w : World}
    {script : List (CallFault Fault)} (hwork : savedWork orderID isRestock w.memory = some work)
    (hread : (script.headD .works).mode = .works) :
    ∃ first body, (runScript (InventoryHandler.finalizeOrder orderID isRestock) w script).ops =
        first :: body ++ [.deleteOrderData orderID isRestock] ∧
      first.writes = none ∧ (∀ op ∈ body, isEffect op = true ∨ isQuiet op = true) ∧
      Execution orderID work (body.filter isEffect) := by
  cases isRestock with
  | false =>
      obtain ⟨entry, hentry, rfl⟩ := Option.map_eq_some_iff.mp hwork
      have hanswer : inventoryExec (script.headD .works) (.getOrderItems orderID) w =
          (.ok entry.value, w) := by
        show (script.headD .works).mode.run "" (fun w => (w.memory.getOrderItems orderID, w)) w = _
        rw [hread, Fault.run_works, MemoryStore.getOrderItems, RedisDB.getItems, hentry]
      obtain ⟨body, hops, hkinds, hexecution⟩ :=
        (closing_client entry.value fun _ h => h).run w script.tail
      refine ⟨.getOrderItems orderID, body, ?_, rfl, hkinds, hexecution⟩
      rw [List.cons_append, ← hops]
      show (runScript (InventoryHandler.finalizeClientOrder orderID) w script).ops = _
      rw [InventoryHandler.finalizeClientOrder, runScript, Prog.run_call]
      simp only [scripted, hanswer]
      rfl
  | true =>
      obtain ⟨entry, hentry, rfl⟩ := Option.map_eq_some_iff.mp hwork
      have hanswer : inventoryExec (script.headD .works) (.getRestockItems orderID) w =
          (.ok entry.value, w) := by
        show (script.headD .works).mode.run "" (fun w => (w.memory.getRestockItems orderID, w)) w = _
        rw [hread, Fault.run_works, MemoryStore.getRestockItems, RedisDB.getItems, hentry]
      obtain ⟨body, hops, hkinds, hexecution⟩ :=
        (closing_restock entry.value fun _ h => h).run w script.tail
      refine ⟨.getRestockItems orderID, body, ?_, rfl, hkinds, hexecution⟩
      rw [List.cons_append, ← hops]
      show (runScript (InventoryHandler.finalizeRestock orderID) w script).ops = _
      rw [InventoryHandler.finalizeRestock, runScript, Prog.run_call]
      simp only [scripted, hanswer]
      rfl

/-- An operation of a finalization is a post only if it is an effect. -/
private theorem not_post_of_quiet {op : InventoryOp} (hop : isEffect op = false) :
    isPost op = false := by
  cases op <;> first | rfl | cases hop

/-- The steps of a finalization that finds its items: a single post, and the delete
at its end. -/
private theorem finalize_one_post {orderID : OrderID} {isRestock : Bool} {work : Work} {w : World}
    {script : List (CallFault Fault)} (hwork : savedWork orderID isRestock w.memory = some work)
    (hread : (script.headD .works).mode = .works) :
    ∃ before after amount,
      (runScript (InventoryHandler.finalizeOrder orderID isRestock) w script).ops =
        before ++ completionPost orderID isRestock amount :: (after ++ [.deleteOrderData orderID isRestock]) ∧
      (∀ op ∈ before, isPost op = false) ∧ (∀ op ∈ after, isPost op = false) := by
  obtain ⟨first, body, hops, hfirst, _, hexecution⟩ := finalize_ops hwork hread
  obtain ⟨pre, amount, hfilter, hpre⟩ := execution_post hwork hexecution
  obtain ⟨head, tail, rfl, hhead, htail⟩ := List.filter_eq_append_iff.mp hfilter
  obtain ⟨skipped, after, rfl, hskipped, _, hafter⟩ := List.filter_eq_cons_iff.mp htail
  have hnot_first : isPost first = false := by
    cases hpost : isPost first with
    | false => rfl
    | true => simp [(writes_ordering_iff first).mpr hpost] at hfirst
  have hnot_head : ∀ op ∈ head, isPost op = false := by
    intro op hop
    cases heffect : isEffect op with
    | false => exact not_post_of_quiet heffect
    | true => exact hpre op (hhead ▸ List.mem_filter.mpr ⟨hop, heffect⟩)
  have hnot_skipped : ∀ op ∈ skipped, isPost op = false := fun op hop =>
    not_post_of_quiet (by simpa using hskipped op hop)
  refine ⟨first :: head ++ skipped, after, amount, ?_, ?_, fun op hop => ?_⟩
  · rw [hops]
    simp
  · simp only [List.cons_append, List.forall_mem_cons, List.forall_mem_append]
    exact ⟨hnot_first, hnot_head, hnot_skipped⟩
  · exact not_post_of_quiet (by simpa using List.filter_eq_nil_iff.mp hafter op hop)

/-- Only posts write to ordering. -/
private theorem unwritten_of_not_post {ops : List InventoryOp} (hops : ∀ op ∈ ops, isPost op = false) :
    ∀ op ∈ ops, op.writes ≠ some .ordering := by
  intro op hop hwrites
  have hpost := (writes_ordering_iff op).mp hwrites
  rw [hops op hop] at hpost
  cases hpost

/-- **Completion is posted once and the keys are deleted after it.** Under any
script of faults a finalization that finds its items makes one post to
ordering and deletes the keys at the end, whatever came of the post. The
order's row becomes COMPLETED if the post was recorded, and otherwise nothing
in the ordering database changes. -/
theorem keys_deleted_after_one_post {orderID : OrderID} {isRestock : Bool} {work : Work} {w : World}
    {script : List (CallFault Fault)} (hwork : savedWork orderID isRestock w.memory = some work)
    (hread : (script.headD .works).mode = .works) :
    let outcome := runScript (InventoryHandler.finalizeOrder orderID isRestock) w script
    ∃ before after amount,
      outcome.ops = before ++ completionPost orderID isRestock amount :: after ++
        [.deleteOrderData orderID isRestock] ∧
      (∀ op ∈ before ++ after, isPost op = false) ∧
      (Recorded (script.getD before.length .works) orderID isRestock amount w →
        rowStatus orderID isRestock outcome.state.1.ordering = some .completed) ∧
      (¬ Recorded (script.getD before.length .works) orderID isRestock amount w →
        outcome.state.1.ordering = w.ordering) ∧
      ((script.getD (outcome.ops.length - 1) .works).mode.reaches = true →
        keysOf orderID isRestock outcome.state.1.memory = ⟨false, 0, false⟩) := by
  intro outcome
  obtain ⟨before, after, amount, hsplit, hbefore, hafter⟩ := finalize_one_post hwork hread
  obtain ⟨w', hkept, hkept'⟩ := runScript_split hsplit
  have hordering := hkept.ordering (unwritten_of_not_post hbefore)
  have hrecorded := Recorded.congr (script.getD before.length .works) orderID isRestock amount hordering
    hkept.orderingSecret hkept.inventorySecret
  have hfinal := hkept'.ordering (unwritten_of_not_post (List.forall_mem_append.mpr
    ⟨hafter, by simp [isPost]⟩))
  have hpost := post_ordering orderID isRestock amount (script.getD before.length .works) w'
  have hends : outcome.ops = (before ++ completionPost orderID isRestock amount :: after) ++
      .deleteOrderData orderID isRestock :: [] := by
    show (runScript _ w script).ops = _
    rw [hsplit]
    simp
  refine ⟨before, after, amount, by simpa using hsplit,
    List.forall_mem_append.mpr ⟨hbefore, hafter⟩, fun hyes => ?_, fun hno => ?_, fun hdel => ?_⟩
  · rw [hfinal]
    exact hpost.1 (hrecorded.mpr hyes)
  · rw [hfinal, hpost.2 fun h => hno (hrecorded.mp h)]
    exact hordering
  · obtain ⟨w'', _, hend⟩ := runScript_split hends
    rw [hends, List.length_append, List.length_singleton, Nat.add_sub_cancel] at hdel
    rw [hend.memory (by simp)]
    have hmemory := Fault.run_state_of_reaches hdel ""
      (World.onMemory fun m => ((), m.deleteOrderData orderID isRestock)) w''
    exact (congrArg (fun w => keysOf orderID isRestock w.memory) hmemory).trans
      (delete_spec orderID isRestock w''.memory).1

/-- A client order of two units, finalized without a fault. -/
theorem keys_deleted_after_one_post_sample :
    let w := { Sample.world with memory := MemoryStore.empty.saveOrderItems 0 "order-1" Sample.items }
    let outcome := runScript (InventoryHandler.finalizeOrder "order-1" false) w []
    ∃ before after amount,
      outcome.ops = before ++ completionPost "order-1" false amount :: after ++
        [.deleteOrderData "order-1" false] ∧
      (∀ op ∈ before ++ after, isPost op = false) := by
  intro w outcome
  have hwork : savedWork "order-1" false w.memory = some (.client Sample.items) := rfl
  have hread : (([] : List (CallFault Fault)).headD .works).mode = .works := rfl
  obtain ⟨before, after, amount, hops, hposts, _⟩ :=
    keys_deleted_after_one_post hwork hread
  exact ⟨before, after, amount, hops, hposts⟩

/-- A lost completion: ordering cannot be reached, the keys are deleted, and
the order stays PROCESSING. -/
theorem completion_lost :
    ∃ (w : World) (script : List (CallFault Fault)),
      rowStatus "order-1" false w.ordering = some .processing ∧
      (keysOf "order-1" false w.memory).items = true ∧
      let outcome := runScript (InventoryHandler.finalizeOrder "order-1" false) w script
      keysOf "order-1" false outcome.state.1.memory = ⟨false, 0, false⟩ ∧
        rowStatus "order-1" false outcome.state.1.ordering = some .processing :=
  ⟨{ Sample.dispatched with
      ordering := Sample.dispatched.ordering.updateStatus "order-1" .processing },
    [.works, .works, ⟨.fails "connection refused", []⟩], by decide +kernel, by decide +kernel,
    by decide +kernel, by decide +kernel⟩

end AutoGrocery

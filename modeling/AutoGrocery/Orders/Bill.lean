import AutoGrocery.Orders.Agreement

/-!
The finalization of a client order reads the items inventory has saved and
bills them. What a trace says of a thread that may finalize the order is fixed
by the phase the thread is in, and a step keeps it.
-/

namespace AutoGrocery

open Interleaving InventoryHandler

/-! ### Phases -/

/-- Where a callback or a finalization stands as far as billing the order goes;
an idle one does not read its items. -/
inductive BillPhase where
  | idle
  | reading
  | billing (items : ItemMap)
  | billed

inductive BillRule (orderID : OrderID) :
    BillPhase → (op : InventoryOp) → InventoryAns op → BillPhase → Prop where
  | idle {op : InventoryOp} (answer : InventoryAns op) : op.loads ≠ some orderID →
      BillRule orderID .idle op answer .idle
  | read (items : ItemMap) :
      BillRule orderID .reading (.getOrderItems orderID) (.ok items) (.billing items)
  | unread (err : GoError) :
      BillRule orderID .reading (.getOrderItems orderID) (.error err) .billed
  | bill (items : ItemMap) (answer : Except GoError CalculateBillResponse) :
      BillRule orderID (.billing items) (.calculateBill (cartItems items)) answer .billed
  | close {op : InventoryOp} (answer : InventoryAns op) : op.loads = none →
      (∀ cart, op ≠ .calculateBill cart) → BillRule orderID .billed op answer .billed

/-- What the trace says of a thread in a phase. -/
def BillPhase.History (orderID : OrderID) (items : ItemMap) (trace : List (Nat × ServiceEvent))
    (index : Nat) : BillPhase → Prop
  | .idle => ∀ answer, (index, .inventory ⟨.getOrderItems orderID, answer⟩) ∉ trace
  | .reading => ∀ cart answer, (index, .inventory ⟨.calculateBill cart, answer⟩) ∉ trace
  | .billing saved => saved.Same items ∧
      ∀ cart answer, (index, .inventory ⟨.calculateBill cart, answer⟩) ∉ trace
  | .billed => ∀ cart answer, (index, .inventory ⟨.calculateBill cart, answer⟩) ∈ trace →
      Lists CartItem.sku CartItem.quantity cart items

section

variable {orderID : OrderID}

private theorem finalizeClientOrder_follows (orderID : OrderID) :
    (finalizeClientOrder orderID).Follows (BillRule orderID) .reading := by
  intro answer
  cases answer with
  | error err => exact ⟨_, .unread err, trivial⟩
  | ok items =>
      refine ⟨_, .read items, fun answer => ⟨_, .bill items answer, fun posted => ?_⟩⟩
      refine ⟨_, .close posted rfl fun cart h => ?_, fun deleted => ?_⟩
      · cases h
      · refine ⟨_, .close deleted rfl fun cart h => ?_, trivial⟩
        cases h

theorem idle_follows {prog : InventoryProg Unit}
    (huses : prog.Uses (fun op => isCallbackOp op ∧ op.concerns = none)) :
    prog.Follows (BillRule orderID) .idle := by
  apply huses.follows
  intro op answer hop
  refine .idle answer fun hloads => ?_
  rw [InventoryOp.concerns_of_loads hloads] at hop
  exact Option.some_ne_none orderID hop.2

/-- A goroutine finalizes the order, or stays away from its items. -/
theorem goroutines_follow (event : Event InventoryAns) : ∀ prog ∈ goroutines event,
    prog.Follows (BillRule orderID) .idle ∨ prog.Follows (BillRule orderID) .reading := by
  obtain ⟨op, ans⟩ := event
  cases op with
  | goFinalizeOrder finalized isRestock =>
      intro prog hprog
      rw [List.mem_singleton.mp hprog]
      cases isRestock with
      | true => exact Or.inl (idle_follows (finalizeRestock_uses finalized))
      | false =>
          by_cases heq : finalized = orderID
          · subst heq
            exact Or.inr (finalizeClientOrder_follows finalized)
          · left
            intro answer
            refine ⟨.idle, .idle answer fun h => heq (Option.some.inj h), ?_⟩
            cases answer with
            | error err => trivial
            | ok items =>
                apply (billClientOrder_uses finalized items).follows
                intro op answer hop
                refine .idle answer fun hloads => ?_
                rw [hop.2.1] at hloads
                cases hloads
  | goUpdateStockMetrics metrics =>
      intro prog hprog
      rw [List.mem_singleton.mp hprog]
      exact Or.inl (idle_follows (asyncStockMetrics_uses metrics))
  | _ => intro prog hprog; cases hprog

theorem mem_snoc {index other : Nat} {event found : ServiceEvent}
    {trace : List (Nat × ServiceEvent)} (hmem : (other, found) ∈ trace ++ [(index, event)]) :
    (other, found) ∈ trace ∨ other = index ∧ found = event := by
  rcases List.mem_append.mp hmem with hold | hnew
  · exact Or.inl hold
  · obtain ⟨rfl, rfl⟩ := Prod.mk.inj (List.mem_singleton.mp hnew)
    exact Or.inr ⟨rfl, rfl⟩

variable {items : ItemMap} {trace : List (Nat × ServiceEvent)} {index mover : Nat}

/-- A step of another thread. -/
theorem BillPhase.History.other {phase : BillPhase}
    (hhistory : phase.History orderID items trace index) (hne : index ≠ mover) (event : ServiceEvent) :
    phase.History orderID items (trace ++ [(mover, event)]) index := by
  have hmem {found : ServiceEvent} (h : (index, found) ∈ trace ++ [(mover, event)]) :
      (index, found) ∈ trace :=
    (mem_snoc h).resolve_right fun hnew => hne hnew.1
  cases phase with
  | idle => exact fun answer h => hhistory answer (hmem h)
  | reading => exact fun cart answer h => hhistory cart answer (hmem h)
  | billing saved => exact ⟨hhistory.1, fun cart answer h => hhistory.2 cart answer (hmem h)⟩
  | billed => exact fun cart answer h => hhistory cart answer (hmem h)

/-- A step of the thread itself, which reads the items that were saved. -/
theorem BillRule.history {phase phase' : BillPhase} {op : InventoryOp} {answer : InventoryAns op}
    (hrule : BillRule orderID phase op answer phase')
    (hsaved : ∀ saved, (⟨op, answer⟩ : Event InventoryAns) = ⟨.getOrderItems orderID, .ok saved⟩ →
      saved.Same items)
    (hhistory : phase.History orderID items trace index) :
    phase'.History orderID items (trace ++ [(index, .inventory ⟨op, answer⟩)]) index := by
  cases hrule with
  | idle answer hloads =>
      intro found h
      rcases mem_snoc h with hold | ⟨_, hnew⟩
      · exact hhistory found hold
      · cases hnew
        exact hloads rfl
  | read saved =>
      refine ⟨hsaved saved rfl, fun cart found h => ?_⟩
      rcases mem_snoc h with hold | ⟨_, hnew⟩
      · exact hhistory cart found hold
      · cases hnew
  | unread err =>
      intro cart found h
      rcases mem_snoc h with hold | ⟨_, hnew⟩
      · exact absurd hold (hhistory cart found)
      · cases hnew
  | bill saved answer =>
      intro cart found h
      rcases mem_snoc h with hold | ⟨_, hnew⟩
      · exact absurd hold (hhistory.2 cart found)
      · cases hnew
        exact (lists_entries (fun entry => (⟨entry.1, entry.2⟩ : CartItem)) (fun _ => rfl)
          fun _ => rfl).same hhistory.1
  | close answer _ hbill =>
      intro cart found h
      rcases mem_snoc h with hold | ⟨_, hnew⟩
      · exact hhistory cart found hold
      · cases hnew
        exact absurd rfl (hbill cart)

end

end AutoGrocery

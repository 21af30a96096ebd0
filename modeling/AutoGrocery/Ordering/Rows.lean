import AutoGrocery.Ordering.Status

/-!
Which client orders a statement touches. A statement names one order at most,
by its business id, and reaches the lines of that order by the numeric id of
its row. Numeric ids come from a sequence: no two orders share one, and a new
order finds no lines under its own. Every statement keeps that, so what is done
to one order leaves the others and their lines as they were.
-/

namespace AutoGrocery

open Interleaving Relational

namespace OrderingDB

/-- Numeric ids are issued once. -/
structure WellFormed (db : OrderingDB) : Prop where
  issued : ∀ {orderID row}, db.groceryOrders.lookup orderID = some row → row.id < db.nextOrderID
  distinct : ∀ {orderID other row row'}, db.groceryOrders.lookup orderID = some row →
    db.groceryOrders.lookup other = some row' → row.id = row'.id → orderID = other
  lines : ∀ line ∈ db.groceryOrderItems, line.orderID < db.nextOrderID

/-- The same of the rows as they are listed, to be checked on a given database. -/
theorem wellFormed_of_entries {db : OrderingDB}
    (hissued : ∀ row ∈ db.groceryOrders.entries, row.2.id < db.nextOrderID)
    (hdistinct : (db.groceryOrders.entries.map fun row => row.2.id).Nodup)
    (hlines : ∀ line ∈ db.groceryOrderItems, line.orderID < db.nextOrderID) : db.WellFormed := by
  constructor
  · intro orderID row hrow
    exact hissued ⟨orderID, row⟩ (AList.mem_lookup_iff.mp hrow)
  · intro orderID other row row' hrow hrow' hid
    have hsame := List.inj_on_of_nodup_map hdistinct (AList.mem_lookup_iff.mp hrow)
      (AList.mem_lookup_iff.mp hrow') hid
    exact congrArg Sigma.fst hsame
  · exact hlines

/-- The tables of the client orders are the same. -/
structure SameTables (db db' : OrderingDB) : Prop where
  orders : db'.groceryOrders = db.groceryOrders
  items : db'.groceryOrderItems = db.groceryOrderItems
  next : db'.nextOrderID = db.nextOrderID

theorem SameTables.refl (db : OrderingDB) : SameTables db db := ⟨rfl, rfl, rfl⟩

end OrderingDB

section

variable {db db' : OrderingDB}

/-- A row of the same orders stood there before, with its id and its owner. -/
theorem OrderingDB.SameOrders.row (hsame : db.SameOrders db') {orderID : OrderID} {row' : OrderRow}
    (hrow' : db'.groceryOrders.lookup orderID = some row') :
    ∃ row, db.groceryOrders.lookup orderID = some row ∧ row.id = row'.id ∧
      row.clientID = row'.clientID := by
  have hrows := hsame.rows orderID
  rw [hrow', Option.map_some, eq_comm] at hrows
  obtain ⟨row, hrow, heq⟩ := Option.map_eq_some_iff.mp hrows
  exact ⟨row, hrow, congrArg Prod.fst heq, congrArg Prod.snd heq⟩

theorem OrderingDB.SameOrders.wellFormed (hsame : db.SameOrders db') (hwf : db.WellFormed) :
    db'.WellFormed := by
  constructor
  · intro orderID row hrow
    obtain ⟨before, hbefore, hid, _⟩ := hsame.row hrow
    rw [hsame.next, ← hid]
    exact hwf.issued hbefore
  · intro orderID other row row' hrow hrow' heq
    obtain ⟨before, hbefore, hid, _⟩ := hsame.row hrow
    obtain ⟨before', hbefore', hid', _⟩ := hsame.row hrow'
    exact hwf.distinct hbefore hbefore' (by rw [hid, hid', heq])
  · rw [hsame.items, hsame.next]
    exact hwf.lines

end

/-- The client order a statement names. -/
def StoreOp.names : StoreOp → Option OrderID
  | .createGroceryOrder order _ => some order.orderID
  | .getOrderByID orderID => some orderID
  | .getOrderItems orderID => some orderID
  | .updateStatus orderID _ => some orderID
  | .updateOrderStatus orderID _ _ => some orderID
  | .deleteOrder orderID => some orderID
  | .getSupplierInternalID _ => none
  | .createRestockOrder _ _ => none
  | .updateRestockStatus _ _ _ => none

/-- What a statement does to the client orders: nothing, or one of three changes
of the order it names. -/
inductive OrderChange (db : OrderingDB) : StoreOp → OrderingDB → Prop where
  | keep {op : StoreOp} {db' : OrderingDB} : db.SameTables db' → OrderChange db op db'
  | create {order : GroceryOrder} {items : List GroceryOrderItem} {row : OrderRow}
      {lines : List OrderItemRow} {db' : OrderingDB} :
      db.groceryOrders.lookup order.orderID = none →
      row.id = db.nextOrderID → row.clientID = order.clientID →
      (∀ line ∈ lines, line.orderID = db.nextOrderID) →
      db'.groceryOrders = db.groceryOrders.insert order.orderID row →
      db'.groceryOrderItems = db.groceryOrderItems ++ lines →
      db'.nextOrderID = db.nextOrderID + 1 →
      OrderChange db (.createGroceryOrder order items) db'
  | rewrite {op : StoreOp} {orderID : OrderID} {row row' : OrderRow} {db' : OrderingDB} :
      op.names = some orderID → db.groceryOrders.lookup orderID = some row →
      row'.id = row.id → row'.clientID = row.clientID →
      db'.groceryOrders = db.groceryOrders.insert orderID row' →
      db'.groceryOrderItems = db.groceryOrderItems →
      db'.nextOrderID = db.nextOrderID →
      OrderChange db op db'
  | delete {orderID : OrderID} {row : OrderRow} {db' : OrderingDB} :
      db.groceryOrders.lookup orderID = some row →
      db'.groceryOrders = db.groceryOrders.erase orderID →
      db'.groceryOrderItems = db.groceryOrderItems.filter (fun line => line.orderID ≠ row.id) →
      db'.nextOrderID = db.nextOrderID →
      OrderChange db (.deleteOrder orderID) db'

/-! ### The statements change one order at most -/

section

variable {db db' : OrderingDB}

/-- New lines stand behind the old ones, under the id of their order. -/
private theorem insertItems_ok {dbID : Nat} {items : List GroceryOrderItem}
    {rows rows' : List OrderItemRow} (hok : OrderingDB.insertItems dbID items rows = .ok rows') :
    ∃ lines, rows' = rows ++ lines ∧ ∀ line ∈ lines, line.orderID = dbID := by
  induction items generalizing rows with
  | nil => exact ⟨[], by simpa using (Except.ok.inj hok).symm, by simp⟩
  | cons item rest ih =>
      unfold OrderingDB.insertItems at hok
      split at hok
      · cases hok
      · rename_i quantity _
        obtain ⟨lines, rfl, hlines⟩ := ih hok
        refine ⟨⟨dbID, item.sku, quantity⟩ :: lines, by simp, fun line hline => ?_⟩
        rcases List.mem_cons.mp hline with rfl | hline
        · rfl
        · exact hlines line hline

theorem createGroceryOrder_change {now : Nat} {order : GroceryOrder}
    {items : List GroceryOrderItem} (hok : db.createGroceryOrder now order items = .ok db') :
    OrderChange db (.createGroceryOrder order items) db' := by
  unfold OrderingDB.createGroceryOrder at hok
  split at hok
  · cases hok
  · rename_i hnew
    obtain ⟨rows, hrows, hok⟩ := bind_eq_ok hok
    obtain ⟨lines, rfl, hlines⟩ := insertItems_ok hrows
    cases hok
    exact .create hnew rfl rfl hlines rfl rfl rfl

theorem updateStatus_change (orderID : OrderID) (status : OrderStatus) (db : OrderingDB) :
    OrderChange db (.updateStatus orderID status) (db.updateStatus orderID status) := by
  unfold OrderingDB.updateStatus
  split
  · exact .keep (.refl db)
  · rename_i row hrow
    exact @OrderChange.rewrite db _ orderID row { row with status } _ rfl hrow rfl rfl rfl rfl rfl

theorem updateOrderStatus_change {orderID : OrderID} {status : OrderStatus} {totalPrice : ℚ}
    (hok : db.updateOrderStatus orderID status totalPrice = .ok db') :
    OrderChange db (.updateOrderStatus orderID status totalPrice) db' := by
  unfold OrderingDB.updateOrderStatus at hok
  split at hok
  · cases hok
  · rename_i row hrow
    split at hok
    · cases hok
    · rename_i stored _
      cases hok
      exact @OrderChange.rewrite db _ orderID row { row with status, totalPrice := stored } _ rfl hrow
        rfl rfl rfl rfl rfl

theorem deleteOrder_change {orderID : OrderID} (hok : db.deleteOrder orderID = .ok db') :
    OrderChange db (.deleteOrder orderID) db' := by
  unfold OrderingDB.deleteOrder at hok
  split at hok
  · cases hok
  · rename_i row hrow
    cases hok
    exact .delete hrow rfl rfl rfl

private theorem createRestockOrder_same {now : Nat} {order : RestockOrder}
    {items : List RestockOrderItem} (hok : db.createRestockOrder now order items = .ok db') :
    db.SameTables db' := by
  unfold OrderingDB.createRestockOrder at hok
  split at hok
  · cases hok
  · cases hok
  · obtain ⟨_, _, hok⟩ := bind_eq_ok hok
    cases hok
    exact ⟨rfl, rfl, rfl⟩

/-- A statement whose successes are such changes is one under any fault. -/
private theorem commit_change {op : StoreOp} (fault : Fault) (context : String)
    {result : OrderingDB → Except GoError OrderingDB}
    (hresult : ∀ db', result db = .ok db' → OrderChange db op db') :
    OrderChange db op (fault.run context (commit result) db).2 := by
  rcases (run_commit fault context result db).2 with hsame | hok
  · rw [hsame]
    exact .keep (.refl db)
  · exact hresult _ hok

/-- A statement that only reads. -/
private theorem read_change {op : StoreOp} {α : Type} (fault : Fault) (context : String)
    (answer : OrderingDB → Except GoError α) :
    OrderChange db op (fault.run context (fun db => (answer db, db)) db).2 := by
  have hsame : (fault.run context (fun db => (answer db, db)) db).2 = db := by
    rcases fault.run_state context (fun db => (answer db, db)) db with h | h <;> exact h
  rw [hsame]
  exact .keep (.refl db)

/-- **Every statement changes one order at most**, whatever fault it meets. -/
theorem storeExec_change (now : Nat) (fault : Fault) (op : StoreOp) (db : OrderingDB) :
    OrderChange db op (storeExec now fault op db).2 := by
  cases op with
  | createGroceryOrder order items => exact commit_change fault _ fun _ => createGroceryOrder_change
  | getOrderByID orderID => exact read_change fault _ _
  | getOrderItems orderID => exact read_change fault _ _
  | updateStatus orderID status =>
      rcases fault.run_state "" (fun db => ((.ok () : Except GoError Unit),
        db.updateStatus orderID status)) db with h | h
      · rw [storeExec, h]
        exact .keep (.refl db)
      · rw [storeExec, h]
        exact updateStatus_change orderID status db
  | updateOrderStatus orderID status totalPrice =>
      exact commit_change fault _ fun _ => updateOrderStatus_change
  | deleteOrder orderID => exact commit_change fault _ fun _ => deleteOrder_change
  | getSupplierInternalID businessID =>
      rcases fault.run_state ("failed to get or create supplier " ++ businessID ++ ": ")
        (fun db => ((.ok (db.getSupplierInternalID businessID).1 : Except GoError Nat),
          (db.getSupplierInternalID businessID).2)) db with h | h
      · rw [storeExec, h]
        exact .keep (.refl db)
      · rw [storeExec, h]
        exact .keep ⟨rfl, rfl, rfl⟩
  | createRestockOrder order items =>
      exact commit_change fault _ fun _ hok => .keep (createRestockOrder_same hok)
  | updateRestockStatus orderID status totalCost =>
      refine commit_change fault _ fun _ hok => .keep ?_
      obtain ⟨horders, hitems, hnext⟩ := OrderingDB.updateRestockStatus_ok hok
      exact ⟨horders, hitems, hnext⟩

end

/-! ### What a change keeps -/

section

variable {db db' : OrderingDB} {op : StoreOp}

/-- Ids stay issued once. -/
theorem OrderChange.wellFormed (hchange : OrderChange db op db') (hwf : db.WellFormed) :
    db'.WellFormed := by
  cases hchange with
  | keep hsame =>
      obtain ⟨horders, hitems, hnext⟩ := hsame
      refine ⟨?_, ?_, ?_⟩
      · rw [horders, hnext]
        exact hwf.issued
      · rw [horders]
        exact hwf.distinct
      · rw [hitems, hnext]
        exact hwf.lines
  | @create order items row lines _ hnew hid _ hlines horders hitems hnext =>
      have hold {orderID : OrderID} {found : OrderRow}
          (hfound : db'.groceryOrders.lookup orderID = some found) :
          orderID = order.orderID ∧ found.id = db.nextOrderID ∨
            db.groceryOrders.lookup orderID = some found := by
        rw [horders] at hfound
        rcases Table.lookup_insert_eq_some.mp hfound with ⟨heq, rfl⟩ | ⟨_, hbefore⟩
        · exact Or.inl ⟨heq, hid⟩
        · exact Or.inr hbefore
      refine ⟨fun hfound => ?_, fun hfound hfound' hsame => ?_, fun line hline => ?_⟩
      · rw [hnext]
        rcases hold hfound with ⟨_, heq⟩ | hbefore
        · omega
        · have hissued := hwf.issued hbefore
          omega
      · rcases hold hfound with ⟨heq, hnew⟩ | hbefore <;> rcases hold hfound' with ⟨heq', hnew'⟩ | hbefore'
        · rw [heq, heq']
        · have hissued := hwf.issued hbefore'
          omega
        · have hissued := hwf.issued hbefore
          omega
        · exact hwf.distinct hbefore hbefore' hsame
      · rw [hnext]
        rw [hitems] at hline
        rcases List.mem_append.mp hline with hline | hline
        · have hissued := hwf.lines line hline
          omega
        · have hissued := hlines line hline
          omega
  | @rewrite _ orderID row row' _ _ hrow hid hclient horders hitems hnext =>
      have hinsert := OrderingDB.sameOrders_insert hrow row' hid hclient
      have hsame : db.SameOrders db' :=
        ⟨hitems, hnext, by rw [horders]; exact hinsert.rows, by rw [horders]; exact hinsert.sums⟩
      exact hsame.wellFormed hwf
  | @delete orderID row _ hrow horders hitems hnext =>
      have hold {other : OrderID} {found : OrderRow}
          (hfound : db'.groceryOrders.lookup other = some found) :
          db.groceryOrders.lookup other = some found := by
        rw [horders] at hfound
        exact (Table.lookup_erase_eq_some.mp hfound).2
      refine ⟨fun hfound => ?_, fun hfound hfound' => hwf.distinct (hold hfound) (hold hfound'),
        fun line hline => ?_⟩
      · rw [hnext]
        exact hwf.issued (hold hfound)
      · rw [hnext]
        rw [hitems] at hline
        exact hwf.lines line (List.mem_filter.mp hline).1

/-- An order the statement does not name stays as it is, and so do its lines. -/
theorem OrderChange.frame (hchange : OrderChange db op db') (hwf : db.WellFormed)
    {orderID : OrderID} (hother : op.names ≠ some orderID) :
    db'.groceryOrders.lookup orderID = db.groceryOrders.lookup orderID ∧
      ∀ row, db.groceryOrders.lookup orderID = some row → db'.itemRows row.id = db.itemRows row.id := by
  cases hchange with
  | keep hsame =>
      obtain ⟨horders, hitems, _⟩ := hsame
      exact ⟨by rw [horders], fun row _ => by rw [OrderingDB.itemRows, hitems]; rfl⟩
  | @create order items _ lines _ _ _ _ hlines horders hitems _ =>
      have hne : orderID ≠ order.orderID := fun heq => hother (congrArg some heq.symm)
      refine ⟨by rw [horders, AList.lookup_insert_ne hne], fun row hrow => ?_⟩
      have hissued := hwf.issued hrow
      have hnone : ∀ line ∈ lines, ¬ decide (line.orderID = row.id) = true := by
        intro line hline
        have hnew := hlines line hline
        simp only [decide_eq_true_eq]
        omega
      rw [OrderingDB.itemRows, hitems, List.filter_append, List.filter_eq_nil_iff.mpr hnone,
        List.append_nil]
      rfl
  | rewrite hnames _ _ _ horders hitems _ =>
      have hne : orderID ≠ _ := fun heq => hother (heq ▸ hnames)
      exact ⟨by rw [horders, AList.lookup_insert_ne hne],
        fun row _ => by rw [OrderingDB.itemRows, hitems]; rfl⟩
  | @delete deleted gone _ hgone horders hitems _ =>
      have hne : orderID ≠ deleted := fun heq => hother (congrArg some heq.symm)
      refine ⟨by rw [horders, AList.lookup_erase_ne hne], fun row hrow => ?_⟩
      have hid : row.id ≠ gone.id := fun heq => hne (hwf.distinct hrow hgone heq)
      rw [OrderingDB.itemRows, hitems, List.filter_filter]
      apply List.filter_congr
      intro line _
      by_cases hline : line.orderID = row.id
      · simp [hline, hid]
      · simp [hline]

/-- An order has the owner it had, or the one it was created for. -/
theorem OrderChange.owner (hchange : OrderChange db op db') {orderID : OrderID} {row' : OrderRow}
    (hrow' : db'.groceryOrders.lookup orderID = some row') :
    (∃ row, db.groceryOrders.lookup orderID = some row ∧ row.clientID = row'.clientID) ∨
      ∃ order items, op = .createGroceryOrder order items ∧ order.orderID = orderID ∧
        order.clientID = row'.clientID := by
  cases hchange with
  | keep hsame => exact Or.inl ⟨row', by rw [← hsame.orders]; exact hrow', rfl⟩
  | @create order items row _ _ _ _ hclient _ horders _ _ =>
      rw [horders] at hrow'
      rcases Table.lookup_insert_eq_some.mp hrow' with ⟨heq, rfl⟩ | ⟨_, hbefore⟩
      · exact Or.inr ⟨order, items, rfl, heq.symm, hclient.symm⟩
      · exact Or.inl ⟨row', hbefore, rfl⟩
  | @rewrite _ _ row _ _ _ hrow _ hclient horders _ _ =>
      rw [horders] at hrow'
      rcases Table.lookup_insert_eq_some.mp hrow' with ⟨rfl, rfl⟩ | ⟨_, hbefore⟩
      · exact Or.inl ⟨row, hrow, hclient.symm⟩
      · exact Or.inl ⟨row', hbefore, rfl⟩
  | delete _ horders _ _ =>
      rw [horders] at hrow'
      exact Or.inl ⟨row', (Table.lookup_erase_eq_some.mp hrow').2, rfl⟩

/-- Only a delete of an order removes it. -/
theorem OrderChange.stays (hchange : OrderChange db op db') {orderID : OrderID}
    (hop : op ≠ .deleteOrder orderID) (hrow : db.groceryOrders.lookup orderID ≠ none) :
    db'.groceryOrders.lookup orderID ≠ none := by
  cases hchange with
  | keep hsame => rwa [hsame.orders]
  | @create order _ _ _ _ _ _ _ _ horders _ _ =>
      rw [horders]
      by_cases heq : orderID = order.orderID
      · simp [heq]
      · rwa [AList.lookup_insert_ne heq]
  | @rewrite _ named _ _ _ _ _ _ _ horders _ _ =>
      rw [horders]
      by_cases heq : orderID = named
      · simp [heq]
      · rwa [AList.lookup_insert_ne heq]
  | @delete deleted _ _ _ horders _ _ =>
      have hne : orderID ≠ deleted := fun heq => hop (by rw [heq])
      rwa [horders, AList.lookup_erase_ne hne]

/-- An order that the statement did not create has its old numeric id and its
old lines. -/
theorem OrderChange.kept (hchange : OrderChange db op db') (hwf : db.WellFormed) {orderID : OrderID}
    {row' : OrderRow} (hrow' : db'.groceryOrders.lookup orderID = some row')
    (hold : ∀ order items, op = .createGroceryOrder order items → order.orderID ≠ orderID) :
    ∃ row, db.groceryOrders.lookup orderID = some row ∧ row.id = row'.id ∧
      db'.itemRows row'.id = db.itemRows row'.id := by
  by_cases hnames : op.names = some orderID
  · cases hchange with
    | keep hsame =>
        exact ⟨row', by rw [← hsame.orders]; exact hrow', rfl, by rw [OrderingDB.itemRows, hsame.items]; rfl⟩
    | create => exact absurd (Option.some.inj hnames) (hold _ _ rfl)
    | @rewrite _ named row _ _ hnamed hrow hid _ horders hitems _ =>
        obtain rfl := Option.some.inj (hnamed.symm.trans hnames)
        rw [horders, AList.lookup_insert] at hrow'
        obtain rfl := Option.some.inj hrow'
        exact ⟨row, hrow, hid.symm, by rw [OrderingDB.itemRows, hitems]; rfl⟩
    | @delete deleted _ _ _ horders _ _ =>
        obtain rfl : deleted = orderID := Option.some.inj hnames
        rw [horders, AList.lookup_erase] at hrow'
        cases hrow'
  · obtain ⟨hlookup, hlines⟩ := hchange.frame hwf hnames
    rw [hlookup] at hrow'
    exact ⟨row', hrow', rfl, hlines row' hrow'⟩

end

end AutoGrocery

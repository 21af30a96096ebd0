import AutoGrocery.Ordering.Lines
import AutoGrocery.Ordering.Rows
import AutoGrocery.Relational.Serial

/-!
The records of the ordering database as a whole: the serial ids and foreign keys
of `10-ordering-schema.sql`, and what each statement leaves of the records it
finds. A statement is judged by the arguments the handlers give it: an order is
stored with the entries of a reserved map, a restock order names a supplier that
was read before, and no status is ever set back to PENDING.
-/

namespace AutoGrocery

open Interleaving Relational

namespace OrderingDB

/-- The records are whole. Ids are issued once in all three tables, a line belongs to an
order, an order lists some SKUs, each of them once, an order that is PENDING has no price
yet, and a restock order has a supplier. -/
structure Intact (db : OrderingDB) : Prop where
  orders : db.WellFormed
  owned : ∀ line ∈ db.groceryOrderItems, ∃ orderID row,
    db.groceryOrders.lookup orderID = some row ∧ row.id = line.orderID
  filled : ∀ {orderID row}, db.groceryOrders.lookup orderID = some row → db.itemRows row.id ≠ []
  listed : ∀ {orderID row}, db.groceryOrders.lookup orderID = some row →
    ((db.itemRows row.id).map OrderItemRow.sku).Nodup
  unpriced : ∀ {orderID row}, db.groceryOrders.lookup orderID = some row → row.status = .pending →
    row.totalPrice = 0
  restocks : db.restockOrders.Serial RestockRow.id db.nextRestockID
  suppliers : db.suppliers.Serial (fun id => id) db.nextSupplierID
  supplied : ∀ {orderID row}, db.restockOrders.lookup orderID = some row →
    ∃ businessID, db.suppliers.lookup businessID = some row.supplierID

/-- The same of the rows as they are listed, to be checked on a given database. -/
theorem intact_of_entries {db : OrderingDB}
    (hissued : ∀ row ∈ db.groceryOrders.entries, row.2.id < db.nextOrderID)
    (hdistinct : (db.groceryOrders.entries.map fun row => row.2.id).Nodup)
    (hlines : ∀ line ∈ db.groceryOrderItems, line.orderID < db.nextOrderID ∧
      ∃ row ∈ db.groceryOrders.entries, row.2.id = line.orderID)
    (hlisted : ∀ row ∈ db.groceryOrders.entries, (db.itemRows row.2.id).isEmpty = false ∧
      ((db.itemRows row.2.id).map OrderItemRow.sku).Nodup)
    (hunpriced : ∀ row ∈ db.groceryOrders.entries, row.2.status = .pending → row.2.totalPrice = 0)
    (hrestocks : (∀ row ∈ db.restockOrders.entries, row.2.id < db.nextRestockID) ∧
      (db.restockOrders.entries.map fun row => row.2.id).Nodup)
    (hsuppliers : (∀ row ∈ db.suppliers.entries, row.2 < db.nextSupplierID) ∧
      (db.suppliers.entries.map fun row => row.2).Nodup)
    (hsupplied : ∀ row ∈ db.restockOrders.entries, ∃ supplier ∈ db.suppliers.entries,
      supplier.2 = row.2.supplierID) : db.Intact := by
  constructor
  case orders => exact wellFormed_of_entries hissued hdistinct fun line hline => (hlines line hline).1
  case owned =>
    intro line hline
    obtain ⟨_, row, hrow, hid⟩ := hlines line hline
    exact ⟨row.1, row.2, AList.mem_lookup_iff.mpr hrow, hid⟩
  case filled =>
    intro orderID row hrow hempty
    have hsome := (hlisted ⟨orderID, row⟩ (AList.mem_lookup_iff.mp hrow)).1
    rw [hempty] at hsome
    cases hsome
  case listed => exact fun hrow => (hlisted _ (AList.mem_lookup_iff.mp hrow)).2
  case unpriced => exact fun hrow => hunpriced _ (AList.mem_lookup_iff.mp hrow)
  case restocks => exact Table.serial_of_entries hrestocks.1 hrestocks.2
  case suppliers => exact Table.serial_of_entries hsuppliers.1 hsuppliers.2
  case supplied =>
    intro orderID row hrow
    obtain ⟨supplier, hsupplier, hid⟩ := hsupplied ⟨orderID, row⟩ (AList.mem_lookup_iff.mp hrow)
    exact ⟨supplier.1, by rw [← hid]; exact AList.mem_lookup_iff.mpr hsupplier⟩

/-- What a later database has of an earlier one. An order with an id of the earlier one is
an order that stood there, of the same client and time and with the same lines, and it is
as it was or has left PENDING. A restock order is still there, from the same supplier and
time, and is as it was or COMPLETED. A supplier keeps its id. -/
structure Continues (db db' : OrderingDB) : Prop where
  nextOrder : db.nextOrderID ≤ db'.nextOrderID
  nextRestock : db.nextRestockID ≤ db'.nextRestockID
  nextSupplier : db.nextSupplierID ≤ db'.nextSupplierID
  orders : ∀ {orderID row'}, db'.groceryOrders.lookup orderID = some row' → row'.id < db.nextOrderID →
    ∃ row, db.groceryOrders.lookup orderID = some row ∧ row'.id = row.id ∧
      row'.clientID = row.clientID ∧ row'.createdAt = row.createdAt ∧
      db'.itemRows row'.id = db.itemRows row.id ∧ (row' = row ∨ row'.status ≠ .pending)
  restocks : ∀ {orderID row}, db.restockOrders.lookup orderID = some row →
    ∃ row', db'.restockOrders.lookup orderID = some row' ∧ row'.id = row.id ∧
      row'.supplierID = row.supplierID ∧ row'.createdAt = row.createdAt ∧
      (row' = row ∨ row'.status = .completed)
  suppliers : ∀ {businessID id}, db.suppliers.lookup businessID = some id →
    db'.suppliers.lookup businessID = some id

theorem Continues.refl (db : OrderingDB) : Continues db db :=
  ⟨le_rfl, le_rfl, le_rfl, fun hrow _ => ⟨_, hrow, rfl, rfl, rfl, rfl, Or.inl rfl⟩,
    fun hrow => ⟨_, hrow, rfl, rfl, rfl, Or.inl rfl⟩, id⟩

theorem Continues.trans {db db' db'' : OrderingDB} (h : Continues db db') (h' : Continues db' db'') :
    Continues db db'' := by
  refine ⟨h.nextOrder.trans h'.nextOrder, h.nextRestock.trans h'.nextRestock,
    h.nextSupplier.trans h'.nextSupplier, ?_, ?_, fun hid => h'.suppliers (h.suppliers hid)⟩
  · intro orderID row'' hrow'' hold
    obtain ⟨row', hrow', hid', hclient', htime', hlines', hstatus'⟩ :=
      h'.orders hrow'' (hold.trans_le h.nextOrder)
    rw [hid'] at hold
    obtain ⟨row, hrow, hid, hclient, htime, hlines, hstatus⟩ := h.orders hrow' hold
    refine ⟨row, hrow, hid'.trans hid, hclient'.trans hclient, htime'.trans htime,
      hlines'.trans hlines, ?_⟩
    rcases hstatus' with rfl | hleft
    · exact hstatus
    · exact Or.inr hleft
  · intro orderID row hrow
    obtain ⟨row', hrow', hid, hsupplier, htime, hstatus⟩ := h.restocks hrow
    obtain ⟨row'', hrow'', hid', hsupplier', htime', hstatus'⟩ := h'.restocks hrow'
    refine ⟨row'', hrow'', hid'.trans hid, hsupplier'.trans hsupplier, htime'.trans htime, ?_⟩
    rcases hstatus' with rfl | hdone
    · exact hstatus
    · exact Or.inr hdone

end OrderingDB

/-! ### The statements -/

/-- The arguments of a statement are as the handlers give them. -/
def StoreOp.Proper (db : OrderingDB) : StoreOp → Prop
  | .createGroceryOrder _ items => ∃ reserved : ItemMap, reserved.entries ≠ [] ∧ items = orderLines reserved
  | .createRestockOrder order _ => ∃ businessID, db.suppliers.lookup businessID = some order.supplierID
  | .updateStatus _ status => status ≠ .pending
  | .updateOrderStatus _ status _ => status = .completed
  | .updateRestockStatus _ status _ => status = .completed
  | _ => True

/-- The records are whole, and go on from those of an earlier database. -/
structure OrderingDB.Grown (db db' : OrderingDB) : Prop where
  intact : db'.Intact
  continues : db.Continues db'

theorem OrderingDB.Grown.refl {db : OrderingDB} (hintact : db.Intact) : db.Grown db :=
  ⟨hintact, .refl db⟩

section

variable {db db' : OrderingDB} {now : Nat}

/-- An order with the entries of a map under a new id. -/
private theorem createGroceryOrder_grown (hintact : db.Intact) {order : GroceryOrder}
    {reserved : ItemMap} (hfilled : reserved.entries ≠ [])
    (hok : db.createGroceryOrder now order (orderLines reserved) = .ok db') : db.Grown db' := by
  have hnew := createGroceryOrder_new hok
  have hchange := createGroceryOrder_change hok
  rw [createGroceryOrder_orderLines now order reserved db hnew] at hok
  have hlines (id : Nat) : db'.itemRows id = db.itemRows id ++
      if id = db.nextOrderID then reserved.entries.map fun row => ⟨db.nextOrderID, row.1, row.2⟩ else [] := by
    rw [← Except.ok.inj hok, OrderingDB.itemRows, List.filter_append]
    congr 1
    split
    · rename_i hid
      rw [List.filter_eq_self]
      intro line hline
      obtain ⟨row, _, rfl⟩ := List.mem_map.mp hline
      exact decide_eq_true hid.symm
    · rename_i hid
      rw [List.filter_eq_nil_iff]
      intro line hline
      obtain ⟨row, _, rfl⟩ := List.mem_map.mp hline
      simpa using Ne.symm hid
  have hnone : db.itemRows db.nextOrderID = [] := by
    rw [OrderingDB.itemRows, List.filter_eq_nil_iff]
    intro line hline
    have hissued := hintact.orders.lines line hline
    simp only [decide_eq_true_eq]
    omega
  have hold {orderID : OrderID} {row : OrderRow} (hrow : db.groceryOrders.lookup orderID = some row) :
      db'.itemRows row.id = db.itemRows row.id := by
    have hissued := hintact.orders.issued hrow
    rw [hlines, if_neg (by omega), List.append_nil]
  have hrows {orderID : OrderID} {row : OrderRow} (hrow : db'.groceryOrders.lookup orderID = some row) :
      (orderID = order.orderID ∧ row = ⟨db.nextOrderID, order.clientID, .pending, 0, now⟩) ∨
        db.groceryOrders.lookup orderID = some row := by
    rw [← Except.ok.inj hok] at hrow
    rcases Table.lookup_insert_eq_some.mp hrow with hcreated | ⟨_, hbefore⟩
    · exact Or.inl hcreated
    · exact Or.inr hbefore
  constructor
  case continues =>
    rw [← Except.ok.inj hok]
    refine ⟨Nat.le_succ _, le_rfl, le_rfl, ?_, fun hrow => ⟨_, hrow, rfl, rfl, rfl, Or.inl rfl⟩, id⟩
    intro orderID row' hrow' hissued
    rw [Except.ok.inj hok] at hrow' ⊢
    rcases hrows hrow' with ⟨_, rfl⟩ | hbefore
    · exact absurd hissued (lt_irrefl _)
    · exact ⟨row', hbefore, rfl, rfl, rfl, hold hbefore, Or.inl rfl⟩
  constructor
  case orders => exact hchange.wellFormed hintact.orders
  case owned =>
    intro line hline
    rw [← Except.ok.inj hok] at hline ⊢
    rcases List.mem_append.mp hline with hbefore | hadded
    · obtain ⟨orderID, row, hrow, hid⟩ := hintact.owned line hbefore
      have hne : orderID ≠ order.orderID := by
        rintro rfl
        rw [hnew] at hrow
        cases hrow
      exact ⟨orderID, row, (AList.lookup_insert_ne hne).trans hrow, hid⟩
    · obtain ⟨row, _, rfl⟩ := List.mem_map.mp hadded
      exact ⟨order.orderID, _, AList.lookup_insert _, rfl⟩
  case filled =>
    intro orderID row hrow
    rcases hrows hrow with ⟨_, rfl⟩ | hbefore
    · rw [hlines, if_pos rfl, hnone, List.nil_append, ne_eq, List.map_eq_nil_iff]
      exact hfilled
    · rw [hold hbefore]
      exact hintact.filled hbefore
  case listed =>
    intro orderID row hrow
    rcases hrows hrow with ⟨_, rfl⟩ | hbefore
    · rw [hlines, if_pos rfl, hnone, List.nil_append]
      exact (@lists_entries OrderItemRow OrderItemRow.sku OrderItemRow.quantity reserved
        (fun row => ⟨db.nextOrderID, row.1, row.2⟩) (fun _ => rfl) fun _ => rfl).nodup
    · rw [hold hbefore]
      exact hintact.listed hbefore
  case unpriced =>
    intro orderID row hrow hpending
    rcases hrows hrow with ⟨_, rfl⟩ | hbefore
    · rfl
    · exact hintact.unpriced hbefore hpending
  case restocks => rw [← Except.ok.inj hok]; exact hintact.restocks
  case suppliers => rw [← Except.ok.inj hok]; exact hintact.suppliers
  case supplied => rw [← Except.ok.inj hok]; exact hintact.supplied

/-- A row that is rewritten, out of PENDING. -/
private theorem rewrite_grown (hintact : db.Intact) {orderID : OrderID} {row row' : OrderRow}
    (hrow : db.groceryOrders.lookup orderID = some row) (hid : row'.id = row.id)
    (hclient : row'.clientID = row.clientID) (htime : row'.createdAt = row.createdAt)
    (hstatus : row'.status ≠ .pending) :
    db.Grown { db with groceryOrders := db.groceryOrders.insert orderID row' } := by
  have hrows {other : OrderID} {found : OrderRow}
      (hfound : (db.groceryOrders.insert orderID row').lookup other = some found) :
      ∃ before, db.groceryOrders.lookup other = some before ∧ found.id = before.id ∧
        found.clientID = before.clientID ∧ found.createdAt = before.createdAt ∧
        (found = before ∨ found.status ≠ .pending) := by
    rcases Table.lookup_insert_eq_some.mp hfound with ⟨rfl, rfl⟩ | ⟨_, hbefore⟩
    · exact ⟨row, hrow, hid, hclient, htime, Or.inr hstatus⟩
    · exact ⟨found, hbefore, rfl, rfl, rfl, Or.inl rfl⟩
  constructor
  case continues =>
    refine ⟨le_rfl, le_rfl, le_rfl, ?_, fun hfound => ⟨_, hfound, rfl, rfl, rfl, Or.inl rfl⟩, id⟩
    intro other found hfound _
    obtain ⟨before, hbefore, hid, hclient, htime, hstatus⟩ := hrows hfound
    exact ⟨before, hbefore, hid, hclient, htime, by rw [hid]; rfl, hstatus⟩
  constructor
  case orders => exact (OrderingDB.sameOrders_insert hrow row' hid hclient).wellFormed hintact.orders
  case owned =>
    intro line hline
    obtain ⟨other, before, hbefore, hline⟩ := hintact.owned line hline
    by_cases heq : other = orderID
    · subst heq
      obtain rfl := Option.some.inj (hrow.symm.trans hbefore)
      exact ⟨other, row', AList.lookup_insert _, hid.trans hline⟩
    · exact ⟨other, before, (AList.lookup_insert_ne heq).trans hbefore, hline⟩
  case filled =>
    intro other found hfound
    obtain ⟨before, hbefore, hid, _⟩ := hrows hfound
    rw [hid]
    exact hintact.filled hbefore
  case listed =>
    intro other found hfound
    obtain ⟨before, hbefore, hid, _⟩ := hrows hfound
    rw [hid]
    exact hintact.listed hbefore
  case unpriced =>
    intro other found hfound hpending
    obtain ⟨before, hbefore, _, _, _, rfl | hleft⟩ := hrows hfound
    · exact hintact.unpriced hbefore hpending
    · exact absurd hpending hleft
  case restocks => exact hintact.restocks
  case suppliers => exact hintact.suppliers
  case supplied => exact hintact.supplied

/-- An order that is deleted takes its lines with it. -/
private theorem deleteOrder_grown (hintact : db.Intact) {orderID : OrderID}
    (hok : db.deleteOrder orderID = .ok db') : db.Grown db' := by
  have hchange := deleteOrder_change hok
  unfold OrderingDB.deleteOrder at hok
  split at hok
  · cases hok
  rename_i gone hgone
  cases hok
  have hrows {other : OrderID} {row : OrderRow}
      (hrow : (db.groceryOrders.erase orderID).lookup other = some row) :
      db.groceryOrders.lookup other = some row ∧ row.id ≠ gone.id := by
    obtain ⟨hne, hbefore⟩ := Table.lookup_erase_eq_some.mp hrow
    exact ⟨hbefore, fun hid => hne (hintact.orders.distinct hbefore hgone hid)⟩
  have hlines {id : Nat} (hid : id ≠ gone.id) :
      OrderingDB.itemRows { db with
        groceryOrders := db.groceryOrders.erase orderID
        groceryOrderItems := db.groceryOrderItems.filter fun line => line.orderID ≠ gone.id } id =
      db.itemRows id := by
    unfold OrderingDB.itemRows
    rw [List.filter_filter]
    apply List.filter_congr
    intro line _
    by_cases hline : line.orderID = id
    · simp [hline, hid]
    · simp [hline]
  constructor
  case continues =>
    refine ⟨le_rfl, le_rfl, le_rfl, ?_, fun hrow => ⟨_, hrow, rfl, rfl, rfl, Or.inl rfl⟩, id⟩
    intro other row hrow _
    obtain ⟨hbefore, hid⟩ := hrows hrow
    exact ⟨row, hbefore, rfl, rfl, rfl, hlines hid, Or.inl rfl⟩
  constructor
  case orders => exact hchange.wellFormed hintact.orders
  case owned =>
    intro line hline
    obtain ⟨hline, hkept⟩ := List.mem_filter.mp hline
    obtain ⟨other, row, hrow, hid⟩ := hintact.owned line hline
    have hne : other ≠ orderID := by
      rintro rfl
      obtain rfl := Option.some.inj (hgone.symm.trans hrow)
      simp [hid] at hkept
    exact ⟨other, row, (AList.lookup_erase_ne hne).trans hrow, hid⟩
  case filled =>
    intro other row hrow
    obtain ⟨hbefore, hid⟩ := hrows hrow
    rw [hlines hid]
    exact hintact.filled hbefore
  case listed =>
    intro other row hrow
    obtain ⟨hbefore, hid⟩ := hrows hrow
    rw [hlines hid]
    exact hintact.listed hbefore
  case unpriced => exact fun hrow => hintact.unpriced (hrows hrow).1
  case restocks => exact hintact.restocks
  case suppliers => exact hintact.suppliers
  case supplied => exact hintact.supplied

/-- The client orders stay as they are. -/
private theorem Intact.of_sameTables (hintact : db.Intact) (hsame : db.SameTables db')
    (hrestocks : db'.restockOrders.Serial RestockRow.id db'.nextRestockID)
    (hsuppliers : db'.suppliers.Serial (fun id => id) db'.nextSupplierID)
    (hsupplied : ∀ {orderID row}, db'.restockOrders.lookup orderID = some row →
      ∃ businessID, db'.suppliers.lookup businessID = some row.supplierID) : db'.Intact := by
  obtain ⟨horders, hitems, hnext⟩ := hsame
  have hlines (id : Nat) : db'.itemRows id = db.itemRows id := by
    rw [OrderingDB.itemRows, hitems]
    rfl
  refine ⟨⟨?_, ?_, ?_⟩, ?_, ?_, ?_, ?_, hrestocks, hsuppliers, hsupplied⟩
  · rw [horders, hnext]
    exact hintact.orders.issued
  · rw [horders]
    exact hintact.orders.distinct
  · rw [hitems, hnext]
    exact hintact.orders.lines
  · rw [hitems, horders]
    exact hintact.owned
  · intro orderID row hrow
    rw [hlines]
    exact hintact.filled (horders ▸ hrow)
  · intro orderID row hrow
    rw [hlines]
    exact hintact.listed (horders ▸ hrow)
  · rw [horders]
    exact hintact.unpriced

/-- Client orders that stay as they are go on. -/
private theorem Continues.of_sameTables (hsame : db.SameTables db')
    (hnextRestock : db.nextRestockID ≤ db'.nextRestockID)
    (hnextSupplier : db.nextSupplierID ≤ db'.nextSupplierID)
    (hrestocks : ∀ {orderID row}, db.restockOrders.lookup orderID = some row →
      ∃ row', db'.restockOrders.lookup orderID = some row' ∧ row'.id = row.id ∧
        row'.supplierID = row.supplierID ∧ row'.createdAt = row.createdAt ∧
        (row' = row ∨ row'.status = .completed))
    (hsuppliers : ∀ {businessID id}, db.suppliers.lookup businessID = some id →
      db'.suppliers.lookup businessID = some id) : db.Continues db' := by
  obtain ⟨horders, hitems, hnext⟩ := hsame
  refine ⟨hnext.ge, hnextRestock, hnextSupplier, ?_, hrestocks, hsuppliers⟩
  intro orderID row' hrow' _
  rw [horders] at hrow'
  exact ⟨row', hrow', rfl, rfl, rfl, by rw [OrderingDB.itemRows, hitems]; rfl, Or.inl rfl⟩

/-- A supplier is found or gets the next id. -/
private theorem getSupplierInternalID_grown (hintact : db.Intact) (businessID : String) :
    db.Grown (db.getSupplierInternalID businessID).2 := by
  have hkept {other : String} {id : Nat} (hid : db.suppliers.lookup other = some id) :
      (db.getSupplierInternalID businessID).2.suppliers.lookup other = some id := by
    by_cases heq : other = businessID
    · subst heq
      simp [OrderingDB.getSupplierInternalID, hid]
    · exact (AList.lookup_insert_ne heq).trans hid
  constructor
  · refine Intact.of_sameTables hintact ⟨rfl, rfl, rfl⟩ hintact.restocks ?_ ?_
    · refine hintact.suppliers.upsert ?_
      rw [Option.map_id']
    · intro orderID row hrow
      obtain ⟨supplier, hsupplier⟩ := hintact.supplied hrow
      exact ⟨supplier, hkept hsupplier⟩
  · exact Continues.of_sameTables ⟨rfl, rfl, rfl⟩ le_rfl (Nat.le_succ _)
      (fun hrow => ⟨_, hrow, rfl, rfl, rfl, Or.inl rfl⟩) hkept

/-- A restock order of a known supplier. -/
private theorem createRestockOrder_grown (hintact : db.Intact) {order : RestockOrder}
    {items : List RestockOrderItem} {businessID : String}
    (hsupplier : db.suppliers.lookup businessID = some order.supplierID)
    (hok : db.createRestockOrder now order items = .ok db') : db.Grown db' := by
  unfold OrderingDB.createRestockOrder at hok
  split at hok
  · cases hok
  · cases hok
  rename_i totalCost hnew _
  obtain ⟨_, _, hok⟩ := bind_eq_ok hok
  cases hok
  constructor
  · refine Intact.of_sameTables hintact ⟨rfl, rfl, rfl⟩ (hintact.restocks.insert_new rfl)
      hintact.suppliers ?_
    intro orderID row hrow
    rcases Table.lookup_insert_eq_some.mp hrow with ⟨_, rfl⟩ | ⟨_, hbefore⟩
    · exact ⟨businessID, hsupplier⟩
    · exact hintact.supplied hbefore
  · refine Continues.of_sameTables ⟨rfl, rfl, rfl⟩ (Nat.le_succ _) le_rfl ?_ id
    intro orderID row hrow
    have hne : orderID ≠ order.orderID := by
      rintro rfl
      rw [hnew] at hrow
      cases hrow
    exact ⟨row, (AList.lookup_insert_ne hne).trans hrow, rfl, rfl, rfl, Or.inl rfl⟩

/-- A restock order that is completed. -/
private theorem updateRestockStatus_grown (hintact : db.Intact) {orderID : OrderID} {totalCost : ℚ}
    (hok : db.updateRestockStatus orderID .completed totalCost = .ok db') : db.Grown db' := by
  unfold OrderingDB.updateRestockStatus at hok
  split at hok
  · cases hok
  rename_i row hrow
  split at hok
  · cases hok
  cases hok
  constructor
  · refine Intact.of_sameTables hintact ⟨rfl, rfl, rfl⟩ ?_ hintact.suppliers ?_
    · exact hintact.restocks.insert_old hrow rfl
    · intro other found hfound
      rcases Table.lookup_insert_eq_some.mp hfound with ⟨_, rfl⟩ | ⟨_, hbefore⟩
      · obtain ⟨businessID, hsupplier⟩ := hintact.supplied hrow
        exact ⟨businessID, hsupplier⟩
      · exact hintact.supplied hbefore
  · refine Continues.of_sameTables ⟨rfl, rfl, rfl⟩ le_rfl le_rfl ?_ id
    intro other found hfound
    by_cases heq : other = orderID
    · subst heq
      obtain rfl := Option.some.inj (hrow.symm.trans hfound)
      exact ⟨_, AList.lookup_insert _, rfl, rfl, rfl, Or.inr rfl⟩
    · exact ⟨found, (AList.lookup_insert_ne heq).trans hfound, rfl, rfl, rfl, Or.inl rfl⟩

/-- What holds before a statement and after each success of it holds under any fault. -/
theorem commit_keeps {P : OrderingDB → Prop} (fault : Fault) (context : String)
    {result : OrderingDB → Except GoError OrderingDB} (hbefore : P db)
    (hresult : ∀ db', result db = .ok db' → P db') : P (fault.run context (commit result) db).2 := by
  rcases (run_commit fault context result db).2 with hsame | hok
  · rw [hsame]
    exact hbefore
  · exact hresult _ hok

theorem run_keeps {α : Type} {P : OrderingDB → Prop} (fault : Fault) (context : String)
    {effect : OrderingDB → Except GoError α × OrderingDB} (hbefore : P db) (hafter : P (effect db).2) :
    P (fault.run context effect db).2 := by
  rcases fault.run_state context effect db with hsame | hstate
  · rw [hsame]
    exact hbefore
  · rw [hstate]
    exact hafter

/-- **A statement leaves whole records that go on from those it found**, whatever fault
it meets. -/
theorem storeExec_grown (now : Nat) (fault : Fault) {op : StoreOp} (hintact : db.Intact)
    (hproper : op.Proper db) : db.Grown (storeExec now fault op db).2 := by
  have hrefl := OrderingDB.Grown.refl hintact
  cases op with
  | createGroceryOrder order items =>
      obtain ⟨reserved, hfilled, rfl⟩ := hproper
      exact commit_keeps fault _ hrefl fun _ hok => createGroceryOrder_grown hintact hfilled hok
  | getOrderByID orderID => exact run_keeps fault _ hrefl hrefl
  | getOrderItems orderID => exact run_keeps fault _ hrefl hrefl
  | updateStatus orderID status =>
      refine run_keeps fault _ hrefl ?_
      unfold OrderingDB.updateStatus
      split
      · exact hrefl
      · rename_i row hrow
        exact rewrite_grown hintact hrow rfl rfl rfl hproper
  | updateOrderStatus orderID status totalPrice =>
      refine commit_keeps fault _ hrefl fun db' hok => ?_
      unfold OrderingDB.updateOrderStatus at hok
      split at hok
      · cases hok
      rename_i row hrow
      split at hok
      · cases hok
      cases hok
      refine rewrite_grown hintact hrow rfl rfl rfl ?_
      rw [show status = .completed from hproper]
      exact fun h => by cases h
  | deleteOrder orderID => exact commit_keeps fault _ hrefl fun _ hok => deleteOrder_grown hintact hok
  | getSupplierInternalID businessID =>
      exact run_keeps fault _ hrefl (getSupplierInternalID_grown hintact businessID)
  | createRestockOrder order items =>
      obtain ⟨businessID, hsupplier⟩ := hproper
      exact commit_keeps fault _ hrefl fun _ hok => createRestockOrder_grown hintact hsupplier hok
  | updateRestockStatus orderID status totalCost =>
      obtain rfl : status = .completed := hproper
      exact commit_keeps fault _ hrefl fun _ hok => updateRestockStatus_grown hintact hok

end

end AutoGrocery

import AutoGrocery.Ordering.Handlers
import AutoGrocery.Relational.Overwrite

/-!
The lines of an order, and the item maps the handlers of ordering make of them.
When no SKU stands in two lines the map holds exactly the units of the lines.
-/

namespace AutoGrocery

/-- The units of a SKU in a list of lines. -/
def lineUnits (rows : List OrderItemRow) (sku : SKU) : Int :=
  (rows.map fun row => if row.sku = sku then row.quantity.toInt else 0).sum

theorem lineUnits_nonneg {rows : List OrderItemRow} (hrows : ∀ row ∈ rows, 0 ≤ row.quantity.toInt)
    (sku : SKU) : 0 ≤ lineUnits rows sku := by
  apply List.sum_nonneg
  intro units hunits
  obtain ⟨row, hrow, rfl⟩ := List.mem_map.mp hunits
  split
  · exact hrows row hrow
  · exact le_refl 0

theorem mem_of_lineUnits {rows : List OrderItemRow} {sku : SKU} (h : lineUnits rows sku ≠ 0) :
    ∃ row ∈ rows, row.sku = sku ∧ row.quantity.toInt ≠ 0 := by
  by_contra hnone
  apply h
  apply List.sum_eq_zero
  intro units hunits
  obtain ⟨row, hrow, rfl⟩ := List.mem_map.mp hunits
  by_cases hsku : row.sku = sku
  · rw [if_pos hsku]
    by_contra hquantity
    exact hnone ⟨row, hrow, hsku, hquantity⟩
  · exact if_neg hsku

/-- The answer of `GetOrderItems` for these rows. -/
def orderItems (rows : List OrderItemRow) : List GroceryOrderItem :=
  rows.map fun row => ⟨row.sku, row.quantity.toInt⟩

theorem getOrderItems_of_lookup {db : OrderingDB} {orderID : OrderID} {row : OrderRow}
    (hrow : db.groceryOrders.lookup orderID = some row) :
    db.getOrderItems orderID = .ok (orderItems (db.itemRows row.id)) := by
  rw [OrderingDB.getOrderItems, hrow]
  rfl

/-- A map built from rows in order holds the last quantity of each SKU. -/
theorem ItemMap.units_foldl {A : Type} (sku : A → SKU) (quantity : A → Int32) (rows : List A)
    (s : SKU) :
    ItemMap.units (rows.foldl (fun (m : ItemMap) row => m.insert (sku row) (quantity row)) ∅) s =
      Relational.lastWeight sku (fun row => (quantity row).toInt) rows s := by
  have hlookup := Relational.Table.lookup_foldl sku quantity rows s
  rw [ItemMap.units, ItemMap.at, hlookup, Relational.lastWeight]
  cases Relational.lastRow sku rows s <;> rfl

private theorem protoItems_foldl (rows : List OrderItemRow) :
    protoItems (orderItems rows) = rows.foldl (fun (protoItems : ItemMap) row =>
      protoItems.insert row.sku row.quantity) ∅ := by
  rw [protoItems, orderItems, List.foldl_map]
  simp only [Int32.ofInt_toInt]

/-- The map confirm and cancel make of an order's lines. -/
theorem protoItems_units {rows : List OrderItemRow} (hnodup : (rows.map OrderItemRow.sku).Nodup)
    (sku : SKU) : (protoItems (orderItems rows)).units sku = lineUnits rows sku := by
  rw [protoItems_foldl, ItemMap.units_foldl]
  exact (Relational.keyTotal_eq_lastWeight_of_nodup hnodup sku).symm

/-- The rows a preview stores for a reserved map: every quantity fits. -/
theorem insertItems_orderLines (dbID : Nat) (items : ItemMap) (rows : List OrderItemRow) :
    OrderingDB.insertItems dbID (orderLines items) rows =
      .ok (rows ++ items.entries.map fun row => ⟨dbID, row.1, row.2⟩) := by
  unfold orderLines
  induction items.entries generalizing rows with
  | nil => simp [OrderingDB.insertItems]
  | cons row rest ih => simp [OrderingDB.insertItems, int4_of_toInt, ih]

/-- An order that was created was not there before. -/
theorem createGroceryOrder_new {now : Nat} {order : GroceryOrder} {items : List GroceryOrderItem}
    {db db' : OrderingDB} (hok : db.createGroceryOrder now order items = .ok db') :
    db.groceryOrders.lookup order.orderID = none := by
  cases hrow : db.groceryOrders.lookup order.orderID with
  | none => rfl
  | some row => simp [OrderingDB.createGroceryOrder, hrow] at hok

/-- A preview's order is stored unless its id is taken. -/
theorem createGroceryOrder_orderLines (now : Nat) (order : GroceryOrder) (items : ItemMap)
    (db : OrderingDB) (hnew : db.groceryOrders.lookup order.orderID = none) :
    db.createGroceryOrder now order (orderLines items) = .ok
      { db with
        groceryOrders := db.groceryOrders.insert order.orderID
          ⟨db.nextOrderID, order.clientID, .pending, 0, now⟩
        groceryOrderItems := db.groceryOrderItems ++
          items.entries.map fun row => ⟨db.nextOrderID, row.1, row.2⟩
        nextOrderID := db.nextOrderID + 1 } := by
  rw [OrderingDB.createGroceryOrder, hnew]
  simp only [insertItems_orderLines]
  rfl

/-! ### Lists of the same items -/

/-- Two maps hold the same quantities. -/
def ItemMap.Same (m m' : ItemMap) : Prop := ∀ sku, m.lookup sku = m'.lookup sku

/-- A list has every SKU of a map in one row, with its quantity, and no others. -/
structure Lists {A : Type} (sku : A → SKU) (quantity : A → Int32) (rows : List A) (items : ItemMap) :
    Prop where
  nodup : (rows.map sku).Nodup
  lookup : ∀ s q, items.lookup s = some q ↔ ∃ row ∈ rows, sku row = s ∧ quantity row = q

section

variable {A : Type} {sku : A → SKU} {quantity : A → Int32} {items items' : ItemMap}

theorem Lists.same {rows : List A} (hlists : Lists sku quantity rows items)
    (hsame : items.Same items') : Lists sku quantity rows items' := by
  refine ⟨hlists.nodup, fun s q => ?_⟩
  rw [← hsame s]
  exact hlists.lookup s q

/-- The entries of a map, in any other shape. -/
theorem lists_entries (row : (Sigma fun _ : SKU => Int32) → A) (hsku : ∀ entry, sku (row entry) = entry.1)
    (hquantity : ∀ entry, quantity (row entry) = entry.2) :
    Lists sku quantity (items.entries.map row) items := by
  constructor
  · have hkeys : (items.entries.map row).map sku = items.entries.map Sigma.fst := by
      rw [List.map_map]
      exact List.map_congr_left fun entry _ => hsku entry
    rw [hkeys]
    exact items.nodupKeys
  · intro s q
    constructor
    · intro hlookup
      exact ⟨row ⟨s, q⟩, List.mem_map_of_mem (AList.mem_lookup_iff.mp hlookup), hsku _, hquantity _⟩
    · rintro ⟨_, hrow, rfl, rfl⟩
      obtain ⟨entry, hentry, rfl⟩ := List.mem_map.mp hrow
      rw [hsku, hquantity]
      exact AList.mem_lookup_iff.mpr hentry

/-- The units of a SKU in rows that list a map. -/
theorem Lists.units {rows : List A} (hlists : Lists sku quantity rows items) (s : SKU) :
    (rows.map fun row => if sku row = s then (quantity row).toInt else 0).sum = items.units s := by
  cases hlookup : items.lookup s with
  | none =>
      rw [ItemMap.units_of_lookup_none hlookup]
      apply Relational.keyTotal_of_notMem
      intro hmem
      obtain ⟨row, hrow, hsku⟩ := List.mem_map.mp hmem
      rw [(hlists.lookup s (quantity row)).mpr ⟨row, hrow, hsku, rfl⟩] at hlookup
      cases hlookup
  | some q =>
      obtain ⟨row, hrow, rfl, rfl⟩ := (hlists.lookup s q).mp hlookup
      rw [ItemMap.units_of_lookup hlookup]
      exact Relational.keyTotal_of_mem hlists.nodup hrow

/-- The map that confirm and cancel make of lines that list a map. -/
theorem Lists.protoItems {rows : List OrderItemRow}
    (hlists : Lists OrderItemRow.sku OrderItemRow.quantity rows items) :
    (protoItems (orderItems rows)).Same items := by
  intro s
  rw [protoItems_foldl]
  apply Option.ext
  intro q
  rw [hlists.lookup s q]
  constructor
  · intro hfound
    rcases Relational.Table.mem_of_lookup_foldl OrderItemRow.sku OrderItemRow.quantity rows ∅ hfound
      with hrow | hnone
    · exact hrow
    · cases hnone
  · rintro ⟨row, hrow, rfl, rfl⟩
    exact Relational.Table.lookup_foldl_of_mem OrderItemRow.sku OrderItemRow.quantity hlists.nodup ∅ hrow

end

namespace OrderingDB

/-- The units of a SKU an existing order lists. -/
def ordered (db : OrderingDB) (orderID : OrderID) (sku : SKU) : Int :=
  ((db.groceryOrders.lookup orderID).map fun row => lineUnits (db.itemRows row.id) sku).getD 0

theorem ordered_of_lookup {db : OrderingDB} {orderID : OrderID} {row : OrderRow}
    (hrow : db.groceryOrders.lookup orderID = some row) (sku : SKU) :
    db.ordered orderID sku = lineUnits (db.itemRows row.id) sku := by
  simp [ordered, hrow]

end OrderingDB

end AutoGrocery

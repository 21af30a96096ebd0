import AutoGrocery.Data

/-!
The `available_stock` table and the statements of `internal/store/stock.go`.
Each function is one SQL statement, so it either takes effect as a whole or
fails and leaves the table alone. Connection failures are not decided here.
The columns `id` and `last_updated` decide nothing and are left out.
-/

namespace AutoGrocery

open Relational

structure StockRow where
  name : String
  aisleType : String
  quantity : Int32
  unitCost : ℚ
  mfdDate : Timestamp
  expiryDate : Timestamp

/-- `available_stock`, with its unique `sku` column as the key. -/
abbrev StockTable := Table SKU StockRow

structure StockItem where
  sku : SKU
  name : String
  aisleType : String
  quantity : Int32
  unitCost : ℚ
  mfdDate : Timestamp
  expiryDate : Timestamp

/-- The rows a sweep updates: `expiry_date < NOW() AND quantity > 0`. -/
def StockRow.expired (now : Timestamp) (row : StockRow) : Bool :=
  row.expiryDate < now ∧ 0 < row.quantity.toInt

namespace StockTable

/-- The quantity on the row of a SKU, zero when there is no row. -/
def available (stock : StockTable) (sku : SKU) : Int :=
  ((stock.lookup sku).map fun row => row.quantity.toInt).getD 0

theorem available_of_lookup {stock : StockTable} {sku : SKU} {row : StockRow}
    (h : stock.lookup sku = some row) : stock.available sku = row.quantity.toInt := by
  simp [available, h]

theorem available_of_lookup_none {stock : StockTable} {sku : SKU}
    (h : stock.lookup sku = none) : stock.available sku = 0 := by
  simp [available, h]

theorem available_range (stock : StockTable) (sku : SKU) :
    -2 ^ 31 ≤ stock.available sku ∧ stock.available sku < 2 ^ 31 := by
  cases hrow : stock.lookup sku with
  | none => rw [available_of_lookup_none hrow]; omega
  | some row =>
      rw [available_of_lookup hrow]
      exact ⟨Int32.le_toInt row.quantity, Int32.toInt_lt row.quantity⟩

theorem available_insert (stock : StockTable) (sku : SKU) (row : StockRow) (other : SKU) :
    available (stock.insert sku row) other =
      if other = sku then row.quantity.toInt else available stock other := by
  by_cases h : other = sku
  · subst h
    simp [available]
  · simp [available, h]

/-- `GetBatchItems`: the rows with `sku = ANY(skus)`. -/
def getBatchItems (stock : StockTable) (skus : List SKU) : GoMap StockRow :=
  stock.selectRows fun sku row => if sku ∈ skus then some row else none

/-- SQL's `LEAST`. -/
def least (a b : Int32) : Int32 := if a.toInt ≤ b.toInt then a else b

@[simp] theorem toInt_least (a b : Int32) : (least a b).toInt = min a.toInt b.toInt := by
  unfold least
  split <;> omega

/-- `LEAST(old_qty, req_count)` for a row of the join `locked_rows`, which
holds the requested rows with a positive quantity. -/
def actualTaken (requests : ItemMap) (sku : SKU) (row : StockRow) : Option Int32 :=
  if 0 < row.quantity.toInt then (requests.lookup sku).map (least row.quantity) else none

/-- The `UPDATE` of `ReserveStock` on one row. -/
def reserveRow (requests : ItemMap) (sku : SKU) (row : StockRow) : Except GoError StockRow :=
  match actualTaken requests sku row with
  | none => .ok row
  | some taken => do
      let quantity ← int4 (row.quantity.toInt - taken.toInt)
      return { row with quantity }

/-- `ReserveStock`: take what is there, up to the requested count of each SKU,
and return what was taken. -/
def reserveStock (stock : StockTable) (requests : ItemMap) :
    Except GoError (ItemMap × StockTable) :=
  match stock.updateRows (reserveRow requests) with
  | .error err => .error (err.wrap "failed to reserve stock: ")
  | .ok stock' => .ok (stock.selectRows (actualTaken requests), stock')

/-- The `UPDATE` of `ReleaseStock` on one row. -/
def releaseRow (returns : ItemMap) (sku : SKU) (row : StockRow) : Except GoError StockRow :=
  match returns.lookup sku with
  | none => .ok row
  | some count => do
      let quantity ← int4 (row.quantity.toInt + count.toInt)
      return { row with quantity }

/-- `ReleaseStock`: add the listed counts to the rows that exist. -/
def releaseStock (stock : StockTable) (returns : ItemMap) : Except GoError StockTable :=
  match stock.updateRows (releaseRow returns) with
  | .error err => .error (err.wrap "failed to release stock: ")
  | .ok stock' => .ok stock'

/-- The statement of `UpsertStock`. On a conflict the aisle and both dates of
the old row stay. -/
def upsertRow (stock : StockTable) (item : StockItem) : Except GoError StockRow := do
  let unitCost ← numeric item.unitCost
  match stock.lookup item.sku with
  | none =>
      return ⟨item.name, item.aisleType, item.quantity, unitCost, item.mfdDate, item.expiryDate⟩
  | some row =>
      let quantity ← int4 (row.quantity.toInt + item.quantity.toInt)
      return { row with quantity, unitCost, name := item.name }

/-- `UpsertStock`: insert a row or add to the quantity of the old one. -/
def upsertStock (stock : StockTable) (item : StockItem) : Except GoError StockTable :=
  match upsertRow stock item with
  | .error err => .error (err.wrap "failed to upsert stock: ")
  | .ok row => .ok (stock.insert item.sku row)

/-- `ClearExpiredStock` at a time: the number of rows it updates, and the table. -/
def clearExpiredStock (now : Timestamp) (stock : StockTable) : Nat × StockTable :=
  ((stock.entries.filter fun row => row.2.expired now).length,
    stock.selectRows fun _ row => some (if row.expired now then { row with quantity := 0 } else row))

/-! ### What the statements do to the quantities -/

/-- The units `ReserveStock` takes from one SKU. -/
def takes (stock : StockTable) (requests : ItemMap) (sku : SKU) : Int :=
  if 0 < available stock sku ∧ sku ∈ requests then
    min (available stock sku) (requests.units sku)
  else 0

theorem takes_nonneg {requests : ItemMap} (hpos : requests.Positive) (stock : StockTable) (sku : SKU) :
    0 ≤ takes stock requests sku := by
  have hunits := hpos.units_nonneg sku
  unfold takes
  split
  · rename_i h
    exact le_min h.1.le hunits
  · exact le_refl 0

private theorem actualTaken_spec {stock : StockTable} {requests : ItemMap} {sku : SKU}
    {row : StockRow} (hrow : stock.lookup sku = some row) :
    ((actualTaken requests sku row).map Int32.toInt).getD 0 = takes stock requests sku := by
  have havail := available_of_lookup hrow
  unfold actualTaken takes
  rw [havail]
  cases hreq : requests.lookup sku with
  | none =>
      have hnot : sku ∉ requests := AList.lookup_eq_none.mp hreq
      simp [hnot]
  | some count =>
      have hmem : sku ∈ requests := AList.lookup_isSome.mp (by rw [hreq]; rfl)
      rw [ItemMap.units_of_lookup hreq]
      by_cases hpos : 0 < row.quantity.toInt <;> simp [hpos, hmem]

/-- What a successful `ReserveStock` returns and writes: it reports exactly
the units it took, takes exactly what it reports, and adds or drops no row. -/
theorem reserveStock_ok {stock stock' : StockTable} {requests reserved : ItemMap}
    (hok : reserveStock stock requests = .ok (reserved, stock')) :
    (∀ sku, reserved.units sku = takes stock requests sku) ∧
    (∀ sku, available stock' sku = available stock sku - takes stock requests sku) ∧
    (∀ sku, sku ∈ stock' ↔ sku ∈ stock) := by
  unfold reserveStock at hok
  split at hok
  · cases hok
  · rename_i updated hupdate
    cases hok
    have hreserved : ∀ sku, ItemMap.units (stock.selectRows (actualTaken requests)) sku =
        takes stock requests sku := by
      intro sku
      cases hrow : stock.lookup sku with
      | none =>
          rw [ItemMap.units_of_lookup_none (by simp [hrow])]
          simp [takes, available_of_lookup_none hrow]
      | some row =>
          rw [← actualTaken_spec hrow]
          cases htaken : actualTaken requests sku row with
          | none => rw [ItemMap.units_of_lookup_none (by simp [hrow, htaken])]; rfl
          | some taken =>
              have hlookup : (stock.selectRows (actualTaken requests)).lookup sku = some taken := by
                simp [hrow, htaken]
              rw [ItemMap.units_of_lookup hlookup]
              rfl
    refine ⟨hreserved, ?_, ?_⟩
    · intro sku
      rcases Table.lookup_updateRows hupdate sku with ⟨hnew, hold⟩ | ⟨row, row', hold, hset, hnew⟩
      · simp [takes, available_of_lookup_none hnew, available_of_lookup_none hold]
      · rw [available_of_lookup hnew, available_of_lookup hold, ← actualTaken_spec hold]
        unfold reserveRow at hset
        cases htaken : actualTaken requests sku row with
        | none =>
            simp only [htaken, Except.ok.injEq] at hset
            simp [hset]
        | some taken =>
            simp only [htaken] at hset
            obtain ⟨quantity, hquantity, hrow'⟩ := bind_eq_ok hset
            cases hrow'
            simpa using int4_toInt hquantity
    · intro sku
      rcases Table.lookup_updateRows hupdate sku with ⟨hnew, hold⟩ | ⟨row, row', hold, _, hnew⟩
      · simp [AList.lookup_eq_none.mp hnew, AList.lookup_eq_none.mp hold]
      · simp [← AList.lookup_isSome, hnew, hold]

/-- What a successful `ReleaseStock` writes. A SKU without a row gets nothing. -/
theorem releaseStock_ok {stock stock' : StockTable} {returns : ItemMap}
    (hok : releaseStock stock returns = .ok stock') :
    (∀ sku, available stock' sku =
      available stock sku + if sku ∈ stock then returns.units sku else 0) ∧
    (∀ sku, sku ∈ stock' ↔ sku ∈ stock) := by
  unfold releaseStock at hok
  split at hok
  · cases hok
  · rename_i updated hupdate
    cases hok
    constructor
    · intro sku
      rcases Table.lookup_updateRows hupdate sku with ⟨hnew, hold⟩ | ⟨row, row', hold, hset, hnew⟩
      · simp [AList.lookup_eq_none.mp hold, available_of_lookup_none hnew,
          available_of_lookup_none hold]
      · have hmem : sku ∈ stock := AList.lookup_isSome.mp (by rw [hold]; rfl)
        rw [available_of_lookup hnew, available_of_lookup hold, if_pos hmem]
        unfold releaseRow at hset
        cases hcount : returns.lookup sku with
        | none =>
            simp only [hcount, Except.ok.injEq] at hset
            simp [hset, ItemMap.units_of_lookup_none hcount]
        | some count =>
            simp only [hcount] at hset
            rw [ItemMap.units_of_lookup hcount]
            obtain ⟨quantity, hquantity, hrow'⟩ := bind_eq_ok hset
            cases hrow'
            exact int4_toInt hquantity
    · intro sku
      rcases Table.lookup_updateRows hupdate sku with ⟨hnew, hold⟩ | ⟨row, row', hold, _, hnew⟩
      · simp [AList.lookup_eq_none.mp hnew, AList.lookup_eq_none.mp hold]
      · simp [← AList.lookup_isSome, hnew, hold]

/-- What a successful `UpsertStock` writes. -/
theorem upsertStock_ok {stock stock' : StockTable} {item : StockItem}
    (hok : upsertStock stock item = .ok stock') :
    (∀ sku, available stock' sku =
      available stock sku + if sku = item.sku then item.quantity.toInt else 0) ∧
    (∀ sku, sku ∈ stock' ↔ sku = item.sku ∨ sku ∈ stock) := by
  unfold upsertStock at hok
  split at hok
  · cases hok
  · rename_i row hrow
    cases hok
    refine ⟨?_, fun sku => by simp⟩
    intro sku
    rw [available_insert]
    by_cases hsku : sku = item.sku
    · subst hsku
      rw [if_pos rfl, if_pos rfl]
      unfold upsertRow at hrow
      obtain ⟨unitCost, _, hset⟩ := bind_eq_ok hrow
      cases hold : stock.lookup item.sku with
      | none =>
          rw [hold] at hset
          cases hset
          simp [available_of_lookup_none hold]
      | some old =>
          rw [hold] at hset
          obtain ⟨quantity, hquantity, hrow'⟩ := bind_eq_ok hset
          cases hrow'
          rw [available_of_lookup hold]
          exact int4_toInt hquantity
    · simp [hsku]

/-- A successful `UpsertStock` writes one row. A cost in whole cents is stored as
it is. -/
theorem upsertStock_insert {stock stock' : StockTable} {item : StockItem}
    (hok : upsertStock stock item = .ok stock') :
    ∃ row, stock' = stock.insert item.sku row ∧
      ∀ cents : ℤ, item.unitCost = cents / 100 → row.unitCost = item.unitCost := by
  unfold upsertStock at hok
  split at hok
  · cases hok
  rename_i row hrow
  cases hok
  refine ⟨row, rfl, fun cents hcents => ?_⟩
  obtain ⟨unitCost, hcost, hrest⟩ := bind_eq_ok hrow
  rw [hcents] at hcost ⊢
  rw [← numeric_cents hcost]
  cases hold : stock.lookup item.sku with
  | none =>
      simp only [hold] at hrest
      cases hrest
      rfl
  | some old =>
      simp only [hold] at hrest
      obtain ⟨quantity, _, hset⟩ := bind_eq_ok hrest
      cases hset
      rfl

/-- The only errors of a release and of an upsert are values out of range. -/
theorem releaseStock_error {stock : StockTable} {returns : ItemMap} {err : GoError}
    (herror : releaseStock stock returns = .error err) : ∃ message, err = .fault message := by
  unfold releaseStock at herror
  split at herror
  · rename_i failure hfailure
    cases herror
    obtain ⟨sku, row, hrow⟩ := Table.updateRows_error hfailure
    unfold releaseRow at hrow
    cases hcount : returns.lookup sku with
    | none => simp [hcount] at hrow
    | some count =>
        simp only [hcount] at hrow
        rcases bind_eq_error hrow with hint | ⟨quantity, _, hok⟩
        · obtain ⟨message, rfl⟩ := int4_error hint
          exact ⟨_, rfl⟩
        · cases hok
  · cases herror

theorem upsertStock_error {stock : StockTable} {item : StockItem} {err : GoError}
    (herror : upsertStock stock item = .error err) : ∃ message, err = .fault message := by
  unfold upsertStock at herror
  split at herror
  · rename_i failure hfailure
    cases herror
    have hfault : ∃ message, failure = .fault message := by
      unfold upsertRow at hfailure
      rcases bind_eq_error hfailure with hcost | ⟨unitCost, _, hrest⟩
      · exact numeric_error hcost
      cases hold : stock.lookup item.sku with
      | none =>
          rw [hold] at hrest
          cases hrest
      | some row =>
          rw [hold] at hrest
          rcases bind_eq_error hrest with hint | ⟨quantity, _, hok⟩
          · exact int4_error hint
          · cases hok
    obtain ⟨message, rfl⟩ := hfault
    exact ⟨_, rfl⟩
  · cases herror

/-- Releasing at once what was just reserved restores the table, row by row. -/
theorem releaseStock_reserveStock {stock stock' : StockTable} {requests reserved : ItemMap}
    (hok : reserveStock stock requests = .ok (reserved, stock')) :
    releaseStock stock' reserved = .ok stock := by
  unfold reserveStock at hok
  split at hok
  · cases hok
  · rename_i updated hupdate
    cases hok
    have hundo := Table.updateRows_undo (releaseRow (stock.selectRows (actualTaken requests)))
      hupdate fun sku row row' hrow hset => by
        unfold reserveRow at hset
        unfold releaseRow
        rw [Table.lookup_selectRows, hrow, Option.bind_some]
        cases htaken : actualTaken requests sku row with
        | none =>
            simp only [htaken, Except.ok.injEq] at hset
            rw [hset]
        | some taken =>
            simp only [htaken] at hset
            obtain ⟨quantity, hquantity, hrow'⟩ := bind_eq_ok hset
            cases hrow'
            have hback : quantity.toInt + taken.toInt = row.quantity.toInt := by
              rw [int4_toInt hquantity]
              omega
            simp only [hback, int4_of_toInt]
            rfl
    rw [releaseStock, hundo]

/-- A release takes effect exactly when no quantity leaves its column. -/
theorem releaseStock_isOk_iff (stock : StockTable) (returns : ItemMap) :
    (∃ stock', releaseStock stock returns = .ok stock') ↔ ∀ sku ∈ stock,
      -2 ^ 31 ≤ available stock sku + returns.units sku ∧
        available stock sku + returns.units sku < 2 ^ 31 := by
  constructor
  · rintro ⟨stock', hok⟩ sku hsku
    have havailable := (releaseStock_ok hok).1 sku
    rw [if_pos hsku] at havailable
    rw [← havailable]
    exact available_range stock' sku
  · intro hrange
    obtain ⟨stock', hstock'⟩ := Table.updateRows_isOk (releaseRow returns) stock fun sku row hrow => by
      have hsku := hrange sku (AList.lookup_isSome.mp (by rw [hrow]; rfl))
      rw [available_of_lookup hrow] at hsku
      unfold releaseRow
      cases hcount : returns.lookup sku with
      | none => exact ⟨row, rfl⟩
      | some count =>
          rw [ItemMap.units_of_lookup hcount] at hsku
          exact ⟨_, by simp only [int4_of_range hsku]; rfl⟩
    exact ⟨stock', by rw [releaseStock, hstock']⟩

/-- Releasing nothing changes nothing. -/
theorem releaseStock_empty (stock : StockTable) {returns : ItemMap}
    (hempty : returns.entries.length = 0) : releaseStock stock returns = .ok stock := by
  have hlookup : ∀ sku, returns.lookup sku = none := by
    intro sku
    rw [AList.ext (List.length_eq_zero_iff.mp hempty) (t := ∅)]
    exact AList.lookup_empty sku
  have hsame := Table.updateRows_self (releaseRow returns) stock
    fun sku row _ => by rw [releaseRow, hlookup]
  rw [releaseStock, hsame]

/-- A reservation of positive quantities is never out of range. -/
theorem reserveStock_isOk (stock : StockTable) {requests : ItemMap} (hpos : requests.Positive) :
    ∃ result, reserveStock stock requests = .ok result := by
  have hrows := Table.updateRows_isOk (reserveRow requests) stock
    fun sku row _ => by
      unfold reserveRow
      cases htaken : actualTaken requests sku row with
      | none => exact ⟨row, rfl⟩
      | some taken =>
          unfold actualTaken at htaken
          split at htaken
          · rename_i hquantity
            obtain ⟨count, hcount, rfl⟩ := Option.map_eq_some_iff.mp htaken
            have hcount' := hpos sku count hcount
            have hupper := Int32.toInt_lt row.quantity
            have hrange : -2 ^ 31 ≤ row.quantity.toInt - (least row.quantity count).toInt ∧
                row.quantity.toInt - (least row.quantity count).toInt < 2 ^ 31 := by
              rw [toInt_least]
              omega
            exact ⟨_, by simp only [int4_of_range hrange]; rfl⟩
          · cases htaken
  obtain ⟨stock', hstock'⟩ := hrows
  exact ⟨_, by rw [reserveStock, hstock']⟩

end StockTable

end AutoGrocery

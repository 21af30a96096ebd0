import AutoGrocery.Inventory.Handler

/-!
`CheckAvailability` of `internal/handler/grpc.go`, and what every statement on
`available_stock` leaves of a row. A row is never deleted, and on a conflict
`UpsertStock` keeps the aisle and both dates of the row that is there.
-/

namespace AutoGrocery

open Interleaving Relational

/-- `pb.StockLevel`. -/
structure StockLevel where
  sku : SKU
  name : String
  aisleType : String
  quantityAvailable : Int32

namespace InventoryHandler

/-- The loop of `CheckAvailability` over the requested SKUs. -/
def stockLevels (dbItems : GoMap StockRow) (skus : List SKU) : GoMap StockLevel :=
  skus.foldl (fun respItems sku =>
    match dbItems.lookup sku with
    | some item => respItems.insert sku ⟨sku, item.name, item.aisleType, item.quantity⟩
    | none => respItems) ∅

/-- `CheckAvailability`. -/
def checkAvailability (skus : List SKU) : InventoryProg (Except GoError (GoMap StockLevel)) :=
  if skus.length = 0 then .ret (.ok ∅)
  else
    .call (.getBatchItems skus) fun
      | .error err => .ret (.error err)
      | .ok dbItems => .ret (.ok (stockLevels dbItems skus))

/-- The levels are the rows that were found, for the SKUs asked for. -/
theorem stockLevels_lookup (dbItems : GoMap StockRow) (skus : List SKU) (sku : SKU) :
    (stockLevels dbItems skus).lookup sku =
      if sku ∈ skus then (dbItems.lookup sku).map fun item =>
        ⟨sku, item.name, item.aisleType, item.quantity⟩
      else none := by
  -- The loop keeps what the accumulator holds of the SKUs that are not to come.
  suffices hloop : ∀ respItems : GoMap StockLevel,
      (skus.foldl (fun (respItems : GoMap StockLevel) sku =>
        match dbItems.lookup sku with
        | some item => respItems.insert sku ⟨sku, item.name, item.aisleType, item.quantity⟩
        | none => respItems) respItems).lookup sku =
      if sku ∈ skus ∧ (dbItems.lookup sku).isSome then (dbItems.lookup sku).map fun item =>
        ⟨sku, item.name, item.aisleType, item.quantity⟩
      else respItems.lookup sku by
    rw [stockLevels, hloop]
    cases hrow : dbItems.lookup sku with
    | none => simp
    | some item => simp
  induction skus with
  | nil => simp
  | cons head rest ih =>
      intro respItems
      rw [List.foldl_cons, ih]
      by_cases hhead : sku = head
      · subst hhead
        cases dbItems.lookup sku <;> simp
      · cases hfound : dbItems.lookup head with
        | none => simp [hhead]
        | some item => simp [hhead]

end InventoryHandler

/-! ### What stays of a row -/

namespace StockTable

/-- Every row of the first table is in the second one, in the same aisle and with the same
dates. -/
def Keeps (stock stock' : StockTable) : Prop :=
  ∀ sku row, stock.lookup sku = some row → ∃ row', stock'.lookup sku = some row' ∧
    row'.aisleType = row.aisleType ∧ row'.mfdDate = row.mfdDate ∧ row'.expiryDate = row.expiryDate

section

variable {stock stock' stock'' : StockTable}

theorem Keeps.refl (stock : StockTable) : stock.Keeps stock := fun _ row hrow => ⟨row, hrow, rfl, rfl, rfl⟩

theorem Keeps.trans (h : stock.Keeps stock') (h' : stock'.Keeps stock'') : stock.Keeps stock'' := by
  intro sku row hrow
  obtain ⟨row', hrow', haisle, hmfd, hexpiry⟩ := h sku row hrow
  obtain ⟨row'', hrow'', haisle', hmfd', hexpiry'⟩ := h' sku row' hrow'
  exact ⟨row'', hrow'', haisle'.trans haisle, hmfd'.trans hmfd, hexpiry'.trans hexpiry⟩

/-- A statement that computes every row anew keeps what its rows keep. -/
private theorem Keeps.updateRows {f : SKU → StockRow → Except GoError StockRow}
    (hok : Table.updateRows f stock = .ok stock')
    (hrows : ∀ sku row row', f sku row = .ok row' → row'.aisleType = row.aisleType ∧
      row'.mfdDate = row.mfdDate ∧ row'.expiryDate = row.expiryDate) : stock.Keeps stock' := by
  intro sku row hrow
  rcases Table.lookup_updateRows hok sku with ⟨_, hnone⟩ | ⟨old, row', hold, hf, hrow'⟩
  · rw [hrow] at hnone
    cases hnone
  · obtain rfl := Option.some.inj (hrow.symm.trans hold)
    exact ⟨row', hrow', hrows sku _ row' hf⟩

theorem reserveStock_keeps {requests reserved : ItemMap}
    (hok : reserveStock stock requests = .ok (reserved, stock')) : stock.Keeps stock' := by
  unfold reserveStock at hok
  split at hok
  · cases hok
  rename_i updated hupdate
  cases hok
  refine Keeps.updateRows hupdate fun sku row row' hset => ?_
  unfold reserveRow at hset
  split at hset
  · cases hset
    exact ⟨rfl, rfl, rfl⟩
  · obtain ⟨quantity, _, hrow'⟩ := bind_eq_ok hset
    cases hrow'
    exact ⟨rfl, rfl, rfl⟩

theorem releaseStock_keeps {returns : ItemMap} (hok : releaseStock stock returns = .ok stock') :
    stock.Keeps stock' := by
  unfold releaseStock at hok
  split at hok
  · cases hok
  rename_i updated hupdate
  cases hok
  refine Keeps.updateRows hupdate fun sku row row' hset => ?_
  unfold releaseRow at hset
  split at hset
  · cases hset
    exact ⟨rfl, rfl, rfl⟩
  · obtain ⟨quantity, _, hrow'⟩ := bind_eq_ok hset
    cases hrow'
    exact ⟨rfl, rfl, rfl⟩

theorem upsertStock_keeps {item : StockItem} (hok : upsertStock stock item = .ok stock') :
    stock.Keeps stock' := by
  unfold upsertStock at hok
  split at hok
  · cases hok
  rename_i written hwritten
  cases hok
  intro sku row hrow
  by_cases hsku : sku = item.sku
  · subst hsku
    refine ⟨written, AList.lookup_insert _, ?_⟩
    unfold upsertRow at hwritten
    obtain ⟨unitCost, _, hset⟩ := bind_eq_ok hwritten
    rw [hrow] at hset
    obtain ⟨quantity, _, hwritten⟩ := bind_eq_ok hset
    cases hwritten
    exact ⟨rfl, rfl, rfl⟩
  · exact ⟨row, (AList.lookup_insert_ne hsku).trans hrow, rfl, rfl, rfl⟩

end

end StockTable

end AutoGrocery

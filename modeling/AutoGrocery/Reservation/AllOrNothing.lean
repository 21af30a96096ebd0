import AutoGrocery.System

/-!
`ReserveItems` as a step and as a whole. The reserve statement takes what is
there; the answer depends only on whether the table covers the request; and
run alone, a rejected request leaves the table exactly as it was.
-/

namespace AutoGrocery

open Interleaving InventoryHandler

namespace StockTable

/-- Every requested SKU has at least the requested quantity. -/
def Covers (stock : StockTable) (items : ItemMap) : Prop :=
  ∀ sku ∈ items, items.units sku ≤ available stock sku

instance (stock : StockTable) (items : ItemMap) : Decidable (stock.Covers items) :=
  decidable_of_iff (∀ sku ∈ items.keys, items.units sku ≤ available stock sku) Iff.rfl

variable {stock stock' : StockTable} {requests reserved : ItemMap}

theorem takes_le_available (requests : ItemMap) {sku : SKU}
    (hnonneg : 0 ≤ available stock sku) : takes stock requests sku ≤ available stock sku := by
  unfold takes
  split
  · exact min_le_left _ _
  · exact hnonneg

theorem takes_le_units (hpos : requests.Positive) (stock : StockTable) (sku : SKU) :
    takes stock requests sku ≤ requests.units sku := by
  unfold takes
  split
  · exact min_le_right _ _
  · exact hpos.units_nonneg sku

theorem takes_eq_units_iff (hpos : requests.Positive) {sku : SKU} (hsku : sku ∈ requests) :
    takes stock requests sku = requests.units sku ↔
      requests.units sku ≤ available stock sku := by
  have hunits : 0 < requests.units sku := (hpos.units_pos_iff sku).mpr hsku
  unfold takes
  split
  · exact min_eq_right_iff
  · rename_i hnot
    have havailable : ¬ 0 < available stock sku := fun h => hnot ⟨h, hsku⟩
    omega

/-- When the table covers the request, the statement takes exactly it. -/
theorem takes_of_covers (hpos : requests.Positive) (hcovers : stock.Covers requests) (sku : SKU) :
    takes stock requests sku = requests.units sku := by
  by_cases hsku : sku ∈ requests
  · exact (takes_eq_units_iff hpos hsku).mpr (hcovers sku hsku)
  · have hnone : requests.lookup sku = none := AList.lookup_eq_none.mpr hsku
    simp [takes, hsku, ItemMap.units_of_lookup_none hnone]

/-- Only SKUs with a row are taken. -/
theorem mem_of_takes {sku : SKU} (h : takes stock requests sku ≠ 0) : sku ∈ stock := by
  by_contra hnot
  apply h
  simp [takes, available_of_lookup_none (AList.lookup_eq_none.mpr hnot)]

/-- The loop over the request decides whether the statement took everything. -/
theorem allReserved_iff_takes (hok : reserveStock stock requests = .ok (reserved, stock')) :
    allReserved requests reserved = true ↔
      ∀ sku ∈ requests, requests.units sku ≤ takes stock requests sku := by
  obtain ⟨hreserved, _, _⟩ := reserveStock_ok hok
  have hentry (sku : SKU) (wanted : Int32) (hwanted : requests.lookup sku = some wanted) :
      (¬ reserved.at sku < wanted) ↔ requests.units sku ≤ takes stock requests sku := by
    have hunits : (reserved.at sku).toInt = takes stock requests sku := hreserved sku
    rw [Int32.lt_iff_toInt_lt, hunits, ← ItemMap.units_of_lookup hwanted]
    omega
  unfold allReserved
  rw [List.all_eq_true]
  constructor
  · intro hall sku hsku
    obtain ⟨wanted, hwanted⟩ := Option.isSome_iff_exists.mp (AList.lookup_isSome.mpr hsku)
    have hmem := hall ⟨sku, wanted⟩ (AList.mem_lookup_iff.mp hwanted)
    exact (hentry sku wanted hwanted).mp (by simpa using hmem)
  · rintro hall ⟨sku, wanted⟩ hmem
    have hwanted : requests.lookup sku = some wanted := AList.mem_lookup_iff.mpr hmem
    have hsku : sku ∈ requests := AList.lookup_isSome.mp (by rw [hwanted]; rfl)
    simpa using (hentry sku wanted hwanted).mpr (hall sku hsku)

/-- For positive quantities it decides whether the table covered the request. -/
theorem allReserved_iff (hpos : requests.Positive)
    (hok : reserveStock stock requests = .ok (reserved, stock')) :
    allReserved requests reserved = true ↔ stock.Covers requests := by
  rw [allReserved_iff_takes hok, Covers]
  apply forall₂_congr
  intro sku hsku
  have htakes := takes_le_units hpos stock sku
  rw [← takes_eq_units_iff hpos hsku]
  omega

end StockTable

/-- The request gets as far as the reserve statement. -/
def ReserveItemsRequest.Valid (req : ReserveItemsRequest) : Prop :=
  req.orderID ≠ "" ∧ req.items.entries.length ≠ 0

instance (req : ReserveItemsRequest) : Decidable req.Valid :=
  inferInstanceAs (Decidable (_ ∧ _))

theorem reserveItems_valid {req : ReserveItemsRequest} (hvalid : req.Valid) :
    reserveItems req = .call (.reserveStock req.items) (afterReserve req) := by
  rw [reserveItems, if_neg hvalid.1, if_neg hvalid.2]

theorem reserveItems_invalid {req : ReserveItemsRequest} (hinvalid : ¬ req.Valid) :
    ∃ resp, reserveItems req = .ret (.ok resp) ∧ resp.success = false := by
  unfold reserveItems
  split
  · exact ⟨_, rfl, rfl⟩
  split
  · exact ⟨_, rfl, rfl⟩
  · rename_i hid hitems
    exact absurd ⟨hid, hitems⟩ hinvalid

/-- The one reserve statement of a valid request, when nothing fails. -/
theorem exec_reserveStock (w : World) {items : ItemMap} (hpos : items.Positive) :
    ∃ reserved stock', w.stock.reserveStock items = .ok (reserved, stock') ∧
      inventoryExec .works (.reserveStock items) w = (.ok reserved, { w with stock := stock' }) := by
  obtain ⟨⟨reserved, stock'⟩, hok⟩ := StockTable.reserveStock_isOk w.stock hpos
  refine ⟨reserved, stock', hok, ?_⟩
  show World.onStock (fun stock => stock.reserveStock items) w = _
  rw [World.onStock, hok]

/-- **All or nothing.** Run alone and without faults, a valid request is
granted exactly when the table covers it, and takes exactly what it asked for;
otherwise the table is left as it was. -/
theorem reserveItems_alone {req : ReserveItemsRequest} (hvalid : req.Valid)
    (hpos : req.items.Positive) (w : World) :
    let outcome := (reserveItems req).run (inventoryExec .works) w
    (w.stock.Covers req.items → outcome.value = .ok ⟨req.orderID, true, ""⟩ ∧
      (∀ sku, outcome.state.stock.available sku =
        w.stock.available sku - req.items.units sku) ∧
      ∀ sku, sku ∈ outcome.state.stock ↔ sku ∈ w.stock) ∧
    (¬ w.stock.Covers req.items →
      outcome.value = .ok ⟨req.orderID, false, "insufficient stock"⟩ ∧
      outcome.state.stock = w.stock) := by
  obtain ⟨reserved, stock', hok, hexec⟩ := exec_reserveStock w hpos
  obtain ⟨_, havailable, hrows⟩ := StockTable.reserveStock_ok hok
  have hiff := StockTable.allReserved_iff hpos hok
  have hundo := StockTable.releaseStock_reserveStock hok
  have hrun : (reserveItems req).run (inventoryExec .works) w =
      let rest := (afterReserve req (.ok reserved)).run (inventoryExec .works)
        { w with stock := stock' }
      ⟨rest.value, rest.state, ⟨.reserveStock req.items, .ok reserved⟩ :: rest.trace⟩ := by
    rw [reserveItems_valid hvalid, Prog.run_call, hexec]
  constructor
  · intro hcovers
    simp only [hrun, afterReserve, if_pos (hiff.mpr hcovers), Prog.run_ret, true_and]
    refine ⟨fun sku => ?_, hrows⟩
    rw [havailable, StockTable.takes_of_covers hpos hcovers]
  · intro hnot
    have hrejected : allReserved req.items reserved = false :=
      Bool.eq_false_iff.mpr fun h => hnot (hiff.mp h)
    by_cases hlength : 0 < reserved.entries.length
    · have hrelease : inventoryExec .works (.releaseStock reserved) { w with stock := stock' } =
          (.ok (), w) := by
        show World.onStock (fun stock => (stock.releaseStock reserved).map fun stock => ((), stock))
          { w with stock := stock' } = _
        rw [World.onStock, hundo]
        rfl
      simp [hrun, afterReserve, hrejected, hlength, Prog.run_call, hrelease]
    · have hsame : stock' = w.stock := by
        rw [StockTable.releaseStock_empty stock' (by omega)] at hundo
        exact Except.ok.inj hundo
      simp [hrun, afterReserve, hrejected, hlength, hsame]

/-! ### Row by row -/

/-- Every requested SKU has a row with at least the requested quantity. -/
def StockTable.Suffices (stock : StockTable) (items : ItemMap) : Prop :=
  ∀ sku quantity, items.lookup sku = some quantity →
    ∃ row, stock.lookup sku = some row ∧ quantity.toInt ≤ row.quantity.toInt

/-- A positive quantity is covered by a row, or not at all. -/
theorem StockTable.covers_iff_suffices {items : ItemMap} (hpos : items.Positive)
    (stock : StockTable) : stock.Covers items ↔ stock.Suffices items := by
  constructor
  · intro hcovers sku quantity hquantity
    have hsku : sku ∈ items := AList.lookup_isSome.mp (by rw [hquantity]; rfl)
    have hle := hcovers sku hsku
    rw [ItemMap.units_of_lookup hquantity] at hle
    have hwanted := hpos sku quantity hquantity
    cases hrow : stock.lookup sku with
    | none =>
        rw [available_of_lookup_none hrow] at hle
        omega
    | some row =>
        rw [available_of_lookup hrow] at hle
        exact ⟨row, rfl, hle⟩
  · intro hsuffices sku hsku
    obtain ⟨quantity, hquantity⟩ := Option.isSome_iff_exists.mp (AList.lookup_isSome.mpr hsku)
    obtain ⟨row, hrow, hle⟩ := hsuffices sku quantity hquantity
    rw [ItemMap.units_of_lookup hquantity, available_of_lookup hrow]
    exact hle

/-- **What `ReserveItems` answers and writes.** Run alone and without faults, a
request for positive quantities succeeds if and only if every SKU it asks for has a
row with enough; then each row gives what was asked of it, which is nothing for a
SKU that was not asked for; otherwise the table is as it was. -/
theorem reserveItems_grants_all_or_nothing {req : ReserveItemsRequest} (horder : req.orderID ≠ "")
    (hitems : req.items.entries ≠ []) (hpos : req.items.Positive) (w : World) :
    let outcome := (reserveItems req).run (inventoryExec .works) w
    (∃ resp, outcome.value = .ok resp ∧ (resp.success = true ↔ w.stock.Suffices req.items)) ∧
      (w.stock.Suffices req.items → ∀ sku,
        (outcome.state.stock.lookup sku).map (fun row => row.quantity.toInt) =
          (w.stock.lookup sku).map fun row => row.quantity.toInt - req.items.units sku) ∧
      (¬ w.stock.Suffices req.items → outcome.state.stock = w.stock) := by
  have hvalid : req.Valid := ⟨horder, fun hlength => hitems (List.length_eq_zero_iff.mp hlength)⟩
  obtain ⟨hgrant, hreject⟩ := reserveItems_alone hvalid hpos w
  rw [StockTable.covers_iff_suffices hpos] at hgrant hreject
  refine ⟨?_, fun hsuffices sku => ?_, fun hshort => (hreject hshort).2⟩
  · by_cases hsuffices : w.stock.Suffices req.items
    · exact ⟨_, (hgrant hsuffices).1, by simp [hsuffices]⟩
    · exact ⟨_, (hreject hsuffices).1, by simp [hsuffices]⟩
  · obtain ⟨_, havailable, hrows⟩ := hgrant hsuffices
    have hquantity := havailable sku
    have hrow := hrows sku
    rw [← AList.lookup_isSome, ← AList.lookup_isSome] at hrow
    cases hbefore : w.stock.lookup sku with
    | none =>
        rw [hbefore] at hrow
        have hafter := Option.not_isSome_iff_eq_none.mp fun h => Bool.false_ne_true (hrow.mp h)
        rw [hafter]
        rfl
    | some row =>
        rw [hbefore] at hrow
        obtain ⟨row', hafter⟩ := Option.isSome_iff_exists.mp (hrow.mpr rfl)
        rw [StockTable.available_of_lookup hbefore, StockTable.available_of_lookup hafter] at hquantity
        rw [hafter]
        exact congrArg some hquantity

/-- Two units of milk and the only egg are granted. With a second egg the request is
refused, and the milk that was there stays. -/
theorem reserveItems_grants_all_or_nothing_sample :
    let outcome := fun eggs => (reserveItems ⟨"order-2", Sample.items.insert "eggs" eggs⟩).run
      (inventoryExec .works) Sample.larder
    ((∃ resp, (outcome 1).value = .ok resp ∧ resp.success = true) ∧
      ((outcome 1).state.stock.lookup "milk").map (fun row => row.quantity.toInt) = some 3 ∧
      ((outcome 1).state.stock.lookup "eggs").map (fun row => row.quantity.toInt) = some 0) ∧
    (∃ resp, (outcome 2).value = .ok resp ∧ resp.success = false) ∧
      (outcome 2).state.stock = Sample.larder.stock := by
  have hfits : ItemMap.Positive (Sample.items.insert "eggs" 1) ∧
      Sample.larder.stock.Covers (Sample.items.insert "eggs" 1) := by decide +kernel
  have hshort : ItemMap.Positive (Sample.items.insert "eggs" 2) ∧
      ¬ Sample.larder.stock.Covers (Sample.items.insert "eggs" 2) := by decide +kernel
  constructor
  · obtain ⟨⟨resp, hvalue, hsuccess⟩, htaken, _⟩ :=
      @reserveItems_grants_all_or_nothing ⟨"order-2", Sample.items.insert "eggs" 1⟩ (by decide)
        (by decide +kernel) hfits.1 Sample.larder
    have hsuffices := (StockTable.covers_iff_suffices hfits.1 _).mp hfits.2
    refine ⟨⟨resp, hvalue, hsuccess.mpr hsuffices⟩, (htaken hsuffices "milk").trans ?_,
      (htaken hsuffices "eggs").trans ?_⟩ <;> decide +kernel
  · obtain ⟨⟨resp, hvalue, hsuccess⟩, _, hkept⟩ :=
      @reserveItems_grants_all_or_nothing ⟨"order-2", Sample.items.insert "eggs" 2⟩ (by decide)
        (by decide +kernel) hshort.1 Sample.larder
    have hlacks := mt (StockTable.covers_iff_suffices hshort.1 _).mpr hshort.2
    exact ⟨⟨resp, hvalue, Bool.eq_false_iff.mpr (mt hsuccess.mp hlacks)⟩, hkept hlacks⟩

end AutoGrocery

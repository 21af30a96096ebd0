import AutoGrocery.Interleaving.History
import AutoGrocery.Inventory.Stock

/-!
Restocks, reservations and expiry sweeps on the stock table. All batches of a SKU are
on one row, and the row keeps the expiry date it was inserted with, also when it is
sold out and another batch comes. A sweep goes by that date.
-/

namespace AutoGrocery

open Interleaving Relational

/-- The upsert of a restock, the statement of a reservation, or a sweep at a time. -/
inductive ShelfOp where
  | restock (item : StockItem)
  | reserve (requests : ItemMap)
  | sweep (now : Timestamp)

/-- The stock table, and when it was swept last. -/
structure Shelf where
  stock : StockTable
  sweptAt : Option Timestamp

namespace Shelf

/-- One statement. A statement that fails leaves the table alone. -/
def step (shelf : Shelf) : ShelfOp → Shelf
  | .restock item => { shelf with stock := (shelf.stock.upsertStock item).toOption.getD shelf.stock }
  | .reserve requests =>
      { shelf with stock := ((shelf.stock.reserveStock requests).toOption.map Prod.snd).getD shelf.stock }
  | .sweep now => ⟨(shelf.stock.clearExpiredStock now).2, some now⟩

/-- Quantities are positive, and the time of a sweep is not before the last one. -/
def Allows (shelf : Shelf) : ShelfOp → Prop
  | .restock item => 0 < item.quantity.toInt
  | .reserve requests => requests.Positive
  | .sweep now => ∀ swept ∈ shelf.sweptAt, swept ≤ now

instance (shelf : Shelf) : (op : ShelfOp) → Decidable (shelf.Allows op)
  | .restock item => inferInstanceAs (Decidable (0 < item.quantity.toInt))
  | .reserve requests => inferInstanceAs (Decidable requests.Positive)
  | .sweep now => inferInstanceAs (Decidable (∀ swept ∈ shelf.sweptAt, swept ≤ now))

/-- A batch that comes to a row without units expires no later than the date of the
row, or has expired at the last sweep. -/
def Suits (shelf : Shelf) : ShelfOp → Prop
  | .restock item => ∀ row, shelf.stock.lookup item.sku = some row → row.quantity.toInt = 0 →
      item.expiryDate ≤ row.expiryDate ∨ ∃ swept ∈ shelf.sweptAt, item.expiryDate < swept
  | _ => True

/-- The SKU has no units: no row, or a quantity of zero. -/
def Out (sku : SKU) (shelf : Shelf) : Prop := shelf.stock.available sku = 0

/-- The step puts a batch of the SKU on the table, with an expiry date like this. -/
def Stocked (sku : SKU) (date : Timestamp → Prop) (shelf : Shelf) (op : ShelfOp) : Prop :=
  ∃ item stock', op = .restock item ∧ item.sku = sku ∧
    shelf.stock.upsertStock item = .ok stock' ∧ date item.expiryDate

/-! ### What a step does to a row -/

section

variable {shelf : Shelf} {stock stock' : StockTable} {sku : SKU} {row' : StockRow} {item : StockItem}
  {requests reserved : ItemMap} {op : ShelfOp}

theorem lookup_clearExpiredStock (now : Timestamp) (stock : StockTable) (sku : SKU) :
    (stock.clearExpiredStock now).2.lookup sku = (stock.lookup sku).map fun row =>
      if row.expired now then { row with quantity := 0 } else row := by
  rw [StockTable.clearExpiredStock, Table.lookup_selectRows]
  cases stock.lookup sku <;> rfl

/-- An upsert writes the expiry date of its batch only if there was no row. -/
theorem upsertStock_dates (hok : stock.upsertStock item = .ok stock') :
    ∃ row', stock' = stock.insert item.sku row' ∧
      (stock.lookup item.sku = none → row'.expiryDate = item.expiryDate) ∧
      ∀ row, stock.lookup item.sku = some row → row'.expiryDate = row.expiryDate := by
  unfold StockTable.upsertStock at hok
  split at hok
  · cases hok
  rename_i row' hrow'
  cases hok
  obtain ⟨unitCost, _, hrest⟩ := bind_eq_ok hrow'
  refine ⟨row', rfl, fun hnone => ?_, fun row hrow => ?_⟩
  · simp only [hnone] at hrest
    cases hrest
    rfl
  · simp only [hrow] at hrest
    obtain ⟨quantity, _, hset⟩ := bind_eq_ok hrest
    cases hset
    rfl

/-- A reservation leaves the expiry dates alone. -/
theorem reserveStock_dates (hok : stock.reserveStock requests = .ok (reserved, stock'))
    (hrow' : stock'.lookup sku = some row') :
    ∃ row, stock.lookup sku = some row ∧ row'.expiryDate = row.expiryDate := by
  unfold StockTable.reserveStock at hok
  split at hok
  · cases hok
  rename_i updated hupdate
  cases hok
  rcases Table.lookup_updateRows hupdate sku with ⟨hnone, _⟩ | ⟨row, found, hrow, hset, hfound⟩
  · cases hnone.symm.trans hrow'
  obtain rfl : found = row' := Option.some.inj (hfound.symm.trans hrow')
  refine ⟨row, hrow, ?_⟩
  unfold StockTable.reserveRow at hset
  cases htaken : StockTable.actualTaken requests sku row with
  | none =>
      simp only [htaken] at hset
      rw [Except.ok.inj hset]
  | some taken =>
      simp only [htaken] at hset
      obtain ⟨quantity, _, hrow⟩ := bind_eq_ok hset
      cases hrow
      rfl

/-- What a step can do: a statement takes effect, or fails and leaves the table alone. -/
theorem step_cases (shelf : Shelf) (op : ShelfOp) :
    (∃ item stock', op = .restock item ∧ shelf.stock.upsertStock item = .ok stock' ∧
      (shelf.step op).stock = stock') ∨
    (∃ requests reserved stock', op = .reserve requests ∧
      shelf.stock.reserveStock requests = .ok (reserved, stock') ∧ (shelf.step op).stock = stock') ∨
    (∃ now, op = .sweep now ∧ (shelf.step op).stock = (shelf.stock.clearExpiredStock now).2) ∨
    (shelf.step op).stock = shelf.stock := by
  cases op with
  | restock item =>
      simp only [step]
      cases hok : shelf.stock.upsertStock item with
      | error err => exact Or.inr (Or.inr (Or.inr rfl))
      | ok stock' => exact Or.inl ⟨item, stock', rfl, hok, rfl⟩
  | reserve requests =>
      simp only [step]
      cases hok : shelf.stock.reserveStock requests with
      | error err => exact Or.inr (Or.inr (Or.inr rfl))
      | ok result => exact Or.inr (Or.inl ⟨requests, result.1, result.2, rfl, hok, rfl⟩)
  | sweep now => exact Or.inr (Or.inr (Or.inl ⟨now, rfl, rfl⟩))

/-- No step makes a quantity negative. -/
theorem step_nonneg (hallows : shelf.Allows op) (hnonneg : ∀ sku, 0 ≤ shelf.stock.available sku) (sku : SKU) :
    0 ≤ (shelf.step op).stock.available sku := by
  have hbefore := hnonneg sku
  rcases step_cases shelf op with ⟨item, stock', rfl, hok, hstock⟩ |
    ⟨requests, reserved, stock', rfl, hok, hstock⟩ | ⟨now, rfl, hstock⟩ | hstock <;> rw [hstock]
  · have hpositive : 0 < item.quantity.toInt := hallows
    rw [(StockTable.upsertStock_ok hok).1]
    split <;> omega
  · rw [(StockTable.reserveStock_ok hok).2.1, StockTable.takes]
    split <;> omega
  · rw [StockTable.available, lookup_clearExpiredStock]
    cases hrow : shelf.stock.lookup sku with
    | none => exact le_refl 0
    | some row =>
        rw [StockTable.available_of_lookup hrow] at hbefore
        simp only [Option.map_some, Option.getD_some]
        split
        · exact le_refl 0
        · exact hbefore
  · exact hbefore

/-- Where a row comes from: it stood there with its date and no fewer units, or a batch
came. The first batch sets the date. -/
theorem step_row (hallows : shelf.Allows op) (hrow' : (shelf.step op).stock.lookup sku = some row') :
    (∃ row, shelf.stock.lookup sku = some row ∧ row'.expiryDate = row.expiryDate ∧
      (row'.quantity.toInt ≤ row.quantity.toInt ∨ Stocked sku (fun _ => True) shelf op)) ∨
    (shelf.stock.lookup sku = none ∧ Stocked sku (· = row'.expiryDate) shelf op) := by
  rcases step_cases shelf op with ⟨item, stock', rfl, hok, hstock⟩ |
    ⟨requests, reserved, stock', rfl, hok, hstock⟩ | ⟨now, rfl, hstock⟩ | hstock <;> rw [hstock] at hrow'
  · obtain ⟨written, hstock', hnew, hold⟩ := upsertStock_dates hok
    rcases Table.lookup_insert_eq_some.mp (hstock' ▸ hrow') with ⟨hsku, rfl⟩ | ⟨_, hrow⟩
    · cases hrow : shelf.stock.lookup sku with
      | none => exact Or.inr ⟨rfl, item, stock', rfl, hsku.symm, hok, (hnew (hsku ▸ hrow)).symm⟩
      | some row =>
          exact Or.inl ⟨row, rfl, hold row (hsku ▸ hrow), Or.inr ⟨item, stock', rfl, hsku.symm, hok, trivial⟩⟩
    · exact Or.inl ⟨row', hrow, rfl, Or.inl le_rfl⟩
  · obtain ⟨row, hrow, hdate⟩ := reserveStock_dates hok hrow'
    refine Or.inl ⟨row, hrow, hdate, Or.inl ?_⟩
    have hunits := (StockTable.reserveStock_ok hok).2.1 sku
    have htaken := StockTable.takes_nonneg hallows shelf.stock sku
    rw [StockTable.available_of_lookup hrow', StockTable.available_of_lookup hrow] at hunits
    omega
  · rw [lookup_clearExpiredStock] at hrow'
    obtain ⟨row, hrow, rfl⟩ := Option.map_eq_some_iff.mp hrow'
    refine Or.inl ⟨row, hrow, ?_, Or.inl ?_⟩
    · split <;> rfl
    · split
      · rename_i hexpired
        exact (of_decide_eq_true hexpired).2.le
      · exact le_rfl
  · exact Or.inl ⟨row', hrow', rfl, Or.inl le_rfl⟩

/-- The time of the last sweep only grows. -/
theorem step_sweptAt (hallows : shelf.Allows op) {swept : Timestamp} (hswept : swept ∈ shelf.sweptAt) :
    ∃ later ∈ (shelf.step op).sweptAt, swept ≤ later := by
  cases op with
  | sweep now => exact ⟨now, rfl, hallows swept hswept⟩
  | _ => exact ⟨swept, hswept, le_rfl⟩

/-- A sweep that takes the last units of a SKU found a row with an earlier date. -/
theorem sweep_discards {now : Timestamp} (hbefore : 0 < shelf.stock.available sku)
    (hafter : (shelf.step (.sweep now)).stock.available sku = 0) :
    ∃ row, shelf.stock.lookup sku = some row ∧ 0 < row.quantity.toInt ∧ row.expiryDate < now := by
  cases hrow : shelf.stock.lookup sku with
  | none =>
      rw [StockTable.available_of_lookup_none hrow] at hbefore
      exact absurd hbefore (lt_irrefl 0)
  | some row =>
      rw [StockTable.available_of_lookup hrow] at hbefore
      refine ⟨row, rfl, hbefore, ?_⟩
      simp only [step, StockTable.available, lookup_clearExpiredStock, hrow, Option.map_some,
        Option.getD_some] at hafter
      split at hafter
      · rename_i hexpired
        exact (of_decide_eq_true hexpired).1
      · exact absurd hafter hbefore.ne'

end

/-! ### Histories -/

/-- The table before the first batch. -/
def bare : Shelf := ⟨∅, none⟩

/-- The dates a sweep may go by for a row: no later than the row's own, or before the last
sweep. -/
def Covered (shelf : Shelf) (row : StockRow) (date : Timestamp) : Prop :=
  date ≤ row.expiryDate ∨ ∃ swept ∈ shelf.sweptAt, date < swept

/-- What is known of a history: of a SKU with units, a batch has come since it had none whose
date is covered. -/
structure Dated (ops : List ShelfOp) : Prop where
  nonneg : ∀ sku, 0 ≤ (History.after step bare ops).stock.available sku
  since : ∀ sku row, (History.after step bare ops).stock.lookup sku = some row → 0 < row.quantity.toInt →
    History.Since step bare (Out sku) (Stocked sku ((History.after step bare ops).Covered row)) ops

theorem dated_nil : Dated [] := by
  constructor
  · exact fun sku => le_refl 0
  · intro sku row hrow
    cases hrow

/-- A row with units is not out. -/
theorem not_out {shelf : Shelf} {sku : SKU} {row : StockRow} (hrow : shelf.stock.lookup sku = some row)
    (hpos : 0 < row.quantity.toInt) : ¬ Out sku shelf := by
  rw [Out, StockTable.available_of_lookup hrow]
  exact hpos.ne'

/-- **The step lemma.** -/
theorem Dated.snoc {ops : List ShelfOp} {op : ShelfOp} (hdated : Dated ops)
    (hallows : (History.after step bare ops).Allows op) (hsuits : (History.after step bare ops).Suits op) :
    Dated (ops ++ [op]) := by
  have hafter := History.after_snoc step bare ops op
  set shelf := History.after step bare ops
  constructor
  · rw [hafter]
    exact step_nonneg hallows hdated.nonneg
  · intro sku row' hrow' hpos
    have hloud := not_out hrow' hpos
    rw [hafter] at hrow'
    rcases step_row hallows hrow' with ⟨row, hrow, hdate, hsource⟩ | ⟨hnone, hstocked⟩
    · by_cases hunits : 0 < row.quantity.toInt
      · -- The batch that vouches for the row still does.
        refine ((hdated.since sku row hrow hunits).mono fun _ _ hevent => ?_).snoc hloud
        obtain ⟨item, stock', hop, hsku, hok, hcovered⟩ := hevent
        refine ⟨item, stock', hop, hsku, hok, ?_⟩
        rw [hafter]
        rcases hcovered with hdue | ⟨swept, hswept, hlate⟩
        · exact Or.inl (hdate ▸ hdue)
        · obtain ⟨later, hlater, hle⟩ := step_sweptAt hallows hswept
          exact Or.inr ⟨later, hlater, hlate.trans_le hle⟩
      · have hzero : row.quantity.toInt = 0 := by
          have hnonneg := hdated.nonneg sku
          rw [StockTable.available_of_lookup hrow] at hnonneg
          omega
        obtain ⟨item, stock', rfl, rfl, hok, _⟩ := hsource.resolve_left (by omega)
        refine History.Since.here rfl ⟨item, stock', rfl, rfl, hok, ?_⟩ hloud
        rw [hafter]
        rcases hsuits row hrow hzero with hdue | ⟨swept, hswept, hlate⟩
        · exact Or.inl (hdate ▸ hdue)
        · exact Or.inr ⟨swept, hswept, hlate⟩
    · obtain ⟨item, stock', hop, hsku, hok, hdate⟩ := hstocked
      exact History.Since.here rfl ⟨item, stock', hop, hsku, hok, Or.inl hdate.le⟩ hloud

/-- **The run lemma.** -/
theorem dated_along {ops : List ShelfOp}
    (halong : History.Along step bare (fun shelf op => shelf.Allows op ∧ shelf.Suits op) ops) : Dated ops := by
  induction ops using List.reverseRecOn with
  | nil => exact dated_nil
  | append_singleton ops op ih =>
      obtain ⟨hallows, hsuits⟩ := halong.last
      exact (ih halong.shorter).snoc hallows hsuits

/-- If a sweep takes the last units of the SKU, then since the SKU was out of units a
batch of it has come with an expiry date before the sweep. -/
def DiscardsExpired (ops : List ShelfOp) (now : Timestamp) (sku : SKU) : Prop :=
  0 < (History.after step bare ops).stock.available sku →
    (History.after step bare (ops ++ [ShelfOp.sweep now])).stock.available sku = 0 →
    History.Since step bare (Out sku) (Stocked sku (· < now)) ops

/-- A batch that does not suit its row is discarded by a sweep at its own expiry date. -/
theorem unsuited_discarded {ops : List ShelfOp} {item : StockItem}
    (hallows : (History.after step bare ops).Allows (.restock item))
    (hupsert : ∃ stock', (History.after step bare ops).stock.upsertStock item = .ok stock')
    (hunsuited : ¬ (History.after step bare ops).Suits (.restock item)) :
    (History.after step bare (ops ++ [ShelfOp.restock item])).Allows (.sweep item.expiryDate) ∧
      ¬ DiscardsExpired (ops ++ [ShelfOp.restock item]) item.expiryDate item.sku := by
  obtain ⟨stock', hok⟩ := hupsert
  set shelf := History.after step bare ops with hshelf
  simp only [Suits, not_forall, not_or, not_exists, not_and, not_le, not_lt] at hunsuited
  obtain ⟨row, hrow, hzero, hdate, hswept⟩ := hunsuited
  have hpositive : 0 < item.quantity.toInt := hallows
  have hout : Out item.sku shelf := (StockTable.available_of_lookup hrow).trans hzero
  have hafter : History.after step bare (ops ++ [ShelfOp.restock item]) = { shelf with stock := stock' } := by
    rw [History.after_snoc, ← hshelf, step, hok]
    rfl
  obtain ⟨written, hstock', _, hold⟩ := upsertStock_dates hok
  have hwritten : stock'.lookup item.sku = some written := by
    rw [hstock']
    exact AList.lookup_insert _
  have hunits : written.quantity.toInt = item.quantity.toInt := by
    have havailable := (StockTable.upsertStock_ok hok).1 item.sku
    rwa [if_pos rfl, StockTable.available_of_lookup hwritten, show shelf.stock.available item.sku = 0 from hout,
      zero_add] at havailable
  refine ⟨?_, fun hfair => ?_⟩
  · rw [hafter]
    exact hswept
  · have hsince := hfair ?_ ?_
    · obtain ⟨found, _, hop, _, _, hbefore⟩ := hsince.only hout
      cases hop
      exact lt_irrefl _ hbefore
    · rw [hafter, StockTable.available_of_lookup hwritten, hunits]
      exact hpositive
    · have hexpired : written.expired item.expiryDate = true := by
        apply decide_eq_true
        exact ⟨(hold row hrow).trans_lt hdate, hunits ▸ hpositive⟩
      rw [History.after_snoc, hafter]
      simp [step, StockTable.available, lookup_clearExpiredStock, hwritten, hexpired]

/-- **When sweeps discard only expired units.** In every history in which each batch that
comes to a row without units suits the row, they do. A batch that does not suit its row
can be discarded before it expires. -/
theorem sweeps_discard_expired (ops : List ShelfOp) :
    (History.Along step bare (fun shelf op => shelf.Allows op ∧ shelf.Suits op) ops →
      ∀ before now rest, ops = before ++ ShelfOp.sweep now :: rest → ∀ sku, DiscardsExpired before now sku) ∧
    ∀ item, History.Along step bare Allows (ops ++ [ShelfOp.restock item]) →
      (∃ stock', (History.after step bare ops).stock.upsertStock item = .ok stock') →
      ¬ (History.after step bare ops).Suits (.restock item) →
      ∃ now, (History.after step bare (ops ++ [ShelfOp.restock item])).Allows (.sweep now) ∧
        ¬ DiscardsExpired (ops ++ [ShelfOp.restock item]) now item.sku := by
  constructor
  · rintro halong before now rest rfl sku hpos hgone
    have hdated : Dated before := dated_along halong.shorter
    obtain ⟨hallows, _⟩ := halong before (.sweep now) rest rfl
    rw [History.after_snoc] at hgone
    obtain ⟨row, hrow, hunits, hexpired⟩ := sweep_discards hpos hgone
    refine (hdated.since sku row hrow hunits).mono fun _ _ hevent => ?_
    obtain ⟨item, stock', hop, hsku, hok, hcovered⟩ := hevent
    refine ⟨item, stock', hop, hsku, hok, ?_⟩
    rcases hcovered with hdue | ⟨swept, hswept, hlate⟩
    · exact hdue.trans_lt hexpired
    · exact hlate.trans_le (hallows swept hswept)
  · intro item halong hupsert hunsuited
    exact ⟨item.expiryDate, unsuited_discarded halong.last hupsert hunsuited⟩

/-! ### Milk -/

/-- A bottle of milk with this expiry date. -/
def bottle (expiryDate : Timestamp) : StockItem := ⟨"milk", "Milk", "dairy", 1, 1, 0, expiryDate⟩

/-- A bottle is sold, and the next one, which has an earlier date than the row, is
discarded when both dates are past. -/
theorem sweeps_discard_expired_sample :
    let ops : List ShelfOp := [.restock (bottle 10), .reserve ((∅ : ItemMap).insert "milk" 1),
      .restock (bottle 8)]
    0 < (History.after step bare ops).stock.available "milk" ∧
      (History.after step bare (ops ++ [ShelfOp.sweep 20])).stock.available "milk" = 0 ∧
      History.Since step bare (Out "milk") (Stocked "milk" (· < 20)) ops := by
  intro ops
  have hsold : ∀ row ∈ (History.after step bare [.restock (bottle 10),
      .reserve ((∅ : ItemMap).insert "milk" 1)]).stock.lookup "milk", 8 ≤ row.expiryDate := by
    decide +kernel
  have halong : History.Along step bare (fun shelf op => shelf.Allows op ∧ shelf.Suits op)
      (ops ++ [ShelfOp.sweep 20]) := by
    simp only [ops, List.cons_append, List.nil_append, History.along_cons]
    refine ⟨⟨by decide +kernel, fun row hrow => ?_⟩, ⟨by decide +kernel, trivial⟩,
      ⟨by decide +kernel, fun row hrow _ => Or.inl (hsold row hrow)⟩, ⟨by decide +kernel, trivial⟩,
      History.along_nil⟩
    cases hrow
  have hstocked : 0 < (History.after step bare ops).stock.available "milk" := by decide +kernel
  have hswept : (History.after step bare (ops ++ [ShelfOp.sweep 20])).stock.available "milk" = 0 := by
    decide +kernel
  exact ⟨hstocked, hswept, (sweeps_discard_expired _).1 halong ops 20 [] rfl "milk" hstocked hswept⟩

/-- A bottle is sold, and the next one is discarded at the date of the first, eighty days
before its own. -/
theorem unexpired_discarded :
    let ops : List ShelfOp := [.restock (bottle 10), .reserve ((∅ : ItemMap).insert "milk" 1),
      .restock (bottle 100)]
    History.Along step bare Allows (ops ++ [ShelfOp.sweep 20]) ∧
      0 < (History.after step bare ops).stock.available "milk" ∧
      (History.after step bare (ops ++ [ShelfOp.sweep 20])).stock.available "milk" = 0 ∧
      ¬ History.Since step bare (Out "milk") (Stocked "milk" (· < 20)) ops := by
  intro ops
  have hsold : Out "milk" (History.after step bare
      [.restock (bottle 10), .reserve ((∅ : ItemMap).insert "milk" 1)]) := by
    unfold Out
    decide +kernel
  refine ⟨?_, by decide +kernel, by decide +kernel, fun hsince => ?_⟩
  · simp only [ops, List.cons_append, List.nil_append, History.along_cons]
    exact ⟨by decide +kernel, by decide +kernel, by decide +kernel, by decide +kernel, History.along_nil⟩
  · have hlast : History.Since step bare (Out "milk") (Stocked "milk" (· < 20))
      ([ShelfOp.restock (bottle 10), .reserve ((∅ : ItemMap).insert "milk" 1)] ++
        [ShelfOp.restock (bottle 100)]) := hsince
    obtain ⟨item, _, hop, _, _, hbefore⟩ := hlast.only hsold
    cases hop
    exact absurd hbefore (by decide)

end Shelf

end AutoGrocery

import AutoGrocery.Relational.Table

/-!
Lists of keyed rows, read in two ways. A table built by inserting the rows in
order keeps the last row of each key, and a running sum keeps the total of all
rows of a key. For positive weights the two agree on a key exactly when at most
one row has it.
-/

namespace Relational

variable {A K V M : Type}

section

variable [DecidableEq K] (key : A → K)

/-- The last row with a key. -/
def lastRow (rows : List A) (k : K) : Option A :=
  rows.reverse.find? fun row => decide (key row = k)

@[simp] theorem lastRow_nil (k : K) : lastRow key [] k = none := rfl

theorem lastRow_append_singleton (rows : List A) (row : A) (k : K) :
    lastRow key (rows ++ [row]) k = if key row = k then some row else lastRow key rows k := by
  rw [lastRow, List.reverse_append, List.reverse_singleton, List.singleton_append, List.find?_cons]
  by_cases hkey : key row = k
  · simp [hkey]
  · simp [hkey, lastRow]

theorem lastRow_eq_none {rows : List A} {k : K} :
    lastRow key rows k = none ↔ k ∉ rows.map key := by
  simp [lastRow]

theorem of_lastRow {rows : List A} {k : K} {row : A} (h : lastRow key rows k = some row) :
    row ∈ rows ∧ key row = k := by
  constructor
  · exact List.mem_reverse.mp (List.mem_of_find?_eq_some h)
  · simpa using List.find?_some h

/-- A table built from the rows in order holds the last row of each key. -/
theorem Table.lookup_foldl (value : A → V) (rows : List A) (k : K) :
    (rows.foldl (fun (table : Table K V) row => table.insert (key row) (value row)) ∅).lookup k =
      (lastRow key rows k).map value := by
  induction rows using List.reverseRecOn with
  | nil => simp
  | append_singleton rows row ih =>
      rw [List.foldl_append, List.foldl_cons, List.foldl_nil, lastRow_append_singleton]
      by_cases hkey : key row = k
      · subst hkey
        simp
      · rw [AList.lookup_insert_ne (Ne.symm hkey), if_neg hkey]
        exact ih

end

/-! ### Totals -/

section

variable [DecidableEq K] [AddCommMonoid M] (key : A → K) (weight : A → M)

/-- The weight of all rows with a key. -/
def keyTotal (rows : List A) (k : K) : M :=
  (rows.map fun row => if key row = k then weight row else 0).sum

/-- The weight of the last row with a key. -/
def lastWeight (rows : List A) (k : K) : M := ((lastRow key rows k).map weight).getD 0

@[simp] theorem keyTotal_nil (k : K) : keyTotal key weight [] k = 0 := rfl

theorem keyTotal_append_singleton (rows : List A) (row : A) (k : K) :
    keyTotal key weight (rows ++ [row]) k =
      keyTotal key weight rows k + if key row = k then weight row else 0 := by
  simp [keyTotal]

theorem lastWeight_append_singleton (rows : List A) (row : A) (k : K) :
    lastWeight key weight (rows ++ [row]) k =
      if key row = k then weight row else lastWeight key weight rows k := by
  rw [lastWeight, lastRow_append_singleton]
  by_cases hkey : key row = k
  · simp [hkey]
  · simp [hkey, lastWeight]

variable {key weight}

theorem keyTotal_of_notMem {rows : List A} {k : K} (hnot : k ∉ rows.map key) :
    keyTotal key weight rows k = 0 := by
  apply List.sum_eq_zero
  intro amount hamount
  obtain ⟨row, hrow, rfl⟩ := List.mem_map.mp hamount
  exact if_neg fun hkey => hnot (List.mem_map.mpr ⟨row, hrow, hkey⟩)

/-- When no key repeats, a row is all there is under its key. -/
theorem keyTotal_of_mem {rows : List A} (hnodup : (rows.map key).Nodup) {row : A} (hrow : row ∈ rows) :
    keyTotal key weight rows (key row) = weight row := by
  induction rows with
  | nil => cases hrow
  | cons head rest ih =>
      obtain ⟨hnot, hrest⟩ := List.nodup_cons.mp hnodup
      have hcons : keyTotal key weight (head :: rest) (key row) =
          (if key head = key row then weight head else 0) + keyTotal key weight rest (key row) := by
        simp [keyTotal]
      rw [hcons]
      rcases List.mem_cons.mp hrow with rfl | hmem
      · rw [if_pos rfl, keyTotal_of_notMem hnot, add_zero]
      · have hne : key head ≠ key row := fun hkey => hnot (List.mem_map.mpr ⟨row, hmem, hkey.symm⟩)
        rw [if_neg hne, zero_add]
        exact ih hrest hmem

theorem keyTotal_eq_lastWeight_of_nodup {rows : List A} (hnodup : (rows.map key).Nodup) (k : K) :
    keyTotal key weight rows k = lastWeight key weight rows k := by
  rw [lastWeight]
  cases hlast : lastRow key rows k with
  | none => exact keyTotal_of_notMem ((lastRow_eq_none key).mp hlast)
  | some row =>
      obtain ⟨hrow, rfl⟩ := of_lastRow key hlast
      exact keyTotal_of_mem hnodup hrow

variable [PartialOrder M] [IsOrderedCancelAddMonoid M]

theorem keyTotal_nonneg {rows : List A} (hpos : ∀ row ∈ rows, 0 < weight row) (k : K) :
    0 ≤ keyTotal key weight rows k := by
  apply List.sum_nonneg
  intro amount hamount
  obtain ⟨row, hrow, rfl⟩ := List.mem_map.mp hamount
  split
  · exact (hpos row hrow).le
  · exact le_rfl

/-- Positive weights leave nothing on a key only if no row has it. -/
theorem keyTotal_eq_zero_iff {rows : List A} (hpos : ∀ row ∈ rows, 0 < weight row) (k : K) :
    keyTotal key weight rows k = 0 ↔ k ∉ rows.map key := by
  induction rows using List.reverseRecOn with
  | nil => simp
  | append_singleton rows row ih =>
      have hrows : ∀ found ∈ rows, 0 < weight found :=
        fun found hfound => hpos found (List.mem_append_left _ hfound)
      have hrow : 0 < weight row := hpos row (by simp)
      rw [keyTotal_append_singleton, List.map_append, List.mem_append, not_or]
      by_cases hkey : key row = k
      · have htotal : 0 < keyTotal key weight rows k + weight row :=
          add_pos_of_nonneg_of_pos (keyTotal_nonneg hrows k) hrow
        simp [hkey, htotal.ne']
      · simp [hkey, Ne.symm hkey, ih hrows]

/-- **Overwriting agrees with adding up** on a key exactly when at most one row
has it. -/
theorem keyTotal_eq_lastWeight_iff {rows : List A} (hpos : ∀ row ∈ rows, 0 < weight row) (k : K) :
    keyTotal key weight rows k = lastWeight key weight rows k ↔ (rows.map key).count k ≤ 1 := by
  induction rows using List.reverseRecOn with
  | nil => simp [lastWeight]
  | append_singleton rows row ih =>
      have hrows : ∀ found ∈ rows, 0 < weight found :=
        fun found hfound => hpos found (List.mem_append_left _ hfound)
      rw [keyTotal_append_singleton, lastWeight_append_singleton, List.map_append, List.count_append]
      by_cases hkey : key row = k
      · -- The last row alone must make up the total, so none before it has the key.
        rw [if_pos hkey, if_pos hkey, add_eq_right, keyTotal_eq_zero_iff hrows,
          ← List.count_eq_zero (l := rows.map key)]
        simp [hkey]
      · simp [hkey, ih hrows]

/-- On every key they agree exactly when no key repeats. -/
theorem keyTotal_eq_lastWeight_all_iff {rows : List A} (hpos : ∀ row ∈ rows, 0 < weight row) :
    (∀ k, keyTotal key weight rows k = lastWeight key weight rows k) ↔ (rows.map key).Nodup := by
  rw [List.nodup_iff_count_le_one]
  exact forall_congr' fun k => keyTotal_eq_lastWeight_iff hpos k

end

end Relational

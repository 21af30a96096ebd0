import Mathlib.Data.List.AList
import Mathlib.Tactic

/-!
Tables with a unique key column, as association lists without repeated keys.
`AList` supplies insertion, deletion and lookup. This module adds the
statements that touch many rows at once: a projection, an update that may fail
on a row and then changes nothing, and sums over the rows.
-/

namespace Relational

variable {K V W ε M : Type}

/-- Rows of type `V` under a unique key of type `K`. -/
abbrev Table (K V : Type) := AList (fun _ : K => V)

namespace Table

/-- Keep and recompute the rows for which `f` has a result. -/
def selectRows (f : K → V → Option W) (table : Table K V) : Table K W where
  entries := table.entries.filterMap fun row =>
    (f row.1 row.2).map fun value => ⟨row.1, value⟩
  nodupKeys := by
    have hsub : ((table.entries.filterMap fun row =>
        (f row.1 row.2).map fun value => (⟨row.1, value⟩ : Sigma fun _ : K => W)).map
          Sigma.fst).Sublist (table.entries.map Sigma.fst) := by
      induction table.entries with
      | nil => simp
      | cons row rest ih =>
          cases hrow : f row.1 row.2 with
          | none => simpa [hrow] using ih.cons row.1
          | some value => simpa [hrow] using ih
    exact hsub.nodup table.nodupKeys

section

variable [DecidableEq K]

@[simp] theorem lookup_selectRows (f : K → V → Option W) (table : Table K V) (key : K) :
    (table.selectRows f).lookup key = (table.lookup key).bind (f key) := by
  apply Option.ext
  intro value
  have hmem : ∀ row, row ∈ table.lookup key ↔ ⟨key, row⟩ ∈ table.entries :=
    fun row => AList.mem_lookup_iff
  constructor
  · intro hvalue
    have hentry := AList.mem_lookup_iff.mp hvalue
    obtain ⟨row, hrow, hmap⟩ := List.mem_filterMap.mp hentry
    obtain ⟨result, hresult, heq⟩ := Option.map_eq_some_iff.mp hmap
    cases heq
    exact Option.bind_eq_some_iff.mpr ⟨row.2, (hmem row.2).mpr hrow, hresult⟩
  · intro hvalue
    obtain ⟨row, hrow, hresult⟩ := Option.bind_eq_some_iff.mp hvalue
    apply AList.mem_lookup_iff.mpr
    exact List.mem_filterMap.mpr ⟨⟨key, row⟩, (hmem row).mp hrow, by simp [hresult]⟩

/-- A row found after an insert is the new one or stands under another key. -/
theorem lookup_insert_eq_some {table : Table K V} {key other : K} {value found : V} :
    (table.insert key value).lookup other = some found ↔
      (other = key ∧ found = value) ∨ (other ≠ key ∧ table.lookup other = some found) := by
  by_cases heq : other = key
  · subst heq
    simp [eq_comm]
  · simp [heq]

/-- A row found after an erase stood under another key before. -/
theorem lookup_erase_eq_some {table : Table K V} {key other : K} {found : V} :
    (table.erase key).lookup other = some found ↔
      other ≠ key ∧ table.lookup other = some found := by
  by_cases heq : other = key
  · subst heq
    simp
  · simp [heq]

end

/-! ### Tables built by inserting a list in order -/

section

variable [DecidableEq K] {A : Type} (key : A → K) (value : A → V)

/-- A row of the built table comes from the list or from the old table. -/
theorem mem_of_lookup_foldl (rows : List A) (table : Table K V) {k : K} {v : V}
    (h : (rows.foldl (fun (table : Table K V) row => table.insert (key row) (value row))
      table).lookup k = some v) :
    (∃ row ∈ rows, key row = k ∧ value row = v) ∨ table.lookup k = some v := by
  induction rows generalizing table with
  | nil => exact Or.inr h
  | cons row rest ih =>
      rcases ih (table.insert (key row) (value row)) h with ⟨found, hmem, hfound⟩ | hold
      · exact Or.inl ⟨found, List.mem_cons_of_mem _ hmem, hfound⟩
      · by_cases hkey : k = key row
        · subst hkey
          rw [AList.lookup_insert] at hold
          exact Or.inl ⟨row, List.mem_cons_self, rfl, Option.some.inj hold⟩
        · rw [AList.lookup_insert_ne hkey] at hold
          exact Or.inr hold

/-- Keys that are not in the list keep their old row. -/
theorem lookup_foldl_of_notMem (rows : List A) (table : Table K V) {k : K}
    (hkey : ∀ row ∈ rows, key row ≠ k) :
    (rows.foldl (fun (table : Table K V) row => table.insert (key row) (value row))
      table).lookup k = table.lookup k := by
  induction rows generalizing table with
  | nil => rfl
  | cons row rest ih =>
      have hne : k ≠ key row := (hkey row List.mem_cons_self).symm
      rw [List.foldl_cons, ih _ fun found hfound => hkey found (List.mem_cons_of_mem _ hfound),
        AList.lookup_insert_ne hne]

/-- When no key repeats, every entry of the list is in the built table. -/
theorem lookup_foldl_of_mem {rows : List A} (hnodup : (rows.map key).Nodup)
    (table : Table K V) {row : A} (hrow : row ∈ rows) :
    (rows.foldl (fun (table : Table K V) row => table.insert (key row) (value row))
      table).lookup (key row) = some (value row) := by
  induction rows generalizing table with
  | nil => cases hrow
  | cons head rest ih =>
      obtain ⟨hnot, hrest⟩ := List.nodup_cons.mp hnodup
      rcases List.mem_cons.mp hrow with rfl | hmem
      · rw [List.foldl_cons, lookup_foldl_of_notMem, AList.lookup_insert]
        intro found hfound heq
        exact hnot (List.mem_map.mpr ⟨found, hfound, heq⟩)
      · exact ih hrest _ hmem

end

/-- One statement that rewrites every row. If a row has no result, the
statement fails with that row's error and the table stays as it was. -/
def updateRows (f : K → V → Except ε W) (table : Table K V) : Except ε (Table K W) :=
  match table.entries.findSome? (fun row =>
      match f row.1 row.2 with
      | .error err => some err
      | .ok _ => none) with
  | some err => .error err
  | none => .ok (table.selectRows fun key row => (f key row).toOption)

/-- An update fails with the error of one of the rows. -/
theorem updateRows_error {f : K → V → Except ε W} {table : Table K V} {err : ε}
    (herror : table.updateRows f = .error err) : ∃ key row, f key row = .error err := by
  unfold updateRows at herror
  split at herror
  · rename_i found hfound
    cases herror
    obtain ⟨row, _, hrow⟩ := List.exists_of_findSome?_eq_some hfound
    refine ⟨row.1, row.2, ?_⟩
    split at hrow
    · rename_i hf
      rw [hf, Option.some.inj hrow]
    · cases hrow
  · cases herror

section

variable [DecidableEq K]

/-- A successful update computed every row, key by key. -/
theorem lookup_updateRows {f : K → V → Except ε W} {table : Table K V}
    {table' : Table K W} (hok : table.updateRows f = .ok table') (key : K) :
    (table'.lookup key = none ∧ table.lookup key = none) ∨
      ∃ row row', table.lookup key = some row ∧ f key row = .ok row' ∧
        table'.lookup key = some row' := by
  unfold updateRows at hok
  split at hok
  · cases hok
  · rename_i hnone
    cases hok
    cases hrow : table.lookup key with
    | none => exact Or.inl ⟨by simp [hrow], rfl⟩
    | some row =>
        have hentry : ⟨key, row⟩ ∈ table.entries := AList.mem_lookup_iff.mp hrow
        have hfine := List.findSome?_eq_none_iff.mp hnone _ hentry
        cases hf : f key row with
        | error err => simp [hf] at hfine
        | ok row' => exact Or.inr ⟨row, row', rfl, hf, by simp [hrow, hf, Except.toOption]⟩

/-- An update in which every row has a result does not fail. -/
theorem updateRows_isOk (f : K → V → Except ε W) (table : Table K V)
    (hrows : ∀ key row, table.lookup key = some row → ∃ row', f key row = .ok row') :
    ∃ table', table.updateRows f = .ok table' := by
  unfold updateRows
  have hnone : table.entries.findSome? (fun row =>
      match f row.1 row.2 with
      | .error err => some err
      | .ok _ => none) = none := by
    apply List.findSome?_eq_none_iff.mpr
    intro row hrow
    obtain ⟨row', hok⟩ := hrows row.1 row.2 (AList.mem_lookup_iff.mpr hrow)
    simp [hok]
  rw [hnone]
  exact ⟨_, rfl⟩

end

/-- An update that changes no row changes nothing. -/
theorem updateRows_self [DecidableEq K] (f : K → V → Except ε V) (table : Table K V)
    (hrows : ∀ key row, table.lookup key = some row → f key row = .ok row) :
    table.updateRows f = .ok table := by
  obtain ⟨table', hok⟩ := updateRows_isOk f table fun key row h => ⟨row, hrows key row h⟩
  have hselect := hok
  unfold updateRows at hselect
  split at hselect
  · cases hselect
  · have hsame : table.selectRows (fun key row => (f key row).toOption) = table := by
      apply AList.ext
      conv_rhs => rw [← List.filterMap_some (l := table.entries)]
      apply List.filterMap_congr
      intro row hrow
      simp [hrows row.1 row.2 (AList.mem_lookup_iff.mpr hrow), Except.toOption]
    rw [hsame] at hselect
    rw [hok, ← hselect]

/-- An update whose every row is taken back by a second one is undone by it. -/
theorem updateRows_undo [DecidableEq K] {f : K → V → Except ε W} (g : K → W → Except ε V)
    {table : Table K V} {table' : Table K W} (hok : table.updateRows f = .ok table')
    (hundo : ∀ key row row', table.lookup key = some row → f key row = .ok row' →
      g key row' = .ok row) :
    table'.updateRows g = .ok table := by
  have hrows : ∀ row ∈ table.entries, ∃ value, f row.1 row.2 = .ok value ∧
      g row.1 value = .ok row.2 := by
    intro row hrow
    have hlookup : table.lookup row.1 = some row.2 := AList.mem_lookup_iff.mpr hrow
    rcases lookup_updateRows hok row.1 with ⟨_, hnone⟩ | ⟨old, value, hold, hvalue, _⟩
    · rw [hlookup] at hnone
      cases hnone
    · rw [hlookup] at hold
      obtain rfl := Option.some.inj hold
      exact ⟨value, hvalue, hundo _ _ _ hlookup hvalue⟩
  have htable' : table' = table.selectRows fun key row => (f key row).toOption := by
    unfold updateRows at hok
    split at hok
    · cases hok
    · exact (Except.ok.inj hok).symm
  subst htable'
  have hback : (table.selectRows fun key row => (f key row).toOption).selectRows
      (fun key row => (g key row).toOption) = table := by
    apply AList.ext
    simp only [selectRows, List.filterMap_filterMap]
    conv_rhs => rw [← List.filterMap_some (l := table.entries)]
    apply List.filterMap_congr
    intro row hrow
    obtain ⟨value, hvalue, hold⟩ := hrows row hrow
    simp [hvalue, hold, Except.toOption]
  obtain ⟨result, hresult⟩ := updateRows_isOk g
    (table.selectRows fun key row => (f key row).toOption) (fun key row h => by
      rw [lookup_selectRows] at h
      obtain ⟨old, hold, hrow⟩ := Option.bind_eq_some_iff.mp h
      obtain ⟨value, hvalue, hg⟩ := hrows ⟨key, old⟩ (AList.mem_lookup_iff.mp hold)
      simp only [hvalue, Except.toOption, Option.some.injEq] at hrow
      exact ⟨old, hrow ▸ hg⟩)
  have hselect := hresult
  unfold updateRows at hselect
  split at hselect
  · cases hselect
  · rw [hback] at hselect
    rw [hresult, ← hselect]

/-- The sum of a weight over all rows. -/
def total [AddCommMonoid M] (weight : K → V → M) (table : Table K V) : M :=
  (table.entries.map fun row => weight row.1 row.2).sum

section

variable [AddCommMonoid M] (weight : K → V → M)

variable [DecidableEq K]

theorem total_insert_new {table : Table K V} {key : K} (hnew : table.lookup key = none)
    (value : V) :
    total weight (table.insert key value) = weight key value + total weight table := by
  have hmem : key ∉ table := AList.lookup_eq_none.mp hnew
  have hentries := AList.entries_insert_of_notMem (b := value) hmem
  simp only [total, hentries, List.map_cons, List.sum_cons]

theorem total_erase {table : Table K V} {key : K} {value : V}
    (hold : table.lookup key = some value) :
    weight key value + total weight (table.erase key) = total weight table := by
  have hkey : key ∈ table.entries.keys :=
    AList.lookup_isSome.mp (by rw [hold]; rfl)
  obtain ⟨found, before, after, hbefore, hsplit, herase⟩ := List.exists_of_kerase hkey
  have hfound : found = value := by
    have hentry : (⟨key, found⟩ : Sigma fun _ : K => V) ∈ table.entries := by
      rw [hsplit]; simp
    have := AList.mem_lookup_iff.mpr hentry
    rw [hold] at this
    exact (Option.some.inj this).symm
  subst hfound
  have hentries : (table.erase key).entries = before ++ after := herase
  simp only [total, hentries, hsplit, List.map_append, List.map_cons,
    List.sum_append, List.sum_cons]
  abel

/-- Overwriting a row trades its old weight for the new one. -/
theorem total_insert_old {table : Table K V} {key : K} {old : V}
    (hold : table.lookup key = some old) (value : V) :
    total weight (table.insert key value) + weight key old =
      total weight table + weight key value := by
  have hentries : (table.insert key value).entries =
      ⟨key, value⟩ :: (table.erase key).entries := rfl
  have hinsert : total weight (table.insert key value) =
      weight key value + total weight (table.erase key) := by
    simp only [total, hentries, List.map_cons, List.sum_cons]
  rw [hinsert, ← total_erase weight hold]
  abel

/-- Weights that agree on the rows of the table have the same sum. -/
theorem total_congr {table : Table K V} {other : K → V → M}
    (hrows : ∀ key value, table.lookup key = some value →
      weight key value = other key value) :
    total weight table = total other table := by
  unfold total
  congr 1
  apply List.map_congr_left
  intro row hrow
  exact hrows row.1 row.2 (AList.mem_lookup_iff.mpr hrow)

/-- Weights that agree on every other row trade the weight of one row. -/
theorem total_congr_except {table : Table K V} {key : K} {value : V}
    (hold : table.lookup key = some value) {other : K → V → M}
    (hrows : ∀ other' value', other' ≠ key → table.lookup other' = some value' →
      weight other' value' = other other' value') :
    total weight table + other key value = total other table + weight key value := by
  have hrest : total weight (table.erase key) = total other (table.erase key) := by
    apply total_congr
    intro other' value' hvalue
    obtain ⟨hne, hbefore⟩ := lookup_erase_eq_some.mp hvalue
    exact hrows other' value' hne hbefore
  rw [← total_erase weight hold, ← total_erase other hold, hrest]
  abel

end

end Table

end Relational

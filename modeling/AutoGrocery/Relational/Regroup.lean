import Mathlib.Tactic

/-!
Lists of keyed rows up to order and grouping. Rows of one key may be replaced by a
single row with their total weight. What is summed up by key does not notice.
-/

namespace Relational

variable {A K M : Type} [AddCommMonoid M] (key : A → K) (weight : A → M)

/-- The same rows in another order, or with rows of one key put together. -/
inductive Regroups : List A → List A → Prop where
  | perm {rows rows' : List A} : rows.Perm rows' → Regroups rows rows'
  | merge {part : List A} (rest : List A) {row : A} : part ≠ [] → (∀ found ∈ part, key found = key row) →
      weight row = (part.map weight).sum → Regroups (part ++ rest) (row :: rest)
  | symm {rows rows' : List A} : Regroups rows rows' → Regroups rows' rows
  | trans {rows rows' rows'' : List A} :
      Regroups rows rows' → Regroups rows' rows'' → Regroups rows rows''

namespace Regroups

variable {key weight} {rows rows' : List A}

/-- The keys are the same. -/
theorem keys (h : Regroups key weight rows rows') (k : K) : k ∈ rows.map key ↔ k ∈ rows'.map key := by
  induction h with
  | perm hperm => exact (hperm.map key).mem_iff
  | @merge part rest row hne hkey _ =>
      obtain ⟨first, hfirst⟩ := List.exists_mem_of_ne_nil part hne
      rw [List.map_append, List.mem_append, List.map_cons, List.mem_cons]
      apply or_congr_left
      constructor
      · intro hk
        obtain ⟨found, hfound, rfl⟩ := List.mem_map.mp hk
        exact hkey found hfound
      · rintro rfl
        exact List.mem_map.mpr ⟨first, hfirst, hkey first hfirst⟩
  | symm _ ih => exact ih.symm
  | trans _ _ ih ih' => exact ih.trans ih'

/-- **Sums by key do not change**, whatever is additive in the weights of a key. -/
theorem sum_eq {N : Type} [AddCommMonoid N] (h : Regroups key weight rows rows') (value : K → M →+ N) :
    (rows.map fun row => value (key row) (weight row)).sum =
      (rows'.map fun row => value (key row) (weight row)).sum := by
  induction h with
  | perm hperm => exact (hperm.map _).sum_eq
  | @merge part rest row _ hkey hweight =>
      have hpart : part.map (fun found => value (key found) (weight found)) =
          part.map (value (key row) ∘ weight) :=
        List.map_congr_left fun found hfound => by rw [hkey found hfound, Function.comp_apply]
      rw [List.map_append, List.sum_append, List.map_cons, List.sum_cons, hpart, hweight,
        map_list_sum, List.map_map]
  | symm _ ih => exact ih.symm
  | trans _ _ ih ih' => exact ih.trans ih'

end Regroups

end Relational

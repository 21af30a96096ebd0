import AutoGrocery.Relational.Table

/-!
Serial ids. A table draws the ids of its rows from a sequence that only moves on.
An `INSERT` gives a row the next id. With `ON CONFLICT DO UPDATE` a row that is
there keeps its id and the sequence moves on all the same.
-/

namespace Relational

variable {K V : Type} [DecidableEq K]

namespace Table

/-- Ids are below the next one of the sequence, and no two rows share one. -/
structure Serial (id : V → Nat) (next : Nat) (table : Table K V) : Prop where
  issued : ∀ {key row}, table.lookup key = some row → id row < next
  distinct : ∀ {key other row row'}, table.lookup key = some row →
    table.lookup other = some row' → id row = id row' → key = other

section

variable {id : V → Nat} {next next' : Nat} {table : Table K V} {key : K} {row : V}

/-- The same of the rows as they are listed, to be checked on a given table. -/
theorem serial_of_entries (hissued : ∀ row ∈ table.entries, id row.2 < next)
    (hdistinct : (table.entries.map fun row => id row.2).Nodup) : Serial id next table := by
  constructor
  · intro key row hrow
    exact hissued ⟨key, row⟩ (AList.mem_lookup_iff.mp hrow)
  · intro key other row row' hrow hrow' heq
    have hsame := List.inj_on_of_nodup_map hdistinct (AList.mem_lookup_iff.mp hrow)
      (AList.mem_lookup_iff.mp hrow') heq
    exact congrArg Sigma.fst hsame

/-- The sequence may move on. -/
theorem Serial.mono (hserial : Serial id next table) (hle : next ≤ next') : Serial id next' table :=
  ⟨fun hrow => (hserial.issued hrow).trans_le hle, hserial.distinct⟩

/-- A new row with the next id. -/
theorem Serial.insert_new (hserial : Serial id next table) (hid : id row = next) :
    Serial id (next + 1) (table.insert key row) := by
  constructor
  · intro other found hfound
    rcases lookup_insert_eq_some.mp hfound with ⟨_, rfl⟩ | ⟨_, hbefore⟩
    · omega
    · exact (hserial.issued hbefore).trans (Nat.lt_succ_self next)
  · intro left right found found' hfound hfound' heq
    rcases lookup_insert_eq_some.mp hfound with ⟨rfl, rfl⟩ | ⟨_, hbefore⟩ <;>
      rcases lookup_insert_eq_some.mp hfound' with ⟨rfl, rfl⟩ | ⟨_, hbefore'⟩
    · rfl
    · exact absurd (hserial.issued hbefore') (by omega)
    · exact absurd (hserial.issued hbefore) (by omega)
    · exact hserial.distinct hbefore hbefore' heq

/-- A row that is rewritten under its old id. -/
theorem Serial.insert_old (hserial : Serial id next table) {old : V} (hold : table.lookup key = some old)
    (hid : id row = id old) : Serial id next (table.insert key row) := by
  -- Every row of the new table has the id of the row that stood under its key.
  have hbefore {other : K} {found : V} (hfound : (table.insert key row).lookup other = some found) :
      ∃ before, table.lookup other = some before ∧ id before = id found := by
    rcases lookup_insert_eq_some.mp hfound with ⟨rfl, rfl⟩ | ⟨_, hother⟩
    · exact ⟨old, hold, hid.symm⟩
    · exact ⟨found, hother, rfl⟩
  constructor
  · intro other found hfound
    obtain ⟨before, hlookup, heq⟩ := hbefore hfound
    rw [← heq]
    exact hserial.issued hlookup
  · intro left right found found' hfound hfound' heq
    obtain ⟨before, hlookup, hsame⟩ := hbefore hfound
    obtain ⟨before', hlookup', hsame'⟩ := hbefore hfound'
    exact hserial.distinct hlookup hlookup' (by rw [hsame, hsame', heq])

/-- `ON CONFLICT DO UPDATE`: the id of the row that is there, or else the next one. -/
theorem Serial.upsert (hserial : Serial id next table)
    (hid : id row = ((table.lookup key).map id).getD next) : Serial id (next + 1) (table.insert key row) := by
  cases hold : table.lookup key with
  | none =>
      rw [hold] at hid
      exact hserial.insert_new hid
  | some old =>
      rw [hold] at hid
      exact (hserial.insert_old hold hid).mono (Nat.le_succ next)

end

end Table

end Relational

import Mathlib.Tactic

/-!
What a read of a register may find when writes can lose their acknowledgement. An
event may have written a value under a key, and it settles the key when it certainly
has. A read finds the value of some event that may have written it and since when the
key was not settled, or the value from the start if the key was never settled.
-/

namespace Interleaving

namespace Register

variable {K V E : Type} (writes : E → K → V → Prop) (settles : E → K → Prop) (start : K → Option V)

/-- What was found under a key goes back to a write of the history that no settled write
came after, or to the start. -/
def Explains (history : List E) (key : K) (found : Option V) : Prop :=
  (∃ before event after value, history = before ++ event :: after ∧ found = some value ∧
    writes event key value ∧ ∀ later ∈ after, ¬ settles later key) ∨
  (found = start key ∧ ∀ event ∈ history, ¬ settles event key)

section

variable {writes settles start} {history : List E} {key : K} {found found' : Option V} {event : E}

theorem Explains.opening : Explains writes settles start [] key (start key) :=
  Or.inr ⟨rfl, fun _ hevent => absurd hevent List.not_mem_nil⟩

/-- A write that was just made. -/
theorem Explains.here {value : V} (hwrites : writes event key value) :
    Explains writes settles start (history ++ [event]) key (some value) :=
  Or.inl ⟨history, event, [], value, rfl, rfl, hwrites, fun _ hlater => absurd hlater List.not_mem_nil⟩

/-- An event that does not settle the key. -/
theorem Explains.snoc (hexplains : Explains writes settles start history key found)
    (hnot : ¬ settles event key) : Explains writes settles start (history ++ [event]) key found := by
  rcases hexplains with ⟨before, write, after, value, rfl, rfl, hwrites, hafter⟩ | ⟨rfl, hnone⟩
  · refine Or.inl ⟨before, write, after ++ [event], value, by simp, rfl, hwrites, fun later hlater => ?_⟩
    rcases List.mem_append.mp hlater with hold | hnew
    · exact hafter later hold
    · rwa [List.mem_singleton.mp hnew]
  · refine Or.inr ⟨rfl, fun earlier hearlier => ?_⟩
    rcases List.mem_append.mp hearlier with hold | hnew
    · exact hnone earlier hold
    · rwa [List.mem_singleton.mp hnew]

/-- **The step lemma** of a register: an event leaves a key alone and does not settle it,
or writes it. -/
theorem Explains.step (hexplains : Explains writes settles start history key found)
    (hstep : (found' = found ∧ ¬ settles event key) ∨ ∃ value, found' = some value ∧ writes event key value) :
    Explains writes settles start (history ++ [event]) key found' := by
  rcases hstep with ⟨rfl, hnot⟩ | ⟨value, rfl, hwrites⟩
  · exact hexplains.snoc hnot
  · exact .here hwrites

end

end Register

end Interleaving

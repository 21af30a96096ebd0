import Mathlib.Tactic

/-!
Histories of a machine that takes one step after another, and what has happened in
them since a condition held last. The condition looks at the states, and what happens
is a step together with the state it was taken in.
-/

namespace Interleaving

namespace History

variable {σ ο : Type} (step : σ → ο → σ) (start : σ)

/-- The state after some steps. -/
def after (ops : List ο) : σ := ops.foldl step start

theorem after_snoc (ops : List ο) (op : ο) :
    after step start (ops ++ [op]) = step (after step start ops) op := List.foldl_concat step start op ops

/-- Every step is allowed in the state it is taken in. -/
def Along (allowed : σ → ο → Prop) (ops : List ο) : Prop :=
  ∀ before op rest, ops = before ++ op :: rest → allowed (after step start before) op

/-- The condition held at some moment and at none after it, and since that moment there
was a step like this. -/
def Since (condition : σ → Prop) (event : σ → ο → Prop) (ops : List ο) : Prop :=
  ∃ early recent, ops = early ++ recent ∧ condition (after step start early) ∧
    (∀ later, later ≠ [] → later <+: recent → ¬ condition (after step start (early ++ later))) ∧
    ∃ before op rest, recent = before ++ op :: rest ∧ event (after step start (early ++ before)) op

section

variable {step start} {allowed : σ → ο → Prop} {condition : σ → Prop}
  {event event' : σ → ο → Prop} {ops : List ο} {op : ο}

/-! ### Allowed steps -/

theorem along_nil : Along step start allowed [] := by
  intro before op rest hops
  cases before <;> cases hops

theorem along_cons : Along step start allowed (op :: ops) ↔
    allowed start op ∧ Along step (step start op) allowed ops := by
  constructor
  · intro halong
    refine ⟨halong [] op ops rfl, fun before found rest hops => ?_⟩
    exact halong (op :: before) found rest (by rw [hops, List.cons_append])
  · rintro ⟨hfirst, hrest⟩ before found rest hops
    cases before with
    | nil =>
        obtain ⟨rfl, _⟩ := List.cons.inj hops
        exact hfirst
    | cons head tail =>
        obtain ⟨rfl, htail⟩ := List.cons.inj hops
        exact hrest tail found rest htail

/-- The steps of a shorter history. -/
theorem Along.shorter {rest : List ο} (halong : Along step start allowed (ops ++ rest)) :
    Along step start allowed ops := by
  intro before op later hops
  apply halong before op (later ++ rest)
  rw [hops, List.append_assoc, List.cons_append]

/-- The last step. -/
theorem Along.last (halong : Along step start allowed (ops ++ [op])) : allowed (after step start ops) op :=
  halong ops op [] rfl

/-! ### What has happened since -/

theorem Since.mono (hsince : Since step start condition event ops)
    (himp : ∀ state op, event state op → event' state op) : Since step start condition event' ops := by
  obtain ⟨early, recent, hops, hheld, hnever, before, op, rest, hrecent, hevent⟩ := hsince
  exact ⟨early, recent, hops, hheld, hnever, before, op, rest, hrecent, himp _ _ hevent⟩

/-- A condition that has not held lately still has not after a step that leaves it
false. -/
private theorem never_snoc {early recent : List ο}
    (hnever : ∀ later, later ≠ [] → later <+: recent → ¬ condition (after step start (early ++ later)))
    (hnow : ¬ condition (after step start (early ++ recent ++ [op]))) (later : List ο) (hne : later ≠ [])
    (hearlier : later <+: recent ++ [op]) : ¬ condition (after step start (early ++ later)) := by
  rcases List.prefix_concat_iff.mp hearlier with rfl | hshorter
  · rwa [← List.append_assoc]
  · exact hnever later hne hshorter

/-- A condition that held at the start held last at some moment. -/
theorem exists_last (hstart : condition start) (ops : List ο) :
    ∃ early recent, ops = early ++ recent ∧ condition (after step start early) ∧
      ∀ later, later ≠ [] → later <+: recent → ¬ condition (after step start (early ++ later)) := by
  induction ops using List.reverseRecOn with
  | nil => exact ⟨[], [], rfl, hstart, fun later hne hearlier => absurd (List.prefix_nil.mp hearlier) hne⟩
  | append_singleton ops op ih =>
      by_cases hnow : condition (after step start (ops ++ [op]))
      · refine ⟨ops ++ [op], [], (List.append_nil _).symm, hnow, fun later hne hearlier => ?_⟩
        exact absurd (List.prefix_nil.mp hearlier) hne
      · obtain ⟨early, recent, rfl, hheld, hnever⟩ := ih
        exact ⟨early, recent ++ [op], List.append_assoc _ _ _, hheld, never_snoc hnever hnow⟩

/-- It is still so after a step that leaves the condition false. -/
theorem Since.snoc (hsince : Since step start condition event ops)
    (hnow : ¬ condition (after step start (ops ++ [op]))) : Since step start condition event (ops ++ [op]) := by
  obtain ⟨early, recent, rfl, hheld, hnever, before, found, rest, rfl, hevent⟩ := hsince
  exact ⟨early, before ++ found :: rest ++ [op], List.append_assoc _ _ _, hheld, never_snoc hnever hnow,
    before, found, rest ++ [op], by simp, hevent⟩

/-- The step that was just taken. -/
theorem Since.here (hstart : condition start) (hevent : event (after step start ops) op)
    (hnow : ¬ condition (after step start (ops ++ [op]))) : Since step start condition event (ops ++ [op]) := by
  obtain ⟨early, recent, rfl, hheld, hnever⟩ := @exists_last _ _ step start condition hstart ops
  exact ⟨early, recent ++ [op], List.append_assoc _ _ _, hheld, never_snoc hnever hnow,
    recent, op, [], rfl, hevent⟩

/-- Right after the condition has held only the last step can be meant. -/
theorem Since.only (hsince : Since step start condition event (ops ++ [op]))
    (hbefore : condition (after step start ops)) : event (after step start ops) op := by
  obtain ⟨early, recent, hops, hheld, hnever, before, found, rest, rfl, hevent⟩ := hsince
  -- The steps since are not empty, and their last is `op`.
  obtain ⟨shorter, last, hlast⟩ : ∃ shorter last, before ++ found :: rest = shorter ++ [last] :=
    ⟨_, _, (List.dropLast_concat_getLast (by simp)).symm⟩
  rw [hlast, ← List.append_assoc] at hops
  obtain ⟨rfl, hop⟩ := List.append_inj' hops rfl
  obtain rfl : op = last := List.singleton_inj.mp hop
  have hshorter : shorter = [] := by
    by_contra hne
    refine hnever shorter hne ?_ hbefore
    rw [hlast]
    exact List.prefix_append _ _
  subst hshorter
  cases before with
  | cons head tail => simp at hlast
  | nil =>
      obtain ⟨rfl, _⟩ := List.cons.inj hlast
      exact hevent

end

end History

end Interleaving

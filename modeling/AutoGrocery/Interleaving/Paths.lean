import AutoGrocery.Interleaving.Program

/-!
What a program can do when its operations are answered by anything at all. A path is
one sequence of operations and answers from the first operation of a program to its
value. A run alone is a path, and so is what one thread does in any interleaving.

A program over some operations is also a program over more operations, and its paths
there are its own.
-/

namespace Interleaving

variable {Op Op' : Type} {Ans : Op → Type} {Ans' : Op' → Type} {α β σ : Type}

namespace Prog

/-- The program can perform these operations, get these answers and end with the value. -/
inductive Path : Prog Ans α → List (Event Ans) → α → Prop where
  | ret (value : α) : Path (.ret value) [] value
  | call {op : Op} {next : Ans op → Prog Ans α} (ans : Ans op) {trace : List (Event Ans)} {value : α} :
      Path (next ans) trace value → Path (.call op next) (⟨op, ans⟩ :: trace) value

section

variable {trace : List (Event Ans)} {value : α}

theorem path_ret {value' : α} : (Prog.ret value' : Prog Ans α).Path trace value ↔
    trace = [] ∧ value' = value := by
  constructor
  · intro hpath
    cases hpath
    exact ⟨rfl, rfl⟩
  · rintro ⟨rfl, rfl⟩
    exact .ret _

theorem path_call {op : Op} {next : Ans op → Prog Ans α} : (Prog.call op next).Path trace value ↔
    ∃ ans rest, trace = ⟨op, ans⟩ :: rest ∧ (next ans).Path rest value := by
  constructor
  · intro hpath
    cases hpath with
    | call ans hrest => exact ⟨ans, _, rfl, hrest⟩
  · rintro ⟨ans, rest, rfl, hrest⟩
    exact .call ans hrest

/-- A path of a sequence is a path of its first part and then one of the rest. -/
theorem path_bind {first : Prog Ans β} {rest : β → Prog Ans α} : (first >>= rest).Path trace value ↔
    ∃ early late middle, trace = early ++ late ∧ first.Path early middle ∧ (rest middle).Path late value := by
  constructor
  · intro hpath
    induction first generalizing trace with
    | ret middle => exact ⟨[], trace, middle, rfl, .ret middle, hpath⟩
    | call op next ih =>
        obtain ⟨ans, later, rfl, hlater⟩ := path_call.mp hpath
        obtain ⟨early, late, middle, rfl, hearly, hlate⟩ := ih ans hlater
        exact ⟨⟨op, ans⟩ :: early, late, middle, rfl, .call ans hearly, hlate⟩
  · rintro ⟨early, late, middle, rfl, hearly, hlate⟩
    induction hearly with
    | ret middle => exact hlate
    | call ans _ ih => exact .call ans (ih hlate)

end

/-- Every path of the program ends with such a value. -/
inductive Ends (P : α → Prop) : Prog Ans α → Prop where
  | ret {value : α} : P value → Ends P (.ret value)
  | call {op : Op} {next : Ans op → Prog Ans α} : (∀ ans, Ends P (next ans)) → Ends P (.call op next)

theorem Ends.path {P : α → Prop} {prog : Prog Ans α} (hends : prog.Ends P) {trace : List (Event Ans)}
    {value : α} (hpath : prog.Path trace value) : P value := by
  induction hpath with
  | ret value =>
      cases hends with
      | ret hvalue => exact hvalue
  | call ans _ ih =>
      cases hends with
      | call hnext => exact ih (hnext ans)

theorem Ends.bind {P : β → Prop} {Q : α → Prop} {first : Prog Ans β} {rest : β → Prog Ans α}
    (hfirst : first.Ends P) (hrest : ∀ value, P value → (rest value).Ends Q) : (first >>= rest).Ends Q := by
  induction hfirst with
  | ret hvalue => exact hrest _ hvalue
  | call _ ih => exact .call ih

/-- A run alone is a path. -/
theorem run_path (handler : Handler Ans σ) (prog : Prog Ans α) (state : σ) :
    prog.Path (prog.run handler state).trace (prog.run handler state).value := by
  induction prog generalizing state with
  | ret value => exact .ret value
  | call op next ih => exact .call _ (ih _ _)

/-- The same program over other operations, with its answers read off theirs. -/
def lift (wrap : Op → Op') (unwrap : ∀ op, Ans' (wrap op) → Ans op) : Prog Ans α → Prog Ans' α
  | .ret value => .ret value
  | .call op next => .call (wrap op) fun ans => (next (unwrap op ans)).lift wrap unwrap

theorem Ends.lift {P : α → Prop} {prog : Prog Ans α} (hends : prog.Ends P) (wrap : Op → Op')
    (unwrap : ∀ op, Ans' (wrap op) → Ans op) : (prog.lift wrap unwrap).Ends P := by
  induction hends with
  | ret hvalue => exact .ret hvalue
  | call _ ih => exact .call fun ans => ih (unwrap _ ans)

/-- The operations of a lifted program make a path of the program itself. -/
theorem path_lift {wrap : Op → Op'} {unwrap : ∀ op, Ans' (wrap op) → Ans op}
    {back : Event Ans' → Option (Event Ans)} {prog : Prog Ans α} {trace : List (Event Ans')} {value : α}
    (hpath : (prog.lift wrap unwrap).Path trace value)
    (hback : ∀ op ans, back ⟨wrap op, ans⟩ = some ⟨op, unwrap op ans⟩) :
    prog.Path (trace.filterMap back) value := by
  induction prog generalizing trace with
  | ret value' =>
      obtain ⟨rfl, rfl⟩ := path_ret.mp hpath
      exact .ret _
  | call op next ih =>
      obtain ⟨ans, rest, rfl, hrest⟩ := path_call.mp hpath
      rw [List.filterMap_cons_some (hback op ans)]
      exact .call _ (ih _ hrest)

end Prog

end Interleaving

import AutoGrocery.Interleaving.Program

/-!
Rely and guarantee for programs that share a state. Between two operations of a program
the others may change the state, and what they may change is a relation `later`. A
program keeps the rules when each of its operations is one the rules allow in whatever
state it finds, and it ends in a state and with a value it promised.

The rules say once what an allowed operation does to the state. A program then has to
be looked at alone, and no two programs have to be compared.
-/

namespace Interleaving

variable {Op : Type} {Ans : Op → Type} {α β σ : Type}

/-- The rules for programs over one state: what an operation can do, when it is allowed,
what always holds of the state and how the state goes on. -/
structure Rules {Op : Type} (Ans : Op → Type) (σ : Type) where
  does : σ → (op : Op) → Ans op → σ → Prop
  allowed : σ → Op → Prop
  invariant : σ → Prop
  later : σ → σ → Prop
  refl : ∀ state, later state state
  trans : ∀ {first second third}, later first second → later second third → later first third
  kept : ∀ {state op ans state'}, invariant state → allowed state op → does state op ans state' →
    later state state' ∧ invariant state'

namespace Prog

/-- From this state on the program keeps the rules, whatever others do in between, and
ends with what is promised. -/
inductive Keeps (rules : Rules Ans σ) (promised : σ → α → Prop) : Prog Ans α → σ → Prop where
  | ret {value : α} {state : σ} : promised state value → Keeps rules promised (.ret value) state
  | call {op : Op} {next : Ans op → Prog Ans α} {state : σ} :
      (∀ state', rules.later state state' → rules.invariant state' → rules.allowed state' op) →
      (∀ state' ans state'', rules.later state state' → rules.invariant state' →
        rules.does state' op ans state'' → Keeps rules promised (next ans) state'') →
      Keeps rules promised (.call op next) state

section

variable {rules : Rules Ans σ} {promised : σ → α → Prop} {state state' : σ}

/-- An operation, with what the rules say of its effect. -/
theorem Keeps.perform {op : Op} {next : Ans op → Prog Ans α}
    (hallowed : ∀ state', rules.later state state' → rules.invariant state' → rules.allowed state' op)
    (hnext : ∀ state' ans state'', rules.later state state' → rules.invariant state' →
      rules.does state' op ans state'' → rules.later state' state'' → rules.invariant state'' →
      (next ans).Keeps rules promised state'') : (Prog.call op next).Keeps rules promised state := by
  refine .call hallowed fun state' ans state'' hlater hinvariant hdoes => ?_
  obtain ⟨hlater', hinvariant'⟩ := rules.kept hinvariant (hallowed state' hlater hinvariant) hdoes
  exact hnext state' ans state'' hlater hinvariant hdoes hlater' hinvariant'

/-- What others do does not make a program break the rules. -/
theorem Keeps.later {prog : Prog Ans α} (hkeeps : prog.Keeps rules promised state)
    (hlater : rules.later state state')
    (hstable : ∀ {state state' value}, promised state value → rules.later state state' → promised state' value) :
    prog.Keeps rules promised state' := by
  cases hkeeps with
  | ret hvalue => exact .ret (hstable hvalue hlater)
  | call hallowed hnext =>
      exact .call (fun _ hlater' => hallowed _ (rules.trans hlater hlater'))
        fun _ _ _ hlater' => hnext _ _ _ (rules.trans hlater hlater')

/-- One operation of a program that keeps the rules. -/
theorem Keeps.step {op : Op} {next : Ans op → Prog Ans α}
    (hkeeps : (Prog.call op next).Keeps rules promised state) (hinvariant : rules.invariant state)
    {ans : Ans op} (hdoes : rules.does state op ans state') :
    rules.later state state' ∧ rules.invariant state' ∧ (next ans).Keeps rules promised state' := by
  cases hkeeps with
  | call hallowed hnext =>
      obtain ⟨hlater, hinvariant'⟩ :=
        rules.kept hinvariant (hallowed state (rules.refl state) hinvariant) hdoes
      exact ⟨hlater, hinvariant', hnext _ _ _ (rules.refl state) hinvariant hdoes⟩

/-- A program may promise less. -/
theorem Keeps.weaken {promised' : σ → α → Prop} {prog : Prog Ans α} (hkeeps : prog.Keeps rules promised state)
    (himp : ∀ state' value, rules.later state state' → promised state' value → promised' state' value) :
    prog.Keeps rules promised' state := by
  induction hkeeps with
  | ret hvalue => exact .ret (himp _ _ (rules.refl _) hvalue)
  | call hallowed _ ih =>
      refine .call hallowed fun state' ans state'' hlater hinvariant hdoes => ?_
      obtain ⟨hlater', _⟩ := rules.kept hinvariant (hallowed state' hlater hinvariant) hdoes
      exact ih state' ans state'' hlater hinvariant hdoes fun last value hlast =>
        himp last value (rules.trans hlater (rules.trans hlater' hlast))

theorem Keeps.bind {middle : σ → β → Prop} {first : Prog Ans β} {rest : β → Prog Ans α}
    (hfirst : first.Keeps rules middle state)
    (hrest : ∀ state' value, rules.later state state' → middle state' value →
      (rest value).Keeps rules promised state') :
    (first >>= rest).Keeps rules promised state := by
  induction hfirst with
  | ret hvalue => exact hrest _ _ (rules.refl _) hvalue
  | call hallowed _ ih =>
      refine .call hallowed fun state' ans state'' hlater hinvariant hdoes => ?_
      obtain ⟨hlater', _⟩ := rules.kept hinvariant (hallowed state' hlater hinvariant) hdoes
      exact ih state' ans state'' hlater hinvariant hdoes fun last value hlast =>
        hrest last value (rules.trans hlater (rules.trans hlater' hlast))

end

end Prog

end Interleaving

import Mathlib.Tactic

/-!
Service code as resumption programs. A program performs one atomic operation
at a time: a database statement, a cache command or a remote call. Whatever
happens between two operations is decided outside the program, so the same
term can be run alone, run under a script of faults, or interleaved with any
number of other programs.

The operations and their answer types are parameters. Nothing here fixes what
an operation does; a `Handler` supplies that for one kind of state.
-/

namespace Interleaving

variable {Op : Type} {Ans : Op → Type} {α β σ φ : Type}

/-- A program over the operations `Op`, ending with a value of type `α`. -/
inductive Prog {Op : Type} (Ans : Op → Type) (α : Type) : Type where
  | ret (value : α)
  | call (op : Op) (next : Ans op → Prog Ans α)

/-- An operation together with the answer it got. -/
structure Event {Op : Type} (Ans : Op → Type) where
  op : Op
  ans : Ans op

namespace Prog

def bind : Prog Ans α → (α → Prog Ans β) → Prog Ans β
  | .ret value, rest => rest value
  | .call op next, rest => .call op fun ans => (next ans).bind rest

instance : Monad (Prog Ans) where
  pure := .ret
  bind := Prog.bind

@[simp] theorem pure_eq (value : α) : (pure value : Prog Ans α) = .ret value := rfl

@[simp] theorem ret_bind (value : α) (rest : α → Prog Ans β) :
    (Prog.ret value >>= rest) = rest value := rfl

@[simp] theorem call_bind (op : Op) (next : Ans op → Prog Ans α)
    (rest : α → Prog Ans β) :
    (Prog.call op next >>= rest) = .call op (fun ans => next ans >>= rest) := rfl

/-- The operation the program performs next, if it has not ended. -/
def next? : Prog Ans α → Option Op
  | .ret _ => none
  | .call op _ => some op

@[simp] theorem next?_ret (value : α) : (Prog.ret value : Prog Ans α).next? = none := rfl

@[simp] theorem next?_call (op : Op) (next : Ans op → Prog Ans α) :
    (Prog.call op next).next? = some op := rfl

/-- Every operation the program can still perform, on any path, is allowed. -/
inductive Uses (allowed : Op → Prop) : Prog Ans α → Prop where
  | ret (value : α) : Uses allowed (.ret value)
  | call {op : Op} {next : Ans op → Prog Ans α} :
      allowed op → (∀ ans, Uses allowed (next ans)) → Uses allowed (.call op next)

theorem Uses.bind {allowed : Op → Prop} {first : Prog Ans α} {rest : α → Prog Ans β}
    (hfirst : first.Uses allowed) (hrest : ∀ value, (rest value).Uses allowed) :
    (first >>= rest).Uses allowed := by
  induction hfirst with
  | ret value => exact hrest value
  | call hop _ ih => exact .call hop ih

theorem Uses.mono {allowed wider : Op → Prop} {prog : Prog Ans α} (huses : prog.Uses allowed)
    (himp : ∀ op, allowed op → wider op) : prog.Uses wider := by
  induction huses with
  | ret value => exact .ret value
  | call hop _ ih => exact .call (himp _ hop) ih

/-- The program keeps to a protocol: the rule allows its next operation from the
phase it is in, and leads to a phase it goes on from, whatever is answered. -/
def Follows {P : Type} (rule : P → (op : Op) → Ans op → P → Prop) : Prog Ans α → P → Prop
  | .ret _, _ => True
  | .call op next, phase =>
      ∀ ans, ∃ phase', rule phase op ans phase' ∧ (next ans).Follows rule phase'

/-- A program that keeps to a protocol performs operations of the protocol. -/
theorem Follows.uses {P : Type} {rule : P → (op : Op) → Ans op → P → Prop} {allowed : Op → Prop}
    [∀ op, Nonempty (Ans op)] (hrule : ∀ phase op ans phase', rule phase op ans phase' → allowed op)
    {prog : Prog Ans α} {phase : P} (hfollows : prog.Follows rule phase) : prog.Uses allowed := by
  induction prog generalizing phase with
  | ret value => exact .ret value
  | call op next ih =>
      obtain ⟨answer⟩ : Nonempty (Ans op) := inferInstance
      obtain ⟨_, hop, _⟩ := hfollows answer
      refine .call (hrule _ _ _ _ hop) fun ans => ?_
      obtain ⟨_, _, hnext⟩ := hfollows ans
      exact ih ans hnext

/-- The same from a phase of a kind the protocol does not leave. -/
theorem Follows.uses_within {P : Type} {rule : P → (op : Op) → Ans op → P → Prop} {allowed : Op → Prop}
    [∀ op, Nonempty (Ans op)] {kind : P → Prop}
    (hrule : ∀ phase op ans phase', kind phase → rule phase op ans phase' → allowed op ∧ kind phase')
    {prog : Prog Ans α} {phase : P} (hfollows : prog.Follows rule phase) (hkind : kind phase) :
    prog.Uses allowed := by
  induction prog generalizing phase with
  | ret value => exact .ret value
  | call op next ih =>
      obtain ⟨answer⟩ : Nonempty (Ans op) := inferInstance
      obtain ⟨_, hop, _⟩ := hfollows answer
      refine .call (hrule _ _ _ _ hkind hop).1 fun ans => ?_
      obtain ⟨_, hop', hnext⟩ := hfollows ans
      exact ih ans hnext (hrule _ _ _ _ hkind hop').2

/-- A phase that allows every operation of a program need not be left. -/
theorem Uses.follows {P : Type} {rule : P → (op : Op) → Ans op → P → Prop} {phase : P}
    {allowed : Op → Prop} {prog : Prog Ans α} (huses : prog.Uses allowed)
    (hrule : ∀ op ans, allowed op → rule phase op ans phase) : prog.Follows rule phase := by
  induction huses with
  | ret value => trivial
  | call hop _ ih => exact fun ans => ⟨phase, hrule _ ans hop, ih ans⟩

end Prog

/-- What each operation does to a state, and what it answers. -/
abbrev Handler {Op : Type} (Ans : Op → Type) (σ : Type) :=
  (op : Op) → σ → Ans op × σ

/-- The end of an uninterrupted run: value, final state and events in order. -/
structure Outcome {Op : Type} (Ans : Op → Type) (σ α : Type) where
  value : α
  state : σ
  trace : List (Event Ans)

/-- The operations of a run, in order. -/
def Outcome.ops (outcome : Outcome Ans σ α) : List Op := outcome.trace.map Event.op

namespace Prog

/-- Run a program alone, from its first operation to its value. -/
def run (handler : Handler Ans σ) : Prog Ans α → σ → Outcome Ans σ α
  | .ret value, state => ⟨value, state, []⟩
  | .call op next, state =>
      let answer := handler op state
      let rest := (next answer.1).run handler answer.2
      ⟨rest.value, rest.state, ⟨op, answer.1⟩ :: rest.trace⟩

@[simp] theorem run_ret (handler : Handler Ans σ) (value : α) (state : σ) :
    (Prog.ret value : Prog Ans α).run handler state = ⟨value, state, []⟩ := rfl

theorem run_call (handler : Handler Ans σ) (op : Op) (next : Ans op → Prog Ans α)
    (state : σ) :
    (Prog.call op next).run handler state =
      let rest := (next (handler op state).1).run handler (handler op state).2
      ⟨rest.value, rest.state, ⟨op, (handler op state).1⟩ :: rest.trace⟩ := rfl

theorem run_bind (handler : Handler Ans σ) (first : Prog Ans α)
    (rest : α → Prog Ans β) (state : σ) :
    (first >>= rest).run handler state =
      let head := first.run handler state
      let tail := (rest head.value).run handler head.state
      ⟨tail.value, tail.state, head.trace ++ tail.trace⟩ := by
  induction first generalizing state with
  | ret value => rfl
  | call op next ih =>
      simp only [call_bind, run_call, ih, List.cons_append]

/-- What every operation of a program keeps, its run keeps. -/
theorem run_preserves (handler : Handler Ans σ) {P : σ → Prop} {allowed : Op → Prop}
    (hkeep : ∀ op state, allowed op → P state → P (handler op state).2)
    {prog : Prog Ans α} (huses : prog.Uses allowed) {state : σ} (hstart : P state) :
    P (prog.run handler state).state := by
  induction huses generalizing state with
  | ret value => exact hstart
  | call hop _ ih => exact ih _ (hkeep _ state hop hstart)

/-- A run of a program that keeps to a protocol keeps what the operations of the protocol
keep, phase by phase. -/
theorem Follows.run {P : Type} {rule : P → (op : Op) → Ans op → P → Prop} (handler : Handler Ans σ)
    {I : P → σ → Prop} (hstep : ∀ phase op state phase', I phase state →
      rule phase op (handler op state).1 phase' → I phase' (handler op state).2)
    {prog : Prog Ans α} {phase : P} (hfollows : prog.Follows rule phase) {state : σ}
    (hstart : I phase state) : ∃ phase', I phase' (prog.run handler state).state := by
  induction prog generalizing phase state with
  | ret value => exact ⟨phase, hstart⟩
  | call op next ih =>
      obtain ⟨phase', hrule, hnext⟩ := hfollows (handler op state).1
      exact ih _ hnext (hstep _ _ _ _ hstart hrule)

/-- A run performs operations its program can perform. -/
theorem run_ops (handler : Handler Ans σ) {allowed : Op → Prop} {prog : Prog Ans α}
    (huses : prog.Uses allowed) (state : σ) :
    ∀ event ∈ (prog.run handler state).trace, allowed event.op := by
  induction huses generalizing state with
  | ret value => exact fun event hevent => absurd hevent List.not_mem_nil
  | call hop _ ih =>
      intro event hevent
      rcases List.mem_cons.mp hevent with rfl | hlater
      · exact hop
      · exact ih _ _ event hlater

end Prog

/-- A handler driven by a script: each operation takes the next entry of the
script, and the default once the script is used up. -/
def scripted (handler : φ → Handler Ans σ) (default : φ) :
    Handler Ans (σ × List φ) :=
  fun op state =>
    let answer := handler (state.2.headD default) op state.1
    (answer.1, (answer.2, state.2.tail))

/-- Once the script is used up, the default decides the rest of a run. -/
theorem Prog.run_scripted (handler : φ → Handler Ans σ) (default : φ) (prog : Prog Ans α)
    (state : σ) :
    prog.run (scripted handler default) (state, []) =
      let outcome := prog.run (handler default) state
      ⟨outcome.value, (outcome.state, []), outcome.trace⟩ := by
  induction prog generalizing state with
  | ret value => rfl
  | call op next ih =>
      have hrest := ih (handler default op state).1 (handler default op state).2
      simp only [run_call, scripted, List.headD_nil, List.tail_nil] at hrest ⊢
      rw [hrest]

end Interleaving

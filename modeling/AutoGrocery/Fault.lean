import AutoGrocery.Interleaving.Program
import AutoGrocery.Data

/-!
What the environment may do to one statement, command or call: let it work,
refuse it, or let it take effect and lose the answer. A call to another
service also carries the faults its server meets while it works on the call.
-/

namespace AutoGrocery

open Interleaving

/-- How one statement, command or call goes. -/
inductive Fault where
  | works
  | fails (err : String)
  | loses (err : String)

namespace Fault

variable {σ α : Type}

/-- Run an effect under a fault. `context` is what the store puts in front of
the driver's error. -/
def run (fault : Fault) (context : String) (effect : σ → Except GoError α × σ)
    (state : σ) : Except GoError α × σ :=
  match fault with
  | .works => effect state
  | .fails err => (.error (.fault (context ++ err)), state)
  | .loses err => (.error (.fault (context ++ err)), (effect state).2)

/-- Whether the effect takes place. -/
def reaches : Fault → Bool
  | .fails _ => false
  | _ => true

theorem fails_ne_works (err : String) : fails err ≠ works := by
  intro h
  cases h

theorem loses_ne_works (err : String) : loses err ≠ works := by
  intro h
  cases h

theorem run_state_of_reaches {fault : Fault} (h : fault.reaches = true) (context : String)
    (effect : σ → Except GoError α × σ) (state : σ) :
    (fault.run context effect state).2 = (effect state).2 := by
  cases fault with
  | works => rfl
  | fails err => cases h
  | loses err => rfl

theorem run_state_of_not_reaches {fault : Fault} (h : fault.reaches = false) (context : String)
    (effect : σ → Except GoError α × σ) (state : σ) :
    (fault.run context effect state).2 = state := by
  cases fault with
  | works => cases h
  | fails err => rfl
  | loses err => cases h

@[simp] theorem run_works (context : String) (effect : σ → Except GoError α × σ) (state : σ) :
    works.run context effect state = effect state := rfl

/-- The state after a fault is the old one or the effect's. -/
theorem run_state (fault : Fault) (context : String) (effect : σ → Except GoError α × σ)
    (state : σ) :
    (fault.run context effect state).2 = state ∨
      (fault.run context effect state).2 = (effect state).2 := by
  cases h : fault.reaches with
  | false => exact Or.inl (run_state_of_not_reaches h context effect state)
  | true => exact Or.inr (run_state_of_reaches h context effect state)

/-- An answer without an error is the effect's own, and the effect took place. -/
theorem run_of_ok {fault : Fault} {context : String} {effect : σ → Except GoError α × σ}
    {state : σ} {value : α} (h : (fault.run context effect state).1 = .ok value) :
    fault.run context effect state = effect state := by
  cases fault with
  | works => rfl
  | fails err => cases h
  | loses err => cases h

end Fault

/-- A fault of a remote call: how the call goes, and the faults its server
meets, one for each of its operations. -/
structure CallFault (φ : Type) where
  mode : Fault
  server : List φ

def CallFault.works {φ : Type} : CallFault φ := ⟨.works, []⟩

/-- The error a client sees for an error a server returned. -/
def rpcError (err : GoError) : GoError := err.wrap "rpc error: code = Unknown desc = "

/-- A remote call runs the server's program without interruption. -/
def CallFault.call {φ σ α Op : Type} {Ans : Op → Type} (fault : CallFault φ)
    (handler : φ → Handler Ans σ) (default : φ) (prog : Prog Ans (Except GoError α))
    (state : σ) : Except GoError α × σ :=
  fault.mode.run "" (fun state =>
    let outcome := prog.run (scripted handler default) (state, fault.server)
    (outcome.value.mapError rpcError, outcome.state.1)) state

section

variable {φ σ α Op : Type} {Ans : Op → Type} {fault : CallFault φ} (handler : φ → Handler Ans σ)
  (default : φ) (prog : Prog Ans (Except GoError α)) (state : σ)

/-- The answer of a call that goes well is the server's. -/
theorem CallFault.call_answer (hworks : fault.mode = .works) :
    (fault.call handler default prog state).1 =
      (prog.run (scripted handler default) (state, fault.server)).value.mapError rpcError := by
  rw [CallFault.call, hworks]
  rfl

/-- Any other call answers with an error. -/
theorem CallFault.call_error (hfault : fault.mode ≠ .works) :
    ∃ err, (fault.call handler default prog state).1 = .error err := by
  rw [CallFault.call]
  cases hmode : fault.mode with
  | works => exact absurd hmode hfault
  | fails err => exact ⟨_, rfl⟩
  | loses err => exact ⟨_, rfl⟩

/-- A call that gets through leaves what the server leaves. -/
theorem CallFault.call_state (hreaches : fault.mode.reaches = true) :
    (fault.call handler default prog state).2 =
      (prog.run (scripted handler default) (state, fault.server)).state.1 :=
  Fault.run_state_of_reaches hreaches _ _ _

theorem CallFault.call_unreached (hreaches : fault.mode.reaches = false) :
    (fault.call handler default prog state).2 = state :=
  Fault.run_state_of_not_reaches hreaches _ _ _

end

/-- A call that meets no fault is the server's program, run alone. -/
theorem CallFault.call_works {φ σ α Op : Type} {Ans : Op → Type} (handler : φ → Handler Ans σ)
    (default : φ) (prog : Prog Ans (Except GoError α)) (state : σ) :
    CallFault.works.call handler default prog state =
      ((prog.run (handler default) state).value.mapError rpcError,
        (prog.run (handler default) state).state) := by
  have hscripted := Prog.run_scripted handler default prog state
  simp only [CallFault.call, CallFault.works, Fault.run_works, hscripted]

/-- What each operation of a server keeps, a call keeps. -/
theorem CallFault.call_preserves {φ σ α Op : Type} {Ans : Op → Type} (fault : CallFault φ)
    (handler : φ → Handler Ans σ) (default : φ) (P : σ → Prop) {allowed : Op → Prop}
    (hkeep : ∀ fault op state, allowed op → P state → P (handler fault op state).2)
    {prog : Prog Ans (Except GoError α)} (huses : prog.Uses allowed) {state : σ}
    (hstart : P state) : P (fault.call handler default prog state).2 := by
  have hrun : P (prog.run (scripted handler default) (state, fault.server)).state.1 :=
    Prog.run_preserves (P := fun scripted => P scripted.1) (scripted handler default)
      (fun op scripted hop => hkeep _ op scripted.1 hop) huses hstart
  have hcall := Fault.run_state fault.mode "" (fun state =>
    let outcome := prog.run (scripted handler default) (state, fault.server)
    (outcome.value.mapError rpcError, outcome.state.1)) state
  rcases hcall with hstate | hstate
  · rw [CallFault.call, hstate]
    exact hstart
  · rw [CallFault.call, hstate]
    exact hrun

/-- What each operation of a protocol keeps, a call that keeps to the protocol keeps. -/
theorem CallFault.call_follows {φ σ α Op P : Type} {Ans : Op → Type} (fault : CallFault φ)
    (handler : φ → Handler Ans σ) (default : φ) {rule : P → (op : Op) → Ans op → P → Prop}
    {I : P → σ → Prop} (hstep : ∀ fault phase op state phase', I phase state →
      rule phase op (handler fault op state).1 phase' → I phase' (handler fault op state).2)
    {prog : Prog Ans (Except GoError α)} {phase : P} (hfollows : prog.Follows rule phase) {state : σ}
    (hstart : I phase state) : ∃ phase', I phase' (fault.call handler default prog state).2 := by
  cases hreaches : fault.mode.reaches with
  | false =>
      rw [CallFault.call_unreached _ _ _ _ hreaches]
      exact ⟨phase, hstart⟩
  | true =>
      rw [CallFault.call_state _ _ _ _ hreaches]
      exact Prog.Follows.run (I := fun phase (scripted : σ × List φ) => I phase scripted.1)
        (scripted handler default) (fun phase op state => hstep _ phase op state.1) hfollows hstart

end AutoGrocery

import AutoGrocery.Interleaving.Program

/-!
Pools of threads over one shared state. A step picks any thread, lets it take
one atomic action and appends the threads that action started. A run is any
finite sequence of steps, so a statement about every run is a statement about
every interleaving.

An action may depend on a choice made by the environment, such as a fault, and
a run may be restricted to steps that an extra condition on the pool allows.
-/

namespace Interleaving

variable {T σ E φ : Type}

/-- What one atomic action of a thread does. -/
structure Move (T σ E : Type) where
  event : E
  thread : T
  spawned : List T
  state : σ

/-- How a thread acts on the shared state; `none` when it cannot act. -/
abbrev Act (φ T σ E : Type) := φ → T → σ → Option (Move T σ E)

structure Pool (T σ : Type) where
  threads : List T
  state : σ

namespace Pool

/-- The pool after thread `index` made a move. -/
def after (pool : Pool T σ) (index : Nat) (move : Move T σ E) : Pool T σ :=
  ⟨pool.threads.set index move.thread ++ move.spawned, move.state⟩

@[simp] theorem after_state (pool : Pool T σ) (index : Nat) (move : Move T σ E) :
    (pool.after index move).state = move.state := rfl

theorem length_after (pool : Pool T σ) (index : Nat) (move : Move T σ E) :
    (pool.after index move).threads.length =
      pool.threads.length + move.spawned.length := by
  simp [after]

theorem mover_after {pool : Pool T σ} {index : Nat} {thread : T}
    (hthread : pool.threads[index]? = some thread) (move : Move T σ E) :
    (pool.after index move).threads[index]? = some move.thread := by
  have hlt : index < pool.threads.length := (List.getElem?_eq_some_iff.mp hthread).1
  simp [after, List.getElem?_append, hlt]

theorem other_after {pool : Pool T σ} {index other : Nat} {thread : T}
    (hother : pool.threads[other]? = some thread) (hne : other ≠ index)
    (move : Move T σ E) :
    (pool.after index move).threads[other]? = some thread := by
  have hlt : other < pool.threads.length := (List.getElem?_eq_some_iff.mp hother).1
  simp only [after, List.getElem?_append, List.length_set, hlt, if_true]
  rw [List.getElem?_set_ne (Ne.symm hne)]
  exact hother

/-- A thread of the pool after a move is the mover, an unchanged thread or a
thread the move started. -/
theorem threads_after {pool : Pool T σ} {index found : Nat} {thread : T}
    {move : Move T σ E}
    (hfound : (pool.after index move).threads[found]? = some thread) :
    (found = index ∧ thread = move.thread) ∨
      (found ≠ index ∧ pool.threads[found]? = some thread) ∨
      (pool.threads.length ≤ found ∧
        move.spawned[found - pool.threads.length]? = some thread) := by
  by_cases hlt : found < pool.threads.length
  · simp only [after, List.getElem?_append, List.length_set, hlt, if_true] at hfound
    by_cases heq : found = index
    · subst heq
      rw [List.getElem?_set_self hlt] at hfound
      exact Or.inl ⟨rfl, (Option.some.inj hfound).symm⟩
    · rw [List.getElem?_set_ne (Ne.symm heq)] at hfound
      exact Or.inr (Or.inl ⟨heq, hfound⟩)
  · simp only [after, List.getElem?_append, List.length_set, hlt, if_false] at hfound
    exact Or.inr (Or.inr ⟨by omega, hfound⟩)

/-- Membership form of `threads_after`, for invariants about each thread. -/
theorem forall_threads_after {P : T → Prop} {pool : Pool T σ} {index : Nat}
    {move : Move T σ E} (hold : ∀ thread ∈ pool.threads, P thread)
    (hmover : P move.thread) (hspawned : ∀ thread ∈ move.spawned, P thread) :
    ∀ thread ∈ (pool.after index move).threads, P thread := by
  intro thread hmem
  rcases List.mem_append.mp hmem with hset | hnew
  · rcases List.mem_or_eq_of_mem_set hset with hmem' | heq
    · exact hold thread hmem'
    · exact heq ▸ hmover
  · exact hspawned thread hnew

/-- What a move leaves alone in its thread stays as it was in the pool. -/
theorem map_after {M : Type} (f : T → M) {pool : Pool T σ} {index : Nat} {thread : T}
    (hthread : pool.threads[index]? = some thread) {move : Move T σ E}
    (hsame : f move.thread = f thread) (hspawned : move.spawned = []) :
    (pool.after index move).threads.map f = pool.threads.map f := by
  have hget : (pool.threads.map f)[index]? = some (f thread) := by
    rw [List.getElem?_map, hthread]
    rfl
  obtain ⟨hlt, heq⟩ := List.getElem?_eq_some_iff.mp hget
  rw [after, hspawned, List.append_nil, List.map_set, hsame, ← heq, List.set_getElem_self]

/-- Any weight summed over the threads changes by what the mover and the
started threads contribute. -/
theorem sum_after {M : Type} [AddCommMonoid M] (weight : T → M) {pool : Pool T σ}
    {index : Nat} {thread : T} (hthread : pool.threads[index]? = some thread)
    (move : Move T σ E) :
    ((pool.after index move).threads.map weight).sum + weight thread =
      (pool.threads.map weight).sum + weight move.thread +
        (move.spawned.map weight).sum := by
  obtain ⟨hlt, heq⟩ := List.getElem?_eq_some_iff.mp hthread
  have hsplit : pool.threads =
      pool.threads.take index ++ thread :: pool.threads.drop (index + 1) := by
    rw [← heq, ← List.drop_eq_getElem_cons hlt, List.take_append_drop]
  have hset : pool.threads.set index move.thread =
      pool.threads.take index ++ move.thread :: pool.threads.drop (index + 1) :=
    List.set_eq_take_append_cons_drop.trans (if_pos hlt)
  have hsum := congrArg (fun threads => (threads.map weight).sum) hsplit
  simp only [List.map_append, List.map_cons, List.sum_append, List.sum_cons] at hsum
  simp only [after, hset, hsum, List.map_append, List.map_cons, List.sum_append,
    List.sum_cons]
  abel

/-- How many threads satisfy a test. -/
def tally (test : T → Bool) (pool : Pool T σ) : Nat :=
  (pool.threads.map fun thread => (test thread).toNat).sum

theorem tally_eq_zero {test : T → Bool} {pool : Pool T σ} :
    tally test pool = 0 ↔ ∀ thread ∈ pool.threads, test thread = false := by
  simp [tally, List.sum_eq_zero_iff]

/-- When a move starts no thread that satisfies the test, only the mover counts. -/
theorem tally_after (test : T → Bool) {pool : Pool T σ} {index : Nat} {thread : T}
    (hthread : pool.threads[index]? = some thread) (move : Move T σ E)
    (hspawned : ∀ spawned ∈ move.spawned, test spawned = false) :
    tally test (pool.after index move) + (test thread).toNat =
      tally test pool + (test move.thread).toNat := by
  have hsum := sum_after (fun thread => (test thread).toNat) hthread move
  have hzero : (move.spawned.map fun thread => (test thread).toNat).sum = 0 := by
    apply List.sum_eq_zero
    intro n hn
    obtain ⟨spawned, hmem, rfl⟩ := List.mem_map.mp hn
    simp [hspawned spawned hmem]
  rw [hzero, add_zero] at hsum
  exact hsum

/-! ### Marks that one thread bears at a time -/

/-- No two threads bear the same mark. -/
def Unique {M : Type} (mark : T → Option M) (pool : Pool T σ) : Prop :=
  ∀ {i j : Nat} {thread other : T} {m : M}, pool.threads[i]? = some thread →
    pool.threads[j]? = some other → mark thread = some m → mark other = some m → i = j

/-- What a move does to the mark of its thread: the thread keeps it, or hands it
to the one thread it starts. -/
inductive Hands {M : Type} (mark : T → Option M) (thread : T) (move : Move T σ E) : Prop where
  | keeps : move.spawned = [] → mark move.thread = mark thread → Hands mark thread move
  | gives {spawned : T} : move.spawned = [spawned] → mark move.thread = none →
      mark spawned = mark thread → Hands mark thread move

theorem Unique.after {M : Type} {mark : T → Option M} {pool : Pool T σ} (hunique : Unique mark pool)
    {index : Nat} {thread : T} (hthread : pool.threads[index]? = some thread) {move : Move T σ E}
    (hhands : Hands mark thread move) : Unique mark (pool.after index move) := by
  -- where a mark was before, and that a mark handed on has left its thread
  have hbefore {i : Nat} {found : T} {m : M} (hfound : (pool.after index move).threads[i]? = some found)
      (hmark : mark found = some m) :
      ∃ old before, pool.threads[old]? = some before ∧ mark before = some m ∧
        (i = old ∨ i = pool.threads.length ∧ old = index ∧ mark move.thread = none) := by
    rcases threads_after hfound with ⟨rfl, rfl⟩ | ⟨_, hsame⟩ | ⟨hlength, hspawned⟩
    · refine ⟨i, thread, hthread, ?_, Or.inl rfl⟩
      cases hhands with
      | keeps _ hkept =>
          rw [← hkept]
          exact hmark
      | gives _ hnone _ =>
          rw [hnone] at hmark
          cases hmark
    · exact ⟨i, found, hsame, hmark, Or.inl rfl⟩
    · cases hhands with
      | keeps hnothing _ =>
          rw [hnothing] at hspawned
          cases hspawned
      | gives hone hnone hgiven =>
          rw [hone] at hspawned
          obtain ⟨hlt, hsame⟩ := List.getElem?_eq_some_iff.mp hspawned
          have hzero : i - pool.threads.length = 0 := by simpa using hlt
          simp only [hzero, List.getElem_cons_zero] at hsame
          refine ⟨index, thread, hthread, ?_, Or.inr ⟨by omega, rfl, hnone⟩⟩
          rw [← hgiven, hsame]
          exact hmark
  intro i j found other m hfound hother hmark hmark'
  obtain ⟨old, before, hold, hwas, hi⟩ := hbefore hfound hmark
  obtain ⟨old', before', hold', hwas', hj⟩ := hbefore hother hmark'
  obtain rfl := hunique hold hold' hwas hwas'
  have hgone {k : Nat} {last : T} (hlast : (pool.after index move).threads[k]? = some last)
      (hlastMark : mark last = some m) (hnone : mark move.thread = none) (hk : k = index) : False := by
    subst hk
    obtain rfl := Option.some.inj ((mover_after hthread move).symm.trans hlast)
    rw [hnone] at hlastMark
    cases hlastMark
  rcases hi with hi | ⟨hi, hindex, hnone⟩ <;> rcases hj with hj | ⟨hj, hindex', hnone'⟩
  · exact hi.trans hj.symm
  · exact (hgone hfound hmark hnone' (hi.trans hindex')).elim
  · exact (hgone hother hmark' hnone (hj.trans hindex)).elim
  · exact hi.trans hj.symm

/-- A mark is still borne after the move. -/
theorem bears_after {M : Type} {mark : T → Option M} {pool : Pool T σ} {index : Nat} {thread : T}
    (hthread : pool.threads[index]? = some thread) {move : Move T σ E}
    (hhands : Hands mark thread move) {m : M} (hbears : ∃ bearer ∈ pool.threads, mark bearer = some m) :
    ∃ bearer ∈ (pool.after index move).threads, mark bearer = some m := by
  obtain ⟨bearer, hbearer, hmark⟩ := hbears
  obtain ⟨found, hfound⟩ := List.getElem?_of_mem hbearer
  by_cases heq : found = index
  · subst heq
    obtain rfl := Option.some.inj (hthread.symm.trans hfound)
    cases hhands with
    | keeps _ hkept =>
        exact ⟨_, List.mem_of_getElem? (mover_after hthread move), hkept.trans hmark⟩
    | @gives spawned hone _ hgiven =>
        refine ⟨spawned, List.mem_append_right _ ?_, hgiven.trans hmark⟩
        rw [hone]
        exact List.mem_singleton_self spawned
  · exact ⟨bearer, List.mem_of_getElem? (other_after hfound heq move), hmark⟩

/-! ### Pools related thread by thread -/

variable {T' σ' E' : Type} {R : T → T' → Prop}

theorem getElem?_of_forall₂ {threads : List T} {threads' : List T'}
    (hrel : List.Forall₂ R threads threads') {index : Nat} {thread' : T'}
    (hthread : threads'[index]? = some thread') :
    ∃ thread, threads[index]? = some thread ∧ R thread thread' := by
  induction hrel generalizing index with
  | nil => simp at hthread
  | cons hhead _ ih =>
      cases index with
      | zero =>
          obtain rfl := Option.some.inj hthread
          exact ⟨_, rfl, hhead⟩
      | succ index => exact ih hthread

private theorem forall₂_set {threads : List T} {threads' : List T'}
    (hrel : List.Forall₂ R threads threads') {thread : T} {thread' : T'} (hnew : R thread thread')
    (index : Nat) : List.Forall₂ R (threads.set index thread) (threads'.set index thread') := by
  induction hrel generalizing index with
  | nil => exact .nil
  | cons hhead htail ih =>
      cases index with
      | zero => exact .cons hnew htail
      | succ index => exact .cons hhead (ih index)

/-- Moves of related threads at the same place keep two pools related. -/
theorem forall₂_after {pool : Pool T σ} {pool' : Pool T' σ'}
    (hrel : List.Forall₂ R pool.threads pool'.threads) (index : Nat)
    (move : Move T σ E) (move' : Move T' σ' E') (hmover : R move.thread move'.thread)
    (hspawned : List.Forall₂ R move.spawned move'.spawned) :
    List.Forall₂ R (pool.after index move).threads (pool'.after index move').threads :=
  List.rel_append (forall₂_set hrel hmover index) hspawned

end Pool

/-- The runs from a starting pool, with the events in order and the index of
the thread each belongs to. Every step must meet the condition `allowed`. -/
inductive Run (act : Act φ T σ E) (allowed : Pool T σ → Nat → E → Prop)
    (start : Pool T σ) : List (Nat × E) → Pool T σ → Prop where
  | start : Run act allowed start [] start
  | move {trace : List (Nat × E)} {pool : Pool T σ} (index : Nat) {thread : T}
      (choice : φ) {move : Move T σ E} :
      Run act allowed start trace pool →
      pool.threads[index]? = some thread →
      act choice thread pool.state = some move →
      allowed pool index move.event →
      Run act allowed start (trace ++ [(index, move.event)]) (pool.after index move)

/-- No condition on the steps: every interleaving. -/
abbrev anyStep : Pool T σ → Nat → E → Prop := fun _ _ _ => True

namespace Run

variable {act : Act φ T σ E} {allowed : Pool T σ → Nat → E → Prop}
  {start pool : Pool T σ} {trace : List (Nat × E)}

/-- The induction over runs: what holds at the start and is kept by every
allowed move holds in every state a run reaches. -/
theorem invariant (Inv : Pool T σ → List (Nat × E) → Prop)
    (hrun : Run act allowed start trace pool) (hstart : Inv start [])
    (hmove : ∀ (trace : List (Nat × E)) (pool : Pool T σ) (index : Nat)
      (thread : T) (choice : φ) (move : Move T σ E), Inv pool trace →
      pool.threads[index]? = some thread →
      act choice thread pool.state = some move →
      allowed pool index move.event →
      Inv (pool.after index move) (trace ++ [(index, move.event)])) :
    Inv pool trace := by
  induction hrun with
  | start => exact hstart
  | move _ _ _ hthread hact hallowed ih => exact hmove _ _ _ _ _ _ ih hthread hact hallowed

/-- Dropping the condition on the steps keeps a run a run. -/
theorem mono {wider : Pool T σ → Nat → E → Prop}
    (hrun : Run act allowed start trace pool)
    (himp : ∀ pool index event, allowed pool index event → wider pool index event) :
    Run act wider start trace pool := by
  induction hrun with
  | start => exact .start
  | move index choice _ hthread hact hallowed ih =>
      exact .move index choice ih hthread hact (himp _ _ _ hallowed)

end Run

/-- The runs from `start` to `pool` that go through `earlier` on the way. -/
structure Passes (act : Act φ T σ E) (start earlier pool : Pool T σ) : Prop where
  before : ∃ trace, Run act anyStep start trace earlier
  after : ∃ trace, Run act anyStep earlier trace pool

namespace Passes

variable {act : Act φ T σ E} {start earlier pool : Pool T σ}

theorem of_run {trace : List (Nat × E)} (hrun : Run act anyStep start trace pool) :
    Passes act start pool pool :=
  ⟨⟨trace, hrun⟩, [], .start⟩

/-- A run goes on. -/
theorem step (hpasses : Passes act start earlier pool) {index : Nat} {thread : T} {choice : φ}
    {move : Move T σ E} (hthread : pool.threads[index]? = some thread)
    (hact : act choice thread pool.state = some move) :
    Passes act start earlier (pool.after index move) := by
  obtain ⟨hbefore, trace, hafter⟩ := hpasses
  exact ⟨hbefore, _, .move index choice hafter hthread hact trivial⟩

end Passes

/-- Play a schedule, one thread index and one choice for each step. It stops
with `none` at the first step that cannot be made or is not allowed. -/
def play (act : Act φ T σ E) (allowed : Pool T σ → Nat → E → Bool) :
    List (Nat × φ) → Pool T σ → Option (List (Nat × E) × Pool T σ)
  | [], pool => some ([], pool)
  | (index, choice) :: rest, pool => do
      let thread ← pool.threads[index]?
      let move ← act choice thread pool.state
      if allowed pool index move.event then
        let (trace, final) ← play act allowed rest (pool.after index move)
        return ((index, move.event) :: trace, final)
      else none

private theorem play_continues {act : Act φ T σ E} {allowed : Pool T σ → Nat → E → Bool}
    {start : Pool T σ} (schedule : List (Nat × φ)) :
    ∀ {earlier : List (Nat × E)} {pool : Pool T σ} {trace : List (Nat × E)}
      {final : Pool T σ},
      Run act (fun pool index event => allowed pool index event = true) start earlier pool →
      play act allowed schedule pool = some (trace, final) →
      Run act (fun pool index event => allowed pool index event = true) start
        (earlier ++ trace) final := by
  induction schedule with
  | nil =>
      intro earlier pool trace final hrun hplay
      simp only [play, Option.some.injEq, Prod.mk.injEq] at hplay
      obtain ⟨rfl, rfl⟩ := hplay
      simpa using hrun
  | cons step rest ih =>
      intro earlier pool trace final hrun hplay
      obtain ⟨index, choice⟩ := step
      simp only [play, Option.bind_eq_bind, Option.bind_eq_some_iff] at hplay
      obtain ⟨thread, hthread, move, hact, hplay⟩ := hplay
      by_cases hallowed : allowed pool index move.event = true
      · rw [if_pos hallowed] at hplay
        simp only [Option.bind_eq_some_iff] at hplay
        obtain ⟨⟨tail, last⟩, hrest, hdone⟩ := hplay
        simp only [Option.pure_def, Option.some.injEq, Prod.mk.injEq] at hdone
        obtain ⟨rfl, rfl⟩ := hdone
        have hstep := Run.move index choice hrun hthread hact hallowed
        have hlast := ih hstep hrest
        simpa using hlast
      · rw [if_neg hallowed] at hplay
        cases hplay

/-- A schedule that plays to the end is a run, and what was computed about its
end holds of that run. -/
theorem run_of_play (act : Act φ T σ E) (allowed : Pool T σ → Nat → E → Bool)
    (start : Pool T σ) (schedule : List (Nat × φ))
    (check : List (Nat × E) → Pool T σ → Bool)
    (hplay : (play act allowed schedule start).any
      (fun result => check result.1 result.2) = true) :
    ∃ trace pool,
      Run act (fun pool index event => allowed pool index event = true) start trace pool ∧
      check trace pool = true := by
  cases hresult : play act allowed schedule start with
  | none => simp [hresult] at hplay
  | some result =>
      obtain ⟨trace, pool⟩ := result
      have hcheck : check trace pool = true := by simpa [hresult] using hplay
      exact ⟨trace, pool, by simpa using play_continues schedule .start hresult, hcheck⟩

end Interleaving

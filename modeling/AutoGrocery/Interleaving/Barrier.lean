import AutoGrocery.Interleaving.Pool

/-!
A counted barrier whose guard is removed by the work it guards.

Participants increment a shared counter. Whoever sees at least `threshold`
tries to set a marker, and whoever sets it starts a worker. The worker reads
the job, performs its effects one by one and then deletes job, counter and
marker together. Late participants may find the counter and the marker gone
and win the marker once more.

A step that meets a fault may take effect or not. `complete` says which lists
of effects are whole executions of the job.
-/

namespace Interleaving.Barrier

variable {E : Type}

/-- The shared keys: whether the job and the marker are there, and the count. -/
structure Keys where
  items : Bool
  count : Nat
  marker : Bool
  deriving DecidableEq

/-- Where a participant or worker stands. A closing worker has read the job
and has performed the effects in its log. -/
inductive Phase (E : Type) where
  | fresh
  | counted
  | starting
  | reading
  | closing (log : List E)
  | ended

namespace Phase

def isFresh : Phase E → Bool
  | .fresh => true
  | _ => false

/-- Between winning the marker and the end of the worker. -/
def Active : Phase E → Prop
  | .starting => True
  | .reading => True
  | .closing _ => True
  | _ => False

/-- Past a count that reached the threshold, and not ended. -/
def Past (phase : Phase E) : Prop := phase = .counted ∨ phase.Active

@[simp] theorem isFresh_iff (phase : Phase E) : phase.isFresh = true ↔ phase = .fresh := by
  cases phase <;> simp [isFresh]

end Phase

/-- The log can be continued to a whole execution. -/
def Extends (complete : List E → Prop) (log : List E) : Prop :=
  ∃ full, complete full ∧ log <+: full

theorem Extends.of_complete {complete : List E → Prop} {log : List E} (h : complete log) :
    Extends complete log :=
  ⟨log, h, List.prefix_refl log⟩

/-- One step: whether it met a fault, the phase and keys before and after, the
effects performed and the phases of the threads it started. -/
inductive Advance (threshold : Nat) (complete : List E → Prop) :
    Bool → Phase E → Keys → Phase E → Keys → List E → List (Phase E) → Prop where
  | countLow {k : Keys} : k.count + 1 < threshold →
      Advance threshold complete false .fresh k .ended { k with count := k.count + 1 } [] []
  | countHigh {k : Keys} : threshold ≤ k.count + 1 →
      Advance threshold complete false .fresh k .counted { k with count := k.count + 1 } [] []
  | countFault {k k' : Keys} : k' = k ∨ k' = { k with count := k.count + 1 } →
      Advance threshold complete true .fresh k .ended k' [] []
  | win {k : Keys} : k.marker = false →
      Advance threshold complete false .counted k .starting { k with marker := true } [] []
  | lose {k : Keys} : k.marker = true →
      Advance threshold complete false .counted k .ended k [] []
  | markFault {k k' : Keys} : k' = k ∨ k' = { k with marker := true } →
      Advance threshold complete true .counted k .ended k' [] []
  | start {faulty : Bool} {k : Keys} :
      Advance threshold complete faulty .starting k .ended k [] [.reading]
  | readFound {k : Keys} : k.items = true → Extends complete [] →
      Advance threshold complete false .reading k (.closing []) k [] []
  | readMissing {k : Keys} : k.items = false →
      Advance threshold complete false .reading k .ended k [] []
  | readFault {k : Keys} : Advance threshold complete true .reading k .ended k [] []
  | effect {faulty : Bool} {k : Keys} {log : List E} (op : E) : Extends complete (log ++ [op]) →
      Advance threshold complete faulty (.closing log) k (.closing (log ++ [op])) k [op] []
  | quiet {faulty : Bool} {k : Keys} {log : List E} {spawned : List (Phase E)} :
      (∀ phase ∈ spawned, phase = .ended) →
      Advance threshold complete faulty (.closing log) k (.closing log) k [] spawned
  | delete {k : Keys} {log : List E} : complete log →
      Advance threshold complete false (.closing log) k .ended ⟨false, 0, false⟩ [] []
  | deleteFault {k k' : Keys} {log : List E} : complete log → k' = k ∨ k' = ⟨false, 0, false⟩ →
      Advance threshold complete true (.closing log) k .ended k' [] []
  | ended {faulty : Bool} {k : Keys} : Advance threshold complete faulty .ended k .ended k [] []

/-- The keys, and what a run has done so far: who incremented the counter, the
effects in order, and how often a job was saved. -/
structure Ghost (E : Type) where
  keys : Keys
  counted : List Nat
  log : List E
  saves : Nat

abbrev State (E : Type) := Pool (Phase E) (Ghost E)

/-- The move of one step as a move of the pool. -/
def advanceMove (s : State E) (index : Nat) (phase phase' : Phase E) (keys' : Keys)
    (emitted : List E) (spawned : List (Phase E)) : Move (Phase E) (Ghost E) Unit where
  event := ()
  thread := phase'
  spawned := spawned
  state :=
    { keys := keys'
      counted := if phase.isFresh then s.state.counted ++ [index] else s.state.counted
      log := s.state.log ++ emitted
      saves := s.state.saves }

section

variable (s : State E) (index : Nat) (phase phase' : Phase E) (keys' : Keys) (emitted : List E)
  (spawned : List (Phase E))

@[simp] theorem advanceMove_thread :
    (advanceMove s index phase phase' keys' emitted spawned).thread = phase' := rfl

@[simp] theorem advanceMove_spawned :
    (advanceMove s index phase phase' keys' emitted spawned).spawned = spawned := rfl

@[simp] theorem advanceMove_log :
    (advanceMove s index phase phase' keys' emitted spawned).state.log = s.state.log ++ emitted := rfl

@[simp] theorem advanceMove_counted :
    (advanceMove s index phase phase' keys' emitted spawned).state.counted =
      if phase.isFresh then s.state.counted ++ [index] else s.state.counted := rfl

end

/-- A step of the barrier. The environment may also save a job. A strict step
meets no fault. -/
inductive Step (threshold : Nat) (complete : List E → Prop) (strict : Prop) :
    State E → State E → Prop where
  | advance {s : State E} {index : Nat} {phase phase' : Phase E} {faulty : Bool} {keys' : Keys}
      {emitted : List E} {spawned : List (Phase E)} :
      s.threads[index]? = some phase →
      Advance threshold complete faulty phase s.state.keys phase' keys' emitted spawned →
      (strict → faulty = false) →
      Step threshold complete strict s
        (s.after index (advanceMove s index phase phase' keys' emitted spawned))
  | save {s : State E} :
      Step threshold complete strict s ⟨s.threads, { s.state with
        keys := { s.state.keys with items := true }, saves := s.state.saves + 1 }⟩

/-- The states reachable from a start. -/
inductive Reach (threshold : Nat) (complete : List E → Prop) (strict : Prop) (start : State E) :
    State E → Prop where
  | start : Reach threshold complete strict start start
  | step {s s' : State E} : Reach threshold complete strict start s →
      Step threshold complete strict s s' → Reach threshold complete strict start s'

section

variable {threshold : Nat} {complete : List E → Prop} {strict : Prop} {start s s' : State E}

/-! ### Counting -/

/-- What counting guarantees: each participant is counted at most once and has
left the fresh phase then, the counter never runs ahead, and nothing happens
past the barrier before the threshold was counted. -/
structure Counting (threshold : Nat) (start s : State E) : Prop where
  nodup : s.state.counted.Nodup
  participant : ∀ i ∈ s.state.counted, start.threads[i]? = some Phase.fresh
  gone : ∀ i ∈ s.state.counted, s.threads[i]? ≠ some Phase.fresh
  waits : ∀ i : Nat, s.threads[i]? = some Phase.fresh → start.threads[i]? = some Phase.fresh
  rest : ∀ i : Nat, start.threads[i]? = some Phase.fresh →
    i ∈ s.state.counted ∨ s.threads[i]? = some Phase.fresh
  value : s.state.keys.count ≤ s.state.counted.length
  past : ∀ (i : Nat) (phase : Phase E), s.threads[i]? = some phase → phase.Past →
    threshold ≤ s.state.counted.length
  effects : s.state.log ≠ [] → threshold ≤ s.state.counted.length

/-- What one step does to the counter, and what it presupposes. -/
private theorem advance_counting {faulty : Bool} {phase phase' : Phase E} {k k' : Keys}
    {emitted : List E} {spawned : List (Phase E)}
    (h : Advance threshold complete faulty phase k phase' k' emitted spawned) :
    phase' ≠ .fresh ∧ (∀ p ∈ spawned, p ≠ .fresh) ∧
      k'.count ≤ (if phase.isFresh then k.count + 1 else k.count) ∧
      (phase'.Past → phase.Past ∨ (phase = .fresh ∧ threshold ≤ k.count + 1)) ∧
      (∀ p ∈ spawned, p.Past → phase.Past) ∧ (emitted ≠ [] → phase.Past) := by
  cases h with
  | countFault hk => rcases hk with rfl | rfl <;> simp [Phase.isFresh, Phase.Past, Phase.Active]
  | markFault hk => rcases hk with rfl | rfl <;> simp [Phase.isFresh, Phase.Past, Phase.Active]
  | deleteFault _ hk => rcases hk with rfl | rfl <;> simp [Phase.isFresh, Phase.Past, Phase.Active]
  | countHigh hle => simp [Phase.isFresh, Phase.Past, Phase.Active, hle]
  | quiet hspawned =>
      refine ⟨by simp, ?_, by simp [Phase.isFresh], fun h => Or.inl h, ?_, by simp⟩
      · intro p hp
        simp [hspawned p hp]
      · intro p hp
        simp [Phase.Past, Phase.Active]
  | _ => simp [Phase.isFresh, Phase.Past, Phase.Active]

section

variable {index : Nat} {phase phase' : Phase E} {keys' : Keys} {emitted : List E}
  {spawned : List (Phase E)}

private theorem counted_length_after :
    (if phase.isFresh then s.state.counted.length + 1 else s.state.counted.length) =
      (s.after index (advanceMove s index phase phase' keys' emitted spawned)).state.counted.length := by
  rw [Pool.after_state, advanceMove_counted]
  split <;> simp

/-- A step counts its own thread, if that was fresh, and no other. -/
private theorem mem_counted_after {i : Nat} :
    i ∈ (s.after index (advanceMove s index phase phase' keys' emitted spawned)).state.counted ↔
      i ∈ s.state.counted ∨ (i = index ∧ phase = .fresh) := by
  rw [Pool.after_state, advanceMove_counted, ← Phase.isFresh_iff]
  cases phase.isFresh <;> simp

/-- A fresh thread after the step was fresh before it, and did not move. -/
private theorem fresh_before (hfresh' : phase' ≠ .fresh) (hspawned : ∀ p ∈ spawned, p ≠ .fresh) {i : Nat}
    (hi : (s.after index (advanceMove s index phase phase' keys' emitted spawned)).threads[i]? =
      some .fresh) : i ≠ index ∧ s.threads[i]? = some .fresh := by
  rcases Pool.threads_after hi with ⟨_, heq⟩ | ⟨hne, hold⟩ | ⟨_, hnew⟩
  · exact absurd heq.symm hfresh'
  · exact ⟨hne, hold⟩
  · exact absurd rfl (hspawned _ (List.mem_of_getElem? hnew))

end

theorem Counting.step (hinv : Counting threshold start s)
    (hstep : Step threshold complete strict s s') : Counting threshold start s' := by
  cases hstep with
  | save => exact ⟨hinv.nodup, hinv.participant, hinv.gone, hinv.waits, hinv.rest, hinv.value,
      hinv.past, hinv.effects⟩
  | @advance index phase phase' faulty keys' emitted spawned hphase hadv _ =>
      obtain ⟨hfresh', hspawned, hcount, hpast', hpastSpawned, hemitted⟩ :=
        advance_counting hadv
      have hlength := @counted_length_after E s index phase phase' keys' emitted spawned
      have hmono : s.state.counted.length ≤
          (s.after index (advanceMove s index phase phase' keys' emitted spawned)).state.counted.length := by
        rw [← hlength]
        split <;> omega
      have hpastBefore : phase.Past → threshold ≤ s.state.counted.length :=
        hinv.past index phase hphase
      have hvalue := hinv.value
      constructor
      · rw [Pool.after_state, advanceMove_counted]
        split
        · rename_i hf
          have hfresh : phase = .fresh := (Phase.isFresh_iff phase).mp hf
          apply hinv.nodup.append (List.nodup_singleton index)
          rw [List.disjoint_singleton]
          exact fun hmem => hinv.gone index hmem (hfresh ▸ hphase)
        · exact hinv.nodup
      · intro i hi
        rcases mem_counted_after.mp hi with hold | ⟨rfl, rfl⟩
        · exact hinv.participant i hold
        · exact hinv.waits i hphase
      · intro i hi hfresh
        obtain ⟨hne, hold⟩ := fresh_before hfresh' hspawned hfresh
        rcases mem_counted_after.mp hi with hin | ⟨rfl, _⟩
        · exact hinv.gone i hin hold
        · exact hne rfl
      · intro i hfresh
        exact hinv.waits i (fresh_before hfresh' hspawned hfresh).2
      · intro i hi
        rcases hinv.rest i hi with hin | hfresh
        · exact Or.inl (mem_counted_after.mpr (Or.inl hin))
        · by_cases heq : i = index
          · subst heq
            rw [hphase] at hfresh
            exact Or.inl (mem_counted_after.mpr (Or.inr ⟨rfl, Option.some.inj hfresh⟩))
          · exact Or.inr (Pool.other_after hfresh heq _)
      · show keys'.count ≤ _
        rw [← hlength]
        split
        · rename_i hf
          rw [if_pos hf] at hcount
          omega
        · rename_i hf
          rw [if_neg hf] at hcount
          omega
      · intro i p hp hpast
        rcases Pool.threads_after hp with ⟨_, rfl⟩ | ⟨_, hold⟩ | ⟨_, hnew⟩
        · rcases hpast' hpast with hbefore | ⟨rfl, hle⟩
          · exact (hpastBefore hbefore).trans hmono
          · rw [← hlength]
            show threshold ≤ s.state.counted.length + 1
            omega
        · exact (hinv.past i p hold hpast).trans hmono
        · exact (hpastBefore (hpastSpawned p (List.mem_of_getElem? hnew) hpast)).trans hmono
      · intro hlog
        by_cases hold : s.state.log = []
        · have hnew : emitted ≠ [] := by
            rintro rfl
            apply hlog
            rw [Pool.after_state, advanceMove_log, hold, List.append_nil]
          exact (hpastBefore (hemitted hnew)).trans hmono
        · exact (hinv.effects hold).trans hmono

/-- A start at which nothing has been counted. -/
structure Start (start : State E) : Prop where
  phases : ∀ (i : Nat) (phase : Phase E), start.threads[i]? = some phase → phase = .fresh ∨ phase = .ended
  count : start.state.keys.count = 0
  marker : start.state.keys.marker = false
  counted : start.state.counted = []
  log : start.state.log = []
  saved : start.state.keys.items = true → 1 ≤ start.state.saves

theorem counting (hstart : Start start) (hreach : Reach threshold complete strict start s) :
    Counting threshold start s := by
  induction hreach with
  | start =>
      refine ⟨by simp [hstart.counted], by simp [hstart.counted], by simp [hstart.counted],
        fun i hi => hi, fun i hi => Or.inr hi, by simp [hstart.count], ?_, by simp [hstart.log]⟩
      intro i phase hphase hpast
      rcases hstart.phases i phase hphase with rfl | rfl <;>
        simp [Phase.Past, Phase.Active] at hpast
  | step _ hstep ih => exact ih.step hstep

end

/-! ### The guard -/

/-- No thread is active. -/
def NoneActive (s : State E) : Prop :=
  ∀ (i : Nat) (phase : Phase E), s.threads[i]? = some phase → ¬ phase.Active

/-- At most the thread at `index` is active. -/
def OnlyActive (s : State E) (index : Nat) : Prop :=
  ∀ (i : Nat) (phase : Phase E), s.threads[i]? = some phase → phase.Active → i = index

/-- Where the guard stands. The marker may be won while `waiting`; it is
`claimed` by a worker that has not read the job yet, or by one that is
`working`; it is `stuck` when a fault ended the claim; and once the worker has
deleted the keys the job is `done` and cannot be read again. -/
inductive Guard (threshold : Nat) (complete : List E → Prop) (strict : Prop) (s : State E) :
    Prop where
  | waiting : s.state.keys.marker = false → NoneActive s → s.state.log = [] →
      (strict → s.state.keys.items = true ∧ s.state.keys.count = s.state.counted.length ∧
        (threshold ≤ s.state.counted.length → ∃ i : Nat, s.threads[i]? = some Phase.counted)) →
      Guard threshold complete strict s
  | claimed (index : Nat) (phase : Phase E) : s.state.keys.marker = true →
      s.threads[index]? = some phase → phase = .starting ∨ phase = .reading →
      OnlyActive s index → s.state.log = [] → (strict → s.state.keys.items = true) →
      Guard threshold complete strict s
  | working (index : Nat) : s.state.keys.marker = true →
      s.threads[index]? = some (.closing s.state.log) → OnlyActive s index →
      Extends complete s.state.log → 1 ≤ s.state.saves → Guard threshold complete strict s
  | stuck : ¬ strict → s.state.keys.marker = true → NoneActive s →
      s.state.log = [] ∨ Extends complete s.state.log → Guard threshold complete strict s
  | done : s.state.keys.items = false →
      (∀ (i : Nat) (log : List E), s.threads[i]? ≠ some (.closing log)) →
      complete s.state.log → 1 ≤ s.state.saves → Guard threshold complete strict s

section

variable {threshold : Nat} {complete : List E → Prop} {strict : Prop} {start s s' : State E}
  {index : Nat} {move : Move (Phase E) (Ghost E) Unit}

private theorem noneActive_after (hnone : NoneActive s) (hmover : ¬ move.thread.Active)
    (hspawned : ∀ p ∈ move.spawned, ¬ p.Active) : NoneActive (s.after index move) := by
  intro i p hp
  rcases Pool.threads_after hp with ⟨_, rfl⟩ | ⟨_, hold⟩ | ⟨_, hnew⟩
  · exact hmover
  · exact hnone i p hold
  · exact hspawned p (List.mem_of_getElem? hnew)

/-- Activity stays at one place when no other thread becomes active. -/
private theorem onlyActive_after {active : Nat} (honly : OnlyActive s active)
    (hmover : move.thread.Active → index = active) (hspawned : ∀ p ∈ move.spawned, ¬ p.Active) :
    OnlyActive (s.after index move) active := by
  intro i p hp hactive
  rcases Pool.threads_after hp with ⟨rfl, rfl⟩ | ⟨_, hold⟩ | ⟨_, hnew⟩
  · exact hmover hactive
  · exact honly i p hold hactive
  · exact absurd hactive (hspawned p (List.mem_of_getElem? hnew))

/-- The worker a winner starts takes over its claim. -/
private theorem onlyActive_spawn (honly : OnlyActive s index)
    (hmover : ¬ move.thread.Active) (hspawned : move.spawned = [.reading]) :
    (s.after index move).threads[s.threads.length]? = some .reading ∧
      OnlyActive (s.after index move) s.threads.length := by
  constructor
  · simp [Pool.after, hspawned]
  · intro i p hp hactive
    rcases Pool.threads_after hp with ⟨_, rfl⟩ | ⟨hne, hold⟩ | ⟨hle, hnew⟩
    · exact absurd hactive hmover
    · exact absurd (honly i p hold hactive) hne
    · rw [hspawned] at hnew
      have hlt := (List.getElem?_eq_some_iff.mp hnew).1
      simp only [List.length_singleton] at hlt
      omega

/-- A step of a thread that is not active and does not win keeps job, marker
and log, and neither it nor what it starts becomes active. -/
private theorem advance_inactive {faulty : Bool} {phase phase' : Phase E} {k k' : Keys}
    {emitted : List E} {spawned : List (Phase E)}
    (h : Advance threshold complete faulty phase k phase' k' emitted spawned)
    (hinactive : ¬ phase.Active) (hlost : phase = .counted → k.marker = true) :
    k'.items = k.items ∧ k'.marker = k.marker ∧ emitted = [] ∧ ¬ phase'.Active ∧
      spawned = [] := by
  cases h with
  | countFault hk => rcases hk with rfl | rfl <;> simp [Phase.Active]
  | markFault hk => rcases hk with rfl | rfl <;> simp [Phase.Active, hlost]
  | win hfalse => simp [hlost rfl] at hfalse
  | countLow => simp [Phase.Active]
  | countHigh => simp [Phase.Active]
  | lose => simp [Phase.Active]
  | ended => simp [Phase.Active]
  | _ => exact absurd trivial hinactive

/-- Once the active thread is through, no thread is active. -/
private theorem noneActive_of_onlyActive (honly : OnlyActive s index)
    (hmover : (s.after index move).threads[index]? = some move.thread)
    (hidle : ¬ move.thread.Active) (hspawned : ∀ p ∈ move.spawned, ¬ p.Active) :
    NoneActive (s.after index move) := by
  intro i p hp hactive
  have hi : i = index := onlyActive_after honly (fun _ => rfl) hspawned i p hp hactive
  subst hi
  rw [hmover] at hp
  obtain rfl := Option.some.inj hp
  exact hidle hactive

private theorem not_closing_of_onlyActive (honly : OnlyActive s index)
    (hmover : (s.after index move).threads[index]? = some move.thread)
    (hidle : ¬ move.thread.Active) (hspawned : ∀ p ∈ move.spawned, ¬ p.Active) (i : Nat)
    (log : List E) : (s.after index move).threads[i]? ≠ some (.closing log) :=
  fun hi => noneActive_of_onlyActive honly hmover hidle hspawned i _ hi trivial

/-- Without a job no step of a thread that has not read one performs an effect
or reads a job. -/
private theorem advance_without_job {faulty : Bool} {phase phase' : Phase E} {k k' : Keys}
    {emitted : List E} {spawned : List (Phase E)}
    (h : Advance threshold complete faulty phase k phase' k' emitted spawned)
    (hitems : k.items = false) (hphase : ∀ log, phase ≠ .closing log) :
    k'.items = false ∧ emitted = [] ∧ (∀ log, phase' ≠ .closing log) ∧
      ∀ p ∈ spawned, ∀ log, p ≠ .closing log := by
  cases h with
  | countFault hk => rcases hk with rfl | rfl <;> simp [hitems]
  | markFault hk => rcases hk with rfl | rfl <;> simp [hitems]
  | readFound htrue => simp [hitems] at htrue
  | effect => exact absurd rfl (hphase _)
  | quiet => exact absurd rfl (hphase _)
  | delete => exact absurd rfl (hphase _)
  | deleteFault => exact absurd rfl (hphase _)
  | _ => simp [hitems]

/-- When at most one thread is active, an active thread is that one. -/
private theorem active_same {active : Nat} {phase phase₀ : Phase E} (honly : OnlyActive s active)
    (hactive : s.threads[active]? = some phase₀) (hphase : s.threads[index]? = some phase)
    (hmoving : phase.Active) : index = active ∧ phase = phase₀ := by
  have hsame : index = active := honly index phase hphase hmoving
  subst hsame
  rw [hphase] at hactive
  exact ⟨rfl, Option.some.inj hactive⟩

private theorem active_other {active : Nat} {phase phase₀ : Phase E}
    (hactive : s.threads[active]? = some phase₀) (hclaim : phase₀.Active)
    (hphase : s.threads[index]? = some phase) (hidle : ¬ phase.Active) : active ≠ index := by
  rintro rfl
  rw [hactive] at hphase
  obtain rfl := Option.some.inj hphase
  exact hidle hclaim

/-- The one save there is: no job can have been read before it. -/
private theorem Guard.save (hinv : Guard threshold complete strict s) (hnone : s.state.saves = 0) :
    Guard threshold complete strict ⟨s.threads, { s.state with
      keys := { s.state.keys with items := true }, saves := s.state.saves + 1 }⟩ := by
  cases hinv with
  | waiting hmarker hactive hlog hstrict =>
      exact .waiting hmarker hactive hlog fun h => ⟨rfl, (hstrict h).2⟩
  | claimed index phase hmarker hphase hkind honly hlog hstrict =>
      exact .claimed index phase hmarker hphase hkind honly hlog fun _ => rfl
  | working index _ _ _ _ hone => omega
  | stuck hstrict hmarker hactive hlog => exact .stuck hstrict hmarker hactive hlog
  | done _ _ _ hone => omega

section

variable {phase phase' : Phase E} {faulty : Bool} {keys' : Keys} {emitted : List E}
  {spawned : List (Phase E)}

/-- Nobody has won the marker: the step counts, wins or changes nothing. -/
private theorem Guard.step_waiting (hmarker : s.state.keys.marker = false) (hnone : NoneActive s)
    (hlog : s.state.log = [])
    (hstrict : strict → s.state.keys.items = true ∧ s.state.keys.count = s.state.counted.length ∧
      (threshold ≤ s.state.counted.length → ∃ i : Nat, s.threads[i]? = some Phase.counted))
    (hphase : s.threads[index]? = some phase)
    (hadv : Advance threshold complete faulty phase s.state.keys phase' keys' emitted spawned)
    (hfaulty : strict → faulty = false) :
    Guard threshold complete strict
      (s.after index (advanceMove s index phase phase' keys' emitted spawned)) := by
  set move := advanceMove s index phase phase' keys' emitted spawned with hmove
  have hmover := Pool.mover_after hphase move
  cases hadv with
  | countLow hlt =>
      refine .waiting hmarker (noneActive_after hnone id (by simp [hmove])) (by simpa [hmove] using hlog)
        fun h => ?_
      obtain ⟨hitems, hcount, _⟩ := hstrict h
      refine ⟨hitems, by simp [hmove, advanceMove, Phase.isFresh, hcount], fun hle => ?_⟩
      simp [hmove, Phase.isFresh] at hle
      omega
  | countHigh hle =>
      refine .waiting hmarker (noneActive_after hnone id (by simp [hmove])) (by simpa [hmove] using hlog)
        fun h => ?_
      obtain ⟨hitems, hcount, _⟩ := hstrict h
      exact ⟨hitems, by simp [hmove, advanceMove, Phase.isFresh, hcount], fun _ => ⟨index, hmover⟩⟩
  | countFault hk =>
      have hmarker' : keys'.marker = false := by rcases hk with rfl | rfl <;> exact hmarker
      exact .waiting hmarker' (noneActive_after hnone id (by simp [hmove]))
        (by simpa [hmove] using hlog) fun h => absurd (hfaulty h) (by decide)
  | win _ =>
      refine .claimed index .starting rfl hmover (Or.inl rfl) ?_ (by simpa [hmove] using hlog)
        fun h => (hstrict h).1
      exact onlyActive_after (fun i p hp ha => absurd ha (hnone i p hp)) (fun _ => rfl)
        (by simp [hmove])
  | lose htrue => simp [hmarker] at htrue
  | markFault hk =>
      have hnone' : NoneActive (s.after index move) :=
        noneActive_after hnone (show ¬ move.thread.Active from id) (by simp [hmove])
      rcases hk with rfl | rfl
      · exact .waiting hmarker hnone' (by simpa [hmove] using hlog)
          fun h => absurd (hfaulty h) (by decide)
      · exact .stuck (fun h => absurd (hfaulty h) (by decide)) rfl hnone'
          (Or.inl (by simpa [hmove] using hlog))
  | ended =>
      refine .waiting hmarker (noneActive_after hnone id (by simp [hmove])) (by simpa [hmove] using hlog)
        fun h => ?_
      obtain ⟨hitems, hcount, hcounted⟩ := hstrict h
      refine ⟨hitems, hcount, fun hle => ?_⟩
      obtain ⟨i, hi⟩ := hcounted hle
      refine ⟨i, Pool.other_after hi ?_ move⟩
      rintro rfl
      rw [hphase] at hi
      cases hi
  | _ => exact absurd trivial (hnone index _ hphase)

/-- One thread holds the claim: it starts its worker or reads the job, or another
thread moves and leaves the claim alone. -/
private theorem Guard.step_claimed {active : Nat} {phase₀ : Phase E}
    (hmarker : s.state.keys.marker = true) (hactive : s.threads[active]? = some phase₀)
    (hkind : phase₀ = .starting ∨ phase₀ = .reading) (honly : OnlyActive s active)
    (hlog : s.state.log = []) (hstrict : strict → s.state.keys.items = true)
    (hsaved : s.state.keys.items = true → 1 ≤ s.state.saves)
    (hphase : s.threads[index]? = some phase)
    (hadv : Advance threshold complete faulty phase s.state.keys phase' keys' emitted spawned)
    (hfaulty : strict → faulty = false) :
    Guard threshold complete strict
      (s.after index (advanceMove s index phase phase' keys' emitted spawned)) := by
  set move := advanceMove s index phase phase' keys' emitted spawned with hmove
  have hmover := Pool.mover_after hphase move
  by_cases hmoving : phase.Active
  · obtain ⟨rfl, rfl⟩ := active_same honly hactive hphase hmoving
    cases hadv with
    | start =>
        obtain ⟨hworker, honly'⟩ := onlyActive_spawn honly (show ¬ move.thread.Active from id) rfl
        exact .claimed _ .reading hmarker hworker (Or.inr rfl) honly' (by simpa [hmove] using hlog)
          hstrict
    | readFound hitems hextends =>
        have hlog' : (s.after index move).state.log = [] := by simpa [hmove] using hlog
        refine .working index hmarker (by rw [hlog']; exact hmover) ?_ (by rw [hlog']; exact hextends)
          (hsaved hitems)
        exact onlyActive_after honly (fun _ => rfl) (by simp [hmove])
    | readMissing hitems =>
        refine .stuck (fun h => by simp [hstrict h] at hitems) hmarker ?_
          (Or.inl (by simpa [hmove] using hlog))
        exact noneActive_of_onlyActive honly hmover id (by simp [hmove])
    | readFault =>
        refine .stuck (fun h => absurd (hfaulty h) (by decide)) hmarker ?_
          (Or.inl (by simpa [hmove] using hlog))
        exact noneActive_of_onlyActive honly hmover id (by simp [hmove])
    | _ => simp at hkind
  · have hclaim : phase₀.Active := by rcases hkind with rfl | rfl <;> exact trivial
    have hne := active_other hactive hclaim hphase hmoving
    obtain ⟨hitems', hmarker', rfl, hidle', rfl⟩ := advance_inactive hadv hmoving fun _ => hmarker
    refine .claimed active phase₀ (hmarker'.trans hmarker) (Pool.other_after hactive hne move) hkind ?_
      (by simpa [hmove] using hlog) fun h => hitems'.trans (hstrict h)
    exact onlyActive_after honly (fun h => absurd h hidle') (by simp [hmove])

/-- One worker has read the job: it performs an effect or deletes the keys, or
another thread moves. -/
private theorem Guard.step_working {active : Nat} (hmarker : s.state.keys.marker = true)
    (hactive : s.threads[active]? = some (.closing s.state.log)) (honly : OnlyActive s active)
    (hlog : Extends complete s.state.log) (hone : 1 ≤ s.state.saves)
    (hphase : s.threads[index]? = some phase)
    (hadv : Advance threshold complete faulty phase s.state.keys phase' keys' emitted spawned)
    (hfaulty : strict → faulty = false) :
    Guard threshold complete strict
      (s.after index (advanceMove s index phase phase' keys' emitted spawned)) := by
  set move := advanceMove s index phase phase' keys' emitted spawned with hmove
  have hmover := Pool.mover_after hphase move
  by_cases hmoving : phase.Active
  · obtain ⟨rfl, rfl⟩ := active_same honly hactive hphase hmoving
    cases hadv with
    | effect op hextends =>
        exact .working index hmarker hmover (onlyActive_after honly (fun _ => rfl) (by simp [hmove]))
          hextends hone
    | quiet hspawned =>
        have hlog' : (s.after index move).state.log = s.state.log := by simp [hmove]
        refine .working index hmarker (by rw [hlog']; exact hmover) ?_ (by rw [hlog']; exact hlog) hone
        refine onlyActive_after honly (fun _ => rfl) fun p hp => ?_
        rw [hspawned p hp]
        exact id
    | delete hcomplete =>
        refine .done rfl (not_closing_of_onlyActive honly hmover id (by simp [hmove])) ?_ hone
        simpa [hmove] using hcomplete
    | deleteFault hcomplete hk =>
        rcases hk with rfl | rfl
        · refine .stuck (fun h => absurd (hfaulty h) (by decide)) hmarker
            (noneActive_of_onlyActive honly hmover id (by simp [hmove])) (Or.inr ?_)
          simpa [hmove] using hlog
        · refine .done rfl (not_closing_of_onlyActive honly hmover id (by simp [hmove])) ?_ hone
          simpa [hmove] using hcomplete
  · have hne := active_other hactive trivial hphase hmoving
    obtain ⟨_, hmarker', rfl, hidle', rfl⟩ := advance_inactive hadv hmoving fun _ => hmarker
    have hlog' : (s.after index move).state.log = s.state.log := by simp [hmove]
    refine .working active (hmarker'.trans hmarker) ?_ ?_ (by rw [hlog']; exact hlog) hone
    · rw [hlog']
      exact Pool.other_after hactive hne move
    · exact onlyActive_after honly (fun h => absurd h hidle') (by simp [hmove])

/-- A fault ended the claim: the marker stays, and nobody becomes active. -/
private theorem Guard.step_stuck (hstrict : ¬ strict) (hmarker : s.state.keys.marker = true)
    (hnone : NoneActive s) (hlog : s.state.log = [] ∨ Extends complete s.state.log)
    (hphase : s.threads[index]? = some phase)
    (hadv : Advance threshold complete faulty phase s.state.keys phase' keys' emitted spawned) :
    Guard threshold complete strict
      (s.after index (advanceMove s index phase phase' keys' emitted spawned)) := by
  have hidle : ¬ phase.Active := hnone index phase hphase
  obtain ⟨_, hmarker', rfl, hidle', rfl⟩ := advance_inactive hadv hidle fun _ => hmarker
  refine .stuck hstrict (hmarker'.trans hmarker) ?_ ?_
  · exact noneActive_after hnone hidle' (by simp)
  · simpa using hlog

/-- The keys are deleted: there is no job to read. -/
private theorem Guard.step_done (hitems : s.state.keys.items = false)
    (hclosing : ∀ (i : Nat) (log : List E), s.threads[i]? ≠ some (.closing log))
    (hlog : complete s.state.log) (hone : 1 ≤ s.state.saves)
    (hphase : s.threads[index]? = some phase)
    (hadv : Advance threshold complete faulty phase s.state.keys phase' keys' emitted spawned) :
    Guard threshold complete strict
      (s.after index (advanceMove s index phase phase' keys' emitted spawned)) := by
  obtain ⟨hitems', rfl, hthread, hspawned⟩ :=
    advance_without_job hadv hitems fun log hlog => hclosing index log (hlog ▸ hphase)
  refine .done hitems' (fun i log hi => ?_) (by simpa using hlog) hone
  rcases Pool.threads_after hi with ⟨_, heq⟩ | ⟨_, hold⟩ | ⟨_, hnew⟩
  · exact hthread log heq.symm
  · exact hclosing i log hold
  · exact hspawned _ (List.mem_of_getElem? hnew) log rfl

end

theorem Guard.step (hinv : Guard threshold complete strict s)
    (hsaved : s.state.keys.items = true → 1 ≤ s.state.saves)
    (hstep : Step threshold complete strict s s') (hsaves : s'.state.saves ≤ 1) :
    Guard threshold complete strict s' := by
  cases hstep with
  | save =>
      have hnone : s.state.saves = 0 := by
        have : s.state.saves + 1 ≤ 1 := hsaves
        omega
      exact hinv.save hnone
  | advance hphase hadv hfaulty =>
      cases hinv with
      | waiting hmarker hnone hlog hstrict =>
          exact .step_waiting hmarker hnone hlog hstrict hphase hadv hfaulty
      | claimed active phase₀ hmarker hactive hkind honly hlog hstrict =>
          exact .step_claimed hmarker hactive hkind honly hlog hstrict hsaved hphase hadv hfaulty
      | working active hmarker hactive honly hlog hone =>
          exact .step_working hmarker hactive honly hlog hone hphase hadv hfaulty
      | stuck hstrict hmarker hnone hlog => exact .step_stuck hstrict hmarker hnone hlog hphase hadv
      | done hitems hclosing hlog hone => exact .step_done hitems hclosing hlog hone hphase hadv

/-- Saves are never taken back, and a job that is there was saved. -/
private theorem step_saves (hstep : Step threshold complete strict s s') :
    s.state.saves ≤ s'.state.saves ∧
      ((s.state.keys.items = true → 1 ≤ s.state.saves) →
        s'.state.keys.items = true → 1 ≤ s'.state.saves) := by
  cases hstep with
  | save => exact ⟨Nat.le_succ _, fun _ _ => Nat.le_add_left 1 _⟩
  | @advance index phase phase' faulty keys' emitted spawned hphase hadv hfaulty =>
      refine ⟨le_refl _, fun hold hitems => hold ?_⟩
      have hkeys : keys'.items = true := hitems
      cases hadv with
      | countFault hk => rcases hk with rfl | rfl <;> exact hkeys
      | markFault hk => rcases hk with rfl | rfl <;> exact hkeys
      | deleteFault _ hk =>
          rcases hk with rfl | rfl
          · exact hkeys
          · cases hkeys
      | delete => cases hkeys
      | _ => exact hkeys

private theorem guard_and_saved (hthreshold : 0 < threshold) (hstart : Start start)
    (hitems : strict → start.state.keys.items = true)
    (hreach : Reach threshold complete strict start s) (hsaves : s.state.saves ≤ 1) :
    Guard threshold complete strict s ∧ (s.state.keys.items = true → 1 ≤ s.state.saves) := by
  induction hreach with
  | start =>
      refine ⟨.waiting hstart.marker ?_ hstart.log fun h => ⟨hitems h, ?_, ?_⟩, hstart.saved⟩
      · intro i phase hphase
        rcases hstart.phases i phase hphase with rfl | rfl <;> exact id
      · rw [hstart.count, hstart.counted]
        rfl
      · intro hle
        rw [hstart.counted] at hle
        exact absurd hle (Nat.not_le.mpr hthreshold)
  | step _ hstep ih =>
      obtain ⟨hmono, hkeep⟩ := step_saves hstep
      obtain ⟨hguard, hsaved⟩ := ih (hmono.trans hsaves)
      exact ⟨hguard.step hsaved hstep hsaves, hkeep hsaved⟩

/-- The guard holds in every reachable state while the job is saved at most
once. -/
theorem guard (hthreshold : 0 < threshold) (hstart : Start start)
    (hitems : strict → start.state.keys.items = true)
    (hreach : Reach threshold complete strict start s) (hsaves : s.state.saves ≤ 1) :
    Guard threshold complete strict s :=
  (guard_and_saved hthreshold hstart hitems hreach hsaves).1

/-- At most one execution: the effects are an initial part of a single one. -/
theorem Guard.extends (hinv : Guard threshold complete strict s) :
    s.state.log = [] ∨ Extends complete s.state.log := by
  cases hinv with
  | waiting _ _ hlog _ => exact Or.inl hlog
  | claimed _ _ _ _ _ _ hlog _ => exact Or.inl hlog
  | working _ _ _ _ hlog _ => exact Or.inr hlog
  | stuck _ _ _ hlog => exact hlog
  | done _ _ hlog _ => exact Or.inr (.of_complete hlog)

/-- At least one execution: in a strict run that is over and has counted
enough participants the job is done, and its keys have been deleted. -/
theorem Guard.done_of_ended (hinv : Guard threshold complete strict s) (hstrict : strict)
    (hended : ∀ (i : Nat) (phase : Phase E), s.threads[i]? = some phase → phase = .ended)
    (hcounted : threshold ≤ s.state.counted.length) :
    complete s.state.log ∧ s.state.keys.items = false := by
  cases hinv with
  | waiting _ _ _ hwait =>
      obtain ⟨i, hi⟩ := (hwait hstrict).2.2 hcounted
      cases hended i _ hi
  | claimed index phase _ hphase hkind _ _ _ =>
      obtain rfl := hended index phase hphase
      rcases hkind with h | h <;> cases h
  | working index _ hphase _ _ _ => cases hended index _ hphase
  | stuck hfaulty _ _ _ => exact absurd hstrict hfaulty
  | done hitems _ hlog _ => exact ⟨hlog, hitems⟩

/-- When no participant is fresh any more, all of them have been counted. -/
theorem Counting.all_counted (hinv : Counting threshold start s) {n : Nat}
    (hfirst : ∀ i < n, start.threads[i]? = some Phase.fresh)
    (hnone : ∀ i : Nat, s.threads[i]? ≠ some Phase.fresh) : n ≤ s.state.counted.length := by
  have hsub : List.range n ⊆ s.state.counted := by
    intro i hi
    rcases hinv.rest i (hfirst i (List.mem_range.mp hi)) with hin | hfresh
    · exact hin
    · exact absurd hfresh (hnone i)
  simpa using (List.subperm_of_subset List.nodup_range hsub).length_le

end

end Interleaving.Barrier

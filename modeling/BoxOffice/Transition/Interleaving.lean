import BoxOffice.Transition.Run

namespace Transition

/-!
# Transition library — interleaved processes

`Processes` describes any number of processes with a local state each, over one shared state:
how one of them takes its next atomic step, and what else may happen to the shared state
between two steps.  A `Config` holds the shared state and the processes started so far.

* `system` interleaves everything in any order; `systemWhen C` admits a process step only where
  `C` holds;
* `Interference` collects the proof obligations of an assertion proof: a global invariant, an
  assertion about each process, and that no step of one process spoils the assertion of another;
* `Interference.reachable` / `Interference.run` discharge the induction over schedules once;
* `Run.shared_rel` lifts a reflexive and transitive relation from the steps to whole runs.
-/

/-- Processes with local states `L` over a shared state `σ`, in an environment with events
    `ε`. -/
structure Processes (σ L ε : Type*) where
  init : σ → Prop
  start : L → Prop
  step : σ → L → σ × L
  admits : σ → ε → Prop
  env : ε → σ → σ

/-- The shared state and the processes started so far. -/
structure Config (σ L : Type*) where
  shared : σ
  procs : List L

/-- What a schedule does next: start a process, let one take a step, or let the environment
    act. -/
inductive Move (L ε : Type*)
  | spawn (l : L)
  | act (i : Nat)
  | env (e : ε)

namespace Processes

variable {σ L ε : Type*} (P : Processes σ L ε)

/-- Carry out a move. -/
def exec : Move L ε → Config σ L → Config σ L
  | .spawn l, c => { c with procs := c.procs ++ [l] }
  | .act i, c =>
    match c.procs[i]? with
    | some l => ⟨(P.step c.shared l).1, c.procs.set i (P.step c.shared l).2⟩
    | none => c
  | .env e, c => { c with shared := P.env e c.shared }

/-- The moves that are possible, process steps only where `C` holds. -/
def Admits (C : σ → L → Prop) (c : Config σ L) : Move L ε → Prop
  | .spawn l => P.start l
  | .act i => ∃ l, c.procs[i]? = some l ∧ C c.shared l
  | .env e => P.admits c.shared e

/-- The interleavings in which every process step meets `C`. -/
def systemWhen (C : σ → L → Prop) : System (Config σ L) (Move L ε) :=
  .ofFun (fun c => P.init c.shared ∧ c.procs = []) (P.Admits C) P.exec

/-- All interleavings. -/
def system : System (Config σ L) (Move L ε) := P.systemWhen fun _ _ => True

variable {P} {C : σ → L → Prop} {c c' : Config σ L} {i : Nat} {l : L}

/-- A step of one process. -/
theorem exec_act (h : c.procs[i]? = some l) :
    P.exec (.act i) c = ⟨(P.step c.shared l).1, c.procs.set i (P.step c.shared l).2⟩ := by
  simp only [exec, h]

/-- The process started last takes its step. -/
theorem exec_act_last (s : σ) (ls : List L) (l : L) :
    P.exec (.act ls.length) ⟨s, ls ++ [l]⟩ = ⟨(P.step s l).1, ls ++ [(P.step s l).2]⟩ := by
  rw [exec_act (l := l) (by simp)]
  simp

/-! Reachable configurations, move by move. -/

/-- A process may start. -/
theorem reachable_spawn (h : Reachable (P.systemWhen C) c) (hl : P.start l) :
    Reachable (P.systemWhen C) (P.exec (.spawn l) c) :=
  h.step (i := .spawn l) ⟨hl, rfl⟩

/-- A process may take its step. -/
theorem reachable_act (h : Reachable (P.systemWhen C) c) (i : Nat)
    (hC : ∀ l, c.procs[i]? = some l → C c.shared l) :
    Reachable (P.systemWhen C) (P.exec (.act i) c) := by
  cases hl : c.procs[i]? with
  | none =>
    -- Nobody is there to take the step.
    have hstay : P.exec (.act i) c = c := by simp only [exec, hl]
    rwa [hstay]
  | some l => exact h.step (i := .act i) ⟨⟨l, hl, hC l hl⟩, rfl⟩

/-- The environment may do what it is admitted to. -/
theorem reachable_env (h : Reachable (P.systemWhen C) c) {e : ε} (he : P.admits c.shared e) :
    Reachable (P.systemWhen C) (P.exec (.env e) c) :=
  h.step (i := .env e) ⟨he, rfl⟩

/-- Carry out moves one after the other. -/
def perform (P : Processes σ L ε) (as : List (Move L ε)) (c : Config σ L) : Config σ L :=
  as.foldl (fun c a => P.exec a c) c

/-- Moves whose processes may start, and whose events are always possible, reach what they
    reach. -/
theorem reachable_perform {as : List (Move L ε)} (h : Reachable P.system c)
    (hstart : ∀ l, .spawn l ∈ as → P.start l) (henv : ∀ s e, .env e ∈ as → P.admits s e) :
    Reachable P.system (P.perform as c) := by
  induction as generalizing c with
  | nil => exact h
  | cons a as ih =>
    -- Induction on the moves: the first one is possible, the rest start where it leads.
    refine ih ?_ (fun l hl => hstart l (List.mem_cons_of_mem _ hl))
      fun s e he => henv s e (List.mem_cons_of_mem _ he)
    cases a with
    | spawn l => exact reachable_spawn h (hstart l (List.mem_cons_self ..))
    | act i => exact reachable_act h i fun _ _ => trivial
    | env e => exact reachable_env h (henv _ e (List.mem_cons_self ..))

/-- Each of the moves is possible where it is taken. -/
def AdmitsAll (P : Processes σ L ε) (C : σ → L → Prop) : Config σ L → List (Move L ε) → Prop
  | _, [] => True
  | c, a :: as => P.Admits C c a ∧ P.AdmitsAll C (P.exec a c) as

/-- Moves that are admitted are a run. -/
theorem run_perform {as : List (Move L ε)} (h : P.AdmitsAll C c as) :
    Run (P.systemWhen C) c as (P.perform as c) := by
  induction as generalizing c with
  | nil => exact .nil
  | cons a as ih => exact .cons ⟨h.1, rfl⟩ (ih h.2)

/-- Each of the moves meets a condition on the configuration where it is taken. -/
def AllAlong (P : Processes σ L ε) (D : Config σ L → Move L ε → Prop) :
    Config σ L → List (Move L ε) → Prop
  | _, [] => True
  | c, a :: as => D c a ∧ P.AllAlong D (P.exec a c) as

/-- Moves that are admitted, and meet a condition besides, are a run under the condition. -/
theorem run_perform_restrict {D : Config σ L → Move L ε → Prop} {as : List (Move L ε)}
    (h : P.AdmitsAll C c as) (hD : P.AllAlong D c as) :
    Run ((P.systemWhen C).restrict D) c as (P.perform as c) := by
  induction as generalizing c with
  | nil => exact .nil
  | cons a as ih => exact .cons ⟨⟨h.1, rfl⟩, hD.1⟩ (ih h.2 hD.2)

/-- **One step.** A process is started, a process takes its next step, or the environment
    acts. -/
theorem step_cases {a : Move L ε} (h : (P.systemWhen C).step c a c') :
    (∃ l, P.start l ∧ a = .spawn l ∧ c' = ⟨c.shared, c.procs ++ [l]⟩) ∨
      (∃ i l, c.procs[i]? = some l ∧ C c.shared l ∧ a = .act i ∧
        c' = ⟨(P.step c.shared l).1, c.procs.set i (P.step c.shared l).2⟩) ∨
      ∃ e, P.admits c.shared e ∧ a = .env e ∧ c' = ⟨P.env e c.shared, c.procs⟩ := by
  obtain ⟨hadm, rfl⟩ := h
  cases a with
  | spawn l => exact .inl ⟨l, hadm, rfl, rfl⟩
  | act i =>
    obtain ⟨l, hl, hC⟩ := hadm
    exact .inr (.inl ⟨i, l, hl, hC, rfl, exec_act hl⟩)
  | env e => exact .inr (.inr ⟨e, hadm, rfl, rfl⟩)

end Processes

/-! ### Assertion proofs -/

section Interference

variable {σ L ε : Type*} {P : Processes σ L ε} {C : σ → L → Prop} {G : σ → Prop}
  {A : σ → L → Prop} {c c' : Config σ L}

/-- `G` is an invariant of the shared state and `A` an assertion about each process: every step
    of a process re-establishes both, and leaves the assertions of the others intact. -/
structure Interference (P : Processes σ L ε) (C : σ → L → Prop) (G : σ → Prop)
    (A : σ → L → Prop) : Prop where
  start : ∀ s l, G s → P.start l → A s l
  step : ∀ s l, G s → A s l → C s l → G (P.step s l).1 ∧ A (P.step s l).1 (P.step s l).2
  stable : ∀ s l k, G s → A s l → C s l → A s k → A (P.step s l).1 k
  env : ∀ s e, G s → P.admits s e → G (P.env e s)
  envStable : ∀ s e l, G s → P.admits s e → A s l → A (P.env e s) l

/-- The invariant and the assertions, of a configuration. -/
def Asserted (G : σ → Prop) (A : σ → L → Prop) (c : Config σ L) : Prop :=
  G c.shared ∧ ∀ l ∈ c.procs, A c.shared l

/-- **The step.** A move keeps what each process has asserted. -/
theorem Interference.preserves (h : Interference P C G A) {a : Move L ε}
    (hs : (P.systemWhen C).step c a c') (hc : Asserted G A c) : Asserted G A c' := by
  obtain ⟨hg, ha⟩ := hc
  rcases Processes.step_cases hs with ⟨l, hl, -, rfl⟩ | ⟨i, l, hl, hC, -, rfl⟩ | ⟨e, he, -, rfl⟩
  · refine ⟨hg, fun k hk => ?_⟩
    rcases List.mem_append.mp hk with hk | hk
    · exact ha k hk
    · rw [List.mem_singleton.mp hk]
      exact h.start _ l hg hl
  · have hal := ha l (List.mem_of_getElem? hl)
    obtain ⟨hg', ha'⟩ := h.step _ l hg hal hC
    refine ⟨hg', fun k hk => ?_⟩
    -- The process that moved, or one whose assertion has to survive the move.
    rcases List.mem_or_eq_of_mem_set hk with hk | rfl
    · exact h.stable _ l k hg hal hC (ha k hk)
    · exact ha'
  · exact ⟨h.env _ e hg he, fun k hk => h.envStable _ e k hg he (ha k hk)⟩

/-- **Assertion rule, over a run.** -/
theorem Interference.run (h : Interference P C G A) {as : List (Move L ε)}
    (hr : Run (P.systemWhen C) c as c') (hc : Asserted G A c) : Asserted G A c' :=
  hr.invariant hc fun _ _ _ hu hs => h.preserves hs hu

/-- **Assertion rule.** In every reachable configuration the invariant holds, and the assertion
    holds of every process. -/
theorem Interference.reachable (h : Interference P C G A) (hinit : ∀ s, P.init s → G s)
    (hr : Reachable (P.systemWhen C) c) : Asserted G A c :=
  hr.invariant (fun c hc => ⟨hinit _ hc.1, by rw [hc.2]; simp⟩) fun _ _ _ hu hs => h.preserves hs hu

/-- A relation that every step of a run keeps is kept by the run. -/
theorem Run.shared_rel {ι : Type*} {S : System (Config σ L) ι} {R : σ → σ → Prop}
    {as : List ι} (hr : Run S c as c') (hrefl : ∀ s, R s s)
    (htrans : ∀ s t u, R s t → R t u → R s u)
    (hstep : ∀ d a d', S.step d a d' → R d.shared d'.shared) : R c.shared c'.shared := by
  induction hr with
  | nil => exact hrefl _
  | snoc _ hs ih => exact htrans _ _ _ ih (hstep _ _ _ hs)

end Interference

end Transition

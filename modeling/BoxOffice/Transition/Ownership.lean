import BoxOffice.Transition.Interleaving

namespace Transition

/-!
# Transition library — processes that claim work

Workers over a shared store take work items for themselves one at a time and give each up
again.  Two arguments about them recur, and both are needed to show that a work item is handled
once and is not forgotten:

* **ownership** — no two processes own the same item (`Exclusive`), provided that a process only
  claims what nobody owns.  An assertion about a process then only has to survive the steps of
  processes that own something else: `Ownership` collects the obligations, and
  `Ownership.reachable` discharges them;
* **attendance** — whatever needs attention has a process that will see to it (`Attended`),
  provided that no process drops what it serves before the need is gone: `Attendance.preserves`.
-/

variable {σ L ε κ : Type*}

/-! ### Ownership -/

/-- No two processes own the same item. -/
def Exclusive (owns : L → Option κ) (procs : List L) : Prop :=
  ∀ (i j : Nat) (k l : L) (r : κ), procs[i]? = some k → procs[j]? = some l →
    owns k = some r → owns l = some r → i = j

namespace Exclusive

variable {owns : L → Option κ} {procs : List L} {i j : Nat} {k l l' : L} {r : κ}

/-- Among no processes every owner is the only one. -/
theorem nil (owns : L → Option κ) : Exclusive owns ([] : List L) := by
  intro i j k l r hk
  simp at hk

/-- A process that owns nothing joins. -/
theorem spawn (h : Exclusive owns procs) (hl : owns l = none) : Exclusive owns (procs ++ [l]) := by
  -- What owns an item was there before.
  have hold : ∀ (n : Nat) (m : L) (r : κ), (procs ++ [l])[n]? = some m → owns m = some r →
      procs[n]? = some m := by
    intro n m r hm hr
    rcases List.mem_append.mp (List.mem_of_getElem? hm) with hmem | hmem
    · by_cases hn : n < procs.length
      · rwa [List.getElem?_append_left hn] at hm
      · rw [List.getElem?_append_right (Nat.le_of_not_lt hn)] at hm
        have hml : m = l := by simpa using List.mem_of_getElem? hm
        rw [hml, hl] at hr
        cases hr
    · rw [List.mem_singleton.mp hmem, hl] at hr
      cases hr
  intro i j a b r ha hb hra hrb
  exact h i j a b r (hold i a r ha hra) (hold j b r hb hrb) hra hrb

/-- A process goes on to own only what it owned before, or what nobody else owns. -/
theorem act (h : Exclusive owns procs) (hl : procs[i]? = some l)
    (hclaim : ∀ r, owns l' = some r → owns l = some r ∨ ∀ k ∈ procs, owns k ≠ some r) :
    Exclusive owns (procs.set i l') := by
  have hi : i < procs.length := (List.getElem?_eq_some_iff.mp hl).1
  -- An item of the process that moved is an item of no other.
  have hself : ∀ (j : Nat) (k : L) (r : κ), j ≠ i → procs[j]? = some k → owns l' = some r →
      owns k ≠ some r := by
    intro j k r hne hk hr hkr
    rcases hclaim r hr with hown | hnone
    · exact hne (h j i k l r hk hl hkr hown)
    · exact hnone k (List.mem_of_getElem? hk) hkr
  intro m n a b r ha hb hra hrb
  by_cases hm : m = i <;> by_cases hn : n = i
  · rw [hm, hn]
  · subst hm
    rw [List.getElem?_set_self hi] at ha
    rw [List.getElem?_set_ne (Ne.symm hn)] at hb
    obtain rfl : l' = a := Option.some.inj ha
    exact absurd hrb (hself n b r hn hb hra)
  · subst hn
    rw [List.getElem?_set_self hi] at hb
    rw [List.getElem?_set_ne (Ne.symm hm)] at ha
    obtain rfl : l' = b := Option.some.inj hb
    exact absurd hra (hself m a r hm ha hrb)
  · rw [List.getElem?_set_ne (Ne.symm hm)] at ha
    rw [List.getElem?_set_ne (Ne.symm hn)] at hb
    exact h m n a b r ha hb hra hrb

end Exclusive

section Rules

variable {P : Processes σ L ε} {C : σ → L → Prop} {G : σ → Prop} {A : σ → L → Prop}
  {owns : L → Option κ} {c c' : Config σ L}

/-- `G` is an invariant of the shared state, `A` an assertion about each process, and `owns` what
    a process has claimed: a step claims nothing that is owned, and spoils no assertion of a
    process that owns something else. -/
structure Ownership (P : Processes σ L ε) (C : σ → L → Prop) (G : σ → Prop) (A : σ → L → Prop)
    (owns : L → Option κ) : Prop where
  start : ∀ s l, G s → P.start l → A s l ∧ owns l = none
  step : ∀ s l, G s → A s l → C s l → G (P.step s l).1 ∧ A (P.step s l).1 (P.step s l).2
  stable : ∀ s l k, G s → A s l → C s l → A s k → (∀ r, owns l = some r → owns k ≠ some r) →
    A (P.step s l).1 k
  claim : ∀ s l r, G s → A s l → C s l → owns (P.step s l).2 = some r →
    owns l = some r ∨ ∀ k, A s k → owns k ≠ some r
  env : ∀ s e, G s → P.admits s e → G (P.env e s)
  envStable : ∀ s e l, G s → P.admits s e → A s l → A (P.env e s) l

/-- The invariant, the assertions, and that nothing is owned twice. -/
def Owned (G : σ → Prop) (A : σ → L → Prop) (owns : L → Option κ) (c : Config σ L) : Prop :=
  Asserted G A c ∧ Exclusive owns c.procs

/-- A process that owns nothing is started. -/
theorem Owned.spawn {l : L} (hc : Owned G A owns c) (hl : A c.shared l) (hnone : owns l = none) :
    Owned G A owns ⟨c.shared, c.procs ++ [l]⟩ := by
  obtain ⟨⟨hg, ha⟩, hex⟩ := hc
  -- The processes from before keep their assertions: nothing was written.
  refine ⟨⟨hg, fun k hk => ?_⟩, hex.spawn hnone⟩
  rcases List.mem_append.mp hk with hk | hk
  · exact ha k hk
  · rw [List.mem_singleton.mp hk]
    exact hl

/-- A process takes a step: the others keep their assertions, those that own what it owns apart,
    and it claims nothing that another owns. -/
theorem Owned.act {i : Nat} {l l' : L} {s' : σ} (hc : Owned G A owns c) (hl : c.procs[i]? = some l)
    (hg' : G s') (ha' : A s' l')
    (hstable : ∀ k ∈ c.procs, A c.shared k → (∀ r, owns l = some r → owns k ≠ some r) → A s' k)
    (hclaim : ∀ r, owns l' = some r → owns l = some r ∨ ∀ k ∈ c.procs, owns k ≠ some r) :
    Owned G A owns ⟨s', c.procs.set i l'⟩ := by
  obtain ⟨⟨-, ha⟩, hex⟩ := hc
  refine ⟨⟨hg', fun k hk => ?_⟩, hex.act hl hclaim⟩
  obtain ⟨j, hj⟩ := List.mem_iff_getElem?.mp hk
  by_cases hji : j = i
  · subst hji
    rw [List.getElem?_set_self (List.getElem?_eq_some_iff.mp hl).1] at hj
    rwa [← Option.some.inj hj]
  · have hj' : c.procs[j]? = some k := by rwa [List.getElem?_set_ne (Ne.symm hji)] at hj
    -- A process other than the one that moved owns nothing of what that one owns.
    have hk' := List.mem_of_getElem? hj'
    exact hstable k hk' (ha k hk') fun r hr hkr => hji (hex j i k l r hj' hl hkr hr)

/-- **The step.** A move keeps what each process owns. -/
theorem Ownership.preserves (h : Ownership P C G A owns) {a : Move L ε}
    (hs : (P.systemWhen C).step c a c') (hc : Owned G A owns c) : Owned G A owns c' := by
  obtain ⟨⟨hg, ha⟩, hex⟩ := id hc
  rcases Processes.step_cases hs with ⟨l, hl, -, rfl⟩ | ⟨i, l, hl, hC, -, rfl⟩ | ⟨e, he, -, rfl⟩
  · obtain ⟨hal, hnone⟩ := h.start _ l hg hl
    exact hc.spawn hal hnone
  · have hal := ha l (List.mem_of_getElem? hl)
    obtain ⟨hg', ha'⟩ := h.step _ l hg hal hC
    exact hc.act hl hg' ha' (fun k _ hk hne => h.stable _ l k hg hal hC hk hne)
      fun r hr => (h.claim _ l r hg hal hC hr).imp id fun hfree k hk => hfree k (ha k hk)
  · exact ⟨⟨h.env _ e hg he, fun k hk => h.envStable _ e k hg he (ha k hk)⟩, hex⟩

/-- **Ownership rule.** In every reachable configuration the invariant holds, the assertion holds
    of every process, and nothing is owned twice. -/
theorem Ownership.reachable (h : Ownership P C G A owns) (hinit : ∀ s, P.init s → G s)
    (hr : Reachable (P.systemWhen C) c) : Owned G A owns c :=
  hr.invariant
    (fun c hc => ⟨⟨hinit _ hc.1, by rw [hc.2]; simp⟩, by rw [hc.2]; exact .nil owns⟩)
    fun _ _ _ hu hs => h.preserves hs hu

/-! ### Attendance -/

/-- Every need of the shared state has a process that serves it. -/
def Attended {κ : Type*} (need : σ → κ → Prop) (serves : L → κ → Prop) (c : Config σ L) : Prop :=
  ∀ r, need c.shared r → ∃ l ∈ c.procs, serves l r

/-- A need arises where the process that causes it serves it, and no process drops a need that it
    serves. -/
structure Attendance {κ : Type*} (P : Processes σ L ε) (C : σ → L → Prop) (G : σ → Prop)
    (A : σ → L → Prop) (need : σ → κ → Prop) (serves : L → κ → Prop) : Prop where
  step : ∀ s l r, G s → A s l → C s l → need (P.step s l).1 r →
    serves (P.step s l).2 r ∨ (need s r ∧ ¬serves l r)
  env : ∀ s e r, G s → P.admits s e → need (P.env e s) r → need s r

variable {need : σ → κ → Prop} {serves : L → κ → Prop}

/-- **Attendance rule.** A step from a configuration that meets the invariant and the assertions
    leaves every need attended. -/
theorem Attendance.preserves (h : Attendance P C G A need serves) {a : Move L ε}
    (hs : (P.systemWhen C).step c a c') (hc : Asserted G A c) (hn : Attended need serves c) :
    Attended need serves c' := by
  obtain ⟨hg, ha⟩ := hc
  intro r hr
  rcases Processes.step_cases hs with ⟨l, -, -, rfl⟩ | ⟨i, l, hl, hC, -, rfl⟩ | ⟨e, he, -, rfl⟩
  -- Starting a process takes none away.
  · obtain ⟨k, hk, hserves⟩ := hn r hr
    exact ⟨k, List.mem_append_left _ hk, hserves⟩
  · have hi : i < c.procs.length := (List.getElem?_eq_some_iff.mp hl).1
    rcases h.step _ l r hg (ha l (List.mem_of_getElem? hl)) hC hr with hserves | ⟨hneed, hnot⟩
    · exact ⟨_, List.mem_set hi _, hserves⟩
    · -- Somebody else serves the need, and has not moved.
      obtain ⟨k, hk, hserves⟩ := hn r hneed
      obtain ⟨j, hj⟩ := List.mem_iff_getElem?.mp hk
      have hji : j ≠ i := by
        rintro rfl
        obtain rfl : l = k := Option.some.inj (hl.symm.trans hj)
        exact hnot hserves
      refine ⟨k, List.mem_iff_getElem?.mpr ⟨j, ?_⟩, hserves⟩
      rwa [List.getElem?_set_ne (Ne.symm hji)]
  · exact hn r (h.env _ e r hg he hr)

/-- When nobody serves anything, nothing needs attention. -/
theorem Attended.quiet (h : Attended need serves c) (hidle : ∀ l ∈ c.procs, ∀ r, ¬serves l r)
    (r : κ) : ¬need c.shared r := by
  intro hr
  obtain ⟨l, hl, hserves⟩ := h r hr
  exact hidle l hl r hserves

end Rules

end Transition

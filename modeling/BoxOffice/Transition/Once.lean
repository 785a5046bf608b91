import BoxOffice.Transition.Interleaving

namespace Transition

/-!
# Transition library — what one process at most has done

A mark says what a process has achieved, if anything.  `MarkedOnce` is that no two processes have
the same mark; `Interference.markedOnce` derives it for every reachable configuration from one
obligation about a step: whoever gets a mark that another process has, had it before.
-/

section Once

variable {σ L ε V : Type*} {P : Processes σ L ε} {C : σ → L → Prop} {G : σ → Prop}
  {A : σ → L → Prop} {mark : L → Option V} {c c' : Config σ L}

/-- No two processes have the same mark. -/
def MarkedOnce (mark : L → Option V) (c : Config σ L) : Prop :=
  ∀ (i j : Nat) (l k : L) (v : V), c.procs[i]? = some l → c.procs[j]? = some k →
    mark l = some v → mark k = some v → i = j

/-- A process that starts has no mark. -/
theorem MarkedOnce.spawn (h : MarkedOnce mark c) {l : L} (hl : mark l = none) :
    MarkedOnce mark ⟨c.shared, c.procs ++ [l]⟩ := by
  have hold : ∀ (i : Nat) (k : L) (v : V), (c.procs ++ [l])[i]? = some k → mark k = some v →
      c.procs[i]? = some k := by
    intro i k v hi hk
    rcases Nat.lt_or_ge i c.procs.length with hlt | hge
    · rwa [List.getElem?_append_left hlt] at hi
    · rw [List.getElem?_append_right hge] at hi
      rw [List.mem_singleton.mp (List.mem_of_getElem? hi), hl] at hk
      cases hk
  intro i j l k v hi hj hl hk
  exact h i j l k v (hold i l v hi hl) (hold j k v hj hk) hl hk

/-- A process goes on; if it has the mark of another one, it had it before. -/
theorem MarkedOnce.set (h : MarkedOnce mark c) {i : Nat} {l l' : L} {s : σ}
    (hi : c.procs[i]? = some l)
    (hnew : ∀ k ∈ c.procs, ∀ v, mark l' = some v → mark k = some v → mark l = some v) :
    MarkedOnce mark ⟨s, c.procs.set i l'⟩ := by
  have hlt : i < c.procs.length := (List.getElem?_eq_some_iff.mp hi).1
  have hother : ∀ (j : Nat) (k : L) (v : V), c.procs[j]? = some k → mark l' = some v →
      mark k = some v → i = j := fun j k v hj hl' hk =>
    h i j l k v hi hj (hnew k (List.mem_of_getElem? hj) v hl' hk) hk
  intro j₁ j₂ k₁ k₂ v hj₁ hj₂ hk₁ hk₂
  by_cases h₁ : i = j₁ <;> by_cases h₂ : i = j₂
  · exact h₁.symm.trans h₂
  · subst h₁
    rw [List.getElem?_set_self hlt] at hj₁
    rw [List.getElem?_set_ne h₂] at hj₂
    cases hj₁
    exact hother j₂ k₂ v hj₂ hk₁ hk₂
  · subst h₂
    rw [List.getElem?_set_self hlt] at hj₂
    rw [List.getElem?_set_ne h₁] at hj₁
    cases hj₂
    exact (hother j₁ k₁ v hj₁ hk₂ hk₁).symm
  · rw [List.getElem?_set_ne h₁] at hj₁
    rw [List.getElem?_set_ne h₂] at hj₂
    exact h j₁ j₂ k₁ k₂ v hj₁ hj₂ hk₁ hk₂

/-- **Exclusion rule.** Where a process that starts has no mark, and one that gets the mark of
    another had it before, no two processes ever have the same one. -/
theorem Interference.markedOnce (h : Interference P C G A) (hinit : ∀ s, P.init s → G s)
    (hstart : ∀ l, P.start l → mark l = none)
    (hstep : ∀ s l k v, G s → A s l → A s k → mark (P.step s l).2 = some v → mark k = some v →
      mark l = some v)
    (hr : Reachable (P.systemWhen C) c) : MarkedOnce mark c := by
  have hfirst : ∀ c, (P.systemWhen C).init c → Asserted G A c ∧ MarkedOnce mark c := by
    intro c hc
    refine ⟨⟨hinit _ hc.1, by rw [hc.2]; simp⟩, fun i j l k v hi => ?_⟩
    rw [hc.2] at hi
    cases hi
  have hnext : ∀ c a c', Asserted G A c ∧ MarkedOnce mark c → (P.systemWhen C).step c a c' →
      Asserted G A c' ∧ MarkedOnce mark c' := by
    intro c a c' hu hs
    refine ⟨h.preserves hs hu.1, ?_⟩
    rcases Processes.step_cases hs with ⟨l, hl, -, rfl⟩ | ⟨i, l, hi, -, -, rfl⟩ | ⟨e, -, -, rfl⟩
    · exact hu.2.spawn (hstart l hl)
    · exact hu.2.set hi fun k hk v =>
        hstep _ l k v hu.1.1 (hu.1.2 l (List.mem_of_getElem? hi)) (hu.1.2 k hk)
    · exact hu.2
  exact (hr.invariant hfirst hnext).2

end Once

end Transition

import BoxOffice.Transition.Interleaving

namespace Transition

/-!
# Transition library — steps kept apart

A process that has read something is *busy* until it has written what it made of it, and some
moves of others *break* what it read.

* `Apart breaks busy` is the condition on a schedule that no move that breaks is taken while a
  process is busy;
* `Relied` collects what has to be shown of the single moves: becoming busy establishes the
  fact, and a move that does not break it keeps it;
* `Relied.reachable` is the rule: in a schedule that keeps them apart, the fact holds at every
  moment at which a process is busy.
-/

/-- No move that breaks is taken while a process is busy. -/
def Apart {σ L ε : Type*} (breaks : Config σ L → Move L ε → Prop) (busy : L → Prop)
    (c : Config σ L) (a : Move L ε) : Prop :=
  breaks c a → ∀ k ∈ c.procs, ¬busy k

/-- The fact holds if somebody is busy. -/
def WhileBusy {σ L : Type*} (busy : L → Prop) (F : σ → Prop) (c : Config σ L) : Prop :=
  (∃ k ∈ c.procs, busy k) → F c.shared

section Apart

variable {σ L ε : Type*} {P : Processes σ L ε} {C : σ → L → Prop}
  {breaks : Config σ L → Move L ε → Prop} {D : Config σ L → Move L ε → Prop} {busy : L → Prop}
  {F : σ → Prop} {c c' : Config σ L}

/-- The busy processes rely on `F`: becoming busy establishes it, and every move that does not
    break it keeps it. -/
structure Relied (P : Processes σ L ε) (C : σ → L → Prop)
    (breaks : Config σ L → Move L ε → Prop) (busy : L → Prop) (F : σ → Prop) : Prop where
  start : ∀ l, P.start l → ¬busy l
  enter : ∀ s l, C s l → ¬busy l → busy (P.step s l).2 → F (P.step s l).1
  keep : ∀ c a c', Reachable (P.systemWhen C) c → (P.systemWhen C).step c a c' →
    ¬breaks c a → F c.shared → F c'.shared

/-- **The move.** -/
theorem Relied.step (h : Relied P C breaks busy F) {a : Move L ε}
    (hr : Reachable (P.systemWhen C) c) (hs : (P.systemWhen C).step c a c')
    (hapart : Apart breaks busy c a) (hc : WhileBusy busy F c) : WhileBusy busy F c' := by
  -- Who was busy before the move keeps it from breaking the fact.
  have hkeep : (∃ k ∈ c.procs, busy k) → F c'.shared := fun hbusy =>
    have ⟨k, hk, hkb⟩ := hbusy
    h.keep c a c' hr hs (fun hbreak => hapart hbreak k hk hkb) (hc hbusy)
  rintro ⟨k, hk, hbusy⟩
  rcases Processes.step_cases hs with ⟨l, hl, -, rfl⟩ | ⟨i, l, hi, hC, -, rfl⟩ | ⟨e, -, -, rfl⟩
  · rcases List.mem_append.mp hk with hk | hk
    · exact hkeep ⟨k, hk, hbusy⟩
    · rw [List.mem_singleton.mp hk] at hbusy
      exact absurd hbusy (h.start l hl)
  · rcases List.mem_or_eq_of_mem_set hk with hk | rfl
    · exact hkeep ⟨k, hk, hbusy⟩
    · by_cases hl : busy l
      · exact hkeep ⟨l, List.mem_of_getElem? hi, hl⟩
      · exact h.enter _ l hC hl hbusy
  · exact hkeep ⟨k, hk, hbusy⟩

/-- **Rule.** In a schedule that keeps them apart, the fact holds while a process is busy. -/
theorem Relied.reachable (h : Relied P C breaks busy F)
    (hD : ∀ c a, D c a → Apart breaks busy c a)
    (hr : Reachable ((P.systemWhen C).restrict D) c) : WhileBusy busy F c := by
  have hinit : ∀ c, (P.systemWhen C).init c →
      Reachable (P.systemWhen C) c ∧ WhileBusy busy F c := by
    rintro c hc
    refine ⟨.of_init hc, ?_⟩
    rintro ⟨k, hk, -⟩
    rw [hc.2] at hk
    cases hk
  exact (hr.invariant (I := fun c => Reachable (P.systemWhen C) c ∧ WhileBusy busy F c) hinit
    fun c a _ hu hs => ⟨hu.1.step hs.1, h.step hu.1 hs.1 (hD c a hs.2) hu.2⟩).2

end Apart

end Transition

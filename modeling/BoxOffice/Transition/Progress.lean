import BoxOffice.Transition.Interleaving

namespace Transition

/-!
# Transition library — how far one process gets

In a run, `ownSteps` counts the steps of one process and `otherSteps` those of the others.  A
`StepCount` says what the process has spent so far against the steps that got in its way, until it
is done; `StepCount.run` carries it along every run, whatever the schedule.
-/

section Progress

variable {σ L ε : Type*}

/-- A step of process `i`. -/
def Move.isOwn (i : Nat) : Move L ε → Bool
  | .act j => j == i
  | _ => false

/-- A step of another process. -/
def Move.isOther (i : Nat) : Move L ε → Bool
  | .act j => j != i
  | _ => false

/-- The steps of process `i`. -/
def ownSteps (i : Nat) (as : List (Move L ε)) : Nat := as.countP (Move.isOwn i)

/-- The steps of the other processes. -/
def otherSteps (i : Nat) (as : List (Move L ε)) : Nat := as.countP (Move.isOther i)

/-- `W` relates the state of a process to the steps it has taken and those of the others, and every
    step keeps it, until the process is done. -/
structure StepCount (P : Processes σ L ε) (Done : L → Prop) (W : σ → L → Nat → Nat → Prop) :
    Prop where
  own : ∀ s l n m, W s l n m → ¬Done l →
    Done (P.step s l).2 ∨ W (P.step s l).1 (P.step s l).2 (n + 1) m
  done : ∀ s l, Done l → Done (P.step s l).2
  other : ∀ s l k n m, W s l n m → W (P.step s k).1 l n (m + 1)
  env : ∀ s e l n m, P.admits s e → W s l n m → W (P.env e s) l n m

variable {P : Processes σ L ε} {Done : L → Prop} {W : σ → L → Nat → Nat → Prop}
  {c c' : Config σ L} {as : List (Move L ε)} {i : Nat} {l : L}

/-- **Counting rule.** Along every run the process is done, or has spent what `W` says. -/
theorem StepCount.run (h : StepCount P Done W) (hr : Run P.system c as c')
    (hl : c.procs[i]? = some l) (hw : W c.shared l 0 0) :
    ∃ l', c'.procs[i]? = some l' ∧
      (Done l' ∨ W c'.shared l' (ownSteps i as) (otherSteps i as)) := by
  induction hr with
  | nil => exact ⟨l, hl, .inr hw⟩
  | @snoc as c' a c'' hr hs ih =>
    obtain ⟨k, hk, hcount⟩ := ih
    have hlt : i < c'.procs.length := (List.getElem?_eq_some_iff.mp hk).1
    rcases Processes.step_cases hs with ⟨l', -, rfl, rfl⟩ | ⟨j, l', hj, -, rfl, rfl⟩ |
      ⟨e, he, rfl, rfl⟩
    -- A process more, and no step of anyone.
    · refine ⟨k, by rw [List.getElem?_append_left hlt]; exact hk, ?_⟩
      simpa [ownSteps, otherSteps, Move.isOwn, Move.isOther] using hcount
    · by_cases hij : j = i
      · -- The process itself takes the step.
        subst hij
        obtain rfl : k = l' := Option.some.inj (hk.symm.trans hj)
        refine ⟨_, List.getElem?_set_self hlt, ?_⟩
        have hown : ownSteps j (as ++ [.act j]) = ownSteps j as + 1 := by
          simp [ownSteps, Move.isOwn]
        have hother : otherSteps j (as ++ [.act j]) = otherSteps j as := by
          simp [otherSteps, Move.isOther]
        rw [hown, hother]
        by_cases hdone : Done k
        · exact .inl (h.done _ _ hdone)
        · exact h.own _ _ _ _ (hcount.resolve_left hdone) hdone
      · refine ⟨k, by rw [List.getElem?_set_ne hij]; exact hk, hcount.imp_right fun hw => ?_⟩
        have hown : ownSteps i (as ++ [.act j]) = ownSteps i as := by
          simp [ownSteps, Move.isOwn, hij]
        have hother : otherSteps i (as ++ [.act j]) = otherSteps i as + 1 := by
          simp [otherSteps, Move.isOther, hij]
        rw [hown, hother]
        exact h.other _ _ _ _ _ hw
    · refine ⟨k, hk, hcount.imp_right fun hw => ?_⟩
      have hown : ownSteps i (as ++ [.env e]) = ownSteps i as := by simp [ownSteps, Move.isOwn]
      have hother : otherSteps i (as ++ [.env e]) = otherSteps i as := by
        simp [otherSteps, Move.isOther]
      rw [hown, hother]
      exact h.env _ _ _ _ _ he hw

end Progress

end Transition

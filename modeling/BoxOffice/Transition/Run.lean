import Mathlib.Logic.Relation

namespace Transition

/-!
# Transition library — labelled runs, invariants and simulation

A `System σ ι` has states `σ`, a predicate for the initial ones and a step relation labelled
by `ι`.  `Run S s is t` is a finite run from `s` to `t` with labels `is`; `Reachable S t` is a
run from some initial state.

* `Run.invariant` / `Reachable.invariant` package the induction over runs once;
* `restrict` keeps the steps that meet a condition, so "every run whose steps all meet `C`" is
  a run of the restricted system;
* `Once` says that something held at some moment of the past;
* `Run.simulates` lifts a step-by-step simulation to whole runs.
-/

/-- A labelled transition system. -/
structure System (σ ι : Type*) where
  init : σ → Prop
  step : σ → ι → σ → Prop

variable {σ τ ι : Type*} {S : System σ ι}

/-- Finite runs, extended at the end. -/
inductive Run (S : System σ ι) (s : σ) : List ι → σ → Prop
  | nil : Run S s [] s
  | snoc {is t i u} : Run S s is t → S.step t i u → Run S s (is ++ [i]) u

/-- States some run reaches from an initial state. -/
def Reachable (S : System σ ι) (t : σ) : Prop := ∃ s is, S.init s ∧ Run S s is t

namespace System

/-- The steps of `S` that meet the condition `C` on the state before and the label. -/
def restrict (S : System σ ι) (C : σ → ι → Prop) : System σ ι where
  init := S.init
  step s i t := S.step s i t ∧ C s i

/-- The system that executes the function `exec` on the labels its guard admits. -/
def ofFun (init : σ → Prop) (guard : σ → ι → Prop) (exec : ι → σ → σ) : System σ ι where
  init := init
  step s i t := guard s i ∧ t = exec i s

end System

/-- **Invariant rule.** What holds at the start and is preserved by every step holds at the
    end of every run. -/
theorem Run.invariant {I : σ → Prop} {s t : σ} {is : List ι} (h : Run S s is t) (h0 : I s)
    (hstep : ∀ u i v, I u → S.step u i v → I v) : I t := by
  induction h with
  | nil => exact h0
  | snoc _ hs ih => exact hstep _ _ _ ih hs

/-- **Invariant rule, from the initial states.** -/
theorem Reachable.invariant {I : σ → Prop} {t : σ} (h : Reachable S t)
    (h0 : ∀ s, S.init s → I s) (hstep : ∀ u i v, I u → S.step u i v → I v) : I t := by
  obtain ⟨s, is, hs, hr⟩ := h
  exact hr.invariant (h0 s hs) hstep

/-- An initial state is reachable. -/
theorem Reachable.of_init {s : σ} (h : S.init s) : Reachable S s := ⟨s, [], h, .nil⟩

/-- A step from a reachable state reaches another. -/
theorem Reachable.step {s t : σ} {i : ι} (h : Reachable S s) (hs : S.step s i t) :
    Reachable S t := by
  obtain ⟨s₀, is, h0, hr⟩ := h
  exact ⟨s₀, is ++ [i], h0, hr.snoc hs⟩

/-- A restricted system reaches nothing new. -/
theorem Reachable.of_restrict {C : σ → ι → Prop} {t : σ} (h : Reachable (S.restrict C) t) :
    Reachable S t :=
  h.invariant (I := Reachable S) (fun s hs => ⟨s, [], hs, .nil⟩) fun _ _ _ hu hs => hu.step hs.1

/-- Runs compose. -/
theorem Run.append {s t u : σ} {is js : List ι} (h : Run S s is t) (h' : Run S t js u) :
    Run S s (is ++ js) u := by
  induction h' with
  | nil => simpa using h
  | snoc _ hs ih => rw [← List.append_assoc]; exact ih.snoc hs

/-- A run from a reachable state ends in one. -/
theorem Reachable.run {s t : σ} {is : List ι} (h : Reachable S s) (hr : Run S s is t) :
    Reachable S t :=
  hr.invariant h fun _ _ _ hu hs => hu.step hs

/-- A single step is a run. -/
theorem Run.single {s t : σ} {i : ι} (h : S.step s i t) : Run S s [i] t := Run.nil.snoc h

/-- A step can be put in front of a run. -/
theorem Run.cons {s t u : σ} {i : ι} {is : List ι} (h : S.step s i t) (h' : Run S t is u) :
    Run S s (i :: is) u :=
  (Run.single h).append h'

/-- `p` held at some moment on the way to `t`. -/
def Once (S : System σ ι) (p : σ → Prop) (t : σ) : Prop :=
  ∃ s is, Reachable S s ∧ p s ∧ Run S s is t

/-- What holds now has held once. -/
theorem Once.now {p : σ → Prop} {t : σ} (h : Reachable S t) (hp : p t) : Once S p t :=
  ⟨t, [], h, hp, .nil⟩

/-- What happened stays in the past. -/
theorem Once.step {p : σ → Prop} {s t : σ} {i : ι} (h : Once S p s) (hs : S.step s i t) :
    Once S p t := by
  obtain ⟨u, is, hu, hp, hr⟩ := h
  exact ⟨u, is ++ [i], hu, hp, hr.snoc hs⟩

/-- **Simulation rule.** If the abstraction `f` turns every step from a state that satisfies
    the invariant `I` into an abstract run, then it turns every run into one. -/
theorem Run.simulates {κ : Type*} {A : System τ κ} {f : σ → τ} {I : σ → Prop} {s t : σ}
    {is : List ι} (h : Run S s is t) (h0 : I s) (hI : ∀ u i v, I u → S.step u i v → I v)
    (hsim : ∀ u i v, I u → S.step u i v → ∃ ks, Run A (f u) ks (f v)) :
    ∃ ks, Run A (f s) ks (f t) := by
  induction h with
  | nil => exact ⟨[], .nil⟩
  | snoc hr hs ih =>
    obtain ⟨ks, hk⟩ := ih
    obtain ⟨ks', hk'⟩ := hsim _ _ _ (hr.invariant h0 hI) hs
    exact ⟨ks ++ ks', hk.append hk'⟩

end Transition

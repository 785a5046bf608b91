import Mathlib.Logic.Function.Iterate
import Mathlib.Data.List.Basic

namespace Transition

/-!
# Timelines

A present with its past and its future, as an editor keeps them for undo and redo.

* `back` and `forward` move one step; each is the other's inverse while there is a step left;
* `forward_back_iterate`, `now_back_iterate` — many steps back, and forward again;
* `record` begins a new future; the past remembers at most `cap` steps, the latest ones.
-/

/-- A present, with its past and its future, nearest first. -/
structure Timeline (M : Type*) where
  past : List M
  now : M
  future : List M

namespace Timeline

variable {M : Type*}

/-- The step from `before` to the present is recorded, and what had been undone is gone. -/
def record (cap : ℕ) (before : M) (t : Timeline M) : Timeline M where
  past := (before :: t.past).take cap
  now := t.now
  future := []

/-- One step back. -/
def back (t : Timeline M) : Timeline M :=
  match t.past with
  | [] => t
  | m :: past => ⟨past, m, t.now :: t.future⟩

/-- One step forward. -/
def forward (t : Timeline M) : Timeline M :=
  match t.future with
  | [] => t
  | m :: future => ⟨t.now :: t.past, m, future⟩

/-- Going back and forward again is going nowhere. -/
theorem forward_back {t : Timeline M} (h : t.past ≠ []) : t.back.forward = t := by
  obtain ⟨_ | ⟨m, past⟩, now, future⟩ := t
  · exact absurd rfl h
  · rfl

/-- Going back takes the latest moment. -/
theorem past_back (t : Timeline M) : t.back.past = t.past.tail := by
  obtain ⟨_ | ⟨m, past⟩, now, future⟩ := t <;> rfl

/-- Going back makes it the present. -/
theorem now_back {t : Timeline M} {m : M} {past : List M} (h : t.past = m :: past) :
    t.back.now = m := by
  simp [back, h]

/-- Going back so often takes so many moments. -/
theorem past_back_iterate (t : Timeline M) (k : ℕ) : (back^[k] t).past = t.past.drop k := by
  induction k with
  | zero => rfl
  | succ k ih => rw [Function.iterate_succ_apply', past_back, ih, List.tail_drop]

/-- The present after some steps back is the past that many steps away. -/
theorem now_back_iterate {t : Timeline M} {k : ℕ} (h : k < t.past.length) :
    (back^[k + 1] t).now = t.past[k] := by
  rw [Function.iterate_succ_apply']
  refine @now_back _ _ _ (t.past.drop (k + 1)) ?_
  rw [past_back_iterate, List.drop_eq_getElem_cons h]

/-- **Undo and redo are inverse**, for as many steps as the past has. -/
theorem forward_back_iterate {t : Timeline M} {k : ℕ} (h : k ≤ t.past.length) :
    forward^[k] (back^[k] t) = t := by
  induction k with
  | zero => rfl
  | succ k ih =>
    rw [Function.iterate_succ_apply, Function.iterate_succ_apply', forward_back]
    · exact ih (by omega)
    · intro hnil
      have hlen := congrArg List.length (past_back_iterate t k)
      rw [hnil, List.length_drop, List.length_nil] at hlen
      omega

/-- At most `cap` steps, undone ones included. -/
def Within (cap : ℕ) (t : Timeline M) : Prop := t.past.length + t.future.length ≤ cap

/-- A record stays within its capacity. -/
theorem within_record (cap : ℕ) (before : M) (t : Timeline M) :
    (t.record cap before).Within cap := by
  simpa [Within, record] using Nat.min_le_left _ _

/-- So does going back. -/
theorem Within.back {cap : ℕ} {t : Timeline M} (h : t.Within cap) : t.back.Within cap := by
  obtain ⟨_ | ⟨m, past⟩, now, future⟩ := t
  · exact h
  · simp only [Within, Timeline.back, List.length_cons] at h ⊢
    omega

/-- So does going forward. -/
theorem Within.forward {cap : ℕ} {t : Timeline M} (h : t.Within cap) : t.forward.Within cap := by
  obtain ⟨past, now, _ | ⟨m, future⟩⟩ := t
  · exact h
  · simp only [Within, Timeline.forward, List.length_cons] at h ⊢
    omega

end Timeline

end Transition

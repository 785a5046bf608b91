import Mathlib.Data.List.Basic

namespace Loops

/-!
# Loops — a body that may raise

A loop over a list whose body takes the state to a new one or raises, which ends the loop.

* `turns` — the turns that are taken, each as the state before it and its element;
* `turns_invariant` — what every turn keeps holds before each.
-/

section Turns

variable {σ α ε : Type} {body : σ → α → Except ε σ} {s s' : σ} {a : α} {l : List α}

/-- The turns of the loop, up to the one that raises. -/
def turns (body : σ → α → Except ε σ) : σ → List α → List (σ × α)
  | _, [] => []
  | s, a :: rest =>
    (s, a) :: match body s a with
      | .ok s' => turns body s' rest
      | .error _ => []

/-- After a turn that succeeds the others follow. -/
theorem turns_cons_ok (h : body s a = .ok s') : turns body s (a :: l) = (s, a) :: turns body s' l := by
  rw [turns, h]

/-- After a turn that fails none does. -/
theorem turns_cons_error {e : ε} (h : body s a = .error e) : turns body s (a :: l) = [(s, a)] := by
  rw [turns, h]

/-- A list of one has one turn. -/
theorem turns_singleton : turns body s [a] = [(s, a)] := by
  rw [turns]
  cases body s a <;> rfl

/-- What the body keeps holds before every turn, of an element of the list. -/
theorem turns_invariant {I : σ → Prop} (hkept : ∀ s s', ∀ a ∈ l, I s → body s a = .ok s' → I s')
    (hs : I s) : ∀ t ∈ turns body s l, I t.1 ∧ t.2 ∈ l := by
  induction l generalizing s with
  | nil => exact fun t ht => by cases ht
  | cons a rest ih =>
    have hfirst : I (s, a).1 ∧ (s, a).2 ∈ a :: rest := ⟨hs, List.mem_cons_self⟩
    cases hbody : body s a with
    | error e =>
      rw [turns_cons_error hbody]
      exact List.forall_mem_cons.mpr ⟨hfirst, fun t ht => by cases ht⟩
    | ok s' =>
      rw [turns_cons_ok hbody]
      refine List.forall_mem_cons.mpr ⟨hfirst, fun t ht => ?_⟩
      obtain ⟨hinv, hmem⟩ := ih (fun s s' a ha => hkept s s' a (List.mem_cons_of_mem _ ha))
        (hkept s s' a List.mem_cons_self hs hbody) t ht
      exact ⟨hinv, List.mem_cons_of_mem _ hmem⟩

end Turns

end Loops

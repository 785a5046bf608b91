import Mathlib.Order.Lattice
import Mathlib.Order.Defs.LinearOrder

namespace Loops

/-!
# Loops — accumulators

What a loop with a mutable accumulator computes, as a function of the list it runs over: a list
that is pushed to, two nested loops, and the running bounds of a set of points that start at
infinity.
-/

variable {α β γ : Type}

/-! ### Pushing -/

/-- A loop that pushes one element a turn. -/
theorem foldl_push (f : α → β) (init : List β) (l : List α) :
    l.foldl (fun acc x => acc ++ [f x]) init = init ++ l.map f := by
  induction l generalizing init with
  | nil => exact (List.append_nil init).symm
  | cons x rest ih =>
    rw [List.foldl_cons, ih, List.map_cons, List.append_assoc, List.singleton_append]

/-- A loop that appends a list a turn. -/
theorem foldl_append (f : α → List β) (init : List β) (l : List α) :
    l.foldl (fun acc x => acc ++ f x) init = init ++ (l.map f).flatten := by
  induction l generalizing init with
  | nil => exact (List.append_nil init).symm
  | cons x rest ih => rw [List.foldl_cons, ih, List.map_cons, List.flatten_cons, List.append_assoc]

/-- Two nested loops are one loop over the pairs. -/
theorem foldl_nested (step : γ → β → γ) (inner : α → List β) (init : γ) (l : List α) :
    l.foldl (fun acc x => (inner x).foldl step acc) init
      = ((l.map inner).flatten).foldl step init := by
  induction l generalizing init with
  | nil => rfl
  | cons x rest ih => rw [List.foldl_cons, ih, List.map_cons, List.flatten_cons, List.foldl_append]

/-! ### Bounds -/

section Bounds

variable {K : Type} [LinearOrder K]

/-- `if (x < low) low = x`, from infinity. -/
def lower (low : Option K) (x : K) : Option K :=
  match low with
  | none => some x
  | some m => if x < m then some x else some m

/-- `if (x > high) high = x`, from minus infinity. -/
def raise (high : Option K) (x : K) : Option K :=
  match high with
  | none => some x
  | some m => if m < x then some x else some m

/-- The least element of a list. -/
def least : List K → Option K
  | [] => none
  | x :: rest => some (rest.foldl min x)

/-- The greatest element of a list. -/
def greatest : List K → Option K
  | [] => none
  | x :: rest => some (rest.foldl max x)

/-- The smaller of two. -/
theorem lower_some (m x : K) : lower (some m) x = some (min m x) := by
  unfold lower
  dsimp only
  split_ifs with h
  · rw [min_eq_right h.le]
  · rw [min_eq_left (not_lt.mp h)]

/-- The greater of two. -/
theorem raise_some (m x : K) : raise (some m) x = some (max m x) := by
  unfold raise
  dsimp only
  split_ifs with h
  · rw [max_eq_right h.le]
  · rw [max_eq_left (not_lt.mp h)]

/-- Lowering along a list. -/
theorem foldl_lower_some (m : K) (l : List K) : l.foldl lower (some m) = some (l.foldl min m) := by
  induction l generalizing m with
  | nil => rfl
  | cons x rest ih => rw [List.foldl_cons, List.foldl_cons, lower_some, ih]

/-- Raising along a list. -/
theorem foldl_raise_some (m : K) (l : List K) : l.foldl raise (some m) = some (l.foldl max m) := by
  induction l generalizing m with
  | nil => rfl
  | cons x rest ih => rw [List.foldl_cons, List.foldl_cons, raise_some, ih]

/-- **The running bounds** are the bounds of the list. -/
theorem foldl_lower (l : List K) : l.foldl lower none = least l := by
  cases l with
  | nil => rfl
  | cons x rest => exact foldl_lower_some x rest

/-- Raising along a list finds its greatest element. -/
theorem foldl_raise (l : List K) : l.foldl raise none = greatest l := by
  cases l with
  | nil => rfl
  | cons x rest => exact foldl_raise_some x rest

end Bounds

end Loops

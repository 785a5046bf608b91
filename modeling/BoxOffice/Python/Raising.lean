import Mathlib.Data.List.Forall2

namespace Python

/-!
# Python library — calls that may raise

When a sequence of calls returns.

* `bind_eq_ok` — one call after another;
* `mapM_eq_ok`, `mapM_ok_iff` — a call for every item of a list.
-/

section Raising

variable {ε α β : Type} {x : Except ε α} {f : α → Except ε β} {a a' : α} {b : β}
  {l : List α} {out : List β}

/-- Two steps succeed if both do. -/
theorem bind_eq_ok {k : α → Except ε β} : (x >>= k) = .ok b ↔ ∃ a, x = .ok a ∧ k a = .ok b := by
  cases x with
  | error e =>
    refine iff_of_false (fun h => by cases h) ?_
    rintro ⟨a, h, -⟩
    cases h
  | ok a =>
    refine ⟨fun h => ⟨a, rfl, h⟩, ?_⟩
    rintro ⟨a', h, hk⟩
    cases h
    exact hk

/-- A value succeeds with itself. -/
theorem pure_eq_ok : (pure a : Except ε α) = .ok a' ↔ a = a' := by
  constructor
  · intro h
    cases h
    rfl
  · rintro rfl
    rfl

/-- A call for every item returns the list of what the calls return. -/
theorem mapM_eq_ok : l.mapM f = .ok out ↔ List.Forall₂ (fun a b => f a = .ok b) l out := by
  induction l generalizing out with
  | nil =>
    rw [List.mapM_nil, pure_eq_ok, List.forall₂_nil_left_iff, eq_comm]
  | cons a l ih =>
    rw [List.mapM_cons, bind_eq_ok, List.forall₂_cons_left_iff]
    refine exists_congr fun b => ?_
    simp only [bind_eq_ok, pure_eq_ok, ih]
    constructor
    · rintro ⟨hb, rest, hrest, rfl⟩
      exact ⟨rest, hb, hrest, rfl⟩
    · rintro ⟨rest, hb, hrest, rfl⟩
      exact ⟨hb, rest, hrest, rfl⟩

/-- It returns if every call does. -/
theorem mapM_ok_iff : (∃ out, l.mapM f = .ok out) ↔ ∀ a ∈ l, ∃ b, f a = .ok b := by
  simp only [mapM_eq_ok]
  constructor
  · rintro ⟨out, h⟩ a ha
    induction h with
    | nil => cases ha
    | cons hb _ ih =>
      rcases List.mem_cons.mp ha with rfl | ha
      · exact ⟨_, hb⟩
      · exact ih ha
  · intro h
    induction l with
    | nil => exact ⟨[], .nil⟩
    | cons a l ih =>
      obtain ⟨b, hb⟩ := h a List.mem_cons_self
      obtain ⟨rest, hrest⟩ := ih fun a ha => h a (List.mem_cons_of_mem _ ha)
      exact ⟨b :: rest, .cons hb hrest⟩

/-- What comes of an element is in the result. -/
theorem mem_of_mapM (h : l.mapM f = .ok out) (ha : a ∈ l) (hb : f a = .ok b) : b ∈ out := by
  rw [mapM_eq_ok] at h
  induction h with
  | nil => cases ha
  | cons hhead _ ih =>
    rcases List.mem_cons.mp ha with rfl | ha
    · rw [hhead] at hb
      cases hb
      exact List.mem_cons_self
    · exact List.mem_cons_of_mem _ (ih ha)

/-- What is in the result comes of an element. -/
theorem exists_of_mapM (h : l.mapM f = .ok out) (hb : b ∈ out) : ∃ a ∈ l, f a = .ok b := by
  rw [mapM_eq_ok] at h
  induction h with
  | nil => cases hb
  | cons hhead _ ih =>
    rcases List.mem_cons.mp hb with rfl | hb
    · exact ⟨_, List.mem_cons_self, hhead⟩
    · obtain ⟨a, ha, hab⟩ := ih hb
      exact ⟨a, List.mem_cons_of_mem _ ha, hab⟩

/-- The same of calls that may return nothing. -/
theorem exists_of_mapM_some {g : α → Option β} (h : l.mapM g = some out) (hb : b ∈ out) :
    ∃ a ∈ l, g a = some b := by
  induction l generalizing out with
  | nil =>
    cases h
    cases hb
  | cons a l ih =>
    rw [List.mapM_cons] at h
    obtain ⟨b', hb', h⟩ := Option.bind_eq_some_iff.mp h
    obtain ⟨rest, hrest, h⟩ := Option.bind_eq_some_iff.mp h
    cases h
    rcases List.mem_cons.mp hb with rfl | hb
    · exact ⟨a, List.mem_cons_self, hb'⟩
    · obtain ⟨a', ha', hab⟩ := ih hrest hb
      exact ⟨a', List.mem_cons_of_mem _ ha', hab⟩

/-- What the list raises, one of the calls raised. -/
theorem exists_of_mapM_error {e : ε} (h : l.mapM f = .error e) : ∃ a ∈ l, f a = .error e := by
  induction l with
  | nil => cases h
  | cons a l ih =>
    rw [List.mapM_cons] at h
    cases ha : f a with
    | error e' =>
      rw [ha] at h
      cases h
      exact ⟨a, List.mem_cons_self, ha⟩
    | ok b =>
      cases hl : l.mapM f with
      | error e' =>
        rw [ha, hl] at h
        cases h
        obtain ⟨a', ha', he⟩ := ih hl
        exact ⟨a', List.mem_cons_of_mem _ ha', he⟩
      | ok rest =>
        rw [ha, hl] at h
        cases h

/-- What every call keeps, the list keeps. -/
theorem map_of_mapM {γ : Type} {u : β → γ} {v : α → γ} (hkeep : ∀ a b, f a = .ok b → u b = v a)
    (h : l.mapM f = .ok out) : out.map u = l.map v := by
  rw [mapM_eq_ok] at h
  induction h with
  | nil => rfl
  | cons hhead _ ih => rw [List.map_cons, List.map_cons, ih, hkeep _ _ hhead]

end Raising

end Python

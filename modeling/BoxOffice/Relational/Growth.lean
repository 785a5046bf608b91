import BoxOffice.Relational.Table
import Mathlib.Data.List.Forall2

namespace Relational

/-!
# Relational library — tables that only grow

`Grows R t u` says that every row of `t` is still in `u`, at its place and rewritten within the
relation `R`, and that whatever rows `u` has besides come after them.

* `Rewritten` is the case without new rows;
* both are preorders when `R` is one (`refl`, `trans`), so they compose over runs;
* `grows_append` and `rewritten_update` — what inserts and updates do;
* `Grows.exists_mem` and `Grows.get?` — what has become of one row.
-/

namespace Table

variable {α : Type} [Keyed α] {R S : α → α → Prop} {t u v : Table α}

/-- The rows of `t` are kept, each rewritten within `R`; new rows come after them. -/
def Grows (R : α → α → Prop) (t u : Table α) : Prop :=
  ∃ kept new, u.rows = kept ++ new ∧ List.Forall₂ R t.rows kept

/-- The same, without new rows. -/
def Rewritten (R : α → α → Prop) (t u : Table α) : Prop := List.Forall₂ R t.rows u.rows

/-- A table grows into itself. -/
theorem Grows.refl (hR : ∀ r, R r r) (t : Table α) : Grows R t t :=
  ⟨t.rows, [], (List.append_nil _).symm, List.forall₂_same.mpr fun r _ => hR r⟩

/-- A table that is the same has grown. -/
theorem Grows.of_eq (hR : ∀ r, R r r) (h : u = t) : Grows R t u := h ▸ .refl hR t

/-- Growing twice is growing. -/
theorem Grows.trans (hR : ∀ a b c, R a b → R b c → R a c) (h : Grows R t u) (h' : Grows R u v) :
    Grows R t v := by
  obtain ⟨kept, new, hu, hkept⟩ := h
  obtain ⟨kept', new', hv, hkept'⟩ := h'
  rw [hu] at hkept'
  -- The rows that `v` kept of `u` are those it kept of `t`, and then those of the new ones.
  refine ⟨kept'.take kept.length, kept'.drop kept.length ++ new', ?_, ?_⟩
  · rw [hv, ← List.append_assoc, List.take_append_drop]
  · have hfirst := List.forall₂_take kept.length hkept'
    rw [List.take_left] at hfirst
    rw [List.forall₂_iff_get] at hkept hfirst ⊢
    obtain ⟨hlen, hget⟩ := hkept
    obtain ⟨hlen', hget'⟩ := hfirst
    exact ⟨hlen.trans hlen', fun i h₁ h₂ => hR _ _ _ (hget i h₁ (hlen ▸ h₁)) (hget' i _ h₂)⟩

/-- New rows at the end, as an insert writes them. -/
theorem grows_append (hR : ∀ r, R r r) {new : List α} (h : u.rows = t.rows ++ new) :
    Grows R t u :=
  ⟨t.rows, new, h, List.forall₂_same.mpr fun r _ => hR r⟩

/-- A table is rewritten into itself. -/
theorem Rewritten.refl (hR : ∀ r, R r r) (t : Table α) : Rewritten R t t :=
  List.forall₂_same.mpr fun r _ => hR r

/-- A table that is the same is rewritten. -/
theorem Rewritten.of_eq (hR : ∀ r, R r r) (h : u = t) : Rewritten R t u := h ▸ .refl hR t

/-- Rewriting twice is rewriting. -/
theorem Rewritten.trans (hR : ∀ a b c, R a b → R b c → R a c) (h : Rewritten R t u)
    (h' : Rewritten R u v) : Rewritten R t v := by
  unfold Rewritten at *
  rw [List.forall₂_iff_get] at h h' ⊢
  exact ⟨h.1.trans h'.1, fun i h₁ h₂ => hR _ _ _ (h.2 i h₁ (h.1 ▸ h₁)) (h'.2 i (h.1 ▸ h₁) h₂)⟩

/-- Some rows rewritten, as an update does. -/
theorem rewritten_update (hR : ∀ r, R r r) {p : α → Bool} {f : α → α}
    (h : u.rows = t.rows.map fun r => if p r then f r else r)
    (hf : ∀ r ∈ t.rows, p r = true → R r (f r)) : Rewritten R t u := by
  unfold Rewritten
  rw [h, List.forall₂_map_right_iff, List.forall₂_same]
  intro r hr
  by_cases hp : p r = true
  · rw [if_pos hp]
    exact hf r hr hp
  · rw [if_neg hp]
    exact hR r

/-- A table without new rows has grown. -/
theorem Rewritten.grows (h : Rewritten R t u) : Grows R t u :=
  ⟨u.rows, [], (List.append_nil _).symm, h⟩

/-- What a row has been before. -/
theorem Rewritten.exists_mem {r' : α} (h : Rewritten R t u) (hr : r' ∈ u.rows) :
    ∃ r ∈ t.rows, R r r' := by
  unfold Rewritten at h
  rw [List.forall₂_iff_get] at h
  obtain ⟨i, hi, rfl⟩ := List.mem_iff_getElem.mp hr
  exact ⟨t.rows.get ⟨i, h.1 ▸ hi⟩, List.get_mem _ _, h.2 i (h.1 ▸ hi) hi⟩

/-- What has become of a row. -/
theorem Grows.exists_mem {r : α} (h : Grows R t u) (hr : r ∈ t.rows) : ∃ r' ∈ u.rows, R r r' := by
  obtain ⟨kept, new, hu, hkept⟩ := h
  rw [List.forall₂_iff_get] at hkept
  obtain ⟨i, hi, rfl⟩ := List.mem_iff_getElem.mp hr
  exact ⟨kept.get ⟨i, hkept.1 ▸ hi⟩, by rw [hu]; exact List.mem_append_left _ (List.get_mem _ _),
    hkept.2 i hi (hkept.1 ▸ hi)⟩

/-- The row of a key, when `R` keeps keys. -/
theorem Grows.get? {r : α} {i : Nat} (hkey : ∀ a b, R a b → Keyed.key b = Keyed.key a)
    (h : Grows R t u) (hr : t.get? i = some r) : ∃ r', u.get? i = some r' ∧ R r r' := by
  obtain ⟨hmem, hid⟩ := get?_eq_some.mp hr
  obtain ⟨r', hmem', hrel⟩ := h.exists_mem hmem
  exact ⟨r', get?_eq_some.mpr ⟨hmem', (hkey _ _ hrel).trans hid⟩, hrel⟩

end Table

end Relational

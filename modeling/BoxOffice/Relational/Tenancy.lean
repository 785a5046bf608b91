import BoxOffice.Relational.Growth

namespace Relational

/-!
# Relational library — tables shared by several tenants

Every row belongs to a tenant.  `rowsOf n` is what the tenant `n` has in a table, and `Refers`
says that the foreign keys of a table name rows of the same tenant.

* `rowsOf_append`, `rowsOf_update`, `rowsOf_delete` — a write that touches no row of a tenant is
  not seen by that tenant;
* `Persists` — rows keep their key and their tenant, so references to them stay good
  (`Refers.persist`);
* `WrittenBy n refs new t t'` — one tenant wrote: the other tenants see no difference, and every
  row is one that was there, with its `refs`, or one of the tenant's that satisfies `new`;
  `Refers.of_writtenBy` is what that means for the keys of the table.
-/

/-- Rows that belong to a tenant. -/
class Tenanted (α : Type) where
  /-- The tenant of a row. -/
  tenant : α → Nat

open Tenanted (tenant)

namespace Table

variable {α β δ : Type} [Keyed α] [Tenanted α] [Keyed β] [Tenanted β] {t t' : Table α}
  {u u' : Table β} {n : Nat}

/-- The rows of one tenant. -/
def rowsOf (t : Table α) (n : Nat) : List α := t.rows.filter fun r => tenant r == n

/-- The key `i` names a row of the tenant. -/
def Owns (t : Table α) (n i : Nat) : Prop := ∃ r ∈ t.rows, Keyed.key r = i ∧ tenant r = n

/-- Each of these keys of a row names a row of `u`, of the same tenant. -/
def Refers (t : Table α) (u : Table β) (keys : α → List Nat) : Prop :=
  ∀ r ∈ t.rows, ∀ i ∈ keys r, u.Owns (tenant r) i

/-- Every row is still there, under its key and with its tenant. -/
def Persists (t t' : Table α) : Prop := ∀ r ∈ t.rows, t'.Owns (tenant r) (Keyed.key r)

/-! ### What a tenant sees of a write

Inserts are given by the rows they append, updates by the rows they map. -/

/-- Rows of others, appended, leave the rows of a tenant. -/
theorem rowsOf_append {new : List α} (h : t'.rows = t.rows ++ new)
    (hnew : ∀ r ∈ new, tenant r ≠ n) : t'.rowsOf n = t.rowsOf n := by
  unfold rowsOf
  rw [h, List.filter_append, List.filter_eq_nil_iff.mpr fun r hr hn => hnew r hr (beq_iff_eq.mp hn),
    List.append_nil]

/-- So does an update of rows of others. -/
theorem rowsOf_update {p : α → Bool} {f : α → α}
    (h : t'.rows = t.rows.map fun r => if p r then f r else r) (hf : ∀ r, tenant (f r) = tenant r)
    (hp : ∀ r ∈ t.rows, p r = true → tenant r ≠ n) : t'.rowsOf n = t.rowsOf n := by
  have htenant : ∀ r, tenant (if p r then f r else r) = tenant r := fun r => by
    split_ifs
    · exact hf r
    · rfl
  unfold rowsOf
  rw [h, List.filter_map]
  simp only [Function.comp_def, htenant]
  refine (List.map_congr_left fun r hr => if_neg fun hpr => ?_).trans (List.map_id _)
  obtain ⟨hr, hn⟩ := List.mem_filter.mp hr
  exact hp r hr hpr (beq_iff_eq.mp hn)

/-- So does their deletion. -/
theorem rowsOf_delete {p : α → Bool} (h : ∀ r ∈ t.rows, p r = true → tenant r ≠ n) :
    (t.delete p).rowsOf n = t.rowsOf n :=
  filter_delete_of_mem fun r hr hp => beq_eq_false_iff_ne.mpr (h r hr hp)

/-! ### References -/

/-- A table persists in itself. -/
theorem Persists.refl (t : Table α) : Persists t t := fun r hr => ⟨r, hr, rfl, rfl⟩

/-- A table that grows under a relation that keeps key and tenant. -/
theorem Grows.persists {R : α → α → Prop} (h : Grows R t t')
    (hR : ∀ a b, R a b → Keyed.key b = Keyed.key a ∧ tenant b = tenant a) : Persists t t' :=
  fun r hr => by
    obtain ⟨r', hr', hrel⟩ := h.exists_mem hr
    exact ⟨r', hr', hR _ _ hrel⟩

/-- Appending loses no row. -/
theorem persists_append {new : List α} (h : t'.rows = t.rows ++ new) : Persists t t' :=
  fun r hr => ⟨r, h ▸ List.mem_append_left _ hr, rfl, rfl⟩

/-- Nor does an update that keeps keys and tenants. -/
theorem persists_update {p : α → Bool} {f : α → α}
    (h : t'.rows = t.rows.map fun r => if p r then f r else r)
    (hf : ∀ r, Keyed.key (f r) = Keyed.key r ∧ tenant (f r) = tenant r) : Persists t t' :=
  fun r hr => by
    refine ⟨_, h ▸ List.mem_map_of_mem hr, ?_⟩
    split_ifs
    · exact hf r
    · exact ⟨rfl, rfl⟩

/-- What a tenant owns it owns later. -/
theorem Owns.persist {i : Nat} (h : t.Owns n i) (hp : Persists t t') : t'.Owns n i := by
  obtain ⟨x, hx, hkey, htenant⟩ := h
  obtain ⟨x', hx', hkey', htenant'⟩ := hp x hx
  exact ⟨x', hx', hkey'.trans hkey, htenant'.trans htenant⟩

/-- Persistence is transitive. -/
theorem Persists.trans {t'' : Table α} (h : Persists t t') (h' : Persists t' t'') :
    Persists t t'' := fun r hr => (h r hr).persist h'

/-- A key names one row, so it has one owner. -/
theorem Owns.tenant_eq {r : α} (h : t.Owns n (Keyed.key r)) (hr : r ∈ t.rows) : tenant r = n := by
  obtain ⟨x, hx, hkey, htenant⟩ := h
  rw [← htenant, eq_of_key_eq hx hr hkey]

/-- References stay good while the table they lead to persists. -/
theorem Refers.persist {keys : α → List Nat} (h : Refers t u keys) (hu : Persists u u') :
    Refers t u' keys := fun r hr i hi => (h r hr i hi).persist hu

/-- Some rows were dropped. -/
theorem Refers.of_subset {keys : α → List Nat} (h : Refers t u keys)
    (hrows : ∀ r ∈ t'.rows, r ∈ t.rows) : Refers t' u keys :=
  fun r hr => h r (hrows r hr)

/-- A row that names a row of the tenant `n` is one of the tenant's. -/
theorem Refers.tenant_eq {keys : α → List Nat} {r : α} {i : Nat} (h : Refers t u keys)
    (hr : r ∈ t.rows) (hi : i ∈ keys r) (hu : u.Owns n i) : tenant r = n := by
  obtain ⟨x, hx, rfl, htenant⟩ := hu
  rw [← htenant]
  exact ((h r hr _ hi).tenant_eq hx).symm

/-! ### Writes of one tenant -/

/-- The tenant `n` wrote the table: the rows of the others are as they were, and every row was
    there before, with the same `refs`, or is one of the tenant's that satisfies `new`. -/
structure WrittenBy (n : Nat) (refs : α → δ) (new : α → Prop) (t t' : Table α) : Prop where
  others : ∀ m ≠ n, t'.rowsOf m = t.rowsOf m
  rows : ∀ r' ∈ t'.rows,
    (∃ r ∈ t.rows, tenant r' = tenant r ∧ refs r' = refs r) ∨ (tenant r' = n ∧ new r')

section WrittenBy

variable {refs : α → δ} {new : α → Prop}

/-- A table that was not written. -/
theorem WrittenBy.refl (n : Nat) (refs : α → δ) (new : α → Prop) (t : Table α) :
    WrittenBy n refs new t t :=
  ⟨fun _ _ => rfl, fun r hr => .inl ⟨r, hr, rfl, rfl⟩⟩

/-- New rows of the tenant. -/
theorem WrittenBy.append {l : List α} (h : t'.rows = t.rows ++ l)
    (hnew : ∀ r ∈ l, tenant r = n ∧ new r) : WrittenBy n refs new t t' where
  others := fun m hm => rowsOf_append h fun r hr heq => hm (heq.symm.trans (hnew r hr).1)
  rows := fun r' hr' => by
    rw [h, List.mem_append] at hr'
    exact hr'.imp (fun hr' => ⟨r', hr', rfl, rfl⟩) (hnew r')

/-- An insertion of the tenant's row. -/
theorem WrittenBy.insert {r : α} (h : t'.rows = t.rows ++ [r]) (htenant : tenant r = n)
    (hnew : new r) : WrittenBy n refs new t t' :=
  .append h fun r' hr' => by
    rw [List.mem_singleton.mp hr']
    exact ⟨htenant, hnew⟩

/-- An update of rows of the tenant. -/
theorem WrittenBy.update {p : α → Bool} {f : α → α}
    (h : t'.rows = t.rows.map fun r => if p r then f r else r)
    (hf : ∀ r, tenant (f r) = tenant r ∧ refs (f r) = refs r)
    (hp : ∀ r ∈ t.rows, p r = true → tenant r = n) : WrittenBy n refs new t t' where
  others := fun m hm => rowsOf_update h (fun r => (hf r).1) fun r hr hpr heq =>
    hm (heq.symm.trans (hp r hr hpr))
  rows := fun r' hr' => by
    rw [h] at hr'
    obtain ⟨r, hr, rfl⟩ := List.mem_map.mp hr'
    refine .inl ⟨r, hr, ?_⟩
    split_ifs
    · exact hf r
    · exact ⟨rfl, rfl⟩

/-- A deletion of the tenant's rows. -/
theorem WrittenBy.delete {p : α → Bool} (hp : ∀ r ∈ t.rows, p r = true → tenant r = n) :
    WrittenBy n refs new t (t.delete p) where
  others := fun _ hm => rowsOf_delete fun r hr hpr heq => hm (heq.symm.trans (hp r hr hpr))
  rows := fun r' hr' => .inl ⟨r', (mem_delete.mp hr').1, rfl, rfl⟩

/-- Writing twice is writing. -/
theorem WrittenBy.trans {t'' : Table α} (hnew : ∀ a b, refs b = refs a → new a → new b)
    (h : WrittenBy n refs new t t') (h' : WrittenBy n refs new t' t'') :
    WrittenBy n refs new t t'' where
  others := fun _ hm => (h'.others _ hm).trans (h.others _ hm)
  rows := fun r'' hr'' => by
    rcases h'.rows r'' hr'' with ⟨r', hr', htenant', hrefs'⟩ | hr''
    · rcases h.rows r' hr' with ⟨r, hr, htenant, hrefs⟩ | ⟨htenant, hr'⟩
      · exact .inl ⟨r, hr, htenant'.trans htenant, hrefs'.trans hrefs⟩
      · exact .inr ⟨htenant'.trans htenant, hnew _ _ hrefs' hr'⟩
    · exact .inr hr''

/-- The keys stay good when they are among the `refs` and the new rows name what is there. -/
theorem Refers.of_writtenBy {keys : α → List Nat} (h : Refers t u keys)
    (hw : WrittenBy n refs new t t') (hkeys : ∀ r r', refs r' = refs r → keys r' = keys r)
    (hnew : ∀ r', new r' → ∀ i ∈ keys r', u.Owns n i) :
    Refers t' u keys := fun r' hr' i hi => by
  rcases hw.rows r' hr' with ⟨r, hr, htenant, hrefs⟩ | ⟨htenant, hr'⟩
  · rw [htenant]
    exact h r hr i (hkeys r r' hrefs ▸ hi)
  · rw [htenant]
    exact hnew r' hr' i hi

end WrittenBy

end Table

end Relational

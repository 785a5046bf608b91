import BoxOffice.Relational.Table

namespace Relational

/-!
# Relational library — how deletes compose

A delete commutes with what does not look at the rows it takes.

* `delete_comm`, `delete_delete_of_imp`, `update_delete`, `insert_delete` — with the other writes;
* `get?_delete`, `find?_delete`, `any_delete`, `total_delete_of_zero` — with the reads.
-/

namespace Table

variable {α : Type} [Keyed α] {t : Table α} {p q : α → Bool} {r : α} {i : Nat}

/-- Deletions commute. -/
theorem delete_comm (t : Table α) (p q : α → Bool) :
    (t.delete p).delete q = (t.delete q).delete p :=
  ext (List.filter_comm _ _ _) rfl

/-- What the second delete takes anyway. -/
theorem delete_delete_of_imp (h : ∀ r, p r = true → q r = true) :
    (t.delete p).delete q = t.delete q := by
  refine ext ?_ rfl
  show (t.rows.filter fun r => !p r).filter (fun r => !q r) = t.rows.filter fun r => !q r
  rw [List.filter_filter]
  refine List.filter_congr fun r _ => ?_
  cases hp : p r with
  | false => rw [Bool.not_false, Bool.and_true]
  | true => rw [h r hp]; rfl

/-- An update that does not make the rows look different to the delete. -/
theorem update_delete {f : α → α} {k} (h : ∀ r, p (f r) = p r) :
    (t.update q f k).delete p = (t.delete p).update q f k := by
  refine ext ?_ rfl
  show (t.rows.map _).filter _ = (t.rows.filter _).map _
  rw [List.filter_map]
  congr 1
  refine List.filter_congr fun r _ => ?_
  show (!p (if q r then f r else r)) = !p r
  split_ifs <;> simp [h]

/-- A new row that the delete leaves. -/
theorem insert_delete {mk : Nat → α} {k} (h : p (mk t.nextId) = false) :
    (t.insert mk k).delete p = (t.delete p).insert mk k := by
  refine ext ?_ rfl
  show (t.rows ++ [mk t.nextId]).filter _ = t.rows.filter _ ++ [mk t.nextId]
  rw [List.filter_append, List.filter_cons_of_pos (by rw [h]; rfl), List.filter_nil]

/-- The row of a key that the delete leaves. -/
theorem get?_delete (h : ∀ r ∈ t.rows, Keyed.key r = i → p r = false) :
    (t.delete p).get? i = t.get? i := by
  cases hr : t.get? i with
  | none =>
    exact get?_eq_none.mpr fun r hr' => get?_eq_none.mp hr r (mem_delete.mp hr').1
  | some r =>
    obtain ⟨hmem, hkey⟩ := get?_eq_some.mp hr
    exact get?_eq_some.mpr ⟨mem_delete.mpr ⟨hmem, h r hmem hkey⟩, hkey⟩

/-- A search that passes over the deleted rows. -/
theorem find?_delete (h : ∀ r ∈ t.rows, p r = true → q r = false) :
    (t.delete p).rows.find? q = t.rows.find? q := by
  rw [← List.head?_filter, ← List.head?_filter, filter_delete_of_mem h]

/-- A deletion of other rows leaves what there is. -/
theorem any_delete (h : ∀ r ∈ t.rows, p r = true → q r = false) :
    (t.delete p).rows.any q = t.rows.any q := by
  rw [Bool.eq_iff_iff, List.any_eq_true, List.any_eq_true]
  constructor
  · rintro ⟨r, hr, hq⟩
    exact ⟨r, (mem_delete.mp hr).1, hq⟩
  · rintro ⟨r, hr, hq⟩
    refine ⟨r, mem_delete.mpr ⟨hr, ?_⟩, hq⟩
    rw [Bool.eq_false_iff]
    exact fun hp => Bool.eq_false_iff.mp (h r hr hp) hq

/-- A total to which the deleted rows add nothing. -/
theorem total_delete_of_zero {M : Type} [AddCommMonoid M] {w : α → M}
    (h : ∀ r ∈ t.rows, p r = true → w r = 0) : total w (t.delete p) = total w t := by
  rw [total_delete]
  refine total_congr fun r hr => ?_
  split_ifs with hp
  · exact (h r hr hp).symm
  · rfl

end Table

end Relational

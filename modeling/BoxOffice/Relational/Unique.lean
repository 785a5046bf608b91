import BoxOffice.Relational.Table

namespace Relational

/-!
# Relational library — unique columns

`IsUnique f t` is a `UNIQUE` constraint on the column `f`, and `taken f t pk v` the query with which
a database, or a form before it, looks for a row that stands in the way of the value `v` in the row
`pk`.

* `Table.insertUnder` is an `INSERT` under a key of its own;
* `Puts` is what a statement does that writes one row, by whichever of the three statements
  (`puts_insert`, `puts_update`, `puts_insertUnder`);
* `IsUnique.puts` — a row nothing stands in the way of keeps the constraint, and so does deleting
  (`IsUnique.mono`).
-/

variable {α β : Type} [Keyed α]

/-- `INSERT` under a key that no row has. -/
def Table.insertUnder (t : Table α) (r : α) (h : ∀ x ∈ t.rows, Keyed.key x ≠ Keyed.key r) :
    Table α where
  rows := t.rows ++ [r]
  nextId := max t.nextId (Keyed.key r + 1)
  nodup := by
    rw [List.map_append, List.nodup_append]
    refine ⟨t.nodup, List.nodup_singleton _, fun a ha b hb => ?_⟩
    obtain ⟨x, hx, rfl⟩ := List.mem_map.mp ha
    rw [List.mem_singleton.mp hb]
    exact h x hx
  fresh := by
    intro x hx
    rcases List.mem_append.mp hx with hx | hx
    · exact lt_of_lt_of_le (t.fresh x hx) (le_max_left _ _)
    · rw [List.mem_singleton.mp hx]
      exact lt_of_lt_of_le (Nat.lt_succ_self _) (le_max_right _ _)

/-- No two rows agree in the column. -/
def IsUnique (f : α → β) (t : Table α) : Prop :=
  ∀ a ∈ t.rows, ∀ b ∈ t.rows, f a = f b → a = b

/-- Does a row other than `pk` have the value? -/
def taken [BEq β] (f : α → β) (t : Table α) (pk : Option Nat) (v : β) : Bool :=
  t.rows.any fun r => f r == v && some (Keyed.key r) != pk

/-- The table after `r` was written: it is there, and the rows besides it are old ones that do not
    have its key. -/
structure Puts (t : Table α) (r : α) (t' : Table α) : Prop where
  mem : r ∈ t'.rows
  rows : ∀ a ∈ t'.rows, (a ∈ t.rows ∧ Keyed.key a ≠ Keyed.key r) ∨ a = r

section Unique

variable {f : α → β} {t t' : Table α} {r : α} {pk : Option Nat}

/-- A value is free if no other row has it. -/
theorem taken_eq_false [BEq β] [LawfulBEq β] {v : β} :
    taken f t pk v = false ↔ ∀ r ∈ t.rows, f r = v → some (Keyed.key r) = pk := by
  simp only [taken, List.any_eq_false, Bool.and_eq_true, beq_iff_eq, bne_iff_ne, not_and, not_not]

/-- An insertion puts its row. -/
theorem puts_insert {mk : Nat → α} {k} : Puts t (mk t.nextId) (t.insert mk k) where
  mem := Table.mem_insert_new
  rows a ha := (Table.mem_insert.mp ha).imp_left fun h =>
    ⟨h, by rw [k]; exact Table.key_ne_nextId h⟩

/-- So does an insertion under a given key. -/
theorem puts_insertUnder {h : ∀ x ∈ t.rows, Keyed.key x ≠ Keyed.key r} :
    Puts t r (t.insertUnder r h) where
  mem := List.mem_append_right _ (List.mem_singleton_self r)
  rows a ha := by
    rcases List.mem_append.mp ha with ha | ha
    · exact .inl ⟨ha, h a ha⟩
    · exact .inr (List.mem_singleton.mp ha)

/-- An update that writes `r` over the row with its key, which is there. -/
theorem puts_update {p : α → Bool} {g : α → α} {k}
    (hp : ∀ a, p a = true ↔ Keyed.key a = Keyed.key r)
    (hg : ∀ a, Keyed.key a = Keyed.key r → g a = r)
    (hthere : ∃ a ∈ t.rows, Keyed.key a = Keyed.key r) :
    Puts t r (t.update p g k) where
  mem := by
    obtain ⟨a, ha, hkey⟩ := hthere
    exact Table.mem_update.mpr ⟨a, ha, by rw [if_pos ((hp a).mpr hkey), hg a hkey]⟩
  rows b hb := by
    obtain ⟨a, ha, rfl⟩ := Table.mem_update.mp hb
    split_ifs with h
    · exact .inr (hg a ((hp a).mp h))
    · exact .inl ⟨ha, fun hkey => h ((hp a).mpr hkey)⟩

/-- Some of the rows. -/
theorem IsUnique.mono (h : IsUnique f t) (hrows : ∀ a ∈ t'.rows, a ∈ t.rows) : IsUnique f t' :=
  fun a ha b hb => h a (hrows a ha) b (hrows b hb)

/-- **The constraint** is kept by a row that nothing stands in the way of. -/
theorem IsUnique.puts [BEq β] [LawfulBEq β] (h : IsUnique f t) (hput : Puts t r t')
    (hfree : taken f t pk (f r) = false) (hpk : ∀ k ∈ pk, k = Keyed.key r) : IsUnique f t' := by
  -- An old row does not have the value of the new one.
  have hother : ∀ a ∈ t.rows, Keyed.key a ≠ Keyed.key r → f a ≠ f r := fun a ha hne heq =>
    hne (hpk _ (taken_eq_false.mp hfree a ha heq).symm)
  intro a ha b hb heq
  rcases hput.rows a ha with ⟨ha, hak⟩ | rfl <;> rcases hput.rows b hb with ⟨hb, hbk⟩ | rfl
  · exact h a ha b hb heq
  · exact absurd heq (hother a ha hak)
  · exact absurd heq.symm (hother b hb hbk)
  · rfl

/-- A property of rows that the new one has. -/
theorem Puts.forall {p : α → Prop} (hput : Puts t r t') (h : ∀ a ∈ t.rows, p a) (hr : p r) :
    ∀ a ∈ t'.rows, p a := fun a ha => by
  rcases hput.rows a ha with ⟨ha, -⟩ | rfl
  · exact h a ha
  · exact hr

/-- Looking for the value finds the one row that has it. -/
theorem IsUnique.filter_eq [BEq β] [LawfulBEq β] (h : IsUnique f t) (hr : r ∈ t.rows) :
    (t.rows.filter fun a => f a == f r) = [r] := by
  have hnodup : (t.rows.filter fun a => f a == f r).Nodup :=
    (List.Nodup.of_map _ t.nodup).filter _
  have hall : ∀ a ∈ t.rows.filter fun a => f a == f r, a = r := fun a ha =>
    h a (List.mem_of_mem_filter ha) r hr (beq_iff_eq.mp (List.mem_filter.mp ha).2)
  have hmem : r ∈ t.rows.filter fun a => f a == f r := List.mem_filter.mpr ⟨hr, beq_self_eq_true _⟩
  cases hrows : t.rows.filter fun a => f a == f r with
  | nil => rw [hrows] at hmem; cases hmem
  | cons a rest =>
    rw [hrows] at hnodup hall
    have ha := hall a List.mem_cons_self
    cases rest with
    | nil => rw [ha]
    | cons b rest =>
      have hb := hall b (List.mem_cons_of_mem _ List.mem_cons_self)
      exact absurd (ha.trans hb.symm) fun hab =>
        (List.nodup_cons.mp hnodup).1 (hab ▸ List.mem_cons_self)

end Unique

end Relational

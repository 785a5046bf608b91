import Mathlib.Algebra.BigOperators.Group.List.Basic
import Mathlib.Algebra.Order.BigOperators.Group.List
import Mathlib.Data.List.Nodup
import Mathlib.Tactic.Ring

namespace Relational

/-!
# Relational library — tables with an auto-incremented key

A `Table α` is the list of rows of one database table in insertion order, together with the
next value of its key sequence.  Uniqueness of the keys and "a key is never handed out twice"
are fields of the structure, so no later proof has to re-establish them.

* `insert` / `insertMany` append rows under fresh keys, `delete` and `update` act on the rows
  that satisfy a filter, `get?` looks a row up by its key;
* `mem_*` describe the rows of each result;
* `total w t` is the `SUM(w)` aggregate; `total_*` push every operation through it, so that a
  conservation law about a table reduces to an identity about single rows.
-/

/-- Rows that carry an integer primary key. -/
class Keyed (α : Type) where
  /-- The primary key of a row. -/
  key : α → Nat

/-- A table: its rows, its key sequence, and the two facts the database enforces about keys. -/
structure Table (α : Type) [Keyed α] where
  rows : List α
  nextId : Nat
  nodup : (rows.map Keyed.key).Nodup
  fresh : ∀ r ∈ rows, Keyed.key r < nextId

namespace Table

variable {α β : Type} [Keyed α]

/-- The table without rows; keys start at `1`. -/
def empty : Table α where
  rows := []
  nextId := 1
  nodup := by simp
  fresh := by simp

/-- The row with key `i`, if there is one. -/
def get? (t : Table α) (i : Nat) : Option α := t.rows.find? (fun r => Keyed.key r == i)

/-- Append the row `mk i`, where `i` is the next key of the sequence. -/
def insert (t : Table α) (mk : Nat → α)
    (k : ∀ i, Keyed.key (mk i) = i := by intro _; exact id rfl) :
    Table α where
  rows := t.rows ++ [mk t.nextId]
  nextId := t.nextId + 1
  nodup := by
    have hne : ∀ r ∈ t.rows, Keyed.key r ≠ t.nextId := fun r hr => (t.fresh r hr).ne
    rw [List.map_append, List.nodup_append]
    refine ⟨t.nodup, by simp, ?_⟩
    simpa [k] using hne
  fresh := by
    intro r hr
    rcases List.mem_append.mp hr with h | h
    · exact Nat.lt_succ_of_lt (t.fresh r h)
    · rw [List.mem_singleton.mp h, k]; exact Nat.lt_succ_self _

/-- Append one row per element of `l`, in order, under consecutive fresh keys. -/
def insertMany (t : Table α) (mk : β → Nat → α) (l : List β)
    (k : ∀ b i, Keyed.key (mk b i) = i := by intro _ _; exact id rfl) : Table α :=
  match l with
  | [] => t
  | b :: l => (t.insert (mk b) (k b)).insertMany mk l k

/-- Remove the rows that satisfy `p`. -/
def delete (t : Table α) (p : α → Bool) : Table α where
  rows := t.rows.filter (fun r => !p r)
  nextId := t.nextId
  nodup := t.nodup.sublist (List.filter_sublist.map _)
  fresh := fun r hr => t.fresh r (List.mem_of_mem_filter hr)

/-- Rewrite the rows that satisfy `p` by `f`, which must keep the key. -/
def update (t : Table α) (p : α → Bool) (f : α → α)
    (k : ∀ r, Keyed.key (f r) = Keyed.key r := by intro _; exact id rfl) : Table α where
  rows := t.rows.map (fun r => if p r then f r else r)
  nextId := t.nextId
  nodup := by
    have hkey : Keyed.key ∘ (fun r => if p r then f r else r) = (Keyed.key : α → Nat) := by
      funext r; by_cases h : p r <;> simp [h, k]
    rw [List.map_map, hkey]; exact t.nodup
  fresh := by
    intro r hr
    obtain ⟨x, hx, rfl⟩ := List.mem_map.mp hr
    by_cases h : p x <;> simpa [h, k] using t.fresh x hx

variable {t : Table α} {r x : α} {i : Nat}

/-! ### Rows of the results -/

/-- A table is determined by its rows and its key sequence. -/
@[ext] theorem ext {t u : Table α} (hrows : t.rows = u.rows) (hnext : t.nextId = u.nextId) :
    t = u := by
  cases t; cases u; cases hrows; cases hnext; rfl

/-- Two updates that agree on every row are the same. -/
theorem update_congr {p q : α → Bool} {f g : α → α} {hf hg}
    (h : ∀ r ∈ t.rows, (if p r then f r else r) = if q r then g r else r) :
    t.update p f hf = t.update q g hg :=
  ext (List.map_congr_left h) rfl

/-- A row is told by its key. -/
theorem eq_of_key_eq (hr : r ∈ t.rows) (hx : x ∈ t.rows) (h : Keyed.key r = Keyed.key x) :
    r = x :=
  List.inj_on_of_nodup_map t.nodup hr hx h

/-- What is found under a key. -/
theorem get?_eq_some : t.get? i = some r ↔ r ∈ t.rows ∧ Keyed.key r = i := by
  constructor
  · intro h
    exact ⟨List.mem_of_find?_eq_some h, by simpa using List.find?_some h⟩
  · rintro ⟨hr, rfl⟩
    cases hf : t.get? (Keyed.key r) with
    | none => exact absurd (List.find?_eq_none.mp hf r hr) (by simp)
    | some y =>
      have hy : y ∈ t.rows := List.mem_of_find?_eq_some hf
      have hk : Keyed.key y = Keyed.key r := by simpa using List.find?_some hf
      rw [eq_of_key_eq hy hr hk]

/-- Nothing is found if no row has the key. -/
theorem get?_eq_none : t.get? i = none ↔ ∀ r ∈ t.rows, Keyed.key r ≠ i := by
  simp [get?, List.find?_eq_none]

/-- A row that a filter lets through is found in the filter. -/
theorem find?_filter {p : α → Bool} (h : t.get? i = some r) (hp : p r = true) :
    (t.rows.filter p).find? (fun x => Keyed.key x == i) = some r := by
  obtain ⟨hr, hi⟩ := get?_eq_some.mp h
  cases hx : (t.rows.filter p).find? (fun x => Keyed.key x == i) with
  | none =>
    have hnone := List.find?_eq_none.mp hx r (List.mem_filter.mpr ⟨hr, hp⟩)
    exact absurd (beq_iff_eq.mpr hi) hnone
  | some x =>
    have hmem := (List.mem_filter.mp (List.mem_of_find?_eq_some hx)).1
    have hxi : Keyed.key x = i := by simpa using List.find?_some hx
    rw [eq_of_key_eq hmem hr (hxi.trans hi.symm)]

/-- A row that is found is stored. -/
theorem get?_mem (h : t.get? i = some r) : r ∈ t.rows := (get?_eq_some.mp h).1

/-- A row that is found has the key. -/
theorem get?_key (h : t.get? i = some r) : Keyed.key r = i := (get?_eq_some.mp h).2

/-- A key of the sequence that was not handed out yet belongs to no row. -/
theorem key_ne_nextId (hr : r ∈ t.rows) : Keyed.key r ≠ t.nextId := (t.fresh r hr).ne

/-- Deleting no row changes nothing. -/
theorem delete_eq_self {p : α → Bool} (h : ∀ r ∈ t.rows, p r = false) : t.delete p = t :=
  ext (List.filter_eq_self.mpr fun r hr => by simp [h r hr]) rfl

/-- Updating no row changes nothing. -/
theorem update_eq_self {p : α → Bool} {f : α → α} {k} (h : ∀ r ∈ t.rows, p r = false) :
    t.update p f k = t :=
  ext ((List.map_congr_left fun r hr => if_neg (by simp [h r hr])).trans (List.map_id _)) rfl

/-- An update that moves no row. -/
theorem update_eq_self_of_fix {p : α → Bool} {f : α → α} {k}
    (h : ∀ r ∈ t.rows, p r = true → f r = r) : t.update p f k = t := by
  refine Table.ext ?_ rfl
  refine (List.map_congr_left fun r hr => ?_).trans (List.map_id _)
  by_cases hp : p r
  · rw [if_pos hp, h r hr hp, id]
  · rw [if_neg hp, id]

/-- A filter that sees neither the rows an update changes nor what becomes of them. -/
theorem filter_update_of_mem {p q : α → Bool} {f : α → α} {k}
    (h : ∀ r ∈ t.rows, p r = true → q r = false ∧ q (f r) = false) :
    (t.update p f k).rows.filter q = t.rows.filter q := by
  show (t.rows.map fun r => if p r then f r else r).filter q = _
  generalize t.rows = rows at h
  induction rows with
  | nil => rfl
  | cons r rest ih =>
    rw [List.map_cons, List.filter_cons, List.filter_cons,
      ih fun x hx => h x (List.mem_cons_of_mem _ hx)]
    by_cases hp : p r
    · obtain ⟨hr, hfr⟩ := h r List.mem_cons_self hp
      rw [if_pos hp, hr, hfr]
      rfl
    · rw [if_neg hp]

/-- An update of other rows leaves a selection. -/
theorem filter_update {p q : α → Bool} {f : α → α} {k}
    (h : ∀ r, p r = true → q r = false ∧ q (f r) = false) :
    (t.update p f k).rows.filter q = t.rows.filter q :=
  filter_update_of_mem fun r _ => h r

/-- A filter that sees none of the deleted rows. -/
theorem filter_delete_of_mem {p q : α → Bool} (h : ∀ r ∈ t.rows, p r = true → q r = false) :
    (t.delete p).rows.filter q = t.rows.filter q := by
  show (t.rows.filter fun r => !p r).filter q = _
  rw [List.filter_filter]
  refine List.filter_congr fun r hr => ?_
  cases hp : p r with
  | false => rw [Bool.not_false, Bool.and_true]
  | true => rw [h r hr hp]; rfl

/-- A deletion of other rows leaves a selection. -/
theorem filter_delete {p q : α → Bool} (h : ∀ r, p r = true → q r = false) :
    (t.delete p).rows.filter q = t.rows.filter q :=
  filter_delete_of_mem fun r _ => h r

/-- A filter that does not see the new row. -/
theorem filter_insert {q : α → Bool} {mk : Nat → α} {k} (h : q (mk t.nextId) = false) :
    (t.insert mk k).rows.filter q = t.rows.filter q := by
  show (t.rows ++ [mk t.nextId]).filter q = _
  rw [List.filter_append, List.filter_cons, h, if_neg Bool.false_ne_true, List.filter_nil,
    List.append_nil]

/-- A row rewritten right after it was created was created so. -/
theorem update_insert {mk : Nat → α} {k} {p : α → Bool} {f : α → α} {hf} {k'}
    (hnew : p (mk t.nextId) = true) (hold : ∀ r ∈ t.rows, p r = false) :
    (t.insert mk k).update p f hf = t.insert (fun i => f (mk i)) k' := by
  refine Table.ext ?_ rfl
  show (t.rows ++ [mk t.nextId]).map (fun r => if p r then f r else r)
    = t.rows ++ [f (mk t.nextId)]
  rw [List.map_append, List.map_cons, List.map_nil, if_pos hnew]
  refine congrArg (· ++ _) ((List.map_congr_left fun r hr => ?_).trans (List.map_id _))
  rw [if_neg (by rw [hold r hr]; exact Bool.false_ne_true), id]

/-- The empty table has no rows. -/
@[simp] theorem empty_rows : (empty : Table α).rows = [] := rfl

/-- An insertion appends its row. -/
@[simp] theorem insert_rows (mk : Nat → α) (k) :
    (t.insert mk k).rows = t.rows ++ [mk t.nextId] := rfl

/-- An insertion takes one key. -/
@[simp] theorem insert_nextId (mk : Nat → α) (k) : (t.insert mk k).nextId = t.nextId + 1 := rfl

/-- A deletion gives no key back. -/
@[simp] theorem delete_nextId (p : α → Bool) : (t.delete p).nextId = t.nextId := rfl

/-- An update takes no key. -/
@[simp] theorem update_nextId (p : α → Bool) (f : α → α) (k) :
    (t.update p f k).nextId = t.nextId := rfl

/-- Inserting nothing changes nothing. -/
@[simp] theorem insertMany_nil (mk : β → Nat → α) (k) : t.insertMany mk [] k = t := rfl

/-- Rows are inserted one after another. -/
@[simp] theorem insertMany_cons (mk : β → Nat → α) (k) (b : β) (l : List β) :
    t.insertMany mk (b :: l) k = (t.insert (mk b) (k b)).insertMany mk l k := rfl

/-- The rows after an insertion. -/
theorem mem_insert {mk : Nat → α} {k} :
    r ∈ (t.insert mk k).rows ↔ r ∈ t.rows ∨ r = mk t.nextId := by
  simp

/-- An insertion keeps the rows. -/
theorem mem_insert_of_mem {mk : Nat → α} {k} (h : r ∈ t.rows) : r ∈ (t.insert mk k).rows :=
  mem_insert.mpr (.inl h)

/-- The inserted row is there. -/
theorem mem_insert_new {mk : Nat → α} {k} : mk t.nextId ∈ (t.insert mk k).rows :=
  mem_insert.mpr (.inr rfl)

/-- The rows after a deletion. -/
theorem mem_delete {p : α → Bool} : r ∈ (t.delete p).rows ↔ r ∈ t.rows ∧ p r = false := by
  simp [delete]

/-- The rows after an update. -/
theorem mem_update {p : α → Bool} {f : α → α} {k} :
    r ∈ (t.update p f k).rows ↔ ∃ x ∈ t.rows, (if p x then f x else x) = r := by
  simp [update]

/-- An inserted row is an old row or was built from an element of the inserted list. -/
theorem mem_insertMany {mk : β → Nat → α} {k} {l : List β} (h : r ∈ (t.insertMany mk l k).rows) :
    r ∈ t.rows ∨ ∃ b ∈ l, ∃ i, t.nextId ≤ i ∧ r = mk b i := by
  induction l generalizing t with
  | nil => exact .inl h
  | cons b l ih =>
    rcases ih h with h | ⟨b', hb', i, hi, rfl⟩
    · rcases mem_insert.mp h with h | rfl
      · exact .inl h
      · exact .inr ⟨b, by simp, _, le_refl _, rfl⟩
    · exact .inr ⟨b', by simp [hb'], i, Nat.le_of_succ_le hi, rfl⟩

/-- Inserting many keeps the rows. -/
theorem mem_insertMany_of_mem {mk : β → Nat → α} {k} {l : List β} (h : r ∈ t.rows) :
    r ∈ (t.insertMany mk l k).rows := by
  induction l generalizing t with
  | nil => exact h
  | cons b l ih => exact ih (mem_insert.mpr (.inl h))

/-- Every element of the inserted list has a row. -/
theorem exists_mem_insertMany (mk : β → Nat → α) (k) {l : List β} {b : β} (hb : b ∈ l) :
    ∃ i, t.nextId ≤ i ∧ mk b i ∈ (t.insertMany mk l k).rows := by
  induction l generalizing t with
  | nil => simp at hb
  | cons c l ih =>
    rcases List.mem_cons.mp hb with rfl | hb
    · refine ⟨t.nextId, le_refl _, ?_⟩
      rw [insertMany_cons]
      exact mem_insertMany_of_mem (mem_insert.mpr (.inr rfl))
    · obtain ⟨i, hi, hmem⟩ := ih (t := t.insert (mk c) (k c)) hb
      exact ⟨i, Nat.le_of_succ_le hi, hmem⟩

/-- A column that the inserted rows take from the elements of the list. -/
theorem map_insertMany {γ : Type} {f : α → γ} {v : β → γ} {mk : β → Nat → α} {k} {l : List β}
    (hf : ∀ b i, f (mk b i) = v b) :
    (t.insertMany mk l k).rows.map f = t.rows.map f ++ l.map v := by
  induction l generalizing t with
  | nil => simp
  | cons b l ih => rw [insertMany_cons, ih, insert_rows]; simp [hf]

/-- A filter that lets all the inserted rows through. -/
theorem map_filter_insertMany {γ : Type} {f : α → γ} {v : β → γ} {p : α → Bool}
    {mk : β → Nat → α} {k} {l : List β} (hp : ∀ b i, p (mk b i) = true)
    (hf : ∀ b i, f (mk b i) = v b) :
    ((t.insertMany mk l k).rows.filter p).map f = (t.rows.filter p).map f ++ l.map v := by
  induction l generalizing t with
  | nil => simp
  | cons b l ih => rw [insertMany_cons, ih, insert_rows]; simp [hp, hf, List.filter_append]

/-- A filter that lets none of them through. -/
theorem filter_insertMany {p : α → Bool} {mk : β → Nat → α} {k} {l : List β}
    (hp : ∀ b i, p (mk b i) = false) : (t.insertMany mk l k).rows.filter p = t.rows.filter p := by
  induction l generalizing t with
  | nil => rfl
  | cons b l ih => rw [insertMany_cons, ih, insert_rows]; simp [hp, List.filter_append]

/-- The inserted rows, one after the other under consecutive keys. -/
theorem insertMany_rows {mk : β → Nat → α} {k} {l : List β} :
    (t.insertMany mk l k).rows = t.rows ++ l.mapIdx fun n b => mk b (t.nextId + n) := by
  induction l generalizing t with
  | nil => simp
  | cons b l ih =>
    rw [insertMany_cons, ih, insert_rows, insert_nextId, List.mapIdx_cons, List.append_assoc]
    simp only [Nat.add_right_comm _ 1, Nat.add_zero, List.singleton_append, Nat.add_assoc]

/-- The rows after a list was inserted, with the place of each new one in the list. -/
theorem mem_insertMany_iff {mk : β → Nat → α} {k} {l : List β} :
    r ∈ (t.insertMany mk l k).rows ↔
      r ∈ t.rows ∨ ∃ n b, l[n]? = some b ∧ r = mk b (t.nextId + n) := by
  rw [insertMany_rows, List.mem_append, List.mem_mapIdx]
  refine or_congr Iff.rfl ⟨?_, ?_⟩
  · rintro ⟨n, hn, rfl⟩
    exact ⟨n, l[n], List.getElem?_eq_getElem hn, rfl⟩
  · rintro ⟨n, b, hb, rfl⟩
    obtain ⟨hn, rfl⟩ := List.getElem?_eq_some_iff.mp hb
    exact ⟨n, hn, rfl⟩

/-- Looking up a key after an update. -/
theorem get?_update {p : α → Bool} {f : α → α} {k} :
    (t.update p f k).get? i = (t.get? i).map fun r => if p r then f r else r := by
  cases h : t.get? i with
  | none =>
    refine get?_eq_none.mpr fun r hr => ?_
    obtain ⟨x, hx, rfl⟩ := mem_update.mp hr
    have hne := get?_eq_none.mp h x hx
    by_cases hp : p x <;> simpa [hp, k] using hne
  | some x =>
    obtain ⟨hx, hid⟩ := get?_eq_some.mp h
    refine get?_eq_some.mpr ⟨mem_update.mpr ⟨x, hx, rfl⟩, ?_⟩
    by_cases hp : p x <;> simpa [hp, k] using hid

/-! ### The `SUM` aggregate -/

section Total

variable {M : Type} [AddCommMonoid M]

/-- `SUM(w)` over the rows of a table. -/
def total (w : α → M) (t : Table α) : M := (t.rows.map w).sum

/-- Nothing adds up to nothing. -/
@[simp] theorem total_empty (w : α → M) : total w (empty : Table α) = 0 := rfl

/-- Equal weights have equal totals. -/
theorem total_congr {w v : α → M} (h : ∀ r ∈ t.rows, w r = v r) : total w t = total v t :=
  congrArg List.sum (List.map_congr_left h)

/-- Rows without weight have no total. -/
theorem total_eq_zero {w : α → M} (h : ∀ r ∈ t.rows, w r = 0) : total w t = 0 := by
  rw [total_congr h]; simp [total]

/-- Totals add up. -/
theorem total_add (w v : α → M) : total (fun r => w r + v r) t = total w t + total v t :=
  List.sum_map_add

/-- An insertion adds the weight of its row. -/
@[simp] theorem total_insert (w : α → M) (mk : Nat → α) (k) :
    total w (t.insert mk k) = total w t + w (mk t.nextId) := by
  simp [total]

/-- When the weight of a new row does not depend on its key, inserting a list adds up the
    weights of its elements. -/
theorem total_insertMany {w : α → M} {mk : β → Nat → α} {k} {l : List β} {v : β → M}
    (hw : ∀ b i, w (mk b i) = v b) :
    total w (t.insertMany mk l k) = total w t + (l.map v).sum := by
  induction l generalizing t with
  | nil => simp
  | cons b l ih =>
    rw [insertMany_cons, ih, total_insert, hw, List.map_cons, List.sum_cons, add_assoc]

/-- A deletion takes the weights of its rows. -/
theorem total_delete (w : α → M) (p : α → Bool) :
    total w (t.delete p) = total (fun r => if p r then 0 else w r) t := by
  show ((t.rows.filter (fun r => !p r)).map w).sum
    = (t.rows.map (fun r => if p r then 0 else w r)).sum
  induction t.rows with
  | nil => rfl
  | cons x l ih =>
    by_cases h : p x <;> simp [h, ih]

/-- An update changes the weights of its rows. -/
theorem total_update (w : α → M) (p : α → Bool) (f : α → α) (k) :
    total w (t.update p f k) = total (fun r => if p r then w (f r) else w r) t := by
  unfold total update
  rw [List.map_map]
  refine congrArg List.sum (List.map_congr_left fun r _ => ?_)
  by_cases h : p r <;> simp [h]

/-- Split the row `r` off an aggregate. -/
theorem total_eq_add (w : α → M) (hr : r ∈ t.rows) :
    total w t = w r + total (fun x => if Keyed.key x = Keyed.key r then 0 else w x) t := by
  have hsplit : total w t
      = total (fun x => if Keyed.key x = Keyed.key r then w x else 0) t
        + total (fun x => if Keyed.key x = Keyed.key r then 0 else w x) t := by
    rw [← total_add]
    exact total_congr fun x _ => by by_cases h : Keyed.key x = Keyed.key r <;> simp [h]
  rw [hsplit]
  congr 1
  unfold total
  have hnd := t.nodup
  revert hr hnd
  induction t.rows with
  | nil => simp
  | cons y l ih =>
    intro hr hnd
    rw [List.map_cons, List.nodup_cons] at hnd
    rcases List.mem_cons.mp hr with rfl | hr
    · have hrest : ∀ x ∈ l, (if Keyed.key x = Keyed.key r then w x else 0) = 0 := fun x hx =>
        if_neg fun hxr => hnd.1 (List.mem_map.mpr ⟨x, hx, hxr⟩)
      simp [List.map_congr_left hrest]
    · have hne : Keyed.key y ≠ Keyed.key r := fun h => hnd.1 (List.mem_map.mpr ⟨r, hr, h.symm⟩)
      simpa [hne] using ih hr hnd.2

end Total

/-- Counting the rows that satisfy a filter is summing its indicator. -/
theorem length_filter_eq_total (p : α → Bool) (t : Table α) :
    (t.rows.filter p).length = total (fun r => if p r then 1 else 0) t := by
  unfold total
  induction t.rows with
  | nil => rfl
  | cons x l ih => by_cases h : p x <;> simp [h, ih, Nat.add_comm]

/-- Aggregates are monotone in the weight. -/
theorem total_mono {w v : α → Nat} (h : ∀ r ∈ t.rows, w r ≤ v r) : total w t ≤ total v t :=
  List.sum_le_sum h

/-- A single row weighs at most the aggregate. -/
theorem le_total {w : α → Nat} (hr : r ∈ t.rows) : w r ≤ total w t := by
  rw [total_eq_add w hr]; exact Nat.le_add_right _ _

/-- Two different rows together weigh at most the aggregate. -/
theorem add_le_total {w : α → Nat} (hr : r ∈ t.rows) (hx : x ∈ t.rows)
    (hne : Keyed.key x ≠ Keyed.key r) : w r + w x ≤ total w t := by
  rw [total_eq_add w hr]
  have := le_total (w := fun y => if Keyed.key y = Keyed.key r then 0 else w y) hx
  simp only [if_neg hne] at this
  exact Nat.add_le_add_left this _

end Table

end Relational

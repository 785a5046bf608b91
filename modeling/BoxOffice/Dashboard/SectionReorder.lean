import BoxOffice.Venues.ChartIo

namespace BoxOffice

open Relational

/-!
# Dashboard — moving a section

`sectionReorder` is `section_reorder`: it exchanges the stored `ordering` of a section with that
of its neighbour in the displayed order, which sorts by `(ordering, name)`.

* `Swappable` — the two values differ, and no other section shares one of them on the wrong side
  of the exchanged names;
* `displayOrder_swapOrdering` — exactly then the exchange of the values exchanges the two;
* `section_moves_iff` — so a section moves by one exactly when its neighbours are so.
-/

/-- The answers of the view. -/
inductive ReorderResponse
  | notFound
  | badDirection
  | order (ids : List Nat)
deriving Repr, DecidableEq

/-- `[s.pk for s in chart.sections.order_by("ordering", "name")]`. -/
def displayOrder (db : Db) (chart : Nat) : List Nat := (orderedSections db chart).map (·.id)

/-- The two `save(update_fields=["ordering"])` of an exchange. -/
def swapOrdering (db : Db) (section_ neighbor : Section) : Db :=
  { db with
    sections := (db.sections.update (fun r => r.id == section_.id)
      fun r => { r with ordering := neighbor.ordering }).update (fun r => r.id == neighbor.id)
      fun r => { r with ordering := section_.ordering } }

/-- `section_reorder`. -/
def sectionReorder (organization chart pk : Nat) (direction : Option String) (db : Db) :
    Db × ReorderResponse :=
  match db.seatingCharts.rows.find? (fun c => c.id == chart && c.organization == organization),
    (sectionsOf db chart).find? (fun s => s.id == pk && s.organization == organization) with
  | some _, some section_ =>
    if direction = some "up" ∨ direction = some "down" then
      let ordered := orderedSections db chart
      let index := ordered.findIdx (·.id == pk)
      let neighbor :=
        if direction = some "up" then
          if index = 0 then none else ordered[index - 1]?
        else ordered[index + 1]?
      let db := match neighbor with
        | none => db
        | some neighbor => swapOrdering db section_ neighbor
      (db, .order (displayOrder db chart))
    else (db, .badDirection)
  | _, _ => (db, .notFound)

/-! ### An exchange of two values -/

section Swap

variable {db : Db} {chart : Nat} {pre post : List Section} {u v : Section}

/-- What `unique_section_name_per_chart` says. -/
def NamesDiffer (db : Db) (chart : Nat) : Prop := ((sectionsOf db chart).map (·.name)).Nodup

/-- One section below another, with what is above and below the two, such that exchanging
    their values exchanges them. -/
structure Swappable (pre : List Section) (u v : Section) (post : List Section) : Prop where
  differ : u.ordering ≠ v.ordering
  above : ∀ p ∈ pre, p.ordering = u.ordering → p.name < v.name
  below : ∀ q ∈ post, q.ordering = v.ordering → u.name < q.name

/-- A row after an exchange. -/
def swapped (u v r : Section) : Section :=
  if r.id = u.id then { r with ordering := v.ordering }
  else if r.id = v.id then { r with ordering := u.ordering }
  else r

/-- A swap keeps the key of a section. -/
@[simp] theorem swapped_id (u v r : Section) : (swapped u v r).id = r.id := by
  unfold swapped
  split_ifs <;> rfl

/-- A swap keeps the name of a section. -/
@[simp] theorem swapped_name (u v r : Section) : (swapped u v r).name = r.name := by
  unfold swapped
  split_ifs <;> rfl

/-- A swap keeps the chart of a section. -/
@[simp] theorem swapped_chart (u v r : Section) : (swapped u v r).chart = r.chart := by
  unfold swapped
  split_ifs <;> rfl

/-- A swap keeps the organization of a section. -/
@[simp] theorem swapped_organization (u v r : Section) :
    (swapped u v r).organization = r.organization := by
  unfold swapped
  split_ifs <;> rfl

/-- A swap maps over the stored sections. -/
theorem swapOrdering_rows (db : Db) (hne : u.id ≠ v.id) :
    (swapOrdering db u v).sections.rows = db.sections.rows.map (swapped u v) := by
  show ((db.sections.rows.map _).map _) = _
  rw [List.map_map]
  refine List.map_congr_left fun r _ => ?_
  by_cases hu : r.id = u.id
  · have hv : u.id ≠ v.id := hne
    simp [swapped, hu, hv]
  · by_cases hv : r.id = v.id
    · simp [swapped, hv, hne.symm]
    · simp [swapped, hu, hv]

/-- A swap maps over the sections of a chart. -/
theorem sectionsOf_swapOrdering (db : Db) (chart : Nat) (hne : u.id ≠ v.id) :
    sectionsOf (swapOrdering db u v) chart = (sectionsOf db chart).map (swapped u v) := by
  rw [sectionsOf, swapOrdering_rows db hne, List.filter_map]
  refine congrArg _ (List.filter_congr fun r _ => ?_)
  simp

/-- A swap does not care which section is named first. -/
theorem swapped_comm (hne : u.id ≠ v.id) (r : Section) : swapped v u r = swapped u v r := by
  unfold swapped
  by_cases hu : r.id = u.id
  · rw [if_neg (fun hv => hne (hu.symm.trans hv)), if_pos hu, if_pos hu]
  · rw [if_neg hu, if_neg hu]

/-- Nor does the swap of two stored sections. -/
theorem swapOrdering_comm (db : Db) (hne : u.id ≠ v.id) :
    swapOrdering db v u = swapOrdering db u v := by
  have hsections : (swapOrdering db v u).sections = (swapOrdering db u v).sections := by
    refine Table.ext ?_ rfl
    rw [swapOrdering_rows db hne.symm, swapOrdering_rows db hne]
    exact List.map_congr_left fun r _ => swapped_comm hne r
  simp only [swapOrdering] at hsections ⊢
  rw [hsections]

/-- The order in which a chart's sections are displayed. -/
def Section.rank (s : Section) : ℕ ×ₗ String := toLex (s.ordering, s.name)

/-- Sections are ordered by their ordering, and then by their names. -/
theorem rank_le {r s : Section} :
    r.rank ≤ s.rank ↔ r.ordering < s.ordering ∨ r.ordering = s.ordering ∧ r.name ≤ s.name :=
  Prod.Lex.toLex_le_toLex

/-- Two lists with the same images under a map that tells their members apart. -/
theorem eq_of_map_eq {α β : Type*} {f : α → β} {l l' : List α}
    (hinj : ∀ a ∈ l, ∀ b ∈ l', f a = f b → a = b) (h : l.map f = l'.map f) : l = l' := by
  induction l generalizing l' with
  | nil => cases l' with
    | nil => rfl
    | cons b l' => cases h
  | cons a l ih =>
    cases l' with
    | nil => cases h
    | cons b l' =>
      obtain ⟨hab, hrest⟩ := List.cons.inj h
      rw [hinj a (by simp) b (by simp) hab,
        ih (fun c hc d hd => hinj c (by simp [hc]) d (by simp [hd])) hrest]

/-- The upper section gets the ordering of the lower one. -/
theorem swapped_upper (u v : Section) : swapped u v u = { u with ordering := v.ordering } := by
  simp [swapped]

/-- The sections of a chart in their order, two of them next to each other. -/
structure Adjacent (db : Db) (chart : Nat) (pre : List Section) (u v : Section)
    (post : List Section) : Prop where
  ordered : orderedSections db chart = pre ++ u :: v :: post
  names : NamesDiffer db chart

namespace Adjacent

variable (h : Adjacent db chart pre u v post)

include h

/-- The listing is one of the sections of the chart. -/
theorem perm : (pre ++ u :: v :: post).Perm (sectionsOf db chart) :=
  h.ordered ▸ sortBy_perm _ _

/-- No section is listed twice. -/
theorem ids_nodup : ((pre ++ u :: v :: post).map (·.id)).Nodup := by
  have hall : ((sectionsOf db chart).map (·.id)).Nodup :=
    db.sections.nodup.sublist (List.filter_sublist.map _)
  exact (h.perm.map _).nodup_iff.mpr hall

/-- No two listed sections have the same name. -/
theorem names_nodup : ((pre ++ u :: v :: post).map (·.name)).Nodup :=
  (h.perm.map _).nodup_iff.mpr h.names

/-- The listing is in order. -/
theorem sorted : (pre ++ u :: v :: post).Pairwise fun a b => a.rank ≤ b.rank :=
  h.ordered ▸ sortBy_pairwise _ _

/-- The two neighbours are different sections. -/
theorem id_ne : u.id ≠ v.id := by
  have hnodup := h.ids_nodup
  simp only [List.map_append, List.map_cons, List.nodup_append, List.nodup_cons,
    List.mem_cons] at hnodup
  tauto

/-- The chart's sections after the exchange, the two of them exchanged. -/
theorem perm_swapped : (pre ++ swapped u v v :: swapped u v u :: post).Perm
    (sectionsOf (swapOrdering db u v) chart) := by
  have hids := h.ids_nodup
  simp only [List.map_append, List.map_cons, List.nodup_append, List.nodup_cons,
    List.mem_cons, List.mem_map] at hids
  have hpre : pre.map (swapped u v) = pre := by
    refine (List.map_congr_left fun p hp => ?_).trans (List.map_id _)
    have hu : p.id ≠ u.id := fun heq => hids.2.2 p.id ⟨p, hp, rfl⟩ u.id (.inl rfl) heq
    have hv : p.id ≠ v.id := fun heq => hids.2.2 p.id ⟨p, hp, rfl⟩ v.id (.inr (.inl rfl)) heq
    simp [swapped, hu, hv]
  have hpost : post.map (swapped u v) = post := by
    refine (List.map_congr_left fun q hq => ?_).trans (List.map_id _)
    have hu : q.id ≠ u.id := fun heq => hids.2.1.1 (.inr ⟨q, hq, heq⟩)
    have hv : q.id ≠ v.id := fun heq => hids.2.1.2.1 ⟨q, hq, heq⟩
    simp [swapped, hu, hv]
  rw [sectionsOf_swapOrdering db chart h.id_ne]
  refine List.Perm.trans ?_ (h.perm.map (swapped u v))
  rw [List.map_append, List.map_cons, List.map_cons, hpre, hpost]
  exact (List.Perm.swap _ _ _).append_left _

/-- The lower section gets the ordering of the upper one. -/
theorem swapped_lower : swapped u v v = { v with ordering := u.ordering } := by
  simp [swapped, h.id_ne.symm]

/-- **Where the exchange is in order.** -/
theorem sorted_swapped_iff :
    (pre ++ swapped u v v :: swapped u v u :: post).Pairwise (fun a b => a.rank ≤ b.rank) ↔
      Swappable pre u v post := by
  have hsorted := h.sorted
  have hnames := h.names_nodup
  rw [swapped_upper, h.swapped_lower]
  simp only [List.pairwise_append, List.pairwise_cons, List.mem_cons, rank_le, forall_eq_or_imp]
    at hsorted ⊢
  simp only [List.map_append, List.map_cons, List.nodup_append, List.nodup_cons,
    List.mem_cons, List.mem_map] at hnames
  obtain ⟨hpre, ⟨⟨huv, hupost⟩, hvpost, hpost⟩, hcross⟩ := hsorted
  have hne : u.name ≠ v.name := fun heq => hnames.2.1.1 (.inl heq)
  have hprev : ∀ p ∈ pre, p.name ≠ v.name := fun p hp heq =>
    hnames.2.2 p.name ⟨p, hp, rfl⟩ v.name (.inr (.inl rfl)) heq
  have hpostu : ∀ q ∈ post, q.name ≠ u.name := fun q hq heq => hnames.2.1.1 (.inr ⟨q, hq, heq⟩)
  constructor
  · rintro ⟨-, ⟨⟨hvu, -⟩, hupost', -⟩, hcross'⟩
    -- The two would be sorted by name both ways, and they have different names.
    refine ⟨fun heq => ?_, fun p hp heq => ?_, fun q hq heq => ?_⟩
    · have hle : u.name ≤ v.name := by
        rcases huv with hlt | ⟨-, hle⟩
        · omega
        · exact hle
      have hge : v.name ≤ u.name := by
        rcases hvu with hlt | ⟨-, hle⟩
        · omega
        · exact hle
      exact hne (le_antisymm hle hge)
    · rcases (hcross' p hp).1 with hlt | ⟨-, hle⟩
      · omega
      · exact lt_of_le_of_ne hle (hprev p hp)
    · rcases hupost' q hq with hlt | ⟨-, hle⟩
      · omega
      · exact lt_of_le_of_ne hle (hpostu q hq).symm
  · rintro ⟨hdiffer, habove, hbelow⟩
    -- Different numbers decide between the two; a neighbour with the same number is decided by
    -- its name.
    have hlt : u.ordering < v.ordering := by
      rcases huv with hlt | ⟨heq, -⟩
      · exact hlt
      · exact absurd heq hdiffer
    refine ⟨hpre, ⟨⟨.inl hlt, fun q hq => ?_⟩, fun q hq => ?_, hpost⟩,
      fun p hp => ⟨?_, ?_, (hcross p hp).2.2⟩⟩
    · rcases hvpost q hq with hq' | ⟨hq', -⟩
      · exact .inl (by omega)
      · exact .inl (by omega)
    · rcases hvpost q hq with hq' | ⟨hq', -⟩
      · exact .inl hq'
      · exact .inr ⟨hq', (hbelow q hq hq'.symm).le⟩
    · rcases (hcross p hp).1 with hp' | ⟨hp', -⟩
      · exact .inl hp'
      · exact .inr ⟨hp', (habove p hp hp').le⟩
    · rcases (hcross p hp).1 with hp' | ⟨hp', -⟩
      · exact .inl (by omega)
      · exact .inl (by omega)

/-- After the swap the names still differ. -/
theorem names_swapped : NamesDiffer (swapOrdering db u v) chart := by
  have hnames : (sectionsOf (swapOrdering db u v) chart).map (·.name)
      = (sectionsOf db chart).map (·.name) := by
    rw [sectionsOf_swapOrdering db chart h.id_ne, List.map_map]
    exact List.map_congr_left fun r _ => swapped_name u v r
  rw [NamesDiffer, hnames]
  exact h.names

/-- The sections after an exchange that is in order. -/
theorem ordered_swapped_iff :
    orderedSections (swapOrdering db u v) chart
        = pre ++ swapped u v v :: swapped u v u :: post ↔ Swappable pre u v post := by
  rw [← h.sorted_swapped_iff]
  refine sortBy_eq_iff h.perm_swapped fun a ha b hb hab => ?_
  have hname : a.name = b.name := congrArg (fun k => (ofLex k).2) hab
  exact List.inj_on_of_nodup_map h.names_swapped ha hb hname

/-- **The exchange.** It exchanges the two in the displayed order exactly when they are
    swappable. -/
theorem displayOrder_swapOrdering :
    displayOrder (swapOrdering db u v) chart
        = pre.map (·.id) ++ v.id :: u.id :: post.map (·.id) ↔ Swappable pre u v post := by
  rw [← h.ordered_swapped_iff]
  constructor
  · intro hids
    refine @eq_of_map_eq _ _ (·.id) _ _ (fun a ha b hb hab => ?_)
      (by simpa [displayOrder] using hids)
    have ha' : a ∈ (swapOrdering db u v).sections.rows := List.mem_of_mem_filter (mem_sortBy.mp ha)
    have hb' : b ∈ (swapOrdering db u v).sections.rows :=
      List.mem_of_mem_filter (h.perm_swapped.mem_iff.mp hb)
    exact Table.eq_of_key_eq ha' hb' hab
  · intro hordered
    simp [displayOrder, hordered]

/-- After the swap the two are neighbours the other way round. -/
theorem swapped_adjacent (hs : Swappable pre u v post) :
    Adjacent (swapOrdering db u v) chart pre (swapped u v v) (swapped u v u) post :=
  ⟨h.ordered_swapped_iff.mpr hs, h.names_swapped⟩

/-- A listed section is stored. -/
theorem mem_rows {r : Section} (hr : r ∈ pre ++ u :: v :: post) : r ∈ sectionsOf db chart :=
  h.perm.mem_iff.mp hr

/-- The exchange, twice. -/
theorem swapOrdering_back :
    swapOrdering (swapOrdering db u v) (swapped u v v) (swapped u v u) = db := by
  have hu : u ∈ db.sections.rows := List.mem_of_mem_filter (h.mem_rows (by simp))
  have hv : v ∈ db.sections.rows := List.mem_of_mem_filter (h.mem_rows (by simp))
  have hne := h.id_ne
  have hsections : (swapOrdering (swapOrdering db u v) (swapped u v v)
      (swapped u v u)).sections = db.sections := by
    refine Table.ext ?_ rfl
    rw [swapOrdering_rows _ (by simpa using hne.symm), swapOrdering_rows _ hne, List.map_map]
    refine (List.map_congr_left fun r hr => ?_).trans (List.map_id _)
    rw [Function.comp_apply, h.swapped_lower, swapped_upper]
    by_cases hru : r.id = u.id
    · have : r = u := Table.eq_of_key_eq hr hu hru
      subst this
      simp [swapped, hne]
    · by_cases hrv : r.id = v.id
      · have : r = v := Table.eq_of_key_eq hr hv hrv
        subst this
        simp [swapped, hru]
      · simp [swapped, hru, hrv]
  simp only [swapOrdering] at hsections ⊢
  rw [hsections]

end Adjacent

end Swap

/-! ### The view -/

section View

variable {db : Db} {organization chart : Nat} {pre post : List Section} {u v s : Section}

/-- A chart and a section of it, of the organization of the request. -/
structure Addressed (db : Db) (organization chart : Nat) (s : Section) : Prop where
  owned : ∃ c ∈ db.seatingCharts.rows, c.id = chart ∧ c.organization = organization
  listed : s ∈ sectionsOf db chart
  organization : s.organization = organization

/-- The chart of the address is found. -/
theorem Addressed.find_chart (h : Addressed db organization chart s) :
    ∃ c, db.seatingCharts.rows.find?
      (fun c => c.id == chart && c.organization == organization) = some c := by
  obtain ⟨c, hc, hid, horg⟩ := h.owned
  refine Option.isSome_iff_exists.mp (List.find?_isSome.mpr ⟨c, hc, ?_⟩)
  simp [hid, horg]

/-- The section of the address is found. -/
theorem Addressed.find_section (h : Addressed db organization chart s) :
    (sectionsOf db chart).find? (fun r => r.id == s.id && r.organization == organization)
      = some s := by
  cases hfind : (sectionsOf db chart).find?
      (fun r => r.id == s.id && r.organization == organization) with
  | none =>
    have := List.find?_eq_none.mp hfind s h.listed
    simp [h.organization] at this
  | some r =>
    have hr := List.mem_of_mem_filter (List.mem_of_find?_eq_some hfind)
    have hid := List.find?_some hfind
    simp only [Bool.and_eq_true, beq_iff_eq] at hid
    rw [Table.eq_of_key_eq hr (List.mem_of_mem_filter h.listed) hid.1]

/-- The position of a section whose key occurs once. -/
theorem findIdx_of_nodup {l : List Section} (h : ((pre ++ s :: l).map (·.id)).Nodup) :
    (pre ++ s :: l).findIdx (·.id == s.id) = pre.length := by
  have hnone : pre.findIdx (·.id == s.id) = pre.length := by
    refine List.findIdx_eq_length.mpr fun p hp => ?_
    rw [List.map_append, List.nodup_append] at h
    have hne : p.id ≠ s.id := h.2.2 p.id (List.mem_map_of_mem hp) s.id (by simp)
    simpa using hne
  rw [List.findIdx_append, hnone, if_neg (lt_irrefl _)]
  simp [List.findIdx_cons]

/-- The ordered sections of a chart are listed once each. -/
theorem orderedSections_ids_nodup (db : Db) (chart : Nat) :
    ((orderedSections db chart).map (·.id)).Nodup := by
  have hall : ((sectionsOf db chart).map (·.id)).Nodup :=
    db.sections.nodup.sublist (List.filter_sublist.map _)
  exact ((sortBy_perm _ _).map _).nodup_iff.mpr hall

/-- Up, from below another section. -/
theorem sectionReorder_up (ha : Addressed db organization chart v)
    (h : orderedSections db chart = pre ++ u :: v :: post) :
    (sectionReorder organization chart v.id (some "up") db).1 = swapOrdering db v u := by
  obtain ⟨c, hc⟩ := ha.find_chart
  have hidx : (pre ++ u :: v :: post).findIdx (·.id == v.id) = pre.length + 1 := by
    have hnodup := h ▸ orderedSections_ids_nodup db chart
    have hsplit : pre ++ u :: v :: post = (pre ++ [u]) ++ v :: post := by simp
    rw [hsplit] at hnodup ⊢
    rw [findIdx_of_nodup hnodup]
    simp
  simp only [sectionReorder, hc, ha.find_section, h, hidx, true_or, if_true]
  simp

/-- Up, at the top. -/
theorem sectionReorder_up_first (ha : Addressed db organization chart s)
    (h : orderedSections db chart = s :: post) :
    (sectionReorder organization chart s.id (some "up") db).1 = db := by
  obtain ⟨c, hc⟩ := ha.find_chart
  simp only [sectionReorder, hc, ha.find_section, h, true_or, if_true]
  simp [List.findIdx_cons]

/-- Down, from above another section. -/
theorem sectionReorder_down (ha : Addressed db organization chart u)
    (h : orderedSections db chart = pre ++ u :: v :: post) :
    (sectionReorder organization chart u.id (some "down") db).1 = swapOrdering db u v := by
  obtain ⟨c, hc⟩ := ha.find_chart
  have hidx : (pre ++ u :: v :: post).findIdx (·.id == u.id) = pre.length :=
    findIdx_of_nodup (h ▸ orderedSections_ids_nodup db chart)
  have hdown : ¬ (some "down" : Option String) = some "up" := by decide
  simp only [sectionReorder, hc, ha.find_section, h, hidx, hdown, or_true, if_true, if_false]
  simp

/-- Down, at the bottom. -/
theorem sectionReorder_down_last (ha : Addressed db organization chart s)
    (h : orderedSections db chart = pre ++ [s]) :
    (sectionReorder organization chart s.id (some "down") db).1 = db := by
  obtain ⟨c, hc⟩ := ha.find_chart
  have hidx : (pre ++ [s]).findIdx (·.id == s.id) = pre.length :=
    findIdx_of_nodup (h ▸ orderedSections_ids_nodup db chart)
  have hdown : ¬ (some "down" : Option String) = some "up" := by decide
  simp only [sectionReorder, hc, ha.find_section, h, hidx, hdown, or_true, if_true, if_false]
  simp

/-! ### The result -/

/-- The database after an arrow of the sidebar. -/
def moved (organization chart pk : Nat) (direction : String) (db : Db) : Db :=
  (sectionReorder organization chart pk (some direction) db).1

/-- A section moves by one, and stays where it is at the end of the list. -/
structure MovesByOne (db : Db) (organization chart pk : Nat) : Prop where
  up : ∀ pre u post, displayOrder db chart = pre ++ u :: pk :: post →
    displayOrder (moved organization chart pk "up" db) chart = pre ++ pk :: u :: post ∧
    displayOrder (moved organization chart pk "down" (moved organization chart pk "up" db)) chart
      = displayOrder db chart
  down : ∀ pre v post, displayOrder db chart = pre ++ pk :: v :: post →
    displayOrder (moved organization chart pk "down" db) chart = pre ++ v :: pk :: post
  first : ∀ post, displayOrder db chart = pk :: post →
    displayOrder (moved organization chart pk "up" db) chart = displayOrder db chart
  last : ∀ pre, displayOrder db chart = pre ++ [pk] →
    displayOrder (moved organization chart pk "down" db) chart = displayOrder db chart

/-- A section is swappable with the one above it, and with the one below it. -/
structure SwappableBothWays (db : Db) (chart : Nat) (s : Section) : Prop where
  above : ∀ pre u post, orderedSections db chart = pre ++ u :: s :: post → Swappable pre u s post
  below : ∀ pre v post, orderedSections db chart = pre ++ s :: v :: post → Swappable pre s v post

/-- The section of a chart that stands at a place of the displayed order. -/
theorem Addressed.eq_of_id (h : Addressed db organization chart s) {r : Section}
    (hr : r ∈ orderedSections db chart) (hid : r.id = s.id) : r = s :=
  Table.eq_of_key_eq (List.mem_of_mem_filter (mem_sortBy.mp hr))
    (List.mem_of_mem_filter h.listed) hid

/-- A swap keeps the address of a section good. -/
theorem Addressed.swapOrdering (h : Addressed db organization chart s) (hne : u.id ≠ v.id) :
    Addressed (swapOrdering db u v) organization chart (swapped u v s) := by
  refine ⟨h.owned, ?_, by simpa using h.organization⟩
  rw [sectionsOf_swapOrdering db chart hne]
  exact List.mem_map_of_mem h.listed

/-- **Moving a section moves it by one** exactly where its neighbours are swappable with it,
    over any stored values. -/
theorem section_moves_iff (hnames : NamesDiffer db chart)
    (ha : Addressed db organization chart s) :
    MovesByOne db organization chart s.id ↔ SwappableBothWays db chart s := by
  constructor
  · refine fun h => ⟨fun pre u post hordered => ?_, fun pre v post hordered => ?_⟩
    · have hadj : Adjacent db chart pre u s post := ⟨hordered, hnames⟩
      have hup := (h.up (pre.map (·.id)) u.id (post.map (·.id))
        (by simp [displayOrder, hordered])).1
      rw [moved, sectionReorder_up ha hordered, swapOrdering_comm db hadj.id_ne] at hup
      exact hadj.displayOrder_swapOrdering.mp hup
    · have hadj : Adjacent db chart pre s v post := ⟨hordered, hnames⟩
      have hdown := h.down (pre.map (·.id)) v.id (post.map (·.id))
        (by simp [displayOrder, hordered])
      rw [moved, sectionReorder_down ha hordered] at hdown
      exact hadj.displayOrder_swapOrdering.mp hdown
  · refine fun h => ⟨fun pre u post hids => ?_, fun pre v post hids => ?_, fun post hids => ?_,
      fun pre hids => ?_⟩
    · obtain ⟨pre', rest, hordered, rfl, hrest⟩ := List.map_eq_append_iff.mp hids
      obtain ⟨u', below, rfl, rfl, hbelow⟩ := List.map_eq_cons_iff.mp hrest
      obtain ⟨s', post', rfl, hid, rfl⟩ := List.map_eq_cons_iff.mp hbelow
      obtain rfl : s' = s := ha.eq_of_id (by rw [hordered]; simp) hid
      have hadj : Adjacent db chart pre' u' s' post' := ⟨hordered, hnames⟩
      have hswap := h.above pre' u' post' hordered
      have hup : moved organization chart s'.id "up" db = BoxOffice.swapOrdering db u' s' := by
        rw [moved, sectionReorder_up ha hordered, swapOrdering_comm db hadj.id_ne]
      rw [hup]
      refine ⟨hadj.displayOrder_swapOrdering.mpr hswap, ?_⟩
      -- The way back exchanges the same two values again.
      have hback := sectionReorder_down (ha.swapOrdering hadj.id_ne)
        (hadj.swapped_adjacent hswap).ordered
      rw [swapped_id] at hback
      rw [moved, hback, hadj.swapOrdering_back]
    · obtain ⟨pre', rest, hordered, rfl, hrest⟩ := List.map_eq_append_iff.mp hids
      obtain ⟨s', below, rfl, hid, hbelow⟩ := List.map_eq_cons_iff.mp hrest
      obtain ⟨v', post', rfl, rfl, rfl⟩ := List.map_eq_cons_iff.mp hbelow
      obtain rfl : s' = s := ha.eq_of_id (by rw [hordered]; simp) hid
      have hadj : Adjacent db chart pre' s' v' post' := ⟨hordered, hnames⟩
      rw [moved, sectionReorder_down ha hordered]
      exact hadj.displayOrder_swapOrdering.mpr (h.below pre' v' post' hordered)
    · obtain ⟨s', post', hordered, hid, rfl⟩ := List.map_eq_cons_iff.mp hids
      obtain rfl : s' = s := ha.eq_of_id (by rw [hordered]; simp) hid
      rw [moved, sectionReorder_up_first ha hordered]
    · obtain ⟨pre', rest, hordered, rfl, hrest⟩ := List.map_eq_append_iff.mp hids
      obtain ⟨s', below, rfl, hid, hnil⟩ := List.map_eq_cons_iff.mp hrest
      obtain rfl := List.map_eq_nil_iff.mp hnil
      obtain rfl : s' = s := ha.eq_of_id (by rw [hordered]; simp) hid
      rw [moved, sectionReorder_down_last ha hordered]

end View

/-! ### A chart imported without orderings, and one with them -/

/-- A file's section without seats. -/
def seatlessSection (name : String) (ordering : Option Nat) : SectionData :=
  ⟨name, ordering, none, none, none, none, none, none⟩

/-- The database after a file is imported. -/
def importedHouse (sections : List SectionData) : Db :=
  (importChartData .empty ⟨1, 1, "House", "UTC"⟩ ⟨"Main", sections⟩ none false).1

/-- The sections of an imported house can be addressed. -/
theorem importedHouse_addressed {sections : List SectionData} {s : Section}
    (hs : s ∈ sectionsOf (importedHouse sections) 1) (horg : s.organization = 1)
    (hchart : (importedHouse sections).seatingCharts.rows = [⟨1, 1, 1, "Main"⟩]) :
    Addressed (importedHouse sections) 1 1 s :=
  ⟨⟨_, by rw [hchart]; exact List.mem_singleton.mpr rfl, rfl, rfl⟩, hs, horg⟩

/-- Two sections of a file without orderings: the arrow up leaves the lower one below. -/
theorem section_reorder_tied :
    ∃ s, NamesDiffer (importedHouse [seatlessSection "Stalls" none,
        seatlessSection "Balcony" none]) 1 ∧
      Addressed (importedHouse [seatlessSection "Stalls" none,
        seatlessSection "Balcony" none]) 1 1 s ∧
      displayOrder (importedHouse [seatlessSection "Stalls" none,
        seatlessSection "Balcony" none]) 1 = [2, s.id] ∧
      ¬MovesByOne (importedHouse [seatlessSection "Stalls" none,
        seatlessSection "Balcony" none]) 1 1 s.id := by
  refine ⟨importedSection 1 1 (seatlessSection "Stalls" none) 1,
    by unfold NamesDiffer; decide +kernel,
    importedHouse_addressed (by decide +kernel) rfl (by decide +kernel), by decide +kernel,
    fun h => ?_⟩
  have hup := (h.up [] 2 [] (by decide +kernel)).1
  revert hup
  decide +kernel

/-- Two sections of a file with orderings are exchanged. -/
theorem section_moves_house :
    ∃ s, displayOrder (importedHouse [seatlessSection "Stalls" (some 0),
        seatlessSection "Balcony" (some 1)]) 1 = [1, 2] ∧ s.id = 2 ∧
      (MovesByOne (importedHouse [seatlessSection "Stalls" (some 0),
          seatlessSection "Balcony" (some 1)]) 1 1 s.id ↔
        SwappableBothWays (importedHouse [seatlessSection "Stalls" (some 0),
          seatlessSection "Balcony" (some 1)]) 1 s) ∧
      displayOrder (moved 1 1 s.id "up" (importedHouse [seatlessSection "Stalls" (some 0),
        seatlessSection "Balcony" (some 1)])) 1 = [2, 1] := by
  exact ⟨importedSection 1 1 (seatlessSection "Balcony" (some 1)) 2, by decide +kernel, rfl,
    section_moves_iff (by unfold NamesDiffer; decide +kernel)
      (importedHouse_addressed (by decide +kernel) rfl (by decide +kernel)), by decide +kernel⟩

end BoxOffice

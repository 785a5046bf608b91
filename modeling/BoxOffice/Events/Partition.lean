import BoxOffice.Events.Zones

namespace BoxOffice

open Relational

/-!
# Events — the zones of a performance are a partition

What each zone operation does to two properties of the zone table:

* `OneZone` — a seat is in at most one zone of a performance;
* `OneTemplate` — a performance has at most one zone of a template.

`claimSeats`, renaming, removing and deleting keep both.  A clone keeps them exactly when the
target has neither a seat nor a template of the zones it receives (`cloneZones_oneZone_iff`,
`cloneZones_oneTemplate_iff`).
-/

/-- A seat is in at most one zone of a performance. -/
def OneZone (zones : Table PricingZone) : Prop :=
  ∀ z ∈ zones.rows, ∀ z' ∈ zones.rows, z.performance = z'.performance →
    ∀ s, s ∈ z.seats → s ∈ z'.seats → z = z'

/-- A performance has at most one zone of a template. -/
def OneTemplate (zones : Table PricingZone) : Prop :=
  ∀ z ∈ zones.rows, ∀ z' ∈ zones.rows, z.performance = z'.performance →
    z.template = z'.template → z.template ≠ none → z = z'

section Steps

variable {zones : Table PricingZone} {performance : Nat}

/-! ### Rows that only lose seats -/

/-- Rewriting rows without adding a seat keeps the zones apart. -/
theorem OneZone.update (h : OneZone zones) {p : PricingZone → Bool} {f : PricingZone → PricingZone}
    {k} (hperf : ∀ z, (f z).performance = z.performance) (hseats : ∀ z, (f z).seats ⊆ z.seats) :
    OneZone (zones.update p f k) := by
  intro r hr r' hr' hp s hs hs'
  obtain ⟨z, hz, rfl⟩ := Table.mem_update.mp hr
  obtain ⟨z', hz', rfl⟩ := Table.mem_update.mp hr'
  have hperf : ∀ z, (if p z then f z else z).performance = z.performance := by
    intro z
    split
    · exact hperf z
    · rfl
  have hseats : ∀ z, (if p z then f z else z).seats ⊆ z.seats := by
    intro z
    split
    · exact hseats z
    · exact fun _ h => h
  rw [hperf, hperf] at hp
  rw [h z hz z' hz' hp s (hseats z hs) (hseats z' hs')]

/-- An update of other fields keeps one zone to a template. -/
theorem OneTemplate.update (h : OneTemplate zones) {p : PricingZone → Bool}
    {f : PricingZone → PricingZone} {k} (hperf : ∀ z, (f z).performance = z.performance)
    (htemplate : ∀ z, (f z).template = z.template) : OneTemplate (zones.update p f k) := by
  intro r hr r' hr' hp ht hn
  obtain ⟨z, hz, rfl⟩ := Table.mem_update.mp hr
  obtain ⟨z', hz', rfl⟩ := Table.mem_update.mp hr'
  have hsame : ∀ z, (if p z then f z else z).performance = z.performance ∧
      (if p z then f z else z).template = z.template := by
    intro z
    split
    · exact ⟨hperf z, htemplate z⟩
    · exact ⟨rfl, rfl⟩
  rw [(hsame z).1, (hsame z').1] at hp
  rw [(hsame z).2, (hsame z').2] at ht
  rw [(hsame z).2] at hn
  rw [h z hz z' hz' hp ht hn]

/-- A deletion keeps one zone to a seat. -/
theorem OneZone.delete (h : OneZone zones) (p : PricingZone → Bool) : OneZone (zones.delete p) :=
  fun z hz z' hz' => h z (Table.mem_delete.mp hz).1 z' (Table.mem_delete.mp hz').1

/-- And one to a template. -/
theorem OneTemplate.delete (h : OneTemplate zones) (p : PricingZone → Bool) :
    OneTemplate (zones.delete p) :=
  fun z hz z' hz' => h z (Table.mem_delete.mp hz).1 z' (Table.mem_delete.mp hz').1

/-! ### `apply_zone` -/

/-- A zone without seats is apart from every other. -/
theorem OneZone.insert (h : OneZone zones) {mk : Nat → PricingZone} {hk}
    (hseats : (mk zones.nextId).seats = []) : OneZone (zones.insert mk hk) := by
  intro z hz z' hz' hp s hs hs'
  rcases Table.mem_insert.mp hz with hz | rfl
  · rcases Table.mem_insert.mp hz' with hz' | rfl
    · exact h z hz z' hz' hp s hs hs'
    · rw [hseats] at hs'
      cases hs'
  · rw [hseats] at hs
    cases hs

/-- Inserting a zone of a template that has none keeps one zone to a template. -/
theorem OneTemplate.insert (h : OneTemplate zones) {mk : Nat → PricingZone} {hk}
    (hnew : ∀ z ∈ zones.rows, z.performance = (mk zones.nextId).performance →
      z.template ≠ (mk zones.nextId).template) : OneTemplate (zones.insert mk hk) := by
  intro z hz z' hz' hp ht hn
  rcases Table.mem_insert.mp hz with hz | rfl <;> rcases Table.mem_insert.mp hz' with hz' | rfl
  · exact h z hz z' hz' hp ht hn
  · exact absurd ht (hnew z hz hp)
  · exact absurd ht.symm (hnew z' hz' hp.symm)
  · rfl

/-- **Claiming.** The seats leave every other zone before they join this one. -/
theorem OneZone.claimSeats (h : OneZone zones) (zone : Nat) (seatIds : List Nat) :
    OneZone (claimSeats zones performance zone seatIds) := by
  intro r hr r' hr' hp s hs hs'
  obtain ⟨z, hz, rfl⟩ := Table.mem_update.mp hr
  obtain ⟨z', hz', rfl⟩ := Table.mem_update.mp hr'
  have hperf : ∀ z : PricingZone, (if (z.performance == performance) = true then
      if z.id = zone then { z with seats := z.seats ++ seatIds.filter fun s => !z.seats.contains s }
      else { z with seats := z.seats.filter fun s => !seatIds.contains s }
    else z).performance = z.performance := by
    intro z
    split_ifs <;> rfl
  rw [hperf, hperf] at hp
  -- A seat in two zones was in one and the same before: four cases, by which of them claims.
  suffices hsame : z = z' by rw [hsame]
  by_cases hmine : z.performance = performance
  · have hmine' : z'.performance = performance := hp ▸ hmine
    simp only [hmine, hmine', beq_self_eq_true, if_true] at hs hs'
    by_cases hid : z.id = zone <;> by_cases hid' : z'.id = zone
    · exact Table.eq_of_key_eq hz hz' (hid.trans hid'.symm)
    · -- A seat of another zone is not among the claimed ones.
      rw [if_pos hid] at hs
      rw [if_neg hid'] at hs'
      obtain ⟨hold', hnot⟩ := List.mem_filter.mp hs'
      refine h z hz z' hz' hp s ?_ hold'
      rcases List.mem_append.mp hs with hs | hs
      · exact hs
      · exact absurd (List.mem_filter.mp hs).1 (by simpa using hnot)
    · rw [if_neg hid] at hs
      rw [if_pos hid'] at hs'
      obtain ⟨hold, hnot⟩ := List.mem_filter.mp hs
      refine h z hz z' hz' hp s hold ?_
      rcases List.mem_append.mp hs' with hs' | hs'
      · exact hs'
      · exact absurd (List.mem_filter.mp hs').1 (by simpa using hnot)
    · rw [if_neg hid] at hs
      rw [if_neg hid'] at hs'
      exact h z hz z' hz' hp s (List.mem_filter.mp hs).1 (List.mem_filter.mp hs').1
  -- Zones of another performance are left alone.
  · have hother : z'.performance ≠ performance := hp ▸ hmine
    simp only [beq_iff_eq, hmine, hother, if_false] at hs hs'
    exact h z hz z' hz' hp s hs hs'

/-- A claim of seats keeps one zone to a template. -/
theorem OneTemplate.claimSeats (h : OneTemplate zones) (zone : Nat) (seatIds : List Nat) :
    OneTemplate (claimSeats zones performance zone seatIds) :=
  h.update (fun z => by split <;> rfl) fun z => by split <;> rfl

/-- Zones belong to the organization of their performance. -/
def ZonesScoped (db : Db) : Prop :=
  ∀ z ∈ db.pricingZones.rows, ∃ p ∈ db.performances.rows,
    p.id = z.performance ∧ p.organization = z.organization

section Apply

variable {db db' : Db} {organization : Nat} {seatIds : List Nat} {amount : Cents}
  {template : ZoneTemplate}

/-- Applying a zone keeps one zone to a seat. -/
theorem applyZone_oneZone (h : OneZone db.pricingZones)
    (ha : applyZone db organization performance seatIds amount template = .ok db') :
    OneZone db'.pricingZones := by
  unfold applyZone at ha
  split_ifs at ha
  split at ha
  · cases ha
    exact (h.insert rfl).claimSeats _ _
  · cases ha
    refine (h.update ?_ ?_).claimSeats _ _
    · exact fun _ => rfl
    · exact fun _ _ hs => hs
  · cases ha

/-- A zone of the performance and the template is found by its organization as well. -/
theorem zonesOfTemplate_complete (hs : ZonesScoped db) {p : Performance}
    (hp : p ∈ db.performances.rows) (horg : p.organization = organization) {z : PricingZone}
    (hz : z ∈ db.pricingZones.rows) (hperf : z.performance = p.id)
    (ht : z.template = some template.id) :
    z ∈ zonesOfTemplate db organization p.id template.id := by
  obtain ⟨q, hq, hqid, hqorg⟩ := hs z hz
  obtain rfl : q = p := Table.eq_of_key_eq hq hp (hqid.trans hperf)
  simp [zonesOfTemplate, hz, hperf, ht, ← hqorg, horg]

/-- Applying a zone keeps one zone to a template. -/
theorem applyZone_oneTemplate (h : OneTemplate db.pricingZones) (hs : ZonesScoped db)
    {p : Performance} (hp : p ∈ db.performances.rows) (horg : p.organization = organization)
    (ha : applyZone db organization p.id seatIds amount template = .ok db') :
    OneTemplate db'.pricingZones := by
  unfold applyZone at ha
  split_ifs at ha
  split at ha
  case h_1 hnone =>
    cases ha
    refine (h.insert fun z hz hperf ht => ?_).claimSeats _ _
    have hfound := (@zonesOfTemplate_complete _ _ template) hs hp horg hz hperf ht
    rw [hnone] at hfound
    cases hfound
  case h_2 =>
    cases ha
    refine (h.update ?_ ?_).claimSeats _ _
    · exact fun _ => rfl
    · exact fun _ => rfl
  case h_3 => cases ha

/-- `get_or_create` finds at most one zone of a template. -/
theorem zonesOfTemplate_length (h : OneTemplate db.pricingZones) :
    (zonesOfTemplate db organization performance template.id).length ≤ 1 := by
  have hnd : (zonesOfTemplate db organization performance template.id).Nodup :=
    (List.Nodup.of_map _ db.pricingZones.nodup).filter _
  have hmem : ∀ z ∈ zonesOfTemplate db organization performance template.id,
      z ∈ db.pricingZones.rows ∧ z.performance = performance ∧
        z.template = some template.id := by
    intro z hz
    simp only [zonesOfTemplate, List.mem_filter, Bool.and_eq_true, beq_iff_eq] at hz
    exact ⟨hz.1, hz.2.1.2, hz.2.2⟩
  match hl : zonesOfTemplate db organization performance template.id with
  | [] => exact Nat.zero_le 1
  | [_] => exact le_refl 1
  | z :: z' :: l =>
    rw [hl] at hnd hmem
    obtain ⟨hz, hp, ht⟩ := hmem z (by simp)
    obtain ⟨hz', hp', ht'⟩ := hmem z' (by simp)
    have heq := h z hz z' hz' (hp.trans hp'.symm) (ht.trans ht'.symm) (by rw [ht]; exact nofun)
    exact absurd hnd (by simp [heq])

end Apply

/-! ### `clone_zones_from_performance` -/

/-- The zones a clone copies. -/
def sourceZones (db : Db) (organization : Nat) (source : Performance) : List PricingZone :=
  db.pricingZones.rows.filter fun z =>
    z.organization == organization && z.performance == source.id

/-- No seat that the clone brings to the target is in a zone there. -/
def SeatsFree (db : Db) (organization : Nat) (target source : Performance) : Prop :=
  ∀ b ∈ sourceZones db organization source, ∀ s ∈ b.seats,
    s ∈ (performanceSeats db target).map (·.id) →
    ∀ z ∈ db.pricingZones.rows, z.performance = target.id → s ∉ z.seats

/-- No template that the clone brings to the target has a zone there. -/
def TemplatesFree (db : Db) (organization : Nat) (target source : Performance) : Prop :=
  ∀ b ∈ sourceZones db organization source, b.template ≠ none →
    ∀ z ∈ db.pricingZones.rows, z.performance = target.id → z.template ≠ b.template

section Clone

variable {db : Db} {organization : Nat} {target source : Performance}

/-- The zones that a clone takes from. -/
theorem mem_sourceZones {z : PricingZone} :
    z ∈ sourceZones db organization source ↔
      z ∈ db.pricingZones.rows ∧ z.organization = organization ∧ z.performance = source.id := by
  simp [sourceZones]

/-- The zones after a clone: the old ones, and one copy of each source zone. -/
theorem mem_cloneZones {r : PricingZone} :
    r ∈ (cloneZonesFromPerformance db organization target source).pricingZones.rows ↔
      r ∈ db.pricingZones.rows ∨ ∃ n b,
        (orderedBy (fun z : PricingZone => z.name) (sourceZones db organization source))[n]?
          = some b ∧
        r = cloneZone organization target.id ((performanceSeats db target).map (·.id)) b
          (db.pricingZones.nextId + n) := by
  show r ∈ (Table.insertMany _ _ _ _).rows ↔ _
  exact Table.mem_insertMany_iff

/-- The place of a source zone among the copied ones. -/
theorem mem_ordered_sourceZones {b : PricingZone} :
    b ∈ orderedBy (fun z : PricingZone => z.name) (sourceZones db organization source) ↔
      b ∈ sourceZones db organization source :=
  (List.perm_insertionSort _ _).mem_iff

/-- Copies of one zone are one row. -/
theorem clone_place {n m : Nat} {b : PricingZone}
    (hn : (orderedBy (fun z : PricingZone => z.name) (sourceZones db organization source))[n]?
      = some b)
    (hm : (orderedBy (fun z : PricingZone => z.name) (sourceZones db organization source))[m]?
      = some b) : n = m := by
  have hnd : (orderedBy (fun z : PricingZone => z.name)
      (sourceZones db organization source)).Nodup :=
    (List.perm_insertionSort _ _).nodup_iff.mpr
      ((List.Nodup.of_map _ db.pricingZones.nodup).filter _)
  obtain ⟨hn', hnb⟩ := List.getElem?_eq_some_iff.mp hn
  obtain ⟨hm', hmb⟩ := List.getElem?_eq_some_iff.mp hm
  exact (List.Nodup.getElem_inj_iff hnd).mp (hnb.trans hmb.symm)

/-- **A clone and the seats.** The seats stay apart exactly when none that is brought to the
    target is in a zone there. -/
theorem cloneZones_oneZone_iff (h : OneZone db.pricingZones) :
    OneZone (cloneZonesFromPerformance db organization target source).pricingZones ↔
      SeatsFree db organization target source := by
  constructor
  · intro h' b hb s hs hseat z hz hperf hsz
    obtain ⟨n, hn⟩ := List.mem_iff_getElem?.mp (mem_ordered_sourceZones.mpr hb)
    have heq := h' z (mem_cloneZones.mpr (.inl hz)) _ (mem_cloneZones.mpr (.inr ⟨n, b, hn, rfl⟩))
      hperf s hsz (List.mem_filter.mpr ⟨hs, by simpa using hseat⟩)
    -- The copy has a key that was not handed out before.
    have hlt := db.pricingZones.fresh z hz
    rw [heq] at hlt
    exact absurd hlt (Nat.not_lt.mpr (Nat.le_add_right _ _))
  · intro hfree z hz z' hz' hp s hs hs'
    have hcopy : ∀ b : PricingZone, s ∈ (b.seats.filter fun s =>
        ((performanceSeats db target).map (·.id)).contains s) →
        s ∈ b.seats ∧ s ∈ (performanceSeats db target).map (·.id) :=
      fun b hs => ⟨(List.mem_filter.mp hs).1, by simpa using (List.mem_filter.mp hs).2⟩
    rcases mem_cloneZones.mp hz with hz | ⟨n, b, hn, rfl⟩ <;>
      rcases mem_cloneZones.mp hz' with hz' | ⟨m, b', hm, rfl⟩
    · exact h z hz z' hz' hp s hs hs'
    · have hb := mem_ordered_sourceZones.mp (List.mem_of_getElem? hm)
      exact absurd hs (hfree b' hb s (hcopy _ hs').1 (hcopy _ hs').2 z hz hp)
    · have hb := mem_ordered_sourceZones.mp (List.mem_of_getElem? hn)
      exact absurd hs' (hfree b hb s (hcopy _ hs).1 (hcopy _ hs).2 z' hz' hp.symm)
    · have hb := mem_sourceZones.mp (mem_ordered_sourceZones.mp (List.mem_of_getElem? hn))
      have hb' := mem_sourceZones.mp (mem_ordered_sourceZones.mp (List.mem_of_getElem? hm))
      obtain rfl := h b hb.1 b' hb'.1 (hb.2.2.trans hb'.2.2.symm) s (hcopy _ hs).1 (hcopy _ hs').1
      rw [clone_place hn hm]

/-- **A clone and the templates.** -/
theorem cloneZones_oneTemplate_iff (h : OneTemplate db.pricingZones) :
    OneTemplate (cloneZonesFromPerformance db organization target source).pricingZones ↔
      TemplatesFree db organization target source := by
  constructor
  · intro h' b hb hn z hz hperf ht
    obtain ⟨n, hn'⟩ := List.mem_iff_getElem?.mp (mem_ordered_sourceZones.mpr hb)
    have heq := h' z (mem_cloneZones.mpr (.inl hz)) _ (mem_cloneZones.mpr (.inr ⟨n, b, hn', rfl⟩))
      hperf ht (ht ▸ hn)
    have hlt := db.pricingZones.fresh z hz
    rw [heq] at hlt
    exact absurd hlt (Nat.not_lt.mpr (Nat.le_add_right _ _))
  · intro hfree z hz z' hz' hp ht hn
    rcases mem_cloneZones.mp hz with hz | ⟨n, b, hn', rfl⟩ <;>
      rcases mem_cloneZones.mp hz' with hz' | ⟨m, b', hm, rfl⟩
    · exact h z hz z' hz' hp ht hn
    · have hb := mem_ordered_sourceZones.mp (List.mem_of_getElem? hm)
      exact absurd ht (hfree b' hb (ht ▸ hn) z hz hp)
    · have hb := mem_ordered_sourceZones.mp (List.mem_of_getElem? hn')
      exact absurd ht.symm (hfree b hb hn z' hz' hp.symm)
    · have hb := mem_sourceZones.mp (mem_ordered_sourceZones.mp (List.mem_of_getElem? hn'))
      have hb' := mem_sourceZones.mp (mem_ordered_sourceZones.mp (List.mem_of_getElem? hm))
      obtain rfl := h b hb.1 b' hb'.1 (hb.2.2.trans hb'.2.2.symm) ht hn
      rw [clone_place hn' hm]

end Clone

end Steps

end BoxOffice

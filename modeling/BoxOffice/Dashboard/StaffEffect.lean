import BoxOffice.Dashboard.Staff

namespace BoxOffice

open Relational Transition

/-!
# Dashboard — what a staff operation does to carts

`StaffEffect` lists what a staff operation can do to the holds: nothing, null a zone key, drop
seats that a chart save regenerates, or delete the carts of a price tier.  `execStaff_effect`
proves that this is all, with the tables of sales untouched up to nulled keys.

* `DeletesTier` says which price tiers an operation deletes, from the state before it; for the
  price grid this needs that the cells edit different tiers (`savePlans_ok`).
-/

/-! ### The price grid -/

/-- What a cell is about: the performance of an override, and the section. -/
def PricePlan.cell (plan : PricePlan) : Option Nat × Nat := (plan.performance, plan.section_.id)

/-- The tier a blank cell deletes. -/
def blankedTier (db : Db) (organization : Nat) (plan : PricePlan) : Option PriceTier :=
  match plan.amount with
  | none => planTier db organization plan
  | some _ => none

/-- Delete the carts of some price tiers. -/
def deleteTierHolds (holds : Table Hold) (tiers : List Nat) : Table Hold :=
  holds.delete fun h => tiers.any fun t => h.usesTier t

section Grid

variable {columns : PriceColumns} {db db' : Db} {organization : Nat} {plan : PricePlan}

/-- The tier a cell edits is one of its organization, for its performance and section. -/
theorem planTier_some {tier : PriceTier} (h : planTier db organization plan = some tier) :
    tier ∈ db.priceTiers.rows ∧ tier.organization = organization ∧
      (tier.performance, tier.section_) = (plan.performance, some plan.section_.id) := by
  have hmem := (List.perm_insertionSort _ _).mem_iff.mp (List.mem_of_head? h)
  simp only [List.mem_filter, Bool.and_eq_true, beq_iff_eq] at hmem
  exact ⟨hmem.1, hmem.2.1.1, by rw [hmem.2.1.2, hmem.2.2]⟩

/-- Two databases with the same tiers for a cell choose the same tier for it. -/
theorem planTier_congr
    (h : (db'.priceTiers.rows.filter fun t => t.organization == organization
        && t.performance == plan.performance && t.section_ == some plan.section_.id)
      = db.priceTiers.rows.filter fun t => t.organization == organization
        && t.performance == plan.performance && t.section_ == some plan.section_.id) :
    planTier db' organization plan = planTier db organization plan := by
  unfold planTier
  rw [h]

/-- Rewriting a row that a filter rejects, before and after, does not show through it. -/
theorem filter_map_of_rejected {α : Type} {p : α → Bool} {f : α → α} {l : List α}
    (h : ∀ r ∈ l, f r = r ∨ (p r = false ∧ p (f r) = false)) : (l.map f).filter p = l.filter p := by
  induction l with
  | nil => rfl
  | cons r l ih =>
    rw [List.map_cons, List.filter_cons, List.filter_cons, ih fun x hx => h x (by simp [hx])]
    rcases h r (by simp) with hr | ⟨hr, hfr⟩
    · rw [hr]
    · rw [hr, hfr]; rfl

/-- Saving a cell does not show through a filter that rejects the tiers of the cell. -/
theorem savePlan_filter {p : PriceTier → Bool}
    (hreject : ∀ t : PriceTier, t.organization = organization →
      (t.performance, t.section_) = (plan.performance, some plan.section_.id) → p t = false)
    (h : savePlan columns db organization plan = .ok db') :
    db'.priceTiers.rows.filter p = db.priceTiers.rows.filter p := by
  cases savePlan_effect h with
  | kept => rfl
  | @cleared tier ha ht =>
    obtain ⟨htier, horg, hcell⟩ := planTier_some ht
    show List.filter _ (List.filter _ _) = _
    rw [List.filter_filter]
    refine List.filter_congr fun t hmem => ?_
    -- The tier that goes is one of the cell, which the filter rejects anyway.
    by_cases hid : t.id = tier.id
    · rw [Table.eq_of_key_eq hmem htier hid, hreject tier horg hcell, Bool.false_and]
    · simp [hid]
  | @repriced tier amount ha ht =>
    obtain ⟨htier, horg, hcell⟩ := planTier_some ht
    refine filter_map_of_rejected fun t hmem => ?_
    -- So is the one that is repriced, before and after.
    by_cases hid : t.id = tier.id
    · right
      rw [Table.eq_of_key_eq hmem htier hid]
      refine ⟨hreject tier horg hcell, ?_⟩
      split
      · exact hreject _ horg hcell
      · exact hreject tier horg hcell
    · left
      rw [if_neg (by simpa using hid)]
  | @priced amount =>
    rw [Table.insert_rows, List.filter_append, List.filter_cons,
      hreject (planNewTier organization plan amount _) rfl rfl]
    simp

/-- Saving one cell does not change which tier another cell edits. -/
theorem planTier_savePlan {other : PricePlan} (hne : plan.cell ≠ other.cell)
    (h : savePlan columns db organization plan = .ok db') :
    planTier db' organization other = planTier db organization other := by
  refine planTier_congr (savePlan_filter (fun t _ ht => ?_) h)
  -- A tier of this cell is not a tier of the other one.
  rw [Prod.mk.injEq] at ht
  by_contra hp
  simp only [Bool.not_eq_false, Bool.and_eq_true, beq_iff_eq] at hp
  refine hne ?_
  have hsec : some plan.section_.id = some other.section_.id := ht.2.symm.trans hp.2
  unfold PricePlan.cell
  rw [← ht.1, hp.1.2, Option.some.inj hsec]

/-- Without a deleted tier all carts stay. -/
theorem deleteTierHolds_nil (holds : Table Hold) : deleteTierHolds holds [] = holds :=
  Table.delete_eq_self fun _ _ => rfl

/-- One deleted tier takes the carts that use it. -/
theorem deleteTierHolds_singleton (holds : Table Hold) (t : Nat) :
    deleteTierHolds holds [t] = holds.delete (Hold.usesTier t) := by
  unfold deleteTierHolds
  congr 1
  funext h
  simp

/-- Tiers can be deleted one list after another. -/
theorem deleteTierHolds_append (holds : Table Hold) (ts us : List Nat) :
    deleteTierHolds (deleteTierHolds holds ts) us = deleteTierHolds holds (ts ++ us) := by
  refine Table.ext ?_ rfl
  show List.filter _ (List.filter _ _) = List.filter _ _
  rw [List.filter_filter]
  refine List.filter_congr fun h _ => ?_
  beta_reduce
  rw [List.any_append, Bool.not_or, Bool.and_comm]

/-- The carts that stay use none of the deleted tiers. -/
theorem mem_deleteTierHolds {holds : Table Hold} {ts : List Nat} {h : Hold} :
    h ∈ (deleteTierHolds holds ts).rows ↔ h ∈ holds.rows ∧ ∀ t ∈ ts, h.usesTier t = false := by
  unfold deleteTierHolds
  rw [Table.mem_delete, List.any_eq_false]
  simp only [Bool.not_eq_true]

/-- One cell writes price tiers and deletes the carts of the tier it blanks. -/
theorem savePlan_ok (h : savePlan columns db organization plan = .ok db') :
    (∀ tier ∈ blankedTier db organization plan, tierProtected db tier.id = false) ∧
      ∃ tiers, db' = { db with
        priceTiers := tiers
        holds := deleteTierHolds db.holds
          ((blankedTier db organization plan).map (·.id)).toList } := by
  unfold blankedTier
  cases savePlan_effect h with
  | kept ha ht =>
    rw [ha]
    -- Only a cell that is blanked deletes a tier, and with it the carts that had chosen it.
    refine ⟨fun tier hmem => by simp [ht] at hmem, ?_⟩
    simp only [ht, Option.map_none, Option.toList_none, deleteTierHolds_nil]
    exact ⟨_, rfl⟩
  | @cleared tier ha ht hfree =>
    rw [ha]
    refine ⟨fun x hx => ?_, ?_⟩
    · simp only [ht, Option.mem_def, Option.some.injEq] at hx
      rw [← hx]
      exact hfree
    · simp only [ht, Option.map_some, Option.toList_some, deleteTierHolds_singleton]
      exact ⟨_, rfl⟩
  | repriced ha =>
    rw [ha]
    refine ⟨fun tier ht => by simp at ht, ?_⟩
    simp only [Option.map_none, Option.toList_none, deleteTierHolds_nil]
    exact ⟨_, rfl⟩
  | priced ha =>
    rw [ha]
    refine ⟨fun tier ht => by simp at ht, ?_⟩
    simp only [Option.map_none, Option.toList_none, deleteTierHolds_nil]
    exact ⟨_, rfl⟩

/-- Carts of general-admission places hold no seats. -/
def GaSeatless (db : Db) : Prop := ∀ h ∈ db.holds.rows, h.ga ≠ none → h.holdSeats = []

/-- Deleting the carts of a tier releases no protected tier: such carts have no seats. -/
theorem tierProtected_deleteTierHolds (hga : GaSeatless db) {tiers : Table PriceTier}
    {ts : List Nat} (t : Nat) :
    tierProtected { db with priceTiers := tiers, holds := deleteTierHolds db.holds ts } t
      = tierProtected db t := by
  unfold tierProtected
  congr 1
  rw [Bool.eq_iff_iff, List.any_eq_true, List.any_eq_true]
  constructor
  · rintro ⟨h, hmem, hu⟩
    exact ⟨h, (mem_deleteTierHolds.mp hmem).1, hu⟩
  · rintro ⟨h, hmem, hu⟩
    refine ⟨h, mem_deleteTierHolds.mpr ⟨hmem, fun u _ => ?_⟩, hu⟩
    unfold Hold.usesTier
    cases hg : h.ga with
    | none => rfl
    | some g =>
      have hnone : h.holdSeats = [] := hga h hmem (by simp [hg])
      simp [Hold.seatUsesTier, hnone] at hu

/-- **The price grid.** A save that goes through blanked no protected tier; it writes price
    tiers and deletes the carts of exactly the tiers its blank cells chose. -/
theorem savePlans_ok {plans : List PricePlan} (hga : GaSeatless db)
    (hcells : plans.Pairwise fun p q => p.cell ≠ q.cell)
    (h : savePlans columns db organization plans = .ok db') :
    (∀ plan ∈ plans, ∀ tier ∈ blankedTier db organization plan,
        tierProtected db tier.id = false) ∧
      ∃ tiers, db' = { db with
        priceTiers := tiers
        holds := deleteTierHolds db.holds
          ((plans.filterMap (blankedTier db organization)).map (·.id)) } := by
  induction plans generalizing db with
  | nil =>
    cases h
    refine ⟨fun _ hp => by simp at hp, db'.priceTiers, ?_⟩
    rw [List.filterMap_nil, List.map_nil, deleteTierHolds_nil]
  | cons plan rest ih =>
    rw [List.pairwise_cons] at hcells
    unfold savePlans at h
    cases hp : savePlan columns db organization plan with
    | error e => simp only [hp] at h; cases h
    | ok db₁ =>
      simp only [hp] at h
      -- The other cells choose the same tiers as before.
      have hsame : ∀ q ∈ rest, blankedTier db₁ organization q = blankedTier db organization q := by
        intro q hq
        unfold blankedTier
        rw [planTier_savePlan (hcells.1 q hq) hp]
      obtain ⟨hfree, tiers, rfl⟩ := savePlan_ok hp
      obtain ⟨hfree', tiers', rfl⟩ := ih
        (fun x hx => hga x (mem_deleteTierHolds.mp hx).1) hcells.2 h
      refine ⟨?_, tiers', ?_⟩
      · intro q hq tier ht
        rcases List.mem_cons.mp hq with rfl | hq
        · exact hfree tier ht
        · have := hfree' q hq tier (by rw [hsame q hq]; exact ht)
          rwa [tierProtected_deleteTierHolds hga] at this
      · rw [List.filterMap_congr hsame]
        simp only [deleteTierHolds_append]
        congr 2
        rw [List.filterMap_cons]
        cases blankedTier db organization plan <;> rfl

end Grid

/-- The cells of one section are about its default and its override. -/
theorem planSection_cell {performance : Nat} {section_ : Section}
    {cells : PriceCell × PriceCell} {plan : PricePlan}
    (h : plan ∈ (planSection performance section_ cells).1) : plan.section_ = section_ := by
  unfold planSection at h
  dsimp only at h
  rw [List.mem_append] at h
  rcases h with h | h <;> split at h <;> simp at h <;> rw [h]

/-- The two cells of a section are different. -/
theorem planSection_pairwise (performance : Nat) (section_ : Section)
    (cells : PriceCell × PriceCell) :
    (planSection performance section_ cells).1.Pairwise fun p q => p.cell ≠ q.cell := by
  unfold planSection
  dsimp only
  cases parsePrice cells.1 <;> cases parsePrice cells.2 <;> simp [PricePlan.cell]

/-- The cells of the grid are about different tiers. -/
theorem reservedPlans_pairwise (db : Db) (performance : Performance)
    (cells : Nat → PriceCell × PriceCell) :
    (reservedPlans db performance cells).Pairwise fun p q => p.cell ≠ q.cell := by
  have hnodup : (chartSections db performance).Pairwise fun s u => s.id ≠ u.id := by
    unfold chartSections
    cases getSeatingChart db performance with
    | none => exact List.Pairwise.nil
    | some chart =>
      exact (List.pairwise_map.mp db.sections.nodup).filter _
  unfold reservedPlans
  rw [List.pairwise_flatten]
  refine ⟨?_, ?_⟩
  · intro l hl
    obtain ⟨s, -, rfl⟩ := List.mem_map.mp hl
    exact planSection_pairwise _ _ _
  · rw [List.pairwise_map]
    refine hnodup.imp fun {s u} hne p hp q hq heq => hne ?_
    have hsec : p.section_.id = q.section_.id := (Prod.mk.inj heq).2
    rw [planSection_cell hp, planSection_cell hq] at hsec
    exact hsec

/-! ### Effects -/

/-- The price tiers an operation deletes. -/
def DeletesTier (op : StaffOp) (db : Db) (t : Nat) : Prop :=
  match op with
  | .deletePriceTier priceTier => t = priceTier ∧ tierProtected db priceTier = false
  | .saveReservedPrices _ organization performance cells =>
    ∃ p, findPerformance db organization performance = some p ∧
      (∀ s ∈ chartSections db p, (planSection p.id s (cells s.id)).2 = []) ∧
      (∀ plan ∈ reservedPlans db p cells, ∀ tier ∈ blankedTier db organization plan,
        tierProtected db tier.id = false) ∧
      ∃ plan ∈ reservedPlans db p cells, ∃ tier ∈ blankedTier db organization plan, tier.id = t
  | _ => False

/-- The tables of sales are as they were, up to keys that were nulled. -/
structure SalesKept (db db' : Db) : Prop where
  orders : db'.orders = db.orders
  payments : db'.payments = db.payments
  orderItems : ∀ i ∈ db'.orderItems.rows, ∃ j ∈ db.orderItems.rows, i.order = j.order
  tickets : ∀ t ∈ db'.tickets.rows, ∃ u ∈ db.tickets.rows, t.order = u.order

/-- What a staff operation can do to the holds. -/
inductive StaffEffect (trig : Trig) (op : StaffOp) (db db' : Db) : Prop
  /-- Nothing. -/
  | same : db'.holds = db.holds → StaffEffect trig op db db'
  /-- The keys to a deleted zone are nulled. -/
  | zone (zone : Nat) : db'.holds = db.holds.update (fun _ => true) (Hold.dropZone zone) →
      StaffEffect trig op db db'
  /-- The seats of a regenerated section are dropped. -/
  | seats (section_ : Section) (removed accessible : List SeatIdentity) :
      op = .saveSection section_ removed accessible →
      Regenerates trig db section_ removed accessible →
      db'.holds = db.holds.update (fun _ => true)
        (Hold.dropSeats ((seatsOf db section_.id).map (·.id))) → StaffEffect trig op db db'
  /-- The carts of deleted price tiers are gone. -/
  | tiers (ts : List Nat) : (∀ t ∈ ts, DeletesTier op db t) →
      db'.holds = deleteTierHolds db.holds ts → StaffEffect trig op db db'

section Effects

variable {trig : Trig} {columns : PriceColumns} {db db' : Db}

/-- The sales depend on four tables only. -/
theorem SalesKept.of_eq (ho : db'.orders = db.orders) (hp : db'.payments = db.payments)
    (hi : db'.orderItems = db.orderItems) (ht : db'.tickets = db.tickets) : SalesKept db db' where
  orders := ho
  payments := hp
  orderItems := fun i hmem => ⟨i, hi ▸ hmem, rfl⟩
  tickets := fun t hmem => ⟨t, ht ▸ hmem, rfl⟩

/-- Deleting seats keeps the sales. -/
theorem deleteSeats_kept {ids : List Nat} (h : deleteSeats db ids = .ok db') :
    SalesKept db db' := by
  obtain ⟨-, rfl⟩ := deleteSeats_ok h
  refine ⟨rfl, rfl, fun i hi => ⟨i, hi, rfl⟩, fun t ht => ?_⟩
  obtain ⟨u, hu, rfl⟩ := List.mem_map.mp ht
  exact ⟨u, hu, rfl⟩

/-- Deleting a zone keeps the sales. -/
theorem deletePricingZone_kept (db : Db) (zone : Nat) :
    SalesKept db (deletePricingZone db zone) := by
  refine ⟨rfl, rfl, fun i hi => ?_, fun t ht => ⟨t, ht, rfl⟩⟩
  obtain ⟨j, hj, rfl⟩ := List.mem_map.mp hi
  exact ⟨j, hj, rfl⟩

/-- What the save of a section does to the staff's database. -/
theorem saveSection_effect (section_ : Section) (removed accessible : List SeatIdentity) :
    StaffEffect trig (.saveSection section_ removed accessible) db
        (keepOnError db (saveSection trig db section_ removed accessible)) ∧
      SalesKept db (keepOnError db (saveSection trig db section_ removed accessible)) := by
  cases hs : saveSection trig db section_ removed accessible with
  | error e => exact ⟨.same rfl, .of_eq rfl rfl rfl rfl⟩
  | ok db' =>
    rcases saveSection_ok hs with ⟨seats, sections, rfl⟩ | ⟨hreg, db₁, seats, sections, hd, rfl⟩
    · exact ⟨.same rfl, .of_eq rfl rfl rfl rfl⟩
    · have hkept := deleteSeats_kept hd
      refine ⟨.seats section_ removed accessible rfl hreg ?_, ?_⟩
      · obtain ⟨-, rfl⟩ := deleteSeats_ok hd
        rfl
      · exact ⟨hkept.orders, hkept.payments, hkept.orderItems, hkept.tickets⟩

/-- What the deletion of a tier does to it. -/
theorem deletePriceTier_effect (priceTier : Nat) :
    StaffEffect trig (.deletePriceTier priceTier) db
        (keepOnError db (deletePriceTier db priceTier)) ∧
      SalesKept db (keepOnError db (deletePriceTier db priceTier)) := by
  cases hd : deletePriceTier db priceTier with
  | error e => exact ⟨.same rfl, .of_eq rfl rfl rfl rfl⟩
  | ok db' =>
    obtain ⟨hfree, rfl⟩ := deletePriceTier_ok hd
    refine ⟨.tiers [priceTier] (fun t ht => ?_) (deleteTierHolds_singleton _ _).symm,
      .of_eq rfl rfl rfl rfl⟩
    exact ⟨List.mem_singleton.mp ht, hfree⟩

/-- What the price grid does to it. -/
theorem saveReservedPrices_effect (hga : GaSeatless db) {organization performance : Nat}
    {cells : Nat → PriceCell × PriceCell} {p : Performance}
    (hp : findPerformance db organization performance = some p) :
    let db' := keepOnError db
      ((saveReservedPrices columns db organization p.id (chartSections db p) cells).map (·.1))
    StaffEffect trig (.saveReservedPrices columns organization performance cells) db db' ∧
      SalesKept db db' := by
  unfold saveReservedPrices
  dsimp only
  split_ifs with herr
  · exact ⟨.same rfl, .of_eq rfl rfl rfl rfl⟩
  · rw [not_not] at herr
    have hplans : (((chartSections db p).map fun s => planSection p.id s (cells s.id)).map
        (·.1)).flatten = reservedPlans db p cells := by
      rw [List.map_map]
      rfl
    rw [hplans]
    cases hs : savePlans columns db organization (reservedPlans db p cells) with
    | error e => exact ⟨.same rfl, .of_eq rfl rfl rfl rfl⟩
    | ok db' =>
      obtain ⟨hfree, tiers, rfl⟩ := savePlans_ok hga (reservedPlans_pairwise db p cells) hs
      refine ⟨.tiers _ (fun t ht => ?_) rfl, .of_eq rfl rfl rfl rfl⟩
      obtain ⟨tier, htier, rfl⟩ := List.mem_map.mp ht
      obtain ⟨plan, hplan, hblank⟩ := List.mem_filterMap.mp htier
      refine ⟨p, hp, fun s hs => ?_, hfree, plan, hplan, tier, hblank, rfl⟩
      rw [List.flatten_eq_nil_iff] at herr
      exact herr _ (List.mem_map.mpr ⟨_, List.mem_map.mpr ⟨s, hs, rfl⟩, rfl⟩)

/-- **Staff effects.** This is everything a staff operation can do to carts, and sales are
    kept. -/
theorem execStaff_effect (hga : GaSeatless db) (op : StaffOp) :
    StaffEffect trig op db (execStaff trig op db) ∧ SalesKept db (execStaff trig op db) := by
  cases op with
  | saveSection section_ removed accessible => exact saveSection_effect section_ removed accessible
  | applyZone organization performance seatIds amount template =>
    simp only [execStaff]
    cases h : applyZone db organization performance seatIds amount template with
    | error e => exact ⟨.same rfl, .of_eq rfl rfl rfl rfl⟩
    | ok db' =>
      obtain ⟨zones, rfl⟩ := applyZone_ok h
      exact ⟨.same rfl, .of_eq rfl rfl rfl rfl⟩
  -- Zones, tiers and codes are changed beside the carts, unless carts refer to what is deleted.
  | removeSeatsFromZone zone seatIds => exact ⟨.same rfl, .of_eq rfl rfl rfl rfl⟩
  | deleteZone zone => exact ⟨.zone zone rfl, deletePricingZone_kept db zone⟩
  | cloneZones organization target source =>
    simp only [execStaff]
    split
    · exact ⟨.same rfl, .of_eq rfl rfl rfl rfl⟩
    · exact ⟨.same rfl, .of_eq rfl rfl rfl rfl⟩
  | getOrCreateTemplate organization name color => exact ⟨.same rfl, .of_eq rfl rfl rfl rfl⟩
  | saveReservedPrices columns organization performance cells =>
    simp only [execStaff]
    cases hp : findPerformance db organization performance with
    | none => exact ⟨.same rfl, .of_eq rfl rfl rfl rfl⟩
    | some p => exact saveReservedPrices_effect hga hp
  | addPriceTier organization performance name amount currency =>
    simp only [execStaff]
    split
    · exact ⟨.same rfl, .of_eq rfl rfl rfl rfl⟩
    · exact ⟨.same rfl, .of_eq rfl rfl rfl rfl⟩
  | editPriceTier priceTier name amount currency => exact ⟨.same rfl, .of_eq rfl rfl rfl rfl⟩
  | deletePriceTier priceTier => exact deletePriceTier_effect priceTier
  | createPromoCode organization form => exact ⟨.same rfl, .of_eq rfl rfl rfl rfl⟩
  | savePromoCode promo form => exact ⟨.same rfl, .of_eq rfl rfl rfl rfl⟩
  | promoDeactivate promo => exact ⟨.same rfl, .of_eq rfl rfl rfl rfl⟩
  | donationSettings organization name isActive => exact ⟨.same rfl, .of_eq rfl rfl rfl rfl⟩

end Effects

end BoxOffice

import BoxOffice.Dashboard.Staff
import BoxOffice.Events.Partition

namespace BoxOffice

open Relational Transition

/-!
# Dashboard — the zone editor

Any sequence of zone operations, and of price, code and campaign edits between them, on
performances that start without zones.

* `zoneDesk` is the system; its steps are staff operations other than a chart save, and
  `apply_zone` is given a performance of its organization;
* `zones_partition` — the zones stay a partition as long as every clone brings seats and
  templates that the target does not have yet;
* `clone_repeated` — a second clone onto the same target ends it.
-/

/-- What the callers have looked up, for an operation that leaves the room alone. -/
def Scoped (db : Db) : StaffOp → Prop
  | .saveSection _ _ _ => False
  | .applyZone organization performance _ _ _ =>
    (findPerformance db organization performance).isSome
  | _ => True

/-- A seat belongs to the organization of its section. -/
def SeatsScoped (db : Db) : Prop :=
  ∀ s ∈ db.seats.rows, ∀ x, db.sections.get? s.section_ = some x → x.organization = s.organization

/-- Charts, performances and prices, and no zone yet. -/
def Unzoned (db : Db) : Prop := db.pricingZones.rows = [] ∧ SeatsScoped db

/-- The zone editor and the price forms, from performances without zones. -/
def zoneDesk (trig : Trig) : System Db StaffOp := .ofFun Unzoned Scoped (execStaff trig)

/-- A clone that brings only seats without a zone. -/
def BringsFreeSeats (db : Db) : StaffOp → Prop
  | .cloneZones organization target source =>
    ∀ t s, findPerformance db organization target = some t →
      findPerformance db organization source = some s → SeatsFree db organization t s
  | _ => True

/-- A clone that brings only templates without a zone. -/
def BringsFreeTemplates (db : Db) : StaffOp → Prop
  | .cloneZones organization target source =>
    ∀ t s, findPerformance db organization target = some t →
      findPerformance db organization source = some s → TemplatesFree db organization t s
  | _ => True

/-! ### What the operations leave alone -/

/-- Performances, sections and seats are as they were. -/
structure RoomKept (db db' : Db) : Prop where
  performances : db'.performances = db.performances
  sections : db'.sections = db.sections
  seats : db'.seats = db.seats

/-- The room and the zones are as they were. -/
structure ZonesKept (db db' : Db) : Prop extends RoomKept db db' where
  pricingZones : db'.pricingZones = db.pricingZones

section Frame

variable {columns : PriceColumns} {db db' db'' : Db} {organization : Nat} {trig : Trig} {op : StaffOp}

/-- Nothing was changed. -/
theorem ZonesKept.refl (db : Db) : ZonesKept db db := ⟨⟨rfl, rfl, rfl⟩, rfl⟩

/-- Zones kept twice are kept. -/
theorem ZonesKept.trans (h : ZonesKept db db') (h' : ZonesKept db' db'') : ZonesKept db db'' :=
  ⟨⟨h'.performances.trans h.performances, h'.sections.trans h.sections,
    h'.seats.trans h.seats⟩, h'.pricingZones.trans h.pricingZones⟩

/-- Deleting a tier keeps the zones. -/
theorem deletePriceTier_zones {priceTier : Nat} (h : deletePriceTier db priceTier = .ok db') :
    ZonesKept db db' := by
  obtain ⟨-, rfl⟩ := deletePriceTier_ok h
  exact ⟨⟨rfl, rfl, rfl⟩, rfl⟩

/-- Saving a cell of the price grid keeps the zones. -/
theorem savePlan_zones {plan : PricePlan} (h : savePlan columns db organization plan = .ok db') :
    ZonesKept db db' := by
  cases savePlan_effect h <;> exact ⟨⟨rfl, rfl, rfl⟩, rfl⟩

/-- Saving the grid keeps the zones. -/
theorem savePlans_zones {plans : List PricePlan}
    (h : savePlans columns db organization plans = .ok db') :
    ZonesKept db db' := by
  induction plans generalizing db with
  | nil => cases h; exact .refl _
  | cons plan rest ih =>
    unfold savePlans at h
    rcases hp : savePlan columns db organization plan with e | db₁
    · simp only [hp] at h; cases h
    · simp only [hp] at h
      exact (savePlan_zones hp).trans (ih h)

/-- A failed operation keeps the zones too. -/
theorem keepOnError_zones {r : Except ServiceError Db} (h : ∀ db', r = .ok db' → ZonesKept db db') :
    ZonesKept db (keepOnError db r) := by
  cases r with
  | error e => exact .refl _
  | ok db' => exact h db' rfl

/-- So does the whole request for the grid. -/
theorem saveReservedPrices_zones (columns : PriceColumns) (db : Db) (organization performance : Nat)
    (sections : List Section) (cells : Nat → PriceCell × PriceCell) :
    ZonesKept db (keepOnError db
      ((saveReservedPrices columns db organization performance sections cells).map (·.1))) := by
  refine keepOnError_zones fun db' h => ?_
  unfold saveReservedPrices at h
  dsimp only at h
  split_ifs at h
  · cases h
    exact .refl _
  · rcases hs : savePlans columns db organization
      ((sections.map fun s => planSection performance s (cells s.id)).map (·.1)).flatten with e | d
    · rw [hs] at h; cases h
    · rw [hs] at h
      cases h
      exact savePlans_zones hs

/-- The operations on zones. -/
def StaffOp.EditsZones : StaffOp → Prop
  | .applyZone .. | .removeSeatsFromZone .. | .deleteZone _ | .cloneZones .. => True
  | _ => False

/-- **Price, code and campaign edits** leave room and zones alone. -/
theorem execStaff_zonesKept (hs : Scoped db op) (hz : ¬op.EditsZones) :
    ZonesKept db (execStaff trig op db) := by
  cases op with
  | saveSection => exact hs.elim
  | applyZone => exact absurd trivial hz
  | removeSeatsFromZone => exact absurd trivial hz
  | deleteZone => exact absurd trivial hz
  | cloneZones => exact absurd trivial hz
  | saveReservedPrices columns organization performance cells =>
    simp only [execStaff]
    split
    · exact saveReservedPrices_zones ..
    · exact .refl _
  | addPriceTier organization performance name amount currency =>
    simp only [execStaff]
    split
    · exact ⟨⟨rfl, rfl, rfl⟩, rfl⟩
    · exact .refl _
  | deletePriceTier priceTier => exact keepOnError_zones fun _ h => deletePriceTier_zones h
  | getOrCreateTemplate => exact ⟨⟨rfl, rfl, rfl⟩, rfl⟩
  | editPriceTier => exact ⟨⟨rfl, rfl, rfl⟩, rfl⟩
  | createPromoCode => exact ⟨⟨rfl, rfl, rfl⟩, rfl⟩
  | savePromoCode => exact ⟨⟨rfl, rfl, rfl⟩, rfl⟩
  | promoDeactivate => exact ⟨⟨rfl, rfl, rfl⟩, rfl⟩
  | donationSettings => exact ⟨⟨rfl, rfl, rfl⟩, rfl⟩

/-- Every operation of the desk keeps performances, sections and seats. -/
theorem execStaff_room (hs : Scoped db op) : RoomKept db (execStaff trig op db) := by
  by_cases hz : op.EditsZones
  · cases op with
    | applyZone organization performance seatIds amount template =>
      simp only [execStaff]
      rcases ha : applyZone db organization performance seatIds amount template with e | db'
      · exact ⟨rfl, rfl, rfl⟩
      · obtain ⟨zones, rfl⟩ := applyZone_ok ha
        exact ⟨rfl, rfl, rfl⟩
    | removeSeatsFromZone => exact ⟨rfl, rfl, rfl⟩
    | deleteZone => exact ⟨rfl, rfl, rfl⟩
    | cloneZones =>
      simp only [execStaff]
      split <;> exact ⟨rfl, rfl, rfl⟩
    | _ => exact hz.elim
  · exact (execStaff_zonesKept hs hz).toRoomKept

/-! ### The step -/

/-- Zones stay with the organization of their performance when every row after a step has the
    keys of a row before it, or of a performance. -/
theorem ZonesScoped.of_rows (h : ZonesScoped db) (hp : db'.performances = db.performances)
    (hrows : ∀ r ∈ db'.pricingZones.rows,
      (∃ z ∈ db.pricingZones.rows,
        z.performance = r.performance ∧ z.organization = r.organization) ∨
      ∃ p ∈ db.performances.rows, p.id = r.performance ∧ p.organization = r.organization) :
    ZonesScoped db' := by
  intro r hr
  rw [hp]
  rcases hrows r hr with ⟨z, hz, hperf, horg⟩ | hfound
  · rw [← hperf, ← horg]
    exact h z hz
  · exact hfound

/-- A claim of seats moves no zone to another performance or organization. -/
theorem mem_claimSeats {zones : Table PricingZone} {performance zone : Nat} {seatIds : List Nat}
    {r : PricingZone} (h : r ∈ (claimSeats zones performance zone seatIds).rows) :
    ∃ z ∈ zones.rows, z.performance = r.performance ∧ z.organization = r.organization := by
  obtain ⟨z, hz, rfl⟩ := Table.mem_update.mp h
  refine ⟨z, hz, ?_⟩
  split_ifs <;> exact ⟨rfl, rfl⟩

/-- An applied zone belongs to its performance. -/
theorem applyZone_scoped {performance : Nat} {seatIds : List Nat} {amount : Cents}
    {template : ZoneTemplate} (h : ZonesScoped db) {p : Performance}
    (hp : p ∈ db.performances.rows) (hid : p.id = performance)
      (horg : p.organization = organization)
    (ha : applyZone db organization performance seatIds amount template = .ok db') :
    ZonesScoped db' := by
  unfold applyZone at ha
  split_ifs at ha
  split at ha
  · cases ha
    refine h.of_rows rfl fun r hr => ?_
    obtain ⟨z, hz, hperf, horg'⟩ := mem_claimSeats hr
    rcases Table.mem_insert.mp hz with hz | rfl
    · exact .inl ⟨z, hz, hperf, horg'⟩
    · exact .inr ⟨p, hp, hid.trans hperf, horg.trans horg'⟩
  · cases ha
    refine h.of_rows rfl fun r hr => .inl ?_
    obtain ⟨z, hz, hperf, horg'⟩ := mem_claimSeats hr
    obtain ⟨x, hx, rfl⟩ := Table.mem_update.mp hz
    refine ⟨x, hx, ?_⟩
    rw [← hperf, ← horg']
    split_ifs <;> exact ⟨rfl, rfl⟩
  · cases ha

/-- **The step.** Every operation keeps the zones in their scope. -/
theorem execStaff_scoped (hs : Scoped db op) (h : ZonesScoped db) :
    ZonesScoped (execStaff trig op db) := by
  by_cases hz : op.EditsZones
  · cases op with
    | applyZone organization performance seatIds amount template =>
      simp only [execStaff]
      rcases ha : applyZone db organization performance seatIds amount template with e | db'
      · exact h
      -- The performance belongs to the organization that the zone is made for.
      · obtain ⟨p, hp⟩ := Option.isSome_iff_exists.mp hs
        obtain ⟨hmem, horg⟩ := findPerformance_some hp
        exact applyZone_scoped h hmem (findPerformance_id hp) horg ha
    | removeSeatsFromZone zone seatIds =>
      refine h.of_rows rfl fun r hr => .inl ?_
      obtain ⟨z, hz, rfl⟩ := (Table.mem_update (f := PricingZone.dropSeats seatIds)
        (k := fun _ => rfl)).mp hr
      refine ⟨z, hz, ?_⟩
      split_ifs <;> exact ⟨rfl, rfl⟩
    | deleteZone zone =>
      exact h.of_rows rfl fun r hr => .inl ⟨r, (Table.mem_delete.mp hr).1, rfl, rfl⟩
    | cloneZones organization target source =>
      simp only [execStaff]
      split
      case h_1 t s ht hsource =>
        obtain ⟨hmem, horg⟩ := findPerformance_some ht
        refine h.of_rows rfl fun r hr => ?_
        -- A clone is put beside the zones of its target.
        rcases mem_cloneZones.mp hr with hr | ⟨n, b, -, rfl⟩
        · exact .inl ⟨r, hr, rfl, rfl⟩
        · exact .inr ⟨t, hmem, rfl, horg⟩
      case h_2 => exact h
    | _ => exact hz.elim
  · have hk := (@execStaff_zonesKept _ trig) hs hz
    refine h.of_rows hk.performances fun r hr => .inl ⟨r, ?_, rfl, rfl⟩
    rwa [hk.pricingZones] at hr

/-- **The step.** Every operation that brings free seats keeps one zone to a seat. -/
theorem execStaff_oneZone (hs : Scoped db op) (hc : BringsFreeSeats db op)
    (h : OneZone db.pricingZones) : OneZone (execStaff trig op db).pricingZones := by
  by_cases hz : op.EditsZones
  · cases op with
    | applyZone organization performance seatIds amount template =>
      simp only [execStaff]
      rcases ha : applyZone db organization performance seatIds amount template with e | db'
      · exact h
      · exact applyZone_oneZone h ha
    | removeSeatsFromZone zone seatIds =>
      exact h.update (f := PricingZone.dropSeats seatIds) (k := fun _ => rfl) (fun _ => rfl)
        fun _ _ hs => (List.mem_filter.mp hs).1
    | deleteZone zone => exact h.delete _
    | cloneZones organization target source =>
      simp only [execStaff]
      split
      case h_1 t s ht hsource => exact (cloneZones_oneZone_iff h).mpr (hc t s ht hsource)
      case h_2 => exact h
    | _ => exact hz.elim
  · rw [(execStaff_zonesKept hs hz).pricingZones]
    exact h

/-- **The step.** Every operation that brings free templates keeps one zone to a template. -/
theorem execStaff_oneTemplate (hs : Scoped db op) (hc : BringsFreeTemplates db op)
    (hsc : ZonesScoped db) (h : OneTemplate db.pricingZones) :
    OneTemplate (execStaff trig op db).pricingZones := by
  by_cases hz : op.EditsZones
  · cases op with
    | applyZone organization performance seatIds amount template =>
      simp only [execStaff]
      rcases ha : applyZone db organization performance seatIds amount template with e | db'
      · exact h
      · obtain ⟨p, hp⟩ := Option.isSome_iff_exists.mp hs
        obtain ⟨hmem, horg⟩ := findPerformance_some hp
        obtain rfl := findPerformance_id hp
        exact applyZone_oneTemplate h hsc hmem horg ha
    | removeSeatsFromZone zone seatIds =>
      exact h.update (f := PricingZone.dropSeats seatIds) (k := fun _ => rfl) (fun _ => rfl)
        fun _ => rfl
    | deleteZone zone => exact h.delete _
    | cloneZones organization target source =>
      simp only [execStaff]
      split
      case h_1 t s ht hsource => exact (cloneZones_oneTemplate_iff h).mpr (hc t s ht hsource)
      case h_2 => exact h
    | _ => exact hz.elim
  · rw [(execStaff_zonesKept hs hz).pricingZones]
    exact h

end Frame

/-! ### The partition -/

section Runs

variable {trig : Trig} {db : Db}

/-- **The run.** Zones stay with the organization of their performance, and seats with that of
    their section. -/
theorem zoneDesk_scoped {C : Db → StaffOp → Prop} (h : Reachable ((zoneDesk trig).restrict C) db) :
    ZonesScoped db ∧ SeatsScoped db := by
  refine h.invariant (I := fun db => ZonesScoped db ∧ SeatsScoped db) ?_ ?_
  · rintro db ⟨hnone, hseats⟩
    exact ⟨fun z hz => absurd (hnone ▸ hz) List.not_mem_nil, hseats⟩
  · rintro u op v ⟨hz, hs⟩ ⟨⟨hsc, rfl⟩, -⟩
    refine ⟨execStaff_scoped hsc hz, fun s hmem x hx => ?_⟩
    have hroom := (@execStaff_room _ trig) hsc
    rw [hroom.seats] at hmem
    rw [hroom.sections] at hx
    exact hs s hmem x hx

/-- No seat gets a second zone while clones bring only free seats. -/
theorem zoneDesk_oneZone {C : Db → StaffOp → Prop} (hC : ∀ db op, C db op → BringsFreeSeats db op)
    (h : Reachable ((zoneDesk trig).restrict C) db) : OneZone db.pricingZones := by
  refine h.invariant (I := fun db => OneZone db.pricingZones) ?_ ?_
  · rintro db ⟨hnone, -⟩ z hz
    rw [hnone] at hz
    cases hz
  · rintro u op v hu ⟨⟨hsc, rfl⟩, hc⟩
    exact execStaff_oneZone hsc (hC u op hc) hu

/-- At a desk that brings free templates, a template has one zone in each performance. -/
theorem zoneDesk_oneTemplate {C : Db → StaffOp → Prop}
    (hC : ∀ db op, C db op → BringsFreeTemplates db op)
    (h : Reachable ((zoneDesk trig).restrict C) db) : OneTemplate db.pricingZones := by
  have hboth : OneTemplate db.pricingZones ∧ ZonesScoped db := by
    refine h.invariant (I := fun db => OneTemplate db.pricingZones ∧ ZonesScoped db) ?_ ?_
    · rintro db ⟨hnone, -⟩
      refine ⟨fun z hz => ?_, fun z hz => ?_⟩ <;> rw [hnone] at hz <;> cases hz
    · rintro u op v ⟨hu, hz⟩ ⟨⟨hsc, rfl⟩, hc⟩
      exact ⟨execStaff_oneTemplate hsc (hC u op hc) hz hu, execStaff_scoped hsc hz⟩
  exact hboth.1

/-- A clone that brings neither a seat nor a template that the target has in a zone. -/
def BringsFree (db : Db) (op : StaffOp) : Prop := BringsFreeSeats db op ∧ BringsFreeTemplates db op

/-- **Zone partition.** As long as every clone brings only seats and templates without a zone on
    the target, each seat is in at most one zone of each performance, each performance has at
    most one zone of a template, and `apply_zone` never finds two. -/
theorem zones_partition (h : Reachable ((zoneDesk trig).restrict BringsFree) db) :
    (∀ z ∈ db.pricingZones.rows, ∀ z' ∈ db.pricingZones.rows, z.performance = z'.performance →
      ∀ s, s ∈ z.seats → s ∈ z'.seats → z = z') ∧
    (∀ z ∈ db.pricingZones.rows, ∀ z' ∈ db.pricingZones.rows, z.performance = z'.performance →
      z.template = z'.template → z.template ≠ none → z = z') ∧
    ∀ organization performance seatIds amount template,
      applyZone db organization performance seatIds amount template
        ≠ .error (.multipleObjects "PricingZone") := by
  have htemplate := zoneDesk_oneTemplate (fun _ _ hc => hc.2) h
  refine ⟨zoneDesk_oneZone (fun _ _ hc => hc.1) h, htemplate, ?_⟩
  intro organization performance seatIds amount template ha
  have hlen := (@zonesOfTemplate_length performance _ organization template) htemplate
  unfold applyZone at ha
  split at ha
  · cases ha
  split at ha
  case h_1 => cases ha
  case h_2 => cases ha
  case h_3 hnil hone =>
    rcases hl : zonesOfTemplate db organization performance template.id with _ | ⟨z, _ | ⟨z', rest⟩⟩
    · exact hnil hl
    · exact hone z hl
    · rw [hl] at hlen
      simp at hlen

end Runs

/-! ### A clone that is repeated -/

/-- The sample theater has no zones. -/
theorem twoNights_unzoned : Unzoned twoNights := by
  refine ⟨rfl, ?_⟩
  have hall : twoNights.seats.rows.all (fun s =>
      (twoNights.sections.get? s.section_).all fun x => x.organization == s.organization)
        = true := by
    decide
  intro s hs x hx
  have hthis := List.all_eq_true.mp hall s hs
  rw [hx] at hthis
  simpa using hthis

/-- The seat is in a zone on the first night. -/
def firstNight : Db :=
  execStaff flatTrig (.applyZone 1 1 [1] 5000 ⟨1, 1, "Premium", "#c1121f"⟩) twoNights

/-- The zone is cloned onto the second night. -/
def bothNights : Db := execStaff flatTrig (.cloneZones 1 2 1) firstNight

/-- The first night is reachable at the sample desk. -/
theorem firstNight_reachable {C : Db → StaffOp → Prop}
    (hC : ∀ db organization performance seatIds amount template,
      C db (.applyZone organization performance seatIds amount template)) :
    Reachable ((zoneDesk flatTrig).restrict C) firstNight := by
  have hscoped : Scoped twoNights (.applyZone 1 1 [1] 5000 ⟨1, 1, "Premium", "#c1121f"⟩) := by
    show (findPerformance twoNights 1 1).isSome = true
    decide
  have hinit : Reachable ((zoneDesk flatTrig).restrict C) twoNights := .of_init twoNights_unzoned
  exact hinit.step ⟨⟨hscoped, rfl⟩, hC _ _ _ _ _ _⟩

/-- The second night had no zone, so the first clone brings only free seats and templates. -/
theorem firstNight_free : BringsFree firstNight (.cloneZones 1 2 1) := by
  have hnone : ∀ z ∈ firstNight.pricingZones.rows, z.performance ≠ 2 := by decide
  refine ⟨fun t s ht _ b _ n _ _ z hz hp => ?_, fun t s ht _ b _ _ z hz hp => ?_⟩
  · exact absurd (hp.trans (findPerformance_id ht)) (hnone z hz)
  · exact absurd (hp.trans (findPerformance_id ht)) (hnone z hz)

/-- Both nights have a zone on the same seat, each its own. -/
theorem zones_partition_bothNights :
    bothNights.pricingZones.rows.map (fun z => (z.performance, z.seats)) = [(1, [1]), (2, [1])] ∧
    ∀ z ∈ bothNights.pricingZones.rows, ∀ z' ∈ bothNights.pricingZones.rows,
      z.performance = z'.performance → ∀ s, s ∈ z.seats → s ∈ z'.seats → z = z' := by
  refine ⟨by decide, ((@zones_partition flatTrig) ?_).1⟩
  exact (firstNight_reachable (C := BringsFree) fun _ _ _ _ _ _ => ⟨trivial, trivial⟩).step
    (i := .cloneZones 1 2 1) ⟨⟨trivial, rfl⟩, firstNight_free⟩

/-- The clone is repeated: the seat is in two zones of the second night, both of one template,
    and the next `apply_zone` finds two rows. -/
theorem clone_repeated : ∃ db, Reachable (zoneDesk flatTrig) db ∧
    (∃ z ∈ db.pricingZones.rows, ∃ z' ∈ db.pricingZones.rows, z ≠ z' ∧
      z.performance = z'.performance ∧ z.template = z'.template ∧ z.template ≠ none ∧
      ∃ s ∈ z.seats, s ∈ z'.seats) ∧
    applyZone db 1 2 [1] 5000 ⟨1, 1, "Premium", "#c1121f"⟩
      = .error (.multipleObjects "PricingZone") := by
  have hfirst : Reachable (zoneDesk flatTrig) firstNight :=
    (firstNight_reachable (C := fun _ _ => True) fun _ _ _ _ _ _ => trivial).of_restrict
  have hboth : Reachable (zoneDesk flatTrig) bothNights :=
    hfirst.step (i := .cloneZones 1 2 1) ⟨trivial, rfl⟩
  refine ⟨_, hboth.step (i := .cloneZones 1 2 1) ⟨trivial, rfl⟩, by decide, rfl⟩

end BoxOffice

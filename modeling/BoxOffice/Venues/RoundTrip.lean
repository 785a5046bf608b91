import BoxOffice.Dashboard.ChartEditor
import BoxOffice.System
import BoxOffice.Venues.ChartIo

namespace BoxOffice

open Relational

/-!
# Venues — the export and import round trip

What an import of an export is, section by section (`importView_exportSection`): the section with
its seats, its place and its name, and with the defaults in the seven columns that the exporter
does not write (`SectionParams.reset`).

* `chartViews_import` — the imported chart has exactly the sections of the data, in their order;
* `export_import` — exporting again gives the same data, and the chart itself is the same exactly
  when those seven columns had their defaults to begin with.
-/

/-! ### One section -/

/-- The parameters with the defaults in the columns that are not exported. -/
def SectionParams.reset (p : SectionParams) : SectionParams :=
  { p with
    rowXOffset := sectionDefaults.rowXOffset
    offsetMode := sectionDefaults.offsetMode
    altRowSeatDelta := sectionDefaults.altRowSeatDelta
    rows := sectionDefaults.rows
    seatsPerRow := sectionDefaults.seatsPerRow
    removedSeats := sectionDefaults.removedSeats
    accessibleSeats := sectionDefaults.accessibleSeats }

/-- The section as an import of its export has it. -/
def SectionView.reset (v : SectionView) : SectionView := { v with params := v.params.reset }

/-- Every column that is not exported has its default. -/
structure SectionParams.Exported (p : SectionParams) : Prop where
  rowXOffset : p.rowXOffset = 0
  offsetMode : p.offsetMode = .repeated
  altRowSeatDelta : p.altRowSeatDelta = 0
  rows : p.rows = 4
  seatsPerRow : p.seatsPerRow = 8
  removedSeats : p.removedSeats = []
  accessibleSeats : p.accessibleSeats = []

/-- A reset changes nothing exactly if all parameters are exported. -/
theorem reset_eq_self_iff {p : SectionParams} : p.reset = p ↔ p.Exported := by
  obtain ⟨⟩ := p
  simp only [SectionParams.reset, sectionDefaults, SectionParams.mk.injEq, true_and, and_true]
  constructor
  · rintro ⟨h1, h2, h3, h4, h5, h6, h7⟩
    exact ⟨h1.symm, h2.symm, h3.symm, h4.symm, h5.symm, h6.symm, h7.symm⟩
  · rintro ⟨h1, h2, h3, h4, h5, h6, h7⟩
    exact ⟨h1.symm, h2.symm, h3.symm, h4.symm, h5.symm, h6.symm, h7.symm⟩

/-- The view of an imported section. -/
def importView (d : SectionData) : SectionView where
  name := d.name
  ordering := d.ordering.getD 0
  tier := d.tier.getD ""
  params := importParams d
  seats := sortBy SeatDraft.place (importSeats d)

/-- A view of a section as the database can hold it: text that fits its columns, and seats in
    order with no two at one place. -/
structure SectionView.Stored (v : SectionView) : Prop where
  fits : sectionFits v.name v.tier = true
  seatsFit : ∀ s ∈ v.seats, s.fits = true
  ordered : v.seats.Pairwise fun a b => a.place ≤ b.place
  distinct : (v.seats.map SeatDraft.identity).Nodup

/-- Seats with the same place have the same identity. -/
theorem place_eq_iff {a b : SeatDraft} : a.place = b.place ↔ a.identity = b.identity := Iff.rfl

/-- Seats at one place are one seat. -/
theorem eq_of_place {l : List SeatDraft} (h : (l.map SeatDraft.identity).Nodup) :
    ∀ a ∈ l, ∀ b ∈ l, a.place = b.place → a = b :=
  fun _ ha _ hb hab => List.inj_on_of_nodup_map h ha hb (place_eq_iff.mp hab)

/-- The rows that are exported carry every seat once. -/
theorem importSeats_exportSection (v : SectionView) :
    (importSeats (exportSection v)).Perm v.seats := by
  have hrow : ∀ label, ((rowData label v.seats).seats.getD []).map (importSeat label)
      = sortBy (·.x) (v.seats.filter fun s => s.rowLabel = label) := by
    intro label
    unfold rowData
    rw [Option.getD_some, List.map_map]
    refine (List.map_congr_left fun s hs => ?_).trans (List.map_id _)
    obtain ⟨-, hlabel⟩ := List.mem_filter.mp (mem_sortBy.mp hs)
    have : s.rowLabel = label := by simpa using hlabel
    subst this
    rfl
  have hrows : importSeats (exportSection v) = ((rowOrder v.seats).map fun label =>
      sortBy (·.x) (v.seats.filter fun s => s.rowLabel = label)).flatten := by
    unfold importSeats exportSection
    rw [Option.getD_some, List.map_map]
    exact congrArg List.flatten (List.map_congr_left fun label _ => hrow label)
  have hgroups : (groupBy SeatDraft.rowLabel (rowOrder v.seats) v.seats).flatten.Perm v.seats := by
    refine groupBy_perm ?_ fun s hs => ?_
    · exact (sortBy_perm _ _).nodup_iff.mpr (List.nodup_dedup _)
    · exact mem_sortBy.mpr (List.mem_dedup.mpr (List.mem_map_of_mem hs))
  rw [hrows]
  refine List.Perm.trans ?_ hgroups
  -- Row by row, ordering by `x` permutes.
  unfold groupBy
  induction rowOrder v.seats with
  | nil => exact .refl _
  | cons label rest ih =>
    rw [List.map_cons, List.map_cons, List.flatten_cons, List.flatten_cons]
    exact (sortBy_perm _ _).append ih

/-- **One section.** Importing an exported section gives the section with the columns reset that
    the exporter does not write. -/
theorem importView_exportSection {v : SectionView} (hv : v.Stored) :
    importView (exportSection v) = v.reset := by
  have hperm := importSeats_exportSection v
  have hseats : sortBy SeatDraft.place (importSeats (exportSection v)) = v.seats :=
    (sortBy_eq_of_perm hperm.symm (eq_of_place hv.distinct)).symm.trans (sortBy_eq_self hv.ordered)
  unfold importView SectionView.reset
  rw [hseats]
  rfl

/-! ### The tables -/

/-- The foreign keys, the unique constraints and the column lengths of charts, sections and
    seats, which the database enforces. -/
structure ChartConstraints (db : Db) : Prop where
  sectionChart : ∀ s ∈ db.sections.rows, ∃ c ∈ db.seatingCharts.rows, c.id = s.chart
  seatSection : ∀ x ∈ db.seats.rows, ∃ s ∈ db.sections.rows, s.id = x.section_
  sectionName : ∀ s ∈ db.sections.rows, ∀ t ∈ db.sections.rows,
    s.chart = t.chart → s.name = t.name → s = t
  seatIdentity : ∀ x ∈ db.seats.rows, ∀ y ∈ db.seats.rows,
    x.section_ = y.section_ → x.identity = y.identity → x = y
  sectionFits : ∀ s ∈ db.sections.rows, sectionFits s.name s.tier = true
  seatFits : ∀ x ∈ db.seats.rows, x.draft.fits = true

section Tables

variable {db db' : Db} {organization chart : Nat} {d : SectionData}

/-- The sections of a chart as the exporter reads them, in key order. -/
def keyedViews (db : Db) (chart : Nat) : List SectionView :=
  (sectionsOf db chart).map (sectionView db)

/-- Display order, on views. -/
def SectionView.rank (v : SectionView) : ℕ ×ₗ String := toLex (v.ordering, v.name)

/-- The views of a chart are sorted by their rank. -/
theorem chartViews_eq (db : Db) (chart : Nat) :
    chartViews db chart = sortBy SectionView.rank (keyedViews db chart) :=
  map_sortBy fun _ => rfl

/-- What the database holds of a section. -/
theorem sectionView_stored (hc : ChartConstraints db) {s : Section} (hs : s ∈ db.sections.rows) :
    (sectionView db s).Stored where
  fits := hc.sectionFits s hs
  seatsFit := fun x hx => by
    obtain ⟨y, hy, rfl⟩ := List.mem_map.mp (mem_sortBy.mp hx)
    exact hc.seatFits y (List.mem_filter.mp hy).1
  ordered := sortBy_pairwise _ _
  distinct := by
    refine (((sortBy_perm _ _).map SeatDraft.identity).nodup_iff).mpr ?_
    rw [List.map_map]
    refine List.Nodup.map_on ?_
      (List.Nodup.of_map _ (db.seats.nodup.sublist (List.filter_sublist.map _)))
    intro x hx y hy hxy
    obtain ⟨hx, hxs⟩ := List.mem_filter.mp hx
    obtain ⟨hy, hys⟩ := List.mem_filter.mp hy
    exact hc.seatIdentity x hx y hy ((beq_iff_eq.mp hxs).trans (beq_iff_eq.mp hys).symm) hxy

/-- The seats of every section have a key that was handed out. -/
def SeatsLinked (db : Db) : Prop := ∀ x ∈ db.seats.rows, x.section_ < db.sections.nextId

/-- Under the constraints seats name sections whose keys were given. -/
theorem ChartConstraints.seatsLinked (hc : ChartConstraints db) : SeatsLinked db := fun x hx => by
  obtain ⟨s, hs, hid⟩ := hc.seatSection x hx
  rw [← hid]
  exact db.sections.fresh s hs

/-- The key of the next chart is new, so no section has it yet. -/
theorem ChartConstraints.sectionsOf_next (hc : ChartConstraints db) :
    sectionsOf db db.seatingCharts.nextId = [] := by
  refine List.filter_eq_nil_iff.mpr fun s hs hchart => ?_
  obtain ⟨c, hcm, hcid⟩ := hc.sectionChart s hs
  exact Table.key_ne_nextId hcm (hcid.trans (beq_iff_eq.mp hchart))

/-- Data that an import can store: text that fits, and no two seats at one place. -/
structure SectionData.Importable (d : SectionData) : Prop where
  fits : sectionFits d.name (d.tier.getD "") = true
  seatsFit : (importSeats d).all SeatDraft.fits = true
  distinct : ((importSeats d).map SeatDraft.identity).Nodup

/-- The database after the section and its seats are created. -/
def withSection (db : Db) (organization chart : Nat) (d : SectionData) : Db :=
  { db with
    sections := db.sections.insert (importedSection organization chart d)
      (importedSection_id organization chart d)
    seats := db.seats.insertMany
      (newSeat (importedSection organization chart d db.sections.nextId)) (importSeats d)
      (newSeat_id (importedSection organization chart d db.sections.nextId)) }

/-- **One turn.** Importable data with a new name is stored. -/
theorem importSection_ok (hd : d.Importable)
    (hname : ∀ v ∈ keyedViews db chart, v.name ≠ d.name) :
    importSection db organization chart d = (withSection db organization chart d, none) := by
  have hnew : (sectionsOf db chart).any (·.name == d.name) = false := by
    rw [List.any_eq_false]
    intro s hs hsame
    exact hname _ (List.mem_map_of_mem hs) (beq_iff_eq.mp hsame)
  unfold importSection
  rw [hd.fits, hnew]
  dsimp only
  rw [hd.seatsFit, if_pos hd.distinct]
  rfl

/-- A new section has the seats of the data, and the other sections keep theirs. -/
theorem seatsOf_withSection (hl : SeatsLinked db) (s : Nat) :
    (seatsOf (withSection db organization chart d) s).map Seat.draft
      = if s = db.sections.nextId then importSeats d else (seatsOf db s).map Seat.draft := by
  unfold seatsOf withSection
  dsimp only
  split_ifs with hs
  · subst hs
    have hnone : (db.seats.rows.filter fun x => x.section_ == db.sections.nextId) = [] := by
      rw [List.filter_eq_nil_iff]
      intro x hx
      simpa using (hl x hx).ne
    rw [Table.map_filter_insertMany (f := Seat.draft) (v := id)
      (fun _ _ => beq_self_eq_true db.sections.nextId) (fun _ _ => rfl), hnone, List.map_id]
    rfl
  · rw [Table.filter_insertMany fun _ _ => by simpa [newSeat, importedSection] using Ne.symm hs]

/-- Adding a section keeps seats in sections whose keys were given. -/
theorem seatsLinked_withSection (hl : SeatsLinked db) :
    SeatsLinked (withSection db organization chart d) := by
  intro x hx
  rcases Table.mem_insertMany hx with hx | ⟨_, -, _, -, rfl⟩
  · exact (hl x hx).trans (Nat.lt_succ_self _)
  · exact Nat.lt_succ_self _

/-- Adding a section adds its view. -/
theorem keyedViews_withSection (hl : SeatsLinked db) :
    keyedViews (withSection db organization chart d) chart
      = keyedViews db chart ++ [importView d] := by
  have hsections : sectionsOf (withSection db organization chart d) chart
      = sectionsOf db chart ++ [importedSection organization chart d db.sections.nextId] := by
    unfold sectionsOf withSection
    rw [Table.insert_rows, List.filter_append]
    simp [importedSection]
  unfold keyedViews
  rw [hsections, List.map_append]
  refine congrArg₂ (· ++ ·) (List.map_congr_left fun s hs => ?_) ?_
  · have hne : s.id ≠ db.sections.nextId := Table.key_ne_nextId (List.mem_filter.mp hs).1
    unfold sectionView
    rw [seatsOf_withSection hl, if_neg hne]
  · have hseats := (@seatsOf_withSection _ organization chart d) hl
      db.sections.nextId
    rw [if_pos rfl] at hseats
    unfold sectionView importView
    simp only [List.map_cons, List.map_nil, importedSection]
    rw [hseats]

/-- **The loop.** Importable data with names of its own is stored section by section. -/
theorem importSections_ok {ds : List SectionData} (hl : SeatsLinked db)
    (hds : ∀ d ∈ ds, d.Importable) (hnames : (ds.map (·.name)).Nodup)
    (hnew : ∀ d ∈ ds, ∀ v ∈ keyedViews db chart, v.name ≠ d.name) :
    ∃ db', importSections db organization chart ds = (db', none) ∧
      keyedViews db' chart = keyedViews db chart ++ ds.map importView := by
  induction ds generalizing db with
  | nil => exact ⟨db, rfl, (List.append_nil _).symm⟩
  | cons d rest ih =>
    obtain ⟨hd, hrest⟩ := List.nodup_cons.mp hnames
    have hturn := (@importSection_ok _ organization chart)
      (hds d (List.mem_cons_self ..)) (hnew d (List.mem_cons_self ..))
    obtain ⟨db', himport, hviews⟩ := ih
      ((@seatsLinked_withSection _ organization chart d) hl)
      (fun x hx => hds x (List.mem_cons_of_mem _ hx)) hrest (fun x hx v hv => by
        rw [keyedViews_withSection hl] at hv
        rcases List.mem_append.mp hv with hv | hv
        · exact hnew x (List.mem_cons_of_mem _ hx) v hv
        · rw [List.mem_singleton.mp hv]
          intro hsame
          exact hd (List.mem_map.mpr ⟨x, hx, hsame.symm⟩))
    refine ⟨db', ?_, ?_⟩
    · unfold importSections
      rw [hturn]
      exact himport
    · rw [hviews, keyedViews_withSection hl, List.append_assoc]
      rfl

end Tables

/-! ### A chart -/

section Chart

variable {db : Db} {chart : SeatingChart} {venue : Venue} {name : String}

/-- The copy of a chart is the chart, and exports as it does. -/
structure Lossless (db db' : Db) (chart copy : SeatingChart) : Prop where
  sections : chartViews db' copy.id = chartViews db chart.id
  exported : (exportChartData db' copy).sections = (exportChartData db chart).sections

/-- Every view is that of a section of the chart. -/
theorem mem_chartViews {v : SectionView} (hv : v ∈ chartViews db chart.id) :
    ∃ s ∈ db.sections.rows, s.chart = chart.id ∧ sectionView db s = v := by
  rw [chartViews_eq] at hv
  obtain ⟨s, hs, rfl⟩ := List.mem_map.mp (mem_sortBy.mp hv)
  obtain ⟨hs, hchart⟩ := List.mem_filter.mp hs
  exact ⟨s, hs, beq_iff_eq.mp hchart, rfl⟩

/-- The names of the sections of a chart are distinct. -/
theorem chartViews_names (hc : ChartConstraints db) :
    ((chartViews db chart.id).map (·.name)).Nodup := by
  rw [chartViews_eq]
  refine (((sortBy_perm _ _).map SectionView.name).nodup_iff).mpr ?_
  unfold keyedViews
  rw [List.map_map]
  refine List.Nodup.map_on ?_
    (List.Nodup.of_map _ (db.sections.nodup.sublist (List.filter_sublist.map _)))
  intro s hs t ht hst
  obtain ⟨hs, hsc⟩ := List.mem_filter.mp hs
  obtain ⟨ht, htc⟩ := List.mem_filter.mp ht
  exact hc.sectionName s hs t ht ((beq_iff_eq.mp hsc).trans (beq_iff_eq.mp htc).symm) hst

/-- What is exported can be imported. -/
theorem exportSection_importable {v : SectionView} (hv : v.Stored) :
    (exportSection v).Importable where
  fits := hv.fits
  seatsFit := List.all_eq_true.mpr fun s hs =>
    hv.seatsFit s ((importSeats_exportSection v).mem_iff.mp hs)
  distinct := ((importSeats_exportSection v).map SeatDraft.identity).nodup_iff.mpr hv.distinct

/-- **The imported chart** has the sections of the exported one, each with the columns reset that
    are not exported. -/
theorem chartViews_import (hc : ChartConstraints db)
    (hname : name ≠ "" ∧ name.length ≤ 255)
    (hnew : ∀ c ∈ db.seatingCharts.rows, c.venue = venue.id → c.name ≠ name) :
    ∃ db' copy, importChartData db venue (exportChartData db chart) (some name) false
        = (db', .ok copy) ∧ copy.name = name ∧
      chartViews db' copy.id = (chartViews db chart.id).map SectionView.reset := by
  have hstored : ∀ v ∈ chartViews db chart.id, v.Stored := fun v hv => by
    obtain ⟨s, hs, -, rfl⟩ := mem_chartViews hv
    exact sectionView_stored hc hs
  -- There is no chart of that name yet, so a new one is made, without sections.
  have hfind : (db.seatingCharts.rows.find? fun c => c.organization == venue.organization &&
      c.venue == venue.id && c.name == name) = none := by
    rw [List.find?_eq_none]
    intro c hmem hp
    simp only [Bool.and_eq_true, beq_iff_eq] at hp
    exact hnew c hmem hp.1.2 hp.2
  let fresh : Db := { db with seatingCharts := db.seatingCharts.insert (newChart venue name) }
  let copy : SeatingChart := newChart venue name db.seatingCharts.nextId
  have hempty : keyedViews fresh copy.id = [] :=
    congrArg (List.map (sectionView fresh)) hc.sectionsOf_next
  have hlinked : SeatsLinked fresh := hc.seatsLinked
  obtain ⟨db', himport, hviews⟩ :=
    (@importSections_ok _ venue.organization copy.id ((exportChartData db chart).sections)) hlinked
    (fun d hd => by
      obtain ⟨v, hv, rfl⟩ := List.mem_map.mp hd
      exact exportSection_importable (hstored v hv))
    (by
      have := (@chartViews_names _ chart) hc
      rwa [exportChartData, List.map_map])
    (fun d _ v hv => by rw [hempty] at hv; cases hv)
  refine ⟨db', copy, ?_, rfl, ?_⟩
  · unfold importChartData importName
    dsimp only
    rw [if_neg hname.1, hfind]
    dsimp only
    rw [if_neg (not_lt.mpr hname.2)]
    unfold fillChart
    rw [show (newChart venue name db.seatingCharts.nextId).organization = venue.organization
      from rfl,
      himport]
  · -- The sections are imported in display order, so ordering them again changes nothing.
    have hreset : keyedViews db' copy.id = (chartViews db chart.id).map SectionView.reset := by
      rw [hviews, hempty, List.nil_append, exportChartData, List.map_map]
      exact List.map_congr_left fun v hv => importView_exportSection (hstored v hv)
    have hsorted : ((chartViews db chart.id).map SectionView.reset).Pairwise
        fun a b => a.rank ≤ b.rank := by
      rw [List.pairwise_map, chartViews_eq]
      exact sortBy_pairwise _ _
    rw [chartViews_eq, hreset, sortBy_eq_self hsorted]

/-- **The round trip.** Importing the export of a chart under a new name always succeeds, and the
    copy is the chart exactly when the columns that are not exported have their defaults in every
    section of it. -/
theorem export_import (hc : ChartConstraints db) (hname : name ≠ "" ∧ name.length ≤ 255)
    (hnew : ∀ c ∈ db.seatingCharts.rows, c.venue = venue.id → c.name ≠ name) :
    ∃ db' copy, importChartData db venue (exportChartData db chart) (some name) false
        = (db', .ok copy) ∧ copy.name = name ∧
      (Lossless db db' chart copy ↔
        ∀ s ∈ db.sections.rows, s.chart = chart.id → s.params.Exported) := by
  obtain ⟨db', copy, himport, hcopy, hviews⟩ := (@chartViews_import _ chart) hc hname hnew
  refine ⟨db', copy, himport, hcopy, ?_⟩
  have hexported : (exportChartData db' copy).sections = (exportChartData db chart).sections := by
    unfold exportChartData
    rw [hviews, List.map_map]
    rfl
  constructor
  · intro h s hs hchart
    have hmem : sectionView db s ∈ chartViews db chart.id := by
      rw [chartViews_eq]
      exact mem_sortBy.mpr (List.mem_map_of_mem (List.mem_filter.mpr ⟨hs, by simpa using hchart⟩))
    -- A map that leaves the list alone leaves its elements alone.
    have hfix : (chartViews db chart.id).map SectionView.reset
        = (chartViews db chart.id).map id := by
      rw [← hviews, h.sections, List.map_id]
    have hsame := List.map_inj_left.mp hfix _ hmem
    exact reset_eq_self_iff.mp (congrArg SectionView.params hsame)
  · intro h
    refine ⟨?_, hexported⟩
    rw [hviews]
    refine (List.map_congr_left fun v hv => ?_).trans (List.map_id _)
    obtain ⟨s, hs, hchart, rfl⟩ := mem_chartViews hv
    exact congrArg (fun p => { sectionView db s with params := p })
      (reset_eq_self_iff.mpr (h s hs hchart))

end Chart

/-! ### A chart that comes back and one that does not -/

/-- The sample theater, with a section of default parameters whose seats are not written yet. -/
def emptyChart : Db :=
  { sampleDb with
    sections := Table.empty.insert fun id => Section.mk id 1 1 "Stalls" 0 "" sectionDefaults
    seats := Table.empty }

/-- The venue and the chart. -/
def mainHouse : Venue := ⟨1, 1, "Main house", "UTC"⟩
def houseChart : SeatingChart := ⟨1, 1, 1, "House"⟩

/-- What the editor sends for a section of `rows` rows with `seatsPerRow` seats. -/
def blockInput (rows seatsPerRow : Int) : LayoutInput where
  originX := none
  originY := none
  rotation := none
  seatPitch := none
  rowPitch := none
  rowXOffset := none
  arcRadius := none
  offsetMode := none
  altRowSeatDelta := none
  rows := some rows
  seatsPerRow := some seatsPerRow
  numberingScheme := none
  rowLabelScheme := none
  rowLabelStart := none
  pivotMode := none
  pivotX := none
  pivotY := none

/-- The chart after the editor saved its section with that many rows and seats. -/
def blockChart (rows seatsPerRow : Int) : Db :=
  (chartEditorSave flatTrig emptyChart 1 1
    [("1", 1, .layout (blockInput rows seatsPerRow) [] [])]).1

/-- The empty chart meets the constraints. -/
theorem emptyChart_constraints : ChartConstraints emptyChart where
  sectionChart := by decide
  seatSection := by decide
  sectionName := by decide
  seatIdentity := by decide
  sectionFits := by decide
  seatFits := by decide

/-- So does the block of two rows. -/
theorem blockChart_constraints : ChartConstraints (blockChart 2 1) where
  sectionChart := by decide
  seatSection := by decide
  sectionName := by decide
  seatIdentity := by decide +kernel
  sectionFits := by decide
  seatFits := by decide

/-- A curved stalls section that turns about a point of its own, numbered by odd numbers. -/
def curvedStalls : SectionParams :=
  { sectionDefaults with
    originX := 12
    originY := -3
    rotation := 15
    seatPitch := 2
    rowPitch := 3 / 2
    arcRadius := some 40
    pivotMode := .custom
    pivotX := 6
    pivotY := 1 / 2
    numberingScheme := .oddDescLeft
    rowLabelScheme := .allLetters
    rowLabelStart := 2 }

/-- A gallery behind it that curves the other way. -/
def gallery : SectionParams :=
  { sectionDefaults with
    originY := 30
    arcRadius := some (-25)
    pivotMode := .origin
    numberingScheme := .hundreds }

/-- Both sections with their seats; the gallery is displayed first. -/
def curvedHouse : Db :=
  { sampleDb with
    sections := (Table.empty.insert fun id =>
      Section.mk id 1 1 "Curved stalls" 2 "Gold" curvedStalls).insert fun id =>
        Section.mk id 1 1 "Gallery" 1 "" gallery
    seats := ((((Table.empty.insert fun id => Seat.mk id 1 1 "C" "3" 12 (-3) false).insert fun id =>
      Seat.mk id 1 1 "C" "1" 14 (-5 / 2) true).insert fun id =>
      Seat.mk id 1 1 "D" "1" 13 (-1) false).insert fun id =>
      Seat.mk id 1 2 "A" "102" 1 30 false).insert fun id => Seat.mk id 1 2 "A" "101" 0 31 true }

/-- The curved chart meets the constraints. -/
theorem curvedHouse_constraints : ChartConstraints curvedHouse where
  sectionChart := by decide
  seatSection := by decide
  sectionName := by decide +kernel
  seatIdentity := by decide +kernel
  sectionFits := by decide
  seatFits := by decide

/-- Two sections with their arcs, pivots, numbering, tiers and flagged seats come back as they
    were, in their order. -/
theorem export_import_curved : ∃ db' copy,
    importChartData curvedHouse mainHouse (exportChartData curvedHouse houseChart) (some "Copy") false
      = (db', .ok copy) ∧ copy.name = "Copy" ∧
    Lossless curvedHouse db' houseChart copy ∧
    (chartViews db' copy.id).map (fun v => (v.name, v.ordering, v.tier, v.params))
      = [("Gallery", 1, "", gallery), ("Curved stalls", 2, "Gold", curvedStalls)] ∧
    (chartViews db' copy.id).map (fun v => v.seats.map fun s =>
        (s.rowLabel, s.number, s.x, s.y, s.isAccessible))
      = [[("A", "101", 0, 31, true), ("A", "102", 1, 30, false)],
        [("C", "1", 14, -5 / 2, true), ("C", "3", 12, -3, false), ("D", "1", 13, -1, false)]] := by
  obtain ⟨db', copy, himport, hcopy, hiff⟩ :=
    (@export_import _ houseChart mainHouse "Copy") curvedHouse_constraints (by decide) (by decide)
  have hlossless : Lossless curvedHouse db' houseChart copy := by
    refine hiff.mpr fun s hs _ => ?_
    rcases List.mem_pair.mp hs with rfl | rfl <;> exact ⟨rfl, rfl, rfl, rfl, rfl, rfl, rfl⟩
  refine ⟨db', copy, himport, hcopy, hlossless, ?_, ?_⟩
  · rw [hlossless.sections]
    decide +kernel
  · rw [hlossless.sections]
    decide +kernel

/-- A section that the editor saved with two rows of one seat comes back with the four rows of
    eight seats that are the defaults. -/
theorem block_not_restored :
    (∃ v ∈ chartViews (blockChart 2 1) 1, v.params.rows = 2 ∧ v.params.seatsPerRow = 1) ∧
    ∃ db' copy, importChartData (blockChart 2 1) mainHouse
        (exportChartData (blockChart 2 1) houseChart) (some "Copy") false = (db', .ok copy) ∧
      (∃ v ∈ chartViews db' copy.id, v.params.rows = 4 ∧ v.params.seatsPerRow = 8) ∧
      ¬ Lossless (blockChart 2 1) db' houseChart copy := by
  obtain ⟨db', copy, himport, -, hviews⟩ := (@chartViews_import _ houseChart mainHouse "Copy")
    blockChart_constraints (by decide) (by decide)
  refine ⟨by decide, db', copy, himport, ?_, fun h => ?_⟩
  · rw [hviews]
    decide
  · have hsame : (chartViews (blockChart 2 1) 1).map SectionView.reset
        = chartViews (blockChart 2 1) 1 :=
      hviews.symm.trans h.sections
    revert hsame
    decide

end BoxOffice

import BoxOffice.Venues.ImportJson
import BoxOffice.Venues.Overwriting

namespace BoxOffice

open Relational Python

/-!
# Venues — which imports are all or nothing

An import that fails after its first write leaves what it wrote: the old sections are gone, or the
new chart stands with the sections before the failing one.

* `decodeFile` — the sections of a file as the columns would hold them;
* `AllOrNothing` — the chart holds exactly these, or the tables are as they were;
* `import_all_or_nothing_iff` — so it ends exactly when the call is refused before its first
  write, when every section of the file can be stored, or when the chart to replace is empty and
  already the first section fails.
-/

section Import

variable {F : Type} {py : Builtins F} (cols : Columns py)

/-! ### The file -/

/-- The section with these seats. -/
def SectionData.withSeats (d : SectionData) (drafts : List SeatDraft) : SectionData :=
  { d with rows := some (drafts.map fun x => ⟨x.rowLabel, some [seatData x]⟩) }

/-- Seats that are written out are read back. -/
theorem importSeats_withSeats (d : SectionData) (drafts : List SeatDraft) :
    importSeats (d.withSeats drafts) = drafts := by
  unfold importSeats SectionData.withSeats
  dsimp only
  rw [Option.getD_some, List.map_map]
  induction drafts with
  | nil => rfl
  | cons x rest ih => exact congrArg (x :: ·) ih

/-- One section of the file. -/
def decodeSection (data : Json F) : Except Failure SectionData := do
  let d ← sectionColumns cols data
  return d.withSeats (← seatRows cols data)

/-- The sections of the file. -/
def decodeFile (data : Json F) : Except Failure (List SectionData) := do
  (← fileSections data).mapM (decodeSection cols)

/-- Every section of the file can be stored: its values fit their columns, no two sections have
    one name, and no two seats of a section one identity. -/
structure FileImportable (data : Json F) (ds : List SectionData) : Prop where
  decoded : decodeFile cols data = .ok ds
  names : (ds.map (·.name)).Nodup
  seats : ∀ d ∈ ds, ((importSeats d).map SeatDraft.identity).Nodup

/-- The import ends with a chart that holds the file's sections and seats, or with an error and
    every chart, section and seat as it was. -/
inductive AllOrNothing (db : Db) (data : Json F) : Db × Except Failure SeatingChart → Prop
  | imported {db' : Db} {chart : SeatingChart} {ds : List SectionData} :
      chart ∈ db'.seatingCharts.rows → decodeFile cols data = .ok ds →
      keyedViews db' chart.id = ds.map importView → AllOrNothing db data (db', .ok chart)
  | unchanged {db' : Db} {e : Failure} :
      db'.seatingCharts.rows = db.seatingCharts.rows → db'.sections.rows = db.sections.rows →
      db'.seats.rows = db.seats.rows → AllOrNothing db data (db', .error e)

/-- The call is refused before its first write. -/
inductive RefusedFirst (db : Db) (venue : Venue) (data : Json F) (name : Option String)
    (replace : Bool) : Prop
  | unnamed {e : Failure} : importNameJson data name = .error e →
      RefusedFirst db venue data name replace
  | present {chartName : Json F} {chart : SeatingChart} :
      importNameJson data name = .ok chartName → findChart py db venue chartName = some chart →
      replace = false ∨ liveChartTickets db chart.id ≠ [] ∨
        (∃ e, deleteSections db ((sectionsOf db chart.id).map (·.id)) = .error e) →
      RefusedFirst db venue data name replace
  | unfit {chartName : Json F} {e : Failure} : importNameJson data name = .ok chartName →
      findChart py db venue chartName = none → cols.textOf 255 "name" chartName = .error e →
      RefusedFirst db venue data name replace

/-- The chart to replace has no section, and the file fails before its first section is stored. -/
structure NothingReplaced (db : Db) (venue : Venue) (data : Json F) (name : Option String) :
    Prop where
  empty : ∃ chartName chart, importNameJson data name = .ok chartName ∧
    findChart py db venue chartName = some chart ∧ sectionsOf db chart.id = []
  fails : ∃ e, (fileSections data).bind (fun sections => (sections.take 1).mapM (sectionColumns cols))
    = .error e

/-! ### One section -/

variable {cols} {db db' : Db} {organization chart : Nat} {data : Json F} {items : List (Json F)}
  {o : Option Failure}

/-- What a turn of the loop does: nothing before an error, or the section alone, or all of it. -/
theorem importSectionJson_cases (h : importSectionJson cols db organization chart data = (db', o)) :
    (db' = db ∧ o ≠ none ∧ (sectionsOf db chart = [] → ∃ e, sectionColumns cols data = .error e)) ∨
    ((∃ d, sectionColumns cols data = .ok d ∧ (∀ s ∈ sectionsOf db chart, s.name ≠ d.name) ∧
        db' = { db with sections := db.sections.insert (importedSection organization chart d) }) ∧
      o ≠ none) ∨
    (∃ d, decodeSection cols data = .ok d ∧ (∀ s ∈ sectionsOf db chart, s.name ≠ d.name) ∧
        ((importSeats d).map SeatDraft.identity).Nodup ∧
        db' = withSection db organization chart d ∧ o = none) := by
  unfold importSectionJson at h
  cases hd : sectionColumns cols data with
  | error e =>
    rw [hd] at h
    cases h
    exact .inl ⟨rfl, by simp, fun _ => ⟨_, rfl⟩⟩
  | ok d =>
    rw [hd] at h
    dsimp only at h
    -- The name is taken: it is refused before anything is written.
    split_ifs at h with hname
    · cases h
      refine .inl ⟨rfl, by simp, fun hempty => ?_⟩
      rw [hempty] at hname
      cases hname
    · have hnew : ∀ s ∈ sectionsOf db chart, s.name ≠ d.name := fun s hs hsame =>
        hname (List.any_eq_true.mpr ⟨s, hs, beq_iff_eq.mpr hsame⟩)
      -- From here on the row of the section is there, whatever becomes of its seats.
      cases hr : seatRows cols data with
      | error e =>
        rw [hr] at h
        cases h
        exact .inr (.inl ⟨⟨d, rfl, hnew, rfl⟩, by simp⟩)
      | ok drafts =>
        rw [hr] at h
        dsimp only at h
        split_ifs at h with hdistinct
        · cases h
          have hdecoded : decodeSection cols data = .ok (d.withSeats drafts) := by
            unfold decodeSection
            rw [hd, hr]
            rfl
          refine .inr (.inr ⟨d.withSeats drafts, hdecoded, hnew, ?_, ?_, rfl⟩)
          · rw [importSeats_withSeats]
            exact hdistinct
          · unfold withSection
            rw [importSeats_withSeats]
            rfl
        · cases h
          exact .inr (.inl ⟨⟨d, rfl, hnew, rfl⟩, by simp⟩)

/-- A section that can be decoded, under a new name, is stored with its seats. -/
theorem importSectionJson_ok {d : SectionData} (hd : decodeSection cols data = .ok d)
    (hname : ∀ s ∈ sectionsOf db chart, s.name ≠ d.name)
    (hdistinct : ((importSeats d).map SeatDraft.identity).Nodup) :
    importSectionJson cols db organization chart data
      = (withSection db organization chart d, none) := by
  rcases h : importSectionJson cols db organization chart data with ⟨db', o⟩
  unfold decodeSection at hd
  cases hcolumns : sectionColumns cols data with
  | error e => rw [hcolumns] at hd; cases hd
  | ok d₀ =>
    cases hseats : seatRows cols data with
    | error e => rw [hcolumns, hseats] at hd; cases hd
    | ok drafts =>
      rw [hcolumns, hseats] at hd
      cases hd
      rw [importSeats_withSeats] at hdistinct
      have hnew : (sectionsOf db chart).any (·.name == d₀.name) = false :=
        List.any_eq_false.mpr fun s hs hsame => hname s hs (beq_iff_eq.mp hsame)
      unfold importSectionJson at h
      rw [hcolumns] at h
      dsimp only at h
      rw [hnew, if_neg Bool.false_ne_true, hseats] at h
      dsimp only at h
      rw [if_pos hdistinct] at h
      rw [← h]
      unfold withSection
      rw [importSeats_withSeats]
      rfl

/-! ### The loop -/

/-- Sections are only added, under new keys, and charts are left alone. -/
structure AddsSections (db db' : Db) (added : List Section) : Prop where
  charts : db'.seatingCharts = db.seatingCharts
  rows : db'.sections.rows = db.sections.rows ++ added
  fresh : ∀ s ∈ added, db.sections.nextId ≤ s.id
  nextId : db.sections.nextId ≤ db'.sections.nextId

/-- No section was added. -/
theorem AddsSections.refl (db : Db) : AddsSections db db [] :=
  ⟨rfl, (List.append_nil _).symm, (fun s hs => by cases hs), le_rfl⟩

/-- Sections added one after another were added. -/
theorem AddsSections.trans {db₁ : Db} {added added' : List Section} (h : AddsSections db db₁ added)
    (h' : AddsSections db₁ db' added') : AddsSections db db' (added ++ added') where
  charts := h'.charts.trans h.charts
  rows := by rw [h'.rows, h.rows, List.append_assoc]
  fresh s hs := by
    rcases List.mem_append.mp hs with hs | hs
    · exact h.fresh s hs
    · exact h.nextId.trans (h'.fresh s hs)
  nextId := h.nextId.trans h'.nextId

/-- A turn adds its section, or it adds none and fails. -/
theorem importSectionJson_adds
    (h : importSectionJson cols db organization chart data = (db', o)) :
    (db' = db ∧ o ≠ none ∧ (sectionsOf db chart = [] → ∃ e, sectionColumns cols data = .error e)) ∨
      ∃ s, AddsSections db db' [s] := by
  have hadds (d : SectionData) : AddsSections db
      { db with sections := db.sections.insert (importedSection organization chart d) }
      [importedSection organization chart d db.sections.nextId] :=
    ⟨rfl, rfl, fun s hs => (congrArg Section.id (List.mem_singleton.mp hs)).ge, Nat.le_succ _⟩
  rcases importSectionJson_cases h with hnone | ⟨⟨d, -, -, rfl⟩, -⟩ | ⟨d, -, -, -, rfl, -⟩
  · exact .inl hnone
  · exact .inr ⟨_, hadds d⟩
  · exact .inr ⟨_, (hadds d).charts, (hadds d).rows, (hadds d).fresh, (hadds d).nextId⟩

/-- **The loop adds.** -/
theorem importSectionsJson_adds
    (h : importSectionsJson cols db organization chart items = (db', o)) :
    ∃ added, AddsSections db db' added := by
  induction items generalizing db with
  | nil => cases h; exact ⟨[], .refl _⟩
  | cons data rest ih =>
    unfold importSectionsJson at h
    rcases hturn : importSectionJson cols db organization chart data with ⟨db₁, o₁⟩
    rw [hturn] at h
    have hadded : ∃ added, AddsSections db db₁ added := by
      rcases importSectionJson_adds hturn with ⟨rfl, -⟩ | ⟨s, hs⟩
      · exact ⟨[], .refl _⟩
      · exact ⟨[s], hs⟩
    obtain ⟨added, hadded⟩ := hadded
    cases o₁ with
    | some e => cases h; exact ⟨added, hadded⟩
    | none =>
      obtain ⟨added', hadded'⟩ := ih h
      exact ⟨added ++ added', hadded.trans hadded'⟩

/-- **The loop that adds nothing** to a chart without sections fails on the columns of the first
    section. -/
theorem importSectionsJson_first {e : Failure} (hempty : sectionsOf db chart = [])
    (h : importSectionsJson cols db organization chart items = (db', some e))
    (hsame : db'.sections.rows = db.sections.rows) :
    ∃ e, (items.take 1).mapM (sectionColumns cols) = .error e := by
  cases items with
  | nil => cases h
  | cons data rest =>
    unfold importSectionsJson at h
    rcases hturn : importSectionJson cols db organization chart data with ⟨db₁, o₁⟩
    rw [hturn] at h
    rcases importSectionJson_adds hturn with ⟨-, -, hfails⟩ | ⟨s, hs⟩
    · obtain ⟨e', he'⟩ := hfails hempty
      refine ⟨e', ?_⟩
      rw [List.take_succ_cons, List.mapM_cons, he']
      rfl
    · have hrest : ∃ added, AddsSections db₁ db' added := by
        cases o₁ with
        | some e₁ => cases h; exact ⟨[], .refl _⟩
        | none => exact importSectionsJson_adds h
      obtain ⟨added, hadded⟩ := hrest
      have hrows := (hs.trans hadded).rows.symm.trans hsame
      have hlength := congrArg List.length hrows
      rw [List.length_append, List.length_append, List.length_singleton] at hlength
      omega

/-- **The loop succeeds** only on sections that can all be stored. -/
theorem importSectionsJson_none (hl : SeatsLinked db)
    (h : importSectionsJson cols db organization chart items = (db', none)) :
    ∃ ds, items.mapM (decodeSection cols) = .ok ds ∧ (ds.map (·.name)).Nodup ∧
      (∀ d ∈ ds, ((importSeats d).map SeatDraft.identity).Nodup) ∧
      (∀ d ∈ ds, ∀ v ∈ keyedViews db chart, v.name ≠ d.name) ∧
      keyedViews db' chart = keyedViews db chart ++ ds.map importView := by
  induction items generalizing db with
  | nil =>
    cases h
    exact ⟨[], rfl, List.nodup_nil, (fun d hd => by cases hd), (fun d hd => by cases hd),
      (List.append_nil _).symm⟩
  | cons data rest ih =>
    unfold importSectionsJson at h
    rcases hturn : importSectionJson cols db organization chart data with ⟨db₁, o₁⟩
    rw [hturn] at h
    cases o₁ with
    | some e => cases h
    | none =>
      -- The first section was stored, and the rest goes on with its name taken.
      rcases importSectionJson_cases hturn with ⟨-, hne, -⟩ | ⟨-, hne⟩ |
        ⟨d, hd, hnew, hseats, rfl, -⟩
      · exact absurd rfl hne
      · exact absurd rfl hne
      obtain ⟨ds, hds, hnames, hdistinct, hfree, hviews⟩ := ih (seatsLinked_withSection hl) h
      rw [keyedViews_withSection hl] at hfree hviews
      have hview (v : SectionView) (hv : v ∈ keyedViews db chart) : v.name ≠ d.name := by
        obtain ⟨s, hs, rfl⟩ := List.mem_map.mp hv
        exact hnew s hs
      refine ⟨d :: ds, ?_, List.nodup_cons.mpr ⟨?_, hnames⟩, ?_, ?_, ?_⟩
      · rw [List.mapM_cons, hd, hds]
        rfl
      · intro hmem
        obtain ⟨e, he, hsame⟩ := List.mem_map.mp hmem
        exact hfree e he (importView d) (List.mem_append_right _ (List.mem_singleton_self _))
          hsame.symm
      · rintro e (_ | ⟨_, he⟩)
        · exact hseats
        · exact hdistinct e he
      · rintro e (_ | ⟨_, he⟩)
        · exact hview
        · exact fun v hv => hfree e he v (List.mem_append_left _ hv)
      · rw [hviews, List.append_assoc]
        rfl

/-- **Sections that can all be stored** are. -/
theorem importSectionsJson_ok {ds : List SectionData} (hl : SeatsLinked db)
    (hds : items.mapM (decodeSection cols) = .ok ds) (hnames : (ds.map (·.name)).Nodup)
    (hseats : ∀ d ∈ ds, ((importSeats d).map SeatDraft.identity).Nodup)
    (hnew : ∀ d ∈ ds, ∀ v ∈ keyedViews db chart, v.name ≠ d.name) :
    ∃ db', importSectionsJson cols db organization chart items = (db', none) := by
  induction items generalizing db ds with
  | nil => exact ⟨db, rfl⟩
  | cons data rest ih =>
    rw [List.mapM_cons] at hds
    cases hd : decodeSection cols data with
    | error e => rw [hd] at hds; cases hds
    | ok d =>
      cases hrest : rest.mapM (decodeSection cols) with
      | error e => rw [hd, hrest] at hds; cases hds
      | ok ds' =>
        rw [hd, hrest] at hds
        cases hds
        obtain ⟨hname, hnames⟩ := List.nodup_cons.mp hnames
        -- The first section is new and its seats are distinct, so it is stored; its name is then
        -- taken, but by none of the rest.
        have hturn : importSectionJson cols db organization chart data
            = (withSection db organization chart d, none) :=
          importSectionJson_ok hd
            (fun s hs => hnew d List.mem_cons_self _ (List.mem_map_of_mem (f := sectionView db) hs))
            (hseats d List.mem_cons_self)
        obtain ⟨db', hloop⟩ := ih ((@seatsLinked_withSection _ organization chart d) hl) hrest hnames
          (fun e he => hseats e (List.mem_cons_of_mem _ he)) (fun e he v hv => by
            rw [keyedViews_withSection hl] at hv
            rcases List.mem_append.mp hv with hv | hv
            · exact hnew e (List.mem_cons_of_mem _ he) v hv
            · rw [List.mem_singleton.mp hv]
              exact fun hsame => hname (List.mem_map.mpr ⟨e, he, hsame.symm⟩))
        refine ⟨db', ?_⟩
        unfold importSectionsJson
        rw [hturn]
        exact hloop

/-! ### The chart -/

/-- Deleting sections leaves the charts alone. -/
theorem deleteSections_tables {ids : List Nat} (h : deleteSections db ids = .ok db') :
    db'.seatingCharts = db.seatingCharts ∧
      db'.sections = db.sections.delete (fun s => ids.contains s.id) ∧
      (ids = [] → db'.seats.rows = db.seats.rows) := by
  unfold deleteSections at h
  dsimp only at h
  split_ifs at h
  cases hd : deleteSeats db ((db.seats.rows.filter fun s => ids.contains s.section_).map (·.id)) with
  | error e => rw [hd] at h; cases h
  | ok db₁ =>
    rw [hd] at h
    cases h
    obtain ⟨-, rfl⟩ := deleteSeats_ok hd
    refine ⟨rfl, rfl, ?_⟩
    rintro rfl
    refine congrArg Table.rows (Table.delete_eq_self fun x _ => ?_)
    simp

/-- The database and the chart when the filling begins. -/
inductive Started (cols : Columns py) (db : Db) (venue : Venue) (data : Json F)
    (name : Option String) : Db → SeatingChart → Prop
  | replaced {chartName : Json F} {chart : SeatingChart} {db₁ : Db} :
      importNameJson data name = .ok chartName → findChart py db venue chartName = some chart →
      deleteSections db ((sectionsOf db chart.id).map (·.id)) = .ok db₁ →
      Started cols db venue data name db₁ chart
  | created {chartName : Json F} {stored : String} :
      importNameJson data name = .ok chartName → findChart py db venue chartName = none →
      Started cols db venue data name
        { db with seatingCharts := db.seatingCharts.insert (newChart venue stored) }
        (newChart venue stored db.seatingCharts.nextId)

variable {venue : Venue} {name : Option String} {replace : Bool} {db₁ : Db} {chart_ : SeatingChart}

/-- A call is refused before its first write, or fills a chart. -/
theorem importJson_cases (cols : Columns py) (db : Db) (venue : Venue) (data : Json F)
    (name : Option String) (replace : Bool) :
    (RefusedFirst cols db venue data name replace ∧
        ∃ e, importJson cols db venue data name replace = (db, .error e)) ∨
      ∃ db₁ chart, Started cols db venue data name db₁ chart ∧
        importJson cols db venue data name replace = fillChartJson cols db₁ chart data := by
  unfold importJson
  cases hname : importNameJson data name with
  | error e => exact .inl ⟨.unnamed hname, e, rfl⟩
  | ok chartName =>
    dsimp only
    cases hfind : findChart py db venue chartName with
    | some existing =>
      dsimp only
      split_ifs with hreplace hlive
      · rw [Bool.not_eq_true'] at hreplace
        exact .inl ⟨.present hname hfind (.inl hreplace), _, rfl⟩
      · exact .inl ⟨.present hname hfind (.inr (.inl hlive)), _, rfl⟩
      · cases hdelete : deleteSections db ((sectionsOf db existing.id).map (·.id)) with
        | error e => exact .inl ⟨.present hname hfind (.inr (.inr ⟨e, hdelete⟩)), _, rfl⟩
        | ok db₁ => exact .inr ⟨db₁, existing, .replaced hname hfind hdelete, rfl⟩
    | none =>
      dsimp only
      cases htext : cols.textOf 255 "name" chartName with
      | error e => exact .inl ⟨.unfit hname hfind htext, e, rfl⟩
      | ok stored => exact .inr ⟨_, _, .created hname hfind, rfl⟩

/-- The chart stands, without a section. -/
theorem Started.empty (hc : ChartConstraints db)
    (h : Started cols db venue data name db₁ chart_) :
    sectionsOf db₁ chart_.id = [] ∧ SeatsLinked db₁ ∧ chart_ ∈ db₁.seatingCharts.rows := by
  cases h with
  | replaced hname hfind hdelete =>
    obtain ⟨hempty, hlinked⟩ := deleteSections_empties hc.seatsLinked hdelete
    refine ⟨hempty, hlinked, ?_⟩
    rw [(deleteSections_tables hdelete).1]
    unfold findChart at hfind
    split at hfind
    · cases hfind
    · exact List.mem_of_find?_eq_some hfind
  | created _ _ => exact ⟨hc.sectionsOf_next, hc.seatsLinked, List.mem_append_right _ (by simp)⟩

/-- **Filling a chart** without sections: with what the file holds, or not at all. -/
theorem fillChartJson_cases (hl : SeatsLinked db) (hempty : sectionsOf db chart_.id = []) :
    (∃ db' ds, fillChartJson cols db chart_ data = (db', .ok chart_) ∧ FileImportable cols data ds ∧
        db'.seatingCharts = db.seatingCharts ∧ keyedViews db' chart_.id = ds.map importView) ∨
      ∃ db' e, fillChartJson cols db chart_ data = (db', .error e) ∧
        (∃ added, AddsSections db db' added) ∧
        (db'.sections.rows = db.sections.rows → ∃ e, (fileSections data).bind
          (fun sections => (sections.take 1).mapM (sectionColumns cols)) = .error e) := by
  have hnoviews : keyedViews db chart_.id = [] := by
    unfold keyedViews
    rw [hempty]
    rfl
  unfold fillChartJson
  cases hitems : fileSections data with
  | error e =>
    exact .inr ⟨db, e, rfl, ⟨[], .refl db⟩, fun _ => ⟨e, rfl⟩⟩
  | ok items =>
    dsimp only
    rcases hloop : importSectionsJson cols db chart_.organization chart_.id items with ⟨db', o⟩
    obtain ⟨added, hadded⟩ := importSectionsJson_adds hloop
    cases o with
    | none =>
      obtain ⟨ds, hds, hnames, hseats, -, hviews⟩ := importSectionsJson_none hl hloop
      refine .inl ⟨db', ds, rfl, ⟨?_, hnames, hseats⟩, hadded.charts, ?_⟩
      · unfold decodeFile
        rw [hitems]
        exact hds
      · rw [hviews, hnoviews, List.nil_append]
    | some e =>
      refine .inr ⟨db', e, rfl, ⟨added, hadded⟩, fun hsame => ?_⟩
      exact importSectionsJson_first hempty hloop hsame

/-- A file that can be imported fills a chart without sections. -/
theorem fillChartJson_ok {ds : List SectionData} (hl : SeatsLinked db)
    (hempty : sectionsOf db chart_.id = []) (hfile : FileImportable cols data ds) :
    ∃ db', fillChartJson cols db chart_ data = (db', .ok chart_) := by
  have hdecoded := hfile.decoded
  unfold decodeFile at hdecoded
  unfold fillChartJson
  cases hitems : fileSections data with
  | error e => rw [hitems] at hdecoded; cases hdecoded
  | ok items =>
    rw [hitems] at hdecoded
    obtain ⟨db', hloop⟩ := @importSectionsJson_ok _ _ cols _ chart_.organization chart_.id _ _ hl
      hdecoded hfile.names hfile.seats fun d _ v hv => by
        unfold keyedViews at hv
        rw [hempty] at hv
        cases hv
    dsimp only
    rw [hloop]
    exact ⟨db', rfl⟩

/-- Sections that a chart had are not there any more. -/
theorem Started.replaced_rows {added : List Section}
    (hdelete : deleteSections db ((sectionsOf db chart_.id).map (·.id)) = .ok db₁)
    (hempty : sectionsOf db₁ chart_.id = []) (hadded : AddsSections db₁ db' added)
    (hsame : db'.sections.rows = db.sections.rows) : sectionsOf db chart_.id = [] := by
  rw [List.eq_nil_iff_forall_not_mem]
  intro s hs
  obtain ⟨hrow, hchart⟩ := List.mem_filter.mp hs
  rw [← hsame, hadded.rows] at hrow
  rcases List.mem_append.mp hrow with hrow | hrow
  · have hgone : s ∈ sectionsOf db₁ chart_.id := List.mem_filter.mpr ⟨hrow, hchart⟩
    rw [hempty] at hgone
    cases hgone
  · -- A new section has a new key.
    have hkey := hadded.fresh s hrow
    rw [(deleteSections_tables hdelete).2.1, Table.delete_nextId] at hkey
    exact absurd (db.sections.fresh s (List.mem_filter.mp hs).1) (not_lt.mpr hkey)

/-- A refused call writes nothing. -/
theorem RefusedFirst.unwritten (h : RefusedFirst cols db venue data name replace) :
    ∃ e, importJson cols db venue data name replace = (db, .error e) := by
  unfold importJson
  cases h with
  | unnamed hname => rw [hname]; exact ⟨_, rfl⟩
  | present hname hfind hwhy =>
    rw [hname]
    dsimp only
    rw [hfind]
    dsimp only
    split_ifs with hreplace hlive
    · exact ⟨_, rfl⟩
    · exact ⟨_, rfl⟩
    · rcases hwhy with hno | hlive' | ⟨e, hdelete⟩
      · rw [hno] at hreplace
        exact absurd rfl hreplace
      · exact absurd hlive' hlive
      · rw [hdelete]
        exact ⟨_, rfl⟩
  | unfit hname hfind htext =>
    rw [hname]
    dsimp only
    rw [hfind, htext]
    exact ⟨_, rfl⟩

/-- A file that fails on its first section writes nothing into the chart. -/
theorem fillChartJson_unwritten {e : Failure} (hfails : (fileSections data).bind
      (fun sections => (sections.take 1).mapM (sectionColumns cols)) = .error e) :
    ∃ e, fillChartJson cols db chart_ data = (db, .error e) := by
  unfold fillChartJson
  cases hitems : fileSections data with
  | error e => exact ⟨e, rfl⟩
  | ok items =>
    rw [hitems] at hfails
    cases items with
    | nil => cases hfails
    | cons first rest =>
      cases hcolumns : sectionColumns cols first with
      | ok d =>
        simp only [Except.bind, List.take_succ_cons, List.take_zero, List.mapM_cons, hcolumns] at hfails
        cases hfails
      | error e' =>
        dsimp only
        unfold importSectionsJson importSectionJson
        rw [hcolumns]
        exact ⟨e', rfl⟩

/-- **Importing a chart is all or nothing** exactly when the call is refused before its first
    write, when every section of the file can be stored, or when nothing is replaced. -/
theorem import_all_or_nothing_iff (hc : ChartConstraints db) (cols : Columns py) (venue : Venue)
    (data : Json F) (name : Option String) (replace : Bool) :
    AllOrNothing cols db data (importJson cols db venue data name replace) ↔
      RefusedFirst cols db venue data name replace ∨ (∃ ds, FileImportable cols data ds) ∨
        NothingReplaced cols db venue data name := by
  -- Either the call is refused before its first write, or it goes on with an emptied chart.
  rcases importJson_cases cols db venue data name replace with
    ⟨hrefused, e, hcall⟩ | ⟨db₁, chart, hstarted, hcall⟩ <;> rw [hcall]
  · exact iff_of_true (.unchanged rfl rfl rfl) (.inl hrefused)
  obtain ⟨hempty, hlinked, hmem⟩ := hstarted.empty hc
  rcases (fillChartJson_cases hlinked hempty : _ ∨ _) with
    ⟨db', ds, hfill, hfile, hcharts, hviews⟩ | ⟨db', e, hfill, ⟨added, hadded⟩, hfirst⟩ <;> rw [hfill]
  · exact iff_of_true (.imported (hcharts ▸ hmem) hfile.decoded hviews) (.inr (.inl ⟨ds, hfile⟩))
  constructor
  -- The file failed and yet nothing shows: what was deleted was nothing, and nothing was added.
  · rintro (_ | ⟨hcharts, hsections, -⟩)
    cases hstarted with
    | replaced hname hfind hdelete =>
      have hnone := Started.replaced_rows hdelete hempty hadded hsections
      rw [hnone] at hdelete
      refine .inr (.inr ⟨⟨_, _, hname, hfind, hnone⟩, hfirst (hsections.trans ?_)⟩)
      rw [(deleteSections_tables hdelete).2.1]
      exact (congrArg Table.rows (Table.delete_eq_self fun _ _ => rfl)).symm
    | created hname hfind =>
      have hlength := congrArg List.length hcharts
      rw [hadded.charts, Table.insert_rows, List.length_append, List.length_singleton] at hlength
      omega
  -- Each of the three conditions decides how the call went.
  · rintro (hrefused | ⟨ds, hfile⟩ | hnothing)
    · obtain ⟨e', he'⟩ := hrefused.unwritten
      rw [he', hfill] at hcall
      cases hcall
      exact .unchanged rfl rfl rfl
    · obtain ⟨db'', hok⟩ := fillChartJson_ok hlinked hempty hfile
      rw [hok] at hfill
      cases hfill
    · obtain ⟨⟨chartName, found, hname', hfind', hnone⟩, e', hfails⟩ := hnothing
      obtain ⟨e'', hunwritten⟩ := @fillChartJson_unwritten _ _ cols db₁ _ chart _ hfails
      rw [hunwritten] at hfill
      cases hfill
      cases hstarted with
      | replaced hname hfind hdelete =>
        rw [hname'] at hname
        cases hname
        rw [hfind'] at hfind
        cases hfind
        rw [hnone] at hdelete
        obtain ⟨hcharts, hsections, hseats⟩ := deleteSections_tables hdelete
        refine .unchanged (congrArg Table.rows hcharts) ?_ (hseats rfl)
        rw [hsections]
        exact congrArg Table.rows (Table.delete_eq_self fun _ _ => rfl)
      | created hname hfind =>
        rw [hname'] at hname
        cases hname
        rw [hfind'] at hfind
        cases hfind

end Import

/-! ### A file with a section twice, and one that can be imported -/

/-- One section with one seat, under a name. -/
def namedSection (name : String) : Json Extended :=
  .object [("name", .str name), ("rows", .list [.object [("row_label", .str "A"),
    ("seats", .list [.object [("number", .int 1)]])]])]

/-- A file of these sections. -/
def fileOf (sections : List (Json Extended)) : Json Extended :=
  .object [("chart", .object [("name", .str "House")]), ("sections", .list sections)]

/-- Replacing a chart by a file that names a section twice fails, and leaves the chart with the
    first of the two in place of its old section. -/
theorem import_half_done :
    (importJson exactColumns emptyChart mainHouse
        (fileOf [namedSection "Floor", namedSection "Floor"]) none true).2
      = .error (.service (.integrity "unique_section_name_per_chart")) ∧
    emptyChart.sections.rows.map (·.name) = ["Stalls"] ∧
    (importJson exactColumns emptyChart mainHouse
        (fileOf [namedSection "Floor", namedSection "Floor"]) none true).1.sections.rows.map (·.name)
      = ["Floor"] ∧
    ¬AllOrNothing exactColumns emptyChart (fileOf [namedSection "Floor", namedSection "Floor"])
      (importJson exactColumns emptyChart mainHouse
        (fileOf [namedSection "Floor", namedSection "Floor"]) none true) := by
  have herror : (importJson exactColumns emptyChart mainHouse
      (fileOf [namedSection "Floor", namedSection "Floor"]) none true).2
        = .error (.service (.integrity "unique_section_name_per_chart")) := by decide +kernel
  have hbefore : emptyChart.sections.rows.map (·.name) = ["Stalls"] := by decide
  have hafter : (importJson exactColumns emptyChart mainHouse
      (fileOf [namedSection "Floor", namedSection "Floor"]) none true).1.sections.rows.map (·.name)
        = ["Floor"] := by decide +kernel
  refine ⟨herror, hbefore, hafter, fun h => ?_⟩
  generalize importJson exactColumns emptyChart mainHouse
    (fileOf [namedSection "Floor", namedSection "Floor"]) none true = result at *
  cases h with
  | imported _ _ _ => cases herror
  | unchanged _ hsections _ =>
    rw [hsections, hbefore] at hafter
    exact absurd hafter (by decide)

/-- A file of two sections replaces the chart as a whole. -/
theorem import_all_or_nothing_floors :
    AllOrNothing exactColumns emptyChart (fileOf [namedSection "Floor", namedSection "Gallery"])
      (importJson exactColumns emptyChart mainHouse
        (fileOf [namedSection "Floor", namedSection "Gallery"]) none true) := by
  refine (import_all_or_nothing_iff emptyChart_constraints exactColumns mainHouse _ none true).mpr
    (.inr (.inl ⟨(decodeFile exactColumns
      (fileOf [namedSection "Floor", namedSection "Gallery"])).toOption.getD [], ?_, ?_, ?_⟩))
  · decide +kernel
  · decide +kernel
  · decide +kernel

end BoxOffice

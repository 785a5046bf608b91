import BoxOffice.Dashboard.UntouchedChart
import BoxOffice.Venues.ChartParsing
import BoxOffice.Venues.RoundTrip

namespace BoxOffice

open Relational

/-!
# Dashboard — opening the editor and saving

`untouched_save` settles when opening the chart editor and saving at once changes nothing of a
section: exactly when its parameters are editable and its seats are generated.  A section that the
editor saved or that was built from a spec is generated (`GeneratorWrote.generated`).
-/

/-! ### Who writes the seats of a section -/

/-- Every section belongs to a stored chart (`Section.chart`, a foreign key). -/
def SectionsLinked (db : Db) : Prop :=
  ∀ s ∈ db.sections.rows, ∃ c ∈ db.seatingCharts.rows, c.id = s.chart

/-- The seats of the section were last written by an editor save or by a build from a spec, and
    neither they nor the section changed since. -/
inductive GeneratorWrote (trig : Trig) : Db → Section → Prop
  | editor {db db' : Db} {organization chart : Nat} {payload : List (String × Nat × SectionEntry)}
      {saved : List Nat} {errors : List (String × String)} {s : Section}
      (h : chartEditorSave trig db organization chart payload = (db', .json saved errors))
      (hsaved : s.id ∈ saved) (hs : db'.sections.get? s.id = some s) : GeneratorWrote trig db' s
  | spec {db db' : Db} {text : Text} {venue : Venue} {spec : Option RawSpec} {name : Option String}
      {replace : Bool} {chart : SeatingChart} {s : Section} (hlinked : SectionsLinked db)
      (h : buildChartFromSpec trig text db venue spec name replace = .ok (db', chart))
      (hs : s ∈ sectionsOf db' chart.id) : GeneratorWrote trig db' s
  | later {db db' : Db} {s : Section} (h : GeneratorWrote trig db s)
      (hseats : seatsOf db' s.id = seatsOf db s.id) : GeneratorWrote trig db' s

section Spec

variable {trig : Trig} {text : Text} {db db' : Db} {chart : SeatingChart}

/-- What was generated stays so while the seats stay. -/
theorem generated_congr {s : Section} (hseats : seatsOf db' s.id = seatsOf db s.id)
    (h : Generated trig db s) : Generated trig db' s := by
  unfold Generated StoredAs at h ⊢
  rwa [hseats]

/-- One turn of the build: the new section is generated, and the others stay so. -/
theorem buildSection_generated {organization chart ordering : Nat} {spec : SectionSpec}
    (h : buildSection trig db organization chart ordering spec = .ok db')
    (hdb : ∀ s ∈ sectionsOf db chart, Generated trig db s) :
    ∀ s ∈ sectionsOf db' chart, Generated trig db' s := by
  unfold buildSection at h
  dsimp only at h
  split_ifs at h
  have hsections : db'.sections = db.sections.insert
      (specSection organization chart ordering spec) := by
    rcases generateSeats_ok h with ⟨-, seats, rfl⟩ | ⟨-, db₁, seats, hd, rfl⟩
    · rfl
    · obtain ⟨-, rfl⟩ := deleteSeats_ok hd
      rfl
  intro s hs
  obtain ⟨hs, hchart⟩ := List.mem_filter.mp hs
  rw [hsections] at hs
  rcases Table.mem_insert.mp hs with hs | rfl
  · have hne : s.id ≠ db.sections.nextId := Table.key_ne_nextId hs
    exact generated_congr (generateSeats_frame h hne) (hdb s (List.mem_filter.mpr ⟨hs, hchart⟩))
  · exact generateSeats_storedAs h

/-- The loop. -/
theorem buildSections_generated {organization chart ordering : Nat} {specs : List SectionSpec}
    (h : buildSections trig db organization chart ordering specs = .ok db')
    (hdb : ∀ s ∈ sectionsOf db chart, Generated trig db s) :
    ∀ s ∈ sectionsOf db' chart, Generated trig db' s := by
  induction specs generalizing db ordering with
  | nil =>
    rw [buildSections] at h
    cases h
    exact hdb
  | cons spec rest ih =>
    rw [buildSections] at h
    cases hb : buildSection trig db organization chart ordering spec with
    | error e => rw [hb] at h; cases h
    | ok db₁ =>
      rw [hb] at h
      exact ih h (buildSection_generated hb hdb)

/-- The sections filled in from a specification are generated. -/
theorem fillFromSpec_generated {copy : SeatingChart} {spec : ChartSpec}
    (hnone : sectionsOf db chart.id = []) (h : fillFromSpec trig db chart spec = .ok (db', copy)) :
    ∀ s ∈ sectionsOf db' copy.id, Generated trig db' s := by
  unfold fillFromSpec at h
  cases hb : buildSections trig db chart.organization chart.id 0 spec.sections with
  | error e => rw [hb] at h; cases h
  | ok db₁ =>
    rw [hb] at h
    cases h
    exact buildSections_generated hb fun s hs => by rw [hnone] at hs; cases hs

/-- A chart has no sections after they were deleted. -/
theorem sectionsOf_deleteSections {chart : Nat}
    (h : deleteSections db ((sectionsOf db chart).map (·.id)) = .ok db') :
    sectionsOf db' chart = [] := by
  have hrows : ∀ s ∈ db'.sections.rows, s ∈ db.sections.rows ∧
      ((sectionsOf db chart).map (·.id)).contains s.id = false := by
    unfold deleteSections at h
    dsimp only at h
    split_ifs at h
    cases hd : deleteSeats db ((db.seats.rows.filter fun s =>
        ((sectionsOf db chart).map (·.id)).contains s.section_).map (·.id)) with
    | error e => rw [hd] at h; cases h
    | ok db₁ =>
      rw [hd] at h
      cases h
      obtain ⟨-, rfl⟩ := deleteSeats_ok hd
      exact fun s hs => Table.mem_delete.mp hs
  unfold sectionsOf at hrows ⊢
  rw [List.filter_eq_nil_iff]
  intro s hs hchart
  obtain ⟨hs, hkept⟩ := hrows s hs
  have hsection : s ∈ db.sections.rows.filter fun s => s.chart == chart :=
    List.mem_filter.mpr ⟨hs, hchart⟩
  have hmem :=
    List.contains_iff_mem.mpr (List.mem_map_of_mem (f := fun s : Section => s.id) hsection)
  exact Bool.false_ne_true (hkept.symm.trans hmem)

/-- **A chart built from a spec** has its seats from the generator. -/
theorem buildChartFromSpec_generated {venue : Venue} {spec : Option RawSpec} {name : Option String}
    {replace : Bool} (hlinked : SectionsLinked db)
    (h : buildChartFromSpec trig text db venue spec name replace = .ok (db', chart)) :
    ∀ s ∈ sectionsOf db' chart.id, Generated trig db' s := by
  unfold buildChartFromSpec at h
  cases hv : validateChartSpec text spec with
  | error e => rw [hv] at h; cases h
  | ok valid =>
    rw [hv] at h
    dsimp only at h
    split at h
    · rename_i existing _
      split_ifs at h
      cases hd : deleteSections db ((sectionsOf db existing.id).map (·.id)) with
      | error e => rw [hd] at h; cases h
      | ok db₁ =>
        rw [hd] at h
        exact fillFromSpec_generated (sectionsOf_deleteSections hd) h
    · refine fillFromSpec_generated ?_ h
      -- The key of the new chart is new, so no section refers to it yet.
      unfold sectionsOf
      rw [List.filter_eq_nil_iff]
      intro s hs hchart
      obtain ⟨c, hc, hid⟩ := hlinked s hs
      exact Table.key_ne_nextId hc (hid.trans (beq_iff_eq.mp hchart))

/-- **What the generator wrote** is generated. -/
theorem GeneratorWrote.generated {s : Section} (h : GeneratorWrote trig db s) :
    Generated trig db s := by
  induction h with
  | editor h hsaved hs =>
    unfold chartEditorSave at h
    obtain ⟨s', hs', hgenerated⟩ := saveEntries_generated _ (fun t ht => by cases ht) h _ hsaved
    rw [hs] at hs'
    exact Option.some.inj hs' ▸ hgenerated
  | spec hlinked h hs => exact buildChartFromSpec_generated hlinked h _ hs
  | later h hseats ih => exact generated_congr hseats ih

end Spec

/-! ### The request -/

/-- Opening the section in the editor and saving what the page holds: the response reports the
    section as saved, without an error, and the section is as it was. -/
def Untouched (trig : Trig) (db : Db) (organization chart : Nat) (s : Section) : Prop :=
  ∃ db', chartEditorSave trig db organization chart (buildPayload [makeSection s])
    = (db', .json [s.id] []) ∧ Kept db db' s

section Request

variable {trig : Trig} {db : Db} {organization chart : Nat} {s : Section}

/-- The objects in memory are the sections of the chart that the payload names. -/
theorem find?_loaded {payload : List (String × Nat × SectionEntry)}
    (hs : db.sections.get? s.id = some s) (horganization : s.organization = organization)
    (hchart : s.chart = chart) (hnamed : ∃ e ∈ payload, e.2.1 = s.id) :
    (db.sections.rows.filter fun x => x.organization == organization && x.chart == chart &&
      payload.any fun e => e.2.1 == x.id).find? (·.id == s.id) = some s := by
  obtain ⟨e, he, hid⟩ := hnamed
  refine Table.find?_filter hs ?_
  rw [horganization, hchart, beq_self_eq_true, beq_self_eq_true, Bool.true_and, Bool.true_and,
    List.any_eq_true]
  exact ⟨e, he, beq_iff_eq.mpr hid⟩

/-- A request for one section is the save of that section. -/
theorem untouched_iff (hs : db.sections.get? s.id = some s)
    (horganization : s.organization = organization)
    (hchart : s.chart = chart) :
    Untouched trig db organization chart s ↔ ∃ db', saveUntouched trig db s = .ok db' ∧
      Kept db db' s := by
  have hpayload : buildPayload [makeSection s] = [(makeSection s).entry] := rfl
  -- The payload has one entry, which meets the section in memory.
  have hmemory := (@find?_loaded _ _ _ _ [(makeSection s).entry]) hs horganization hchart
    ⟨_, List.mem_singleton_self _, rfl⟩
  have hentry : saveSection trig db { s with params := (makeSection s).layout.apply s.params }
      (cleanIdentityPairs ((makeSection s).removedIds.map splitKey))
      (cleanIdentityPairs ((makeSection s).accessibleIds.map splitKey))
        = saveUntouched trig db s := by
    rw [editorEntry_apply]
    rfl
  unfold Untouched chartEditorSave
  rw [hpayload]
  generalize db.sections.rows.filter _ = sections at hmemory ⊢
  have hid : (makeSection s).id = s.id := rfl
  unfold EditorSection.entry
  simp only [saveEntries, hid, hmemory, hentry]
  cases hsave : saveUntouched trig db s with
  | ok db' =>
    dsimp only
    constructor
    · rintro ⟨db₁, h, hkept⟩
      cases h
      exact ⟨_, rfl, hkept⟩
    · rintro ⟨db₁, h, hkept⟩
      cases h
      exact ⟨_, rfl, hkept⟩
  | error e =>
    dsimp only
    -- A failed save answers with an error or lists one.
    constructor
    · rintro ⟨db₁, h, -⟩
      split_ifs at h
      · cases (Prod.ext_iff.mp h).2
      · cases (Prod.ext_iff.mp h).2
    · rintro ⟨db₁, h, -⟩
      cases h

/-- An offset beyond the slider does not survive. -/
theorem not_untouched_of_wide (hs : db.sections.get? s.id = some s)
    (horganization : s.organization = organization) (hchart : s.chart = chart)
    (hwide : 2 < s.params.rowXOffset) : ¬ Untouched trig db organization chart s := by
  intro h
  have hkept := (saveSection_untouched hs).mp ((untouched_iff hs horganization hchart).mp h)
  exact absurd hkept.1.inRange.rowXOffset.2 (not_le.mpr hwide)

/-- The payload of a page: each section once, under its own key. -/
theorem mem_editorPayload {e : String × Nat × SectionEntry}
    (he : e ∈ buildPayload (editorSections db chart)) :
    ∃ x ∈ sectionsOf db chart, e = (makeSection x).entry := by
  obtain ⟨m, hm, rfl⟩ := List.mem_map.mp he
  obtain ⟨x, hx, rfl⟩ := List.mem_map.mp (mem_sortBy.mp hm)
  exact ⟨x, mem_sortBy.mp hx, rfl⟩

/-- The payload names each section once. -/
theorem editorPayload_nodup : ((buildPayload (editorSections db chart)).map (·.2.1)).Nodup := by
  unfold buildPayload editorSections orderedSections
  rw [List.map_map]
  have hids : ((sectionsOf db chart).map (·.id)).Nodup :=
    db.sections.nodup.sublist (List.filter_sublist.map _)
  have hperm : ((sortBy (·.id) ((sortBy (fun s : Section => toLex (s.ordering, s.name))
      (sectionsOf db chart)).map makeSection)).map fun m => m.id).Perm
      ((sectionsOf db chart).map (·.id)) := by
    refine ((sortBy_perm _ _).map _).trans ?_
    rw [List.map_map]
    exact (sortBy_perm _ _).map _
  exact hperm.nodup_iff.mpr hids

/-- **An untouched save.** Opening the editor and saving leaves a section as it was, without an
    error, exactly when its parameters are editable and its seats are those that they ask for;
    then the save of the whole page leaves it so too, whatever becomes of the other sections.
    What the generator wrote needs only the first condition. -/
theorem untouched_save (hs : db.sections.get? s.id = some s)
    (horganization : s.organization = organization)
    (hchart : s.chart = chart) :
    (Untouched trig db organization chart s ↔ s.params.Editable ∧ Generated trig db s) ∧
    (s.params.Editable ∧ Generated trig db s →
      Kept db (chartEditorSave trig db organization chart
        (buildPayload (editorSections db chart))).1 s ∧
      ∀ e ∈ (chartEditorSave trig db organization chart
        (buildPayload (editorSections db chart))).2.errors, e.1 ≠ toString s.id) ∧
    (GeneratorWrote trig db s → (Untouched trig db organization chart s ↔ s.params.Editable)) := by
  have hiff : Untouched trig db organization chart s ↔ s.params.Editable ∧ Generated trig db s :=
    (untouched_iff hs horganization hchart).trans (saveSection_untouched hs)
  refine ⟨hiff, fun hgood => ?_, fun h => hiff.trans (and_iff_left h.generated)⟩
  have hmem : (makeSection s).entry ∈ buildPayload (editorSections db chart) := by
    refine List.mem_map_of_mem (mem_sortBy.mpr (List.mem_map_of_mem (mem_sortBy.mpr ?_)))
    exact List.mem_filter.mpr ⟨Table.get?_mem hs, beq_iff_eq.mpr hchart⟩
  refine saveEntries_untouched _ (fun e he => ?_) editorPayload_nodup (fun e he hid => ?_) hs
    (find?_loaded hs horganization hchart ⟨_, hmem, rfl⟩) hgood (fun x hx => by cases hx)
  · obtain ⟨x, -, rfl⟩ := mem_editorPayload he
    rfl
  · obtain ⟨x, hx, rfl⟩ := mem_editorPayload he
    have hxs : x = s := Table.eq_of_key_eq (List.mem_filter.mp hx).1 (Table.get?_mem hs) hid
    rw [hxs]

end Request

/-! ### A section that is kept and one that is not -/

/-- The section that the editor saved with two rows of one seat. -/
def blockSection : Section :=
  ⟨1, 1, 1, "Stalls", 0, "", { sectionDefaults with rows := 2, seatsPerRow := 1 }⟩

/-- The sample block can be edited on the page. -/
theorem blockSection_editable : blockSection.params.Editable where
  inRange := ⟨by decide, by decide, by decide, by decide, by decide, by decide⟩
  removed := fun i hi => by cases hi
  accessible := fun i hi => by cases hi

/-- Saving the untouched page of the sample block. -/
theorem untouched_save_block : Untouched flatTrig (blockChart 2 1) 1 1 blockSection :=
  (((@untouched_save _ _ 1 1 blockSection) rfl rfl rfl).2.2
    (@GeneratorWrote.editor _ _ _ _ _ _ [1] [] _ rfl (by decide) rfl)).mpr blockSection_editable

/-- Text functions that are exact on plain lower-case text. -/
def plainText : Text := ⟨id, id⟩

/-- A spec of one section of two rows of one seat, the second row three units to the right. -/
def wideSpec : RawSpec where
  chartName := "Parsed"
  sections := some [some {
    name := "stalls"
    tier := ""
    rows := some 2
    seatsPerRow := some 1
    originX := none
    originY := none
    rotation := none
    seatPitch := none
    rowPitch := none
    arcRadius := none
    offsetMode := none
    rowXOffset := some 3
    altRowSeatDelta := none
    numberingScheme := none
    rowLabelScheme := none
    rowLabelStart := none
    removedSeats := []
    accessibleSeats := []
    rowAlignment := none }]

/-- The section that the build of the spec stores. -/
def wideSection : Section :=
  ⟨2, 1, 2, "stalls", 0, "",
    { sectionDefaults with rows := 2, seatsPerRow := 1, rowXOffset := 3 }⟩

/-- The build stores an offset of three; opening the editor and saving makes it two, and moves
    the seat of the second row. -/
theorem wide_not_untouched :
    ∃ db chart, buildChartFromSpec flatTrig plainText sampleDb mainHouse (some wideSpec) none false
        = .ok (db, chart) ∧
      sectionsOf db chart.id = [wideSection] ∧
      ((seatsOf db wideSection.id).map fun x => (x.rowLabel, x.number, x.x))
        = [("A", "1", 0), ("B", "1", 3)] ∧
      ((chartEditorSave flatTrig db 1 chart.id
        (buildPayload [makeSection wideSection])).1.sections.get?
        wideSection.id).map (·.params.rowXOffset) = some 2 ∧
      (seatsOf (chartEditorSave flatTrig db 1 chart.id (buildPayload [makeSection wideSection])).1
        wideSection.id).map (fun x => (x.rowLabel, x.number, x.x))
          = [("A", "1", 0), ("B", "1", 2)] ∧
      ¬ Untouched flatTrig db 1 chart.id wideSection := by
  refine ⟨_, _, rfl, rfl, by decide +kernel, by decide +kernel, by decide +kernel, ?_⟩
  exact not_untouched_of_wide rfl rfl rfl (by decide)

end BoxOffice

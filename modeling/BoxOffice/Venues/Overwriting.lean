import BoxOffice.Venues.Replacing

namespace BoxOffice

open Relational Transition

/-!
# Venues — overwriting a chart

`import_chart_data` and `build_chart_from_spec` delete the sections of the chart they overwrite
and fill it again.  On well-formed input the filling goes through (`fillChart_ok`,
`fillFromSpec_ok`), so with `generate_seats` beside them the three functions fail only for live
tickets exactly when no protected row keeps what they delete
(`replacing_fails_only_live_iff`).

A seat that was ever sold has an order line, and voiding its ticket leaves the line:
`voided_seat_stops_regeneration`.
-/

section Overwriting

variable {trig : Trig} {text : Text} {db db' : Db}

/-! ### Filling a chart -/

/-- A chart whose sections were deleted has none left, and no seat refers to a section that is
    still to come. -/
theorem deleteSections_empties {chart : SeatingChart} (hl : SeatsLinked db)
    (h : deleteSections db ((sectionsOf db chart.id).map (·.id)) = .ok db') :
    sectionsOf db' chart.id = [] ∧ SeatsLinked db' := by
  unfold deleteSections at h
  dsimp only at h
  split_ifs at h
  cases hd : deleteSeats db ((db.seats.rows.filter fun s =>
      ((sectionsOf db chart.id).map (·.id)).contains s.section_).map (·.id)) with
  | error e => rw [hd] at h; cases h
  | ok db₁ =>
    rw [hd] at h
    cases h
    obtain ⟨-, rfl⟩ := deleteSeats_ok hd
    constructor
    · refine List.filter_eq_nil_iff.mpr fun s hs hchart => ?_
      obtain ⟨hs, hkept⟩ := Table.mem_delete.mp hs
      have hmem : s ∈ sectionsOf db chart.id := List.mem_filter.mpr ⟨hs, hchart⟩
      rw [List.contains_iff_mem.mpr (List.mem_map_of_mem (f := (·.id)) hmem)] at hkept
      cases hkept
    · exact fun x hx => hl x (Table.mem_delete.mp hx).1

/-- Importable data fills a chart that has no section. -/
theorem fillChart_ok (chart : SeatingChart) {data : ChartData} (hl : SeatsLinked db)
    (hempty : sectionsOf db chart.id = []) (hds : ∀ d ∈ data.sections, d.Importable)
    (hnames : (data.sections.map (·.name)).Nodup) :
    (fillChart db chart data).2 = .ok chart := by
  have hviews : keyedViews db chart.id = [] := by
    unfold keyedViews
    rw [hempty]
    rfl
  obtain ⟨db', himport, -⟩ := @importSections_ok _ chart.organization chart.id _ hl hds hnames
    fun d _ v hv => by rw [hviews] at hv; cases hv
  unfold fillChart
  rw [himport]

/-- **One turn.** A section with a new name is created, and its seats are generated: it has none
    yet that could stop the generator. -/
theorem buildSection_ok {organization chart ordering : Nat} {s : SectionSpec} (hl : SeatsLinked db)
    (hname : ∀ t ∈ sectionsOf db chart, t.name ≠ s.name) :
    ∃ db', buildSection trig db organization chart ordering s = .ok db' ∧ SeatsLinked db' ∧
      sectionsOf db' chart
        = sectionsOf db chart ++
          [specSection organization chart ordering s db.sections.nextId] := by
  have hnew : (sectionsOf db chart).any (·.name == s.name) = false := by
    rw [List.any_eq_false]
    exact fun t ht hsame => hname t ht (beq_iff_eq.mp hsame)
  have hnone : seatsOf { db with
      sections := db.sections.insert (specSection organization chart ordering s) }
      (specSection organization chart ordering s db.sections.nextId).id = [] :=
    List.filter_eq_nil_iff.mpr fun x hx hsection =>
      (hl x hx).ne (beq_iff_eq.mp hsection)
  unfold buildSection generateSeats
  dsimp only
  rw [hnew, if_neg Bool.false_ne_true, if_pos hnone]
  refine ⟨_, rfl, fun x hx => ?_, ?_⟩
  · rcases Table.mem_insertMany hx with hx | ⟨_, -, _, -, rfl⟩
    · exact (hl x hx).trans (Nat.lt_succ_self _)
    · exact Nat.lt_succ_self _
  · unfold sectionsOf
    rw [Table.insert_rows, List.filter_append]
    simp [specSection]

/-- **The loop.** Sections with names of their own are built one after the other. -/
theorem buildSections_ok {organization chart : Nat} {specs : List SectionSpec}
    (hl : SeatsLinked db) (hnames : (specs.map (·.name)).Nodup)
    (hnew : ∀ s ∈ specs, ∀ t ∈ sectionsOf db chart, t.name ≠ s.name) (ordering : Nat) :
    ∃ db', buildSections trig db organization chart ordering specs = .ok db' := by
  induction specs generalizing db ordering with
  | nil => exact ⟨db, rfl⟩
  | cons s rest ih =>
    -- The names that are left differ from those built so far and from the one built now.
    obtain ⟨hs, hrest⟩ := List.nodup_cons.mp hnames
    obtain ⟨db₁, hturn, hl₁, hsections⟩ := @buildSection_ok trig _ organization chart ordering s hl
      (hnew s List.mem_cons_self)
    obtain ⟨db', hloop⟩ := ih hl₁ hrest (fun r hr t ht => by
      rw [hsections] at ht
      rcases List.mem_append.mp ht with ht | ht
      · exact hnew r (List.mem_cons_of_mem _ hr) t ht
      · rw [List.mem_singleton.mp ht]
        intro hsame
        exact hs (List.mem_map.mpr ⟨r, hr, hsame.symm⟩)) (ordering + 1)
    refine ⟨db', ?_⟩
    unfold buildSections
    rw [hturn]
    exact hloop

/-- An empty chart can be filled in from sections with different names. -/
theorem fillFromSpec_ok (chart : SeatingChart) {spec : ChartSpec} (hl : SeatsLinked db)
    (hempty : sectionsOf db chart.id = []) (hnames : (spec.sections.map (·.name)).Nodup) :
    ∃ db', fillFromSpec trig db chart spec = .ok (db', chart) := by
  obtain ⟨db', hloop⟩ := @buildSections_ok trig _ chart.organization chart.id _ hl hnames
    (fun _ _ t ht => by rw [hempty] at ht; cases ht) 0
  refine ⟨db', ?_⟩
  unfold fillFromSpec
  rw [hloop]

/-! ### The answers -/

/-- Nothing is on the seats of a chart that does not exist. -/
theorem not_liveOn_nil : ¬LiveOn db [] := fun ⟨_, _, _, _, _, hmem, _⟩ => List.not_mem_nil hmem

/-- A chart that was just created has no section that could be in the way. -/
theorem fillChart_new (hc : ChartConstraints db) (venue : Venue) (name : String) {data : ChartData}
    (hds : ∀ d ∈ data.sections, d.Importable) (hnames : (data.sections.map (·.name)).Nodup) :
    (fillChart { db with seatingCharts := db.seatingCharts.insert (newChart venue name) }
      (newChart venue name db.seatingCharts.nextId) data).2
        = .ok (newChart venue name db.seatingCharts.nextId) :=
  fillChart_ok _ hc.seatsLinked hc.sectionsOf_next hds hnames

/-- A new chart can be filled in from sections with different names. -/
theorem fillFromSpec_new (hc : ChartConstraints db) (venue : Venue) (name : String)
    {spec : ChartSpec} (hnames : (spec.sections.map (·.name)).Nodup) :
    ∃ db', fillFromSpec trig
        { db with seatingCharts := db.seatingCharts.insert (newChart venue name) }
        (newChart venue name db.seatingCharts.nextId) spec
      = .ok (db', newChart venue name db.seatingCharts.nextId) :=
  fillFromSpec_ok _ hc.seatsLinked hc.sectionsOf_next hnames

/-- Nothing is sold on no section. -/
theorem not_soldOn_nil : ¬SoldOn db [] := fun ⟨_, _, _, _, hmem, _⟩ => List.not_mem_nil hmem

/-- Nothing is priced from no section. -/
theorem not_pricedFrom_nil : ¬PricedFrom db [] := fun ⟨_, _, ⟨_, hmem, _⟩, _⟩ =>
  List.not_mem_nil hmem

/-- A call that overwrites no chart finds nothing on the seats of it. -/
theorem Answers.of_no_chart {call : Replacement} (hsections : call.sections text db = [])
    (hprotected : call.Protected text db →
      SoldOn db (call.sections text db) ∨ PricedFrom db (call.sections text db))
    (hok : call.outcome trig text db = .ok ()) : Answers trig text db call where
  live := fun h => by rw [hsections] at h; exact absurd h not_liveOn_nil
  stopped := fun _ h => by
    have hon := hprotected h
    rw [hsections] at hon
    exact (hon.elim not_soldOn_nil not_pricedFrom_nil).elim
  through := fun _ _ => hok

/-- A call that overwrites a chart: refused for live tickets, stopped by the delete, or filled. -/
theorem Answers.of_chart {call : Replacement} (c : SeatingChart) (refusal : ServiceError)
    (fill : Db → Except ServiceError Unit)
    (hsections : call.sections text db = sectionIds db (some c))
    (hrefusal : call.refusal text db = some refusal)
    (hprotected : call.Protected text db ↔
      SoldOn db (sectionIds db (some c)) ∨ PricedFrom db (sectionIds db (some c)))
    (hrun : call.outcome trig text db
      = if liveChartTickets db c.id ≠ [] then .error refusal
        else match deleteSections db (sectionIds db (some c)) with
          | .error e => .error e
          | .ok db => fill db)
    (hfill : ∀ db', deleteSections db (sectionIds db (some c)) = .ok db' → fill db' = .ok ()) :
    Answers trig text db call := by
  constructor
  · intro hlive
    rw [hsections] at hlive
    rw [hrefusal, hrun, if_pos (liveChartTickets_ne_nil.mpr hlive)]
    exact ⟨_, rfl, rfl⟩
  · intro hlive hp
    rw [hsections] at hlive
    rw [hrun, if_neg (mt liveChartTickets_ne_nil.mp hlive)]
    rcases deleteSections_cases db (sectionIds db (some c)) with ⟨-, model, hd⟩ | ⟨hfree, -⟩
    · rw [hd]
      exact ⟨model, rfl⟩
    · exact absurd (hprotected.mp hp) hfree
  · intro hlive hp
    rw [hsections] at hlive
    rw [hrun, if_neg (mt liveChartTickets_ne_nil.mp hlive)]
    rcases deleteSections_cases db (sectionIds db (some c)) with ⟨hkept, -⟩ | ⟨-, db', hd⟩
    · exact absurd (hprotected.mpr hkept) hp
    · rw [hd]
      exact hfill db' hd

/-- The answer of an import, case by case. -/
theorem importChartData_answers (hc : ChartConstraints db) {venue : Venue} {data : ChartData}
    {name : Option String}
    (hw : (Replacement.importChartData venue data name).WellFormed trig text) :
    Answers trig text db (.importChartData venue data name) := by
  obtain ⟨hlength, hds, hnames⟩ := hw
  cases hchart : chartNamed db venue (importName data name) with
  | none =>
    have hsections : (Replacement.importChartData venue data name).sections text db = [] := by
      show sectionIds db (chartNamed db venue (importName data name)) = []
      rw [hchart]
      rfl
    refine Answers.of_no_chart hsections id ?_
    unfold chartNamed at hchart
    unfold Replacement.outcome importChartData
    dsimp only
    rw [hchart]
    dsimp only
    rw [if_neg (not_lt.mpr hlength), fillChart_new hc venue _ hds hnames]
    rfl
  | some c =>
    refine Answers.of_chart c (importRefusal db (importName data name) c)
      (fun db => (fillChart db c data).2.map fun _ => ()) ?_ ?_ ?_ ?_ ?_
    · show sectionIds db (chartNamed db venue (importName data name)) = _
      rw [hchart]
    · show (chartNamed db venue (importName data name)).map _ = _
      rw [hchart]
      rfl
    · show SoldOn db (sectionIds db (chartNamed db venue (importName data name))) ∨
        PricedFrom db (sectionIds db (chartNamed db venue (importName data name))) ↔ _
      rw [hchart]
    · unfold chartNamed at hchart
      unfold Replacement.outcome importChartData sectionIds importRefusal
      dsimp only
      rw [hchart]
      dsimp only
      rw [if_neg (by decide)]
      split
      · rfl
      · cases deleteSections db ((sectionsOf db c.id).map (·.id)) <;> rfl
    · intro db' hd
      -- After the delete the chart is as empty as a new one.
      obtain ⟨hempty, hl⟩ := deleteSections_empties hc.seatsLinked hd
      rw [fillChart_ok c hl hempty hds hnames]
      rfl

/-- The answer of a build from a specification, case by case. -/
theorem buildChartFromSpec_answers (hc : ChartConstraints db) {venue : Venue}
    {spec : Option RawSpec} {name : Option String}
    (hw : (Replacement.buildChartFromSpec venue spec name).WellFormed trig text) :
    Answers trig text db (.buildChartFromSpec venue spec name) := by
  obtain ⟨valid, hvalid, hnames, -⟩ := hw
  have hcall : (Replacement.buildChartFromSpec venue spec name).chart text db
      = chartNamed db venue (specChartName text valid name) := by
    unfold Replacement.chart
    dsimp only
    rw [hvalid]
  have hsections : (Replacement.buildChartFromSpec venue spec name).sections text db
      = sectionIds db (chartNamed db venue (specChartName text valid name)) :=
    congrArg (sectionIds db) hcall
  cases hchart : chartNamed db venue (specChartName text valid name) with
  | none =>
    -- No chart of that name: a new one is filled, and nothing is in its way.
    rw [hchart] at hsections
    refine Answers.of_no_chart hsections id ?_
    obtain ⟨db', hfill⟩ :=
      @fillFromSpec_new trig _ hc venue (specChartName text valid name) _ hnames
    unfold chartNamed at hchart
    unfold Replacement.outcome buildChartFromSpec
    dsimp only
    rw [hvalid]
    dsimp only
    rw [hchart]
    dsimp only
    rw [hfill]
    rfl
  | some c =>
    rw [hchart] at hsections
    -- The chart is emptied first, which is where the call can be refused.
    refine Answers.of_chart c (buildRefusal db (specChartName text valid name) c)
      (fun db => (fillFromSpec trig db c valid).map fun _ => ()) hsections ?_ ?_ ?_ ?_
    · unfold Replacement.refusal
      dsimp only
      rw [hvalid]
      dsimp only
      rw [hcall, hchart]
      rfl
    · rw [← hsections]
      exact Iff.rfl
    · unfold chartNamed at hchart
      unfold Replacement.outcome buildChartFromSpec sectionIds buildRefusal
      dsimp only
      rw [hvalid]
      dsimp only
      rw [hchart]
      dsimp only
      rw [if_neg (by decide)]
      split
      · rfl
      · cases deleteSections db ((sectionsOf db c.id).map (·.id)) <;> rfl
    · intro db' hd
      obtain ⟨hempty, hl⟩ := deleteSections_empties hc.seatsLinked hd
      obtain ⟨db'', hfill⟩ := @fillFromSpec_ok trig _ c valid hl hempty hnames
      rw [hfill]
      rfl

end Overwriting

/-- **When replacing seats fails only for live tickets.**  On well-formed input, a call raises its
    refusal for live tickets exactly when one is on a seat it replaces and goes through otherwise,
    if and only if there is such a ticket or no protected row keeps what it deletes. -/
theorem replacing_fails_only_live_iff (trig : Trig) (text : Text) (db : Db) (call : Replacement)
    (hc : ChartConstraints db) (hw : call.WellFormed trig text) :
    call.FailsOnlyLive trig text db ↔
      LiveOn db (call.sections text db) ∨ ¬call.Protected text db := by
  refine Answers.failsOnlyLive_iff ?_
  cases call with
  | generateSeats section_ rowCounts accessible removedIds accessibleIds =>
    exact generateSeats_answers section_ rowCounts accessible removedIds accessibleIds
  | importChartData venue data name => exact importChartData_answers hc hw
  | buildChartFromSpec venue spec name => exact buildChartFromSpec_answers hc hw

/-! ### A section that can be regenerated and one that cannot -/

/-- Texts that have nothing to strip and no capitals. -/
def asIs : Text := ⟨id, id⟩

/-- The section of the sample theater, generated again with its one seat. -/
def againStalls : Replacement :=
  .generateSeats (Section.mk 1 1 1 "Stalls" 0 "" sampleParams) [1] (fun _ => []) [] []

/-- The chart of two rows, imported over itself. -/
def againHouse : Replacement :=
  .importChartData mainHouse (exportChartData (blockChart 2 1) houseChart) none

/-- The sample import is well formed. -/
theorem againHouse_wellFormed : againHouse.WellFormed flatTrig asIs := by
  refine ⟨by decide, fun d hd => ?_, by decide⟩
  obtain ⟨v, hv, rfl⟩ := List.mem_map.mp hd
  obtain ⟨x, hx, -, rfl⟩ := mem_chartViews hv
  exact exportSection_importable (sectionView_stored blockChart_constraints hx)

/-- Nothing was sold on the chart and its prices are on no cart, so it is overwritten. -/
theorem block_overwritten : againHouse.FailsOnlyLive flatTrig asIs (blockChart 2 1) := by
  refine (replacing_fails_only_live_iff flatTrig asIs (blockChart 2 1) againHouse
    blockChart_constraints againHouse_wellFormed).mpr (.inr ?_)
  rintro (⟨i, hi, -⟩ | ⟨t, ht, -, hprotected⟩)
  · cases hi
  · revert t
    decide

/-- The seat of the hold is paid for, and the order is cancelled. -/
def soldAndCancelled (hold : Hold) : State :=
  exec (.orderCancel 1) (exec (.fulfillHold hold sampleArgs) sampleCarts)

/-- **The counterexample.** After a sale and its cancellation the only ticket on the seat is void,
    and generating the section again raises `ProtectedError`. -/
theorem voided_seat_stops_regeneration : ∃ hold ∈ sampleCarts.db.holds.rows,
    Reachable boxOffice (soldAndCancelled hold) ∧
    (soldAndCancelled hold).db.tickets.rows.map (fun t => (t.seat, t.status)) = [(some 1, .void)] ∧
    againStalls.WellFormed flatTrig asIs ∧
    againStalls.outcome flatTrig asIs (soldAndCancelled hold).db = .error (.protectedRows "Seat") ∧
    ¬againStalls.FailsOnlyLive flatTrig asIs (soldAndCancelled hold).db := by
  obtain ⟨hold, hmem, hvoid, hsold⟩ : ∃ hold ∈ sampleCarts.db.holds.rows,
      (soldAndCancelled hold).db.tickets.rows.map (fun t => (t.seat, t.status))
          = [(some 1, .void)] ∧
        SoldOn (soldAndCancelled hold).db [1] := by
    unfold SoldOn
    decide
  -- The one ticket is void, so no seat is live.
  have hfree : ¬LiveOn (soldAndCancelled hold).db [1] := by
    rintro ⟨t, ht, hlive, -⟩
    have hstatus := List.mem_map_of_mem (f := fun t : Ticket => (t.seat, t.status)) ht
    rw [hvoid, List.mem_singleton] at hstatus
    exact hlive (Prod.ext_iff.mp hstatus).2
  have hstopped : againStalls.outcome flatTrig asIs (soldAndCancelled hold).db
      = .error (.protectedRows "Seat") := by
    -- Generating again is refused for the void ticket all the same.
    rcases @generateSeats_outcome flatTrig (soldAndCancelled hold).db
      (Section.mk 1 1 1 "Stalls" 0 "" sampleParams) [1] (fun _ => []) [] []
      with ⟨hlive, -⟩ | ⟨-, -, hg⟩ | ⟨-, hnot, -⟩
    · exact absurd hlive hfree
    · unfold Replacement.outcome againStalls
      dsimp only
      rw [hg]
      rfl
    · exact absurd hsold hnot
  have hreach : Reachable boxOffice (soldAndCancelled hold) :=
    reachable_exec (reachable_exec sampleCarts_reachable ⟨hold, hmem, rfl, rfl, rfl, rfl, rfl, rfl⟩)
      trivial
  refine ⟨hold, hmem, hreach, hvoid, ?_, hstopped, fun hfails => ?_⟩
  · show ∀ d ∈ _, SeatDraft.fits d = true
    decide
  · have hthrough := hfails.2 hfree
    rw [hstopped] at hthrough
    cases hthrough

end BoxOffice

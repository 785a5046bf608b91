import BoxOffice.Venues.FloatWrites
import BoxOffice.Venues.Overwriting
import BoxOffice.Venues.SpecBuild
import BoxOffice.Venues.SpecNames
import Mathlib.Data.Bool.AllAny

namespace BoxOffice

open Numeric Relational Python

/-!
# Venues — chart specs that can be built

A spec is rejected, or validated and then built: the validation promises its caller no less.

* `SectionStorable` — what a validated section must be for its seats to be stored;
  `OnFloats.buildSection_ok`, `OnFloats.buildSection_storable` are the two directions;
* `SpecOutcome` — the promise, for any JSON value;
* `SpecSound` — no conversion raises, and everything can be stored;
* `chart_spec_outcome` — sound specs keep the promise if their names survive the cut to their
  column, and no others do.
-/

section Storable

variable {F : Type} {py : Builtins F}

/-! ### One section -/

/-- The places of the seats of a validated section. -/
def SectionSpecJson.places (py : Builtins F) (s : SectionSpecJson F) : List OnFloats.Place :=
  OnFloats.places (specParamsJson py s) (OnFloats.rowCounts (specParamsJson py s)) s.removedSeats

/-- The texts and numbers of a section can be stored, and where it keeps seats, its labels have at
    most ten letters and the seats can be placed. -/
structure SectionStorable (cols : Columns py) (s : SectionSpecJson F) : Prop where
  name : s.name.toList.all cols.char = true
  tier : s.tier.toList.all cols.char = true
  overrides : ∀ text ∈ (specParamsJson py s).overrides, text.toList.all cols.char = true
  floats : ∀ c ∈ (specParamsJson py s).floats, (cols.float c.2).isSome
  labels : ∀ place ∈ s.places py,
    s.rowLabelStart + place.rowIndex < 10 * (rowLetters s.rowLabelScheme).length
  placed : ∀ place ∈ s.places py, ∃ xy, OnFloats.seatXy py.toFloats (specParamsJson py s)
    place.rowIndex place.seatIndex place.seatCount = .ok xy ∧
      (cols.float xy.1).isSome ∧ (cols.float xy.2).isSome

variable {cols : Columns py} {s : SectionSpecJson F}

/-- Every column takes printable ASCII. -/
theorem ascii_all {text : String} (h : ∀ c ∈ text.toList, 32 ≤ c.toNat ∧ c.toNat < 127) :
    text.toList.all cols.char = true :=
  List.all_eq_true.mpr fun c hc => cols.char_ascii c (h c hc).1 (h c hc).2

/-- Row letters are plain characters. -/
theorem rowLetters_ascii (scheme : RowLabelScheme) :
    ∀ c ∈ rowLetters scheme, 32 ≤ c.toNat ∧ c.toNat < 127 := by
  rcases rowLetters_cases scheme with h | h <;> rw [h] <;>
    exact List.all_iff_forall_prop.mp (by decide)

/-- So are row labels, which every column takes. -/
theorem label_all (scheme : RowLabelScheme) (i : Nat) :
    (rowLabel (rowLetters scheme) i).toList.all cols.char = true := by
  refine ascii_all fun c hc => rowLetters_ascii scheme c ?_
  unfold rowLabel at hc
  rw [String.toList_ofList, List.mem_replicate] at hc
  rw [hc.2, getD_letter (Nat.mod_lt i (rowLetters_pos scheme))]
  exact List.getElem_mem _

/-- A label fits its column up to ten alphabets of rows. -/
theorem label_length (letters : List Char) (hpos : 0 < letters.length) (i : Nat) :
    (rowLabel letters i).length ≤ 10 ↔ i < 10 * letters.length := by
  unfold rowLabel
  rw [String.length_ofList, List.length_replicate, Nat.succ_le_iff, Nat.div_lt_iff_lt_mul hpos]

/-- Every column takes a number. -/
theorem number_all (n : Nat) : (toString n).toList.all cols.char = true :=
  ascii_all fun c hc => by
    obtain ⟨hlow, hhigh⟩ := Char.isDigit_iff_toNat.mp (isDigit_of_mem_toString hc)
    exact ⟨le_trans (by decide) hlow, lt_of_le_of_lt hhigh (by decide)⟩

/-- A number below ten to the tenth fits its column. -/
theorem number_length {n : Nat} (h : n < 10 ^ 10) : (toString n).length ≤ 10 := by
  rw [← String.length_toList, toString_toList]
  exact Nat.toDigits_length 10 n 10 (by decide) h

/-- Seat numbers grow with the row and the seats only. -/
theorem generateSeatNumbers_lt {seatCount rowIndex n : Nat} {scheme : NumberingScheme}
    (h : n ∈ generateSeatNumbers seatCount scheme rowIndex) :
    n ≤ 2 * seatCount + 100 * (rowIndex + 2) := by
  unfold generateSeatNumbers at h
  obtain ⟨i, hi, rfl⟩ := List.mem_map.mp h
  rw [List.mem_range] at hi
  cases scheme <;> dsimp only <;> omega

/-- Of a normal section, the numbers always fit, and the labels if they are not too far on. -/
theorem placeFits_spec (h : s.Normal py) {place : OnFloats.Place} (hplace : place ∈ s.places py) :
    OnFloats.PlaceFits cols (specParamsJson py s) place ↔
      s.rowLabelStart + place.rowIndex < 10 * (rowLetters s.rowLabelScheme).length ∧
      ∃ xy, OnFloats.seatXy py.toFloats (specParamsJson py s) place.rowIndex place.seatIndex
        place.seatCount = .ok xy ∧ (cols.float xy.1).isSome ∧ (cols.float xy.2).isSome := by
  obtain ⟨hrow, hlabel, hcount, hnumber⟩ := OnFloats.mem_places hplace
  have hlength : place.label.length ≤ 10 ↔
      s.rowLabelStart + place.rowIndex < 10 * (rowLetters s.rowLabelScheme).length := by
    rw [hlabel]
    exact label_length _ (rowLetters_pos s.rowLabelScheme) _
  have hsmall : place.number < 10 ^ 10 := by
    have hnumber := generateSeatNumbers_lt hnumber
    unfold OnFloats.rowCounts computeRowCounts at hrow hcount
    rw [List.length_map, List.length_range] at hrow
    obtain ⟨i, -, hi⟩ := List.mem_map.mp hcount
    have hrows : (s.rows : Int) ≤ 100 := h.rows.2
    have hseats : (s.seatsPerRow : Int) ≤ 100 := h.seatsPerRow.2
    have hdelta : s.altRowSeatDelta ≤ 100 := h.altRowSeatDelta.2
    have hrow : place.rowIndex < s.rows := hrow
    have hcount : place.seatCount ≤ 200 := by
      rw [← hi]
      dsimp only [specParamsJson]
      split_ifs <;> omega
    omega
  constructor
  · rintro ⟨hfits, -, hplaced⟩
    exact ⟨hlength.mp hfits.1, hplaced⟩
  · rintro ⟨hfits, hplaced⟩
    exact ⟨⟨hlength.mpr hfits, hlabel ▸ label_all _ _⟩, ⟨number_length hsmall, number_all _⟩, hplaced⟩

/-- Of a normal section, the columns may refuse only floats and the texts of the overrides. -/
theorem takes_spec (h : s.Normal py) : cols.Takes (specParamsJson py s) ↔
    (∀ c ∈ (specParamsJson py s).floats, (cols.float c.2).isSome) ∧
      ∀ text ∈ (specParamsJson py s).overrides, text.toList.all cols.char = true := by
  constructor
  · exact fun htakes => ⟨htakes.floats, htakes.overrides⟩
  · rintro ⟨hfloats, hoverrides⟩
    refine ⟨hfloats, ?_, ?_, hoverrides⟩
    -- Integers within their bounds fit, and the choices are short and printable.
    · have hrows : (s.rows : Int) ≤ 100 := h.rows.2
      have hseats : (s.seatsPerRow : Int) ≤ 100 := h.seatsPerRow.2
      have hstart : (s.rowLabelStart : Int) ≤ 200 := h.rowLabelStart
      have hdelta : -100 ≤ s.altRowSeatDelta ∧ s.altRowSeatDelta ≤ 100 := h.altRowSeatDelta
      simp only [SectionParams.integers, specParamsJson, List.forall_mem_cons]
      exact ⟨cols.integer_small _ (by omega), cols.integer_small _ (by omega),
        cols.integer_small _ (by omega), cols.integer_small _ (by omega), List.forall_mem_nil _⟩
    · have htext {text : String} {n : Nat}
          (hshort : text.length ≤ n ∧
            (text.toList.all fun c => decide (32 ≤ c.toNat ∧ c.toNat < 127)) = true) :
          text.length ≤ n ∧ text.toList.all cols.char = true :=
        ⟨hshort.1, ascii_all (List.all_iff_forall_prop.mp hshort.2)⟩
      simp only [SectionParams.choices, specParamsJson, List.forall_mem_cons]
      refine ⟨htext ?_, htext (by decide), htext ?_, htext ?_, List.forall_mem_nil _⟩
      · have hmode := h.offsetMode
        cases hs : s.offsetMode with
        | other text => rw [hs] at hmode; cases hmode
        | _ => decide
      · have hscheme := h.numberingScheme
        cases hs : s.numberingScheme with
        | other text => rw [hs] at hscheme; cases hscheme
        | _ => decide
      · have hscheme := h.rowLabelScheme
        cases hs : s.rowLabelScheme with
        | other text => rw [hs] at hscheme; cases hscheme
        | _ => decide

variable {db db' : Db} {organization chart ordering : Nat}

/-- When a section can be created. -/
theorem createSection_eq_ok {name tier : String} {params : SectionParams F}
    {created : Db × SectionObject F} :
    createSection cols db organization chart ordering name tier params = .ok created ↔
      (name.length ≤ 255 ∧ name.toList.all cols.char = true) ∧
      (tier.length ≤ 100 ∧ tier.toList.all cols.char = true) ∧
      (∀ t ∈ sectionsOf db chart, t.name ≠ name) ∧
      ∃ stored, cols.storeParams params = .ok stored ∧
        created = ({ db with
          sections := db.sections.insert (specRow organization chart ordering name tier stored)
            (specRow_id organization chart ordering name tier stored) },
          ⟨specRow organization chart ordering name tier stored db.sections.nextId, params⟩) := by
  have hany : (sectionsOf db chart).any (·.name == name) = true ↔
      ¬∀ t ∈ sectionsOf db chart, t.name ≠ name := by
    simp
  unfold createSection
  simp only [bind_eq_ok, storeText_ok_iff]
  constructor
  · rintro ⟨_, ⟨hname, hname', rfl⟩, _, ⟨htier, htier', rfl⟩, stored, hstored, h⟩
    split_ifs at h with hused
    cases h
    exact ⟨⟨hname, hname'⟩, ⟨htier, htier'⟩, not_not.mp (mt hany.mpr hused), stored, hstored, rfl⟩
  · rintro ⟨⟨hname, hname'⟩, ⟨htier, htier'⟩, hnew, stored, hstored, rfl⟩
    refine ⟨_, ⟨hname, hname', rfl⟩, _, ⟨htier, htier', rfl⟩, stored, hstored, ?_⟩
    rw [if_neg (mt hany.mp (not_not.mpr hnew))]
    rfl

namespace OnFloats

/-- **One turn.** A normal section that can be stored is built, under a new name. -/
theorem buildSection_ok (hnormal : s.Normal py) (h : SectionStorable cols s) (hl : SeatsLinked db)
    (hname : ∀ t ∈ sectionsOf db chart, t.name ≠ s.name) :
    ∃ db', buildSection cols db organization chart ordering s = .ok db' ∧ SeatsLinked db' ∧
      (sectionsOf db' chart).map (·.name) = (sectionsOf db chart).map (·.name) ++ [s.name] := by
  -- The row is written first, which its columns allow.
  obtain ⟨stored, hstored⟩ : ∃ stored, cols.storeParams (specParamsJson py s) = .ok stored := by
    unfold Columns.storeParams
    rw [if_pos ((takes_spec hnormal).mpr ⟨h.floats, h.overrides⟩)]
    exact ⟨_, rfl⟩
  have hnone : seatsOf { db with
      sections := db.sections.insert (specRow organization chart ordering s.name s.tier stored)
        (specRow_id organization chart ordering s.name s.tier stored) } db.sections.nextId = [] :=
    List.filter_eq_nil_iff.mpr fun x hx hsection => (hl x hx).ne (beq_iff_eq.mp hsection)
  -- It has no seats yet, so all its places can be filled.
  obtain ⟨db', hfill⟩ := (@fillSeats_ok_iff _ _ cols _
    ⟨specRow organization chart ordering s.name s.tier stored db.sections.nextId,
      specParamsJson py s⟩ (rowCounts (specParamsJson py s)) s.removedSeats s.accessibleSeats
    hnone).mpr fun place hplace =>
      (placeFits_spec hnormal hplace).mpr ⟨h.labels place hplace, h.placed place hplace⟩
  refine ⟨db', bind_eq_ok.mpr ⟨_, createSection_eq_ok.mpr ⟨⟨hnormal.name, h.name⟩,
    ⟨hnormal.tier, h.tier⟩, hname, stored, hstored, rfl⟩, ?_⟩, ?_⟩
  · dsimp only
    unfold generateSeats
    exact (if_pos hnone).trans hfill
  obtain ⟨-, drafts, rfl⟩ := fillSeats_seats hfill
  refine ⟨fun x hx => ?_, ?_⟩
  · rcases Table.mem_insertMany hx with hx | ⟨_, -, _, -, rfl⟩
    · exact (hl x hx).trans (Nat.lt_succ_self _)
    · exact Nat.lt_succ_self _
  · unfold sectionsOf
    rw [Table.insert_rows, List.filter_append, List.map_append]
    simp [specRow]

/-- A section that was built can be stored. -/
theorem buildSection_storable (hnormal : s.Normal py)
    (h : buildSection cols db organization chart ordering s = .ok db') : SectionStorable cols s := by
  unfold buildSection at h
  simp only [bind_eq_ok, createSection_eq_ok] at h
  obtain ⟨_, ⟨hname, htier, -, stored, hstored, rfl⟩, h⟩ := h
  have htakes : cols.Takes (specParamsJson py s) := by
    unfold Columns.storeParams at hstored
    split_ifs at hstored with htakes
    exact htakes
  -- The generator does not replace, so the section had no seats, and was filled.
  have hfits : ∀ place ∈ s.places py, PlaceFits cols (specParamsJson py s) place := by
    unfold generateSeats at h
    dsimp only at h
    split_ifs at h with hnone hlive hreplace
    · exact (fillSeats_seats h).1
    · exact absurd rfl hreplace
  obtain ⟨hfloats, hoverrides⟩ := (takes_spec hnormal).mp htakes
  exact {
    name := hname.2
    tier := htier.2
    overrides := hoverrides
    floats := hfloats
    labels := fun place hplace => ((placeFits_spec hnormal hplace).mp (hfits place hplace)).1
    placed := fun place hplace => ((placeFits_spec hnormal hplace).mp (hfits place hplace)).2 }

/-- **The loop**, for a chart without sections of these names. -/
theorem buildSections_ok {sections : List (SectionSpecJson F)}
    (hnormal : ∀ s ∈ sections, s.Normal py) (h : ∀ s ∈ sections, SectionStorable cols s)
    (hl : SeatsLinked db) (hnames : (sections.map (·.name)).Nodup)
    (hnew : ∀ s ∈ sections, s.name ∉ (sectionsOf db chart).map (·.name)) :
    ∃ db', buildSections cols db organization chart ordering sections = .ok db' := by
  induction sections generalizing db ordering with
  | nil => exact ⟨db, rfl⟩
  | cons s rest ih =>
    obtain ⟨hs, hrest⟩ := List.nodup_cons.mp hnames
    obtain ⟨db₁, hturn, hl₁, hsections⟩ := @buildSection_ok _ _ cols s db organization chart ordering
      (hnormal s List.mem_cons_self) (h s List.mem_cons_self) hl
      fun t ht hsame => hnew s List.mem_cons_self (List.mem_map.mpr ⟨t, ht, hsame⟩)
    obtain ⟨db', hloop⟩ := @ih db₁ (ordering + 1) (fun t ht => hnormal t (List.mem_cons_of_mem _ ht))
      (fun t ht => h t (List.mem_cons_of_mem _ ht)) hl₁ hrest fun t ht hmem => by
        rw [hsections] at hmem
        rcases List.mem_append.mp hmem with hmem | hmem
        · exact hnew t (List.mem_cons_of_mem _ ht) hmem
        · exact hs (List.mem_map.mpr ⟨t, ht, List.mem_singleton.mp hmem⟩)
    exact ⟨db', bind_eq_ok.mpr ⟨db₁, hturn, hloop⟩⟩

/-- Sections that could be built can be stored. -/
theorem buildSections_storable {sections : List (SectionSpecJson F)}
    (hnormal : ∀ s ∈ sections, s.Normal py)
    (h : buildSections cols db organization chart ordering sections = .ok db') :
    ∀ s ∈ sections, SectionStorable cols s := by
  induction sections generalizing db ordering with
  | nil => exact fun s hs => absurd hs List.not_mem_nil
  | cons s rest ih =>
    obtain ⟨db₁, hturn, hloop⟩ := bind_eq_ok.mp h
    refine List.forall_mem_cons.mpr ⟨buildSection_storable (hnormal s List.mem_cons_self) hturn, ?_⟩
    exact ih (fun t ht => hnormal t (List.mem_cons_of_mem _ ht)) hloop

end OnFloats

/-! ### The chart -/

/-- A chart of that name exists, and is not overwritten. -/
def ChartRefuses (db : Db) (venue : Venue) (chartName : String) (replace : Bool) : Prop :=
  ∃ existing ∈ db.seatingCharts.rows, existing.organization = venue.organization ∧
    existing.venue = venue.id ∧ existing.name = chartName ∧
    (replace = false ∨ liveChartTickets db existing.id ≠ [] ∨
      ∃ e, deleteSections db ((sectionsOf db existing.id).map (·.id)) = .error e)

/-- Opening a chart is refused, or gives an empty one. -/
theorem openChart_cases (hc : ChartConstraints db) {venue : Venue} {chartName : String}
    {replace : Bool} (hlength : chartName.length ≤ 255)
    (hchars : chartName.toList.all cols.char = true) :
    ChartRefuses db venue chartName replace ∨
      ∃ db₁ chart, OnFloats.openChart cols db venue chartName replace = .ok (db₁, chart) ∧
        SeatsLinked db₁ ∧ sectionsOf db₁ chart.id = [] := by
  unfold OnFloats.openChart
  cases hfind : db.seatingCharts.rows.find? fun c =>
      c.organization == venue.organization && c.venue == venue.id && c.name == chartName with
  | none =>
    refine .inr ⟨_, _, bind_eq_ok.mpr ⟨chartName, storeText_ok_iff.mpr ⟨hlength, hchars, rfl⟩, rfl⟩,
      hc.seatsLinked, hc.sectionsOf_next⟩
  | some existing =>
    have hmem := List.mem_of_find?_eq_some hfind
    have hkey := List.find?_some hfind
    simp only [Bool.and_eq_true, beq_iff_eq] at hkey
    obtain ⟨⟨horganization, hvenue⟩, hname⟩ := hkey
    have hrefuses (h : replace = false ∨ liveChartTickets db existing.id ≠ [] ∨
        ∃ e, deleteSections db ((sectionsOf db existing.id).map (·.id)) = .error e) :
        ChartRefuses db venue chartName replace :=
      ⟨existing, hmem, horganization, hvenue, hname, h⟩
    dsimp only
    split_ifs with hreplace hlive
    · exact .inl (hrefuses (.inl (by simpa using hreplace)))
    · exact .inl (hrefuses (.inr (.inl hlive)))
    · cases hdelete : deleteSections db ((sectionsOf db existing.id).map (·.id)) with
      | error e => exact .inl (hrefuses (.inr (.inr ⟨e, hdelete⟩)))
      | ok db₁ =>
        obtain ⟨hempty, hl⟩ := deleteSections_empties hc.seatsLinked hdelete
        exact .inr ⟨db₁, existing, rfl, hl, hempty⟩

/-! ### The promise -/

/-- A validated spec can be built: its names are distinct and not empty, its values in range, it is
    left as it is by another validation, its labels and numbers fit their columns, and unless the
    chart of that name refuses, the build goes through. -/
structure Buildable (cols : Columns py) (spec : ChartSpecJson F) : Prop where
  distinct : (spec.sections.map (·.name)).Nodup
  named : ∀ s ∈ spec.sections, s.name ≠ ""
  normal : ∀ s ∈ spec.sections, s.Normal py
  idempotent : OnFloats.validateChartSpec py spec.json = .ok spec
  fits : ∀ s ∈ spec.sections, ∀ place ∈ s.places py,
    place.label.length ≤ 10 ∧ (toString place.number).length ≤ 10
  builds : ∀ (db : Db) (venue : Venue) (name : Option String) (replace : Bool),
    ChartConstraints db → (∀ n, name = some n → n.toList.all cols.char = true) →
    ChartRefuses db venue (OnFloats.specChartName py spec name) replace ∨
      ∃ db' chart, OnFloats.buildChartFromSpec cols db venue spec.json name replace
        = .ok (db', chart)

/-- **The promise.** A spec is rejected, or validated to one that can be built. -/
def SpecOutcome (cols : Columns py) (spec : Json F) : Prop :=
  (∃ message, OnFloats.validateChartSpec py spec = .error (.service (.chartParsing message))) ∨
    ∃ out, OnFloats.validateChartSpec py spec = .ok out ∧ Buildable cols out

/-- No conversion raises, and what the sections become can be stored; the name of the chart is
    still stripped when it is cut, and can be stored. -/
structure SpecSound (cols : Columns py) (spec : Json F) : Prop where
  converts : ∀ r ∈ readSpec py spec, Convertible py r.1
  storable : ∀ r ∈ readSpec py spec, ∀ s, normalizeSection py r.1 r.2 = .ok s →
    SectionStorable cols s
  chartName : readSpec py spec ≠ [] →
    py.chars.strip (takeChars 255 (readChartName py spec)) = takeChars 255 (readChartName py spec) ∧
      (takeChars 255 (readChartName py spec)).toList.all cols.char = true

/-- A cut text is empty only if the text was. -/
theorem takeChars_ne_empty {n : Nat} {text : String} (hn : 0 < n) (h : text ≠ "") :
    takeChars n text ≠ "" := by
  intro hcut
  have hlist := congrArg String.toList hcut
  unfold takeChars at hlist
  rw [String.toList_ofList] at hlist
  rcases List.take_eq_nil_iff.mp hlist with hzero | hnil
  · omega
  · exact h (String.toList_eq_nil_iff.mp hnil)

/-- No more sections are read than there are. -/
theorem readSections_length (index : Nat) (seen : List String) (items : List (Json F)) :
    (readSections py index seen items).length ≤ items.length := by
  induction items generalizing index seen with
  | nil => exact le_refl _
  | cons item rest ih =>
    cases item with
    | object raw => exact Nat.succ_le_succ (ih _ _)
    | _ => exact (ih _ _).trans (Nat.le_succ _)

/-- A specification has no more sections than are allowed. -/
theorem readSpec_length (spec : Json F) : (readSpec py spec).length ≤ maxSections := by
  refine (readSections_length _ _ _).trans ?_
  unfold rawSections
  split
  · split
    · exact List.length_take_le _ _
    · exact Nat.zero_le _
  · exact Nat.zero_le _

/-- The name given to a chart is not empty. -/
theorem givenChartName_ne_empty (entries : List (String × Json F)) :
    givenChartName py entries ≠ "" := by
  unfold givenChartName
  dsimp only
  split_ifs with h
  · decide
  · exact h

/-- The name read for a chart is not empty. -/
theorem readChartName_ne_empty {spec : Json F} (h : readSpec py spec ≠ []) :
    readChartName py spec ≠ "" := by
  cases spec with
  | object entries => exact @givenChartName_ne_empty _ py entries
  | _ => exact absurd rfl h

/-- The characters that are left of a text. -/
theorem strip_all {chars : CharTable} {f : Char → Bool} {text : String}
    (h : text.toList.all f = true) : (chars.strip text).toList.all f = true := by
  unfold CharTable.strip
  rw [String.toList_ofList]
  refine List.all_eq_true.mpr fun c hc => List.all_eq_true.mp h c ?_
  exact (List.dropWhile_sublist _).mem ((List.rdropWhile_prefix _ _).subset hc)

/-- A cut text has characters of the text only. -/
theorem takeChars_all {f : Char → Bool} {n : Nat} {text : String}
    (h : text.toList.all f = true) : (takeChars n text).toList.all f = true := by
  unfold takeChars
  rw [String.toList_ofList]
  exact List.all_eq_true.mpr fun c hc => List.all_eq_true.mp h c (List.mem_of_mem_take hc)

/-- The name that the chart gets fits its column. -/
theorem specChartName_fits {spec : ChartSpecJson F} {name : Option String}
    (hspec : spec.chartName.toList.all cols.char = true)
    (hname : ∀ n, name = some n → n.toList.all cols.char = true) :
    (OnFloats.specChartName py spec name).length ≤ 255 ∧
      (OnFloats.specChartName py spec name).toList.all cols.char = true := by
  have hshort {given : String} (hgiven : given.toList.all cols.char = true) :
      let short := takeChars 255 (py.chars.strip given)
      (if short = "" then "Parsed chart" else short).length ≤ 255 ∧
        (if short = "" then "Parsed chart" else short).toList.all cols.char = true := by
    dsimp only
    split_ifs
    · exact ⟨by decide, ascii_all (List.all_iff_forall_prop.mp (by decide))⟩
    · exact ⟨takeChars_length _ _, takeChars_all (strip_all hgiven)⟩
  unfold OnFloats.specChartName
  cases name with
  | none => exact hshort hspec
  | some n =>
    refine @hshort (if n = "" then spec.chartName else n) ?_
    split_ifs
    · exact hspec
    · exact hname n rfl

/-- **The promise is kept** for a sound spec whose names survive the cut. -/
theorem SpecSound.outcome {spec : Json F} (h : SpecSound cols spec) (hnames : NamesKept py spec) :
    SpecOutcome cols spec := by
  rcases validateChartSpec_cases py spec with ⟨-, hrejected⟩ | ⟨hsome, hvalid⟩
  · exact .inl hrejected
  -- Each section converts, so the spec is read as a whole; `hread` says what each row became.
  obtain ⟨sections, hsections⟩ : ∃ sections, (readSpec py spec).mapM
      (fun r => normalizeSection py r.1 r.2) = .ok sections :=
    mapM_ok_iff.mpr fun r hr => (normalizeSection_ok_iff py).mpr (h.converts r hr)
  rw [hsections] at hvalid
  have hlength : sections.length = (readSpec py spec).length :=
    (mapM_eq_ok.mp hsections).length_eq.symm
  have hread (s : SectionSpecJson F) (hs : s ∈ sections) : ∃ r ∈ readSpec py spec,
      s.Normal py ∧ s.name = takeChars 255 r.2 ∧ SectionStorable cols s := by
    obtain ⟨r, hr, hrs⟩ := exists_of_mapM hsections hs
    obtain ⟨hnormal, hname⟩ := normalizeSection_normal hrs
    exact ⟨r, hr, hnormal, hname, h.storable r hr s hrs⟩
  have hnormal (s : SectionSpecJson F) (hs : s ∈ sections) : s.Normal py :=
    let ⟨_, _, hn, _⟩ := hread s hs
    hn
  have hstorable (s : SectionSpecJson F) (hs : s ∈ sections) : SectionStorable cols s :=
    let ⟨_, _, _, _, hst⟩ := hread s hs
    hst
  have hstripped (s : SectionSpecJson F) (hs : s ∈ sections) :
      py.chars.strip s.name = s.name ∧ s.name ≠ "" := by
    obtain ⟨r, hr, -, hname, -⟩ := hread s hs
    rw [hname]
    exact ⟨hnames.stripped r hr,
      takeChars_ne_empty (by decide) (readSections_stripped hr).2⟩
  have hlower : (sections.map fun s => py.lower s.name).Nodup := by
    have hmap : sections.map (fun s => py.lower s.name)
        = (readSpec py spec).map fun r => py.lower (takeChars 255 r.2) :=
      map_of_mapM (fun _ _ hrs => congrArg py.lower (normalizeSection_normal hrs).2) hsections
    rw [hmap]
    exact hnames.distinct
  have hdistinct : (sections.map (·.name)).Nodup := by
    refine List.Nodup.of_map py.lower ?_
    rw [List.map_map]
    exact hlower
  obtain ⟨hchart, hchars⟩ := h.chartName hsome
  have hchartName : takeChars 255 (readChartName py spec) ≠ "" :=
    takeChars_ne_empty (by decide) (readChartName_ne_empty hsome)
  have hany : sections ≠ [] := by
    rintro rfl
    exact hsome (List.eq_nil_of_length_eq_zero hlength.symm)
  -- The spec that came out is read as itself, which is what the chart is built from.
  have hagain := @validateChartSpec_json _ py ⟨takeChars 255 (readChartName py spec), sections⟩
    hany (hlength.trans_le (readSpec_length spec))
    ⟨hchart, hchartName, takeChars_length _ _⟩ hnormal hstripped hlower
  refine .inr ⟨_, hvalid, hdistinct, fun s hs => (hstripped s hs).2, hnormal, hagain,
    fun s hs place hplace => ?_, fun db venue name replace hc hname => ?_⟩
  · have hfits := (placeFits_spec (hnormal s hs) hplace).mpr
      ⟨(hstorable s hs).labels place hplace, (hstorable s hs).placed place hplace⟩
    exact ⟨hfits.label.1, hfits.number.1⟩
  -- The chart opens empty, or the database refuses its name.
  · obtain ⟨hlength, hchars⟩ := @specChartName_fits _ _ _ ⟨_, sections⟩ name hchars hname
    rcases openChart_cases hc hlength hchars with hrefuses | ⟨db₁, chart, hopen, hl, hempty⟩
    · exact .inl hrefuses
    · obtain ⟨db', hbuild⟩ := @OnFloats.buildSections_ok _ _ cols db₁ chart.organization chart.id 0
        sections hnormal hstorable hl hdistinct fun _ _ hmem => by rw [hempty] at hmem; cases hmem
      exact .inr ⟨db', chart, bind_eq_ok.mpr ⟨_, hagain, bind_eq_ok.mpr ⟨_, hopen,
        bind_eq_ok.mpr ⟨db', hbuild, rfl⟩⟩⟩⟩

/-- A chart name that is left as it is was stripped. -/
theorem chartName_stripped {spec : ChartSpecJson F} (hlength : spec.chartName.length ≤ 255)
    (h : OnFloats.validateChartSpec py spec.json = .ok spec) :
    py.chars.strip spec.chartName = spec.chartName := by
  have hname : takeChars 255 (readChartName py spec.json) = spec.chartName := by
    rcases validateChartSpec_cases py spec.json with ⟨-, message, hrejected⟩ | ⟨-, hvalid⟩
    · rw [hrejected] at h
      cases h
    · rw [hvalid] at h
      split at h
      · cases h
      · have hsame := congrArg ChartSpecJson.chartName (Except.ok.inj h)
        dsimp only at hsame
        exact hsame
  -- The name of the spec is read back from its own entry.
  have hget : getKey [("chart_name", Json.str spec.chartName),
      ("sections", .list (spec.sections.map fun s => .object s.entries))] "chart_name"
        = .str spec.chartName := rfl
  unfold ChartSpecJson.json readChartName givenChartName at hname
  dsimp only at hname
  rw [hget, Json.textOrEmpty_str] at hname
  split_ifs at hname with hblank
  · -- The name that stands in for a blank one is not blank.
    have hdefault : py.chars.strip "Parsed chart" = "Parsed chart" :=
      @strip_eq_self py.chars "Parsed chart" 'P' 't' "Parsed char".toList "arsed chart".toList
        (by decide +kernel) (py.isSpace_printable _ (by decide) (by decide)) (by decide +kernel)
        (py.isSpace_printable _ (by decide) (by decide))
    rw [takeChars_eq_self (by decide)] at hname
    rw [← hname, hdefault]
  · have hshort : (py.chars.strip spec.chartName).length ≤ 255 := by
      refine le_trans ?_ hlength
      unfold CharTable.strip
      rw [String.length_ofList, ← String.length_toList]
      exact (List.rdropWhile_prefix _ _).length_le.trans (List.dropWhile_suffix _).length_le
    rwa [takeChars_eq_self hshort] at hname

/-- The empty database meets the constraints. -/
theorem empty_constraints : ChartConstraints Db.empty where
  sectionChart := by decide
  seatSection := by decide
  sectionName := by decide
  seatIdentity := by decide
  sectionFits := by decide
  seatFits := by decide

/-- A chart that was opened has a name its column takes. -/
theorem openChart_empty {venue : Venue} {chartName : String} {replace : Bool}
    {opened : Db × SeatingChart}
    (h : OnFloats.openChart cols Db.empty venue chartName replace = .ok opened) :
    chartName.toList.all cols.char = true := by
  change (cols.storeText 255 "name" chartName >>= _) = _ at h
  obtain ⟨stored, hstored, -⟩ := bind_eq_ok.mp h
  exact (storeText_ok_iff.mp hstored).2.1

/-- **The promise is kept** by no other specs. -/
theorem SpecOutcome.sound {spec : Json F} (h : SpecOutcome cols spec) :
    SpecSound cols spec ∧ ((readSpec py spec).map fun r => takeChars 255 r.2).Nodup := by
  rcases validateChartSpec_cases py spec with ⟨hnone, -⟩ | ⟨hsome, hvalid⟩
  · refine ⟨⟨?_, ?_, fun hsome => absurd hnone hsome⟩, ?_⟩ <;> rw [hnone]
    · exact List.forall_mem_nil _
    · exact List.forall_mem_nil _
    · exact List.nodup_nil
  cases hsections : (readSpec py spec).mapM fun r => normalizeSection py r.1 r.2 with
  | error e =>
    rw [hsections] at hvalid
    rcases h with ⟨_, h⟩ | ⟨_, h, _⟩ <;> rw [hvalid] at h <;> cases h
  | ok sections =>
    rw [hsections] at hvalid
    dsimp only at hvalid
    rcases h with ⟨_, h⟩ | ⟨out, hout, hbuildable⟩
    · rw [hvalid] at h
      cases h
    rw [hvalid] at hout
    cases hout
    have hstripped := @chartName_stripped _ py ⟨takeChars 255 (readChartName py spec), sections⟩
      (takeChars_length _ _) hbuildable.idempotent
    dsimp only at hstripped
    have hchart : OnFloats.specChartName py ⟨takeChars 255 (readChartName py spec), sections⟩ none
        = takeChars 255 (readChartName py spec) := by
      unfold OnFloats.specChartName
      dsimp only
      rw [hstripped, takeChars_eq_self (takeChars_length _ _),
        if_neg (takeChars_ne_empty (by decide) (readChartName_ne_empty hsome))]
    -- On an empty database nothing but the spec can stop the build.
    obtain ⟨db', chart, hbuild⟩ := (hbuildable.builds Db.empty mainHouse none false empty_constraints
      fun n h => by cases h).resolve_left fun ⟨_, hmem, _⟩ => List.not_mem_nil hmem
    obtain ⟨_, hagain, hbuild⟩ := bind_eq_ok.mp hbuild
    rw [hbuildable.idempotent] at hagain
    cases hagain
    obtain ⟨⟨db₁, chart₁⟩, hopen, hbuild⟩ := bind_eq_ok.mp hbuild
    obtain ⟨db₂, hloop, -⟩ := bind_eq_ok.mp hbuild
    have hstorable := OnFloats.buildSections_storable hbuildable.normal hloop
    refine ⟨⟨fun r hr => (normalizeSection_ok_iff py).mp (mapM_ok_iff.mp ⟨_, hsections⟩ r hr),
      fun r hr s hs => hstorable s (mem_of_mapM hsections hr hs), fun _ => ⟨hstripped, ?_⟩⟩, ?_⟩
    · rw [hchart] at hopen
      exact openChart_empty hopen
    · rw [← map_of_mapM (fun _ _ hrs => (normalizeSection_normal hrs).2) hsections]
      exact hbuildable.distinct

/-- **Chart specs.** A spec whose conversions raise nothing uncaught, whose sections can be stored
    and whose names survive the cut to their column is rejected or can be built; a spec that is
    rejected or can be built is of that kind, but for how its names survive. -/
theorem chart_spec_outcome (cols : Columns py) (spec : Json F) :
    (SpecSound cols spec ∧ NamesKept py spec → SpecOutcome cols spec) ∧
      (SpecOutcome cols spec →
        SpecSound cols spec ∧ ((readSpec py spec).map fun r => takeChars 255 r.2).Nodup) :=
  ⟨fun h => h.1.outcome h.2, fun h => h.sound⟩

end Storable

/-- A spec of one section. -/
def oneSection (entries : List (String × Json Extended)) : Json Extended :=
  .object [("sections", .list [.object entries])]

/-- Two sections of one name, but for case and blanks: two seats and a table. -/
def stallsEntries : List (String × Json Extended) :=
  [("name", .str " Stalls"), ("rows", .int 1), ("seats_per_row", .int 2)]

def tableEntries : List (String × Json Extended) :=
  [("name", .str "STALLS"), ("tier", .str "Gold"), ("rows", .int 1), ("seats_per_row", .int 1)]

def twoStalls : Json Extended :=
  .object [("sections", .list [.object stallsEntries, .object tableEntries])]

/-- The first of them, validated. -/
def stallsSection : SectionSpecJson Extended where
  name := "Stalls"
  tier := ""
  rows := 1
  seatsPerRow := 2
  originX := .finite 0
  originY := .finite 0
  rotation := .finite 0
  seatPitch := .finite 1
  rowPitch := .finite 1
  arcRadius := none
  offsetMode := .repeated
  rowXOffset := .finite 0
  altRowSeatDelta := 0
  numberingScheme := .sequential
  rowLabelScheme := .skipIo
  rowLabelStart := 0
  removedSeats := []
  accessibleSeats := []
  rowAlignment := .edge

/-- The second one, under a name of its own. -/
def tableSection : SectionSpecJson Extended :=
  { stallsSection with name := "STALLS (2)", tier := "Gold", seatsPerRow := 1 }

/-- The stalls can be stored. -/
theorem stallsSection_storable : SectionStorable exactColumns stallsSection := by
  have hplaces : stallsSection.places Extended.builtins
      = [⟨0, "A", 2, 0, 1⟩, ⟨0, "A", 2, 1, 2⟩] := by decide +kernel
  exact {
    name := by decide +kernel
    tier := by decide +kernel
    overrides := by decide +kernel
    floats := by decide +kernel
    labels := by rw [hplaces]; decide +kernel
    placed := by
      rw [hplaces]
      refine List.forall_mem_cons.mpr ⟨⟨(.finite 0, .finite 0), by decide +kernel, rfl, rfl⟩, ?_⟩
      exact List.forall_mem_singleton.mpr ⟨(.finite 1, .finite 0), by decide +kernel, rfl, rfl⟩ }

/-- So can the section of tables. -/
theorem tableSection_storable : SectionStorable exactColumns tableSection := by
  have hplaces : tableSection.places Extended.builtins = [⟨0, "A", 1, 0, 1⟩] := by decide +kernel
  exact {
    name := by decide +kernel
    tier := by decide +kernel
    overrides := by decide +kernel
    floats := by decide +kernel
    labels := by rw [hplaces]; decide +kernel
    placed := by
      rw [hplaces]
      exact List.forall_mem_singleton.mpr ⟨(.finite 0, .finite 0), by decide +kernel, rfl, rfl⟩ }

/-- The second name is made distinct from the first. -/
theorem readSpec_twoStalls : readSpec Extended.builtins twoStalls
    = [(stallsEntries, "Stalls"), (tableEntries, "STALLS (2)")] := by rfl

/-- Both stalls are sound together. -/
theorem twoStalls_sound : SpecSound exactColumns twoStalls := by
  have hstalls : normalizeSection Extended.builtins stallsEntries "Stalls" = .ok stallsSection := rfl
  have htable : normalizeSection Extended.builtins tableEntries "STALLS (2)" = .ok tableSection :=
    rfl
  refine ⟨?_, ?_, fun _ => ⟨by decide +kernel, by decide +kernel⟩⟩ <;> rw [readSpec_twoStalls]
  · refine List.forall_mem_cons.mpr
      ⟨(normalizeSection_ok_iff Extended.builtins).mp ⟨stallsSection, hstalls⟩, ?_⟩
    exact List.forall_mem_singleton.mpr
      ((normalizeSection_ok_iff Extended.builtins).mp ⟨tableSection, htable⟩)
  · refine List.forall_mem_cons.mpr ⟨fun s hs => ?_, List.forall_mem_singleton.mpr fun s hs => ?_⟩
    · rw [hstalls] at hs
      cases hs
      exact stallsSection_storable
    · rw [htable] at hs
      cases hs
      exact tableSection_storable

/-- A spec of two sections of one name can be built. -/
theorem chart_spec_two_stalls : SpecOutcome exactColumns twoStalls :=
  (chart_spec_outcome exactColumns twoStalls).1
    ⟨twoStalls_sound, namesKept_of_short (by rw [readSpec_twoStalls]; decide +kernel)⟩

/-- **The counterexample.** `{"sections": [{"rows": Infinity}]}` is not rejected: the conversion to
    an integer raises what is not caught. -/
theorem endless_rows_raise :
    OnFloats.validateChartSpec Extended.builtins (oneSection [("rows", .float (.infinity false))])
        = .error (.raised .overflowError) ∧
      ¬SpecOutcome exactColumns (oneSection [("rows", .float (.infinity false))]) := by
  have hraised : OnFloats.validateChartSpec Extended.builtins
      (oneSection [("rows", .float (.infinity false))]) = .error (.raised .overflowError) := by
    decide +kernel
  refine ⟨hraised, ?_⟩
  rintro (⟨message, h⟩ | ⟨out, h, -⟩) <;> rw [hraised] at h <;> cases h

end BoxOffice

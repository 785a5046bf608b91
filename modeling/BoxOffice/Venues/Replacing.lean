import BoxOffice.Venues.ChartParsing
import BoxOffice.Venues.RoundTrip

namespace BoxOffice

open Relational

/-!
# Venues — replacing seats

Three functions delete stored seats to write new ones: `generate_seats`, `import_chart_data` and
`build_chart_from_spec`, each with `replace=True`.  Each looks for live tickets on the seats
first, and refuses; what it does not look for are the rows that refer to the seats with
`PROTECT`.

* `LiveOn`, `SoldOn`, `PricedFrom` say what is on the seats of some sections: live tickets,
  order lines, and price tiers that a held seat or an order line names;
* `deleteSeats_cases` and `deleteSections_cases` say when the deletes go through;
* `Replacement.FailsOnlyLive` says that a live ticket is the only reason to fail, and
  `Answers.failsOnlyLive_iff` when that is so.
-/

/-! ### Calls -/

/-- A call with `replace=True`. -/
inductive Replacement
  | generateSeats (section_ : Section) (rowCounts : List Nat) (accessible : Nat → List Nat)
      (removedIds accessibleIds : List SeatIdentity)
  | importChartData (venue : Venue) (data : ChartData) (name : Option String)
  | buildChartFromSpec (venue : Venue) (spec : Option RawSpec) (name : Option String)

/-- The chart of a venue that has the name. -/
def chartNamed (db : Db) (venue : Venue) (name : String) : Option SeatingChart :=
  db.seatingCharts.rows.find? fun c =>
    c.organization == venue.organization && c.venue == venue.id && c.name == name

/-- The sections of a chart that may not exist. -/
def sectionIds (db : Db) (chart : Option SeatingChart) : List Nat :=
  match chart with
  | some c => (sectionsOf db c.id).map (·.id)
  | none => []

/-- The refusals, word for word. -/
def generateRefusal (db : Db) (section_ : Section) : ServiceError :=
  .seatGeneration
    s!"Section {reprName section_.name} has {(liveTicketSeats db section_.id).length} seat(s) with a live ticket issued -- regenerating would orphan them. Void/refund those tickets first, or build a new section instead."

def importRefusal (db : Db) (name : String) (chart : SeatingChart) : ServiceError :=
  .chartImport
    s!"Chart {reprName name} (id={chart.id}) has {(liveChartTickets db chart.id).length} seat(s) with a live ticket issued; refusing to overwrite it. Void/refund those tickets first, or import under a different name."

def buildRefusal (db : Db) (name : String) (chart : SeatingChart) : ServiceError :=
  .chartParsing
    s!"Chart {reprName name} (id={chart.id}) has {(liveChartTickets db chart.id).length} seat(s) with a live ticket issued; refusing to overwrite it. Void/refund those tickets first, or import under a different name."

namespace Replacement

/-- What the call answers, apart from the rows it returns. -/
def outcome (trig : Trig) (text : Text) (db : Db) : Replacement → Except ServiceError Unit
  | .generateSeats section_ rowCounts accessible removedIds accessibleIds =>
    (BoxOffice.generateSeats trig db section_ rowCounts accessible removedIds accessibleIds
      true).map fun _ => ()
  | .importChartData venue data name =>
    (BoxOffice.importChartData db venue data name true).2.map fun _ => ()
  | .buildChartFromSpec venue spec name =>
    (BoxOffice.buildChartFromSpec trig text db venue spec name true).map fun _ => ()

/-- The stored chart that the call overwrites. -/
def chart (text : Text) (db : Db) : Replacement → Option SeatingChart
  | .generateSeats .. => none
  | .importChartData venue data name => chartNamed db venue (importName data name)
  | .buildChartFromSpec venue spec name =>
    match validateChartSpec text spec with
    | .ok spec => chartNamed db venue (specChartName text spec name)
    | .error _ => none

/-- The sections whose seats the call replaces. -/
def sections (text : Text) (db : Db) : Replacement → List Nat
  | .generateSeats section_ .. => [section_.id]
  | call => sectionIds db (call.chart text db)

/-- The live-ticket refusal of the call. -/
def refusal (text : Text) (db : Db) (call : Replacement) : Option ServiceError :=
  match call with
  | .generateSeats section_ .. => some (generateRefusal db section_)
  | .importChartData _ data name =>
    (call.chart text db).map (importRefusal db (importName data name))
  | .buildChartFromSpec _ spec name =>
    match validateChartSpec text spec with
    | .ok spec => (call.chart text db).map (buildRefusal db (specChartName text spec name))
    | .error _ => none

/-- The input is one the function can store: text fits its columns, and names and identities
    that have to be unique are. -/
def WellFormed (trig : Trig) (text : Text) : Replacement → Prop
  | .generateSeats section_ rowCounts accessible removedIds accessibleIds =>
    ∀ d ∈ buildSeats trig section_.params rowCounts accessible removedIds accessibleIds,
      d.fits = true
  | .importChartData _ data name =>
    (importName data name).length ≤ 255 ∧ (∀ d ∈ data.sections, d.Importable) ∧
      (data.sections.map (·.name)).Nodup
  | .buildChartFromSpec _ spec _ => ∃ s, validateChartSpec text spec = .ok s ∧
      (s.sections.map (·.name)).Nodup ∧
      ∀ x ∈ s.sections, ∀ d ∈ buildSeats trig (specParams x)
        (computeRowCounts x.rows x.seatsPerRow x.offsetMode x.altRowSeatDelta) (fun _ => [])
        x.removedSeats x.accessibleSeats, d.fits = true

end Replacement

/-! ### What is on the seats -/

/-- A ticket that is not void is on a seat of the sections. -/
def LiveOn (db : Db) (sections : List Nat) : Prop :=
  ∃ t ∈ db.tickets.rows, t.Live ∧ ∃ x ∈ db.seats.rows, x.section_ ∈ sections ∧ t.seat = some x.id

/-- An order line, of whatever order, is on a seat of the sections. -/
def SoldOn (db : Db) (sections : List Nat) : Prop :=
  ∃ i ∈ db.orderItems.rows, ∃ x ∈ db.seats.rows, x.section_ ∈ sections ∧ i.seat = some x.id

/-- A held seat or an order line names a price tier of the sections. -/
def PricedFrom (db : Db) (sections : List Nat) : Prop :=
  ∃ t ∈ db.priceTiers.rows, (∃ s ∈ sections, t.section_ = some s) ∧ tierProtected db t.id = true

/-- Do rows that nobody may lose keep the call from deleting what it replaces?  Only a chart loses
    its sections, and with them their price tiers. -/
def Replacement.Protected (text : Text) (db : Db) (call : Replacement) : Prop :=
  match call with
  | .generateSeats .. => SoldOn db (call.sections text db)
  | _ => SoldOn db (call.sections text db) ∨ PricedFrom db (call.sections text db)

/-- The call raises its refusal exactly when a live ticket is on a seat it replaces, and goes
    through in every other case. -/
def Replacement.FailsOnlyLive (trig : Trig) (text : Text) (db : Db) (call : Replacement) : Prop :=
  ((∃ e ∈ call.refusal text db, call.outcome trig text db = .error e) ↔
      LiveOn db (call.sections text db)) ∧
    (¬LiveOn db (call.sections text db) → call.outcome trig text db = .ok ())

section Deletes

variable {db : Db}

/-- The keys of the seats of some sections. -/
theorem mem_seatIds {ids : List Nat} {s : Nat} :
    s ∈ (db.seats.rows.filter fun x => ids.contains x.section_).map (·.id) ↔
      ∃ x ∈ db.seats.rows, x.section_ ∈ ids ∧ x.id = s := by
  simp only [List.mem_map, List.mem_filter, List.contains_iff_mem, and_assoc]

/-- The seats of a section, as those of a list of one section. -/
theorem seatsOf_eq_filter (section_ : Nat) :
    seatsOf db section_ = db.seats.rows.filter fun x => [section_].contains x.section_ :=
  List.filter_congr fun x _ => by
    rw [Bool.eq_iff_iff, beq_iff_eq, List.contains_iff_mem, List.mem_singleton]

/-- **Deleting seats** is refused for order lines on them, and for nothing else. -/
theorem deleteSeats_cases (db : Db) (ids : List Nat) :
    (SoldOn db ids ∧ deleteSeats db
        ((db.seats.rows.filter fun x => ids.contains x.section_).map (·.id))
          = .error (.protectedRows "Seat")) ∨
      (¬SoldOn db ids ∧ ∃ db', deleteSeats db
        ((db.seats.rows.filter fun x => ids.contains x.section_).map (·.id)) = .ok db') := by
  have hany : (db.orderItems.rows.any fun i => i.seat.any fun s =>
      ((db.seats.rows.filter fun x => ids.contains x.section_).map (·.id)).contains s) = true ↔
        SoldOn db ids := by
    rw [List.any_eq_true]
    unfold SoldOn
    -- An order line names a deleted seat exactly when the seat is one of the sections.
    refine exists_congr fun i => and_congr_right fun _ => ?_
    rw [Option.any_eq_true]
    constructor
    · rintro ⟨s, hs, hmem⟩
      obtain ⟨x, hx, hsection, rfl⟩ := mem_seatIds.mp (List.contains_iff_mem.mp hmem)
      exact ⟨x, hx, hsection, hs⟩
    · rintro ⟨x, hx, hsection, hs⟩
      exact ⟨x.id, hs, List.contains_iff_mem.mpr (mem_seatIds.mpr ⟨x, hx, hsection, rfl⟩)⟩
  unfold deleteSeats
  by_cases hsold : SoldOn db ids
  · rw [if_pos (hany.mpr hsold)]
    exact .inl ⟨hsold, rfl⟩
  · rw [if_neg (mt hany.mp hsold)]
    exact .inr ⟨hsold, _, rfl⟩

/-- **Deleting sections** is refused for order lines on their seats and for named price tiers. -/
theorem deleteSections_cases (db : Db) (ids : List Nat) :
    ((SoldOn db ids ∨ PricedFrom db ids) ∧ ∃ model, deleteSections db ids
        = .error (.protectedRows model)) ∨
      (¬(SoldOn db ids ∨ PricedFrom db ids) ∧ ∃ db', deleteSections db ids = .ok db') := by
  have hany : (((db.priceTiers.rows.filter fun t => t.section_.any ids.contains).map (·.id)).any
      (tierProtected db)) = true ↔ PricedFrom db ids := by
    rw [List.any_eq_true]
    unfold PricedFrom
    simp only [List.mem_map, List.mem_filter, Option.any_eq_true, List.contains_iff_mem]
    constructor
    · rintro ⟨-, ⟨t, ⟨ht, s, hs, hmem⟩, rfl⟩, hprotected⟩
      exact ⟨t, ht, ⟨s, hmem, hs⟩, hprotected⟩
    · rintro ⟨t, ht, ⟨s, hmem, hs⟩, hprotected⟩
      exact ⟨t.id, ⟨t, ⟨ht, s, hs, hmem⟩, rfl⟩, hprotected⟩
  unfold deleteSections
  dsimp only
  by_cases hpriced : PricedFrom db ids
  · rw [if_pos (hany.mpr hpriced)]
    exact .inl ⟨.inr hpriced, _, rfl⟩
  · rw [if_neg (mt hany.mp hpriced)]
    -- The price tiers go first; what else can stop the delete is an order line.
    rcases deleteSeats_cases db ids with ⟨hsold, hd⟩ | ⟨hsold, db', hd⟩ <;> rw [hd]
    · exact .inl ⟨.inl hsold, _, rfl⟩
    · exact .inr ⟨not_or.mpr ⟨hsold, hpriced⟩, _, rfl⟩

end Deletes

/-! ### The three functions -/

section Calls

variable {trig : Trig} {text : Text} {db db' : Db}

/-- A filter finds something when something satisfies it. -/
theorem filter_ne_nil {α : Type} {p : α → Bool} {l : List α} :
    l.filter p ≠ [] ↔ ∃ a ∈ l, p a = true := by
  rw [ne_eq, List.filter_eq_nil_iff]
  push Not
  exact Iff.rfl

/-- A section has live tickets on its seats if it is live. -/
theorem liveTicketSeats_ne_nil {section_ : Nat} :
    liveTicketSeats db section_ ≠ [] ↔ LiveOn db [section_] := by
  unfold liveTicketSeats LiveOn seatsOf
  rw [filter_ne_nil]
  refine exists_congr fun t => ?_
  simp only [List.mem_filter, Bool.and_eq_true, decide_eq_true_eq, Option.any_eq_true,
    List.any_eq_true, beq_iff_eq, List.mem_singleton]
  constructor
  · rintro ⟨ht, ⟨s, hs, x, ⟨hx, hsection⟩, rfl⟩, hlive⟩
    exact ⟨ht, hlive, x, hx, hsection, hs⟩
  · rintro ⟨ht, hlive, x, hx, hsection, hs⟩
    exact ⟨ht, ⟨x.id, hs, x, ⟨hx, hsection⟩, rfl⟩, hlive⟩

/-- A chart has live tickets if one of its sections is live. -/
theorem liveChartTickets_ne_nil {chart : SeatingChart} :
    liveChartTickets db chart.id ≠ [] ↔ LiveOn db (sectionIds db (some chart)) := by
  unfold liveChartTickets LiveOn sectionIds
  rw [filter_ne_nil]
  refine exists_congr fun t => ?_
  simp only [Bool.and_eq_true, decide_eq_true_eq, Option.any_eq_true,
    List.any_eq_true, beq_iff_eq, List.mem_map]
  constructor
  · rintro ⟨ht, ⟨s, hs, x, hget, sec, hsec, hid⟩, hlive⟩
    obtain ⟨hx, rfl⟩ := Table.get?_eq_some.mp hget
    exact ⟨ht, hlive, x, hx, ⟨sec, hsec, hid⟩, hs⟩
  · rintro ⟨ht, hlive, x, hx, ⟨sec, hsec, hid⟩, hs⟩
    exact ⟨ht, ⟨x.id, hs, x, Table.get?_eq_some.mpr ⟨hx, rfl⟩, sec, hsec, hid⟩, hlive⟩

/-- **`generate_seats`.** -/
theorem generateSeats_outcome (section_ : Section) (rowCounts : List Nat)
    (accessible : Nat → List Nat) (removedIds accessibleIds : List SeatIdentity) :
    (LiveOn db [section_.id] ∧ generateSeats trig db section_ rowCounts accessible removedIds
        accessibleIds true = .error (generateRefusal db section_)) ∨
      (¬LiveOn db [section_.id] ∧ SoldOn db [section_.id] ∧
        generateSeats trig db section_ rowCounts accessible removedIds accessibleIds true
          = .error (.protectedRows "Seat")) ∨
      (¬LiveOn db [section_.id] ∧ ¬SoldOn db [section_.id] ∧
        ∃ db', generateSeats trig db section_ rowCounts accessible removedIds accessibleIds true
          = .ok db') := by
  unfold generateSeats generateRefusal
  dsimp only
  by_cases hnone : seatsOf db section_.id = []
  · rw [if_pos hnone]
    -- Nothing can be on the seats of a section that has none.
    have hempty : ∀ x ∈ db.seats.rows, x.section_ ∉ [section_.id] := fun x hx hsection =>
      List.filter_eq_nil_iff.mp hnone x hx (beq_iff_eq.mpr (List.mem_singleton.mp hsection))
    exact .inr (.inr ⟨fun ⟨_, _, _, x, hx, hsection, _⟩ => hempty x hx hsection,
      fun ⟨_, _, x, hx, hsection, _⟩ => hempty x hx hsection, _, rfl⟩)
  · rw [if_neg hnone]
    by_cases hlive : LiveOn db [section_.id]
    · rw [if_pos (liveTicketSeats_ne_nil.mpr hlive)]
      exact .inl ⟨hlive, rfl⟩
    · rw [if_neg (mt liveTicketSeats_ne_nil.mp hlive), if_neg (by decide), seatsOf_eq_filter]
      rcases deleteSeats_cases db [section_.id] with ⟨hsold, hd⟩ | ⟨hsold, db', hd⟩ <;> rw [hd]
      · exact .inr (.inl ⟨hlive, hsold, rfl⟩)
      · exact .inr (.inr ⟨hlive, hsold, _, rfl⟩)

/-! ### When a live ticket is the only reason to fail -/

/-- What the answer of a call is, in its three cases. -/
structure Answers (trig : Trig) (text : Text) (db : Db) (call : Replacement) : Prop where
  live : LiveOn db (call.sections text db) →
    ∃ e ∈ call.refusal text db, call.outcome trig text db = .error e
  stopped : ¬LiveOn db (call.sections text db) → call.Protected text db →
    ∃ model, call.outcome trig text db = .error (.protectedRows model)
  through : ¬LiveOn db (call.sections text db) → ¬call.Protected text db →
    call.outcome trig text db = .ok ()

/-- A call that answers so fails only for live tickets exactly if nothing else protects the
    seats. -/
theorem Answers.failsOnlyLive_iff {call : Replacement} (h : Answers trig text db call) :
    call.FailsOnlyLive trig text db ↔
      LiveOn db (call.sections text db) ∨ ¬call.Protected text db := by
  unfold Replacement.FailsOnlyLive
  by_cases hlive : LiveOn db (call.sections text db)
  · exact ⟨fun _ => .inl hlive, fun _ => ⟨⟨fun _ => hlive, fun _ => h.live hlive⟩,
      fun hnot => absurd hlive hnot⟩⟩
  · by_cases hprotected : call.Protected text db
    -- It fails here without a live ticket, which is what the property excludes.
    · obtain ⟨model, hstopped⟩ := h.stopped hlive hprotected
      constructor
      · rintro ⟨-, hthrough⟩
        rw [hthrough hlive] at hstopped
        cases hstopped
      · rintro (hl | hp)
        · exact absurd hl hlive
        · exact absurd hprotected hp
    · have hok := h.through hlive hprotected
      refine ⟨fun _ => .inr hprotected, fun _ => ⟨⟨?_, fun hl => absurd hl hlive⟩, fun _ => hok⟩⟩
      rintro ⟨e, -, he⟩
      rw [hok] at he
      cases he

/-- The answer of a regeneration, case by case. -/
theorem generateSeats_answers (section_ : Section) (rowCounts : List Nat)
    (accessible : Nat → List Nat) (removedIds accessibleIds : List SeatIdentity) :
    Answers trig text db
      (.generateSeats section_ rowCounts accessible removedIds accessibleIds) := by
  have hcases :=
    @generateSeats_outcome trig db section_ rowCounts accessible removedIds accessibleIds
  constructor
  · intro hlive
    rcases hcases with ⟨-, hg⟩ | ⟨hnot, -⟩ | ⟨hnot, -⟩
    · exact ⟨_, rfl, by unfold Replacement.outcome; dsimp only; rw [hg]; rfl⟩
    · exact absurd hlive hnot
    · exact absurd hlive hnot
  · intro hnot hsold
    rcases hcases with ⟨hlive, -⟩ | ⟨-, -, hg⟩ | ⟨-, hfree, -⟩
    · exact absurd hlive hnot
    · exact ⟨_, by unfold Replacement.outcome; dsimp only; rw [hg]; rfl⟩
    · exact absurd hsold hfree
  · intro hnot hfree
    rcases hcases with ⟨hlive, -⟩ | ⟨-, hsold, -⟩ | ⟨-, -, db', hg⟩
    · exact absurd hlive hnot
    · exact absurd hsold hfree
    · unfold Replacement.outcome
      dsimp only
      rw [hg]
      rfl

end Calls

end BoxOffice

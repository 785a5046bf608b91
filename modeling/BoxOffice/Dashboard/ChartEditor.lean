import BoxOffice.Venues.Generation

namespace BoxOffice

open Relational

/-!
# Dashboard — saving the chart editor

`chartEditorSave` is `chart_editor_save`: a loop over the sections of the payload, each saved in
a transaction of its own.

* `saveSection` is that transaction: move the seats in place when the roster is unchanged, else
  regenerate them, then store the parameters;
* `saveSection_ok` says what a save that goes through did to the database.
-/

/-- The layout fields of one section of the payload, after `int()` / `float()`; a field that was
    not sent is `none`. -/
structure LayoutInput where
  originX : Option ℚ
  originY : Option ℚ
  rotation : Option ℚ
  seatPitch : Option ℚ
  rowPitch : Option ℚ
  rowXOffset : Option ℚ
  arcRadius : Option (Option ℚ)
  offsetMode : Option OffsetMode
  altRowSeatDelta : Option Int
  rows : Option Int
  seatsPerRow : Option Int
  numberingScheme : Option NumberingScheme
  rowLabelScheme : Option RowLabelScheme
  rowLabelStart : Option Int
  pivotMode : Option PivotMode
  pivotX : Option ℚ
  pivotY : Option ℚ
deriving Repr, DecidableEq

/-- The loop over `_SECTION_PARAM_FIELDS`, with its server-side clamps. -/
def LayoutInput.apply (i : LayoutInput) (p : SectionParams) : SectionParams where
  originX := i.originX.getD p.originX
  originY := i.originY.getD p.originY
  rotation := i.rotation.getD p.rotation
  seatPitch := i.seatPitch.getD p.seatPitch
  rowPitch := i.rowPitch.getD p.rowPitch
  rowXOffset := (i.rowXOffset.map fun x => max (-2) (min 2 x)).getD p.rowXOffset
  offsetMode := i.offsetMode.getD p.offsetMode
  altRowSeatDelta := (i.altRowSeatDelta.map fun d => max (-1) (min 1 d)).getD p.altRowSeatDelta
  arcRadius := (i.arcRadius.map fun r => r.filter (· ≠ 0)).getD p.arcRadius
  pivotMode := i.pivotMode.getD p.pivotMode
  pivotX := i.pivotX.getD p.pivotX
  pivotY := i.pivotY.getD p.pivotY
  rows := (i.rows.map fun n => (max 1 n).toNat).getD p.rows
  seatsPerRow := (i.seatsPerRow.map fun n => (max 1 n).toNat).getD p.seatsPerRow
  removedSeats := p.removedSeats
  accessibleSeats := p.accessibleSeats
  numberingScheme := i.numberingScheme.getD p.numberingScheme
  rowLabelScheme := i.rowLabelScheme.getD p.rowLabelScheme
  rowLabelStart := (i.rowLabelStart.map fun n => (max 0 n).toNat).getD p.rowLabelStart

/-- `sorted` of a set of identities. -/
def sortedIdentities (ids : List SeatIdentity) : List SeatIdentity :=
  ids.dedup.insertionSort fun a b => a.1 < b.1 ∨ (a.1 = b.1 ∧ a.2 ≤ b.2)

/-- `section.save(update_fields=…)`. -/
def storeSection (db : Db) (section_ : Section) : Except ServiceError Db :=
  match db.sections.get? section_.id with
  | none => .error (.doesNotExist "Section")
  | some _ => .ok
    { db with
      sections := db.sections.update (fun s => s.id == section_.id)
        fun s => { s with params := section_.params } }

/-- The seats the parameters of the section ask for. -/
def prospectiveSeats (trig : Trig) (section_ : Section) (removed accessible : List SeatIdentity) :
    List SeatDraft :=
  let p := section_.params
  buildSeats trig p (computeRowCounts p.rows p.seatsPerRow p.offsetMode p.altRowSeatDelta)
    (fun _ => []) removed accessible

/-- The seats of one section: in place when the roster is unchanged, else regenerated. -/
def writeSeats (trig : Trig) (db : Db) (section_ : Section)
    (removed accessible : List SeatIdentity) : Except ServiceError Db :=
  let p := section_.params
  let rowCounts := computeRowCounts p.rows p.seatsPerRow p.offsetMode p.altRowSeatDelta
  match repositionSeats trig db section_ rowCounts removed accessible with
  | .error (.seatRosterChanged _) =>
    generateSeats trig db section_ rowCounts (fun _ => []) removed accessible true
  | result => result

/-- The transaction that saves one section; `section_` is the object in memory with the edited
    parameters. -/
def saveSection (trig : Trig) (db : Db) (section_ : Section)
    (removed accessible : List SeatIdentity) : Except ServiceError Db :=
  match writeSeats trig db section_ removed accessible with
  | .error e => .error e
  | .ok db => storeSection db
    { section_ with params :=
      { section_.params with
        removedSeats := sortedIdentities removed
        accessibleSeats := sortedIdentities accessible } }

/-! ### The request -/

/-- One entry of the payload: not an object; a parameter that does not convert, with the fields
    set before it; or a layout. -/
inductive SectionEntry
  | notAnObject
  | invalid (before : LayoutInput)
  | layout (input : LayoutInput) (removed accessible : List SeatIdentity)

/-- What the view answers. -/
inductive SaveResponse
  | json (saved : List Nat) (errors : List (String × String))
  | serverError (e : ServiceError)

/-- Set the parameters of one object in memory. -/
def setParams (sections : List Section) (section_ : Nat) (f : SectionParams → SectionParams) :
    List Section :=
  sections.map fun s => if s.id = section_ then { s with params := f s.params } else s

/-- The loop over the payload; an entry is its key, the integer it stands for and its value. -/
def saveEntries (trig : Trig) (db : Db) (sections : List Section) (saved : List Nat)
    (errors : List (String × String)) : List (String × Nat × SectionEntry) → Db × SaveResponse
  | [] => (db, .json saved errors)
  | (key, id, entry) :: rest =>
    match sections.find? (·.id == id), entry with
    | none, _ => saveEntries trig db sections saved errors rest
    | some _, .notAnObject => saveEntries trig db sections saved errors rest
    | some _, .invalid before =>
      saveEntries trig db (setParams sections id before.apply) saved
        (errors ++ [(key, "Invalid layout parameter value.")]) rest
    | some s, .layout input removed accessible =>
      let sections := setParams sections id input.apply
      match saveSection trig db { s with params := input.apply s.params } removed accessible with
      | .ok db => saveEntries trig db sections (saved ++ [id]) errors rest
      | .error e =>
        -- Anything but a refused generation leaves the view with the earlier sections saved.
        if e.isSeatGenerationError then
          saveEntries trig db sections saved (errors ++ [(key, e.message)]) rest
        else (db, .serverError e)

/-- `chart_editor_save`, from the decoded body on. -/
def chartEditorSave (trig : Trig) (db : Db) (organization chart : Nat)
    (payload : List (String × Nat × SectionEntry)) : Db × SaveResponse :=
  let sections := db.sections.rows.filter fun s =>
    s.organization == organization && s.chart == chart && payload.any fun e => e.2.1 == s.id
  saveEntries trig db sections [] [] payload

/-! ### What a save does -/

section Spec

variable {trig : Trig} {db db' : Db} {section_ : Section} {removed accessible : List SeatIdentity}

/-- A save that succeeds found its section, and writes sections only. -/
theorem storeSection_ok (h : storeSection db section_ = .ok db') :
    (db.sections.get? section_.id).isSome ∧ ∃ sections, db' = { db with sections := sections } := by
  unfold storeSection at h
  cases hs : db.sections.get? section_.id with
  | none => rw [hs] at h; cases h
  | some s => rw [hs] at h; cases h; exact ⟨rfl, _, rfl⟩

/-- Does the save delete the stored seats of the section?  The section is stored, its roster
    has changed, and neither the live-ticket guard nor a protected line stops it. -/
def Regenerates (trig : Trig) (db : Db) (section_ : Section)
    (removed accessible : List SeatIdentity) : Prop :=
  (db.sections.get? section_.id).isSome ∧
    sameRoster (prospectiveSeats trig section_ removed accessible) (seatsOf db section_.id) = false ∧
    liveTicketSeats db section_.id = [] ∧
    ∀ i ∈ db.orderItems.rows, ∀ s ∈ i.seat, s ∉ (seatsOf db section_.id).map (·.id)

/-- **Saving a section** that goes through leaves everything but the seats and the sections
    alone, or has deleted the stored seats of a section that can be regenerated. -/
theorem saveSection_ok (h : saveSection trig db section_ removed accessible = .ok db') :
    (∃ seats sections, db' = { db with seats := seats, sections := sections }) ∨
      (Regenerates trig db section_ removed accessible ∧ ∃ db₁ seats sections,
        deleteSeats db ((seatsOf db section_.id).map (·.id)) = .ok db₁ ∧
          db' = { db₁ with seats := seats, sections := sections }) := by
  unfold saveSection at h
  split at h
  · cases h
  · rename_i db₁ hw
    obtain ⟨hstored, sections, rfl⟩ := storeSection_ok h
    unfold writeSeats at hw
    dsimp only at hw
    split at hw
    · rename_i m hroster
      have hchanged : sameRoster (prospectiveSeats trig section_ removed accessible)
          (seatsOf db section_.id) = false := by
        unfold repositionSeats at hroster
        dsimp only at hroster
        split_ifs at hroster with hsame
        rw [Bool.not_eq_true'] at hsame
        exact hsame
      rcases generateSeats_ok hw with ⟨-, seats, rfl⟩ | ⟨hlive, db₂, seats, hd, rfl⟩
      · exact .inl ⟨seats, sections, rfl⟩
      · obtain ⟨hsold, hdb⟩ := deleteSeats_ok hd
        have hstored' : (db.sections.get? section_.id).isSome := by
          rw [hdb] at hstored
          exact hstored
        exact .inr ⟨⟨hstored', hchanged, hlive, hsold⟩, db₂, seats, sections, hd, rfl⟩
    · obtain ⟨seats, rfl⟩ := repositionSeats_ok hw
      exact .inl ⟨seats, sections, rfl⟩

end Spec

end BoxOffice

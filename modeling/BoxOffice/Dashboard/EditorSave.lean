import BoxOffice.Dashboard.ChartEditor
import BoxOffice.Venues.FloatSeats

namespace BoxOffice

open Relational Python

/-!
# Dashboard — saving the chart editor, from any JSON

`chart_editor_save` as Python runs it: on whatever `json.loads` returns, with sections that are
objects in memory and keep what an earlier entry has set on them.

* `EditorField`, `sectionParamFields` — `_SECTION_PARAM_FIELDS`, each with its conversion;
  `setFields` sets them one by one until one raises;
* `OnFloats.saveSection` — the transaction of one entry;
* `OnFloats.saveTurn`, `OnFloats.saveEntries` — the loop, with the objects, `saved` and `errors`;
* `OnFloats.chartEditorSave` — the request.
-/

section Save

variable {F : Type} {py : Builtins F}

/-! ### The parameters -/

/-- A field of a section: its name, and how its value is converted to what is set. -/
structure EditorField (F : Type) where
  name : String
  read : Json F → Except PyError (SectionParams F → SectionParams F)

/-- `setattr(section, field, float(raw[field]))`. -/
def floatField (py : Builtins F) (name : String)
    (set : F → SectionParams F → SectionParams F) : EditorField F where
  name := name
  read v := do return set (← v.toFloat py)

/-- `setattr(section, field, int(raw[field]))`, but for the clamp. -/
def intField (py : Builtins F) (name : String)
    (set : Int → SectionParams F → SectionParams F) : EditorField F where
  name := name
  read v := do return set (← v.toInt py)

/-- `setattr(section, field, str(raw[field]))`. -/
def textField (py : Builtins F) (name : String)
    (set : String → SectionParams F → SectionParams F) : EditorField F where
  name := name
  read v := .ok (set (v.text py))

/-- `value in (None, "", 0)`. -/
def unsetRadius (py : Builtins F) : Json F → Bool
  | .null => true
  | .bool b => !b
  | .int n => n == 0
  | .float x => py.isZero x
  | .str s => s == ""
  | .list _ | .object _ => false

/-- The arc radius, which may be none. -/
def radiusField (py : Builtins F) : EditorField F where
  name := "arc_radius"
  read v :=
    if unsetRadius py v then .ok fun p => { p with arcRadius := none }
    else do
      let radius ← v.toFloat py
      return fun p => { p with arcRadius := some radius }

/-- `_SECTION_PARAM_FIELDS`. -/
def sectionParamFields (py : Builtins F) : List (EditorField F) :=
  [floatField py "origin_x" fun x p => { p with originX := x },
    floatField py "origin_y" fun x p => { p with originY := x },
    floatField py "rotation" fun x p => { p with rotation := x },
    floatField py "seat_pitch" fun x p => { p with seatPitch := x },
    floatField py "row_pitch" fun x p => { p with rowPitch := x },
    floatField py "row_x_offset" fun x p =>
      { p with rowXOffset := py.max (py.lit (-2)) (py.min (py.lit 2) x) },
    radiusField py,
    textField py "offset_mode" fun s p => { p with offsetMode := .ofText s },
    intField py "alt_row_seat_delta" fun n p =>
      { p with altRowSeatDelta := max (-1) (min 1 n) },
    intField py "rows" fun n p => { p with rows := (max 1 n).toNat },
    intField py "seats_per_row" fun n p => { p with seatsPerRow := (max 1 n).toNat },
    textField py "numbering_scheme" fun s p => { p with numberingScheme := .ofText s },
    textField py "row_label_scheme" fun s p => { p with rowLabelScheme := .ofText s },
    intField py "row_label_start" fun n p => { p with rowLabelStart := (max 0 n).toNat },
    textField py "pivot_mode" fun s p => { p with pivotMode := .ofText s },
    floatField py "pivot_x" fun x p => { p with pivotX := x },
    floatField py "pivot_y" fun x p => { p with pivotY := x }]

/-- The loop over the fields.  What was set before an exception stays set. -/
def setFields (raw : List (String × Json F)) :
    List (EditorField F) → SectionParams F → SectionParams F × Option PyError
  | [], p => (p, none)
  | field :: rest, p =>
    match raw.lookup field.name with
    | none => setFields raw rest p
    | some v =>
      match field.read v with
      | .error e => (p, some e)
      | .ok set => setFields raw rest (set p)

namespace OnFloats

/-- `_clean_identity_pairs`. -/
def cleanIdentityPairs (py : Builtins F) : Json F → List SeatIdentity
  | .list items => items.filterMap fun
    | .list [.str row, number] => if row = "" then none else some (row, number.text py)
    | _ => none
  | _ => []

/-! ### One section -/

/-- The parameters that are saved. -/
def savedParams (p : SectionParams F) (removed accessible : List SeatIdentity) : SectionParams F :=
  { p with
    removedSeats := sortedIdentities removed
    accessibleSeats := sortedIdentities accessible }

/-- `compute_row_counts` of the section. -/
def saveCounts (p : SectionParams F) : List Nat :=
  computeRowCounts p.rows p.seatsPerRow p.offsetMode p.altRowSeatDelta

variable (cols : Columns py)

/-- The seats: in place when the roster is unchanged, else regenerated. -/
def writeSeats (db : Db) (section_ : SectionObject F) (removed accessible : List SeatIdentity) :
    Except Failure Db :=
  match repositionSeats cols db section_ (saveCounts section_.params) removed accessible with
  | .error (.service (.seatRosterChanged _)) =>
    generateSeats cols db section_ (saveCounts section_.params) removed accessible true
  | result => result

/-- `section.save(update_fields=…)`. -/
def storeSection (db : Db) (section_ : Nat) (p : SectionParams F) : Except Failure Db := do
  let stored ← cols.storeParams p
  match db.sections.get? section_ with
  | none => .error (.service (.doesNotExist "Section"))
  | some _ =>
    return { db with
      sections := db.sections.update (fun s => s.id == section_)
        fun s => { s with params := stored } }

/-- The transaction that saves one section. -/
def saveSection (db : Db) (section_ : SectionObject F) (removed accessible : List SeatIdentity) :
    Except Failure Db := do
  let db ← writeSeats cols db section_ removed accessible
  storeSection cols db section_.row.id (savedParams section_.params removed accessible)

/-! ### The loop -/

/-- One entry of the payload, with the integer that its key stands for. -/
structure EditorEntry (F : Type) where
  key : String
  id : Int
  raw : Json F

/-- The state of the loop: the database, the sections in memory, and the answer so far. -/
structure EditorSave (F : Type) where
  db : Db
  sections : List (SectionObject F)
  saved : List Nat
  errors : List (String × String)

/-- Set the parameters of one section in memory. -/
def EditorSave.setParams (s : EditorSave F) (section_ : Nat) (p : SectionParams F) :
    EditorSave F :=
  { s with
    sections := s.sections.map fun o => if o.row.id = section_ then { o with params := p } else o }

/-- `sections.get(int(section_id))`. -/
def EditorSave.find (s : EditorSave F) (e : EditorEntry F) : Option (SectionObject F) :=
  s.sections.find? fun o => (o.row.id : Int) == e.id

/-- One turn.  An exception that is not caught leaves the view. -/
def saveTurn (s : EditorSave F) (e : EditorEntry F) : Except Failure (EditorSave F) :=
  match s.find e, e.raw with
  | some section_, .object raw =>
    match setFields raw (sectionParamFields py) section_.params with
    | (p, some error) =>
      if error.Conversion then
        .ok { s.setParams section_.row.id p with
          errors := s.errors ++ [(e.key, "Invalid layout parameter value.")] }
      else .error (.raised error)
    | (p, none) =>
      let removed := cleanIdentityPairs py (getKey raw "removed")
      let accessible := cleanIdentityPairs py (getKey raw "accessible")
      match saveSection cols s.db ⟨section_.row, p⟩ removed accessible with
      | .ok db =>
        .ok { s.setParams section_.row.id (savedParams p removed accessible) with
          db := db
          saved := s.saved ++ [section_.row.id] }
      | .error (.service error) =>
        if error.isSeatGenerationError then
          .ok { s.setParams section_.row.id p with
            errors := s.errors ++ [(e.key, error.message)] }
        else .error (.service error)
      | .error (.raised error) => .error (.raised error)
  | _, _ => .ok s

/-- What the view answers. -/
inductive EditorAnswer
  | badRequest (error : String)
  | json (saved : List Nat) (errors : List (String × String))
  | serverError (e : Failure)

/-- The loop over the payload. -/
def saveEntries : EditorSave F → List (EditorEntry F) → Db × EditorAnswer
  | s, [] => (s.db, .json s.saved s.errors)
  | s, e :: rest =>
    match saveTurn cols s e with
    | .ok s' => saveEntries s' rest
    | .error failure => (s.db, .serverError failure)

/-- The sections that the request reads. -/
def loadSections (db : Db) (organization chart : Nat) (entries : List (EditorEntry F)) :
    List (SectionObject F) :=
  (db.sections.rows.filter fun s =>
    s.organization == organization && s.chart == chart &&
      entries.any fun e => e.id == (s.id : Int)).map fun s => ⟨s, cols.loadParams s.params⟩

/-- The loop before its first turn. -/
def beginSave (db : Db) (organization chart : Nat) (entries : List (EditorEntry F)) :
    EditorSave F where
  db := db
  sections := loadSections cols db organization chart entries
  saved := []
  errors := []

/-- `int(section_id)`. -/
def parseEntry (py : Builtins F) (entry : String × Json F) : Option (EditorEntry F) :=
  (intOfText py.chars entry.1).map fun id => ⟨entry.1, id, entry.2⟩

/-- `chart_editor_save`, from the decoded body on.  `takes` says which integers the database takes
    as a parameter of a query. -/
def chartEditorSave (takes : Int → Bool) (db : Db) (organization chart : Nat) (payload : Json F) :
    Db × EditorAnswer :=
  match payload with
  | .object payload =>
    match getKey payload "sections" with
    | .object (first :: rest) =>
      match (first :: rest).mapM (parseEntry py) with
      | none => (db, .badRequest "Invalid section id.")
      | some entries =>
        if entries.all fun e => takes e.id then
          saveEntries cols (beginSave cols db organization chart entries) entries
        else (db, .serverError (.raised .overflowError))
    | _ => (db, .badRequest "No sections given.")
  | _ => (db, .serverError (.raised .attributeError))

end OnFloats

end Save

end BoxOffice

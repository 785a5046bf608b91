import BoxOffice.Dashboard.ChartEditor
import BoxOffice.Venues.ChartIo
import BoxOffice.Venues.SeatKey

namespace BoxOffice

open Relational

/-!
# Dashboard — the page of the chart editor

What the browser holds of a section between loading the editor and saving it: `makeSection` reads
the JSON of `_section_json`, `buildPayload` writes the JSON that `chart_editor_save` reads.
`editorEntry_apply` says what a section that nobody edited becomes: what the page replaces by a
default or the server clamps is lost, everything else comes back.
-/

/-- One entry of `sections` in the page's state: `makeSection` without names, links and colours. -/
structure EditorSection where
  id : Nat
  originX : ℚ
  originY : ℚ
  rotation : ℚ
  seatPitch : ℚ
  rowPitch : ℚ
  rowXOffset : ℚ
  pivotMode : PivotMode
  pivotX : ℚ
  pivotY : ℚ
  /-- Zero is straight. -/
  arcRadius : ℚ
  offsetMode : OffsetMode
  altRowSeatDelta : Int
  rows : Int
  seatsPerRow : Int
  numberingScheme : NumberingScheme
  rowLabelScheme : RowLabelScheme
  rowLabelStart : Int
  removedIds : List String
  accessibleIds : List String
deriving Repr, DecidableEq

/-- `raw.pivot_mode || "center"`: the empty text is falsy. -/
def pivotModeOrCenter (mode : PivotMode) : PivotMode :=
  if mode = .other "" then .center else mode

/-- `makeSection`, of what `_section_json` makes of the section. -/
def makeSection (s : Section) : EditorSection where
  id := s.id
  originX := s.params.originX
  originY := s.params.originY
  rotation := s.params.rotation
  seatPitch := s.params.seatPitch
  rowPitch := s.params.rowPitch
  rowXOffset := s.params.rowXOffset
  pivotMode := pivotModeOrCenter s.params.pivotMode
  pivotX := s.params.pivotX
  pivotY := s.params.pivotY
  arcRadius := s.params.arcRadius.getD 0
  offsetMode := s.params.offsetMode
  altRowSeatDelta := s.params.altRowSeatDelta
  rows := s.params.rows
  seatsPerRow := s.params.seatsPerRow
  numberingScheme := s.params.numberingScheme
  rowLabelScheme := s.params.rowLabelScheme
  rowLabelStart := s.params.rowLabelStart
  removedIds := keySet s.params.removedSeats
  accessibleIds := keySet s.params.accessibleSeats

/-- The parameters of one section of the payload.  `row_label_start` is not one of the fields the
    page sends. -/
def EditorSection.layout (s : EditorSection) : LayoutInput where
  originX := some s.originX
  originY := some s.originY
  rotation := some s.rotation
  seatPitch := some s.seatPitch
  rowPitch := some s.rowPitch
  rowXOffset := some s.rowXOffset
  arcRadius := some (if s.arcRadius = 0 then none else some s.arcRadius)
  offsetMode := some s.offsetMode
  altRowSeatDelta := some s.altRowSeatDelta
  rows := some s.rows
  seatsPerRow := some s.seatsPerRow
  numberingScheme := some s.numberingScheme
  rowLabelScheme := some s.rowLabelScheme
  rowLabelStart := none
  pivotMode := some s.pivotMode
  pivotX := some s.pivotX
  pivotY := some s.pivotY

/-- One section of the payload, as the server decodes it. -/
def EditorSection.entry (s : EditorSection) : String × Nat × SectionEntry :=
  (toString s.id, s.id, .layout s.layout (cleanIdentityPairs (s.removedIds.map splitKey))
    (cleanIdentityPairs (s.accessibleIds.map splitKey)))

/-- `buildPayload`.  The keys of the object are integers, which come in ascending order. -/
def buildPayload (sections : List EditorSection) : List (String × Nat × SectionEntry) :=
  (sortBy (·.id) sections).map EditorSection.entry

/-- The state of the page when the editor of a chart has loaded. -/
def editorSections (db : Db) (chart : Nat) : List EditorSection :=
  (orderedSections db chart).map makeSection

/-! ### What comes back of a section -/

/-- What a section becomes when it goes to the page and back. -/
def returnedParams (p : SectionParams) : SectionParams :=
  { p with
    rowXOffset := max (-2) (min 2 p.rowXOffset)
    altRowSeatDelta := max (-1) (min 1 p.altRowSeatDelta)
    arcRadius := p.arcRadius.filter (· ≠ 0)
    pivotMode := pivotModeOrCenter p.pivotMode
    rows := max 1 p.rows
    seatsPerRow := max 1 p.seatsPerRow }

/-- A number of seats or rows, clamped as an integer, is clamped as a natural number. -/
theorem max_toNat (n : Nat) : (max 1 (n : Int)).toNat = max 1 n := by omega

/-- A radius of zero comes back as no radius. -/
theorem arcRadius_returned (r : Option ℚ) :
    (if r.getD 0 = 0 then none else some (r.getD 0)).filter (· ≠ 0) = r.filter (· ≠ 0) := by
  cases r with
  | none => rfl
  | some r =>
    rw [Option.getD_some]
    split_ifs with hr
    · subst hr; rfl
    · rfl

/-- **There and back.** -/
theorem editorEntry_apply (s : Section) :
    (makeSection s).layout.apply s.params = returnedParams s.params := by
  unfold LayoutInput.apply EditorSection.layout makeSection returnedParams
  simp only [Option.getD_some, Option.map_some, Option.getD_none, Option.map_none, max_toNat,
    arcRadius_returned]

/-- The parameters that the editor returns as they are, overrides apart. -/
structure SectionParams.InRange (p : SectionParams) : Prop where
  rowXOffset : -2 ≤ p.rowXOffset ∧ p.rowXOffset ≤ 2
  altRowSeatDelta : -1 ≤ p.altRowSeatDelta ∧ p.altRowSeatDelta ≤ 1
  arcRadius : p.arcRadius ≠ some 0
  pivotMode : p.pivotMode ≠ .other ""
  rows : 1 ≤ p.rows
  seatsPerRow : 1 ≤ p.seatsPerRow

/-- Clamping leaves a value alone exactly if it is within the bounds. -/
theorem clamp_eq_self_iff {α : Type} [LinearOrder α] {low high x : α} (h : low ≤ high) :
    max low (min high x) = x ↔ low ≤ x ∧ x ≤ high := by
  constructor
  · intro hx
    rw [← hx]
    exact ⟨le_max_left .., max_le h (min_le_left ..)⟩
  · rintro ⟨hlow, hhigh⟩
    rw [min_eq_right hhigh, max_eq_right hlow]

/-- **In range** is coming back unchanged. -/
theorem returnedParams_eq_self_iff {p : SectionParams} : returnedParams p = p ↔ p.InRange := by
  have harc : p.arcRadius.filter (· ≠ 0) = p.arcRadius ↔ p.arcRadius ≠ some 0 := by
    cases p.arcRadius with
    | none => simp
    | some r => by_cases hr : r = 0 <;> simp [hr]
  have hpivot : pivotModeOrCenter p.pivotMode = p.pivotMode ↔ p.pivotMode ≠ .other "" := by
    unfold pivotModeOrCenter
    split_ifs with h
    · rw [h]; decide
    · exact ⟨fun _ => h, fun _ => rfl⟩
  have hfields : returnedParams p = p ↔
      max (-2) (min 2 p.rowXOffset) = p.rowXOffset ∧
      max (-1) (min 1 p.altRowSeatDelta) = p.altRowSeatDelta ∧
      p.arcRadius.filter (· ≠ 0) = p.arcRadius ∧ pivotModeOrCenter p.pivotMode = p.pivotMode ∧
      max 1 p.rows = p.rows ∧ max 1 p.seatsPerRow = p.seatsPerRow := by
    obtain ⟨⟩ := p
    simp only [returnedParams, SectionParams.mk.injEq, true_and, and_true]
  rw [hfields, clamp_eq_self_iff (by norm_num), clamp_eq_self_iff (by decide), harc, hpivot,
    max_eq_right_iff, max_eq_right_iff]
  exact ⟨fun ⟨h1, h2, h3, h4, h5, h6⟩ => ⟨h1, h2, h3, h4, h5, h6⟩,
    fun h => ⟨h.rowXOffset, h.altRowSeatDelta, h.arcRadius, h.pivotMode, h.rows, h.seatsPerRow⟩⟩

end BoxOffice

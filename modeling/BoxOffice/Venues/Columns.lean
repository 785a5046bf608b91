import BoxOffice.Python.Json
import BoxOffice.Schema

namespace BoxOffice

open Python

/-!
# Venues — Python values in the columns of charts

What `Model.save` and `bulk_create` make of the values of a section or a seat.

* `Columns` — which numbers, integers and characters the database takes, as a parameter;
* `Columns.textOf`, `Columns.countOf`, `Columns.floatOf` — the conversion of a field, then the
  constraint of its column;
* `Failure` — what ends a call: an exception of the language, or one of the service layer and the
  database.
-/

/-- What ends a call. -/
inductive Failure
  | raised (e : PyError)
  | service (e : ServiceError)
deriving Repr, DecidableEq

/-- An exception of the language leaves the call. -/
def raised {α : Type} : Except PyError α → Except Failure α
  | .ok a => .ok a
  | .error e => .error (.raised e)

/-- How the database holds the values of Python. -/
structure Columns {F : Type} (py : Builtins F) where
  /-- What a float column holds; `none` is a number that the database refuses. -/
  float : F → Option ℚ
  /-- The number that is read back. -/
  read : ℚ → F
  read_float : ∀ {x q}, float x = some q → read q = x
  float_lit : ∀ q, (float (py.lit q)).isSome
  /-- Is the integer in the range of its column? -/
  integer : Int → Bool
  integer_small : ∀ n, n.natAbs < 2 ^ 31 → integer n
  /-- Does a text column take the character? -/
  char : Char → Bool
  char_ascii : ∀ c, 32 ≤ c.toNat → c.toNat < 127 → char c

/-- Columns that hold finite numbers of 32 bits and any text. -/
def exactColumns : Columns Extended.builtins where
  float
    | .finite q => some q
    | _ => none
  read := .finite
  read_float {x q} h := by cases x <;> cases h; rfl
  float_lit _ := rfl
  integer n := decide (n.natAbs < 2 ^ 31)
  integer_small n h := decide_eq_true h
  char _ := true
  char_ascii _ _ _ := rfl

/-! ### Choices -/

def NumberingScheme.ofText : String → NumberingScheme
  | "sequential" => .sequential
  | "odd_desc_left" => .oddDescLeft
  | "even_asc_right" => .evenAscRight
  | "hundreds" => .hundreds
  | "hundreds_flat" => .hundredsFlat
  | s => .other s

def NumberingScheme.text : NumberingScheme → String
  | .sequential => "sequential"
  | .oddDescLeft => "odd_desc_left"
  | .evenAscRight => "even_asc_right"
  | .hundreds => "hundreds"
  | .hundredsFlat => "hundreds_flat"
  | .other s => s

def RowLabelScheme.ofText : String → RowLabelScheme
  | "skip_io" => .skipIo
  | "all_letters" => .allLetters
  | s => .other s

def RowLabelScheme.text : RowLabelScheme → String
  | .skipIo => "skip_io"
  | .allLetters => "all_letters"
  | .other s => s

def OffsetMode.ofText : String → OffsetMode
  | "repeated" => .repeated
  | "alternating" => .alternating
  | s => .other s

def OffsetMode.text : OffsetMode → String
  | .repeated => "repeated"
  | .alternating => "alternating"
  | .other s => s

def PivotMode.ofText : String → PivotMode
  | "center" => .center
  | "origin" => .origin
  | "custom" => .custom
  | s => .other s

def PivotMode.text : PivotMode → String
  | .center => "center"
  | .origin => "origin"
  | .custom => "custom"
  | .other s => s

/-! ### Fields -/

section Fields

variable {F : Type} {py : Builtins F} (cols : Columns py)

/-- A text against the length and the characters of its column. -/
def Columns.storeText (maxLength : Nat) (column text : String) : Except Failure String :=
  if maxLength < text.length ∨ ¬text.toList.all cols.char then .error (.service (.dataError column))
  else .ok text

/-- A float against its column, which is not null. -/
def Columns.storeFloat (column : String) (x : F) : Except Failure ℚ :=
  match cols.float x with
  | some q => .ok q
  | none => .error (.service (.integrity column))

/-- `CharField`. -/
def Columns.textOf (maxLength : Nat) (column : String) : Json F → Except Failure String
  | .null => .error (.service (.integrity column))
  | v => cols.storeText maxLength column (v.text py)

/-- `PositiveIntegerField`. -/
def Columns.countOf (column : String) : Json F → Except Failure Nat
  | .null => .error (.service (.integrity column))
  | v => do
    let n ← raised (v.toInt py)
    if n < 0 then .error (.service (.integrity column))
    else if ¬cols.integer n then .error (.service (.dataError column))
    else .ok n.toNat

/-- `FloatField`. -/
def Columns.floatOf (column : String) : Json F → Except Failure ℚ
  | .null => .error (.service (.integrity column))
  | v => do cols.storeFloat column (← raised (v.toFloat py))

/-- `FloatField(null=True)`. -/
def Columns.nullableFloatOf (column : String) : Json F → Except Failure (Option ℚ)
  | .null => .ok none
  | v => do return some (← cols.floatOf column v)

/-! ### The parameters of a section -/

/-- The parameters with every float replaced. -/
def SectionParams.mapFloats {K L : Type} (f : K → L) (p : SectionParams K) : SectionParams L where
  originX := f p.originX
  originY := f p.originY
  rotation := f p.rotation
  seatPitch := f p.seatPitch
  rowPitch := f p.rowPitch
  rowXOffset := f p.rowXOffset
  offsetMode := p.offsetMode
  altRowSeatDelta := p.altRowSeatDelta
  arcRadius := p.arcRadius.map f
  pivotMode := p.pivotMode
  pivotX := f p.pivotX
  pivotY := f p.pivotY
  rows := p.rows
  seatsPerRow := p.seatsPerRow
  removedSeats := p.removedSeats
  accessibleSeats := p.accessibleSeats
  numberingScheme := p.numberingScheme
  rowLabelScheme := p.rowLabelScheme
  rowLabelStart := p.rowLabelStart

/-- The floats of the parameters, with their columns. -/
def SectionParams.floats {K : Type} (p : SectionParams K) : List (String × K) :=
  [("origin_x", p.originX), ("origin_y", p.originY), ("rotation", p.rotation),
    ("seat_pitch", p.seatPitch), ("row_pitch", p.rowPitch), ("row_x_offset", p.rowXOffset),
    ("pivot_x", p.pivotX), ("pivot_y", p.pivotY)] ++ (p.arcRadius.map (("arc_radius", ·))).toList

/-- The integers. -/
def SectionParams.integers {K : Type} (p : SectionParams K) : List (String × Int) :=
  [("alt_row_seat_delta", p.altRowSeatDelta), ("rows", p.rows), ("seats_per_row", p.seatsPerRow),
    ("row_label_start", p.rowLabelStart)]

/-- The choices, with the lengths of their columns. -/
def SectionParams.choices {K : Type} (p : SectionParams K) : List (String × Nat × String) :=
  [("offset_mode", 20, p.offsetMode.text), ("pivot_mode", 10, p.pivotMode.text),
    ("numbering_scheme", 20, p.numberingScheme.text),
    ("row_label_scheme", 20, p.rowLabelScheme.text)]

/-- The texts of the two override lists. -/
def SectionParams.overrides {K : Type} (p : SectionParams K) : List String :=
  (p.removedSeats ++ p.accessibleSeats).flatMap fun i => [i.1, i.2]

/-- Does every column of the parameters take its value? -/
structure Columns.Takes (p : SectionParams F) : Prop where
  floats : ∀ c ∈ p.floats, (cols.float c.2).isSome
  integers : ∀ c ∈ p.integers, cols.integer c.2
  choices : ∀ c ∈ p.choices, c.2.2.length ≤ c.2.1 ∧ c.2.2.toList.all cols.char
  overrides : ∀ text ∈ p.overrides, text.toList.all cols.char

/-- The columns take the parameters if each takes its own. -/
theorem Columns.takes_iff (p : SectionParams F) : cols.Takes p ↔
    (∀ c ∈ p.floats, (cols.float c.2).isSome) ∧ (∀ c ∈ p.integers, cols.integer c.2) ∧
      (∀ c ∈ p.choices, c.2.2.length ≤ c.2.1 ∧ c.2.2.toList.all cols.char) ∧
      ∀ text ∈ p.overrides, text.toList.all cols.char :=
  ⟨fun h => ⟨h.floats, h.integers, h.choices, h.overrides⟩, fun h => ⟨h.1, h.2.1, h.2.2.1, h.2.2.2⟩⟩

instance (p : SectionParams F) : Decidable (cols.Takes p) :=
  decidable_of_iff _ (cols.takes_iff p).symm

/-- The parameters as their columns hold them. -/
def Columns.storeParams (p : SectionParams F) : Except Failure SectionParams :=
  if cols.Takes p then .ok (p.mapFloats fun x => (cols.float x).getD 0)
  else .error (.service (.dataError "Section"))

/-- The parameters of a stored section. -/
def Columns.loadParams (p : SectionParams) : SectionParams F := p.mapFloats cols.read

variable {cols}

/-- What is stored is read back. -/
theorem Columns.loadParams_storeParams {p : SectionParams F} {stored : SectionParams}
    (h : cols.storeParams p = .ok stored) : cols.loadParams stored = p := by
  unfold Columns.storeParams at h
  split_ifs at h with htakes
  cases h
  have hread (column : String) (x : F) (hx : (column, x) ∈ p.floats) :
      cols.read ((cols.float x).getD 0) = x := by
    obtain ⟨q, hq⟩ := Option.isSome_iff_exists.mp (htakes.floats _ hx)
    rw [hq]
    exact cols.read_float hq
  have harc : (p.arcRadius.map fun x => (cols.float x).getD 0).map cols.read = p.arcRadius := by
    cases hr : p.arcRadius with
    | none => rfl
    | some r =>
      refine congrArg some (hread "arc_radius" r ?_)
      simp [SectionParams.floats, hr]
  unfold Columns.loadParams SectionParams.mapFloats
  dsimp only
  rw [harc, hread "origin_x" _ (by simp [SectionParams.floats]),
    hread "origin_y" _ (by simp [SectionParams.floats]),
    hread "rotation" _ (by simp [SectionParams.floats]),
    hread "seat_pitch" _ (by simp [SectionParams.floats]),
    hread "row_pitch" _ (by simp [SectionParams.floats]),
    hread "row_x_offset" _ (by simp [SectionParams.floats]),
    hread "pivot_x" _ (by simp [SectionParams.floats]),
    hread "pivot_y" _ (by simp [SectionParams.floats])]

end Fields

end BoxOffice

import BoxOffice.Python.Raising
import BoxOffice.Venues.SpecJson

namespace BoxOffice

open Python

/-!
# Venues — normalised sections

One section of a chart spec, from any JSON object.

* `Convertible` — no conversion raises what is not caught;
* `SectionSpecJson.Normal` — the values are in range, and the alignment is folded in;
* `normalizeSection_ok_iff`, `normalizeSection_normal` — which objects are normalised, and that
  the result is normal;
* `normalizeSection_entries` — a normal section is left as it is.
-/

section Normal

variable {F : Type} (py : Builtins F)

/-! ### Conversions -/

/-- The keys that hold integers, floats and choices. -/
def integerKeys : List String := ["rows", "seats_per_row", "alt_row_seat_delta", "row_label_start"]

def floatKeys : List String :=
  ["arc_radius", "origin_x", "origin_y", "rotation", "seat_pitch", "row_pitch", "row_x_offset"]

def choiceKeys : List String := ["offset_mode", "numbering_scheme", "row_label_scheme"]

/-- Whatever the conversions of an entry raise is caught: no integer is an infinite float, no float
    is too large an integer, and no choice is a list or an object. -/
structure Convertible (raw : List (String × Json F)) : Prop where
  integers : ∀ key ∈ integerKeys, ∀ e, (getKey raw key).toInt py = .error e → e.Conversion
  floats : ∀ key ∈ floatKeys, ∀ e, (getKey raw key).toFloat py = .error e → e.Conversion
  choices : ∀ key ∈ choiceKeys, (getKey raw key).unhashable = false

/-- A count can be read unless the conversion raises what is not caught. -/
theorem clampIntJson_ok_iff {value : Json F} {low high default : Int} :
    (∃ n, clampIntJson py value low high default = .ok n) ↔
      ∀ e, value.toInt py = .error e → e.Conversion := by
  unfold clampIntJson
  cases h : value.toInt py with
  | ok n => simp
  | error e =>
    dsimp only
    split_ifs with hcaught <;> simp [hcaught]

/-- So can a float. -/
theorem asFloat_ok_iff {value : Json F} {default : F} :
    (∃ x, asFloat py value default = .ok x) ↔
      ∀ e, value.toFloat py = .error e → e.Conversion := by
  unfold asFloat
  cases h : value.toFloat py with
  | ok x => simp
  | error e =>
    dsimp only
    split_ifs with hcaught <;> simp [hcaught]

/-- So can a pitch. -/
theorem asPitchJson_ok_iff {value : Json F} :
    (∃ x, asPitchJson py value = .ok x) ↔ ∀ e, value.toFloat py = .error e → e.Conversion := by
  rw [← @asFloat_ok_iff _ py value (py.lit 1)]
  unfold asPitchJson
  simp only [bind_eq_ok, pure_eq_ok]
  exact ⟨fun ⟨_, x, hx, _⟩ => ⟨x, hx⟩, fun ⟨x, hx⟩ => ⟨_, x, hx, rfl⟩⟩

/-- So can a radius. -/
theorem asRadiusJson_ok_iff {value : Json F} :
    (∃ r, asRadiusJson py value = .ok r) ↔ ∀ e, value.toFloat py = .error e → e.Conversion := by
  by_cases hnull : value = .null
  · rw [hnull]
    refine iff_of_true ⟨none, rfl⟩ fun e h => ?_
    cases h
    exact Or.inl rfl
  · rw [← @asFloat_ok_iff _ py value (py.lit 0)]
    have hradius : asRadiusJson py value = (do
        let x ← asFloat py value (py.lit 0)
        return if py.le x (py.lit 0) then none else some x) := by
      cases value with
      | null => exact absurd rfl hnull
      | _ => rfl
    rw [hradius]
    simp only [bind_eq_ok, pure_eq_ok]
    exact ⟨fun ⟨_, x, hx, _⟩ => ⟨x, hx⟩, fun ⟨x, hx⟩ => ⟨_, x, hx, rfl⟩⟩

/-- A choice can be read if the value is hashable. -/
theorem asChoice_ok_iff {α : Type} {pick : Option String → α} {value : Json F} :
    (∃ a, asChoice pick value = .ok a) ↔ value.unhashable = false := by
  cases value <;> simp [asChoice, Json.unhashable]

/-- One object is normalised exactly if it is convertible. -/
theorem normalizeSection_ok_iff {raw : List (String × Json F)} {name : String} :
    (∃ s, normalizeSection py raw name = .ok s) ↔ Convertible py raw := by
  unfold normalizeSection
  simp only [bind_eq_ok, pure_eq_ok]
  constructor
  -- Read backwards: whatever was converted was convertible.
  · rintro ⟨s, arc, harc, rows, hrows, seats, hseats, ox, hox, oy, hoy, rot, hrot, sp, hsp, rp, hrp,
      mode, hmode, rx, hrx, delta, hdelta, num, hnum, lab, hlab, start, hstart, -⟩
    have hint {value : Json F} {n low high default : Int}
        (h : clampIntJson py value low high default = .ok n) := (clampIntJson_ok_iff py).mp ⟨n, h⟩
    have hfloat {value : Json F} {x default : F} (h : asFloat py value default = .ok x) :=
      (asFloat_ok_iff py).mp ⟨x, h⟩
    have hpitch {value : Json F} {x : F} (h : asPitchJson py value = .ok x) :=
      (asPitchJson_ok_iff py).mp ⟨x, h⟩
    constructor
    · simp only [integerKeys, List.forall_mem_cons]
      exact ⟨hint hrows, hint hseats, hint hdelta, hint hstart, List.forall_mem_nil _⟩
    · simp only [floatKeys, List.forall_mem_cons]
      exact ⟨(asRadiusJson_ok_iff py).mp ⟨_, harc⟩, hfloat hox, hfloat hoy, hfloat hrot, hpitch hsp,
        hpitch hrp, hfloat hrx, List.forall_mem_nil _⟩
    · simp only [choiceKeys, List.forall_mem_cons]
      exact ⟨asChoice_ok_iff.mp ⟨_, hmode⟩, asChoice_ok_iff.mp ⟨_, hnum⟩,
        asChoice_ok_iff.mp ⟨_, hlab⟩, List.forall_mem_nil _⟩
  · intro h
    -- Forwards: each field has its key in one of the three lists.
    have hint {low high default : Int} (key : String) (hkey : key ∈ integerKeys) :
        ∃ n, clampIntJson py (getKey raw key) low high default = .ok n :=
      (clampIntJson_ok_iff py).mpr (h.integers key hkey)
    have hfloat {default : F} (key : String) (hkey : key ∈ floatKeys) :
        ∃ x, asFloat py (getKey raw key) default = .ok x :=
      (asFloat_ok_iff py).mpr (h.floats key hkey)
    have hpitch (key : String) (hkey : key ∈ floatKeys) :
        ∃ x, asPitchJson py (getKey raw key) = .ok x :=
      (asPitchJson_ok_iff py).mpr (h.floats key hkey)
    have hchoice {α : Type} {pick : Option String → α} (key : String) (hkey : key ∈ choiceKeys) :
        ∃ a, asChoice pick (getKey raw key) = .ok a :=
      asChoice_ok_iff.mpr (h.choices key hkey)
    obtain ⟨arc, harc⟩ := (asRadiusJson_ok_iff py).mpr (h.floats "arc_radius" (by decide))
    obtain ⟨rows, hrows⟩ := hint "rows" (by decide)
    obtain ⟨seats, hseats⟩ := hint "seats_per_row" (by decide)
    obtain ⟨ox, hox⟩ := hfloat "origin_x" (by decide)
    obtain ⟨oy, hoy⟩ := hfloat "origin_y" (by decide)
    obtain ⟨rot, hrot⟩ := hfloat "rotation" (by decide)
    obtain ⟨sp, hsp⟩ := hpitch "seat_pitch" (by decide)
    obtain ⟨rp, hrp⟩ := hpitch "row_pitch" (by decide)
    obtain ⟨mode, hmode⟩ := hchoice "offset_mode" (by decide)
    obtain ⟨rx, hrx⟩ := hfloat "row_x_offset" (by decide)
    obtain ⟨delta, hdelta⟩ := hint "alt_row_seat_delta" (by decide)
    obtain ⟨num, hnum⟩ := hchoice "numbering_scheme" (by decide)
    obtain ⟨lab, hlab⟩ := hchoice "row_label_scheme" (by decide)
    obtain ⟨start, hstart⟩ := hint "row_label_start" (by decide)
    exact ⟨_, arc, harc, rows, hrows, seats, hseats, ox, hox, oy, hoy, rot, hrot, sp, hsp, rp, hrp,
      mode, hmode, rx, hrx, delta, hdelta, num, hnum, lab, hlab, start, hstart, rfl⟩

/-! ### What is normal -/

/-- Counts, deltas and texts in range, every choice a known one, and the alignment folded in. -/
structure SectionSpecJson.Normal (s : SectionSpecJson F) : Prop where
  name : s.name.length ≤ 255
  tier : s.tier.length ≤ 100
  rows : 1 ≤ s.rows ∧ (s.rows : Int) ≤ maxRows
  seatsPerRow : 1 ≤ s.seatsPerRow ∧ (s.seatsPerRow : Int) ≤ maxSeatsPerRow
  altRowSeatDelta : -maxSeatsPerRow ≤ s.altRowSeatDelta ∧ s.altRowSeatDelta ≤ maxSeatsPerRow
  rowLabelStart : (s.rowLabelStart : Int) ≤ 2 * maxRows
  offsetMode : asOffsetMode (some s.offsetMode) = s.offsetMode
  numberingScheme : asNumberingScheme (some s.numberingScheme) = s.numberingScheme
  rowLabelScheme : asRowLabelScheme (some s.rowLabelScheme) = s.rowLabelScheme
  seatPitch : py.isZero s.seatPitch = false
  rowPitch : py.isZero s.rowPitch = false
  arcRadius : ∀ r, s.arcRadius = some r → py.le r (py.lit 0) = false
  folded : foldAlignment py s = s

/-- A cut text has the length it was cut to at most. -/
theorem takeChars_length (n : Nat) (text : String) : (takeChars n text).length ≤ n := by
  unfold takeChars
  rw [String.length_ofList, List.length_take]
  exact min_le_left _ _

/-- A text that is short enough is not cut. -/
theorem takeChars_eq_self {n : Nat} {text : String} (h : text.length ≤ n) :
    takeChars n text = text := by
  unfold takeChars
  rw [List.take_of_length_le (by rwa [String.length_toList]), String.ofList_toList]

variable {py}

/-- A count that was read is within its bounds. -/
theorem clampIntJson_range {value : Json F} {low high default n : Int}
    (hdefault : low ≤ default ∧ default ≤ high) (h : clampIntJson py value low high default = .ok n) :
    low ≤ n ∧ n ≤ high := by
  unfold clampIntJson at h
  split at h
  · split_ifs at h
    cases h
    exact hdefault
  · cases h
    omega

/-- A pitch that was read is not zero. -/
theorem asPitchJson_ne_zero {value : Json F} {x : F} (h : asPitchJson py value = .ok x) :
    py.isZero x = false := by
  unfold asPitchJson at h
  simp only [bind_eq_ok, pure_eq_ok] at h
  obtain ⟨y, -, rfl⟩ := h
  split_ifs with hzero
  · exact py.isZero_one
  · simpa using hzero

/-- A radius that was read is positive. -/
theorem asRadiusJson_pos {value : Json F} {r : F} (h : asRadiusJson py value = .ok (some r)) :
    py.le r (py.lit 0) = false := by
  unfold asRadiusJson at h
  split at h
  · cases h
  · simp only [bind_eq_ok, pure_eq_ok] at h
    obtain ⟨x, -, hx⟩ := h
    split_ifs at hx with hlow
    cases hx
    simpa using hlow

/-- A choice that was read comes from a text. -/
theorem asChoice_picked {α : Type} {pick : Option String → α} {value : Json F} {a : α}
    (h : asChoice pick value = .ok a) : ∃ text, a = pick text := by
  unfold asChoice at h
  split at h
  · cases h
    exact ⟨_, rfl⟩
  · split_ifs at h
    cases h
    exact ⟨_, rfl⟩

/-- A known offset mode stays. -/
theorem asOffsetMode_known (mode : Option OffsetMode) :
    asOffsetMode (some (asOffsetMode mode)) = asOffsetMode mode := by
  rcases mode with _ | mode
  · rfl
  · cases mode <;> rfl

/-- A known numbering scheme stays. -/
theorem asNumberingScheme_known (scheme : Option NumberingScheme) :
    asNumberingScheme (some (asNumberingScheme scheme)) = asNumberingScheme scheme := by
  rcases scheme with _ | scheme
  · rfl
  · cases scheme <;> rfl

/-- A known scheme of row labels stays. -/
theorem asRowLabelScheme_known (scheme : Option RowLabelScheme) :
    asRowLabelScheme (some (asRowLabelScheme scheme)) = asRowLabelScheme scheme := by
  rcases scheme with _ | scheme
  · rfl
  · cases scheme <;> rfl

/-- Folding changes the offset alone, and a second time nothing: the derived offset does not depend
    on the one before. -/
theorem foldAlignment_offset (s : SectionSpecJson F) :
    ∃ x, foldAlignment py s = { s with rowXOffset := x } ∧
      foldAlignment py { s with rowXOffset := x } = { s with rowXOffset := x } := by
  by_cases h : s.rowAlignment = .center ∧ py.isZero s.rowXOffset = true
  · refine ⟨derivedCenterOffsetJson py s, if_pos h, ?_⟩
    unfold foldAlignment
    split_ifs <;> rfl
  · exact ⟨s.rowXOffset, if_neg h, if_neg h⟩

/-- **What is returned** is normal, and has the name that was given, cut. -/
theorem normalizeSection_normal {raw : List (String × Json F)} {name : String}
    {s : SectionSpecJson F} (h : normalizeSection py raw name = .ok s) :
    s.Normal py ∧ s.name = takeChars 255 name := by
  unfold normalizeSection at h
  simp only [bind_eq_ok, pure_eq_ok] at h
  obtain ⟨arc, harc, rows, hrows, seats, hseats, ox, -, oy, -, rot, -, sp, hsp, rp, hrp, mode, hmode,
    rx, -, delta, hdelta, num, hnum, lab, hlab, start, hstart, rfl⟩ := h
  -- Every field, from what its conversion returns.
  have hrows := clampIntJson_range (by decide) hrows
  have hseats := clampIntJson_range (by decide) hseats
  have hdelta := clampIntJson_range (by decide) hdelta
  have hstart := clampIntJson_range (by decide) hstart
  obtain ⟨_, rfl⟩ := asChoice_picked hmode
  obtain ⟨_, rfl⟩ := asChoice_picked hnum
  obtain ⟨_, rfl⟩ := asChoice_picked hlab
  obtain ⟨x, hx, hfolded⟩ := @foldAlignment_offset _ py _
  refine ⟨?_, congrArg SectionSpecJson.name hx⟩
  rw [hx]
  exact {
    name := takeChars_length _ _
    tier := takeChars_length _ _
    rows := by dsimp only; omega
    seatsPerRow := by dsimp only; omega
    altRowSeatDelta := hdelta
    rowLabelStart := by dsimp only; omega
    offsetMode := asOffsetMode_known _
    numberingScheme := asNumberingScheme_known _
    rowLabelScheme := asRowLabelScheme_known _
    seatPitch := asPitchJson_ne_zero hsp
    rowPitch := asPitchJson_ne_zero hrp
    arcRadius := fun r hr => asRadiusJson_pos (harc.trans (congrArg Except.ok hr))
    folded := hfolded }

/-! ### Once more -/

/-- A count within its bounds is read as it is. -/
theorem clampIntJson_self {low high default n : Int} (hlow : low ≤ n) (hhigh : n ≤ high) :
    clampIntJson py (.int n) low high default = .ok n := by
  unfold clampIntJson
  rw [Json.toInt_int]
  dsimp only
  rw [min_eq_right hhigh, max_eq_right hlow]

/-- A float is read as it is. -/
theorem asFloat_float (x default : F) : asFloat py (.float x) default = .ok x := rfl

/-- A pitch that is not zero is read as it is. -/
theorem asPitchJson_self {x : F} (h : py.isZero x = false) : asPitchJson py (.float x) = .ok x := by
  unfold asPitchJson
  rw [asFloat_float]
  simp [bind, Except.bind, h]
  rfl

/-- A positive radius, or none, is read as it is. -/
theorem asRadiusJson_self {radius : Option F}
    (h : ∀ r, radius = some r → py.le r (py.lit 0) = false) :
    asRadiusJson py (radius.elim .null .float) = .ok radius := by
  cases radius with
  | none => rfl
  | some r =>
    have hr := h r rfl
    simp [asRadiusJson, asFloat_float, bind, Except.bind, hr]
    rfl

/-- A known offset mode is read back from its text. -/
theorem OffsetMode.ofText_text (mode : OffsetMode) (h : asOffsetMode (some mode) = mode) :
    asChoice pickOffsetMode (.str mode.text : Json F) = .ok mode := by
  cases mode with
  | other text => cases h
  | _ => rfl

/-- A known numbering scheme is read back from its text. -/
theorem NumberingScheme.ofText_text (scheme : NumberingScheme)
    (h : asNumberingScheme (some scheme) = scheme) :
    asChoice pickNumberingScheme (.str scheme.text : Json F) = .ok scheme := by
  cases scheme with
  | other text => cases h
  | _ => rfl

/-- A known scheme of row labels is read back from its text. -/
theorem RowLabelScheme.ofText_text (scheme : RowLabelScheme)
    (h : asRowLabelScheme (some scheme) = scheme) :
    asChoice pickRowLabelScheme (.str scheme.text : Json F) = .ok scheme := by
  cases scheme with
  | other text => cases h
  | _ => rfl

/-- An alignment is read back from its text. -/
theorem asAlignment_text (alignment : RowAlignment) :
    asAlignment (.str alignment.text : Json F) = alignment := by
  cases alignment <;> rfl

/-- Seat identities are read back from what is written. -/
theorem seatIdentityList_identitiesJson (ids : List SeatIdentity) :
    seatIdentityList py (identitiesJson ids) = ids := by
  unfold seatIdentityList identitiesJson
  dsimp only
  rw [List.filterMap_map]
  exact List.filterMap_some

/-- Folding the alignment does not look at the name. -/
theorem foldAlignment_name (s : SectionSpecJson F) (name : String) :
    foldAlignment py { s with name := name } = { foldAlignment py s with name := name } := by
  unfold foldAlignment
  split_ifs <;> rfl

/-- **A normal section** is left as it is, but for its name. -/
theorem normalizeSection_entries {s : SectionSpecJson F} (h : s.Normal py) (name : String) :
    normalizeSection py s.entries name = .ok { s with name := takeChars 255 name } := by
  obtain ⟨hrows, hrows'⟩ := h.rows
  obtain ⟨hseats, hseats'⟩ := h.seatsPerRow
  obtain ⟨hdelta, hdelta'⟩ := h.altRowSeatDelta
  have hstart := h.rowLabelStart
  unfold normalizeSection
  simp only [bind_eq_ok, pure_eq_ok]
  -- Every conversion gives back the value that it would have produced itself.
  refine ⟨s.arcRadius, asRadiusJson_self h.arcRadius, s.rows, clampIntJson_self ?_ ?_, s.seatsPerRow,
    clampIntJson_self ?_ ?_, s.originX, rfl, s.originY, rfl, s.rotation, rfl, s.seatPitch,
    asPitchJson_self h.seatPitch, s.rowPitch, asPitchJson_self h.rowPitch, s.offsetMode,
    s.offsetMode.ofText_text h.offsetMode, s.rowXOffset, rfl, s.altRowSeatDelta,
    clampIntJson_self hdelta hdelta', s.numberingScheme,
    s.numberingScheme.ofText_text h.numberingScheme, s.rowLabelScheme,
    s.rowLabelScheme.ofText_text h.rowLabelScheme, s.rowLabelStart, clampIntJson_self ?_ ?_, ?_⟩
  · exact_mod_cast hrows
  · exact hrows'
  · exact_mod_cast hseats
  · exact hseats'
  · exact Int.natCast_nonneg _
  · exact hstart
  · have htier : getKey s.entries "tier" = .str s.tier := rfl
    have hremoved : getKey s.entries "removed_seats" = identitiesJson s.removedSeats := rfl
    have haccessible : getKey s.entries "accessible_seats" = identitiesJson s.accessibleSeats := rfl
    have halignment : getKey s.entries "row_alignment" = .str s.rowAlignment.text := rfl
    simp only [htier, hremoved, haccessible, halignment, Json.textOrEmpty_str, Int.toNat_natCast,
      takeChars_eq_self h.tier, seatIdentityList_identitiesJson, asAlignment_text]
    rw [foldAlignment_name, h.folded]

end Normal

end BoxOffice

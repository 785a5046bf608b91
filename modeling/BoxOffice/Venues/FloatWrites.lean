import BoxOffice.Python.Raising
import BoxOffice.Venues.FloatSeats

namespace BoxOffice

open Numeric Relational Python

/-!
# Venues — which seats can be written

When the generator of `FloatSeats` goes through: nothing but the values of single seats can stop
it, as the roster never holds an identity twice.

* `storeText_ok_iff`, `storeSeat_ok_iff` — one value, one seat;
* `mem_places`, `places_nodup` — the places of a section;
* `PlaceFits`, `fillSeats_ok_iff` — a section without seats is filled exactly when every place of
  it fits its columns.
-/

section Columns

variable {F : Type} {py : Builtins F} {cols : Columns py}

/-- Only what did not raise succeeds. -/
theorem raised_eq_ok {α : Type} {x : Except PyError α} {a : α} : raised x = .ok a ↔ x = .ok a := by
  cases x with
  | error e => exact iff_of_false (fun h => by cases h) (fun h => by cases h)
  | ok b =>
    constructor
    · intro h
      cases h
      rfl
    · intro h
      cases h
      rfl

/-- A text column takes what fits it. -/
theorem storeText_ok_iff {maxLength : Nat} {column text stored : String} :
    cols.storeText maxLength column text = .ok stored ↔
      text.length ≤ maxLength ∧ text.toList.all cols.char = true ∧ stored = text := by
  unfold Columns.storeText
  split_ifs with h
  · refine iff_of_false (fun h => by cases h) fun ⟨hlength, hchars, _⟩ => ?_
    rcases h with h | h
    · omega
    · exact h hchars
  · push Not at h
    constructor
    · intro hok
      cases hok
      exact ⟨h.1, h.2, rfl⟩
    · rintro ⟨-, -, rfl⟩
      rfl

/-- A float column takes what it can store. -/
theorem storeFloat_ok_iff {column : String} {x : F} {q : ℚ} :
    cols.storeFloat column x = .ok q ↔ cols.float x = some q := by
  unfold Columns.storeFloat
  cases cols.float x with
  | none => exact iff_of_false (fun h => by cases h) (fun h => by cases h)
  | some r =>
    constructor
    · intro h
      cases h
      rfl
    · intro h
      cases h
      rfl

/-- Coordinates that are stored stay with their seat. -/
theorem storeXy_ok_iff {d : SeatDraft F} {stored : SeatDraft} :
    storeXy cols d = .ok stored ↔ ∃ x y, cols.float d.x = some x ∧ cols.float d.y = some y ∧
      stored = ⟨d.rowLabel, d.number, x, y, d.isAccessible⟩ := by
  unfold storeXy
  simp only [bind_eq_ok, pure_eq_ok, storeFloat_ok_iff]
  constructor
  · rintro ⟨x, hx, y, hy, rfl⟩
    exact ⟨x, y, hx, hy, rfl⟩
  · rintro ⟨x, y, hx, hy, rfl⟩
    exact ⟨x, hx, y, hy, rfl⟩

/-- A seat can be stored if and only if each of its columns takes its own. -/
theorem storeSeat_ok_iff {d : SeatDraft F} {stored : SeatDraft} :
    storeSeat cols d = .ok stored ↔
      (d.rowLabel.length ≤ 10 ∧ d.rowLabel.toList.all cols.char = true) ∧
      (d.number.length ≤ 10 ∧ d.number.toList.all cols.char = true) ∧
      storeXy cols d = .ok stored := by
  unfold storeSeat
  simp only [bind_eq_ok, storeText_ok_iff]
  constructor
  · rintro ⟨-, ⟨hlabel, hlabel', rfl⟩, -, ⟨hnumber, hnumber', rfl⟩, h⟩
    exact ⟨⟨hlabel, hlabel'⟩, ⟨hnumber, hnumber'⟩, h⟩
  · rintro ⟨⟨hlabel, hlabel'⟩, ⟨hnumber, hnumber'⟩, h⟩
    exact ⟨_, ⟨hlabel, hlabel', rfl⟩, _, ⟨hnumber, hnumber', rfl⟩, h⟩

/-- Storing keeps the identity of a seat. -/
theorem storeSeat_identity {d : SeatDraft F} {stored : SeatDraft}
    (h : storeSeat cols d = .ok stored) : stored.identity = d.identity := by
  obtain ⟨-, -, hxy⟩ := storeSeat_ok_iff.mp h
  obtain ⟨x, y, -, -, rfl⟩ := storeXy_ok_iff.mp hxy
  rfl

end Columns

namespace OnFloats

/-! ### Places -/

section Places

variable {K : Type} {p : SectionParams K} {counts : List Nat} {removedIds : List SeatIdentity}
  {place : Place}

/-- A place is a number of one of the rows, and not removed. -/
theorem mem_places (h : place ∈ places p counts removedIds) :
    place.rowIndex < counts.length ∧
      place.label = rowLabel (rowLetters p.rowLabelScheme) (p.rowLabelStart + place.rowIndex) ∧
      place.seatCount ∈ counts ∧
      place.number ∈ generateSeatNumbers place.seatCount p.numberingScheme place.rowIndex := by
  unfold places at h
  dsimp only at h
  obtain ⟨row, hrow, hplace⟩ := List.mem_flatten.mp h
  obtain ⟨⟨⟨label, seatCount⟩, rowIndex⟩, hzip, rfl⟩ := List.mem_map.mp hrow
  obtain ⟨⟨number, seatIndex⟩, hnumber, rfl⟩ := List.mem_map.mp (List.mem_filter.mp hplace).1
  have hget := List.mem_zipIdx' hzip
  rw [List.length_zip] at hget
  obtain ⟨hlt, hpair⟩ := hget
  rw [List.getElem_zip] at hpair
  obtain ⟨hlabel, hcount⟩ := Prod.mk.inj hpair
  refine ⟨lt_of_lt_of_le hlt (min_le_right _ _), ?_, ?_, List.fst_mem_of_mem_zipIdx hnumber⟩
  · rw [hlabel]
    simp [generateRowLabels]
  · show seatCount ∈ counts
    rw [hcount]
    exact List.getElem_mem _

/-- Places of the parameters on other numbers are the same. -/
theorem places_mapFloats {L : Type} (f : K → L) :
    places (p.mapFloats f) counts removedIds = places p counts removedIds := rfl

/-- **The roster.** No two places have one identity. -/
theorem places_nodup : ((places p counts removedIds).map Place.identity).Nodup := by
  have hnodup := @buildSeats_nodup ℚ _ _ flatTrig (p.mapFloats fun _ => 0) counts (fun _ => [])
    removedIds []
  have hexact := @buildSeats_exact flatTrig (p.mapFloats fun _ => 0) counts removedIds []
  unfold buildSeats at hexact
  rw [places_mapFloats, mapM_eq_ok] at hexact
  have hsame : (places p counts removedIds).map Place.identity
      = (BoxOffice.buildSeats flatTrig (p.mapFloats fun _ => 0) counts (fun _ => []) removedIds
          []).map SeatDraft.identity := by
    rw [← List.forall₂_eq_eq_eq, List.forall₂_map_left_iff, List.forall₂_map_right_iff]
    refine hexact.imp fun place d hd => ?_
    unfold seatDraft at hd
    simp only [bind_eq_ok, pure_eq_ok] at hd
    obtain ⟨xy, -, rfl⟩ := hd
    rfl
  rw [hsame]
  exact hnodup

end Places

/-! ### Filling a section -/

section Fill

variable {F : Type} {py : Builtins F} {cols : Columns py} {db db' : Db}
  {section_ : SectionObject F} {counts : List Nat} {removedIds accessibleIds : List SeatIdentity}

/-- Do the columns of a seat take what is written at a place? -/
structure PlaceFits (cols : Columns py) (p : SectionParams F) (place : Place) : Prop where
  label : place.label.length ≤ 10 ∧ place.label.toList.all cols.char = true
  number : (toString place.number).length ≤ 10 ∧
    (toString place.number).toList.all cols.char = true
  placed : ∃ xy, seatXy py.toFloats p place.rowIndex place.seatIndex place.seatCount = .ok xy ∧
    (cols.float xy.1).isSome ∧ (cols.float xy.2).isSome

/-- A seat has the identity of its place. -/
theorem seatDraft_identity {p : SectionParams F} {place : Place} {d : SeatDraft F}
    (h : seatDraft py.toFloats p accessibleIds place = .ok d) : d.identity = place.identity := by
  unfold seatDraft at h
  simp only [bind_eq_ok, pure_eq_ok] at h
  obtain ⟨xy, -, rfl⟩ := h
  rfl

/-- A place fits if its seat can be computed and stored. -/
theorem placeFits_iff {p : SectionParams F} {place : Place} :
    PlaceFits cols p place ↔ ∃ d stored, seatDraft py.toFloats p accessibleIds place = .ok d ∧
      storeSeat cols d = .ok stored := by
  unfold seatDraft
  simp only [bind_eq_ok, pure_eq_ok, storeSeat_ok_iff, storeXy_ok_iff]
  constructor
  · rintro ⟨hlabel, hnumber, xy, hxy, hx, hy⟩
    obtain ⟨x, hx⟩ := Option.isSome_iff_exists.mp hx
    obtain ⟨y, hy⟩ := Option.isSome_iff_exists.mp hy
    exact ⟨_, _, ⟨xy, hxy, rfl⟩, hlabel, hnumber, x, y, hx, hy, rfl⟩
  · rintro ⟨_, _, ⟨xy, hxy, rfl⟩, hlabel, hnumber, x, y, hx, hy, -⟩
    exact ⟨hlabel, hnumber, xy, hxy, Option.isSome_iff_exists.mpr ⟨x, hx⟩,
      Option.isSome_iff_exists.mpr ⟨y, hy⟩⟩

/-- What filling writes: the seats of the places, and nothing else. -/
theorem fillSeats_seats
    (h : fillSeats cols db section_ counts removedIds accessibleIds = .ok db') :
    (∀ place ∈ places section_.params counts removedIds, PlaceFits cols section_.params place) ∧
      ∃ stored, db' = { db with
        seats := db.seats.insertMany (newSeat section_.row) stored (newSeat_id section_.row) } := by
  unfold fillSeats bulkCreateSeats at h
  simp only [bind_eq_ok, raised_eq_ok] at h
  obtain ⟨drafts, hdrafts, stored, hstored, h⟩ := h
  split_ifs at h
  cases h
  refine ⟨fun place hplace => ?_, stored, rfl⟩
  obtain ⟨d, hd⟩ := mapM_ok_iff.mp ⟨drafts, hdrafts⟩ place hplace
  obtain ⟨t, ht⟩ := mapM_ok_iff.mp ⟨stored, hstored⟩ d (mem_of_mapM hdrafts hplace hd)
  exact placeFits_iff.mpr ⟨d, t, hd, ht⟩

/-- **A section without seats** is filled exactly when all its places fit. -/
theorem fillSeats_ok_iff (hnone : seatsOf db section_.row.id = []) :
    (∃ db', fillSeats cols db section_ counts removedIds accessibleIds = .ok db') ↔
      ∀ place ∈ places section_.params counts removedIds,
        PlaceFits cols section_.params place := by
  constructor
  · rintro ⟨db', h⟩
    exact (fillSeats_seats h).1
  · intro h
    -- Every place becomes a draft and every draft a row; the identities are those of the places.
    have hfits (place : Place) (hplace : place ∈ places section_.params counts removedIds) :=
      (@placeFits_iff _ _ _ accessibleIds _ _).mp (h place hplace)
    obtain ⟨drafts, hdrafts⟩ : ∃ drafts, (places section_.params counts removedIds).mapM
        (seatDraft py.toFloats section_.params accessibleIds) = .ok drafts :=
      mapM_ok_iff.mpr fun place hplace =>
        let ⟨d, _, hd, _⟩ := hfits place hplace
        ⟨d, hd⟩
    obtain ⟨stored, hstored⟩ : ∃ stored, drafts.mapM (storeSeat cols) = .ok stored := by
      refine mapM_ok_iff.mpr fun d hd => ?_
      obtain ⟨place, hplace, hdraft⟩ := exists_of_mapM hdrafts hd
      obtain ⟨d', t, hd', ht⟩ := hfits place hplace
      rw [hdraft] at hd'
      cases hd'
      exact ⟨t, ht⟩
    have hidentities : stored.map SeatDraft.identity
        = (places section_.params counts removedIds).map Place.identity :=
      (map_of_mapM (fun _ _ => storeSeat_identity) hstored).trans
        (map_of_mapM (fun _ _ => seatDraft_identity) hdrafts)
    refine ⟨{ db with
      seats := db.seats.insertMany (newSeat section_.row) stored (newSeat_id section_.row) }, ?_⟩
    unfold fillSeats bulkCreateSeats
    simp only [bind_eq_ok, raised_eq_ok]
    refine ⟨drafts, hdrafts, stored, hstored, ?_⟩
    rw [hnone, List.map_nil, List.nil_append, hidentities, if_pos places_nodup]
    rfl

end Fill

end OnFloats

end BoxOffice

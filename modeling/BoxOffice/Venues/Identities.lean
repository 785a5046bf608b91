import BoxOffice.Venues.FloatWrites

namespace BoxOffice

open Python

/-!
# Venues — the identities of the generated seats

The seats of a section are the full grid of its rows, less the removed ones.

* `gridIdentities` — every row label with each of the numbers of its row;
* `buildSeats_identities`, `OnFloats.places_identities` — the generator keeps those that are not
  removed, in order;
* `generated_identities` — no two of them are one.
-/

section Grid

variable {K : Type} (p : SectionParams K)

/-- The identities of the full grid, row by row. -/
def gridIdentities (rowCounts : List Nat) : List SeatIdentity :=
  let labels := generateRowLabels rowCounts.length p.rowLabelScheme p.rowLabelStart
  ((labels.zip rowCounts).zipIdx.map fun ((label, seatCount), rowIndex) =>
    (generateSeatNumbers seatCount p.numberingScheme rowIndex).map fun n =>
      (label, toString n)).flatten

variable {p} {rowCounts : List Nat} {removedIds accessibleIds : List SeatIdentity}

/-! ### Counts -/

/-- A row has a number for every position. -/
theorem generateSeatNumbers_length (seatCount : Nat) (scheme : NumberingScheme) (rowIndex : Nat) :
    (generateSeatNumbers seatCount scheme rowIndex).length = seatCount := by
  unfold generateSeatNumbers
  rw [List.length_map, List.length_range]

/-- There is a count for every row. -/
theorem computeRowCounts_length (rows seatsPerRow : Nat) (offsetMode : OffsetMode) (delta : Int) :
    (computeRowCounts rows seatsPerRow offsetMode delta).length = rows := by
  unfold computeRowCounts
  rw [List.length_map, List.length_range]

/-- No row is empty. -/
theorem computeRowCounts_pos {rows seatsPerRow : Nat} {offsetMode : OffsetMode} {delta : Int} :
    ∀ n ∈ computeRowCounts rows seatsPerRow offsetMode delta, 0 < n := by
  intro n hn
  obtain ⟨rowIndex, -, rfl⟩ := List.mem_map.mp hn
  dsimp only
  omega

/-- The grid has as many identities as its rows have seats. -/
theorem gridIdentities_length : (gridIdentities p rowCounts).length = rowCounts.sum := by
  have hlength := generateRowLabels_length rowCounts.length p.rowLabelScheme p.rowLabelStart
  unfold gridIdentities
  dsimp only
  rw [List.length_flatten, List.map_map]
  have hcounts : ((generateRowLabels rowCounts.length p.rowLabelScheme p.rowLabelStart).zip
      rowCounts).zipIdx.map (fun a => a.1.2) = rowCounts :=
    calc ((generateRowLabels rowCounts.length p.rowLabelScheme p.rowLabelStart).zip
          rowCounts).zipIdx.map (fun a => a.1.2)
        = (((generateRowLabels rowCounts.length p.rowLabelScheme p.rowLabelStart).zip
            rowCounts).zipIdx.map Prod.fst).map Prod.snd := by
          rw [List.map_map]
          rfl
      _ = rowCounts := by rw [List.zipIdx_map_fst, List.map_snd_zip hlength.ge]
  refine congrArg List.sum (Eq.trans (List.map_congr_left ?_) hcounts)
  rintro ⟨⟨label, seatCount⟩, rowIndex⟩ -
  simp only [Function.comp_apply, List.length_map, generateSeatNumbers_length]

/-! ### The generator -/

/-- The numbers of a row under its label, with what else the generator makes of them. -/
theorem map_zipIdx_fst {β γ : Type} {numbers : List Nat} {draft : Nat × Nat → β} {identity : β → γ}
    {f : Nat → γ} (h : ∀ a, identity (draft a) = f a.1) :
    (numbers.zipIdx.map draft).map identity = numbers.map f := by
  rw [List.map_map]
  calc numbers.zipIdx.map (identity ∘ draft)
      = numbers.zipIdx.map (f ∘ Prod.fst) := List.map_congr_left fun a _ => h a
    _ = (numbers.zipIdx.map Prod.fst).map f := by rw [List.map_map]
    _ = numbers.map f := by rw [List.zipIdx_map_fst]

/-- The identities of a row, less the removed ones. -/
theorem buildRow_identities [Field K] [DecidableEq K] {trig : Trig K} {rowAccessible : List Nat}
    {rowIndex seatCount : Nat} {label : String} :
    (buildRow trig p rowAccessible removedIds accessibleIds rowIndex label seatCount).map
        SeatDraft.identity
      = ((generateSeatNumbers seatCount p.numberingScheme rowIndex).map fun n =>
          (label, toString n)).filter fun i => !removedIds.contains i := by
  unfold buildRow
  show List.map SeatDraft.identity
    (List.filter ((fun i => !removedIds.contains i) ∘ SeatDraft.identity) _) = _
  rw [← List.filter_map]
  exact congrArg (List.filter _) (map_zipIdx_fst fun _ => rfl)

/-- **The seats** are those of the grid that are not removed, in its order. -/
theorem buildSeats_identities [Field K] [DecidableEq K] {trig : Trig K}
    {accessible : Nat → List Nat} :
    (buildSeats trig p rowCounts accessible removedIds accessibleIds).map SeatDraft.identity
      = (gridIdentities p rowCounts).filter fun i => !removedIds.contains i := by
  unfold buildSeats gridIdentities
  dsimp only
  rw [List.map_flatten, List.map_map, List.filter_flatten, List.map_map]
  refine congrArg List.flatten (List.map_congr_left ?_)
  rintro ⟨⟨label, seatCount⟩, rowIndex⟩ -
  exact buildRow_identities

/-- The identities of the grid differ. -/
theorem gridIdentities_nodup : (gridIdentities p rowCounts).Nodup := by
  have hnodup := @buildSeats_nodup ℚ _ _ flatTrig (p.mapFloats fun _ => 0) rowCounts (fun _ => [])
    [] []
  rw [buildSeats_identities] at hnodup
  have hall : (gridIdentities (p.mapFloats fun _ => (0 : ℚ)) rowCounts).filter
      (fun i => !([] : List SeatIdentity).contains i) = gridIdentities p rowCounts :=
    List.filter_eq_self.mpr fun _ _ => rfl
  rwa [hall] at hnodup

/-- The identities of the places, less the removed ones. -/
theorem OnFloats.places_identities :
    (OnFloats.places p rowCounts removedIds).map OnFloats.Place.identity
      = (gridIdentities p rowCounts).filter fun i => !removedIds.contains i := by
  unfold OnFloats.places gridIdentities OnFloats.rowPlaces
  dsimp only
  rw [List.map_flatten, List.map_map, List.filter_flatten, List.map_map]
  refine congrArg List.flatten (List.map_congr_left ?_)
  rintro ⟨⟨label, seatCount⟩, rowIndex⟩ -
  show List.map OnFloats.Place.identity
    (List.filter ((fun i => !removedIds.contains i) ∘ OnFloats.Place.identity) _) = _
  rw [← List.filter_map]
  exact congrArg (List.filter _) (map_zipIdx_fst fun _ => rfl)

end Grid

section Generated

variable {F : Type} {py : Builtins F} {p : SectionParams F} {rowCounts : List Nat}
  {removedIds accessibleIds : List SeatIdentity}

/-- What Python builds, where it does not raise, has the identities of the grid. -/
theorem OnFloats.buildSeats_grid {drafts : List (SeatDraft F)}
    (h : OnFloats.buildSeats py.toFloats p rowCounts removedIds accessibleIds = .ok drafts) :
    drafts.map SeatDraft.identity
      = (gridIdentities p rowCounts).filter fun i => !removedIds.contains i := by
  rw [← OnFloats.places_identities]
  exact map_of_mapM (fun _ _ => OnFloats.seatDraft_identity) h

end Generated

/-- **Generated identities.** The labels of a section differ and so do the numbers of a row, in the
    numbers asked for; no row is empty; and the seats that are built, on exact numbers or by Python,
    are those of the full grid but for the removed ones, each once. -/
theorem generated_identities :
    (∀ count scheme start, (generateRowLabels count scheme start).length = count ∧
      (generateRowLabels count scheme start).Nodup) ∧
    (∀ seatCount scheme rowIndex, (generateSeatNumbers seatCount scheme rowIndex).length = seatCount ∧
      (generateSeatNumbers seatCount scheme rowIndex).Nodup) ∧
    (∀ rows seatsPerRow offsetMode delta,
      (computeRowCounts rows seatsPerRow offsetMode delta).length = rows ∧
      ∀ n ∈ computeRowCounts rows seatsPerRow offsetMode delta, 0 < n) ∧
    (∀ (K : Type) [Field K] [DecidableEq K] (trig : Trig K) (p : SectionParams K)
      (rowCounts : List Nat) (accessible : Nat → List Nat) (removedIds accessibleIds),
      (gridIdentities p rowCounts).length = rowCounts.sum ∧ (gridIdentities p rowCounts).Nodup ∧
      (buildSeats trig p rowCounts accessible removedIds accessibleIds).map SeatDraft.identity
        = (gridIdentities p rowCounts).filter (fun i => !removedIds.contains i) ∧
      ((buildSeats trig p rowCounts accessible removedIds accessibleIds).map
        SeatDraft.identity).Nodup) ∧
    ∀ (F : Type) (py : Builtins F) (p : SectionParams F) (rowCounts : List Nat)
      (removedIds accessibleIds drafts),
      OnFloats.buildSeats py.toFloats p rowCounts removedIds accessibleIds = .ok drafts →
      drafts.map SeatDraft.identity
        = (gridIdentities p rowCounts).filter (fun i => !removedIds.contains i) ∧
      (drafts.map SeatDraft.identity).Nodup := by
  refine ⟨fun count scheme start => ?_, fun seatCount scheme rowIndex => ?_,
    fun rows seatsPerRow offsetMode delta => ?_,
    fun K _ _ trig p rowCounts accessible removedIds accessibleIds => ?_,
    fun F py p rowCounts removedIds accessibleIds drafts h => ?_⟩
  · exact ⟨generateRowLabels_length count scheme start, generateRowLabels_nodup count scheme start⟩
  · exact ⟨generateSeatNumbers_length seatCount scheme rowIndex,
      generateSeatNumbers_nodup seatCount scheme rowIndex⟩
  · exact ⟨computeRowCounts_length rows seatsPerRow offsetMode delta, computeRowCounts_pos⟩
  · exact ⟨gridIdentities_length, gridIdentities_nodup, buildSeats_identities, buildSeats_nodup⟩
  · have hgrid := OnFloats.buildSeats_grid h
    refine ⟨hgrid, ?_⟩
    rw [hgrid]
    exact gridIdentities_nodup.sublist List.filter_sublist

/-- Two rows from the last letter of the alphabet on. -/
def wrappedRows : SectionParams Extended where
  originX := .finite 0
  originY := .finite 0
  rotation := .finite 0
  seatPitch := .finite 1
  rowPitch := .finite 1
  rowXOffset := .finite 0
  offsetMode := .repeated
  altRowSeatDelta := 0
  arcRadius := none
  pivotMode := .origin
  pivotX := .finite 0
  pivotY := .finite 0
  rows := 2
  seatsPerRow := 2
  removedSeats := []
  accessibleSeats := []
  numberingScheme := .oddDescLeft
  rowLabelScheme := .skipIo
  rowLabelStart := 23

/-- Row Z is followed by row AA, and `Z-1` is removed. -/
theorem generated_identities_wrapped :
    (∀ n ∈ computeRowCounts 2 0 .repeated 0, 0 < n) ∧
    ∃ drafts, OnFloats.buildSeats Extended.builtins.toFloats wrappedRows [2, 2] [("Z", "1")] []
        = .ok drafts ∧
      drafts.map SeatDraft.identity = [("Z", "3"), ("AA", "3"), ("AA", "1")] ∧
      (drafts.map SeatDraft.identity).Nodup := by
  have hgrid : (gridIdentities wrappedRows [2, 2]).filter
      (fun i => !([("Z", "1")] : List SeatIdentity).contains i)
        = [("Z", "3"), ("AA", "3"), ("AA", "1")] := by decide +kernel
  have hok : OnFloats.buildSeats Extended.builtins.toFloats wrappedRows [2, 2] [("Z", "1")] []
      = .ok [⟨"Z", "3", .finite 0, .finite 0, false⟩, ⟨"AA", "3", .finite 0, .finite 1, false⟩,
        ⟨"AA", "1", .finite 1, .finite 1, false⟩] := by decide +kernel
  have h := generated_identities.2.2.2.2 Extended Extended.builtins wrappedRows [2, 2]
    [("Z", "1")] [] _ hok
  exact ⟨(generated_identities.2.2.1 2 0 .repeated 0).2, _, hok, h.1.trans hgrid, h.2⟩

end BoxOffice

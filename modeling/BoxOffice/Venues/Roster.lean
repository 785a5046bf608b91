import BoxOffice.Numeric.Digits
import BoxOffice.Venues.Generation
import BoxOffice.Venues.SeatKey

namespace BoxOffice

open Numeric

/-!
# Venues — the roster of a section

No two seats that the generator builds have one identity: row labels differ from row to row
(`rowLabel_injective`) and numbers differ within a row (`generateSeatNumbers_nodup`).  The
overrides matter only as sets (`buildSeats_congr`).
-/

/-! ### Numbers and bars -/

/-- A number is written without a bar. -/
theorem noBar_toString (n : Nat) : NoBar (toString n) := by
  unfold NoBar
  intro h
  have := isDigit_of_mem_toString h
  revert this
  decide

/-! ### Labels -/

/-- A scheme uses one of the two alphabets. -/
theorem rowLetters_cases (scheme : RowLabelScheme) :
    rowLetters scheme = baseLettersAll ∨ rowLetters scheme = baseLettersSkipIo := by
  cases scheme with
  | skipIo => exact .inr rfl
  | allLetters => exact .inl rfl
  | other text => exact .inr rfl

/-- No letter occurs twice in a scheme. -/
theorem rowLetters_nodup (scheme : RowLabelScheme) : (rowLetters scheme).Nodup := by
  rcases rowLetters_cases scheme with h | h <;> rw [h] <;> decide

/-- Every scheme has letters. -/
theorem rowLetters_pos (scheme : RowLabelScheme) : 0 < (rowLetters scheme).length := by
  rcases rowLetters_cases scheme with h | h <;> rw [h] <;> decide

/-- The letter at a place. -/
theorem getD_letter {letters : List Char} {i : Nat} (h : i < letters.length) :
    letters.getD i 'A' = letters[i] := by
  rw [List.getD_eq_getElem?_getD, List.getElem?_eq_getElem h, Option.getD_some]

/-- Labels of different places differ: in length, or in their letter. -/
theorem rowLabel_injective {letters : List Char} (hpos : 0 < letters.length)
    (hnodup : letters.Nodup) {i j : Nat} (h : rowLabel letters i = rowLabel letters j) : i = j := by
  have hlist := String.ofList_injective h
  have hlen := congrArg List.length hlist
  rw [List.length_replicate, List.length_replicate] at hlen
  have hletter : letters.getD (i % letters.length) 'A' = letters.getD (j % letters.length) 'A' := by
    have hhead := congrArg List.head? hlist
    simpa [List.replicate_succ] using hhead
  have hi := Nat.mod_lt i hpos
  have hj := Nat.mod_lt j hpos
  rw [getD_letter hi, getD_letter hj] at hletter
  have hmod := (hnodup.getElem_inj_iff).mp hletter
  rw [← Nat.div_add_mod i letters.length, ← Nat.div_add_mod j letters.length, hmod,
    Nat.succ.inj hlen]

/-- Every row gets a label. -/
theorem generateRowLabels_length (count : Nat) (scheme : RowLabelScheme) (start : Nat) :
    (generateRowLabels count scheme start).length = count := by
  unfold generateRowLabels
  rw [List.length_map, List.length_range]

/-- No two rows get the same label. -/
theorem generateRowLabels_nodup (count : Nat) (scheme : RowLabelScheme) (start : Nat) :
    (generateRowLabels count scheme start).Nodup := by
  unfold generateRowLabels
  refine List.Nodup.map_on ?_ List.nodup_range
  intro i _ j _ h
  exact Nat.add_left_cancel (rowLabel_injective (rowLetters_pos scheme) (rowLetters_nodup scheme) h)

/-- The letters of a label are letters of the scheme. -/
theorem noBar_rowLabel (scheme : RowLabelScheme) (i : Nat) :
    NoBar (rowLabel (rowLetters scheme) i) := by
  unfold NoBar rowLabel
  rw [String.toList_ofList, List.mem_replicate]
  rintro ⟨-, hbar⟩
  rw [getD_letter (Nat.mod_lt i (rowLetters_pos scheme))] at hbar
  have hmem : '|' ∈ rowLetters scheme := hbar ▸ List.getElem_mem _
  revert hmem
  rcases rowLetters_cases scheme with h | h <;> rw [h] <;> decide

/-! ### Numbers -/

/-- Every scheme numbers the seats of a row differently. -/
theorem generateSeatNumbers_nodup (seatCount : Nat) (scheme : NumberingScheme) (rowIndex : Nat) :
    (generateSeatNumbers seatCount scheme rowIndex).Nodup := by
  unfold generateSeatNumbers
  refine List.Nodup.map_on ?_ List.nodup_range
  intro i hi j hj h
  rw [List.mem_range] at hi hj
  cases scheme <;> dsimp only at h <;> omega

/-! ### Seats -/

section Rows

variable {K : Type} [Field K] [DecidableEq K] {trig : Trig K} {p : SectionParams K}
  {rowAccessible : List Nat}
    {removedIds accessibleIds removedIds' accessibleIds' : List SeatIdentity}
  {rowIndex seatCount : Nat} {label : String}

/-- A seat of a row has its label and one of its numbers. -/
theorem mem_buildRow {d : SeatDraft K}
    (h : d ∈ buildRow trig p rowAccessible removedIds accessibleIds rowIndex label seatCount) :
    d.rowLabel = label ∧
      ∃ n ∈ generateSeatNumbers seatCount p.numberingScheme rowIndex, d.number = toString n := by
  obtain ⟨hd, -⟩ := List.mem_filter.mp h
  obtain ⟨⟨n, i⟩, hn, rfl⟩ := List.mem_map.mp hd
  exact ⟨rfl, n, List.fst_mem_of_mem_zipIdx hn, rfl⟩

/-- No two seats of a row have the same identity. -/
theorem buildRow_nodup :
    ((buildRow trig p rowAccessible removedIds accessibleIds rowIndex label seatCount).map
      SeatDraft.identity).Nodup := by
  unfold buildRow
  refine List.Nodup.sublist ((List.filter_sublist).map _) ?_
  rw [List.map_map]
  have hnumbers := generateSeatNumbers_nodup seatCount p.numberingScheme rowIndex
  have : (List.map (fun n : Nat => (label, toString n))
      (generateSeatNumbers seatCount p.numberingScheme rowIndex)).Nodup :=
    hnumbers.map fun m n h => toString_injective (Prod.ext_iff.mp h).2
  rw [← List.zipIdx_map_fst 0 (generateSeatNumbers seatCount p.numberingScheme rowIndex),
    List.map_map] at this
  exact this

/-- A row depends on which seats are removed and accessible, and not on their order. -/
theorem buildRow_congr (hr : ∀ i, i ∈ removedIds ↔ i ∈ removedIds')
    (ha : ∀ i, i ∈ accessibleIds ↔ i ∈ accessibleIds') :
    buildRow trig p rowAccessible removedIds accessibleIds rowIndex label seatCount
      = buildRow trig p rowAccessible removedIds' accessibleIds' rowIndex label seatCount := by
  have hr' : removedIds.contains = removedIds'.contains := by
    funext i; rw [Bool.eq_iff_iff, List.contains_iff_mem, List.contains_iff_mem, hr]
  have ha' : accessibleIds.contains = accessibleIds'.contains := by
    funext i; rw [Bool.eq_iff_iff, List.contains_iff_mem, List.contains_iff_mem, ha]
  unfold buildRow
  rw [hr', ha']

end Rows

section Seats

variable {K : Type} [Field K] [DecidableEq K] {trig : Trig K} {p : SectionParams K}
  {rowCounts : List Nat} {accessible : Nat → List Nat}
  {removedIds accessibleIds removedIds' accessibleIds' : List SeatIdentity}

/-- **The overrides are sets.** -/
theorem buildSeats_congr (hr : ∀ i, i ∈ removedIds ↔ i ∈ removedIds')
    (ha : ∀ i, i ∈ accessibleIds ↔ i ∈ accessibleIds') :
    buildSeats trig p rowCounts accessible removedIds accessibleIds
      = buildSeats trig p rowCounts accessible removedIds' accessibleIds' := by
  unfold buildSeats
  dsimp only
  refine congrArg List.flatten (List.map_congr_left fun _ _ => ?_)
  exact buildRow_congr hr ha

/-- **The roster.** No two seats of a section have one identity. -/
theorem buildSeats_nodup :
    ((buildSeats trig p rowCounts accessible removedIds accessibleIds).map
      SeatDraft.identity).Nodup := by
  unfold buildSeats
  dsimp only
  rw [List.map_flatten, List.map_map, List.nodup_flatten]
  have hlabels := generateRowLabels_nodup rowCounts.length p.rowLabelScheme p.rowLabelStart
  have hlength := generateRowLabels_length rowCounts.length p.rowLabelScheme p.rowLabelStart
  generalize generateRowLabels rowCounts.length p.rowLabelScheme p.rowLabelStart = labels at *
  constructor
  -- Within a row the numbers differ.
  · rintro l hl
    obtain ⟨⟨⟨label, seatCount⟩, rowIndex⟩, -, rfl⟩ := List.mem_map.mp hl
    exact buildRow_nodup
  · -- Rows of different labels share no identity.
    have hrows : ((labels.zip rowCounts).zipIdx).Pairwise fun a b => a.1.1 ≠ b.1.1 := by
      have hzip : (labels.zip rowCounts).zipIdx.map (fun a => a.1.1) = labels :=
        calc (labels.zip rowCounts).zipIdx.map (fun a => a.1.1)
            = ((labels.zip rowCounts).zipIdx.map Prod.fst).map Prod.fst := by
              rw [List.map_map]; rfl
          _ = labels := by rw [List.zipIdx_map_fst, List.map_fst_zip hlength.le]
      exact List.pairwise_map.mp (hzip.symm ▸ hlabels)
    rw [List.pairwise_map]
    refine hrows.imp ?_
    rintro ⟨⟨label, seatCount⟩, rowIndex⟩ ⟨⟨label', seatCount'⟩, rowIndex'⟩ hne
    rw [List.disjoint_left]
    rintro i hi hi'
    obtain ⟨d, hd, rfl⟩ := List.mem_map.mp hi
    obtain ⟨d', hd', heq⟩ := List.mem_map.mp hi'
    have hlabel : d'.rowLabel = d.rowLabel := (Prod.ext_iff.mp heq).1
    rw [(mem_buildRow hd).1, (mem_buildRow hd').1] at hlabel
    exact hne hlabel.symm

end Seats

end BoxOffice

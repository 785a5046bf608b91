import BoxOffice.Venues.ChartIo
import BoxOffice.Venues.Roster

namespace BoxOffice

open Relational

/-!
# Venues — the seats that are written

Both writers leave a section with exactly the seats that its parameters ask for:
`repositionSeats` when the roster is the same (`repositionSeats_storedAs`), `generateSeats`
otherwise (`generateSeats_storedAs`).  Neither touches the seats of another section.
-/

/-- The seats stored for a section, keys apart, are these. -/
def StoredAs (db : Db) (section_ : Nat) (drafts : List SeatDraft) : Prop :=
  ∀ d, d ∈ drafts ↔ ∃ x ∈ seatsOf db section_, x.draft = d

section Written

variable {trig : Trig} {db db' : Db} {section_ : Section} {rowCounts : List Nat}
  {removedIds accessibleIds : List SeatIdentity}

/-! ### In place -/

/-- The roster is the same when the identities are. -/
theorem sameRoster_iff {drafts : List SeatDraft} {existing : List Seat} :
    sameRoster drafts existing = true ↔
      (∀ d ∈ drafts, ∃ x ∈ existing, x.identity = d.identity) ∧
        ∀ x ∈ existing, ∃ d ∈ drafts, d.identity = x.identity := by
  unfold sameRoster
  simp only [Bool.and_eq_true, List.all_eq_true, List.any_eq_true, beq_iff_eq]

/-- The draft with the identity of a seat is the one it is moved to. -/
theorem reposition_draft {drafts : List SeatDraft} (hn : (drafts.map SeatDraft.identity).Nodup)
    {d : SeatDraft} (hd : d ∈ drafts) {x : Seat} (hx : d.identity = x.identity) :
    (reposition drafts x).draft = d := by
  have hmem : d ∈ drafts.filter fun e => e.identity == x.identity :=
    List.mem_filter.mpr ⟨hd, beq_iff_eq.mpr hx⟩
  unfold reposition
  cases hlast : (drafts.filter fun e => e.identity == x.identity).getLast? with
  | none =>
    rw [List.getLast?_eq_none_iff] at hlast
    rw [hlast] at hmem
    cases hmem
  | some e =>
    obtain ⟨he, hex⟩ := List.mem_filter.mp (List.mem_of_getLast? hlast)
    have hed : e = d := List.inj_on_of_nodup_map hn he hd ((beq_iff_eq.mp hex).trans hx.symm)
    subst hed
    have hlabel : x.rowLabel = e.rowLabel := (Prod.ext_iff.mp hx).1.symm
    have hnumber : x.number = e.number := (Prod.ext_iff.mp hx).2.symm
    show SeatDraft.mk x.rowLabel x.number e.x e.y e.isAccessible = e
    rw [hlabel, hnumber]

/-- Moving a seat keeps its section. -/
theorem reposition_section (drafts : List SeatDraft) (x : Seat) :
    (reposition drafts x).section_ = x.section_ := by
  unfold reposition
  split <;> rfl

/-- A seat where its draft is stays as it is. -/
theorem reposition_eq_self {drafts : List SeatDraft} (hn : (drafts.map SeatDraft.identity).Nodup)
    {x : Seat} (hx : x.draft ∈ drafts) : reposition drafts x = x := by
  have hdraft := reposition_draft hn hx rfl
  have hkeys : (reposition drafts x).id = x.id ∧
      (reposition drafts x).organization = x.organization ∧
      (reposition drafts x).section_ = x.section_ := by
    unfold reposition
    split <;> exact ⟨rfl, rfl, rfl⟩
  obtain ⟨hid, horganization, hsection⟩ := hkeys
  generalize reposition drafts x = y at *
  obtain ⟨⟩ := x
  obtain ⟨⟩ := y
  simp only [Seat.draft, SeatDraft.mk.injEq] at hdraft
  simp only [Seat.mk.injEq]
  exact ⟨hid, horganization, hsection, hdraft⟩

/-- The seats of a section after an update of them. -/
theorem seatsOf_update {f : Seat → Seat} {hf} (hsection : ∀ x, (f x).section_ = x.section_) :
    seatsOf { db with seats := db.seats.update (fun s => s.section_ == section_.id) f hf }
      section_.id
      = (seatsOf db section_.id).map f := by
  unfold seatsOf
  show (db.seats.rows.map fun s => if s.section_ == section_.id then f s else s).filter _ = _
  induction db.seats.rows with
  | nil => rfl
  | cons x rest ih =>
    rw [List.map_cons, List.filter_cons, List.filter_cons, ih]
    by_cases hx : x.section_ == section_.id
    · rw [if_pos hx, hsection, if_pos hx, if_pos hx, List.map_cons]
    · rw [if_neg hx, if_neg hx, if_neg hx]

/-- An update of the seats of a section leaves those of the others. -/
theorem seatsOf_update_ne {f : Seat → Seat} {hf} (hsection : ∀ x, (f x).section_ = x.section_)
    {t : Nat} (ht : t ≠ section_.id) :
    seatsOf { db with seats := db.seats.update (fun s => s.section_ == section_.id) f hf } t
      = seatsOf db t := by
  refine Table.filter_update (p := fun s => s.section_ == section_.id) (k := hf) fun x hx => ?_
  have hne : x.section_ ≠ t := fun hxt => ht (hxt.symm.trans (beq_iff_eq.mp hx))
  rw [hsection]
  exact ⟨beq_eq_false_iff_ne.mpr hne, beq_eq_false_iff_ne.mpr hne⟩

/-- **Repositioning** leaves the seats that the parameters ask for. -/
theorem repositionSeats_storedAs
    (h : repositionSeats trig db section_ rowCounts removedIds accessibleIds = .ok db') :
    StoredAs db' section_.id
      (buildSeats trig section_.params rowCounts (fun _ => []) removedIds accessibleIds) := by
  unfold repositionSeats at h
  dsimp only at h
  split_ifs at h with hroster
  cases h
  rw [Bool.not_eq_true', Bool.not_eq_false] at hroster
  obtain ⟨hnew, hold⟩ := sameRoster_iff.mp hroster
  intro d
  rw [seatsOf_update (reposition_section _)]
  constructor
  · intro hd
    obtain ⟨x, hx, hxd⟩ := hnew d hd
    exact ⟨_, List.mem_map_of_mem hx, reposition_draft buildSeats_nodup hd hxd.symm⟩
  · rintro ⟨y, hy, rfl⟩
    obtain ⟨x, hx, rfl⟩ := List.mem_map.mp hy
    obtain ⟨d, hd, hdx⟩ := hold x hx
    rw [reposition_draft buildSeats_nodup hd hdx]
    exact hd

/-- Seats that are where the parameters put them are left alone. -/
theorem repositionSeats_eq_self
    (h : StoredAs db section_.id
      (buildSeats trig section_.params rowCounts (fun _ => []) removedIds accessibleIds)) :
    repositionSeats trig db section_ rowCounts removedIds accessibleIds = .ok db := by
  have hroster : sameRoster (buildSeats trig section_.params rowCounts (fun _ => []) removedIds
      accessibleIds) (seatsOf db section_.id) = true := by
    refine sameRoster_iff.mpr ⟨fun d hd => ?_, fun x hx => ⟨x.draft, (h _).mpr ⟨x, hx, rfl⟩, rfl⟩⟩
    obtain ⟨x, hx, rfl⟩ := (h d).mp hd
    exact ⟨x, hx, rfl⟩
  have hseats : db.seats.update (fun s => s.section_ == section_.id)
      (reposition
        (buildSeats trig section_.params rowCounts (fun _ => []) removedIds accessibleIds))
      (fun s => by unfold reposition; split <;> rfl) = db.seats := by
    refine Table.update_eq_self_of_fix fun x hx hp => ?_
    exact reposition_eq_self buildSeats_nodup ((h _).mpr ⟨x, List.mem_filter.mpr ⟨hx, hp⟩, rfl⟩)
  unfold repositionSeats
  dsimp only
  rw [hroster, if_neg (by decide), hseats]

/-! ### Anew -/

/-- New seats of a section that has none. -/
theorem insertMany_drafts {drafts : List SeatDraft} (hnone : seatsOf db section_.id = []) :
    (seatsOf { db with seats := db.seats.insertMany (newSeat section_) drafts }
      section_.id).map Seat.draft = drafts := by
  unfold seatsOf at hnone ⊢
  rw [Table.map_filter_insertMany (f := Seat.draft) (v := id)
    (fun _ _ => beq_self_eq_true section_.id) (fun _ _ => rfl), hnone, List.map_id]
  rfl

/-- The seats that were drafted are stored so. -/
theorem insertMany_storedAs {drafts : List SeatDraft} (hnone : seatsOf db section_.id = []) :
    StoredAs { db with seats := db.seats.insertMany (newSeat section_) drafts } section_.id
      drafts := by
  intro d
  rw [← List.mem_map, insertMany_drafts hnone]

/-- Deleting the seats of a section leaves none. -/
theorem seatsOf_deleteSeats (h : deleteSeats db ((seatsOf db section_.id).map (·.id)) = .ok db') :
    seatsOf db' section_.id = [] := by
  obtain ⟨-, rfl⟩ := deleteSeats_ok h
  unfold seatsOf
  rw [List.filter_eq_nil_iff]
  intro x hx hsection
  obtain ⟨hx, hkept⟩ := Table.mem_delete.mp hx
  have hseat : x ∈ seatsOf db section_.id := List.mem_filter.mpr ⟨hx, hsection⟩
  have hmem := List.contains_iff_mem.mpr (List.mem_map_of_mem (f := fun s : Seat => s.id) hseat)
  exact Bool.false_ne_true (hkept.symm.trans hmem)

/-- **Generating** leaves the seats that the parameters ask for. -/
theorem generateSeats_storedAs {accessible : Nat → List Nat} {replace : Bool}
    (h : generateSeats trig db section_ rowCounts accessible removedIds accessibleIds replace
      = .ok db') :
    StoredAs db' section_.id
      (buildSeats trig section_.params rowCounts accessible removedIds accessibleIds) := by
  unfold generateSeats at h
  dsimp only at h
  split_ifs at h with hnone
  · cases h
    exact insertMany_storedAs hnone
  · cases hd : deleteSeats db ((seatsOf db section_.id).map (·.id)) with
    | error e => rw [hd] at h; cases h
    | ok db₁ =>
      rw [hd] at h
      cases h
      exact insertMany_storedAs (seatsOf_deleteSeats hd)

/-! ### Other sections -/

/-- New seats belong to their section. -/
theorem seatsOf_insertMany_ne {drafts : List SeatDraft} {t : Nat} (ht : t ≠ section_.id) :
    seatsOf { db with seats := db.seats.insertMany (newSeat section_) drafts } t = seatsOf db t :=
  Table.filter_insertMany fun _ _ => by simpa [newSeat] using Ne.symm ht

/-- The seats of other sections survive. -/
theorem seatsOf_deleteSeats_ne (h : deleteSeats db ((seatsOf db section_.id).map (·.id)) = .ok db')
    {t : Nat} (ht : t ≠ section_.id) : seatsOf db' t = seatsOf db t := by
  obtain ⟨-, rfl⟩ := deleteSeats_ok h
  unfold seatsOf
  show (db.seats.rows.filter _).filter _ = _
  rw [List.filter_filter]
  refine List.filter_congr fun x hx => ?_
  by_cases hsection : x.section_ == t
  · have hkept : ((db.seats.rows.filter fun s => s.section_ == section_.id).map (·.id)).contains
        x.id
        = false := by
      refine Bool.eq_false_iff.mpr fun hcontains => ?_
      have hmem := List.contains_iff_mem.mp hcontains
      obtain ⟨y, hy, hid⟩ := List.mem_map.mp hmem
      obtain ⟨hy, hys⟩ := List.mem_filter.mp hy
      rw [Table.eq_of_key_eq hy hx hid] at hys
      exact ht ((beq_iff_eq.mp hsection).symm.trans (beq_iff_eq.mp hys))
    rw [hsection]
    dsimp only
    rw [hkept]
    rfl
  · rw [Bool.not_eq_true] at hsection
    rw [hsection]
    rfl

/-- Generating the seats of a section leaves those of the others. -/
theorem generateSeats_frame {accessible : Nat → List Nat} {replace : Bool}
    (h : generateSeats trig db section_ rowCounts accessible removedIds accessibleIds replace
      = .ok db') {t : Nat} (ht : t ≠ section_.id) :
    seatsOf db' t = seatsOf db t := by
  unfold generateSeats at h
  dsimp only at h
  split_ifs at h
  · cases h
    exact seatsOf_insertMany_ne ht
  · cases hd : deleteSeats db ((seatsOf db section_.id).map (·.id)) with
    | error e => rw [hd] at h; cases h
    | ok db₁ =>
      rw [hd] at h
      cases h
      exact (seatsOf_insertMany_ne ht).trans (seatsOf_deleteSeats_ne hd ht)

/-- Moving the seats of a section leaves those of the others. -/
theorem repositionSeats_frame
    (h : repositionSeats trig db section_ rowCounts removedIds accessibleIds = .ok db') {t : Nat}
    (ht : t ≠ section_.id) : seatsOf db' t = seatsOf db t := by
  unfold repositionSeats at h
  dsimp only at h
  split_ifs at h
  cases h
  exact seatsOf_update_ne (reposition_section _) ht

end Written

end BoxOffice

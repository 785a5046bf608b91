import BoxOffice.Relational.Service
import BoxOffice.Venues.Written
import Mathlib.Data.Finset.Dedup

namespace BoxOffice

open Relational

/-!
# Venues — the in-place path

`reposition_seats` moves the stored seats of a section without deleting a row, and
`generate_seats` deletes them and makes new ones.  Whenever the first goes through, the two leave
the same seats: per row label and number the same coordinates and the same flag
(`reposition_is_regeneration`).

* `repositionSeatsCall` is the function statement by statement, with the writes that a raise
  would leave behind; `repositionSeats` is its summary (`repositionSeatsCall_eq`);
* `seatAt` reads the seats of a section by their identity.
-/

/-! ### Statement by statement -/

/-- The row with the three written columns of the object that has its key. -/
def Seat.takeFrom (objects : List Seat) (row : Seat) : Seat :=
  match objects.find? fun o => o.id == row.id with
  | some o => { row with x := o.x, y := o.y, isAccessible := o.isAccessible }
  | none => row

/-- Taking the place of an object keeps the key. -/
theorem Seat.takeFrom_id (objects : List Seat) (row : Seat) :
    (row.takeFrom objects).id = row.id := by
  unfold Seat.takeFrom
  split <;> rfl

/-- `Seat.objects.bulk_update(objects, ["x", "y", "is_accessible"])`. -/
def bulkUpdateSeats (objects : List Seat) (db : Db) : Db :=
  { db with
    seats := db.seats.update (fun s => objects.any fun o => o.id == s.id)
      (Seat.takeFrom objects) (Seat.takeFrom_id objects) }

/-- `reposition_seats`.  The objects in memory get their targets one by one; a section has one
    seat of an identity, so the order does not matter. -/
def repositionSeatsCall (trig : Trig) (section_ : Section) (rowCounts : List Nat)
    (removedIds accessibleIds : List SeatIdentity) : Service Db ServiceError Unit := do
  let prospective := buildSeats trig section_.params rowCounts (fun _ => []) removedIds
    accessibleIds
  let db ← Service.read
  let existing := seatsOf db section_.id
  if !sameRoster prospective existing then
    Service.raise (.seatRosterChanged
      s!"Section {reprName section_.name}'s seat roster changed -- cannot reposition in place.")
  else if existing = [] then pure ()
  else Service.write (bulkUpdateSeats (existing.map (reposition prospective)))

/-- The identities of a list of drafts, as a set. -/
def rosterOf (drafts : List SeatDraft) : Finset SeatIdentity :=
  (drafts.map SeatDraft.identity).toFinset

/-- The identities of the stored seats of a section, as a set. -/
def storedRoster (db : Db) (section_ : Nat) : Finset SeatIdentity :=
  ((seatsOf db section_).map Seat.identity).toFinset

/-- The seat of an identity in a section, keys apart. -/
def seatAt (db : Db) (section_ : Nat) (identity : SeatIdentity) : Option SeatDraft :=
  ((seatsOf db section_).find? fun s => s.identity == identity).map Seat.draft

/-- The same seats with nothing sold on them. -/
def unsold (db : Db) : Db := { db with tickets := .empty, orderItems := .empty }

section InPlace

variable {trig : Trig} {db db' : Db} {section_ : Section} {rowCounts : List Nat}
  {removedIds accessibleIds : List SeatIdentity}

/-- Moving a seat keeps its key. -/
theorem reposition_id (drafts : List SeatDraft) (s : Seat) : (reposition drafts s).id = s.id := by
  unfold reposition
  split <;> rfl

/-- The columns of the moved object are those of the moved row. -/
theorem takeFrom_map_reposition {drafts : List SeatDraft} {s : Seat} (hs : s ∈ db.seats.rows)
    (hsection : (s.section_ == section_.id) = true) :
    s.takeFrom ((seatsOf db section_.id).map (reposition drafts)) = reposition drafts s := by
  have hmem : s ∈ seatsOf db section_.id := List.mem_filter.mpr ⟨hs, hsection⟩
  have hfind : ((seatsOf db section_.id).map (reposition drafts)).find? (fun o => o.id == s.id)
      = some (reposition drafts s) := by
    rw [List.find?_map]
    have hself : (seatsOf db section_.id).find? ((fun o : Seat => o.id == s.id) ∘ reposition drafts)
        = some s := by
      have hcongr : ((fun o : Seat => o.id == s.id) ∘ reposition drafts)
          = fun o => Keyed.key o == s.id := funext fun o => by
        show ((reposition drafts o).id == s.id) = _
        rw [reposition_id]
        rfl
      rw [hcongr]
      exact Table.find?_filter (Table.get?_eq_some.mpr ⟨hs, rfl⟩) hsection
    rw [hself]
    rfl
  unfold Seat.takeFrom
  rw [hfind]
  show { s with
    x := (reposition drafts s).x
    y := (reposition drafts s).y
    isAccessible := (reposition drafts s).isAccessible } = reposition drafts s
  unfold reposition
  split <;> rfl

/-- The bulk update of the moved objects is the update of the section's rows. -/
theorem bulkUpdateSeats_eq (drafts : List SeatDraft) :
    bulkUpdateSeats ((seatsOf db section_.id).map (reposition drafts)) db
      = { db with
          seats := db.seats.update (fun s => s.section_ == section_.id) (reposition drafts)
            (reposition_id drafts) } := by
  unfold bulkUpdateSeats
  congr 1
  refine Table.update_congr fun s hs => ?_
  have hany : ((seatsOf db section_.id).map (reposition drafts)).any (fun o => o.id == s.id)
      = (s.section_ == section_.id) := by
    rw [Bool.eq_iff_iff, List.any_eq_true]
    constructor
    · rintro ⟨o, ho, hid⟩
      obtain ⟨x, hx, rfl⟩ := List.mem_map.mp ho
      obtain ⟨hx, hsection⟩ := List.mem_filter.mp hx
      rw [reposition_id, beq_iff_eq] at hid
      rw [Table.eq_of_key_eq hx hs hid] at hsection
      exact hsection
    · intro hsection
      exact ⟨_, List.mem_map_of_mem (List.mem_filter.mpr ⟨hs, hsection⟩), by
        rw [reposition_id]; exact beq_self_eq_true s.id⟩
  rw [hany]
  by_cases hsection : s.section_ == section_.id
  · rw [if_pos hsection, if_pos hsection, takeFrom_map_reposition hs hsection]
  · rw [if_neg hsection, if_neg hsection]

/-- **The function is its summary**: it raises before its only write. -/
theorem repositionSeatsCall_eq :
    repositionSeatsCall trig section_ rowCounts removedIds accessibleIds
      = Service.ofExcept fun db =>
          (repositionSeats trig db section_ rowCounts removedIds accessibleIds).map (·, ()) := by
  funext db
  unfold repositionSeatsCall Service.ofExcept repositionSeats
  dsimp only
  rw [Service.read_bind]
  split_ifs with hroster hnone
  · rfl
  · have hseats := Table.update_eq_self (t := db.seats) (p := fun s => s.section_ == section_.id)
      (f := reposition (buildSeats trig section_.params rowCounts (fun _ => []) removedIds
        accessibleIds)) (k := reposition_id _) fun s hs => by
        rw [← Bool.not_eq_true]
        exact List.filter_eq_nil_iff.mp hnone s hs
    show (Except.ok (), db) = (Except.ok (), { db with seats := _ })
    rw [hseats]
  · rw [Service.write_apply, bulkUpdateSeats_eq]
    rfl

/-! ### The seats by identity -/

/-- The comparison of the function is equality of the two sets. -/
theorem sameRoster_iff_roster {drafts : List SeatDraft} :
    sameRoster drafts (seatsOf db section_.id) = true ↔
      rosterOf drafts = storedRoster db section_.id := by
  rw [sameRoster_iff, Finset.ext_iff]
  unfold rosterOf storedRoster
  simp only [List.mem_toFinset, List.mem_map]
  constructor
  · rintro ⟨hnew, hold⟩ identity
    constructor
    · rintro ⟨d, hd, rfl⟩
      exact hnew d hd
    · rintro ⟨x, hx, rfl⟩
      exact hold x hx
  · intro h
    exact ⟨fun d hd => (h d.identity).mp ⟨d, hd, rfl⟩, fun x hx => (h x.identity).mpr ⟨x, hx, rfl⟩⟩

/-- Stored seats are read by identity as the drafts they are stored as. -/
theorem seatAt_of_storedAs {drafts : List SeatDraft} (hn : (drafts.map SeatDraft.identity).Nodup)
    (h : StoredAs db section_.id drafts) (identity : SeatIdentity) :
    seatAt db section_.id identity = drafts.find? fun d => d.identity == identity := by
  unfold seatAt
  cases hx : (seatsOf db section_.id).find? fun s => s.identity == identity with
  | none =>
    symm
    rw [Option.map_none, List.find?_eq_none]
    intro d hd hid
    obtain ⟨x, hx', rfl⟩ := (h d).mp hd
    exact List.find?_eq_none.mp hx x hx' hid
  | some x =>
    have hxid : x.identity = identity := by simpa using List.find?_some hx
    have hdraft : x.draft ∈ drafts := (h _).mpr ⟨x, List.mem_of_find?_eq_some hx, rfl⟩
    rw [Option.map_some]
    cases hd : drafts.find? fun d => d.identity == identity with
    | none => exact absurd (beq_iff_eq.mpr hxid) (List.find?_eq_none.mp hd _ hdraft)
    | some d =>
      have hdid : d.identity = identity := by simpa using List.find?_some hd
      rw [List.inj_on_of_nodup_map hn hdraft (List.mem_of_find?_eq_some hd) (hxid.trans hdid.symm)]

/-- A section on which nothing was sold can be regenerated. -/
theorem generateSeats_unsold (db : Db) :
    ∃ regenerated, generateSeats trig (unsold db) section_ rowCounts (fun _ => []) removedIds
      accessibleIds true = .ok regenerated := by
  unfold generateSeats
  dsimp only
  split_ifs with hnone hlive hreplace
  · exact ⟨_, rfl⟩
  · exact absurd rfl hlive
  · exact absurd hreplace (by decide)
  · exact ⟨_, rfl⟩

/-! ### The two paths -/

/-- Under every key there is a seat of the same section, row and number as before, or still
    none. -/
def SeatsKept (db db' : Db) : Prop :=
  ∀ id, (db'.seats.get? id).map (fun s => (s.section_, s.identity))
    = (db.seats.get? id).map fun s => (s.section_, s.identity)

/-- Moving a seat keeps its identity. -/
theorem reposition_identity (drafts : List SeatDraft) (s : Seat) :
    (reposition drafts s).identity = s.identity := by
  unfold reposition
  split <;> rfl

/-- Moving the seats keeps them all, and writes nothing else. -/
theorem repositionSeats_seatsKept
    (h : repositionSeats trig db section_ rowCounts removedIds accessibleIds = .ok db') :
    SeatsKept db db' ∧ db' = { db with seats := db'.seats } := by
  unfold repositionSeats at h
  dsimp only at h
  split_ifs at h
  cases h
  refine ⟨fun id => ?_, rfl⟩
  simp only [Table.get?_update, Option.map_map]
  refine congrArg (fun f => (db.seats.get? id).map f) (funext fun s => ?_)
  rw [Function.comp_apply]
  split
  · rw [reposition_section, reposition_identity]
  · rfl

/-- **Another roster**: the call raises, and has written nothing. -/
theorem repositionSeatsCall_refused
    (hroster : sameRoster (buildSeats trig section_.params rowCounts (fun _ => []) removedIds
      accessibleIds) (seatsOf db section_.id) = false) :
    ∃ message, repositionSeatsCall trig section_ rowCounts removedIds accessibleIds db
      = (.error (.seatRosterChanged message), db) := by
  refine ⟨s!"Section {reprName section_.name}'s seat roster changed -- cannot reposition in place.", ?_⟩
  rw [repositionSeatsCall_eq]
  unfold Service.ofExcept repositionSeats
  dsimp only
  rw [hroster]
  rfl

/-- **The same roster**: the call goes through. -/
theorem repositionSeatsCall_done
    (hroster : sameRoster (buildSeats trig section_.params rowCounts (fun _ => []) removedIds
      accessibleIds) (seatsOf db section_.id) = true) :
    ∃ db', repositionSeats trig db section_ rowCounts removedIds accessibleIds = .ok db' ∧
      repositionSeatsCall trig section_ rowCounts removedIds accessibleIds db = (.ok (), db') := by
  obtain ⟨db', hdb'⟩ : ∃ db', repositionSeats trig db section_ rowCounts removedIds accessibleIds
      = .ok db' := by
    unfold repositionSeats
    dsimp only
    rw [hroster]
    exact ⟨_, rfl⟩
  refine ⟨db', hdb', ?_⟩
  rw [repositionSeatsCall_eq]
  refine Service.ofExcept_ok ?_
  rw [hdb']
  rfl

end InPlace

/-- **In place or anew.**  A call raises `SeatRosterChanged` exactly when the parameters ask for
    other identities than are stored, and has then written nothing.  Otherwise it leaves, by
    identity, the seats that regenerating the section leaves from whatever database it starts
    in, and keeps every seat under its key and everything that refers to it. -/
theorem reposition_is_regeneration (trig : Trig) (db : Db) (section_ : Section)
    (rowCounts : List Nat) (removedIds accessibleIds : List SeatIdentity) :
    let drafts := buildSeats trig section_.params rowCounts (fun _ => []) removedIds accessibleIds
    let run := repositionSeatsCall trig section_ rowCounts removedIds accessibleIds db
    ((∃ message, run.1 = .error (.seatRosterChanged message)) ↔
        rosterOf drafts ≠ storedRoster db section_.id) ∧
      (∀ e, run.1 = .error e → (∃ message, e = .seatRosterChanged message) ∧ run.2 = db) ∧
      (run.1 = .ok () →
        (∀ before regenerated,
          generateSeats trig before section_ rowCounts (fun _ => []) removedIds accessibleIds true
              = .ok regenerated →
            ∀ identity, seatAt run.2 section_.id identity
              = seatAt regenerated section_.id identity) ∧
        (∃ regenerated, generateSeats trig (unsold db) section_ rowCounts (fun _ => []) removedIds
          accessibleIds true = .ok regenerated) ∧
        SeatsKept db run.2 ∧ run.2 = { db with seats := run.2.seats }) := by
  intro drafts run
  cases hroster : sameRoster drafts (seatsOf db section_.id) with
  | false =>
    have hdiffer : rosterOf drafts ≠ storedRoster db section_.id := fun heq => by
      rw [sameRoster_iff_roster.mpr heq] at hroster
      cases hroster
    obtain ⟨message, hraise⟩ := repositionSeatsCall_refused hroster
    change run = _ at hraise
    rw [hraise]
    refine ⟨⟨fun _ => hdiffer, fun _ => ⟨message, rfl⟩⟩, fun e he => ?_, fun hok => by cases hok⟩
    cases he
    exact ⟨⟨message, rfl⟩, rfl⟩
  | true =>
    obtain ⟨db', hdb', hok⟩ := repositionSeatsCall_done hroster
    change run = _ at hok
    rw [hok]
    refine ⟨⟨fun ⟨m, h⟩ => (by cases h), fun hdiffer => ?_⟩, fun e h => (by cases h), fun _ => ?_⟩
    · exact absurd (sameRoster_iff_roster.mp hroster) hdiffer
    · refine ⟨fun before regenerated hg identity => ?_, generateSeats_unsold db,
        repositionSeats_seatsKept hdb'⟩
      rw [seatAt_of_storedAs buildSeats_nodup (repositionSeats_storedAs hdb'),
        seatAt_of_storedAs buildSeats_nodup (generateSeats_storedAs hg)]

end BoxOffice

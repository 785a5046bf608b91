import BoxOffice.Dashboard.EditorSave
import BoxOffice.Venues.FloatWrites
import BoxOffice.Venues.InPlace
import BoxOffice.Venues.Replacing

namespace BoxOffice

open Relational Python

/-!
# Dashboard — what saving one section comes to

The transaction of one entry goes through, is refused, or raises what the view does not catch.

* `SaveGoes`, `SaveRefused` — the two outcomes that the view answers, as conditions on the
  parameters and the stored seats; `saveSection_ok_iff`, `saveSection_refused_iff`;
* `saveSection_effect` — what a save that goes through writes.
-/

namespace OnFloats

section Outcome

variable {F : Type} {py : Builtins F} {cols : Columns py} {db db' : Db} {row : Section}
  {p : SectionParams F} {counts : List Nat} {removed accessible : List SeatIdentity}

/-! ### Conditions -/

/-- The places that the parameters ask for. -/
def askedPlaces (p : SectionParams F) (removed : List SeatIdentity) : List Place :=
  places p (saveCounts p) removed

/-- Every seat can be placed. -/
def Placed (py : Floats F) (p : SectionParams F) (removed : List SeatIdentity) : Prop :=
  ∀ place ∈ askedPlaces p removed,
    ∃ xy, seatXy py p place.rowIndex place.seatIndex place.seatCount = .ok xy

/-- Is the roster of the section the one that the parameters ask for? -/
def rosterKept (db : Db) (section_ : Nat) (p : SectionParams F) (removed : List SeatIdentity) :
    Bool :=
  sameIdentities ((askedPlaces p removed).map Place.identity) (seatsOf db section_)

/-- The save is refused: it would change the roster of a section with live tickets. -/
structure SaveRefused (py : Floats F) (db : Db) (section_ : Nat) (p : SectionParams F)
    (removed : List SeatIdentity) : Prop where
  placed : Placed py p removed
  changed : rosterKept db section_ p removed = false
  live : LiveOn db [section_]

/-- The save goes through: the seats can be placed, and moved if the roster is kept; else no live
    ticket and no order line is on the old ones, and the new ones fit their columns; and the
    columns of the section take its parameters. -/
structure SaveGoes (cols : Columns py) (db : Db) (section_ : Nat) (p : SectionParams F)
    (removed accessible : List SeatIdentity) : Prop where
  placed : Placed py.toFloats p removed
  moved : rosterKept db section_ p removed = true → ∀ place ∈ askedPlaces p removed,
    ∀ xy, seatXy py.toFloats p place.rowIndex place.seatIndex place.seatCount = .ok xy →
      (cols.float xy.1).isSome ∧ (cols.float xy.2).isSome
  regenerated : rosterKept db section_ p removed = false →
    ¬LiveOn db [section_] ∧ ¬SoldOn db [section_] ∧
      ∀ place ∈ askedPlaces p removed, PlaceFits cols p place
  stored : cols.Takes (savedParams p removed accessible)

/-! ### The generator -/

/-- The seats of a block can be built if and only if each place can be put somewhere. -/
theorem buildSeats_ok_iff : (∃ drafts, buildSeats py.toFloats p counts removed accessible
      = .ok drafts) ↔ ∀ place ∈ places p counts removed,
        ∃ xy, seatXy py.toFloats p place.rowIndex place.seatIndex place.seatCount = .ok xy := by
  unfold buildSeats
  rw [mapM_ok_iff]
  refine forall₂_congr fun place _ => ?_
  unfold seatDraft
  simp only [bind_eq_ok, pure_eq_ok]
  exact ⟨fun ⟨_, xy, hxy, _⟩ => ⟨xy, hxy⟩, fun ⟨xy, hxy⟩ => ⟨_, xy, hxy, rfl⟩⟩

/-- The seats that are built are the places of the block. -/
theorem buildSeats_identities {drafts : List (SeatDraft F)}
    (h : buildSeats py.toFloats p counts removed accessible = .ok drafts) :
    drafts.map SeatDraft.identity = (places p counts removed).map Place.identity :=
  map_of_mapM (fun _ _ => seatDraft_identity) h

/-- No error of a column is one of the generator. -/
theorem storeXy_error {d : SeatDraft F} {failure : Failure} (h : storeXy cols d = .error failure) :
    ∃ column, failure = .service (.integrity column) := by
  unfold storeXy Columns.storeFloat at h
  cases hx : cols.float d.x with
  | none =>
    rw [hx] at h
    cases h
    exact ⟨_, rfl⟩
  | some x =>
    cases hy : cols.float d.y with
    | none =>
      rw [hx, hy] at h
      cases h
      exact ⟨_, rfl⟩
    | some y =>
      rw [hx, hy] at h
      cases h

/-- A seat that cannot be stored is no failure of the generation. -/
theorem storeSeat_error {d : SeatDraft F} {failure : Failure}
    (h : storeSeat cols d = .error failure) :
    ∃ e, failure = .service e ∧ e.isSeatGenerationError = false := by
  unfold storeSeat at h
  cases hlabel : cols.storeText 10 "row_label" d.rowLabel with
  | error f =>
    rw [hlabel] at h
    cases h
    unfold Columns.storeText at hlabel
    split_ifs at hlabel
    cases hlabel
    exact ⟨_, rfl, rfl⟩
  | ok label =>
    cases hnumber : cols.storeText 10 "number" d.number with
    | error f =>
      rw [hlabel, hnumber] at h
      cases h
      unfold Columns.storeText at hnumber
      split_ifs at hnumber
      cases hnumber
      exact ⟨_, rfl, rfl⟩
    | ok number =>
      rw [hlabel, hnumber] at h
      obtain ⟨column, rfl⟩ := storeXy_error h
      exact ⟨_, rfl, rfl⟩

/-- Nor is a section that cannot be filled. -/
theorem fillSeats_error {section_ : SectionObject F} {e : ServiceError}
    (h : fillSeats cols db section_ counts removed accessible = .error (.service e)) :
    e.isSeatGenerationError = false := by
  unfold fillSeats bulkCreateSeats at h
  cases hdrafts : buildSeats py.toFloats section_.params counts removed accessible with
  | error f =>
    rw [hdrafts] at h
    cases h
  | ok drafts =>
    rw [hdrafts] at h
    change (drafts.mapM (storeSeat cols) >>= _) = _ at h
    cases hstored : drafts.mapM (storeSeat cols) with
    | error f =>
      rw [hstored] at h
      cases h
      obtain ⟨d, -, hd⟩ := exists_of_mapM_error hstored
      obtain ⟨e', he', hkind⟩ := storeSeat_error hd
      cases he'
      exact hkind
    | ok stored =>
      rw [hstored] at h
      dsimp only [bind, Except.bind] at h
      split_ifs at h
      · cases h
      · cases h
        rfl

/-- The message of a refused regeneration. -/
def liveRefusal (db : Db) (row : Section) : ServiceError :=
  .seatGeneration
    s!"Section {reprName row.name} has {(liveTicketSeats db row.id).length} seat(s) with a live ticket issued -- regenerating would orphan them. Void/refund those tickets first, or build a new section instead."

/-- What a regeneration that may replace the seats does, case by case. -/
theorem generateSeats_replace :
    generateSeats cols db ⟨row, p⟩ counts removed accessible true =
      if seatsOf db row.id = [] then fillSeats cols db ⟨row, p⟩ counts removed accessible
      else if liveTicketSeats db row.id ≠ [] then .error (.service (liveRefusal db row))
      else match deleteSeats db ((seatsOf db row.id).map (·.id)) with
        | .error e => .error (.service e)
        | .ok db => fillSeats cols db ⟨row, p⟩ counts removed accessible := rfl

/-- **Regenerating** goes through if no live ticket and no order line is on the old seats, and the
    new ones fit. -/
theorem generateSeats_ok_iff : (∃ db', generateSeats cols db ⟨row, p⟩ counts removed accessible true
      = .ok db') ↔ ¬LiveOn db [row.id] ∧ ¬SoldOn db [row.id] ∧
        ∀ place ∈ places p counts removed, PlaceFits cols p place := by
  rw [generateSeats_replace]
  split_ifs with hnone hlive
  · have hseats (x : Seat) (hx : x ∈ db.seats.rows) : x.section_ ∉ [row.id] := fun hmem =>
      List.filter_eq_nil_iff.mp hnone x hx (beq_iff_eq.mpr (List.mem_singleton.mp hmem))
    have hfree : ¬LiveOn db [row.id] := fun ⟨_, _, _, x, hx, hmem, _⟩ => hseats x hx hmem
    have hunsold : ¬SoldOn db [row.id] := fun ⟨_, _, x, hx, hmem, _⟩ => hseats x hx hmem
    rw [fillSeats_ok_iff hnone]
    exact ⟨fun h => ⟨hfree, hunsold, h⟩, fun h => h.2.2⟩
  · exact iff_of_false (fun ⟨_, h⟩ => by cases h) fun h => h.1 (liveTicketSeats_ne_nil.mp hlive)
  · have hfree : ¬LiveOn db [row.id] := fun h => hlive (liveTicketSeats_ne_nil.mpr h)
    rw [seatsOf_eq_filter]
    rcases deleteSeats_cases db [row.id] with ⟨hsold, hdelete⟩ | ⟨hunsold, db₁, hdelete⟩
    · rw [hdelete]
      exact iff_of_false (fun ⟨_, h⟩ => by cases h) fun h => h.2.1 hsold
    · rw [hdelete]
      dsimp only
      have hempty : seatsOf db₁ row.id = [] := seatsOf_deleteSeats (by rwa [seatsOf_eq_filter])
      rw [fillSeats_ok_iff hempty]
      exact ⟨fun h => ⟨hfree, hunsold, h⟩, fun h => h.2.2⟩

/-- A regeneration is refused exactly for live tickets. -/
theorem generateSeats_refused_iff {e : ServiceError} (he : e.isSeatGenerationError = true) :
    generateSeats cols db ⟨row, p⟩ counts removed accessible true = .error (.service e) ↔
      LiveOn db [row.id] ∧ e = liveRefusal db row := by
  rw [generateSeats_replace]
  split_ifs with hnone hlive
  -- No seats, no live tickets; and whatever else the filling raises is another error.
  · have hfree : ¬LiveOn db [row.id] := fun h =>
      liveTicketSeats_ne_nil.mpr h (List.filter_eq_nil_iff.mpr fun t _ ht => by
        rw [hnone] at ht
        simp at ht)
    refine iff_of_false (fun h => ?_) fun h => hfree h.1
    rw [fillSeats_error h] at he
    cases he
  · constructor
    · intro h
      cases h
      exact ⟨liveTicketSeats_ne_nil.mp hlive, rfl⟩
    · rintro ⟨-, rfl⟩
      rfl
  · refine iff_of_false (fun h => ?_) fun h => hlive (liveTicketSeats_ne_nil.mpr h.1)
    -- The deletion may be refused for tickets that are void, which the view does not expect.
    cases hdelete : deleteSeats db ((seatsOf db row.id).map (·.id)) with
    | error e' =>
      rw [hdelete] at h
      cases h
      unfold deleteSeats at hdelete
      split_ifs at hdelete
      cases hdelete
      cases he
    | ok db₁ =>
      rw [hdelete] at h
      rw [fillSeats_error h] at he
      cases he

/-! ### The seats -/

/-- Seats that can be placed are moved or regenerated. -/
theorem writeSeats_eq {drafts : List (SeatDraft F)}
    (h : buildSeats py.toFloats p (saveCounts p) removed accessible = .ok drafts) :
    writeSeats cols db ⟨row, p⟩ removed accessible =
      if rosterKept db row.id p removed = true then
        drafts.mapM (storeXy cols) >>= fun stored => .ok (moveSeats db row.id stored)
      else generateSeats cols db ⟨row, p⟩ (saveCounts p) removed accessible true := by
  have hroster : sameIdentities (drafts.map SeatDraft.identity) (seatsOf db row.id)
      = rosterKept db row.id p removed := by
    rw [buildSeats_identities h]
    rfl
  unfold writeSeats repositionSeats
  rw [h]
  dsimp only [raised, bind, Except.bind]
  rw [hroster]
  cases rosterKept db row.id p removed with
  | false => rfl
  | true =>
    cases hstored : drafts.mapM (storeXy cols) with
    | error f =>
      obtain ⟨d, -, hd⟩ := exists_of_mapM_error hstored
      obtain ⟨column, rfl⟩ := storeXy_error hd
      rfl
    | ok stored => rfl

/-- A seat that cannot be placed raises. -/
theorem writeSeats_raises (h : ¬Placed py.toFloats p removed) :
    ∃ e, writeSeats cols db ⟨row, p⟩ removed accessible = .error (.raised e) := by
  cases hdrafts : buildSeats py.toFloats p (saveCounts p) removed accessible with
  | ok drafts => exact absurd (buildSeats_ok_iff.mp ⟨drafts, hdrafts⟩) h
  | error e =>
    refine ⟨e, ?_⟩
    unfold writeSeats repositionSeats
    rw [hdrafts]
    rfl

/-- What writing the seats of a section does, when it goes through. -/
theorem writeSeats_cases (h : writeSeats cols db ⟨row, p⟩ removed accessible = .ok db') :
    (∃ drafts, db' = moveSeats db row.id drafts) ∨
    (∃ drafts, db' = { db with
      seats := db.seats.insertMany (newSeat row) drafts (newSeat_id row) }) ∨
    (¬LiveOn db [row.id] ∧ ∃ db₁ drafts,
      deleteSeats db ((seatsOf db row.id).map (·.id)) = .ok db₁ ∧
      db' = { db₁ with
        seats := db₁.seats.insertMany (newSeat row) drafts (newSeat_id row) }) := by
  by_cases hplaced : Placed py.toFloats p removed
  · obtain ⟨drafts, hdrafts⟩ := (@buildSeats_ok_iff _ _ _ _ _ accessible).mpr hplaced
    rw [writeSeats_eq hdrafts] at h
    split_ifs at h
    · obtain ⟨stored, -, hmoved⟩ := bind_eq_ok.mp h
      cases hmoved
      exact .inl ⟨stored, rfl⟩
    · rw [generateSeats_replace] at h
      split_ifs at h with hnone hlive
      · obtain ⟨-, stored, hdb⟩ := fillSeats_seats h
        exact .inr (.inl ⟨stored, hdb⟩)
      · cases hdelete : deleteSeats db ((seatsOf db row.id).map (·.id)) with
        | error e =>
          rw [hdelete] at h
          cases h
        | ok db₁ =>
          rw [hdelete] at h
          obtain ⟨-, stored, hdb⟩ := fillSeats_seats h
          exact .inr (.inr ⟨fun hl => hlive (liveTicketSeats_ne_nil.mpr hl), db₁, stored, rfl, hdb⟩)
  · obtain ⟨e, he⟩ := @writeSeats_raises _ _ cols db row _ _ accessible hplaced
    rw [he] at h
    cases h

/-- Every seat with a live ticket is still there, under its key and its identity, and still has
    one. -/
def LiveSeatsKept (db db' : Db) : Prop :=
  ∀ x ∈ db.seats.rows, (∃ t ∈ db.tickets.rows, t.Live ∧ t.seat = some x.id) →
    ∃ x' ∈ db'.seats.rows, x'.id = x.id ∧ x'.section_ = x.section_ ∧ x'.identity = x.identity ∧
      ∃ t ∈ db'.tickets.rows, t.Live ∧ t.seat = some x'.id

/-- A database keeps its own live seats. -/
theorem LiveSeatsKept.refl (db : Db) : LiveSeatsKept db db :=
  fun x hx hlive => ⟨x, hx, rfl, rfl, rfl, hlive⟩

/-- Seats kept twice are kept. -/
theorem LiveSeatsKept.trans {db₁ db₂ db₃ : Db} (h : LiveSeatsKept db₁ db₂)
    (h' : LiveSeatsKept db₂ db₃) : LiveSeatsKept db₁ db₃ := fun x hx hlive => by
  obtain ⟨y, hy, hid, hsection, hidentity, hylive⟩ := h x hx hlive
  obtain ⟨z, hz, hid', hsection', hidentity', hzlive⟩ := h' y hy hylive
  exact ⟨z, hz, hid'.trans hid, hsection'.trans hsection, hidentity'.trans hidentity, hzlive⟩

/-- The sections agree in both databases: the row, the seats, and whether live tickets or order
    lines are on them. -/
structure SectionUntouched (db db' : Db) (section_ : Nat) : Prop where
  row : db'.sections.get? section_ = db.sections.get? section_
  seats : seatsOf db' section_ = seatsOf db section_
  live : LiveOn db' [section_] ↔ LiveOn db [section_]
  sold : SoldOn db' [section_] ↔ SoldOn db [section_]

/-- A database leaves its own sections alone. -/
theorem SectionUntouched.refl (db : Db) (section_ : Nat) : SectionUntouched db db section_ :=
  ⟨rfl, rfl, Iff.rfl, Iff.rfl⟩

/-- A section left alone twice is left alone. -/
theorem SectionUntouched.trans {db₁ db₂ db₃ : Db} {section_ : Nat}
    (h : SectionUntouched db₁ db₂ section_) (h' : SectionUntouched db₂ db₃ section_) :
    SectionUntouched db₁ db₃ section_ :=
  ⟨h'.row.trans h.row, h'.seats.trans h.seats, h'.live.trans h.live, h'.sold.trans h.sold⟩

/-- A section is live if a live ticket is on one of its seats. -/
theorem liveOn_iff {section_ : Nat} : LiveOn db [section_] ↔
    ∃ t ∈ db.tickets.rows, t.Live ∧ ∃ x ∈ seatsOf db section_, t.seat = some x.id := by
  unfold LiveOn seatsOf
  simp only [List.mem_filter, beq_iff_eq, List.mem_singleton, and_assoc]

/-- A section is sold if an order line is on one of its seats. -/
theorem soldOn_iff {section_ : Nat} : SoldOn db [section_] ↔
    ∃ i ∈ db.orderItems.rows, ∃ x ∈ seatsOf db section_, i.seat = some x.id := by
  unfold SoldOn seatsOf
  simp only [List.mem_filter, beq_iff_eq, List.mem_singleton, and_assoc]

/-- Clearing other seats keeps a seat that is none of them. -/
theorem nullSeat_eq_some {ids : List Nat} {seat : Option Nat} {i : Nat} (hi : i ∉ ids) :
    nullSeat ids seat = some i ↔ seat = some i := by
  unfold nullSeat
  rw [Option.filter_eq_some_iff]
  exact and_iff_left (by simpa [List.contains_iff_mem] using hi)

/-- Seats that are not deleted keep their tickets. -/
theorem tickets_deleteSeats {ids : List Nat} (h : deleteSeats db ids = .ok db') {i : Nat}
    (hi : i ∉ ids) : (∃ t ∈ db'.tickets.rows, t.Live ∧ t.seat = some i) ↔
      ∃ t ∈ db.tickets.rows, t.Live ∧ t.seat = some i := by
  obtain ⟨-, rfl⟩ := deleteSeats_ok h
  constructor
  · rintro ⟨t, ht, hlive, hseat⟩
    obtain ⟨u, hu, rfl⟩ := List.mem_map.mp ht
    rw [if_pos rfl] at hlive hseat
    exact ⟨u, hu, hlive, (nullSeat_eq_some hi).mp hseat⟩
  · rintro ⟨t, ht, hlive, hseat⟩
    refine ⟨_, List.mem_map_of_mem ht, ?_⟩
    rw [if_pos rfl]
    exact ⟨hlive, (nullSeat_eq_some hi).mpr hseat⟩

/-- The seats of another section are not deleted. -/
theorem notMem_of_section_ne {section_ : Nat} {x : Seat} (hx : x ∈ db.seats.rows)
    (h : x.section_ ≠ section_) : x.id ∉ (seatsOf db section_).map (·.id) := fun hid => by
  obtain ⟨y, hy, hyx⟩ := List.mem_map.mp hid
  obtain ⟨hy, hsection⟩ := List.mem_filter.mp hy
  rw [Table.eq_of_key_eq hy hx hyx] at hsection
  exact h (beq_iff_eq.mp hsection)

/-- **The frame.** Sections stay as they are, and so do the seats of other sections and every seat
    with a live ticket. -/
theorem writeSeats_frame (h : writeSeats cols db ⟨row, p⟩ removed accessible = .ok db') :
    db'.sections = db.sections ∧ (∀ t, t ≠ row.id → SectionUntouched db db' t) ∧
      LiveSeatsKept db db' := by
  rcases writeSeats_cases h with ⟨drafts, rfl⟩ | ⟨drafts, rfl⟩ | ⟨hfree, db₁, drafts, hdelete, rfl⟩
  -- The seats stay and are moved: ids, labels and tickets are the same.
  · refine ⟨rfl, fun t ht => ?_, fun x hx hlive => ?_⟩
    · have hseats : seatsOf (moveSeats db row.id drafts) t = seatsOf db t :=
        seatsOf_update_ne (reposition_section drafts) ht
      refine ⟨rfl, hseats, ?_, ?_⟩
      · rw [liveOn_iff, liveOn_iff, hseats]
        rfl
      · rw [soldOn_iff, soldOn_iff, hseats]
        rfl
    · refine ⟨_, List.mem_map_of_mem hx, ?_⟩
      split_ifs
      · rw [reposition_id]
        exact ⟨rfl, reposition_section drafts x, reposition_identity drafts x, hlive⟩
      · exact ⟨rfl, rfl, rfl, hlive⟩
  -- Seats are added to a section that had none.
  · refine ⟨rfl, fun t ht => ?_, fun x hx hlive =>
      ⟨x, Table.mem_insertMany_of_mem hx, rfl, rfl, rfl, hlive⟩⟩
    have hseats := @seatsOf_insertMany_ne db row drafts t ht
    refine ⟨rfl, hseats, ?_, ?_⟩
    · rw [liveOn_iff, liveOn_iff, hseats]
    · rw [soldOn_iff, soldOn_iff, hseats]
  -- The seats are written anew: none of them had a live ticket.
  · refine ⟨?_, fun t ht => ?_, fun x hx hlive => ?_⟩
    · obtain ⟨-, rfl⟩ := deleteSeats_ok hdelete
      rfl
    · have hseats := (@seatsOf_insertMany_ne db₁ row drafts t ht).trans
        (seatsOf_deleteSeats_ne hdelete ht)
      refine ⟨?_, hseats, ?_, ?_⟩
      · obtain ⟨-, rfl⟩ := deleteSeats_ok hdelete
        rfl
      · rw [liveOn_iff, liveOn_iff, hseats]
        have hkept (x : Seat) (hx : x ∈ seatsOf db t) : x.id ∉ (seatsOf db row.id).map (·.id) := by
          obtain ⟨hx, hsection⟩ := List.mem_filter.mp hx
          exact notMem_of_section_ne hx ((beq_iff_eq.mp hsection).trans_ne ht)
        constructor
        · rintro ⟨k, hk, hlive, x, hx, hseat⟩
          obtain ⟨k, hk, hlive, hseat⟩ :=
            (tickets_deleteSeats hdelete (hkept x hx)).mp ⟨k, hk, hlive, hseat⟩
          exact ⟨k, hk, hlive, x, hx, hseat⟩
        · rintro ⟨k, hk, hlive, x, hx, hseat⟩
          obtain ⟨k, hk, hlive, hseat⟩ :=
            (tickets_deleteSeats hdelete (hkept x hx)).mpr ⟨k, hk, hlive, hseat⟩
          exact ⟨k, hk, hlive, x, hx, hseat⟩
      · rw [soldOn_iff, soldOn_iff, hseats]
        obtain ⟨-, rfl⟩ := deleteSeats_ok hdelete
        rfl
    · -- A seat with a live ticket is not one of the section, so it is not deleted.
      have hother : x.section_ ≠ row.id := fun hsection =>
        let ⟨t, ht, hticket, hseat⟩ := hlive
        hfree ⟨t, ht, hticket, x, hx, List.mem_singleton.mpr hsection, hseat⟩
      have hmem : x ∈ seatsOf db₁ x.section_ := by
        rw [seatsOf_deleteSeats_ne hdelete hother]
        exact List.mem_filter.mpr ⟨hx, beq_self_eq_true _⟩
      exact ⟨x, Table.mem_insertMany_of_mem (List.mem_filter.mp hmem).1, rfl, rfl, rfl,
        (tickets_deleteSeats hdelete (notMem_of_section_ne hx hother)).mpr hlive⟩

/-! ### The transaction -/

/-- A stored section is saved exactly with the parameters its columns take. -/
theorem storeSection_ok_iff {section_ : Nat} (hrow : (db.sections.get? section_).isSome) :
    storeSection cols db section_ p = .ok db' ↔ ∃ stored, cols.storeParams p = .ok stored ∧
      db' = { db with
        sections := db.sections.update (fun s => s.id == section_)
          fun s => { s with params := stored } } := by
  obtain ⟨s, hs⟩ := Option.isSome_iff_exists.mp hrow
  unfold storeSection
  simp only [bind_eq_ok, hs]
  refine exists_congr fun stored => and_congr_right fun _ => ?_
  exact ⟨fun h => by cases h; rfl, fun h => by rw [h]; rfl⟩

/-- A section that cannot be stored is no failure of the generation. -/
theorem storeSection_error {section_ : Nat} {e : ServiceError}
    (h : storeSection cols db section_ p = .error (.service e)) :
    e.isSeatGenerationError = false := by
  unfold storeSection Columns.storeParams at h
  split_ifs at h
  · cases hrow : db.sections.get? section_ with
    | none =>
      rw [hrow] at h
      cases h
      rfl
    | some s =>
      rw [hrow] at h
      cases h
  · cases h
    rfl

/-- The parameters can be stored if and only if every column takes its own. -/
theorem storeParams_ok_iff : (∃ stored, cols.storeParams p = .ok stored) ↔ cols.Takes p := by
  unfold Columns.storeParams
  split_ifs with h
  · exact iff_of_true ⟨_, rfl⟩ h
  · exact iff_of_false (fun ⟨_, hok⟩ => by cases hok) h

/-- Seats can be moved if their columns take where they are placed. -/
theorem moved_iff {drafts : List (SeatDraft F)}
    (h : buildSeats py.toFloats p counts removed accessible = .ok drafts) :
    (∃ stored, drafts.mapM (storeXy cols) = .ok stored) ↔
      ∀ place ∈ places p counts removed, ∀ xy,
        seatXy py.toFloats p place.rowIndex place.seatIndex place.seatCount = .ok xy →
          (cols.float xy.1).isSome ∧ (cols.float xy.2).isSome := by
  rw [mapM_ok_iff]
  constructor
  · intro hstored place hplace xy hxy
    have hdraft : seatDraft py.toFloats p accessible place = .ok ⟨place.label,
        toString place.number, xy.1, xy.2, accessible.contains place.identity⟩ :=
      bind_eq_ok.mpr ⟨xy, hxy, rfl⟩
    obtain ⟨stored, hstored⟩ := hstored _ (mem_of_mapM h hplace hdraft)
    obtain ⟨x, y, hx, hy, -⟩ := storeXy_ok_iff.mp hstored
    exact ⟨Option.isSome_iff_exists.mpr ⟨x, hx⟩, Option.isSome_iff_exists.mpr ⟨y, hy⟩⟩
  · intro hstorable d hd
    obtain ⟨place, hplace, hdraft⟩ := exists_of_mapM h hd
    obtain ⟨xy, hxy, hdraft⟩ := bind_eq_ok.mp hdraft
    obtain ⟨hx, hy⟩ := hstorable place hplace xy hxy
    obtain ⟨x, hx⟩ := Option.isSome_iff_exists.mp hx
    obtain ⟨y, hy⟩ := Option.isSome_iff_exists.mp hy
    cases hdraft
    exact ⟨_, storeXy_ok_iff.mpr ⟨x, y, hx, hy, rfl⟩⟩

/-- The seats are written if they can be placed, and moved or regenerated. -/
theorem writeSeats_ok_iff :
    (∃ db', writeSeats cols db ⟨row, p⟩ removed accessible = .ok db') ↔
      Placed py.toFloats p removed ∧
      (rosterKept db row.id p removed = true → ∀ place ∈ askedPlaces p removed, ∀ xy,
        seatXy py.toFloats p place.rowIndex place.seatIndex place.seatCount = .ok xy →
          (cols.float xy.1).isSome ∧ (cols.float xy.2).isSome) ∧
      (rosterKept db row.id p removed = false → ¬LiveOn db [row.id] ∧ ¬SoldOn db [row.id] ∧
        ∀ place ∈ askedPlaces p removed, PlaceFits cols p place) := by
  by_cases hplaced : Placed py.toFloats p removed
  · obtain ⟨drafts, hdrafts⟩ := (@buildSeats_ok_iff _ _ _ _ _ accessible).mpr hplaced
    rw [writeSeats_eq hdrafts]
    -- Without a change of the roster the seats are moved; otherwise they are made anew.
    cases hroster : rosterKept db row.id p removed with
    | false =>
      rw [if_neg Bool.false_ne_true, generateSeats_ok_iff]
      exact ⟨fun h => ⟨hplaced, fun hkept => (Bool.false_ne_true hkept).elim, fun _ => h⟩,
        fun h => h.2.2 rfl⟩
    | true =>
      have hmoved : (∃ stored, drafts.mapM (storeXy cols) = .ok stored) ↔
          ∀ place ∈ askedPlaces p removed, ∀ xy,
            seatXy py.toFloats p place.rowIndex place.seatIndex place.seatCount = .ok xy →
              (cols.float xy.1).isSome ∧ (cols.float xy.2).isSome :=
        moved_iff hdrafts
      rw [if_pos rfl]
      constructor
      · rintro ⟨db', h⟩
        obtain ⟨stored, hstored, -⟩ := bind_eq_ok.mp h
        exact ⟨hplaced, fun _ => hmoved.mp ⟨stored, hstored⟩, fun h => by cases h⟩
      · rintro ⟨-, h, -⟩
        obtain ⟨stored, hstored⟩ := hmoved.mpr (h rfl)
        exact ⟨_, bind_eq_ok.mpr ⟨stored, hstored, rfl⟩⟩
  · refine iff_of_false (fun ⟨db', h⟩ => ?_) fun h => hplaced h.1
    obtain ⟨e, he⟩ := @writeSeats_raises _ _ cols db row _ _ accessible hplaced
    rw [he] at h
    cases h

/-- **A save goes through** exactly so. -/
theorem saveSection_ok_iff (hrow : (db.sections.get? row.id).isSome) :
    (∃ db', saveSection cols db ⟨row, p⟩ removed accessible = .ok db') ↔
      SaveGoes cols db row.id p removed accessible := by
  unfold saveSection
  simp only [bind_eq_ok]
  constructor
  · rintro ⟨db', db₁, hseats, hstore⟩
    obtain ⟨hplaced, hmoved, hregenerated⟩ := writeSeats_ok_iff.mp ⟨db₁, hseats⟩
    rw [storeSection_ok_iff (by rwa [(writeSeats_frame hseats).1])] at hstore
    obtain ⟨stored, hstored, -⟩ := hstore
    exact ⟨hplaced, hmoved, hregenerated, storeParams_ok_iff.mp ⟨stored, hstored⟩⟩
  · rintro ⟨hplaced, hmoved, hregenerated, htakes⟩
    obtain ⟨db₁, hseats⟩ := (@writeSeats_ok_iff _ _ cols db row p removed accessible).mpr
      ⟨hplaced, hmoved, hregenerated⟩
    obtain ⟨stored, hstored⟩ := storeParams_ok_iff.mpr htakes
    exact ⟨_, db₁, hseats, (storeSection_ok_iff (by rwa [(writeSeats_frame hseats).1])).mpr
      ⟨stored, hstored, rfl⟩⟩

/-- **A save is refused** exactly so. -/
theorem saveSection_refused_iff {e : ServiceError} (he : e.isSeatGenerationError = true) :
    saveSection cols db ⟨row, p⟩ removed accessible = .error (.service e) ↔
      SaveRefused py.toFloats db row.id p removed ∧ e = liveRefusal db row := by
  -- What is stored after the seats never raises an error of the generator.
  have hstore (x : Except Failure Db) : (x >>= fun db₁ =>
      storeSection cols db₁ row.id (savedParams p removed accessible)) = .error (.service e) ↔
        x = .error (.service e) := by
    cases x with
    | error f => exact Iff.rfl
    | ok db₁ =>
      refine iff_of_false (fun h => ?_) fun h => by cases h
      rw [storeSection_error h] at he
      cases he
  have hsave : saveSection cols db ⟨row, p⟩ removed accessible = .error (.service e) ↔
      writeSeats cols db ⟨row, p⟩ removed accessible = .error (.service e) := hstore _
  rw [hsave]
  by_cases hplaced : Placed py.toFloats p removed
  · obtain ⟨drafts, hdrafts⟩ := (@buildSeats_ok_iff _ _ _ _ _ accessible).mpr hplaced
    rw [writeSeats_eq hdrafts]
    cases hroster : rosterKept db row.id p removed with
    | false =>
      rw [if_neg Bool.false_ne_true, generateSeats_refused_iff he]
      exact and_congr_left fun _ => ⟨fun hlive => ⟨hplaced, hroster, hlive⟩, fun h => h.live⟩
    | true =>
      rw [if_pos rfl]
      refine iff_of_false (fun h => ?_) fun h => by
        rw [h.1.changed] at hroster
        cases hroster
      cases hstored : drafts.mapM (storeXy cols) with
      | error f =>
        obtain ⟨d, -, hd⟩ := exists_of_mapM_error hstored
        obtain ⟨column, rfl⟩ := storeXy_error hd
        rw [hstored] at h
        cases h
        cases he
      | ok stored =>
        rw [hstored] at h
        cases h
  · refine iff_of_false (fun h => ?_) fun h => hplaced h.1.placed
    obtain ⟨f, hf⟩ := @writeSeats_raises _ _ cols db row _ _ accessible hplaced
    rw [hf] at h
    cases h

/-- **What a save writes.** The parameters of its section, the seats of its section, and nothing
    that carries a live ticket. -/
theorem saveSection_effect (hrow : (db.sections.get? row.id).isSome)
    (h : saveSection cols db ⟨row, p⟩ removed accessible = .ok db') :
    (∃ stored, cols.storeParams (savedParams p removed accessible) = .ok stored ∧
      db'.sections = db.sections.update (fun s => s.id == row.id)
        fun s => { s with params := stored }) ∧
      (∀ t, t ≠ row.id → SectionUntouched db db' t) ∧ LiveSeatsKept db db' := by
  unfold saveSection at h
  obtain ⟨db₁, hseats, hstore⟩ := bind_eq_ok.mp h
  obtain ⟨hsections, hothers, hkept⟩ := writeSeats_frame hseats
  rw [storeSection_ok_iff (by rwa [hsections])] at hstore
  obtain ⟨stored, hstored, rfl⟩ := hstore
  refine ⟨⟨stored, hstored, by rw [hsections]⟩, fun t ht => ?_, hkept⟩
  obtain ⟨hrow', hseats', hlive, hsold⟩ := hothers t ht
  refine ⟨?_, hseats', hlive, hsold⟩
  rw [← hrow']
  dsimp only
  rw [Table.get?_update]
  cases hget : db₁.sections.get? t with
  | none => rfl
  | some s =>
    rw [Option.map_some, if_neg]
    exact fun hid => ht ((Table.get?_key hget).symm.trans (beq_iff_eq.mp hid))

/-! ### The same save on another database -/

/-- What a save reads of its section, and what it is compared by: the row, what the seats are, and
    whether live tickets or order lines are on them. -/
structure SectionAlike (db₁ db₂ : Db) (section_ : Nat) : Prop where
  row : db₁.sections.get? section_ = db₂.sections.get? section_
  seats : (seatsOf db₁ section_).map Seat.draft = (seatsOf db₂ section_).map Seat.draft
  live : LiveOn db₁ [section_] ↔ LiveOn db₂ [section_]
  sold : SoldOn db₁ [section_] ↔ SoldOn db₂ [section_]

variable {db₁ db₂ db₁' db₂' : Db}

/-- A section that was left alone is as it was. -/
theorem SectionUntouched.alike {section_ : Nat} (h : SectionUntouched db db' section_) :
    SectionAlike db db' section_ :=
  ⟨h.row.symm, by rw [h.seats], h.live.symm, h.sold.symm⟩

/-- Whether the roster is kept depends on the seats of the section only. -/
theorem rosterKept_congr {section_ : Nat}
    (h : (seatsOf db₁ section_).map Seat.draft = (seatsOf db₂ section_).map Seat.draft) :
    rosterKept db₁ section_ p removed = rosterKept db₂ section_ p removed := by
  have hidentities (db : Db) : (seatsOf db section_).map Seat.identity
      = ((seatsOf db section_).map Seat.draft).map SeatDraft.identity := by
    rw [List.map_map]
    rfl
  have hsame (db : Db) (l : List SeatIdentity) : sameIdentities l (seatsOf db section_)
      = ((l.all fun i => ((seatsOf db section_).map Seat.identity).any fun s => s == i) &&
        ((seatsOf db section_).map Seat.identity).all fun s => l.any fun i => i == s) := by
    unfold sameIdentities
    rw [List.all_map]
    simp only [List.any_map]
    rfl
  unfold rosterKept
  rw [hsame, hsame, hidentities, hidentities, h]

/-- Whether a save goes through is read off its section. -/
theorem SaveGoes.congr (h : SectionAlike db₁ db₂ row.id)
    (hgoes : SaveGoes cols db₁ row.id p removed accessible) :
    SaveGoes cols db₂ row.id p removed accessible where
  placed := hgoes.placed
  moved hkept := hgoes.moved (by rwa [rosterKept_congr h.seats])
  regenerated hkept := by
    obtain ⟨hlive, hsold, hfits⟩ := hgoes.regenerated (by rwa [rosterKept_congr h.seats])
    exact ⟨mt h.live.mpr hlive, mt h.sold.mpr hsold, hfits⟩
  stored := hgoes.stored

/-- The seats that are written, as they are moved or made. -/
theorem writeSeats_drafts {drafts : List (SeatDraft F)}
    (hdrafts : buildSeats py.toFloats p (saveCounts p) removed accessible = .ok drafts)
    (h : writeSeats cols db ⟨row, p⟩ removed accessible = .ok db') :
    (rosterKept db row.id p removed = true ∧ ∃ stored, drafts.mapM (storeXy cols) = .ok stored ∧
      seatsOf db' row.id = (seatsOf db row.id).map (reposition stored)) ∨
    (rosterKept db row.id p removed = false ∧ ∃ stored,
      drafts.mapM (storeSeat cols) = .ok stored ∧
      (seatsOf db' row.id).map Seat.draft = stored) := by
  -- In a section without seats the rows are the drafts, in order.
  have hfill {db : Db} (hnone : seatsOf db row.id = [])
      (h : fillSeats cols db ⟨row, p⟩ (saveCounts p) removed accessible = .ok db') :
      ∃ stored, drafts.mapM (storeSeat cols) = .ok stored ∧
        (seatsOf db' row.id).map Seat.draft = stored := by
    unfold fillSeats bulkCreateSeats at h
    simp only [bind_eq_ok, raised_eq_ok] at h
    obtain ⟨drafts', hdrafts', stored, hstored, h⟩ := h
    cases hdrafts.symm.trans hdrafts'
    split_ifs at h
    cases h
    exact ⟨stored, hstored, insertMany_drafts hnone⟩
  rw [writeSeats_eq hdrafts] at h
  split_ifs at h with hkept
  -- Moved in place.
  · obtain ⟨stored, hstored, hmoved⟩ := bind_eq_ok.mp h
    cases hmoved
    exact .inl ⟨hkept, stored, hstored, seatsOf_update (reposition_section stored)⟩
  · refine .inr ⟨Bool.eq_false_iff.mpr hkept, ?_⟩
    -- Made anew, after those that were there are deleted.
    rw [generateSeats_replace] at h
    split_ifs at h with hnone hlive
    · exact hfill hnone h
    · cases hdelete : deleteSeats db ((seatsOf db row.id).map (·.id)) with
      | error e =>
        rw [hdelete] at h
        cases h
      | ok db₁ =>
        rw [hdelete] at h
        exact hfill (seatsOf_deleteSeats hdelete) h

/-- Seats that look alike are put in the same place. -/
theorem reposition_draft_congr {drafts : List SeatDraft} {x y : Seat} (h : x.draft = y.draft) :
    (reposition drafts x).draft = (reposition drafts y).draft := by
  have hidentity : x.identity = y.identity := congrArg SeatDraft.identity h
  have hrow : x.rowLabel = y.rowLabel := congrArg SeatDraft.rowLabel h
  have hnumber : x.number = y.number := congrArg SeatDraft.number h
  unfold reposition
  rw [hidentity]
  cases (drafts.filter fun d => d.identity == y.identity).getLast? with
  | none => exact h
  | some d =>
    unfold Seat.draft
    dsimp only
    rw [hrow, hnumber]

/-- Seats that look alike look alike after they were moved. -/
theorem map_reposition_congr {stored : List SeatDraft} : ∀ {l₁ l₂ : List Seat},
    l₁.map Seat.draft = l₂.map Seat.draft →
      (l₁.map (reposition stored)).map Seat.draft = (l₂.map (reposition stored)).map Seat.draft
  | [], [], _ => rfl
  | [], _ :: _, h => by cases h
  | _ :: _, [], h => by cases h
  | x :: l₁, y :: l₂, h => by
    obtain ⟨hdraft, hrest⟩ := List.cons_eq_cons.mp h
    simp only [List.map_cons]
    rw [reposition_draft_congr hdraft, map_reposition_congr hrest]

/-- **The same save** on databases that agree on its section leaves the same row and the same
    seats. -/
theorem saveSection_alike (h : SectionAlike db₁ db₂ row.id)
    (hrow : (db₁.sections.get? row.id).isSome)
    (h₁ : saveSection cols db₁ ⟨row, p⟩ removed accessible = .ok db₁')
    (h₂ : saveSection cols db₂ ⟨row, p⟩ removed accessible = .ok db₂') :
    db₁'.sections.get? row.id = db₂'.sections.get? row.id ∧
      (seatsOf db₁' row.id).map Seat.draft = (seatsOf db₂' row.id).map Seat.draft := by
  have hrow₂ : (db₂.sections.get? row.id).isSome := by rwa [← h.row]
  constructor
  -- The parameters that are stored do not depend on the database.
  · obtain ⟨⟨stored₁, hstored₁, hdb₁⟩, -⟩ := saveSection_effect hrow h₁
    obtain ⟨⟨stored₂, hstored₂, hdb₂⟩, -⟩ := saveSection_effect hrow₂ h₂
    cases hstored₁.symm.trans hstored₂
    rw [hdb₁, hdb₂, Table.get?_update, Table.get?_update, h.row]
  · unfold saveSection at h₁ h₂
    obtain ⟨mid₁, hseats₁, hstore₁⟩ := bind_eq_ok.mp h₁
    obtain ⟨mid₂, hseats₂, hstore₂⟩ := bind_eq_ok.mp h₂
    rw [storeSection_ok_iff (by rwa [(writeSeats_frame hseats₁).1])] at hstore₁
    rw [storeSection_ok_iff (by rwa [(writeSeats_frame hseats₂).1])] at hstore₂
    obtain ⟨-, -, rfl⟩ := hstore₁
    obtain ⟨-, -, rfl⟩ := hstore₂
    obtain ⟨drafts, hdrafts⟩ := (@buildSeats_ok_iff _ _ _ _ _ accessible).mpr
      (writeSeats_ok_iff.mp ⟨mid₁, hseats₁⟩).1
    show (seatsOf mid₁ row.id).map Seat.draft = (seatsOf mid₂ row.id).map Seat.draft
    have hsame := @rosterKept_congr _ p removed db₁ db₂ row.id h.seats
    -- Both saves move the seats or both make them anew, by the seats that were there.
    rcases writeSeats_drafts hdrafts hseats₁ with
      ⟨hkept₁, stored₁, hstored₁, hmoved₁⟩ | ⟨hkept₁, stored₁, hstored₁, hmade₁⟩ <;>
      rcases writeSeats_drafts hdrafts hseats₂ with
        ⟨hkept₂, stored₂, hstored₂, hmoved₂⟩ | ⟨hkept₂, stored₂, hstored₂, hmade₂⟩
    · cases hstored₁.symm.trans hstored₂
      rw [hmoved₁, hmoved₂]
      exact map_reposition_congr h.seats
    · cases (hkept₁.symm.trans hsame).trans hkept₂
    · cases (hkept₁.symm.trans hsame).trans hkept₂
    · cases hstored₁.symm.trans hstored₂
      rw [hmade₁, hmade₂]

end Outcome

end OnFloats

end BoxOffice

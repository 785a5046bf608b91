import BoxOffice.Dashboard.EditorPage
import BoxOffice.Venues.Written

namespace BoxOffice

open Relational

/-!
# Dashboard — saving an untouched section

The editor is opened and saved at once.  `Editable` are the parameters that come back from the
page as they were, and `Generated` says that the stored seats are those that the stored
parameters ask for.

* `saveSection_generated` — every save leaves a section with the seats of its parameters;
* `saveSection_untouched` — the save of an untouched section goes through and keeps it exactly
  when the section is editable and generated.
-/

/-- The stored seats of the section are the seats its stored parameters ask for. -/
def Generated (trig : Trig) (db : Db) (s : Section) : Prop :=
  StoredAs db s.id (prospectiveSeats trig s s.params.removedSeats s.params.accessibleSeats)

/-- The parameters come back from the page as they were. -/
structure SectionParams.Editable (p : SectionParams) : Prop where
  inRange : p.InRange
  removed : ∀ i ∈ p.removedSeats, PlainIdentity i
  accessible : ∀ i ∈ p.accessibleSeats, PlainIdentity i

/-- The same parameters, with the override lists compared as sets. -/
structure SectionParams.Same (p q : SectionParams) : Prop where
  layout : { p with removedSeats := [], accessibleSeats := [] }
    = { q with removedSeats := [], accessibleSeats := [] }
  removed : ∀ i, i ∈ p.removedSeats ↔ i ∈ q.removedSeats
  accessible : ∀ i, i ∈ p.accessibleSeats ↔ i ∈ q.accessibleSeats

/-- The section has its parameters and its seats, keys apart, as before. -/
def Kept (db db' : Db) (s : Section) : Prop :=
  (∃ s', db'.sections.get? s.id = some s' ∧ s'.params.Same s.params) ∧
    ((seatsOf db' s.id).map Seat.draft).Perm ((seatsOf db s.id).map Seat.draft)

/-! ### One save -/

section Step

variable {trig : Trig} {db db' : Db} {section_ s : Section} {removed accessible : List SeatIdentity}

/-- Sorting keeps the identities. -/
theorem mem_sortedIdentities {ids : List SeatIdentity} {i : SeatIdentity} :
    i ∈ sortedIdentities ids ↔ i ∈ ids := by
  unfold sortedIdentities
  rw [List.mem_insertionSort, List.mem_dedup]

/-- Whichever way the seats are written, they are the seats of the parameters. -/
theorem writeSeats_storedAs (h : writeSeats trig db section_ removed accessible = .ok db') :
    StoredAs db' section_.id (prospectiveSeats trig section_ removed accessible) := by
  unfold writeSeats at h
  dsimp only at h
  split at h
  · exact generateSeats_storedAs h
  · exact repositionSeats_storedAs h

/-- Writing the seats of a section leaves those of the others. -/
theorem writeSeats_frame (h : writeSeats trig db section_ removed accessible = .ok db') {t : Nat}
    (ht : t ≠ section_.id) : seatsOf db' t = seatsOf db t := by
  unfold writeSeats at h
  dsimp only at h
  split at h
  · exact generateSeats_frame h ht
  · exact repositionSeats_frame h ht

/-- Writing seats writes no section. -/
theorem writeSeats_sections (h : writeSeats trig db section_ removed accessible = .ok db') :
    db'.sections = db.sections := by
  unfold writeSeats at h
  dsimp only at h
  split at h
  · rcases generateSeats_ok h with ⟨-, seats, rfl⟩ | ⟨-, db₁, seats, hd, rfl⟩
    · rfl
    · obtain ⟨-, rfl⟩ := deleteSeats_ok hd
      rfl
  · obtain ⟨seats, rfl⟩ := repositionSeats_ok h
    rfl

/-- The stored section after its parameters are stored. -/
theorem storeSection_get? (h : storeSection db section_ = .ok db') :
    ∃ s, db.sections.get? section_.id = some s ∧
      db'.sections.get? section_.id = some { s with params := section_.params } := by
  unfold storeSection at h
  cases hs : db.sections.get? section_.id with
  | none => rw [hs] at h; cases h
  | some s =>
    rw [hs] at h
    cases h
    refine ⟨s, rfl, ?_⟩
    have hid : (s.id == section_.id) = true := beq_iff_eq.mpr (Table.get?_key hs)
    rw [Table.get?_update, hs, Option.map_some, if_pos hid]

/-- Storing a section leaves the others and the seats. -/
theorem storeSection_frame (h : storeSection db section_ = .ok db') {t : Nat}
    (ht : t ≠ section_.id) :
    db'.sections.get? t = db.sections.get? t ∧ db'.seats = db.seats := by
  unfold storeSection at h
  cases hs : db.sections.get? section_.id with
  | none => rw [hs] at h; cases h
  | some s =>
    rw [hs] at h
    cases h
    refine ⟨?_, rfl⟩
    rw [Table.get?_update]
    cases hx : db.sections.get? t with
    | none => rfl
    | some x =>
      have hid : x.id ≠ section_.id := fun hid => ht ((Table.get?_key hx).symm.trans hid)
      rw [Option.map_some, if_neg (by simpa using hid)]

/-- The parameters that a save stores. -/
def storedParams (p : SectionParams) (removed accessible : List SeatIdentity) : SectionParams :=
  { p with
    removedSeats := sortedIdentities removed
    accessibleSeats := sortedIdentities accessible }

/-- The generator takes the overrides as arguments, not from the parameters. -/
theorem buildSeats_storedParams {p : SectionParams} {rowCounts : List Nat}
    {positions : Nat → List Nat} {removedIds accessibleIds : List SeatIdentity} :
    buildSeats trig (storedParams p removed accessible) rowCounts positions removedIds accessibleIds
      = buildSeats trig p rowCounts positions removedIds accessibleIds := rfl

/-- **A save that goes through** stores the parameters and the seats they ask for. -/
theorem saveSection_stores (h : saveSection trig db section_ removed accessible = .ok db') :
    ∃ s, db.sections.get? section_.id = some s ∧
      db'.sections.get? section_.id
        = some { s with params := storedParams section_.params removed accessible } ∧
      StoredAs db' section_.id (prospectiveSeats trig section_ removed accessible) := by
  unfold saveSection at h
  cases hw : writeSeats trig db section_ removed accessible with
  | error e => rw [hw] at h; cases h
  | ok db₁ =>
    rw [hw] at h
    obtain ⟨s, hs, hs'⟩ := storeSection_get? h
    rw [writeSeats_sections hw] at hs
    have hseats : db'.seats = db₁.seats := by
      obtain ⟨-, sections, rfl⟩ := storeSection_ok h
      rfl
    refine ⟨s, hs, hs', ?_⟩
    have hstored := writeSeats_storedAs hw
    unfold StoredAs seatsOf at hstored ⊢
    rwa [hseats]

/-- Another section keeps its row and its seats. -/
theorem saveSection_frame (h : saveSection trig db section_ removed accessible = .ok db') {t : Nat}
    (ht : t ≠ section_.id) :
    db'.sections.get? t = db.sections.get? t ∧ seatsOf db' t = seatsOf db t := by
  unfold saveSection at h
  cases hw : writeSeats trig db section_ removed accessible with
  | error e => rw [hw] at h; cases h
  | ok db₁ =>
    rw [hw] at h
    obtain ⟨hrow, hseats⟩ := storeSection_frame h ht
    rw [writeSeats_sections hw] at hrow
    refine ⟨hrow, ?_⟩
    rw [← writeSeats_frame hw ht]
    unfold seatsOf
    rw [hseats]

/-- **Every save** leaves the section generated. -/
theorem saveSection_generated (h : saveSection trig db section_ removed accessible = .ok db') :
    ∃ s', db'.sections.get? section_.id = some s' ∧ Generated trig db' s' := by
  obtain ⟨s, -, hs', hstored⟩ := saveSection_stores h
  refine ⟨_, hs', ?_⟩
  have hid : s.id = section_.id := Table.get?_key hs'
  have hsame : prospectiveSeats trig
      { s with params := storedParams section_.params removed accessible }
      (sortedIdentities removed) (sortedIdentities accessible)
      = prospectiveSeats trig section_ removed accessible := by
    unfold prospectiveSeats
    dsimp only
    rw [buildSeats_storedParams]
    exact buildSeats_congr (fun _ => mem_sortedIdentities) fun _ => mem_sortedIdentities
  show StoredAs db' s.id _
  rw [hid]
  exact hsame.symm ▸ hstored

/-! ### An untouched section -/

/-- What the page sends back of a list of identities. -/
def returnedPairs (ids : List SeatIdentity) : List SeatIdentity :=
  cleanIdentityPairs ((keySet ids).map splitKey)

/-- The save of a section that nobody edited. -/
def saveUntouched (trig : Trig) (db : Db) (s : Section) : Except ServiceError Db :=
  saveSection trig db { s with params := returnedParams s.params }
    (returnedPairs s.params.removedSeats) (returnedPairs s.params.accessibleSeats)

/-- Plain identities come back from the page as they were sent. -/
theorem mem_returnedPairs_of_plain {ids : List SeatIdentity} (h : ∀ i ∈ ids, PlainIdentity i)
    (i : SeatIdentity) : i ∈ returnedPairs ids ↔ i ∈ ids :=
  mem_cleanIdentityPairs.trans ⟨And.left, fun hi => ⟨hi, h i hi⟩⟩

/-- What comes back is what was stored, exactly when it is editable. -/
theorem storedParams_same_iff {p : SectionParams} :
    (storedParams (returnedParams p) (returnedPairs p.removedSeats)
      (returnedPairs p.accessibleSeats)).Same p ↔ p.Editable := by
  have hlayout : { returnedParams p with removedSeats := [], accessibleSeats := [] }
      = { p with removedSeats := [], accessibleSeats := [] } ↔ returnedParams p = p := by
    obtain ⟨⟩ := p
    simp only [returnedParams, SectionParams.mk.injEq, and_true]
  have hplain : ∀ ids : List SeatIdentity,
      (∀ i, i ∈ sortedIdentities (returnedPairs ids) ↔ i ∈ ids) ↔ ∀ i ∈ ids, PlainIdentity i := by
    intro ids
    constructor
    · intro h i hi
      exact (mem_cleanIdentityPairs.mp (mem_sortedIdentities.mp ((h i).mpr hi))).2
    · exact fun h i => mem_sortedIdentities.trans (mem_returnedPairs_of_plain h i)
  constructor
  · rintro ⟨hl, hr, ha⟩
    exact ⟨returnedParams_eq_self_iff.mp (hlayout.mp hl), (hplain _).mp hr, (hplain _).mp ha⟩
  · rintro ⟨hrange, hr, ha⟩
    exact ⟨hlayout.mpr (returnedParams_eq_self_iff.mpr hrange), (hplain _).mpr hr,
      (hplain _).mpr ha⟩

/-- The seats an editable section asks for are the same on the way back. -/
theorem prospectiveSeats_returned {s : Section} (h : s.params.Editable) :
    prospectiveSeats trig { s with params := returnedParams s.params }
        (returnedPairs s.params.removedSeats) (returnedPairs s.params.accessibleSeats)
      = prospectiveSeats trig s s.params.removedSeats s.params.accessibleSeats := by
  rw [returnedParams_eq_self_iff.mpr h.inRange]
  unfold prospectiveSeats
  exact buildSeats_congr (mem_returnedPairs_of_plain h.removed)
    (mem_returnedPairs_of_plain h.accessible)

/-- **An untouched save** goes through and keeps the section exactly when the section is editable
    and its seats are those of its parameters. -/
theorem saveSection_untouched (hs : db.sections.get? s.id = some s) :
    (∃ db', saveUntouched trig db s = .ok db' ∧ Kept db db' s) ↔
      s.params.Editable ∧ Generated trig db s := by
  constructor
  -- What was stored is what the page has returned, so both conditions can be read off it.
  · rintro ⟨db', hsave, ⟨s', hs', hsame⟩, hperm⟩
    obtain ⟨x, -, hx', hstored⟩ := saveSection_stores hsave
    rw [hs'] at hx'
    have hparams : s'.params = storedParams (returnedParams s.params)
        (returnedPairs s.params.removedSeats) (returnedPairs s.params.accessibleSeats) :=
      congrArg Section.params (Option.some.inj hx')
    rw [hparams] at hsame
    have heditable := storedParams_same_iff.mp hsame
    rw [prospectiveSeats_returned heditable] at hstored
    refine ⟨heditable, fun d => (hstored d).trans ?_⟩
    rw [← List.mem_map, ← List.mem_map]
    exact hperm.mem_iff
  · rintro ⟨heditable, hgenerated⟩
    -- The seats are there already: nothing is written to them.
    have hwrite : writeSeats trig db { s with params := returnedParams s.params }
        (returnedPairs s.params.removedSeats) (returnedPairs s.params.accessibleSeats)
          = .ok db := by
      unfold writeSeats
      dsimp only
      rw [repositionSeats_eq_self (by
        have := (@prospectiveSeats_returned trig) heditable
        unfold prospectiveSeats at this
        rw [this]
        exact hgenerated)]
    obtain ⟨db', hstore⟩ : ∃ db', saveUntouched trig db s = .ok db' := by
      unfold saveUntouched saveSection
      rw [hwrite]
      unfold storeSection
      dsimp only
      rw [hs]
      exact ⟨_, rfl⟩
    refine ⟨db', hstore, ?_, ?_⟩
    · obtain ⟨x, hx, hx', -⟩ := saveSection_stores hstore
      exact ⟨_, hx', storedParams_same_iff.mpr heditable⟩
    · -- The rows of the seats are the same rows.
      have hseats : db'.seats = db.seats := by
        unfold saveUntouched saveSection at hstore
        rw [hwrite] at hstore
        obtain ⟨-, sections, rfl⟩ := storeSection_ok hstore
        rfl
      unfold seatsOf
      rw [hseats]

end Step

end BoxOffice

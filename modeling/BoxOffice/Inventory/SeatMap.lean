import BoxOffice.System
import Mathlib.Data.List.Dedup

namespace BoxOffice

open Relational Transition

/-!
# Inventory — the seat map

`reserved_seat_states`, the bulk query behind the map, beside the check `set_reserved_hold` makes
of the seats it is asked for.

* the map looks at holds of the performance, the check at holds of every performance, so the two
  disagree about a seat that another session holds for another performance;
* `map_agrees` says that they disagree about a request exactly then.
-/

/-- What the map shows of a seat. -/
inductive SeatState
  | blocked | unavailable | heldByYou | available
deriving Repr, DecidableEq

/-- `state not in NOT_SELECTABLE_STATES`. -/
def SeatState.selectable : SeatState → Bool
  | .blocked | .unavailable => false
  | .heldByYou | .available => true

/-- The active holds of a performance that have the seat. -/
def activeSeatHolds (db : Db) (now : Time) (performance seat : Nat) : List Hold :=
  db.holds.rows.filter fun h =>
    h.performance == performance && decide (h.Active now) && h.holdSeats.any (·.seat == seat)

/-- `reserved_seat_states`: the entry of one seat. -/
def reservedSeatState (db : Db) (now : Time) (performance : Nat) (sessionKey : Option String)
    (seat : Nat) : SeatState :=
  let holds := activeSeatHolds db now performance seat
  let heldByOthers := holds.any fun h => some h.sessionKey != sessionKey
  let heldByYou := holds.any fun h => some h.sessionKey == sessionKey
  if isBlocked db performance seat then .blocked
  else if isTicketed db performance seat || heldByOthers then .unavailable
  else if heldByYou then .heldByYou
  else .available

/-- `reserved_seat_states`: every seat of the performance with its entry. -/
def reservedSeatStates (db : Db) (now : Time) (performance : Performance)
    (sessionKey : Option String) : List (Nat × SeatState) :=
  (performanceSeats db performance).map fun s =>
    (s.id, reservedSeatState db now performance.id sessionKey s.id)

/-- Is the seat in an active hold of another session for the performance? -/
def heldHereByOthers (db : Db) (now : Time) (performance : Nat) (sessionKey : String)
    (seat : Nat) : Bool :=
  (activeSeatHolds db now performance seat).any fun h => h.sessionKey != sessionKey

/-- Is the seat in an active hold of another session for another performance? -/
def heldElsewhere (db : Db) (now : Time) (performance : Nat) (sessionKey : String)
    (seat : Nat) : Bool :=
  db.holds.rows.any fun h =>
    h.performance != performance && decide (h.Active now) && h.sessionKey != sessionKey
      && h.holdSeats.any (·.seat == seat)

/-- The seat is free for the session, as far as the rows of the performance go. -/
def freeHere (db : Db) (now : Time) (performance : Nat) (sessionKey : String) (seat : Nat) : Bool :=
  !isBlocked db performance seat && !isTicketed db performance seat
    && !heldHereByOthers db now performance sessionKey seat

section Map

variable {db db' : Db} {now : Time} {performance : Performance} {sessionKey : String}
  {seatIds : List Nat}

/-- **The map.** A seat is selectable when the rows of the performance leave it free. -/
theorem selectable_eq_freeHere (db : Db) (now : Time) (performance : Nat) (sessionKey : String)
    (seat : Nat) :
    (reservedSeatState db now performance (some sessionKey) seat).selectable
      = freeHere db now performance sessionKey seat := by
  unfold reservedSeatState freeHere heldHereByOthers
  have hother : ∀ l : List Hold, (l.any fun h => some h.sessionKey != some sessionKey)
      = l.any fun h => h.sessionKey != sessionKey := fun l => rfl
  dsimp only
  rw [hother]
  cases isBlocked db performance seat <;> cases isTicketed db performance seat <;>
    cases (activeSeatHolds db now performance seat).any fun h => h.sessionKey != sessionKey
  case false.false.false =>
    show (if _ then SeatState.heldByYou else SeatState.available).selectable = true
    split_ifs <;> rfl
  all_goals rfl

/-- The map reads the holds, tickets and blocks of its own performance only. -/
theorem reservedSeatState_congr {p : Nat}
    (hholds : db'.holds.rows.filter (·.performance == p)
      = db.holds.rows.filter (·.performance == p))
    (htickets : db'.tickets.rows.filter (·.performance == p)
      = db.tickets.rows.filter (·.performance == p))
    (hblocks : db'.seatBlocks.rows.filter (·.performance == p)
      = db.seatBlocks.rows.filter (·.performance == p)) (s : Option String) (seat : Nat) :
    reservedSeatState db' now p s seat = reservedSeatState db now p s seat := by
  have hh : ∀ d : Db, activeSeatHolds d now p seat
      = (d.holds.rows.filter (·.performance == p)).filter
          fun h => decide (h.Active now) && h.holdSeats.any (·.seat == seat) := by
    intro d
    unfold activeSeatHolds
    rw [List.filter_filter]
    exact List.filter_congr fun h _ => by rw [Bool.and_assoc, Bool.and_comm]
  have ht : ∀ d : Db, isTicketed d p seat
      = (d.tickets.rows.filter (·.performance == p)).any
          fun t => t.seat == some seat && t.status != .void := by
    intro d
    rw [List.any_filter]
    simp only [isTicketed, Bool.and_assoc]
  have hb : ∀ d : Db, isBlocked d p seat
      = (d.seatBlocks.rows.filter (·.performance == p)).any (·.seat == seat) := by
    intro d
    rw [List.any_filter]
    rfl
  unfold reservedSeatState
  rw [hh, hh, ht, ht, hb, hb, hholds, htickets, hblocks]

/-- The check of the hold is the map's and one more. -/
theorem isHeldByOthers_eq (db : Db) (now : Time) (performance : Nat) (sessionKey : String)
    (seat : Nat) :
    isHeldByOthers db now sessionKey seat
      = (heldHereByOthers db now performance sessionKey seat
        || heldElsewhere db now performance sessionKey seat) := by
  unfold isHeldByOthers heldHereByOthers heldElsewhere activeSeatHolds
  rw [List.any_filter, Bool.eq_iff_iff, Bool.or_eq_true]
  simp only [List.any_eq_true, Bool.and_eq_true, beq_iff_eq, bne_iff_ne, decide_eq_true_eq]
  constructor
  · rintro ⟨h, hmem, ⟨hactive, hkey⟩, hseat⟩
    by_cases hp : h.performance = performance
    · exact .inl ⟨h, hmem, ⟨⟨hp, hactive⟩, hseat⟩, hkey⟩
    · exact .inr ⟨h, hmem, ⟨⟨hp, hactive⟩, hkey⟩, hseat⟩
  · rintro (⟨h, hmem, ⟨⟨-, hactive⟩, hseat⟩, hkey⟩ | ⟨h, hmem, ⟨⟨-, hactive⟩, hkey⟩, hseat⟩)
    · exact ⟨h, hmem, ⟨hactive, hkey⟩, hseat⟩
    · exact ⟨h, hmem, ⟨hactive, hkey⟩, hseat⟩

/-- What the caller asks for: seats of the performance's chart, each with a price. -/
structure Offered (db : Db) (performance : Performance) (seatIds : List Nat) : Prop where
  nonempty : seatIds ≠ []
  onChart : ∀ i ∈ seatIds, i ∈ (performanceSeats db performance).map (·.id)
  priced : ∀ s ∈ performanceSeats db performance, s.id ∈ seatIds →
    (resolveReservedPrices db performance s).isSome

/-- The seats of a performance are those of its organization on its chart. -/
theorem mem_performanceSeats {s : Seat} :
    s ∈ performanceSeats db performance ↔
      s ∈ db.seats.rows ∧ s.organization = performance.organization ∧ (seatChart db s).isSome ∧
        seatChart db s = getSeatingChart db performance := by
  unfold performanceSeats
  cases hc : getSeatingChart db performance with
  | none =>
    refine ⟨fun h => (by cases h), ?_⟩
    rintro ⟨-, -, hsome, hchart⟩
    rw [hchart] at hsome
    cases hsome
  | some chart =>
    simp only [List.mem_filter, Bool.and_eq_true, beq_iff_eq]
    constructor
    · rintro ⟨hs, horg, hchart⟩
      exact ⟨hs, horg, by rw [hchart]; rfl, hchart⟩
    · rintro ⟨hs, horg, -, hchart⟩
      exact ⟨hs, horg, hchart⟩

/-- Every seat that was asked for is found. -/
theorem Offered.length_requestedSeats (h : Offered db performance seatIds) :
    (requestedSeats db performance.organization performance seatIds.dedup).length
      = seatIds.dedup.length := by
  rw [← List.length_map (f := Seat.id)]
  refine List.Perm.length_eq ((List.perm_ext_iff_of_nodup (requestedSeats_nodup _)
    (List.nodup_dedup _)).mpr fun i => ?_)
  rw [List.mem_map]
  constructor
  · rintro ⟨s, hs, rfl⟩
    exact (mem_requestedSeats.mp hs).2.2.2.2
  · intro hi
    obtain ⟨s, hs, rfl⟩ := List.mem_map.mp (h.onChart i (List.mem_dedup.mp hi))
    obtain ⟨hmem, horg, hsome, hchart⟩ := mem_performanceSeats.mp hs
    exact ⟨s, mem_requestedSeats.mpr ⟨hmem, horg, hsome, hchart, hi⟩, rfl⟩

/-- **`set_reserved_hold`, when it succeeds.** Seats of the chart with a price are held exactly
    when each is free here and in no hold of another session elsewhere. -/
theorem setReservedHold_succeeds_iff (h : Offered db performance seatIds) :
    (∃ r, setReservedHold db now performance.organization performance sessionKey seatIds = .ok r) ↔
      ∀ i ∈ seatIds, freeHere db now performance.id sessionKey i = true ∧
        heldElsewhere db now performance.id sessionKey i = false := by
  have hnil : seatIds.dedup ≠ [] := by
    rw [Ne, List.dedup_eq_nil]
    exact h.nonempty
  have hpriced : ¬∃ s ∈ requestedSeats db performance.organization performance seatIds.dedup,
      resolveReservedPrices db performance s = none := by
    rintro ⟨s, hs, hnone⟩
    obtain ⟨hmem, horg, hsome, hchart, hi⟩ := mem_requestedSeats.mp hs
    have := h.priced s (mem_performanceSeats.mpr ⟨hmem, horg, hsome, hchart⟩) (List.mem_dedup.mp hi)
    rw [hnone] at this
    cases this
  -- A seat is unavailable when it is not free here or in somebody's cart elsewhere.
  have hfree : ∀ i, (isTicketed db performance.id i || isHeldByOthers db now sessionKey i
      || isBlocked db performance.id i) = false ↔
      freeHere db now performance.id sessionKey i = true ∧
        heldElsewhere db now performance.id sessionKey i = false := by
    intro i
    rw [isHeldByOthers_eq db now performance.id]
    unfold freeHere
    cases isTicketed db performance.id i <;> cases isBlocked db performance.id i <;>
      cases heldHereByOthers db now performance.id sessionKey i <;>
      cases heldElsewhere db now performance.id sessionKey i <;> decide
  unfold setReservedHold
  dsimp only
  rw [if_neg hnil, if_neg (not_not.mpr h.length_requestedSeats), if_neg hpriced]
  split_ifs with hun
  · constructor
    · rintro ⟨r, hr⟩
      cases hr
    · intro hall
      refine absurd (List.filter_eq_nil_iff.mpr fun i hi => ?_) hun
      rw [(hfree i).mpr (hall i (List.mem_dedup.mp hi))]
      exact Bool.false_ne_true
  · rw [not_not] at hun
    refine ⟨fun _ i hi => (hfree i).mp ?_, fun _ => ⟨_, rfl⟩⟩
    exact Bool.not_eq_true _ ▸ List.filter_eq_nil_iff.mp hun i (List.mem_dedup.mpr hi)

/-- **The map and the hold.** In every state, for every performance, session and non-empty set of
    priced seats of its chart: the hold succeeds exactly when the map shows all of them
    selectable, if and only if no seat is in an active hold of another session for another
    performance while all of them are free on this one.  What the map shows of a performance
    depends on the holds, tickets and blocks of that performance alone. -/
theorem map_agrees (h : Offered db performance seatIds) :
    (((∃ r, setReservedHold db now performance.organization performance sessionKey seatIds
          = .ok r) ↔
        ∀ i ∈ seatIds,
          (reservedSeatState db now performance.id (some sessionKey) i).selectable = true) ↔
      ((∀ i ∈ seatIds, freeHere db now performance.id sessionKey i = true) →
        ∀ i ∈ seatIds, heldElsewhere db now performance.id sessionKey i = false)) ∧
    ∀ db' : Db,
      db'.holds.rows.filter (·.performance == performance.id)
        = db.holds.rows.filter (·.performance == performance.id) →
      db'.tickets.rows.filter (·.performance == performance.id)
        = db.tickets.rows.filter (·.performance == performance.id) →
      db'.seatBlocks.rows.filter (·.performance == performance.id)
        = db.seatBlocks.rows.filter (·.performance == performance.id) →
      ∀ i, reservedSeatState db' now performance.id (some sessionKey) i
        = reservedSeatState db now performance.id (some sessionKey) i := by
  refine ⟨?_, fun db' hholds htickets hblocks i =>
    reservedSeatState_congr hholds htickets hblocks _ i⟩
  rw [setReservedHold_succeeds_iff h]
  simp only [selectable_eq_freeHere]
  constructor
  · exact fun hagree hall i hi => (hagree.mpr hall i hi).2
  · intro helse
    exact ⟨fun hall i hi => (hall i hi).1, fun hall i hi => ⟨hall i hi, helse hall i hi⟩⟩

end Map

/-! ### Two nights on one chart -/

/-- The session `b` holds the seat for the first night. -/
def firstNightCart : State := exec (.setReservedHold 1 1 "b" [1]) ⟨twoNights, 0⟩

/-- The second night offers the seat. -/
theorem firstNightCart_offered : Offered firstNightCart.db secondNight [1] where
  nonempty := List.cons_ne_nil _ _
  onChart := by decide
  priced := by decide

/-- Asked by `b` itself, map and hold agree on the second night. -/
theorem map_agrees_secondNight :
    (∃ r, setReservedHold firstNightCart.db 0 1 secondNight "b" [1] = .ok r) ↔
      ∀ i ∈ [1], (reservedSeatState firstNightCart.db 0 2 (some "b") i).selectable = true :=
  (map_agrees firstNightCart_offered).1.mpr (by decide)

/-- The map of the second night shows `c` the seat as available, and the hold is refused. -/
theorem map_lies : ∃ s, Reachable boxOffice s ∧ ∃ performance ∈ s.db.performances.rows,
    Offered s.db performance [1] ∧
    (∀ i ∈ [1], (reservedSeatState s.db s.now performance.id (some "c") i).selectable = true) ∧
    ¬∃ r, setReservedHold s.db s.now performance.organization performance "c" [1] = .ok r := by
  refine ⟨firstNightCart, reachable_exec (.of_init twoNights_fresh) trivial, secondNight,
    by decide, firstNightCart_offered, by decide, ?_⟩
  rw [setReservedHold_succeeds_iff firstNightCart_offered]
  decide

end BoxOffice

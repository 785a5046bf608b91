import BoxOffice.Inventory.Safety
import BoxOffice.Inventory.SeatMap
import BoxOffice.Orders.OnlyPublished
import BoxOffice.Payments.Sales

namespace BoxOffice

open Relational Transition

/-!
# Inventory — what is promised, and what backs it

* `promised` counts the live tickets and the active holds of a resource;
* `Backs` — the performance has the resource: it sells places and they fit its capacity, or it
  sells seats and the seat is one of its chart;
* `promised_origin` — an operation promises something new only by a selection, and a selection
  that goes through `hold_create` is of what the performance has.
-/

/-- The live tickets and the active holds of a resource. -/
def promised (s : State) (r : Resource) : Nat := liveTickets s.db r + heldQty s.db s.now r

/-- The performance has the resource that is promised. -/
inductive Backs (s : State) (p : Performance) : Option Nat → Prop
  | places {a : GAAllocation} : p.seatingMode = .ga → allocationOf s.db p.id = some a →
      a.sold + activeGaHeldQty s.db.holds s.now p.id none ≤ a.capacity → Backs s p none
  | seat {n : Nat} : p.seatingMode = .reserved → n ∈ (performanceSeats s.db p).map (·.id) →
      Backs s p (some n)

/-- Every live ticket and every unexpired hold of the performance is backed by its inventory. -/
structure Backed (s : State) (p : Performance) : Prop where
  tickets : ∀ t ∈ s.db.tickets.rows, t.Live → t.performance = p.id → Backs s p t.seat
  places : ∀ h ∈ s.db.holds.rows, h.Active s.now → h.performance = p.id → h.isGa = true →
    Backs s p none
  seats : ∀ h ∈ s.db.holds.rows, h.Active s.now → h.performance = p.id →
    ∀ n, h.Contains n → Backs s p (some n)

/-- The performance sells what the resource is. -/
inductive Housed (db : Db) (p : Performance) : Option Nat → Prop
  | places : p.seatingMode = .ga → Housed db p none
  | seat {n : Nat} : p.seatingMode = .reserved → n ∈ (performanceSeats db p).map (·.id) →
      Housed db p (some n)

/-- The operation selects the resource. -/
inductive Selects (s : State) : Op → Resource → Prop
  | places {organization performance : Nat} {sessionKey : String} {tier : Nat} {quantity : Int}
      {p : Performance} : findPerformance s.db organization performance = some p →
      Selects s (.setGaHold organization performance sessionKey tier quantity) (p.id, none)
  | seat {organization performance : Nat} {sessionKey : String} {seatIds : List Nat}
      {p : Performance} {seat : Seat} :
      findPerformance s.db organization performance = some p →
      seat ∈ requestedSeats s.db organization p seatIds.dedup →
      Selects s (.setReservedHold organization performance sessionKey seatIds)
        (p.id, some seat.id)

/-- The tables that say what there is to sell. -/
structure HouseEq (db db' : Db) : Prop where
  venues : db'.venues = db.venues
  seatingCharts : db'.seatingCharts = db.seatingCharts
  sections : db'.sections = db.sections
  seats : db'.seats = db.seats
  performances : db'.performances = db.performances

section Promises

variable {s : State} {db db' : Db} {p : Performance} {op : Op} {r : Resource}

/-! ### Counting -/

/-- A resource has live tickets if one of them is for it. -/
theorem liveTickets_pos : 0 < liveTickets db r ↔
    ∃ t ∈ db.tickets.rows, t.Live ∧ t.performance = r.1 ∧ t.seat = r.2 := by
  constructor
  · intro hpos
    by_contra hnone
    push Not at hnone
    refine hpos.ne' (Table.total_eq_zero fun t ht => if_neg ?_)
    rintro ⟨hp, hs, hl⟩
    exact hnone t ht hl hp hs
  · rintro ⟨t, ht, hl, hp, hs⟩
    have hone : ticketWeight r t = 1 := if_pos ⟨hp, hs, hl⟩
    exact (hone ▸ Nat.one_pos).trans_le (Table.le_total ht)

/-- A resource is held if an active hold asks for it. -/
theorem heldQty_pos {now : Time} : 0 < heldQty db now r ↔
    ∃ h ∈ db.holds.rows, h.performance = r.1 ∧ h.Active now ∧ 0 < h.demand r.2 := by
  constructor
  · intro hpos
    by_contra hnone
    push Not at hnone
    refine hpos.ne' (Table.total_eq_zero fun h hh => ?_)
    unfold holdWeight
    split
    · rename_i hc
      exact Nat.le_zero.mp (hnone h hh hc.1 hc.2)
    · rfl
  · rintro ⟨h, hh, hp, ha, hd⟩
    have hw : holdWeight now r h = h.demand r.2 := if_pos ⟨hp, ha⟩
    exact (hw ▸ hd).trans_le (Table.le_total hh)

/-- A hold asks for places if it is for general admission. -/
theorem demand_none_pos {h : Hold} : 0 < h.demand none ↔ h.isGa = true := by
  show 0 < h.gaQuantity ↔ _
  unfold Hold.gaQuantity Hold.isGa
  cases h.ga with
  | none => simp
  | some g => simp [Nat.pos_iff_ne_zero]

/-- A hold asks for a seat if it contains it. -/
theorem demand_some_pos {h : Hold} {n : Nat} : 0 < h.demand (some n) ↔ h.Contains n := by
  show 0 < ((h.holdSeats.map (·.seat)).count n) ↔ _
  rw [List.count_pos_iff, List.mem_map]
  rfl

/-- What the tickets and holds of a performance ask to be backed is what is promised of it. -/
theorem backed_iff : Backed s p ↔ ∀ seat, 0 < promised s (p.id, seat) → Backs s p seat := by
  constructor
  · intro hb seat hpos
    have hone : 0 < liveTickets s.db (p.id, seat) ∨ 0 < heldQty s.db s.now (p.id, seat) := by
      unfold promised at hpos
      omega
    rcases hone with hlive | hheld
    · obtain ⟨t, ht, hl, hp, hseat⟩ := liveTickets_pos.mp hlive
      obtain rfl : t.seat = seat := hseat
      exact hb.tickets t ht hl hp
    · obtain ⟨h, hh, hp, ha, hd⟩ := heldQty_pos.mp hheld
      cases seat with
      | none => exact hb.places h hh ha hp (demand_none_pos.mp hd)
      | some n => exact hb.seats h hh ha hp n (demand_some_pos.mp hd)
  · intro hall
    refine ⟨fun t ht hl hp => hall _ ?_, fun h hh ha hp hga => hall _ ?_,
      fun h hh ha hp n hn => hall _ ?_⟩
    · exact Nat.add_pos_left (liveTickets_pos.mpr ⟨t, ht, hl, hp, rfl⟩) _
    · exact Nat.add_pos_right _ (heldQty_pos.mpr ⟨h, hh, hp, ha, demand_none_pos.mpr hga⟩)
    · exact Nat.add_pos_right _ (heldQty_pos.mpr ⟨h, hh, hp, ha, demand_some_pos.mpr hn⟩)

/-! ### What there is to sell -/

/-- The house is as it was. -/
theorem HouseEq.refl (db : Db) : HouseEq db db := ⟨rfl, rfl, rfl, rfl, rfl⟩

/-- A request that keeps the house commits it so. -/
theorem HouseEq.commit {α : Type} {r : Result α}
    (h : ∀ db' a, r = .ok (db', a) → HouseEq s.db db') : HouseEq s.db (s.commit r).db :=
  commit_rule (p := HouseEq s.db) (.refl s.db) h

/-- Writing only holds keeps the house. -/
theorem OnlyHolds.house (h : OnlyHolds db db') : HouseEq db db' := by
  obtain ⟨holds, rfl⟩ := h
  exact ⟨rfl, rfl, rfl, rfl, rfl⟩

/-- No operation of the shop changes what there is to sell. -/
theorem exec_house (op : Op) (s : State) : HouseEq s.db (exec op s).db := by
  cases op with
  | fulfillHold hold args =>
    simp only [exec]
    refine .commit fun db' order h => ?_
    obtain ⟨_, _, -, -, -, -, rfl⟩ := fulfillHold_ok h
    exact ⟨rfl, rfl, rfl, rfl, rfl⟩
  | fulfillHoldWithPass hold passPurchase buyerEmail buyerName marketingOptIn =>
    simp only [exec]
    refine .commit fun db' order h => ?_
    obtain ⟨_, _, -, -, -, -, -, -, -, _, _, -, -, rfl⟩ := fulfillHoldWithPass_ok h
    exact ⟨rfl, rfl, rfl, rfl, rfl⟩
  | fulfillDonation organization amount campaign args =>
    simp only [exec]
    refine .commit fun db' order h => ?_
    obtain ⟨_, _, -, -, -, rfl⟩ := fulfillDonation_ok h
    exact ⟨rfl, rfl, rfl, rfl, rfl⟩
  | fulfillPassPurchase organization product args =>
    simp only [exec]
    split
    · refine .commit fun db' order h => ?_
      obtain ⟨_, _, -, -, -, -, rfl⟩ := fulfillPassPurchase_ok h
      exact ⟨rfl, rfl, rfl, rfl, rfl⟩
    · exact .refl s.db
  | fulfillCheckoutSession organization session =>
    simp only [exec]
    refine .commit fun db' a h => ?_
    rcases (@fulfillCheckoutSession_ok _ _ _ _ _ a.1 a.2) h with
      ⟨-, target, -, hbody⟩ | ⟨-, rfl, -⟩
    · cases target with
      | hold hold =>
        obtain ⟨_, _, -, -, -, -, rfl⟩ := fulfillHold_ok hbody
        exact ⟨rfl, rfl, rfl, rfl, rfl⟩
      | donation amount campaign =>
        obtain ⟨_, _, -, -, -, rfl⟩ := fulfillDonation_ok hbody
        exact ⟨rfl, rfl, rfl, rfl, rfl⟩
      | pass product =>
        obtain ⟨_, _, -, -, -, -, rfl⟩ := fulfillPassPurchase_ok hbody
        exact ⟨rfl, rfl, rfl, rfl, rfl⟩
    · exact .refl s.db
  | voidOrder order =>
    simp only [exec]
    split
    · rw [voidOrder_fst]; exact ⟨rfl, rfl, rfl, rfl, rfl⟩
    · exact .refl s.db
  | refundOrder order gateway =>
    simp only [exec]
    refine .commit fun db' performed h => ?_
    obtain ⟨o, -, ⟨-, rfl, -⟩ | ⟨-, -, -, provider, refundRef, rfl⟩⟩ := refundOrder_ok h
    · exact .refl s.db
    · rw [refundedDb_eq]; exact ⟨rfl, rfl, rfl, rfl, rfl⟩
  | orderCancel order =>
    simp only [exec]
    split
    · unfold orderCancel
      split_ifs
      · exact .refl s.db
      · rw [undoOrder_eq]; exact ⟨rfl, rfl, rfl, rfl, rfl⟩
    · exact .refl s.db
  -- What is left writes carts, which the house does not look at.
  | _ => exact OnlyHolds.house (exec_carts (by trivial) s)

/-- The chart of a performance depends on the house only. -/
theorem HouseEq.getSeatingChart (h : HouseEq db db') (p : Performance) :
    BoxOffice.getSeatingChart db' p = BoxOffice.getSeatingChart db p := by
  unfold BoxOffice.getSeatingChart
  rw [h.seatingCharts]

/-- So do its seats. -/
theorem HouseEq.performanceSeats (h : HouseEq db db') (p : Performance) :
    BoxOffice.performanceSeats db' p = BoxOffice.performanceSeats db p := by
  unfold BoxOffice.performanceSeats seatChart
  rw [h.getSeatingChart, h.seats, h.sections]

/-- What is housed stays housed. -/
theorem HouseEq.housed (h : HouseEq db db') {seat : Option Nat} (hh : Housed db p seat) :
    Housed db' p seat := by
  cases hh with
  | places hm => exact .places hm
  | seat hm hn => exact .seat hm (by rw [h.performanceSeats]; exact hn)

/-! ### Promises come from selections -/

/-- A ledger move sells only what was sold or held. -/
theorem move_sold_pos {R : Type} {l l' : Ledger R} {a : Ledger.Action} (h : Ledger.Move l a l')
    {r : R} (hpos : 0 < l'.sold r) : 0 < l.sold r ∨ 0 < l.held r := by
  cases h with
  | release _ hsold _ => exact .inl (hpos.trans_le (hsold r))
  | reserve _ hsold _ => exact .inl (by rwa [hsold] at hpos)
  | sell demand _ hheld hsold =>
    have hs := hsold r
    have hh := hheld r
    omega

/-- A hold occupies what it did before, or the operation selects it. -/
theorem held_origin {h : Hold} (hh : h ∈ (exec op s).db.holds.rows) (hactive : h.Active s.now)
    {seat : Option Nat} (hd : 0 < h.demand seat) :
    0 < heldQty s.db s.now (h.performance, seat) ∨ Selects s op (h.performance, seat) := by
  cases exec_origin hh with
  | kept hmem => exact .inl (heldQty_pos.mpr ⟨h, hmem, rfl, hactive, hd⟩)
  | ga hp =>
    cases seat with
    | none => exact .inr (.places hp)
    | some n => exact absurd hd (by simp [Hold.demand, newGaHold])
  | @reserved _ _ _ seatIds p _ hp =>
    cases seat with
    | none => exact absurd hd (by simp [Hold.demand, Hold.gaQuantity, newReservedHold])
    | some n =>
      obtain ⟨hs, hhs, rfl⟩ := demand_some_pos.mp hd
      obtain ⟨x, hx, rfl⟩ := List.mem_map.mp hhs
      rw [newHoldSeat_seat]
      exact .inr (.seat hp hx)
  | @promo _ _ _ _ k promo hmem =>
    refine .inl (heldQty_pos.mpr ⟨k, hmem, rfl, hactive, ?_⟩)
    cases seat <;> exact hd
  | @unpromo _ _ _ k hmem =>
    refine .inl (heldQty_pos.mpr ⟨k, hmem, rfl, hactive, ?_⟩)
    cases seat <;> exact hd
  | @donation _ _ _ k hmem =>
    refine .inl (heldQty_pos.mpr ⟨k, hmem, rfl, hactive, ?_⟩)
    cases seat <;> exact hd

/-- **Promises come from selections.** -/
theorem promised_origin (hc : Consistent s.db) (ha : Admissible s op)
    (hpos : 0 < promised (exec op s) r) : 0 < promised s r ∨ Selects s op r := by
  obtain ⟨performance, seat⟩ := r
  have hone : 0 < liveTickets (exec op s).db (performance, seat) ∨
      0 < heldQty (exec op s).db (exec op s).now (performance, seat) := by
    unfold promised at hpos
    omega
  rcases hone with hlive | hheld
  · obtain ⟨a, hmove⟩ := (exec_effect ha).move hc
    refine .inl ?_
    rcases move_sold_pos hmove hlive with hs | hh
    · exact Nat.add_pos_left hs _
    · exact Nat.add_pos_right _ hh
  · obtain ⟨h, hh, rfl, hactive, hd⟩ :=
      heldQty_pos.mp (hheld.trans_le (heldQty_anti (now_le_exec op s) _))
    rcases held_origin hh hactive hd with hold | hsel
    · exact .inl (Nat.add_pos_right _ hold)
    · exact .inr hsel

/-- What `hold_create` selects, the performance sells. -/
theorem holdCreate_housed {organization pk : Nat} {sessionKey : String} {posted : Selection}
    (hop : holdCreate s.db organization pk sessionKey posted = some op) (hsel : Selects s op r) :
    ∃ p ∈ s.db.performances.rows, p.id = r.1 ∧ Housed s.db p r.2 := by
  unfold holdCreate at hop
  cases hp : findPerformance s.db organization pk with
  | none => rw [hp] at hop; cases hop
  | some p =>
    obtain ⟨hmem, horg⟩ := findPerformance_some hp
    have hid := findPerformance_id hp
    rw [hp] at hop
    dsimp only at hop
    -- A reserved performance sells seats of its chart, the other kind sells places.
    cases hmode : p.seatingMode with
    | reserved =>
      rw [hmode] at hop
      obtain rfl := Option.some.inj hop
      cases hsel with
      | seat hp' hseat =>
        rw [hid, hp] at hp'
        obtain rfl := Option.some.inj hp'
        obtain ⟨hs, hsorg, hchart, hsame, -⟩ := mem_requestedSeats.mp hseat
        refine ⟨p, hmem, rfl, .seat hmode (List.mem_map.mpr ⟨_, ?_, rfl⟩)⟩
        exact mem_performanceSeats.mpr ⟨hs, hsorg.trans horg.symm, hchart, hsame⟩
    | ga =>
      rw [hmode] at hop
      dsimp only at hop
      split_ifs at hop
      · cases ht : gaTier s.db p posted.priceTier with
        | none => rw [ht] at hop; cases hop
        | some t =>
          rw [ht] at hop
          obtain rfl := Option.some.inj hop
          cases hsel with
          | places hp' =>
            rw [hid, hp] at hp'
            obtain rfl := Option.some.inj hp'
            exact ⟨p, hmem, rfl, .places hmode⟩
      · obtain rfl := Option.some.inj hop
        cases hsel

end Promises

end BoxOffice

import BoxOffice.Inventory.Effect
import BoxOffice.Transition.Reservation
import Mathlib.Data.List.Count

namespace BoxOffice

open Relational Transition

/-!
# Inventory — the ledger of the box office

A *resource* is a seat of a performance or, with no seat, the general-admission room of a
performance.  `ledger db now` reads off a state how much of each resource exists, is on live
tickets and is in active holds.

* `Consistent` collects what the tables say about each other: the allocation counters count
  the live seatless tickets, every ticket has its order, every hold belongs to the organization
  of its performance;
* `liveTickets_sold`, `liveTickets_voided`, `heldQty_sold` are the balance of a sale and of a
  void, resource by resource.
-/

/-- A seat of a performance, or the general-admission room of a performance. -/
abbrev Resource := Nat × Option Nat

/-- Does the ticket occupy the resource? -/
def ticketWeight (r : Resource) (t : Ticket) : Nat :=
  if t.performance = r.1 ∧ t.seat = r.2 ∧ t.Live then 1 else 0

/-- The live tickets of a resource. -/
def liveTickets (db : Db) (r : Resource) : Nat := Table.total (ticketWeight r) db.tickets

/-- How much of a resource a hold asks for. -/
def Hold.demand (h : Hold) : Option Nat → Nat
  | none => h.gaQuantity
  | some seat => (h.holdSeats.map (·.seat)).count seat

/-- How much of the resource the hold occupies. -/
def holdWeight (now : Time) (r : Resource) (h : Hold) : Nat :=
  if h.performance = r.1 ∧ h.Active now then h.demand r.2 else 0

/-- How much of a resource active holds occupy. -/
def heldQty (db : Db) (now : Time) (r : Resource) : Nat :=
  Table.total (holdWeight now r) db.holds

/-- How much of a resource there is. -/
def capacityOf (db : Db) : Resource → Nat
  | (_, some _) => 1
  | (performance, none) => ((allocationOf db performance).map (·.capacity)).getD 0

/-- With an allocation the capacity is its. -/
theorem capacityOf_some {db : Db} {performance : Nat} {a : GAAllocation}
    (h : allocationOf db performance = some a) :
    capacityOf db (performance, none) = a.capacity := by
  show ((allocationOf db performance).map (·.capacity)).getD 0 = _
  rw [h]
  rfl

/-- Without one there is none. -/
theorem capacityOf_none {db : Db} {performance : Nat}
    (h : allocationOf db performance = none) : capacityOf db (performance, none) = 0 := by
  show ((allocationOf db performance).map (·.capacity)).getD 0 = _
  rw [h]
  rfl

/-- What a state promises of each resource. -/
def ledger (db : Db) (now : Time) : Ledger Resource where
  cap := capacityOf db
  sold := liveTickets db
  held := heldQty db now

/-- What the inventory tables say about each other. -/
structure Consistent (db : Db) : Prop where
  /-- `GAAllocation.performance` is one-to-one. -/
  allocations : (db.gaAllocations.rows.map (·.performance)).Nodup
  /-- The running count of an allocation counts the live seatless tickets. -/
  counted : ∀ a ∈ db.gaAllocations.rows, a.sold = liveTickets db (a.performance, none)
  /-- A ticket belongs to an order on its performance. -/
  ticketOrder : ∀ t ∈ db.tickets.rows, ∃ o ∈ db.orders.rows,
    o.id = t.order ∧ o.performance = some t.performance
  /-- A hold belongs to the organization of its performance. -/
  holdOrg : ∀ h ∈ db.holds.rows, ∀ p ∈ db.performances.rows,
    p.id = h.performance → p.organization = h.organization

/-! ### Reading the tables -/

section Reading

variable {db db' : Db} {now : Time} {hold row : Hold} {order : Order}

/-- The allocation of a performance is stored. -/
theorem allocationOf_some {performance : Nat} {a : GAAllocation}
    (h : allocationOf db performance = some a) :
    a ∈ db.gaAllocations.rows ∧ a.performance = performance :=
  ⟨List.mem_of_find?_eq_some h, by simpa using List.find?_some h⟩

/-- The allocation of a performance is the only one. -/
theorem Consistent.allocation_unique (hc : Consistent db) {a b : GAAllocation}
    (ha : a ∈ db.gaAllocations.rows) (hb : b ∈ db.gaAllocations.rows)
    (h : a.performance = b.performance) : a = b :=
  List.inj_on_of_nodup_map hc.allocations ha hb h

/-- An object of a stored hold reads the seats of its row. -/
theorem holdSeatsOf_row (hrow : row ∈ db.holds.rows) (hsame : Hold.SameCart hold row) :
    holdSeatsOf db hold = row.holdSeats := by
  unfold holdSeatsOf
  rw [Table.get?_eq_some.mpr ⟨hrow, hsame.1.symm⟩]

/-- Changing only the counts keeps the allocation of every performance, with its capacity. -/
theorem allocationOf_update {p : GAAllocation → Bool} {f : GAAllocation → GAAllocation} {hf}
    (hperf : ∀ a, (f a).performance = a.performance)
    (h : db'.gaAllocations = db.gaAllocations.update p f hf) (performance : Nat) :
    allocationOf db' performance
      = (allocationOf db performance).map (fun a => if p a then f a else a) := by
  unfold allocationOf
  rw [h]
  unfold Table.update
  rw [List.find?_map]
  congr 2
  funext a
  by_cases hp : p a <;> simp [hp, hperf]

/-- The capacities depend on the allocations only. -/
theorem capacityOf_congr (h : ∀ performance, (allocationOf db' performance).map (·.capacity)
    = (allocationOf db performance).map (·.capacity)) : capacityOf db' = capacityOf db := by
  funext r
  obtain ⟨performance, seat⟩ := r
  cases seat with
  | some _ => rfl
  | none =>
    show ((allocationOf db' performance).map (·.capacity)).getD 0
      = ((allocationOf db performance).map (·.capacity)).getD 0
    rw [h]

/-- An update that keeps the capacities keeps them all. -/
theorem capacityOf_update {p : GAAllocation → Bool} {f : GAAllocation → GAAllocation} {hf}
    (h : db'.gaAllocations = db.gaAllocations.update p f hf)
    (hf' : ∀ a, (f a).performance = a.performance ∧ (f a).capacity = a.capacity) :
    capacityOf db' = capacityOf db := by
  refine capacityOf_congr fun performance => ?_
  rw [allocationOf_update (fun a => (hf' a).1) h, Option.map_map]
  refine Option.map_congr fun a _ => ?_
  by_cases hp : p a <;> simp [hp, hf']

/-- The capacities stay while the allocations do. -/
theorem capacityOf_same (h : db'.gaAllocations = db.gaAllocations) :
    capacityOf db' = capacityOf db :=
  capacityOf_congr fun performance => by unfold allocationOf; rw [h]

/-- A sale moves counts, not capacities. -/
theorem capacityOf_soldAllocations (h : db'.gaAllocations = soldAllocations db hold) :
    capacityOf db' = capacityOf db := by
  unfold soldAllocations at h
  cases ha : allocationOf db hold.performance with
  | none => rw [ha] at h; exact capacityOf_same h
  | some a =>
    rw [ha] at h
    by_cases hga : hold.isGa = true
    · simp only [hga, if_true] at h
      exact capacityOf_update h fun _ => ⟨rfl, rfl⟩
    · simp only [hga] at h
      exact capacityOf_same h

/-- A void moves counts, not capacities. -/
theorem capacityOf_voidedAllocations (h : db'.gaAllocations = voidedAllocations db order) :
    capacityOf db' = capacityOf db := by
  unfold voidedAllocations at h
  cases hp : order.performance with
  | none => rw [hp] at h; exact capacityOf_same h
  | some performance =>
    simp only [hp] at h
    split at h
    · unfold returnToAllocation at h
      cases ha : allocationOf db performance with
      | none => rw [ha] at h; exact capacityOf_same h
      | some a => rw [ha] at h; exact capacityOf_update h fun _ => ⟨rfl, rfl⟩
    · exact capacityOf_same h

/-- Two images of a hold with the same seats occupy the same. -/
theorem holdWeight_congr {k : Hold} (hsame : Hold.SameCart k hold)
    (hseats : k.holdSeats = hold.holdSeats) (r : Resource) :
    holdWeight now r k = holdWeight now r hold := by
  obtain ⟨-, -, hperf, -, hexp, hga⟩ := hsame
  have hdemand : k.demand r.2 = hold.demand r.2 := by
    cases r.2 with
    | none => show k.gaQuantity = hold.gaQuantity; unfold Hold.gaQuantity; rw [hga]
    | some s => show List.count s _ = List.count s _; rw [hseats]
  have hactive : k.Active now ↔ hold.Active now := by unfold Hold.Active; rw [hexp]
  unfold holdWeight
  simp only [hperf, hactive, hdemand]

/-- Time only ever ends holds. -/
theorem heldQty_anti {now' : Time} (h : now ≤ now') (r : Resource) :
    heldQty db now' r ≤ heldQty db now r := by
  refine Table.total_mono fun k _ => ?_
  unfold holdWeight
  by_cases hactive : k.performance = r.1 ∧ k.Active now'
  · rw [if_pos hactive, if_pos ⟨hactive.1, lt_of_le_of_lt h hactive.2⟩]
  · rw [if_neg hactive]; exact Nat.zero_le _

/-- A sale adds its seats to the live tickets. -/
theorem liveTickets_sold (h : Sold db db' hold order) (r : Resource) :
    liveTickets db' r
      = liveTickets db r + if hold.performance = r.1 then (soldSeats db hold).count r.2 else 0 := by
  unfold liveTickets
  rw [h.tickets, Table.total_insertMany
    (v := fun seat => if hold.performance = r.1 ∧ seat = r.2 then 1 else 0)]
  · congr 1
    induction soldSeats db hold with
    | nil => simp
    | cons seat l ih =>
      rw [List.map_cons, List.sum_cons, ih, List.count_cons]
      by_cases hp : hold.performance = r.1
      · by_cases hs : seat = r.2 <;> simp [hp, hs, Nat.add_comm]
      · simp [hp]
  · intro seat i
    simp [ticketWeight, newTicket, Ticket.Live]

/-- A sale never sells more of a resource than the row of the hold asks for. -/
theorem soldSeats_le_demand (hrow : row ∈ db.holds.rows) (hsame : Hold.SameCart hold row)
    (seat : Option Nat) : (soldSeats db hold).count seat ≤ row.demand seat := by
  have hseats : ((orderedHoldSeats db hold).map fun hs => some hs.seat).count seat
      ≤ row.demand seat := by
    have hperm : ((orderedHoldSeats db hold).map fun hs => some hs.seat).Perm
        ((row.holdSeats.map (·.seat)).map some) := by
      unfold orderedHoldSeats
      rw [holdSeatsOf_row hrow hsame, List.map_map]
      exact (List.perm_insertionSort _ _).map _
    rw [hperm.count_eq]
    cases seat with
    | none => rw [List.count_eq_zero.mpr (by simp)]; exact Nat.zero_le _
    | some s => rw [List.count_map_of_injective _ _ (Option.some_injective _)]; rfl
  unfold soldSeats
  cases hg : hold.ga with
  | none => exact hseats
  | some g =>
    by_cases hq : g.quantity = 0
    · simp only [hq, ne_eq, not_true_eq_false, if_false]; exact hseats
    · simp only [hq, ne_eq, not_false_eq_true, if_true]
      cases seat with
      | none =>
        have hga : row.ga = some g := hsame.2.2.2.2.2.symm.trans hg
        rw [List.count_replicate_self]
        simp [Hold.demand, Hold.gaQuantity, hga]
      | some s => rw [List.count_replicate]; simp

/-- Selling a hold frees what its row occupied. -/
theorem heldQty_sold (hrow : row ∈ db.holds.rows) (hsame : Hold.SameCart hold row)
    (h : Sold db db' hold order) (r : Resource) :
    heldQty db' now r + holdWeight now r row = heldQty db now r := by
  unfold heldQty
  rw [h.holds, Table.total_eq_add _ hrow, Nat.add_comm]
  congr 1
  unfold deleteHold
  rw [Table.total_delete]
  refine Table.total_congr fun k _ => ?_
  by_cases hk : k.id = row.id
  · rw [if_pos (by simp [hk, hsame.1]), if_pos (show Keyed.key k = Keyed.key row from hk)]
  · rw [if_neg (by simp [hk, hsame.1]), if_neg (show Keyed.key k ≠ Keyed.key row from hk)]

/-- Voiding an order takes its live tickets of the resource off the count. -/
theorem liveTickets_voided (hc : Consistent db) (ho : order ∈ db.orders.rows)
    (h : db'.tickets = voidedTickets db.tickets order.id) (r : Resource) :
    liveTickets db r = liveTickets db' r +
      if order.performance = some r.1 then
        ((liveTicketsOf db order.id).filter fun t => t.seat == r.2).length
      else 0 := by
  -- A ticket is for the performance of its order.
  have hperf : ∀ t ∈ db.tickets.rows, t.order = order.id →
      order.performance = some t.performance := by
    intro t ht hto
    obtain ⟨o, ho', hid, hp⟩ := hc.ticketOrder t ht
    rw [← Table.eq_of_key_eq ho' ho (hid.trans hto)]
    exact hp
  -- The live tickets are split into those of the order and the rest.
  have hrest : liveTickets db' r
      = Table.total (fun t => if t.order = order.id then 0 else ticketWeight r t) db.tickets := by
    unfold liveTickets voidedTickets at *
    rw [h, Table.total_update]
    refine Table.total_congr fun t _ => ?_
    by_cases hto : t.order = order.id <;> simp [hto, ticketWeight, Ticket.Live]
  have hgone : (if order.performance = some r.1 then
        ((liveTicketsOf db order.id).filter fun t => t.seat == r.2).length else 0)
      = Table.total (fun t => if t.order = order.id then ticketWeight r t else 0) db.tickets := by
    by_cases hp : order.performance = some r.1
    · rw [if_pos hp]
      unfold liveTicketsOf
      rw [List.filter_filter, Table.length_filter_eq_total]
      refine Table.total_congr fun t ht => ?_
      by_cases hto : t.order = order.id
      · have htp : t.performance = r.1 := Option.some.inj ((hperf t ht hto).symm.trans hp)
        simp [hto, ticketWeight, htp]
      · simp [hto]
    · rw [if_neg hp, Table.total_eq_zero]
      intro t ht
      by_cases hto : t.order = order.id
      · have htp : t.performance ≠ r.1 := fun he => hp (he ▸ hperf t ht hto)
        simp [hto, ticketWeight, htp]
      · simp [hto]
  rw [hrest, hgone, ← Table.total_add]
  refine Table.total_congr fun t _ => ?_
  by_cases hto : t.order = order.id <;> simp [hto]

end Reading

end BoxOffice

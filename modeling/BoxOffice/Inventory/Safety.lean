import BoxOffice.Inventory.Availability

namespace BoxOffice

open Relational Transition

/-!
# Inventory — safety

What the refinement means for buyers, in every state reachable from a fresh set-up.

* `reserved_safe` — no reserved seat is double-sold, an active cart of seats can always be
  fulfilled and an expired one never is;
* `ga_safe` — the general-admission counters are exact, capacity is never exceeded, and an
  active general-admission cart can always be fulfilled.
-/

/-- Does the hold contain the seat? -/
def Hold.Contains (h : Hold) (seat : Nat) : Prop := ∃ hs ∈ h.holdSeats, hs.seat = seat

/-- Every seat of every performance is promised at most once. -/
structure NoDoubleSale (s : State) : Prop where
  oneTicket : ∀ t ∈ s.db.tickets.rows, ∀ u ∈ s.db.tickets.rows, t.Live → u.Live →
    t.performance = u.performance → t.seat = u.seat → t.seat ≠ none → t = u
  oneHold : ∀ h ∈ s.db.holds.rows, ∀ k ∈ s.db.holds.rows, h.Active s.now → k.Active s.now →
    h.performance = k.performance → ∀ seat, h.Contains seat → k.Contains seat → h = k
  notBoth : ∀ t ∈ s.db.tickets.rows, ∀ h ∈ s.db.holds.rows, t.Live → h.Active s.now →
    t.performance = h.performance → ∀ seat, t.seat = some seat → ¬h.Contains seat

/-- No route that fulfils the hold answers that availability has changed. -/
structure NeverUnavailable (s : State) (hold : Hold) : Prop where
  paid : ∀ args m, fulfillHold s.db s.now hold args ≠ .error (.availabilityChanged m)
  pass : ∀ passPurchase email name optIn m,
    fulfillHoldWithPass s.db s.now hold passPurchase email name optIn
      ≠ .error (.availabilityChanged m)
  session : ∀ organization session m, session.kind = .hold (some hold.id) →
    fulfillCheckoutSession s.db s.now organization session ≠ .error (.availabilityChanged m)

/-- Every route that fulfils the hold reports it gone, and nothing is written. -/
structure RefusedAsGone (s : State) (hold : Hold) : Prop where
  paid : ∀ args, (∃ m, fulfillHold s.db s.now hold args = .error (.holdGone m)) ∧
    exec (.fulfillHold hold args) s = s
  pass : ∀ passPurchase email name optIn,
    (∃ m, fulfillHoldWithPass s.db s.now hold passPurchase email name optIn
      = .error (.holdGone m)) ∧
    exec (.fulfillHoldWithPass hold passPurchase email name optIn) s = s
  /-- A session that has no order yet, delivered to the organization it was created for. -/
  session : ∀ organization session, session.kind = .hold (some hold.id) →
    existingOrder s.db organization session.id = none →
    (∀ o ∈ session.organizationId, o = organization) →
    (∃ m, fulfillCheckoutSession s.db s.now organization session = .error (.holdGone m)) ∧
    exec (.fulfillCheckoutSession organization session) s = s

section Safety

variable {s : State} {hold : Hold}

/-- A request that fails changes nothing. -/
theorem commit_error {α : Type} {r : Result α} {e : ServiceError} (h : r = .error e) :
    s.commit r = s := by
  rw [h]; rfl

/-- A ledger that fits sells no seat twice. -/
theorem noDoubleSale_of_fits (hfit : s.ledger.Fits) : NoDoubleSale s := by
  have hseat : ∀ p seat, liveTickets s.db (p, some seat) + heldQty s.db s.now (p, some seat) ≤ 1 :=
    fun p seat => hfit (p, some seat)
  have hticket : ∀ {t : Ticket} {seat}, t.Live → t.seat = some seat →
      ticketWeight (t.performance, some seat) t = 1 := fun hl hs => if_pos ⟨rfl, hs, hl⟩
  have hhold : ∀ {h : Hold} {seat}, h.Active s.now → h.Contains seat →
      1 ≤ holdWeight s.now (h.performance, some seat) h := by
    intro h seat hactive ⟨hs, hhs, hid⟩
    unfold holdWeight
    rw [if_pos ⟨rfl, hactive⟩]
    exact List.count_pos_iff.mpr (List.mem_map.mpr ⟨hs, hhs, hid⟩)
  refine ⟨?_, ?_, ?_⟩
  -- Two live tickets of one seat would weigh two.
  · intro t ht u hu htl hul hperf hseat' hsome
    obtain ⟨seat, hts⟩ := Option.ne_none_iff_exists'.mp hsome
    by_contra hne
    have hkey : u.id ≠ t.id := fun he => hne (Table.eq_of_key_eq hu ht he).symm
    have htwo : ticketWeight (t.performance, some seat) t
        + ticketWeight (t.performance, some seat) u ≤ liveTickets s.db (t.performance, some seat) :=
      Table.add_le_total ht hu hkey
    rw [hticket htl hts, hperf, hticket hul (hseat'.symm.trans hts)] at htwo
    have := hseat u.performance seat
    omega
  -- So would two active carts.
  · intro h hh k hk hha hka hperf seat hhs hks
    by_contra hne
    have hkey : k.id ≠ h.id := fun he => hne (Table.eq_of_key_eq hk hh he).symm
    have htwo : holdWeight s.now (h.performance, some seat) h
        + holdWeight s.now (h.performance, some seat) k
        ≤ heldQty s.db s.now (h.performance, some seat) :=
      Table.add_le_total hh hk hkey
    have h1 := hhold hha hhs
    have h2 := hhold hka hks
    have := hseat k.performance seat
    rw [hperf] at h1 htwo
    omega
  -- And a ticket beside a cart.
  · intro t ht h hh htl hha hperf seat hts hhs
    have h1 : ticketWeight (t.performance, some seat) t
        ≤ liveTickets s.db (t.performance, some seat) := Table.le_total ht
    have h2 : holdWeight s.now (h.performance, some seat) h
        ≤ heldQty s.db s.now (h.performance, some seat) := Table.le_total hh
    have h3 := hhold hha hhs
    have := hseat h.performance seat
    rw [hticket htl hts, hperf] at h1
    omega

/-- While the ledger fits, no active cart is refused for want of room. -/
theorem neverUnavailable_of_fits (hc : Consistent s.db) (hfit : s.ledger.Fits)
    (hrow : HoldExists s.db hold) (hactive : hold.Active s.now) : NeverUnavailable s hold where
  paid args m h := by
    rcases (@fulfillHold_active _ _ _ args) hc hfit hrow hactive with
      ⟨db', o, hok⟩ | ⟨-, c, herr⟩
    · rw [hok] at h; cases h
    · rw [herr] at h; cases h
  pass passPurchase email name optIn m :=
    fulfillHoldWithPass_active hc hfit hrow hactive m
  session organization session m _ := fulfillCheckoutSession_active hc hfit m

/-- An expired hold is refused by every route, whatever the state. -/
theorem refusedAsGone_of_expired (hrow : HoldExists s.db hold)
    (hexp : ¬hold.Active s.now) : RefusedAsGone s hold := by
  have hle : hold.expiresAt ≤ s.now := not_lt.mp hexp
  have hpaid : ∀ args, ∃ m, fulfillHold s.db s.now hold args = .error (.holdGone m) :=
    fun args => ⟨_, if_pos hle⟩
  have hpass : ∀ passPurchase email name optIn, ∃ m,
      fulfillHoldWithPass s.db s.now hold passPurchase email name optIn = .error (.holdGone m) :=
    fun _ _ _ _ => ⟨_, if_pos hle⟩
  have hsession : ∀ organization session, session.kind = .hold (some hold.id) →
      existingOrder s.db organization session.id = none →
      (∀ o ∈ session.organizationId, o = organization) →
      ∃ m, fulfillCheckoutSession s.db s.now organization session = .error (.holdGone m) := by
    intro organization session hkind hnone hmeta
    obtain ⟨row, hmem, hsame⟩ := hrow
    unfold fulfillCheckoutSession readTarget
    rw [hnone]
    dsimp only
    rw [if_neg (by rintro ⟨o, ho, hne⟩; exact hne (hmeta o ho)), hkind]
    dsimp only [Option.bind_some]
    cases hf : s.db.holds.rows.find? (fun r => r.organization == organization && r.id == hold.id) with
    | none => exact ⟨_, rfl⟩
    | some r =>
      -- The row found is the row of the hold, and it has the same expiry.
      have hid : r.id = hold.id := by
        have := List.find?_some hf
        simp only [Bool.and_eq_true, beq_iff_eq] at this
        exact this.2
      obtain rfl : r = row :=
        Table.eq_of_key_eq (List.mem_of_find?_eq_some hf) hmem (hid.trans hsame.1)
      dsimp only
      rw [if_pos (hsame.2.2.2.2.1 ▸ hle)]
      exact ⟨_, rfl⟩
  refine ⟨fun args => ⟨hpaid args, ?_⟩, fun p e n o => ⟨hpass p e n o, ?_⟩,
    fun organization session hk hn hm => ⟨hsession organization session hk hn hm, ?_⟩⟩
  · obtain ⟨m, hm⟩ := hpaid args
    exact commit_error hm
  · obtain ⟨m, hm⟩ := hpass p e n o
    exact commit_error hm
  · obtain ⟨m, hm⟩ := hsession organization session hk hn hm
    exact commit_error hm

/-- **Reserved seats.** In every reachable state no seat of a performance is promised twice;
    fulfilling a stored hold of seats never fails for want of availability while it is active,
    and reports the hold gone, without any write, once it has expired. -/
theorem reserved_safe (h : Reachable boxOffice s) :
    NoDoubleSale s ∧
      (∀ hold, HoldExists s.db hold → hold.isGa = false → hold.Active s.now →
        NeverUnavailable s hold) ∧
      ∀ hold, HoldExists s.db hold → ¬hold.Active s.now → RefusedAsGone s hold := by
  obtain ⟨hc, hfit⟩ := reachable_fits h
  exact ⟨noDoubleSale_of_fits hfit,
    fun _ hrow _ hactive => neverUnavailable_of_fits hc hfit hrow hactive,
    fun _ hrow hexp => refusedAsGone_of_expired hrow hexp⟩

/-- The sample carts sell nothing twice. -/
theorem reserved_safe_sample : NoDoubleSale sampleCarts :=
  (reserved_safe sampleCarts_reachable).1

/-- The live seatless tickets of a performance. -/
def gaTickets (db : Db) (performance : Nat) : List Ticket :=
  db.tickets.rows.filter fun t => t.performance == performance && t.seat == none && decide t.Live

/-- The places in active holds, counted for the form and for the ledger. -/
theorem activeGaHeldQty_none (db : Db) (now : Time) (performance : Nat) :
    activeGaHeldQty db.holds now performance none = heldQty db now (performance, none) := by
  refine Table.total_congr fun k _ => ?_
  simp [holdWeight, Hold.demand]

/-- **General admission.** In every reachable state the counter of every allocation is the
    number of its live seatless tickets, fits its capacity together with all active holds, and
    covers what voiding any order of the performance would take off it, so that the floor at
    zero is never used; fulfilling a stored, active general-admission hold never fails for want
    of availability. -/
theorem ga_safe (h : Reachable boxOffice s) :
    (∀ a ∈ s.db.gaAllocations.rows,
      a.sold = (gaTickets s.db a.performance).length ∧
      a.sold + activeGaHeldQty s.db.holds s.now a.performance none ≤ a.capacity ∧
      ∀ o ∈ s.db.orders.rows, o.performance = some a.performance → gaCount s.db o.id ≤ a.sold) ∧
      ∀ hold, HoldExists s.db hold → hold.isGa = true → hold.Active s.now →
        NeverUnavailable s hold := by
  obtain ⟨hc, hfit⟩ := reachable_fits h
  refine ⟨fun a ha => ?_, fun _ hrow _ hactive => neverUnavailable_of_fits hc hfit hrow hactive⟩
  have hsold := hc.counted a ha
  -- One allocation for each performance.
  have hall : allocationOf s.db a.performance = some a := by
    cases hf : allocationOf s.db a.performance with
    | none => exact absurd (List.find?_eq_none.mp hf a ha) (by simp)
    | some b =>
      obtain ⟨hb, hbp⟩ := allocationOf_some hf
      rw [hc.allocation_unique hb ha hbp]
  have hcap : capacityOf s.db (a.performance, none) = a.capacity := capacityOf_some hall
  refine ⟨?_, ?_, ?_⟩
  · rw [hsold]
    unfold liveTickets gaTickets
    rw [Table.length_filter_eq_total]
    refine Table.total_congr fun t _ => ?_
    simp only [ticketWeight, Bool.and_eq_true, beq_iff_eq, decide_eq_true_eq, and_assoc]
  · have hr : liveTickets s.db (a.performance, none) + heldQty s.db s.now (a.performance, none)
        ≤ capacityOf s.db (a.performance, none) := hfit (a.performance, none)
    rw [hcap] at hr
    rw [activeGaHeldQty_none]
    omega
  -- The tickets that a voided order gives up are among the live ones.
  · intro o ho hp
    have hbal := (@liveTickets_voided _ ((voidOrder s.db o).1)) hc ho
      (by rw [voidOrder_fst]) (a.performance, none)
    rw [if_pos hp] at hbal
    have hcount : gaCount s.db o.id
        = ((liveTicketsOf s.db o.id).filter fun t => t.seat == none).length := rfl
    have hle : ((liveTicketsOf s.db o.id).filter fun t => t.seat == none).length
        ≤ liveTickets s.db (a.performance, none) := by
      rw [hbal]
      exact Nat.le_add_left _ _
    rw [hcount, hsold]
    exact hle

/-- The places of the sample carts fit. -/
theorem ga_safe_sample : ∃ a ∈ sampleCarts.db.gaAllocations.rows,
    a.sold + activeGaHeldQty sampleCarts.db.holds sampleCarts.now a.performance none
      ≤ a.capacity := by
  obtain ⟨a, ha⟩ : ∃ a, a ∈ sampleCarts.db.gaAllocations.rows := ⟨_, List.mem_cons_self ..⟩
  exact ⟨a, ha, ((ga_safe sampleCarts_reachable).1 a ha).2.1⟩

end Safety

end BoxOffice

import BoxOffice.Dashboard.ZoneDesk
import BoxOffice.Payments.Inventory

namespace BoxOffice

open Relational Transition

/-!
# Dashboard — one price a seat

The seat map prices a chart from a dictionary in which the last zone of a seat wins; a single
seat is priced from the first zone a query returns.

* `resolve_agree_iff` — the two agree exactly on the seats that at most one zone of the
  performance lists;
* `one_price` — so they agree in every run of the zone editor whose clones bring only free
  seats, and the hold and the sold line record that price.
-/

/-- The zones of a performance that list a seat. -/
def zonesListing (db : Db) (performance : Performance) (seat : Nat) : List PricingZone :=
  db.pricingZones.rows.filter fun z =>
    z.organization == performance.organization && z.performance == performance.id
      && z.seats.contains seat

/-- In a list without repetitions, the first and the last element are the same one only if there
    is no other. -/
theorem head?_eq_getLast?_iff {α : Type} {l : List α} (h : l.Nodup) :
    l.head? = l.getLast? ↔ l.length ≤ 1 := by
  match l with
  | [] => simp
  | [_] => simp
  | x :: y :: l =>
    refine ⟨fun heq => ?_, fun hlen => by simp at hlen⟩
    have hlast : x ∈ y :: l := by
      rw [List.getLast?_cons_cons] at heq
      exact List.mem_of_getLast? heq.symm
    exact absurd hlast (List.nodup_cons.mp h).1

section Agree

variable {db : Db} {performance : Performance} {seat : Seat}

/-- The zones of a seat in display order. -/
theorem ordered_zonesListing (db : Db) (performance : Performance) (seat : Nat) :
    ((orderedBy (fun z : PricingZone => z.name) (db.pricingZones.rows.filter fun z =>
      z.organization == performance.organization && z.performance == performance.id)).filter
      fun z => z.seats.contains seat).Perm (zonesListing db performance seat) := by
  refine ((List.perm_insertionSort _ _).filter _).trans ?_
  rw [List.filter_filter]
  refine List.Perm.of_eq (List.filter_congr fun z _ => ?_)
  rw [Bool.and_comm]

/-- A seat of the performance is priced by the same tier on both paths. -/
theorem priceTiersBySection_eq (hs : SeatsScoped db)
    (hseat : seat ∈ performanceSeats db performance) :
    priceTiersBySection db performance seat.section_
      = resolveSeatTier db performance seat.section_ := by
  unfold performanceSeats at hseat
  unfold priceTiersBySection
  cases hc : getSeatingChart db performance with
  | none => rw [hc] at hseat; cases hseat
  | some chart =>
    rw [hc] at hseat
    simp only [List.mem_filter, Bool.and_eq_true, beq_iff_eq] at hseat
    obtain ⟨hmem, horg, hchart⟩ := hseat
    obtain ⟨x, hx, hxc⟩ := Option.map_eq_some_iff.mp hchart
    simp only [hx]
    exact if_pos ⟨(hs seat hmem x hx).trans horg, hxc⟩

/-- **Where the two paths agree.** -/
theorem resolve_agree_iff (hs : SeatsScoped db) (hseat : seat ∈ performanceSeats db performance) :
    resolveReservedPrices db performance seat = resolveSeatPrice db performance seat ↔
      (zonesListing db performance seat.id).length ≤ 1 := by
  have hperm := ordered_zonesListing db performance seat.id
  have hnd : (zonesListing db performance seat.id).Nodup :=
    (List.Nodup.of_map _ db.pricingZones.nodup).filter _
  -- One path takes the first zone that lists the seat, the other the last.
  rw [← hperm.length_eq, ← head?_eq_getLast?_iff (hperm.nodup_iff.mpr hnd), List.head?_filter]
  have hmem : ∀ z ∈ (orderedBy (fun z : PricingZone => z.name)
      (db.pricingZones.rows.filter fun z => z.organization == performance.organization
        && z.performance == performance.id)).filter fun z => z.seats.contains seat.id,
      z ∈ db.pricingZones.rows :=
    fun z hz => (List.mem_filter.mp (hperm.mem_iff.mp hz)).1
  unfold resolveReservedPrices resolveSeatPrice zonesBySeatId
  rw [priceTiersBySection_eq hs hseat]
  dsimp only
  generalize hl : orderedBy (fun z : PricingZone => z.name)
      (db.pricingZones.rows.filter fun z => z.organization == performance.organization
        && z.performance == performance.id) = l at hmem ⊢
  rw [← List.head?_filter]
  generalize l.filter (fun z => z.seats.contains seat.id) = m at hmem ⊢
  match m with
  | [] => simp
  | x :: m =>
    obtain ⟨y, hy⟩ : ∃ y, (x :: m).getLast? = some y :=
      Option.isSome_iff_exists.mp (by simp)
    rw [hy, List.head?_cons]
    constructor
    -- Zones have different keys, so the first is the last only if it is alone.
    · intro heq
      have hid : y.id = x.id := by simpa using congrArg (fun p => p.bind (·.zone)) heq
      rw [Table.eq_of_key_eq (hmem y (List.mem_of_getLast? hy)) (hmem x (by simp)) hid]
    · intro heq
      rw [Option.some.inj heq]

/-- With one zone to a seat, the listing of a seat has one entry at most. -/
theorem OneZone.length_zonesListing (h : OneZone db.pricingZones) (performance : Performance)
    (seat : Nat) : (zonesListing db performance seat).length ≤ 1 := by
  have hnd : (zonesListing db performance seat).Nodup :=
    (List.Nodup.of_map _ db.pricingZones.nodup).filter _
  have hmem : ∀ z ∈ zonesListing db performance seat,
      z ∈ db.pricingZones.rows ∧ z.performance = performance.id ∧ seat ∈ z.seats := by
    intro z hz
    simp only [zonesListing, List.mem_filter, Bool.and_eq_true, beq_iff_eq] at hz
    exact ⟨hz.1, hz.2.1.2, by simpa using hz.2.2⟩
  match hl : zonesListing db performance seat with
  | [] => exact Nat.zero_le 1
  | [_] => exact le_refl 1
  | z :: z' :: l =>
    rw [hl] at hnd hmem
    obtain ⟨hz, hp, hs⟩ := hmem z (by simp)
    obtain ⟨hz', hp', hs'⟩ := hmem z' (by simp)
    exact absurd hnd (by simp [h z hz z' hz' (hp.trans hp'.symm) seat hs hs'])

/-- **One price.** In every run of the zone editor whose clones bring only seats without a zone
    on the target, a seat of a performance has one price, whichever path computes it, and the
    hold and the sold line record its amount and origin. -/
theorem one_price {trig : Trig}
    (h : Reachable ((zoneDesk trig).restrict BringsFreeSeats) db)
    (hseat : seat ∈ performanceSeats db performance) :
    resolveReservedPrices db performance seat = resolveSeatPrice db performance seat ∧
    ∀ price, resolveSeatPrice db performance seat = some price →
      newHoldSeat db performance seat = ⟨seat.id, price.tier, price.zone, price.amount⟩ ∧
      seatLine (newHoldSeat db performance seat)
        = ⟨price.tier, price.zone, some seat.id, 1, price.amount⟩ := by
  have hone := (zoneDesk_oneZone (fun _ _ hc => hc) h).length_zonesListing performance seat.id
  have hagree := (resolve_agree_iff (zoneDesk_scoped h).2 hseat).mpr hone
  refine ⟨hagree, fun price hprice => ?_⟩
  have hnew : newHoldSeat db performance seat
      = ⟨seat.id, price.tier, price.zone, price.amount⟩ := by
    unfold newHoldSeat
    rw [hagree, hprice]
  exact ⟨hnew, by rw [hnew]; rfl⟩

end Agree

/-! ### Two zones on one seat -/

/-- Cloned onto a night without zones, the zone prices the seat on both paths. -/
theorem one_price_bothNights :
    resolveSeatPrice bothNights secondNight stallsSeat = some ⟨5000, some 2, none⟩ ∧
    resolveReservedPrices bothNights secondNight stallsSeat
      = resolveSeatPrice bothNights secondNight stallsSeat := by
  have hseat : stallsSeat ∈ performanceSeats bothNights secondNight := by decide
  refine ⟨by decide, ((@one_price _ _ _ flatTrig) ?_ hseat).1⟩
  exact (firstNight_reachable (C := BringsFreeSeats) fun _ _ _ _ _ _ => trivial).step
    (i := .cloneZones 1 2 1) ⟨⟨trivial, rfl⟩, firstNight_free.1⟩

/-- The first night in the zone `Premium`, the second in the zone `Front`. -/
def zonedNights : Db :=
  execStaff flatTrig (.applyZone 1 2 [1] 4000 ⟨2, 1, "Front", "#003049"⟩) firstNight

/-- After a clone onto the zoned night, the seat map and the hold say 50, a single lookup says
    40. -/
theorem cloned_twice_priced : ∃ db performance seat, Reachable (zoneDesk flatTrig) db ∧
    seat ∈ performanceSeats db performance ∧
    resolveReservedPrices db performance seat = some ⟨5000, some 3, none⟩ ∧
    resolveSeatPrice db performance seat = some ⟨4000, some 2, none⟩ := by
  have hscoped : Scoped firstNight (.applyZone 1 2 [1] 4000 ⟨2, 1, "Front", "#003049"⟩) := by
    show (findPerformance firstNight 1 2).isSome = true
    decide
  have hfirst : Reachable (zoneDesk flatTrig) firstNight :=
    (firstNight_reachable (C := fun _ _ => True) fun _ _ _ _ _ _ => trivial).of_restrict
  have hzoned : Reachable (zoneDesk flatTrig) zonedNights := hfirst.step ⟨hscoped, rfl⟩
  exact ⟨_, secondNight, stallsSeat,
    hzoned.step (i := .cloneZones 1 2 1) ⟨trivial, rfl⟩, by decide, by decide, by decide⟩

end BoxOffice

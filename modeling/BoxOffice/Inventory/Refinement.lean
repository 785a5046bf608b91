import BoxOffice.Inventory.Consistency

namespace BoxOffice

open Relational Transition

/-!
# Inventory — the box office refines the reservation ledger

* `Effect.move` — every effect is a move of the reservation ledger;
* `run_refines` — so every run of the box office is a run of `Ledger.system`, whatever the
  clock does in between;
* `reachable_fits` — and the library's `Ledger.run_fits` applies: from a fresh set-up no
  resource is ever promised twice.
-/

section Effects

variable {db db' : Db} {now : Time}

/-- What a hold of the session occupied is gone once it is cleared; what is left belongs to
    other sessions or to other performances. -/
theorem heldQty_replaced {organization performance : Nat} {sessionKey : String} {mk : Nat → Hold}
    {hk} (r : Resource) :
    heldQty (replaceSessionHold db organization performance sessionKey mk hk).1 now r
      = Table.total (fun h => if h.organization = organization ∧ h.performance = performance ∧
          h.sessionKey = sessionKey then 0 else holdWeight now r h) db.holds
        + holdWeight now r (mk (clearSessionHold db.holds organization performance
            sessionKey).nextId) := by
  unfold heldQty replaceSessionHold
  dsimp only
  rw [Table.total_insert]
  congr 1
  unfold clearSessionHold
  rw [Table.total_delete]
  refine Table.total_congr fun h _ => ?_
  simp only [Bool.and_eq_true, beq_iff_eq, and_assoc]

/-- Clearing a session's hold gives back no more than was held. -/
theorem total_cleared_le {organization performance : Nat} {sessionKey : String} (r : Resource) :
    Table.total (fun h => if h.organization = organization ∧ h.performance = performance ∧
      h.sessionKey = sessionKey then 0 else holdWeight now r h) db.holds ≤ heldQty db now r := by
  refine Table.total_mono fun h _ => ?_
  split
  · exact Nat.zero_le _
  · exact le_refl _

/-- Where the new hold occupies nothing, replacing a hold holds no more than before. -/
theorem heldQty_replaced_le {organization performance : Nat} {sessionKey : String}
    {mk : Nat → Hold} {hk} {r : Resource} (h0 : ∀ i, holdWeight now r (mk i) = 0) :
    heldQty (replaceSessionHold db organization performance sessionKey mk hk).1 now r
      ≤ heldQty db now r := by
  rw [heldQty_replaced, h0, Nat.add_zero]
  exact total_cleared_le r

/-- After the session's hold is cleared, an active hold of the performance is another
    session's. -/
theorem session_ne_of_left (hc : Consistent db) {organization : Nat} {performance : Performance}
    {sessionKey : String} (hmem : performance ∈ db.performances.rows)
    (horg : performance.organization = organization) {h : Hold} (hh : h ∈ db.holds.rows)
    (hperf : h.performance = performance.id)
    (hleft : ¬(h.organization = organization ∧ h.performance = performance.id ∧
      h.sessionKey = sessionKey)) : h.sessionKey ≠ sessionKey := by
  intro hkey
  have := hc.holdOrg h hh performance hmem hperf.symm
  exact hleft ⟨this.symm.trans horg, hperf, hkey⟩

/-- The general-admission places of the others are what the availability check counted. -/
theorem replacedGa_fits (hc : Consistent db) {organization : Nat} {performance : Performance}
    {sessionKey : String} {priceTier : PriceTier} {allocation : GAAllocation} {n : Nat}
    (hmem : performance ∈ db.performances.rows)
    (horg : performance.organization = organization)
    (hall : allocationOf db performance.id = some allocation)
    (hfit : allocation.sold + activeGaHeldQty db.holds now performance.id (some sessionKey) + n
      ≤ allocation.capacity) :
    liveTickets db (performance.id, none)
      + heldQty (replaceSessionHold db organization performance.id sessionKey
          (newGaHold now organization performance sessionKey priceTier n)).1 now
          (performance.id, none)
      ≤ capacityOf db (performance.id, none) := by
  -- Carts of other sessions weigh what the check has counted for them.
  have hothers : Table.total (fun h => if h.organization = organization ∧
        h.performance = performance.id ∧ h.sessionKey = sessionKey then 0
        else holdWeight now (performance.id, none) h) db.holds
      ≤ activeGaHeldQty db.holds now performance.id (some sessionKey) := by
    refine Table.total_mono fun h hh => ?_
    split
    · exact Nat.zero_le _
    · rename_i hleft
      unfold holdWeight
      by_cases hactive : h.performance = performance.id ∧ h.Active now
      · have hne := session_ne_of_left hc hmem horg hh hactive.1 hleft
        rw [if_pos hactive, if_pos ⟨hactive.1, hactive.2, by simpa using hne⟩]
        exact le_refl _
      · rw [if_neg hactive]; exact Nat.zero_le _
  -- The new cart is active and weighs what was asked for.
  have hnew : ∀ i, holdWeight now (performance.id, none)
      (newGaHold now organization performance sessionKey priceTier n i) = n := by
    intro i
    have hactive : (newGaHold now organization performance sessionKey priceTier n i).Active now :=
      Nat.lt_add_of_pos_right (by decide)
    unfold holdWeight
    rw [if_pos ⟨rfl, hactive⟩]
    rfl
  obtain ⟨hamem, haperf⟩ := allocationOf_some hall
  have hcount := hc.counted allocation hamem
  rw [haperf] at hcount
  rw [heldQty_replaced, hnew, capacityOf_some hall, ← hcount]
  omega

/-- A selectable seat is on no live ticket. -/
theorem Selectable.liveTickets_eq_zero {organization : Nat} {performance : Performance}
    {sessionKey : String} {seat : Seat}
    (hsel : Selectable db now organization performance sessionKey seat) :
    liveTickets db (performance.id, some seat.id) = 0 := by
  refine Table.total_eq_zero fun t ht => if_neg ?_
  rintro ⟨htp, hts, hlive⟩
  have hno := hsel.notTicketed
  unfold isTicketed at hno
  rw [List.any_eq_false] at hno
  refine hno t ht ?_
  simp only [htp, hts, beq_self_eq_true, Bool.and_self, Bool.true_and, bne_iff_ne]
  exact hlive

/-- A selectable seat is in no hold of another session. -/
theorem Selectable.holdWeight_eq_zero {organization : Nat} {performance : Performance}
    {sessionKey : String} {seat : Seat}
    (hsel : Selectable db now organization performance sessionKey seat) {h : Hold}
    (hh : h ∈ db.holds.rows) (hne : h.performance = performance.id → h.sessionKey ≠ sessionKey) :
    holdWeight now (performance.id, some seat.id) h = 0 := by
  unfold holdWeight
  by_cases hactive : h.performance = performance.id ∧ h.Active now
  · have hno := hsel.notHeld
    unfold isHeldByOthers at hno
    rw [List.any_eq_false] at hno
    rw [if_pos hactive]
    refine List.count_eq_zero.mpr fun hin => hno h hh ?_
    obtain ⟨hs, hhs, hsid⟩ := List.mem_map.mp hin
    simp only [hactive.2, decide_true, Bool.true_and, Bool.and_eq_true, bne_iff_ne,
      List.any_eq_true, beq_iff_eq]
    exact ⟨hne hactive.1, hs, hhs, hsid⟩
  · rw [if_neg hactive]

/-- A new hold has each of its seats once. -/
theorem holdWeight_newReservedHold_le_one {organization : Nat} {performance : Performance}
    {sessionKey : String} {seats : List Seat} (hnd : (seats.map (·.id)).Nodup) (seat i : Nat) :
    holdWeight now (performance.id, some seat) (newReservedHold now organization performance
      sessionKey (seats.map (newHoldSeat db performance)) i) ≤ 1 := by
  have hseats : (seats.map (newHoldSeat db performance)).map (·.seat) = seats.map (·.id) := by
    rw [List.map_map]
    exact List.map_congr_left fun s _ => newHoldSeat_seat db performance s
  unfold holdWeight
  split
  · show ((seats.map (newHoldSeat db performance)).map (·.seat)).count seat ≤ 1
    rw [hseats]
    exact List.nodup_iff_count_le_one.mp hnd _
  · exact Nat.zero_le _

/-- A seat that was selectable is neither on a live ticket nor in a hold that is left. -/
theorem replacedReserved_fits (hc : Consistent db) {organization : Nat}
    {performance : Performance} {sessionKey : String} {seats : List Seat}
    (hmem : performance ∈ db.performances.rows)
    (horg : performance.organization = organization) (hnd : (seats.map (·.id)).Nodup)
    (hsel : ∀ s ∈ seats, Selectable db now organization performance sessionKey s) {seat : Seat}
    (hseat : seat ∈ seats) :
    liveTickets db (performance.id, some seat.id)
      + heldQty (replaceSessionHold db organization performance.id sessionKey
          (newReservedHold now organization performance sessionKey
            (seats.map (newHoldSeat db performance)))).1 now (performance.id, some seat.id)
      ≤ 1 := by
  have hothers : Table.total (fun h => if h.organization = organization ∧
        h.performance = performance.id ∧ h.sessionKey = sessionKey then 0
        else holdWeight now (performance.id, some seat.id) h) db.holds = 0 := by
    refine Table.total_eq_zero fun h hh => ?_
    split
    · rfl
    · rename_i hleft
      exact (hsel seat hseat).holdWeight_eq_zero hh fun hperf =>
        session_ne_of_left hc hmem horg hh hperf hleft
  rw [(hsel seat hseat).liveTickets_eq_zero, heldQty_replaced, hothers, Nat.zero_add, Nat.zero_add]
  exact holdWeight_newReservedHold_le_one hnd seat.id _

/-- A new hold of general admission occupies nothing but places of its performance. -/
theorem holdWeight_newGaHold_eq_zero {organization : Nat} {performance : Performance}
    {sessionKey : String} {priceTier : PriceTier} {n : Nat} {r : Resource}
    (hr : r ≠ (performance.id, none)) (i : Nat) :
    holdWeight now r (newGaHold now organization performance sessionKey priceTier n i) = 0 := by
  obtain ⟨q, seat⟩ := r
  unfold holdWeight
  split
  · rename_i hq
    -- Another resource of the performance is a seat, and the new hold has none.
    cases seat with
    | none => exact (hr (Prod.ext hq.1.symm rfl)).elim
    | some s => rfl
  · rfl

/-- A new hold of seats occupies nothing but these. -/
theorem holdWeight_newReservedHold_eq_zero {organization : Nat} {performance : Performance}
    {sessionKey : String} {seats : List Seat} {r : Resource}
    (hr : ∀ s ∈ seats, r ≠ (performance.id, some s.id)) (i : Nat) :
    holdWeight now r (newReservedHold now organization performance sessionKey
      (seats.map (newHoldSeat db performance)) i) = 0 := by
  obtain ⟨q, seat⟩ := r
  unfold holdWeight
  split
  · rename_i hq
    cases seat with
    | none => rfl
    | some n =>
      refine List.count_eq_zero.mpr fun hin => ?_
      obtain ⟨hs, hhs, rfl⟩ := List.mem_map.mp hin
      obtain ⟨s, hmem, rfl⟩ := List.mem_map.mp hhs
      exact hr s hmem (Prod.ext hq.1.symm (congrArg some (newHoldSeat_seat _ _ _)))
  · rfl

/-- Deleting holds holds no more than before. -/
theorem heldQty_deleted_le (p : Hold → Bool) (r : Resource) :
    heldQty { db with holds := db.holds.delete p } now r ≤ heldQty db now r := by
  show Table.total _ (db.holds.delete p) ≤ Table.total _ db.holds
  rw [Table.total_delete]
  refine Table.total_mono fun h _ => ?_
  split
  · exact Nat.zero_le _
  · exact le_refl _

/-- A sale turns into tickets at most what its hold occupied. -/
theorem liveTickets_sold_le {hold row : Hold} {order : Order} (hrow : row ∈ db.holds.rows)
    (hsame : hold.SameCart row) (hactive : hold.Active now)
    (hsold : Sold db db' hold order) (r : Resource) :
    liveTickets db' r ≤ liveTickets db r + holdWeight now r row := by
  rw [liveTickets_sold hsold]
  refine Nat.add_le_add_left ?_ _
  split
  · rename_i hq
    have hra : row.Active now := lt_of_lt_of_eq hactive hsame.2.2.2.2.1
    unfold holdWeight
    rw [if_pos ⟨hsame.2.2.1.symm.trans hq, hra⟩]
    exact soldSeats_le_demand hrow hsame r.2
  · exact Nat.zero_le _

/-- **Every effect is a move of the reservation ledger.** -/
theorem Effect.move (h : Effect now db db') (hc : Consistent db) :
    ∃ a, Ledger.Move (ledger db now) a (ledger db' now) := by
  cases h with
  | released p heq =>
    subst heq
    exact ⟨.release, .release rfl (le_refl _) (heldQty_deleted_le p)⟩
  | replacedGa organization performance sessionKey priceTier allocation n hmem horg hall _ hfit
      heq =>
    subst heq
    -- Only the places asked for gain weight, and these were counted before the cart was stored.
    refine ⟨.reserve, .reserve rfl rfl fun r => ?_⟩
    by_cases hr : r = (performance.id, none)
    · subst hr
      exact .inr (replacedGa_fits hc hmem horg hall hfit)
    · exact .inl (heldQty_replaced_le (holdWeight_newGaHold_eq_zero hr))
  | replacedReserved organization performance sessionKey seats hmem horg hnd _ hsel heq =>
    subst heq
    refine ⟨.reserve, .reserve rfl rfl fun r => ?_⟩
    -- The same, seat by seat.
    by_cases hr : ∃ s ∈ seats, r = (performance.id, some s.id)
    · obtain ⟨s, hs, rfl⟩ := hr
      exact .inr (replacedReserved_fits hc hmem horg hnd hsel hs)
    · have hother : ∀ s ∈ seats, r ≠ (performance.id, some s.id) :=
        fun s hs heq => hr ⟨s, hs, heq⟩
      exact .inl (heldQty_replaced_le (holdWeight_newReservedHold_eq_zero hother))
  | edited id f hf hedit _ heq =>
    subst heq
    refine ⟨.release, .release rfl (le_refl _) fun r => le_of_eq ?_⟩
    show Table.total _ (db.holds.update _ f hf) = Table.total _ db.holds
    rw [Table.total_update]
    refine Table.total_congr fun h _ => ?_
    split
    · exact holdWeight_congr (hedit h).1 (hedit h).2 r
    · rfl
  | sold hold row order hrow hsame hactive hsold =>
    -- The weight that the cart gives up is what the tickets take.
    refine ⟨.sell, .sell (fun r => holdWeight now r row) ?_ ?_ ?_⟩
    · show capacityOf db' = capacityOf db
      exact capacityOf_soldAllocations hsold.gaAllocations
    · exact fun r => le_of_eq (heldQty_sold hrow hsame hsold r)
    · exact liveTickets_sold_le hrow hsame hactive hsold
  | voided order ho ht hg hh _ _ =>
    -- Voiding takes tickets out of the count, and reads as a release.
    refine ⟨.release, .release ?_ (fun r => ?_) (fun r => ?_)⟩
    · show capacityOf db' = capacityOf db
      exact capacityOf_voidedAllocations hg
    · show liveTickets db' r ≤ liveTickets db r
      rw [liveTickets_voided hc ho ht r]
      exact Nat.le_add_right _ _
    · show Table.total _ db'.holds ≤ Table.total _ db.holds
      rw [hh]
  | aside ht hg hh _ _ =>
    refine ⟨.release, .release ?_ (fun r => ?_) (fun r => ?_)⟩
    · show capacityOf db' = capacityOf db
      exact capacityOf_same hg
    · show Table.total _ db'.tickets ≤ Table.total _ db.tickets
      rw [ht]
    · show Table.total _ db'.holds ≤ Table.total _ db.holds
      rw [hh]

end Effects

/-! ### Runs -/

/-- The ledger a state promises. -/
def State.ledger (s : State) : Ledger Resource := BoxOffice.ledger s.db s.now

/-- A step is a move of the ledger, followed by the release of what expires meanwhile. -/
theorem step_refines {s t : State} {op : Op} (hc : Consistent s.db)
    (h : boxOffice.step s op t) :
    Consistent t.db ∧ ∃ as, Run (Ledger.system Resource) s.ledger as t.ledger := by
  obtain ⟨hadm, rfl⟩ := h
  have heff := exec_effect hadm
  obtain ⟨a, hmove⟩ := heff.move hc
  refine ⟨heff.consistent hc, [a, .release], ?_⟩
  exact Run.cons hmove (Run.single (S := Ledger.system Resource)
    (.release rfl (le_refl _) fun r => heldQty_anti (now_le_exec op s) r))

/-- A fresh theater is consistent. -/
theorem Fresh.consistent {s : State} (h : Fresh s) : Consistent s.db where
  allocations := h.allocations
  counted a ha := by
    rw [h.sold a ha]
    unfold liveTickets Table.total
    rw [h.tickets]
    rfl
  ticketOrder t ht := by rw [h.tickets] at ht; cases ht
  holdOrg k hk := by rw [h.holds] at hk; cases hk

/-- The ledger of a fresh theater fits. -/
theorem Fresh.fits {s : State} (h : Fresh s) : s.ledger.Fits := by
  intro r
  have hsold : s.ledger.sold r = 0 := by
    show Table.total _ s.db.tickets = 0
    unfold Table.total
    rw [h.tickets]
    rfl
  have hheld : s.ledger.held r = 0 := by
    show Table.total _ s.db.holds = 0
    unfold Table.total
    rw [h.holds]
    rfl
  rw [hsold, hheld]
  exact Nat.zero_le _

/-- **Refinement.** Every run of the box office is a run of the reservation ledger. -/
theorem run_refines {s t : State} {ops : List Op} (h : Run boxOffice s ops t)
    (hc : Consistent s.db) :
    Consistent t.db ∧ ∃ as, Run (Ledger.system Resource) s.ledger as t.ledger := by
  have hcons : Consistent t.db := h.invariant (I := fun u => Consistent u.db) hc
    fun u op v hu hs => (step_refines hu hs).1
  exact ⟨hcons, h.simulates (I := fun u => Consistent u.db) hc
    (fun u op v hu hs => (step_refines hu hs).1) fun u op v hu hs => (step_refines hu hs).2⟩

/-- **No resource is promised twice**, in any state reachable from a fresh set-up. -/
theorem reachable_fits {s : State} (h : Reachable boxOffice s) :
    Consistent s.db ∧ s.ledger.Fits := by
  obtain ⟨s₀, ops, hfresh, hrun⟩ := h
  obtain ⟨hc, as, hledger⟩ := run_refines hrun hfresh.consistent
  exact ⟨hc, (Ledger.run_fits hledger hfresh.fits).1⟩

end BoxOffice

import BoxOffice.Inventory.Ledger

namespace BoxOffice

open Relational Transition

/-!
# Inventory — consistency is kept

Every effect preserves `Consistent`: `Sold.counted` and `voided_counted` are the two balances of
the allocation counter, `Effect.consistent` assembles the cases.
-/

section Effects

variable {db db' : Db} {now : Time}

/-- Selling leaves each allocation with its performance. -/
theorem soldAllocations_perf {hold : Hold} :
    (soldAllocations db hold).rows.map (·.performance)
      = db.gaAllocations.rows.map (·.performance) := by
  unfold soldAllocations
  cases allocationOf db hold.performance with
  | none => rfl
  | some a =>
    by_cases hga : hold.isGa = true
    · simp only [hga, if_true]
      unfold Table.update
      rw [List.map_map]
      refine List.map_congr_left fun b _ => ?_
      by_cases hb : b.id = a.id <;> simp [hb]
    · simp only [hga]; rfl

/-- So does voiding. -/
theorem voidedAllocations_perf {order : Order} :
    (voidedAllocations db order).rows.map (·.performance)
      = db.gaAllocations.rows.map (·.performance) := by
  unfold voidedAllocations
  cases order.performance with
  | none => rfl
  | some performance =>
    by_cases hcount : gaCount db order.id = 0
    · simp only [hcount, ne_eq, not_true_eq_false, if_false]
    · simp only [hcount, ne_eq, not_false_eq_true, if_true]
      unfold returnToAllocation
      cases allocationOf db performance with
      | none => rfl
      | some a =>
        unfold Table.update
        rw [List.map_map]
        refine List.map_congr_left fun b _ => ?_
        by_cases hb : b.id = a.id <;> simp [hb]

/-- The seatless seats of a hold are its quantity when it is a general-admission hold. -/
theorem count_none_soldSeats (hold : Hold) :
    (soldSeats db hold).count none = if hold.isGa then hold.gaQuantity else 0 := by
  have hseats : ((orderedHoldSeats db hold).map fun hs => some hs.seat).count none = 0 :=
    List.count_eq_zero.mpr (by simp)
  unfold soldSeats Hold.isGa Hold.gaQuantity
  cases hold.ga with
  | none => simpa using hseats
  | some g =>
    by_cases hq : g.quantity = 0
    · simpa [hq] using hseats
    · simp [hq]

/-- A sale counts its seatless tickets in the allocation of the performance. -/
theorem Sold.counted {hold : Hold} {order : Order} (hc : Consistent db)
    (h : Sold db db' hold order) :
    ∀ a ∈ db'.gaAllocations.rows, a.sold = liveTickets db' (a.performance, none) := by
  intro a ha
  rw [liveTickets_sold h, count_none_soldSeats]
  rw [h.gaAllocations] at ha
  unfold soldAllocations at ha
  cases hall : allocationOf db hold.performance with
  | none =>
    rw [hall] at ha
    have hne : hold.performance ≠ a.performance := fun he =>
      absurd (List.find?_eq_none.mp hall a ha) (by simp [he])
    rw [if_neg hne, hc.counted a ha, Nat.add_zero]
  | some b =>
    obtain ⟨hb, hbp⟩ := allocationOf_some hall
    rw [hall] at ha
    by_cases hga : hold.isGa = true
    · simp only [hga, if_true] at ha ⊢
      obtain ⟨c, hcm, rfl⟩ := Table.mem_update.mp ha
      by_cases hid : c.id = b.id
      · -- The allocation of the performance: the count and the tickets grow together.
        obtain rfl : c = b := Table.eq_of_key_eq hcm hb hid
        simp only [beq_self_eq_true, if_true]
        rw [if_pos hbp.symm, hc.counted c hcm]
      -- The allocation of another performance.
      · have hne : hold.performance ≠ c.performance := fun he =>
          hid (congrArg GAAllocation.id (hc.allocation_unique hcm hb (he.symm.trans hbp.symm)))
        simp only [beq_iff_eq, hid, if_false]
        rw [if_neg hne, hc.counted c hcm, Nat.add_zero]
    · simp only [hga] at ha ⊢
      rw [hc.counted a ha]
      simp

/-- Giving back the places that are no longer live makes the counts right again.  The floor at zero
    is never what does it: at least as many were counted. -/
theorem returnToAllocation_counted (hc : Consistent db) {performance n : Nat}
    (hbal : ∀ q, liveTickets db (q, none)
      = liveTickets db' (q, none) + if performance = q then n else 0) :
    ∀ a ∈ (returnToAllocation db performance n).rows,
      a.sold = liveTickets db' (a.performance, none) := by
  intro a ha
  unfold returnToAllocation at ha
  -- There is no allocation, so the performance is none of the counted ones.
  cases hall : allocationOf db performance with
  | none =>
    rw [hall] at ha
    have hne : performance ≠ a.performance := fun he =>
      absurd (List.find?_eq_none.mp hall a ha) (by simp [he])
    have hsame := hbal a.performance
    rw [if_neg hne, Nat.add_zero] at hsame
    rw [hc.counted a ha, hsame]
  | some b =>
    obtain ⟨hb, hbp⟩ := allocationOf_some hall
    rw [hall] at ha
    obtain ⟨c, hcm, rfl⟩ := Table.mem_update.mp ha
    -- The allocation that gives the places back: its count covers them.
    by_cases hid : c.id = b.id
    · obtain rfl : c = b := Table.eq_of_key_eq hcm hb hid
      simp only [beq_self_eq_true, if_true]
      have hless := hbal c.performance
      rw [if_pos hbp.symm] at hless
      have hsold := hc.counted c hcm
      omega
    · -- The allocation of another performance.
      have hne : performance ≠ c.performance := fun he =>
        hid (congrArg GAAllocation.id (hc.allocation_unique hcm hb (he.symm.trans hbp.symm)))
      simp only [beq_iff_eq, hid, if_false]
      have hsame := hbal c.performance
      rw [if_neg hne, Nat.add_zero] at hsame
      rw [hc.counted c hcm, hsame]

/-- **A void** takes its seatless tickets off the allocation. -/
theorem voided_counted {order : Order} (hc : Consistent db) (ho : order ∈ db.orders.rows)
    (ht : db'.tickets = voidedTickets db.tickets order.id)
    (hg : db'.gaAllocations = voidedAllocations db order) :
    ∀ a ∈ db'.gaAllocations.rows, a.sold = liveTickets db' (a.performance, none) := by
  intro a ha
  rw [hg] at ha
  unfold voidedAllocations at ha
  cases hp : order.performance with
  | none =>
    rw [hp] at ha
    have hbal := liveTickets_voided hc ho ht (a.performance, none)
    rw [hp, if_neg (by simp), Nat.add_zero] at hbal
    rw [hc.counted a ha, hbal]
  | some performance =>
    simp only [hp] at ha
    -- Balance of the performance of the order, and of the others.
    have hbal : ∀ q, liveTickets db (q, none) = liveTickets db' (q, none) +
        if performance = q then gaCount db order.id else 0 := by
      intro q
      have := liveTickets_voided hc ho ht (q, none)
      rw [hp] at this
      simpa only [Option.some.injEq, gaCount] using this
    by_cases hcount : gaCount db order.id = 0
    · simp only [hcount, ne_eq, not_true_eq_false, if_false] at ha
      have hsame := hbal a.performance
      rw [hcount, ite_self, Nat.add_zero] at hsame
      rw [hc.counted a ha, hsame]
    · simp only [hcount, ne_eq, not_false_eq_true, if_true] at ha
      exact returnToAllocation_counted hc hbal a ha

/-- A ticket written by a sale belongs to the order of the sale. -/
theorem Sold.ticketOrder {hold : Hold} {order : Order} (hc : Consistent db)
    (h : Sold db db' hold order) :
    ∀ t ∈ db'.tickets.rows, ∃ o ∈ db'.orders.rows,
      o.id = t.order ∧ o.performance = some t.performance := by
  intro t ht
  obtain ⟨mk, hk, horders, hmk⟩ := h.orders
  rw [h.tickets] at ht
  rw [horders]
  rcases Table.mem_insertMany ht with ht | ⟨seat, -, i, -, rfl⟩
  · obtain ⟨o, ho, hid, hp⟩ := hc.ticketOrder t ht
    exact ⟨o, Table.mem_insert.mpr (.inl ho), hid, hp⟩
  · exact ⟨order, Table.mem_insert.mpr (.inr hmk.symm), rfl, h.performance⟩

/-- Tickets keep their orders when the orders are kept and tickets only change status. -/
theorem ticketOrder_of_kept (hc : Consistent db) (hkept : OrdersKept db db')
    (ht : ∀ t' ∈ db'.tickets.rows, ∃ t ∈ db.tickets.rows,
      t'.order = t.order ∧ t'.performance = t.performance) :
    ∀ t ∈ db'.tickets.rows, ∃ o ∈ db'.orders.rows,
      o.id = t.order ∧ o.performance = some t.performance := by
  intro t' ht'
  obtain ⟨t, ht, hord, hperf⟩ := ht t' ht'
  obtain ⟨o, ho, hid, hp⟩ := hc.ticketOrder t ht
  obtain ⟨o', ho', hid', hp'⟩ := hkept o ho
  exact ⟨o', ho', by rw [hid', hid, hord], by rw [hp', hp, hperf]⟩

/-- Replacing a session's hold by one of the same organization keeps the holds in order. -/
theorem holdOrg_replaced (hc : Consistent db) {organization : Nat} {performance : Performance}
    {sessionKey : String} {mk : Nat → Hold} {hk} (hmem : performance ∈ db.performances.rows)
    (horg : performance.organization = organization)
    (hmk : ∀ i, (mk i).performance = performance.id ∧ (mk i).organization = organization) :
    ∀ h ∈ (replaceSessionHold db organization performance.id sessionKey mk hk).1.holds.rows,
      ∀ p ∈ db.performances.rows, p.id = h.performance → p.organization = h.organization := by
  intro h hh p hp hpid
  rcases mem_replaceSessionHold.mp hh with hh | rfl
  · exact hc.holdOrg h (Table.mem_delete.mp hh).1 p hp hpid
  · rw [(hmk _).1] at hpid
    rw [(hmk _).2, Table.eq_of_key_eq hp hmem hpid, horg]

/-- **Consistency is kept.** -/
theorem Effect.consistent (h : Effect now db db') (hc : Consistent db) : Consistent db' := by
  have hkeep : ∀ t' ∈ db.tickets.rows, ∃ t ∈ db.tickets.rows,
      t'.order = t.order ∧ t'.performance = t.performance := fun t ht => ⟨t, ht, rfl, rfl⟩
  cases h with
  | released p heq =>
    subst heq
    exact ⟨hc.allocations, hc.counted, hc.ticketOrder,
      fun h hh => hc.holdOrg h (Table.mem_delete.mp hh).1⟩
  | replacedGa organization performance sessionKey priceTier allocation n hmem horg _ _ _ heq =>
    subst heq
    exact ⟨hc.allocations, hc.counted, hc.ticketOrder,
      holdOrg_replaced hc hmem horg fun _ => ⟨rfl, rfl⟩⟩
  | replacedReserved organization performance sessionKey seats hmem horg _ _ _ heq =>
    subst heq
    exact ⟨hc.allocations, hc.counted, hc.ticketOrder,
      holdOrg_replaced hc hmem horg fun _ => ⟨rfl, rfl⟩⟩
  | edited id f hf hedit _ heq =>
    subst heq
    -- An edited cart keeps its organization and its performance.
    refine ⟨hc.allocations, hc.counted, hc.ticketOrder, fun h hh p hp hpid => ?_⟩
    obtain ⟨k, hk, rfl⟩ := mem_editHold.mp hh
    have hsame := (hedit k).1
    by_cases hid : k.id = id
    · rw [if_pos hid] at hpid ⊢
      rw [hsame.2.1]
      exact hc.holdOrg k hk p hp (hpid.trans hsame.2.2.1)
    · rw [if_neg hid] at hpid ⊢
      exact hc.holdOrg k hk p hp hpid
  | sold hold row order hrow hsame _ hsold =>
    -- The allocation counts the places that are now tickets.
    refine ⟨?_, hsold.counted hc, hsold.ticketOrder hc, ?_⟩
    · rw [hsold.gaAllocations, soldAllocations_perf]
      exact hc.allocations
    · rw [hsold.holds, hsold.performances]
      exact fun h hh => hc.holdOrg h (Table.mem_delete.mp hh).1
  | voided order ho ht hg hh hp hkept =>
    -- Voided tickets leave the count, and keep their order and performance.
    refine ⟨?_, voided_counted hc ho ht hg, ticketOrder_of_kept hc hkept ?_, ?_⟩
    · rw [hg, voidedAllocations_perf]
      exact hc.allocations
    · intro t' ht'
      rw [ht] at ht'
      obtain ⟨t, htm, rfl⟩ := Table.mem_update.mp ht'
      exact ⟨t, htm, by split <;> rfl, by split <;> rfl⟩
    · rw [hh, hp]
      exact hc.holdOrg
  | aside ht hg hh hp hkept =>
    refine ⟨hg ▸ hc.allocations, ?_, ticketOrder_of_kept hc hkept (ht ▸ hkeep), ?_⟩
    · intro a ha
      unfold liveTickets
      rw [ht]
      exact hc.counted a (hg ▸ ha)
    · rw [hh, hp]
      exact hc.holdOrg

end Effects

end BoxOffice

import BoxOffice.Inventory.Refinement

namespace BoxOffice

open Relational Transition

/-!
# Inventory — an active hold can be fulfilled

When the ledger fits, the re-checks of the fulfilling functions cannot fail for a stored,
unexpired hold: `mintTickets_isOk` is the inventory step, and `fulfillHold_active`,
`fulfillHoldWithPass_active`, `fulfillCheckoutSession_active` are the three routes to it.
-/

section Fulfilment

variable {db : Db} {now : Time} {hold row : Hold}

/-- The seats of an active hold are distinct and none of them is sold. -/
theorem seats_free_of_fits (hfit : (ledger db now).Fits) (hrow : row ∈ db.holds.rows)
    (hactive : row.Active now) :
    (row.holdSeats.map (·.seat)).Nodup ∧
      ∀ hs ∈ row.holdSeats, isTicketed db row.performance hs.seat = false := by
  -- A seat has room for one: a live ticket, or one place in a cart.
  have hbound : ∀ seat, liveTickets db (row.performance, some seat)
      + (row.holdSeats.map (·.seat)).count seat ≤ 1 := by
    intro seat
    have hw : holdWeight now (row.performance, some seat) row
        = (row.holdSeats.map (·.seat)).count seat := if_pos ⟨rfl, hactive⟩
    have hle : holdWeight now (row.performance, some seat) row
        ≤ heldQty db now (row.performance, some seat) := Table.le_total hrow
    have hr : liveTickets db (row.performance, some seat)
        + heldQty db now (row.performance, some seat) ≤ 1 := hfit (row.performance, some seat)
    omega
  constructor
  · exact List.nodup_iff_count_le_one.mpr fun seat => by have := hbound seat; omega
  · intro hs hhs
    have hcount : 1 ≤ (row.holdSeats.map (·.seat)).count hs.seat :=
      List.count_pos_iff.mpr (List.mem_map.mpr ⟨hs, hhs, rfl⟩)
    -- The cart takes up the room, so no live ticket has it.
    have hzero : liveTickets db (row.performance, some hs.seat) = 0 := by
      have := hbound hs.seat
      omega
    unfold isTicketed
    rw [List.any_eq_false]
    intro t ht hlive
    simp only [Bool.and_eq_true, beq_iff_eq, bne_iff_ne] at hlive
    have hw : ticketWeight (row.performance, some hs.seat) t = 1 :=
      if_pos ⟨hlive.1.1, hlive.1.2, hlive.2⟩
    have hle : ticketWeight (row.performance, some hs.seat) t
        ≤ liveTickets db (row.performance, some hs.seat) := Table.le_total ht
    omega

/-- The seats of an active hold can all be minted. -/
theorem fulfillReserved_isOk {order : Order} (hfit : (ledger db now).Fits)
    (hrow : row ∈ db.holds.rows) (hsame : Hold.SameCart hold row) (hactive : row.Active now) :
    ∃ db', fulfillReserved db hold order = .ok db' := by
  obtain ⟨hnd, hfree⟩ := seats_free_of_fits hfit hrow hactive
  have hperm : (orderedHoldSeats db hold).Perm row.holdSeats := by
    unfold orderedHoldSeats
    rw [holdSeatsOf_row hrow hsame]
    exact List.perm_insertionSort _ _
  have hfree' : ∀ hs ∈ orderedHoldSeats db hold,
      isTicketed db hold.performance hs.seat = false := by
    intro hs hhs
    rw [hsame.2.2.1]
    exact hfree hs (hperm.mem_iff.mp hhs)
  have hnone : ((orderedHoldSeats db hold).map (·.seat)).filter
      (fun s => isTicketed db hold.performance s) = [] := by
    refine List.filter_eq_nil_iff.mpr fun s hs => ?_
    obtain ⟨x, hx, rfl⟩ := List.mem_map.mp hs
    simp [hfree' x hx]
  unfold fulfillReserved
  dsimp only
  rw [if_neg (not_not.mpr hnone)]
  exact mintSeats_isOk ((hperm.map _).nodup_iff.mpr hnd) hfree'

/-- The places of an active hold are still there. -/
theorem fulfillGa_isOk {order : Order} {g : GaSelection}
    (hcount : ∀ a ∈ db.gaAllocations.rows, a.sold = liveTickets db (a.performance, none))
    (hfit : (ledger db now).Fits) (hrow : row ∈ db.holds.rows)
    (hsame : Hold.SameCart hold row) (hactive : row.Active now) (hg : hold.ga = some g)
    (hq : g.quantity ≠ 0) : ∃ db', fulfillGa db hold g order = .ok db' := by
  have hw : holdWeight now (row.performance, none) row = g.quantity := by
    unfold holdWeight
    rw [if_pos ⟨rfl, hactive⟩]
    show row.gaQuantity = g.quantity
    unfold Hold.gaQuantity
    rw [← hsame.2.2.2.2.2, hg]
    rfl
  have hle : holdWeight now (row.performance, none) row
      ≤ heldQty db now (row.performance, none) := Table.le_total hrow
  have hr : liveTickets db (row.performance, none) + heldQty db now (row.performance, none)
      ≤ capacityOf db (row.performance, none) := hfit (row.performance, none)
  rw [← hsame.2.2.1] at hle hr hw
  unfold fulfillGa
  cases ha : allocationOf db hold.performance with
  | none =>
    -- Without an allocation there is no capacity, so the hold could not be there.
    have hcap := capacityOf_none ha
    omega
  | some a =>
    obtain ⟨hamem, haperf⟩ := allocationOf_some ha
    have hcap := capacityOf_some ha
    have hsold := hcount a hamem
    rw [haperf] at hsold
    dsimp only
    rw [if_neg (by omega)]
    exact ⟨_, rfl⟩

/-- The inventory step of an active hold goes through. -/
theorem mintTickets_isOk {order : Order}
    (hcount : ∀ a ∈ db.gaAllocations.rows, a.sold = liveTickets db (a.performance, none))
    (hfit : (ledger db now).Fits) (hrow : row ∈ db.holds.rows)
    (hsame : Hold.SameCart hold row) (hactive : hold.Active now) :
    ∃ db', mintTickets db hold order = .ok db' := by
  have hra : row.Active now := lt_of_lt_of_eq hactive hsame.2.2.2.2.1
  unfold mintTickets
  cases hg : hold.ga with
  | none => exact fulfillReserved_isOk hfit hrow hsame hra
  | some g =>
    by_cases hq : g.quantity = 0
    · simp only [hq, ne_eq, not_true_eq_false, if_false]
      exact fulfillReserved_isOk hfit hrow hsame hra
    · simp only [hq, ne_eq, not_false_eq_true, if_true]
      exact fulfillGa_isOk hcount hfit hrow hsame hra hg hq

/-- Paying for an active hold succeeds, unless the session id is already in use. -/
theorem fulfillHold_active {args : FulfillArgs} (hc : Consistent db)
    (hfit : (ledger db now).Fits) (hrow : HoldExists db hold) (hactive : hold.Active now) :
    (∃ db' order, fulfillHold db now hold args = .ok (db', order)) ∨
      (sessionTaken db.orders hold.organization args.stripeCheckoutSessionId = true ∧
        ∃ c, fulfillHold db now hold args = .error (.integrity c)) := by
  obtain ⟨row, hmem, hsame⟩ := hrow
  unfold fulfillHold
  rw [if_neg (not_le.mpr hactive)]
  rcases hg : attachGuest db.guests hold.organization args.buyerEmail args.buyerName
    args.marketingOptIn now with ⟨guests, guest⟩
  dsimp only
  by_cases htaken : sessionTaken db.orders hold.organization args.stripeCheckoutSessionId = true
  · have ho : createOrder db.orders (holdOrder db hold args guest)
        = .error (.integrity "unique_stripe_checkout_session_per_org") := if_pos htaken
    rw [ho]
    exact .inr ⟨htaken, _, rfl⟩
  · have ho : createOrder db.orders (holdOrder db hold args guest)
        = .ok (db.orders.insert (holdOrder db hold args guest),
            holdOrder db hold args guest db.orders.nextId) := if_neg htaken
    obtain ⟨db₁, hm⟩ := (@mintTickets_isOk { db with
        guests := guests
        orders := db.orders.insert (holdOrder db hold args guest) } _ _ _
      (holdOrder db hold args guest db.orders.nextId))
      hc.counted hfit hmem hsame hactive
    rw [ho]
    dsimp only
    rw [hm]
    exact .inl ⟨_, _, rfl⟩

/-- A pass check only ever fails as a redemption error. -/
theorem checkPass_error {p : PassPurchase} {performance : Performance} {e : ServiceError}
    (h : checkPass db now hold p performance = .error e) : ∃ m, e = .passRedemption m := by
  unfold checkPass at h
  cases hk : p.kind with
  | flex => simp only [hk] at h; split_ifs at h <;> (cases h; exact ⟨_, rfl⟩)
  | season => simp only [hk] at h; split_ifs at h <;> (cases h; exact ⟨_, rfl⟩)

/-- Redemptions fail only for a ticket or an event that is taken. -/
theorem createRedemptions_error {p : PassPurchase} {order : Order} {performance : Performance}
    {items : List OrderItem} {redemptions : Table PassRedemption} {l : List Ticket}
    {e : ServiceError} (h : createRedemptions p order performance items redemptions l = .error e) :
    ∃ m, e = .passRedemption m := by
  induction l generalizing redemptions with
  | nil => cases h
  | cons ticket rest ih =>
    unfold createRedemptions at h
    dsimp only at h
    split_ifs at h
    · cases h; exact ⟨_, rfl⟩
    · exact ih h

/-- Redeeming a pass on an active hold is never refused for want of inventory. -/
theorem fulfillHoldWithPass_active {passPurchase : Nat} {buyerEmail buyerName : String}
    {marketingOptIn : Bool} (hc : Consistent db) (hfit : (ledger db now).Fits)
    (hrow : HoldExists db hold) (hactive : hold.Active now) (m : String) :
    fulfillHoldWithPass db now hold passPurchase buyerEmail buyerName marketingOptIn
      ≠ .error (.availabilityChanged m) := by
  obtain ⟨row, hmem, hsame⟩ := hrow
  intro h
  unfold fulfillHoldWithPass at h
  -- Every refusal but that of the inventory has another text; the branches go as the body does.
  rw [if_neg (not_le.mpr hactive)] at h
  by_cases hpromo : hold.promoCode ≠ none ∨ hold.promoCodeText ≠ ""
  · rw [if_pos hpromo] at h; cases h
  by_cases hgift : 0 < holdDonation hold
  · rw [if_neg hpromo, if_pos hgift] at h; cases h
  rw [if_neg hpromo, if_neg hgift] at h
  cases hp : db.passPurchases.get? passPurchase with
  | none => simp only [hp] at h; cases h
  | some p =>
    cases hperf : db.performances.get? hold.performance with
    | none => simp only [hp, hperf] at h; cases h
    | some performance =>
      simp only [hp, hperf] at h
      cases hck : checkPass db now hold p performance with
      | error e =>
        obtain ⟨m', rfl⟩ := checkPass_error hck
        simp only [hck] at h
        cases h
      | ok u =>
        rcases hg : redemptionGuest db now hold p buyerEmail buyerName marketingOptIn
          with ⟨guests, guest⟩
        have ho : createOrder db.orders (redemptionOrder hold buyerEmail buyerName guest)
            = .ok (db.orders.insert (redemptionOrder hold buyerEmail buyerName guest),
                redemptionOrder hold buyerEmail buyerName guest db.orders.nextId) := rfl
        -- The cart fits, so its tickets can be minted.
        obtain ⟨db₁, hm⟩ := (@mintTickets_isOk { db with
            guests := guests
            orders := db.orders.insert (redemptionOrder hold buyerEmail buyerName guest) } _ _ _
          (redemptionOrder hold buyerEmail buyerName guest db.orders.nextId))
          hc.counted hfit hmem hsame hactive
        simp only [hck, hg, ho, hm] at h
        split at h
        · rename_i e hr
          obtain ⟨m', rfl⟩ := createRedemptions_error hr
          cases h
        · cases h

/-- The webhook never finds the availability of an active hold changed. -/
theorem fulfillCheckoutSession_active {organization : Nat} {session : CheckoutSession}
    (hc : Consistent db) (hfit : (ledger db now).Fits) (m : String) :
    fulfillCheckoutSession db now organization session ≠ .error (.availabilityChanged m) := by
  intro h
  unfold fulfillCheckoutSession at h
  cases he : existingOrder db organization session.id with
  | some o => simp only [he] at h; cases h
  | none =>
    simp only [he] at h
    cases ht : readTarget db now organization session with
    | error e =>
      simp only [ht] at h
      cases h
      exact readTarget_ne_availabilityChanged ht
    | ok target =>
      simp only [ht] at h
      -- Only carts take stock; gifts and passes fail for other reasons.
      cases target with
      | hold hold =>
        obtain ⟨hmem, horg, hactive⟩ := readTarget_hold ht
        rcases (@fulfillHold_active _ _ _ (sessionArgs session)) hc hfit
          ⟨hold, hmem, rfl, rfl, rfl, rfl, rfl, rfl⟩ hactive with ⟨db', o, hok⟩ | ⟨htaken, -⟩
        · simp only [fulfillTarget, fulfillBody, hok] at h
          cases h
        · -- A taken session id would have shown up as an existing order.
          rw [horg] at htaken
          exact absurd htaken (by simp [sessionTaken_of_existingOrder_none he, sessionArgs])
      | donation amount campaign =>
        rcases fulfillDonation_cases db now organization amount campaign (sessionArgs session)
          with ⟨r, hr⟩ | ⟨c, hr⟩
        · simp only [fulfillTarget, fulfillBody, hr] at h; cases h
        · simp only [fulfillTarget, fulfillBody, hr, he] at h; cases h
      | pass product =>
        rcases fulfillPassPurchase_cases db now organization product (sessionArgs session)
          with ⟨r, hr⟩ | ⟨c, hr⟩ | ⟨t, hr⟩
        · simp only [fulfillTarget, fulfillBody, hr] at h; cases h
        · simp only [fulfillTarget, fulfillBody, hr, he] at h; cases h
        · simp only [fulfillTarget, fulfillBody, hr] at h; cases h

end Fulfilment

end BoxOffice

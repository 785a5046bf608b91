import BoxOffice.Orders.CartIsolation
import BoxOffice.Tenants.Keys

namespace BoxOffice

open Relational Transition
open Table (Refers Persists WrittenBy)

/-!
# Tenants — isolation

Every operation of the shop is about one organization, or it is the sweep of expired carts.

* `Op.tenant` — which one, read off the arguments or off the order that is named;
* `exec_confined` — an operation writes rows of that organization only, with keys that stay at
  home;
* `keys_stay_home` — so the keys of every reachable state stay at home;
* `tenants_isolated` — and whatever the others do, an organization's rows are as they were, up to
  the carts that expired.
-/

/-- The organization an operation is about. -/
def Op.tenant (db : Db) : Op → Option Nat
  | .setGaHold organization _ _ _ _ => some organization
  | .setReservedHold organization _ _ _ => some organization
  | .releaseHold organization _ _ => some organization
  | .releaseHoldById organization _ _ => some organization
  | .applyPromoCode organization _ _ _ => some organization
  | .removePromoCode organization _ _ => some organization
  | .setHoldDonation organization _ _ _ _ => some organization
  | .clearHoldDonation organization _ _ => some organization
  | .fulfillHold hold _ => some hold.organization
  | .fulfillHoldWithPass hold _ _ _ _ => some hold.organization
  | .fulfillDonation organization _ _ _ => some organization
  | .fulfillPassPurchase organization _ _ => some organization
  | .fulfillCheckoutSession organization _ => some organization
  | .voidOrder order => (db.orders.get? order).map (·.organization)
  | .refundOrder order _ => (db.orders.get? order).map (·.organization)
  | .orderCancel order => (db.orders.get? order).map (·.organization)
  | .advance _ => none
  | .releaseExpiredHolds => none

section Writes

variable {n : Nat} {db db' : Db} {now : Time}

/-- Nothing was written. -/
theorem Confined.refl (n : Nat) (db : Db) : Confined n db db where
  guests := .refl _
  otherGuests := fun _ _ => rfl
  promoCodes := .refl _
  otherCodes := fun _ _ => rfl
  gaAllocations := .refl ..
  holds := .refl ..
  orders := .refl ..
  ordersStay := .refl _
  orderItems := .refl ..
  tickets := .refl ..
  payments := .refl ..
  passPurchases := .refl ..
  passesStay := .refl _
  passRedemptions := .refl ..
  rest := ⟨_, _, _, _, _, _, _, _, _, _, rfl⟩

/-- The allocation of a performance of the organization is one of its rows. -/
theorem KeysHome.allocation (hk : KeysHome db) {performance : Nat} {a : GAAllocation}
    (ha : allocationOf db performance = some a) (hp : db.performances.Owns n performance) :
    a.organization = n := by
  have hperf : a.performance = performance := by simpa using List.find?_some ha
  exact hk.allocations.tenant_eq (List.mem_of_find?_eq_some ha)
    (List.mem_singleton.mpr hperf.symm) hp

/-! ### Carts -/

/-- A write of holds. -/
theorem Confined.of_holds {holds : Table Hold}
    (h : WrittenBy n (fun h => h) (fun h => db.performances.Owns n h.performance ∧
      (∀ s ∈ h.holdSeats, db.seats.Owns n s.seat) ∧
      ∀ c ∈ h.promoCode, db.promoCodes.Owns n c) db.holds holds) :
    Confined n db { db with holds := holds } :=
  { Confined.refl n db with holds := h, rest := ⟨_, _, _, _, _, _, _, _, _, _, rfl⟩ }

/-- Replacing the session's hold by one that is at home. -/
theorem replaceSessionHold_confined {performance : Nat} {sessionKey : String} {mk : Nat → Hold}
    {hk} (horg : ∀ i, (mk i).organization = n)
    (hperf : ∀ i, db.performances.Owns n (mk i).performance)
    (hseats : ∀ i, ∀ s ∈ (mk i).holdSeats, db.seats.Owns n s.seat)
    (hcode : ∀ i, (mk i).promoCode = none) :
    Confined n db (replaceSessionHold db n performance sessionKey mk hk).1 := by
  refine .of_holds ?_
  refine WrittenBy.trans (fun _ _ h hnew => h ▸ hnew) (.delete fun h _ hp => ?_)
    (.insert (Table.insert_rows mk hk) (horg _) ⟨hperf _, hseats _, fun c hc => ?_⟩)
  · rw [Bool.and_eq_true, Bool.and_eq_true] at hp
    exact beq_iff_eq.mp hp.1.1
  · rw [hcode] at hc
    cases hc

/-- Releasing a hold writes carts of its organization only. -/
theorem releaseHold_confined {performance : Nat} {sessionKey : String} :
    Confined n db (releaseHold db n performance sessionKey) := by
  refine .of_holds (.delete fun h _ hp => ?_)
  rw [Bool.and_eq_true, Bool.and_eq_true] at hp
  exact beq_iff_eq.mp hp.1.1

/-- Rewriting a cart of the organization. -/
theorem editHold_confined (hk : KeysHome db) {hold : Hold} {f : Hold → Hold} {hf}
    (hmem : hold ∈ db.holds.rows) (horg : hold.organization = n) (hedit : CartEdit f)
    (hcode : ∀ c ∈ (f hold).promoCode, c ∈ hold.promoCode ∨ db.promoCodes.Owns n c) :
    Confined n db (editHold db hold.id f hf) := by
  have hsame : ∀ h ∈ db.holds.rows, (h.id == hold.id) = true → h = hold := fun h hh hid =>
    Table.eq_of_key_eq hh hmem (beq_iff_eq.mp hid)
  refine .of_holds ⟨fun m hm => ?_, fun h' hh' => ?_⟩
  · refine Table.rowsOf_update rfl (fun h => (hedit h).1.2.1) fun h hh hid heq => hm ?_
    rw [hsame h hh hid] at heq
    exact heq.symm.trans horg
  · obtain ⟨h, hh, rfl⟩ := Table.mem_update.mp hh'
    split_ifs with hid
    · rw [hsame h hh hid]
      obtain ⟨⟨-, horg', hperf, -⟩, hseats⟩ := hedit hold
      refine .inr ⟨horg'.trans horg, ?_, fun s hs => ?_, fun c hc => ?_⟩
      · rw [hperf, ← horg]
        exact hk.carts hold hmem _ (List.mem_singleton.mpr rfl)
      · rw [hseats] at hs
        rw [← horg]
        exact hk.heldSeats hold hmem _ (List.mem_map_of_mem hs)
      · refine (hcode c hc).elim (fun hc => ?_) fun hc => hc
        rw [← horg]
        exact hk.heldCodes hold hmem _ (Option.mem_toList.mpr hc)
    · exact .inl ⟨h, hh, rfl, rfl⟩

/-! ### Sales -/

/-- The stored row of the hold that is sold. -/
theorem KeysHome.sold (hk : KeysHome db) {hold : Hold} (hh : HoldExists db hold) :
    db.performances.Owns hold.organization hold.performance ∧
      (∀ s ∈ soldSeats db hold, ∀ i ∈ s, db.seats.Owns hold.organization i) ∧
      ∀ h ∈ db.holds.rows, h.id = hold.id → h.organization = hold.organization := by
  obtain ⟨row, hrow, hid, horg, hperf, -, -, -⟩ := hh
  have hget : db.holds.get? hold.id = some row := Table.get?_eq_some.mpr ⟨hrow, hid.symm⟩
  rw [horg, hperf]
  refine ⟨hk.carts row hrow _ (List.mem_singleton.mpr rfl), fun s hs i hi => ?_,
    fun h hh hkey => ?_⟩
  · have hseats : ∀ x ∈ (orderedHoldSeats db hold).map fun hs => some hs.seat,
        ∀ i ∈ x, db.seats.Owns row.organization i := fun x hx i hi => by
      obtain ⟨hs, hmem, rfl⟩ := List.mem_map.mp hx
      unfold orderedHoldSeats at hmem
      rw [List.mem_insertionSort] at hmem
      unfold holdSeatsOf at hmem
      rw [hget] at hmem
      rw [← Option.some.inj (Option.mem_def.mp hi)]
      exact hk.heldSeats row hrow _ (List.mem_map_of_mem hmem)
    unfold soldSeats at hs
    split at hs
    · split_ifs at hs
      · rw [List.eq_of_mem_replicate hs] at hi
        cases hi
      · exact hseats s hs i hi
    · exact hseats s hs i hi
  · rw [Table.eq_of_key_eq hh hrow (hkey.trans hid)]

/-- A sale writes its own allocation. -/
theorem soldAllocations_writtenBy (hk : KeysHome db) {hold : Hold}
    (hp : db.performances.Owns n hold.performance) :
    WrittenBy n (·.performance) (fun _ => False) db.gaAllocations (soldAllocations db hold) := by
  unfold soldAllocations
  split
  · rename_i a ha
    split_ifs
    · refine .update rfl (fun _ => ⟨rfl, rfl⟩) fun x hx hid => ?_
      rw [Table.eq_of_key_eq hx (List.mem_of_find?_eq_some ha) (beq_iff_eq.mp hid)]
      exact hk.allocation ha hp
    · exact .refl ..
  · exact .refl ..

/-- A sale writes its own tickets. -/
theorem newTicket_writtenBy {orders : Table Order} {hold : Hold} {order : Order}
    (horg : order.organization = n) (horder : orders.Owns n order.id)
    (hp : db.performances.Owns n hold.performance)
    (hseats : ∀ s ∈ soldSeats db hold, ∀ i ∈ s, db.seats.Owns n i) :
    WrittenBy n (fun t => (t.order, t.performance, t.seat))
      (fun t => orders.Owns n t.order ∧ db.performances.Owns n t.performance ∧
        ∀ s ∈ t.seat, db.seats.Owns n s)
      db.tickets (db.tickets.insertMany (newTicket hold order) (soldSeats db hold)) :=
  .append Table.insertMany_rows fun t ht => by
    obtain ⟨i, hi, rfl⟩ := List.mem_mapIdx.mp ht
    exact ⟨horg, horder, hp, hseats _ (List.getElem_mem hi)⟩

/-- A sale writes its own order lines. -/
theorem ticketItem_writtenBy {orders : Table Order} {items : Table OrderItem} {order : Order}
    (horg : order.organization = n) (horder : orders.Owns n order.id) (lines : List Line) :
    WrittenBy n (·.order) (fun i => orders.Owns n i.order) items
      (items.insertMany (ticketItem order) lines) :=
  .append Table.insertMany_rows fun i hi => by
    obtain ⟨j, hj, rfl⟩ := List.mem_mapIdx.mp hi
    exact ⟨horg, horder⟩

/-- The line of a gift is the order's own too. -/
theorem withDonation_writtenBy {orders : Table Order} {items : Table OrderItem} {order : Order}
    (horg : order.organization = n) (horder : orders.Owns n order.id) (hold : Hold) :
    WrittenBy n (·.order) (fun i => orders.Owns n i.order) items
      (withDonation items hold order) := by
  unfold withDonation
  split_ifs
  · exact .insert rfl horg horder
  · exact .refl ..

/-- The sale of a cart stays within its organization. -/
theorem fulfillHold_confined {hold : Hold} {args : FulfillArgs} {order : Order}
    (hk : KeysHome db) (hh : HoldExists db hold)
    (hcode : ∀ c ∈ db.promoCodes.rows, c.id ∈ hold.promoCode →
      c.organization = hold.organization)
    (h : fulfillHold db now hold args = .ok (db', order)) :
    Confined hold.organization db db' := by
  obtain ⟨hp, hseats, hrows⟩ := hk.sold hh
  obtain ⟨guests, guest, hg, -, -, rfl, rfl⟩ := fulfillHold_ok h
  have hguests := attachGuest_guestsOf hg
  have horder : (db.orders.insert (holdOrder db hold args guest)).Owns hold.organization db.orders.nextId :=
    ⟨_, Table.mem_insert_new, rfl, rfl⟩
  -- The code to be redeemed is one of the organization's.
  have hcodes : ∀ q ∈ db.promoCodes.rows, ∀ c ∈ hold.promoCode, (q.id == c) = true →
      q.organization = hold.organization := fun q hq c hc hid => by
    rw [beq_iff_eq] at hid
    exact hcode q hq (hid ▸ hc)
  refine {
    guests := hguests.persists
    otherGuests := hguests.others
    promoCodes := ?_
    otherCodes := fun m hm => ?_
    gaAllocations := soldAllocations_writtenBy hk hp
    holds := .delete fun x hx hid => hrows x hx (beq_iff_eq.mp hid)
    orders := .insert rfl rfl ⟨fun p hp' => ?_, hguests.attached⟩
    ordersStay := Table.persists_append rfl
    orderItems := .trans (fun _ _ he hi => he ▸ hi)
      (ticketItem_writtenBy (by rfl) horder _) (withDonation_writtenBy (by rfl) horder hold)
    tickets := newTicket_writtenBy rfl horder hp hseats
    payments := .insert rfl rfl horder
    passPurchases := .refl ..
    passesStay := .refl _
    passRedemptions := .refl ..
    rest := ⟨_, _, _, _, _, _, _, _, _, _, rfl⟩ }
  · unfold withRedemption
    cases hold.promoCode with
    | none => exact .refl _
    | some c => exact Table.persists_update rfl fun _ => ⟨rfl, rfl⟩
  · unfold withRedemption
    cases hc : hold.promoCode with
    | none => rfl
    | some c =>
      exact Table.rowsOf_update rfl (fun _ => rfl) fun q hq hid heq =>
        hm (heq.symm.trans (hcodes q hq c hc hid))
  · rw [← Option.some.inj hp']
    exact hp

/-- A donation stays within its organization. -/
theorem fulfillDonation_confined {amount : Cents} {campaign : Option Nat} {args : FulfillArgs}
    {order : Order} (h : fulfillDonation db now n amount campaign args = .ok (db', order)) :
    Confined n db db' := by
  obtain ⟨guests, guest, hg, -, rfl, rfl⟩ := fulfillDonation_ok h
  have hguests := attachGuest_guestsOf hg
  have horder : (db.orders.insert (plainOrder n args guest amount)).Owns n db.orders.nextId :=
    ⟨_, Table.mem_insert_new, rfl, rfl⟩
  exact { Confined.refl n db with
    guests := hguests.persists
    otherGuests := hguests.others
    orders := .insert rfl rfl ⟨fun _ hp => absurd hp (by simp [plainOrder]), hguests.attached⟩
    ordersStay := Table.persists_append rfl
    orderItems := .insert rfl rfl horder
    tickets := .refl ..
    payments := .insert rfl rfl horder
    passPurchases := .refl ..
    passRedemptions := .refl ..
    rest := ⟨_, _, _, _, _, _, _, _, _, _, rfl⟩ }

/-- The sale of a pass stays within its organization. -/
theorem fulfillPassPurchase_confined {product : PassProduct} {args : FulfillArgs} {order : Order}
    (h : fulfillPassPurchase db now n product args = .ok (db', order)) : Confined n db db' := by
  obtain ⟨guests, guest, hg, -, -, rfl, rfl⟩ := fulfillPassPurchase_ok h
  have hguests := attachGuest_guestsOf hg
  have horder : (db.orders.insert (plainOrder n args guest product.price)).Owns n db.orders.nextId :=
    ⟨_, Table.mem_insert_new, rfl, rfl⟩
  exact { Confined.refl n db with
    guests := hguests.persists
    otherGuests := hguests.others
    orders := .insert rfl rfl ⟨fun _ hp => absurd hp (by simp [plainOrder]), hguests.attached⟩
    ordersStay := Table.persists_append rfl
    orderItems := .insert rfl rfl horder
    tickets := .refl ..
    payments := .insert rfl rfl horder
    passPurchases := .insert rfl rfl ⟨horder, hguests.attached⟩
    passesStay := Table.persists_append rfl
    passRedemptions := .refl ..
    rest := ⟨_, _, _, _, _, _, _, _, _, _, rfl⟩ }

/-- The guest of a redemption, which is the holder of a pass of the organization. -/
theorem redemptionGuest_guestsOf {hold : Hold} {p : PassPurchase} {email name : String}
    {optIn : Bool} {guests : Table GuestAccount} {guest : Option Nat} (hk : KeysHome db)
    (hmem : p ∈ db.passPurchases.rows) (horg : p.organization = hold.organization)
    (h : redemptionGuest db now hold p email name optIn = (guests, guest)) :
    GuestsOf hold.organization db.guests guests guest := by
  unfold redemptionGuest at h
  cases hp : p.guest with
  | none =>
    simp only [hp] at h
    rcases hg : attachGuest db.guests hold.organization email name optIn now with ⟨guests', guest'⟩
    rw [hg] at h
    cases h
    exact attachGuest_guestsOf hg
  | some g =>
    simp only [hp] at h
    cases h
    have hown : db.guests.Owns hold.organization g :=
      horg ▸ hk.holders p hmem g (Option.mem_toList.mpr hp)
    have hsame : GuestsOf hold.organization db.guests db.guests (some g) :=
      ⟨.refl _, fun i hi => Option.some.inj hi ▸ hown, fun _ _ => rfl⟩
    split_ifs
    · obtain ⟨x, hx, rfl, -⟩ := hown
      rw [show db.guests.get? (Keyed.key x) = some x from Table.get?_eq_some.mpr ⟨hx, rfl⟩]
      exact @GuestsOf.recordMarketingOptIn _ _ _ (some x) _ hsame
    · exact hsame

/-- A later pass is the same pass of the same organization. -/
theorem PassPurchase.Later.home {p p' : PassPurchase} (h : p.Later p') :
    Keyed.key p' = Keyed.key p ∧ Tenanted.tenant p' = Tenanted.tenant p := by
  rw [h.columns]
  exact ⟨rfl, rfl⟩

/-- A redemption keeps the keys of the pass. -/
theorem burnCredits_home (credits : Nat) (p : PassPurchase) :
    Tenanted.tenant (burnCredits credits p) = Tenanted.tenant p ∧
      ((burnCredits credits p).order, (burnCredits credits p).guest) = (p.order, p.guest) := by
  unfold burnCredits
  dsimp only
  split_ifs <;> exact ⟨rfl, rfl⟩

/-- A redemption stays within its organization. -/
theorem fulfillHoldWithPass_confined {hold : Hold} {passPurchase : Nat} {email name : String}
    {optIn : Bool} {order : Order} (hk : KeysHome db) (hh : HoldExists db hold)
    (h : fulfillHoldWithPass db now hold passPurchase email name optIn = .ok (db', order)) :
    Confined hold.organization db db' := by
  obtain ⟨hp, hseats, hrows⟩ := hk.sold hh
  obtain ⟨p, performance, hpass, -, -, -, -, -, hadmits, guests, guest, hg, rfl, rfl⟩ :=
    fulfillHoldWithPass_ok h
  -- The buyer is the guest of the pass, or a guest of the organization.
  have hguests := redemptionGuest_guestsOf hk (Table.get?_mem hpass) hadmits.organization hg
  have horder : (db.orders.insert (redemptionOrder hold email name guest)).Owns
      hold.organization db.orders.nextId := ⟨_, Table.mem_insert_new, rfl, rfl⟩
  have hcharged : WrittenBy hold.organization (fun p => (p.order, p.guest))
      (fun p => (db.orders.insert (redemptionOrder hold email name guest)).Owns
        hold.organization p.order ∧ ∀ g ∈ p.guest, guests.Owns hold.organization g)
      db.passPurchases (chargedPasses db.passPurchases p (ticketCount db hold)) := by
    unfold chargedPasses
    split_ifs
    · -- Only the pass that was checked is charged.
      refine .update rfl (burnCredits_home _) fun q hq hid => ?_
      rw [Table.eq_of_key_eq hq (Table.get?_mem hpass) (beq_iff_eq.mp hid)]
      exact hadmits.organization
    · exact .refl ..
  have hstay : Persists db.passPurchases
      (chargedPasses db.passPurchases p (ticketCount db hold)) :=
    (chargedPasses_rewritten (Table.get?_mem hpass) hadmits.redeemable _).grows.persists
      fun _ _ hlater => hlater.home
  refine { Confined.refl hold.organization db with
    guests := hguests.persists
    otherGuests := hguests.others
    gaAllocations := soldAllocations_writtenBy hk hp
    holds := .delete fun x hx hid => hrows x hx (beq_iff_eq.mp hid)
    orders := .insert rfl rfl ⟨fun p hp' => ?_, hguests.attached⟩
    ordersStay := Table.persists_append rfl
    orderItems := ticketItem_writtenBy (by rfl) horder _
    tickets := newTicket_writtenBy rfl horder hp hseats
    payments := .insert rfl rfl horder
    passPurchases := hcharged
    passesStay := hstay
    passRedemptions := .append Table.insertMany_rows fun r hr => ?_
    rest := ⟨_, _, _, _, _, _, _, _, _, _, rfl⟩ }
  · rw [← Option.some.inj hp']
    exact hp
  -- The redemption refers to the order just made and to the pass.
  · obtain ⟨i, hi, rfl⟩ := List.mem_mapIdx.mp hr
    refine ⟨rfl, horder, ?_⟩
    have hown := hstay p (Table.get?_mem hpass)
    rwa [show Tenanted.tenant p = hold.organization from hadmits.organization] at hown

/-! ### Undos -/

/-- Voiding writes the tickets of the order's organization. -/
theorem voidedTickets_writtenBy {new : Ticket → Prop} (hk : KeysHome db) {order : Nat}
    (ho : db.orders.Owns n order) :
    WrittenBy n (fun t => (t.order, t.performance, t.seat)) new db.tickets
      (voidedTickets db.tickets order) :=
  .update rfl (fun _ => ⟨rfl, rfl⟩) fun _ ht hto =>
    hk.tickets.tenant_eq ht (List.mem_singleton.mpr (beq_iff_eq.mp hto).symm) ho

/-- And its allocation. -/
theorem voidedAllocations_writtenBy (hk : KeysHome db) {order : Order}
    (hmem : order ∈ db.orders.rows) :
    WrittenBy order.organization (·.performance) (fun _ => False) db.gaAllocations
      (voidedAllocations db order) := by
  unfold voidedAllocations
  cases hp : order.performance with
  | none => exact .refl ..
  | some performance =>
    dsimp only
    split_ifs
    · unfold returnToAllocation
      cases ha : allocationOf db performance with
      | none => exact .refl ..
      | some a =>
        refine .update rfl (fun _ => ⟨rfl, rfl⟩) fun x hx hid => ?_
        rw [Table.eq_of_key_eq hx (List.mem_of_find?_eq_some ha) (beq_iff_eq.mp hid)]
        exact hk.allocation ha (hk.orders order hmem _ (Option.mem_toList.mpr hp))
    · exact .refl ..

/-- A restore keeps the keys of the pass. -/
theorem restoreCredits_home (credits : Nat) (p : PassPurchase) :
    Tenanted.tenant (restoreCredits credits p) = Tenanted.tenant p ∧
      ((restoreCredits credits p).order, (restoreCredits credits p).guest)
        = (p.order, p.guest) := by
  rw [(restoreCredits_later p credits).columns]
  exact ⟨rfl, rfl⟩

/-- Credits go back to passes of the organization whose order is undone. -/
theorem restoredPasses_writtenBy {new : PassPurchase → Prop} (hk : KeysHome db) {order : Nat}
    (ho : db.orders.Owns n order) :
    WrittenBy n (fun p => (p.order, p.guest)) new db.passPurchases (restoredPasses db order) := by
  refine .update rfl (fun p => restoreCredits_home _ p) fun p hp hany => ?_
  obtain ⟨r, hr, hrp⟩ := List.any_eq_true.mp hany
  obtain ⟨hr, hro⟩ := mem_redemptionsOf.mp hr
  have hrn : r.organization = n :=
    hk.redemptions.tenant_eq hr (List.mem_singleton.mpr hro.symm) ho
  have hpr := hk.redeemed r hr r.passPurchase (List.mem_singleton.mpr rfl)
  rw [beq_iff_eq.mp hrp] at hpr
  exact (Table.Owns.tenant_eq hpr hp).trans hrn

/-- A refund writes passes of the order's organization. -/
theorem refundedPasses_writtenBy {new : PassPurchase → Prop} {passes : Table PassPurchase}
    {order : Nat} (hp : ∀ p ∈ passes.rows, p.order = order → p.organization = n) (sold : Bool) :
    WrittenBy n (fun p => (p.order, p.guest)) new passes (refundedPasses passes order sold) := by
  unfold refundedPasses
  split_ifs
  · exact .update rfl (fun _ => ⟨rfl, rfl⟩) fun p hmem hpo => hp p hmem (beq_iff_eq.mp hpo)
  · exact .refl ..

/-- A new status is written to the order's organization. -/
theorem setOrderStatus_writtenBy {new : Order → Prop} {order : Order} {status : OrderStatus}
    (hmem : order ∈ db.orders.rows) :
    WrittenBy order.organization (fun o => (o.performance, o.guest)) new db.orders
      (setOrderStatus db.orders order.id status) :=
  .update rfl (fun _ => ⟨rfl, rfl⟩) fun o ho hid => by
    rw [Table.eq_of_key_eq ho hmem (beq_iff_eq.mp hid)]
    rfl

/-- No order is lost to a new status. -/
theorem setOrderStatus_persists {orders : Table Order} {order : Nat} {status : OrderStatus} :
    Persists orders (setOrderStatus orders order status) :=
  Table.persists_update rfl fun _ => ⟨rfl, rfl⟩

/-- No pass is lost to a restore. -/
theorem restoredPasses_persists (db : Db) (order : Nat) :
    Persists db.passPurchases (restoredPasses db order) :=
  (restoredPasses_rewritten db order).grows.persists fun _ _ h => h.home

/-- Voiding an order stays within its organization. -/
theorem voidOrder_confined {order : Order} (hk : KeysHome db) (hmem : order ∈ db.orders.rows) :
    Confined order.organization db (voidOrder db order).1 := by
  rw [voidOrder_fst]
  exact { Confined.refl order.organization db with
    gaAllocations := voidedAllocations_writtenBy hk hmem
    tickets := voidedTickets_writtenBy hk ⟨order, hmem, rfl, rfl⟩
    rest := ⟨_, _, _, _, _, _, _, _, _, _, rfl⟩ }

/-- So does a cancellation. -/
theorem orderCancel_confined {order : Order} (hk : KeysHome db) (hmem : order ∈ db.orders.rows) :
    Confined order.organization db (orderCancel db order) := by
  have hown : db.orders.Owns order.organization order.id := ⟨order, hmem, rfl, rfl⟩
  unfold orderCancel
  split_ifs
  · exact .refl _ db
  · rw [undoOrder_eq]
    exact { Confined.refl order.organization db with
      gaAllocations := voidedAllocations_writtenBy hk hmem
      orders := setOrderStatus_writtenBy hmem
      ordersStay := setOrderStatus_persists
      orderItems := .refl ..
      tickets := voidedTickets_writtenBy hk hown
      payments := .refl ..
      passPurchases := restoredPasses_writtenBy hk hown
      passesStay := restoredPasses_persists db order.id
      passRedemptions := .delete fun r hr hro =>
        hk.redemptions.tenant_eq hr (List.mem_singleton.mpr (beq_iff_eq.mp hro).symm) hown
      rest := ⟨_, _, _, _, _, _, _, _, _, _, rfl⟩ }

/-- So does a refund. -/
theorem refundedDb_confined {order : Order} {provider : Provider} {refundRef : String}
    (hk : KeysHome db) (hmem : order ∈ db.orders.rows) :
    Confined order.organization db (refundedDb db order provider refundRef) := by
  have hown : db.orders.Owns order.organization order.id := ⟨order, hmem, rfl, rfl⟩
  have hrefunded : ∀ p ∈ (restoredPasses db order.id).rows, p.order = order.id →
      p.organization = order.organization := fun p hp hpo => by
    obtain ⟨q, hq, hlater⟩ := (restoredPasses_rewritten db order.id).exists_mem hp
    have horder : p.order = q.order := by rw [hlater.columns]
    exact hlater.home.2.trans
      (hk.passes.tenant_eq hq (List.mem_singleton.mpr (hpo.symm.trans horder)) hown)
  rw [refundedDb_eq]
  exact { Confined.refl order.organization db with
    gaAllocations := voidedAllocations_writtenBy hk hmem
    orders := setOrderStatus_writtenBy hmem
    ordersStay := setOrderStatus_persists
    orderItems := .refl ..
    tickets := voidedTickets_writtenBy hk hown
    payments := .insert rfl rfl (hown.persist setOrderStatus_persists)
    passPurchases := .trans (fun _ _ he hnew => by
        obtain ⟨ho, hg⟩ := Prod.mk.inj he
        rwa [ho, hg]) (restoredPasses_writtenBy hk hown)
      (refundedPasses_writtenBy hrefunded _)
    passesStay := (restoredPasses_persists db order.id).trans
      ((refundedPasses_rewritten _ _ _).grows.persists fun _ _ h => h.home)
    passRedemptions := .delete fun r hr hro =>
      hk.redemptions.tenant_eq hr (List.mem_singleton.mpr (beq_iff_eq.mp hro).symm) hown
    rest := ⟨_, _, _, _, _, _, _, _, _, _, rfl⟩ }

end Writes

/-! ### Operations -/

section Operations

variable {n : Nat} {s : State} {op : Op}

/-- A usable code is one of the organization. -/
theorem getUsableCode_owns {promoCodes : Table PromoCode} {code : String} {promo : PromoCode}
    (h : getUsableCode promoCodes n code = some promo) : promoCodes.Owns n promo.id := by
  unfold getUsableCode at h
  dsimp only at h
  split_ifs at h
  have hp := List.find?_some h
  rw [Bool.and_eq_true, beq_iff_eq] at hp
  exact ⟨promo, List.mem_of_find?_eq_some h, rfl, hp.1⟩

/-- A hold that is the session's own is of its organization. -/
theorem Hold.organization_of_owned {hold : Hold} {sessionKey : String}
    (h : hold.ownedBy n sessionKey = true) : hold.organization = n := by
  unfold Hold.ownedBy at h
  rw [Bool.and_eq_true, beq_iff_eq] at h
  exact h.1

/-- A hold that was just read carries a code of its organization. -/
theorem KeysHome.ownCode {db : Db} (hk : KeysHome db) {hold : Hold} (hmem : hold ∈ db.holds.rows) :
    ∀ c ∈ db.promoCodes.rows, c.id ∈ hold.promoCode → c.organization = hold.organization :=
  fun _ hc hid => Table.Owns.tenant_eq (hk.heldCodes hold hmem _ (Option.mem_toList.mpr hid)) hc

/-- **An operation on the carts** of the organization. -/
theorem exec_carts_confined (hk : KeysHome s.db) (hop : op.OnCarts)
    (hn : op.tenant s.db = some n) : Confined n s.db (exec op s).db := by
  cases op with
  | setGaHold organization performance sessionKey priceTier quantity =>
    cases hn
    simp only [exec]
    split
    -- The performance was found in the organization, and so were its seats.
    · rename_i p _ hp _
      obtain ⟨hmem, horg⟩ := findPerformance_some hp
      refine commit_rule (p := Confined n s.db) (.refl _ _) fun db' r h => ?_
      rcases setGaHold_ok h with rfl | ⟨_, _, -, -, -, rfl⟩
      · exact releaseHold_confined
      · exact replaceSessionHold_confined (fun _ => rfl) (fun _ => ⟨p, hmem, rfl, horg⟩)
          (fun _ x hx => absurd hx List.not_mem_nil) fun _ => rfl
    · exact .refl _ _
  | setReservedHold organization performance sessionKey seatIds =>
    cases hn
    simp only [exec]
    split
    · rename_i p hp
      obtain ⟨hmem, horg⟩ := findPerformance_some hp
      refine commit_rule (p := Confined n s.db) (.refl _ _) fun db' r h => ?_
      rcases setReservedHold_ok h with rfl | ⟨seats, -, -, hseats, rfl⟩
      · exact releaseHold_confined
      · refine replaceSessionHold_confined (fun _ => rfl) (fun _ => ⟨p, hmem, rfl, horg⟩)
          (fun _ x hx => ?_) fun _ => rfl
        obtain ⟨seat, hseat, rfl⟩ := List.mem_map.mp hx
        rw [newHoldSeat_seat]
        exact ⟨seat, (hseats seat hseat).mem, rfl, (hseats seat hseat).organization⟩
    · exact .refl _ _
  | releaseHold organization performance sessionKey =>
    cases hn
    exact releaseHold_confined
  | releaseHoldById organization sessionKey holdId =>
    cases hn
    simp only [exec, releaseHoldById]
    split_ifs
    · exact .refl _ _
    · refine .of_holds (.delete fun h _ hp => ?_)
      rw [Bool.and_eq_true, Bool.and_eq_true] at hp
      exact beq_iff_eq.mp hp.1.1
  | applyPromoCode organization sessionKey holdId code =>
    cases hn
    simp only [exec]
    refine commit_rule (p := Confined n s.db) (.refl _ _) fun db' r h => ?_
    obtain ⟨hold, promo, hfind, hcode, -, rfl⟩ := applyPromoCode_ok h
    obtain ⟨hmem, horg, -⟩ := findActiveHold_some hfind
    -- The code comes out of the organization's own.
    refine editHold_confined hk hmem horg (setPromo_cartEdit _ _ _) fun c hc => .inr ?_
    rw [← Option.some.inj hc]
    exact getUsableCode_owns hcode
  | removePromoCode organization sessionKey holdId =>
    cases hn
    simp only [exec]
    rcases @removePromoCode_eq s.db n sessionKey holdId with h | ⟨hold, hfind, h⟩ <;>
      rw [h]
    · exact .refl _ _
    · obtain ⟨hmem, howned, -⟩ := findHold_some hfind
      exact editHold_confined hk hmem (Hold.organization_of_owned howned) (setPromo_cartEdit _ _ _)
        fun c hc => by cases hc
  | setHoldDonation organization sessionKey holdId amount campaign =>
    cases hn
    simp only [exec]
    refine commit_rule (p := Confined n s.db) (.refl _ _) fun db' r h => ?_
    obtain ⟨hold, gift, hfind, -, -, -, rfl⟩ := setHoldDonation_ok h
    obtain ⟨hmem, horg, -⟩ := findActiveHold_some hfind
    exact editHold_confined hk hmem horg (setDonation_cartEdit _ _) fun c hc => .inl hc
  | clearHoldDonation organization sessionKey holdId =>
    cases hn
    simp only [exec]
    rcases @clearHoldDonation_eq s.db n sessionKey holdId with h | ⟨hold, hfind, h⟩ <;>
      rw [h]
    · exact .refl _ _
    · obtain ⟨hmem, howned, -⟩ := findHold_some hfind
      exact editHold_confined hk hmem (Hold.organization_of_owned howned) (setDonation_cartEdit _ _)
        fun c hc => .inl hc
  -- The clock and the sweep belong to no organization.
  | advance d => cases hn
  | releaseExpiredHolds => cases hn
  | _ => exact hop.elim

/-- **An operation of an organization** is confined to it. -/
theorem exec_confined (hk : KeysHome s.db) (ha : Admissible s op) (hc : OwnCode s.db op)
    (hn : op.tenant s.db = some n) : Confined n s.db (exec op s).db := by
  cases op with
  | fulfillHold hold args =>
    cases hn
    simp only [exec]
    exact commit_rule (p := Confined hold.organization s.db) (.refl _ _) fun _ _ h =>
      fulfillHold_confined hk ha hc h
  | fulfillHoldWithPass hold passPurchase email name optIn =>
    cases hn
    simp only [exec]
    exact commit_rule (p := Confined hold.organization s.db) (.refl _ _) fun _ _ h =>
      fulfillHoldWithPass_confined hk ha h
  | fulfillDonation organization amount campaign args =>
    cases hn
    simp only [exec]
    exact commit_rule (p := Confined n s.db) (.refl _ _) fun _ _ h =>
      fulfillDonation_confined h
  | fulfillPassPurchase organization product args =>
    cases hn
    simp only [exec]
    split
    · exact commit_rule (p := Confined n s.db) (.refl _ _) fun _ _ h =>
        fulfillPassPurchase_confined h
    · exact .refl _ _
  | fulfillCheckoutSession organization session =>
    cases hn
    simp only [exec]
    refine commit_rule (p := Confined n s.db) (.refl _ _) fun _ _ h => ?_
    -- What a session pays for was looked up within the organization, or it was paid for before.
    rcases fulfillCheckoutSession_ok h with ⟨-, target, htarget, hbody⟩ | ⟨-, rfl, -⟩
    · cases target with
      | hold hold =>
        obtain ⟨hmem, rfl, -⟩ := readTarget_hold htarget
        exact fulfillHold_confined hk ⟨hold, hmem, rfl, rfl, rfl, rfl, rfl, rfl⟩ (hk.ownCode hmem)
          hbody
      | donation amount campaign => exact fulfillDonation_confined hbody
      | pass product => exact fulfillPassPurchase_confined hbody
    · exact .refl _ _
  | voidOrder order =>
    obtain ⟨o, ho, rfl⟩ := Option.map_eq_some_iff.mp hn
    simp only [exec, ho]
    exact voidOrder_confined hk (Table.get?_mem ho)
  | refundOrder order gateway =>
    obtain ⟨o, ho, rfl⟩ := Option.map_eq_some_iff.mp hn
    simp only [exec]
    refine commit_rule (p := Confined o.organization s.db) (.refl _ _) fun _ _ h => ?_
    obtain ⟨o', ho', ⟨-, rfl, -⟩ | ⟨-, -, -, provider, refundRef, rfl⟩⟩ := refundOrder_ok h
    · exact .refl _ _
    · obtain rfl : o' = o := Option.some.inj (ho'.symm.trans ho)
      exact refundedDb_confined hk (Table.get?_mem ho)
  | orderCancel order =>
    obtain ⟨o, ho, rfl⟩ := Option.map_eq_some_iff.mp hn
    simp only [exec, ho]
    exact orderCancel_confined hk (Table.get?_mem ho)
  -- What is left writes carts, and those of one organization.
  | _ => exact exec_carts_confined hk (by trivial) hn

/-- An operation without an organization writes nothing, or sweeps. -/
theorem exec_unowned (hn : op.tenant s.db = none) :
    (exec op s).db = s.db ∨ (exec op s).db = releaseExpiredHolds s.db s.now := by
  cases op with
  | advance d => exact .inl rfl
  | releaseExpiredHolds => exact .inr rfl
  | voidOrder order =>
    left
    simp only [exec, Option.map_eq_none_iff.mp hn]
  | refundOrder order gateway =>
    simp only [exec]
    unfold refundOrder
    rw [Option.map_eq_none_iff.mp hn]
    exact .inl rfl
  | orderCancel order =>
    left
    simp only [exec, Option.map_eq_none_iff.mp hn]
  | _ => cases hn

/-- A sweep keeps the keys at home. -/
theorem releaseExpiredHolds_keysHome {db : Db} {now : Time} (hk : KeysHome db) :
    KeysHome (releaseExpiredHolds db now) :=
  { hk with
    carts := hk.carts.of_subset fun _ hr => (Table.mem_delete.mp hr).1
    heldSeats := hk.heldSeats.of_subset fun _ hr => (Table.mem_delete.mp hr).1
    heldCodes := hk.heldCodes.of_subset fun _ hr => (Table.mem_delete.mp hr).1 }

/-- **The step.** Every operation keeps the keys at home. -/
theorem exec_keysHome (hk : KeysHome s.db) (ha : Admissible s op) (hc : OwnCode s.db op) :
    KeysHome (exec op s).db := by
  cases hn : op.tenant s.db with
  | some n => exact (exec_confined hk ha hc hn).keysHome hk
  | none =>
    rcases exec_unowned hn with h | h <;> rw [h]
    · exact hk
    · exact releaseExpiredHolds_keysHome hk

/-- A promo code is never deleted, nor moved to another organization. -/
theorem exec_codesWritten (hk : KeysHome s.db) (ha : Admissible s op) (hc : OwnCode s.db op) :
    Persists s.db.promoCodes (exec op s).db.promoCodes := by
  cases hn : op.tenant s.db with
  | some n => exact (exec_confined hk ha hc hn).promoCodes
  | none => rcases exec_unowned hn with h | h <;> rw [h] <;> exact .refl _

end Operations

/-! ### Runs -/

section Runs

variable {n : Nat} {s t : State}

/-- In every reachable state the keys are at home. -/
theorem keysHome_reachable (h : Reachable tenants s) : KeysHome s.db :=
  h.invariant (I := fun u => KeysHome u.db) (fun _ h0 => FreshTenants.keysHome h0)
    fun u op _ hu hstep => by rw [hstep.2]; exact exec_keysHome hu hstep.1.1 hstep.1.2

/-- **Keys stay at home.** In every reachable state of a shop shared by several organizations
    all keys name rows of the same organization; and a hold read in such a state carries a code
    of its organization whenever it is fulfilled. -/
theorem keys_stay_home (h : Reachable tenants s) :
    KeysHome s.db ∧ ∀ hold ∈ s.db.holds.rows, ∀ ops t, Run tenants s ops t →
      ∀ args, OwnCode t.db (.fulfillHold hold args) := by
  have hk := keysHome_reachable h
  refine ⟨hk, fun hold hmem ops t hr args c hc hid => ?_⟩
  have hcodes : Reachable tenants t ∧ Persists s.db.promoCodes t.db.promoCodes :=
    hr.invariant (I := fun u => Reachable tenants u ∧ Persists s.db.promoCodes u.db.promoCodes)
      ⟨h, .refl _⟩ fun u op _ hu hstep => by
        refine ⟨hu.1.step hstep, hu.2.trans ?_⟩
        rw [hstep.2]
        exact exec_codesWritten (keysHome_reachable hu.1) hstep.1.1 hstep.1.2
  exact Table.Owns.tenant_eq
    ((hk.heldCodes hold hmem _ (Option.mem_toList.mpr hid)).persist hcodes.2) hc

/-- The rows of the organization are as they were; of its carts some that have expired may be
    gone. -/
structure Undisturbed (n : Nat) (now : Time) (db db' : Db) : Prop where
  guests : db'.guests.rowsOf n = db.guests.rowsOf n
  promoCodes : db'.promoCodes.rowsOf n = db.promoCodes.rowsOf n
  gaAllocations : db'.gaAllocations.rowsOf n = db.gaAllocations.rowsOf n
  orders : db'.orders.rowsOf n = db.orders.rowsOf n
  orderItems : db'.orderItems.rowsOf n = db.orderItems.rowsOf n
  tickets : db'.tickets.rowsOf n = db.tickets.rowsOf n
  payments : db'.payments.rowsOf n = db.payments.rowsOf n
  passPurchases : db'.passPurchases.rowsOf n = db.passPurchases.rowsOf n
  passRedemptions : db'.passRedemptions.rowsOf n = db.passRedemptions.rowsOf n
  holds : (db'.holds.rowsOf n).Sublist (db.holds.rowsOf n)
  activeHolds : ∀ h ∈ db.holds.rowsOf n, h.Active now → h ∈ db'.holds.rowsOf n
  rest : ∃ guests promoCodes gaAllocations holds orders orderItems tickets payments
      passPurchases passRedemptions,
    db' = { db with
      guests := guests, promoCodes := promoCodes, gaAllocations := gaAllocations, holds := holds,
      orders := orders, orderItems := orderItems, tickets := tickets, payments := payments,
      passPurchases := passPurchases, passRedemptions := passRedemptions }

/-- Nothing was disturbed. -/
theorem Undisturbed.refl (n : Nat) (now : Time) (db : Db) : Undisturbed n now db db :=
  ⟨rfl, rfl, rfl, rfl, rfl, rfl, rfl, rfl, rfl, .refl _, fun _ hh _ => hh,
    _, _, _, _, _, _, _, _, _, _, rfl⟩

/-- What is undisturbed twice is undisturbed. -/
theorem Undisturbed.trans {now now' : Time} {db db' db'' : Db} (hle : now ≤ now')
    (h : Undisturbed n now db db') (h' : Undisturbed n now' db' db'') :
    Undisturbed n now' db db'' where
  guests := h'.guests.trans h.guests
  promoCodes := h'.promoCodes.trans h.promoCodes
  gaAllocations := h'.gaAllocations.trans h.gaAllocations
  orders := h'.orders.trans h.orders
  orderItems := h'.orderItems.trans h.orderItems
  tickets := h'.tickets.trans h.tickets
  payments := h'.payments.trans h.payments
  passPurchases := h'.passPurchases.trans h.passPurchases
  passRedemptions := h'.passRedemptions.trans h.passRedemptions
  holds := h'.holds.trans h.holds
  activeHolds := fun k hk ha =>
    h'.activeHolds k (h.activeHolds k hk (lt_of_le_of_lt hle ha)) ha
  rest := by
    obtain ⟨_, _, _, _, _, _, _, _, _, _, rfl⟩ := h.rest
    exact h'.rest

/-- What one organization writes disturbs no other. -/
theorem Confined.undisturbed {m : Nat} {now : Time} {db db' : Db} (h : Confined m db db')
    (hn : n ≠ m) : Undisturbed n now db db' where
  guests := h.otherGuests n hn
  promoCodes := h.otherCodes n hn
  gaAllocations := h.gaAllocations.others n hn
  orders := h.orders.others n hn
  orderItems := h.orderItems.others n hn
  tickets := h.tickets.others n hn
  payments := h.payments.others n hn
  passPurchases := h.passPurchases.others n hn
  passRedemptions := h.passRedemptions.others n hn
  holds := h.holds.others n hn ▸ .refl _
  activeHolds := fun _ hk _ => (h.holds.others n hn).symm ▸ hk
  rest := h.rest

/-- A sweep disturbs nobody. -/
theorem releaseExpiredHolds_undisturbed (n : Nat) (now : Time) (db : Db) :
    Undisturbed n now db (releaseExpiredHolds db now) :=
  { Undisturbed.refl n now db with
    holds := List.filter_sublist.filter _
    activeHolds := fun k hk ha => by
      obtain ⟨hmem, hn⟩ := List.mem_filter.mp hk
      refine List.mem_filter.mpr ⟨Table.mem_delete.mpr ⟨hmem, ?_⟩, hn⟩
      exact decide_eq_false (not_le.mpr ha)
    rest := ⟨_, _, _, _, _, _, _, _, _, _, rfl⟩ }

/-- **The step.** An operation disturbs no other organization. -/
theorem exec_undisturbed {op : Op} (hk : KeysHome s.db) (ha : Admissible s op)
    (hc : OwnCode s.db op) (hn : op.tenant s.db ≠ some n) :
    Undisturbed n s.now s.db (exec op s).db := by
  cases hm : op.tenant s.db with
  | some m => exact (exec_confined hk ha hc hm).undisturbed fun heq => hn (heq ▸ hm)
  | none =>
    rcases exec_unowned hm with h | h <;> rw [h]
    · exact .refl _ _ _
    · exact releaseExpiredHolds_undisturbed n s.now s.db

/-- **Isolation.** However long the other organizations use the shop, an organization finds
    every row of its own as it was, but for expired carts that were swept. -/
theorem tenants_isolated {ops : List Op} (h : Reachable tenants s)
    (hr : Run (tenants.restrict fun u op => op.tenant u.db ≠ some n) s ops t) :
    Undisturbed n t.now s.db t.db :=
  (hr.invariant (I := fun u => Reachable tenants u ∧ Undisturbed n u.now s.db u.db)
    ⟨h, .refl _ _ _⟩ fun u op _ hu hstep => by
      obtain ⟨hstep, hn⟩ := hstep
      refine ⟨hu.1.step hstep, ?_⟩
      rw [hstep.2]
      refine (hu.2.trans le_rfl (exec_undisturbed (keysHome_reachable hu.1) hstep.1.1 hstep.1.2
        hn)).trans (now_le_exec op u) (.refl _ _ _)).2

/-! ### Two theaters in one database -/

/-- The sample theater and a second one, with a performance of its own. -/
def twoHouses : Db :=
  { sampleDb with
    organizations := sampleDb.organizations.insert fun id =>
      Organization.mk id "Annex" "USD" "acct_2" true none
    performances := sampleDb.performances.insert fun id =>
      Performance.mk id 2 1 1 6000 .ga .published none
    priceTiers := sampleDb.priceTiers.insert fun id =>
      PriceTier.mk id 2 "General" 1500 "USD" (some 2) none (by simp)
    gaAllocations := sampleDb.gaAllocations.insert fun id => GAAllocation.mk id 2 2 5 0 }

/-- The two houses are a fresh state. -/
theorem twoHouses_fresh : FreshTenants ⟨twoHouses, 0⟩ := by
  refine ⟨⟨rfl, rfl, rfl, rfl, rfl, rfl, rfl, by decide, by decide⟩, ?_⟩
  unfold Refers Table.Owns
  decide

/-- A cart of the second theater is open, and one of the first. -/
def bothOpen : State :=
  exec (.setGaHold 1 1 "a" 1 2) (exec (.setGaHold 2 2 "b" 3 4) ⟨twoHouses, 0⟩)

/-- The two open carts are reachable. -/
theorem bothOpen_reachable : Reachable tenants bothOpen := by
  have hfirst : Reachable tenants (exec (.setGaHold 2 2 "b" 3 4) ⟨twoHouses, 0⟩) :=
    (Reachable.of_init (S := tenants) twoHouses_fresh).step (i := .setGaHold 2 2 "b" 3 4)
      ⟨⟨trivial, trivial⟩, rfl⟩
  exact hfirst.step (i := .setGaHold 1 1 "a" 1 2) ⟨⟨trivial, trivial⟩, rfl⟩

/-- Both theaters have a cart, each with its own keys. -/
theorem keys_stay_home_bothOpen : bothOpen.db.holds.rows.map (fun h => (h.organization, h.performance))
      = [(2, 2), (1, 1)] ∧
    KeysHome bothOpen.db ∧ ∀ hold ∈ bothOpen.db.holds.rows, ∀ ops t, Run tenants bothOpen ops t →
      ∀ args, OwnCode t.db (.fulfillHold hold args) :=
  ⟨by decide, keys_stay_home bothOpen_reachable⟩

/-- One theater sells, and the other is undisturbed. -/
theorem tenants_isolated_bothOpen : ∃ hold ∈ bothOpen.db.holds.rows,
    let sold := exec (.fulfillHold hold sampleArgs) bothOpen
    sold.db.orders.rows.map (·.organization) = [1] ∧ Undisturbed 2 0 bothOpen.db sold.db := by
  obtain ⟨hold, hmem, horg, hsold⟩ : ∃ hold ∈ bothOpen.db.holds.rows, hold.organization = 1 ∧
      (exec (.fulfillHold hold sampleArgs) bothOpen).db.orders.rows.map (·.organization) = [1] := by
    decide
  refine ⟨hold, hmem, hsold, ?_⟩
  have hstep : tenants.step bothOpen (.fulfillHold hold sampleArgs)
      (exec (.fulfillHold hold sampleArgs) bothOpen) :=
    ⟨⟨⟨hold, hmem, rfl, rfl, rfl, rfl, rfl, rfl⟩,
      (keysHome_reachable bothOpen_reachable).ownCode hmem⟩, rfl⟩
  have hnow : (exec (.fulfillHold hold sampleArgs) bothOpen).now = 0 := by
    simp only [exec, commit_now]
    rfl
  rw [← hnow]
  exact tenants_isolated bothOpen_reachable (Run.single ⟨hstep, fun heq => by
    rw [show Op.tenant _ (.fulfillHold hold sampleArgs) = some 1 from congrArg some horg] at heq
    cases heq⟩)

end Runs

end BoxOffice

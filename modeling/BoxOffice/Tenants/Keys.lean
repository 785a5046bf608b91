import BoxOffice.Payments.AppendOnly
import BoxOffice.Relational.Tenancy

namespace BoxOffice

open Relational Transition
open Table (Refers Persists)

/-!
# Tenants — every key stays at home

`KeysHome` says that the foreign keys the shop writes name rows of the organization that the row
with the key belongs to: the performance, the seats and the promo code of a cart, the
performance and the buyer of an order, the order of a line, ticket, payment, pass or redemption.

* `tenants` is the shop with several organizations in one database;
* `GuestsOf` — what attaching a guest to an order does to the guests of every organization;
* `Confined.keysHome` — what stays within one organization keeps all keys at home.
-/

instance : Tenanted Performance := ⟨Performance.organization⟩
instance : Tenanted Seat := ⟨Seat.organization⟩
instance : Tenanted GAAllocation := ⟨GAAllocation.organization⟩
instance : Tenanted PromoCode := ⟨PromoCode.organization⟩
instance : Tenanted GuestAccount := ⟨GuestAccount.organization⟩
instance : Tenanted Hold := ⟨Hold.organization⟩
instance : Tenanted Order := ⟨Order.organization⟩
instance : Tenanted OrderItem := ⟨OrderItem.organization⟩
instance : Tenanted Ticket := ⟨Ticket.organization⟩
instance : Tenanted Payment := ⟨Payment.organization⟩
instance : Tenanted PassPurchase := ⟨PassPurchase.organization⟩
instance : Tenanted PassRedemption := ⟨PassRedemption.organization⟩

/-- The keys the shop writes name rows of the same organization. -/
structure KeysHome (db : Db) : Prop where
  allocations : Refers db.gaAllocations db.performances fun a => [a.performance]
  carts : Refers db.holds db.performances fun h => [h.performance]
  heldSeats : Refers db.holds db.seats fun h => h.holdSeats.map (·.seat)
  heldCodes : Refers db.holds db.promoCodes fun h => h.promoCode.toList
  orders : Refers db.orders db.performances fun o => o.performance.toList
  buyers : Refers db.orders db.guests fun o => o.guest.toList
  lines : Refers db.orderItems db.orders fun i => [i.order]
  tickets : Refers db.tickets db.orders fun t => [t.order]
  shows : Refers db.tickets db.performances fun t => [t.performance]
  seats : Refers db.tickets db.seats fun t => t.seat.toList
  payments : Refers db.payments db.orders fun p => [p.order]
  passes : Refers db.passPurchases db.orders fun p => [p.order]
  holders : Refers db.passPurchases db.guests fun p => p.guest.toList
  redemptions : Refers db.passRedemptions db.orders fun r => [r.order]
  redeemed : Refers db.passRedemptions db.passPurchases fun r => [r.passPurchase]

/-- The promo code of a hold that is to be fulfilled belongs to its organization. -/
def OwnCode (db : Db) : Op → Prop
  | .fulfillHold hold _ =>
    ∀ c ∈ db.promoCodes.rows, c.id ∈ hold.promoCode → c.organization = hold.organization
  | _ => True

/-- A fresh set-up whose allocations are at home. -/
def FreshTenants (s : State) : Prop :=
  Fresh s ∧ Refers s.db.gaAllocations s.db.performances fun a => [a.performance]

/-- The shop, shared by several organizations. -/
def tenants : System State Op :=
  .ofFun FreshTenants (fun s op => Admissible s op ∧ OwnCode s.db op) exec

/-- In a fresh state the keys are at home. -/
theorem FreshTenants.keysHome {s : State} (h : FreshTenants s) : KeysHome s.db where
  allocations := h.2
  carts := fun x hx => by rw [h.1.holds] at hx; cases hx
  heldSeats := fun x hx => by rw [h.1.holds] at hx; cases hx
  heldCodes := fun x hx => by rw [h.1.holds] at hx; cases hx
  orders := fun x hx => by rw [h.1.orders] at hx; cases hx
  buyers := fun x hx => by rw [h.1.orders] at hx; cases hx
  lines := fun x hx => by rw [h.1.orderItems] at hx; cases hx
  tickets := fun x hx => by rw [h.1.tickets] at hx; cases hx
  shows := fun x hx => by rw [h.1.tickets] at hx; cases hx
  seats := fun x hx => by rw [h.1.tickets] at hx; cases hx
  payments := fun x hx => by rw [h.1.payments] at hx; cases hx
  passes := fun x hx => by rw [h.1.passPurchases] at hx; cases hx
  holders := fun x hx => by rw [h.1.passPurchases] at hx; cases hx
  redemptions := fun x hx => by rw [h.1.passRedemptions] at hx; cases hx
  redeemed := fun x hx => by rw [h.1.passRedemptions] at hx; cases hx

/-- What several organizations can reach, one box office can. -/
theorem boxOffice_of_tenants {s : State} (h : Reachable tenants s) : Reachable boxOffice s :=
  h.invariant (fun _ h0 => .of_init h0.1) fun _ op _ hu hstep => hu.step (i := op) ⟨hstep.1.1, hstep.2⟩

/-! ### Guests -/

/-- What a sale of `organization` makes of the guests: all of them stay, the account it attaches
    is one of the organization's, and the other organizations see no difference. -/
structure GuestsOf (organization : Nat) (guests guests' : Table GuestAccount)
    (guest : Option Nat) : Prop where
  persists : Persists guests guests'
  attached : ∀ g ∈ guest, guests'.Owns organization g
  others : ∀ n ≠ organization, guests'.rowsOf n = guests.rowsOf n

section Guests

variable {organization : Nat} {guests guests' : Table GuestAccount}

/-- Rewriting the attached account. -/
theorem GuestsOf.update {guests'' : Table GuestAccount} {g : Nat}
    {f : GuestAccount → GuestAccount} (h : GuestsOf organization guests guests' (some g))
    (hrows : guests''.rows = guests'.rows.map fun r => if r.id == g then f r else r)
    (hf : ∀ r, (f r).id = r.id ∧ (f r).organization = r.organization) :
    GuestsOf organization guests guests'' (some g) := by
  refine ⟨h.persists.trans (Table.persists_update hrows hf), fun i hi =>
    (h.attached i hi).persist (Table.persists_update hrows hf), fun n hn => ?_⟩
  rw [← h.others n hn]
  refine Table.rowsOf_update hrows (fun r => (hf r).2) fun r hr hid heq => hn (heq.symm.trans ?_)
  have hkey : Keyed.key r = g := beq_iff_eq.mp hid
  exact Table.Owns.tenant_eq (hkey ▸ h.attached g rfl) hr

/-- Finding or making an account writes the organization's guests. -/
theorem getOrCreateForEmail_guestsOf (organization : Nat) (guests : Table GuestAccount)
    (email name : String) :
    GuestsOf organization guests (getOrCreateForEmail guests organization email name).1
      ((getOrCreateForEmail guests organization email name).2.map (·.id)) := by
  have hsame : GuestsOf organization guests guests none :=
    ⟨.refl guests, fun _ hg => absurd hg (by simp), fun _ _ => rfl⟩
  unfold getOrCreateForEmail
  dsimp only
  split_ifs with hblank
  · exact hsame
  · split
    · rename_i guest hfind
      have hp := List.find?_some hfind
      rw [Bool.and_eq_true, beq_iff_eq, beq_iff_eq] at hp
      have hfound : GuestsOf organization guests guests (some guest.id) :=
        { hsame with
          attached := fun g hg =>
            ⟨guest, List.mem_of_find?_eq_some hfind, Option.some.inj hg, hp.1⟩ }
      split_ifs
      · exact hfound.update rfl fun _ => ⟨rfl, rfl⟩
      · exact hfound
    · exact ⟨Table.persists_append rfl, fun g hg => ⟨_, Table.mem_insert_new, Option.some.inj hg, rfl⟩,
        fun n hn => Table.rowsOf_append rfl fun r hr heq => by
          rw [List.mem_singleton.mp hr] at heq
          exact hn heq.symm⟩

/-- So does recording its consent. -/
theorem GuestsOf.recordMarketingOptIn {guest : Option GuestAccount} {now : Time}
    (h : GuestsOf organization guests guests' (guest.map (·.id))) :
    GuestsOf organization guests (recordMarketingOptIn guests' guest now)
      (guest.map (·.id)) := by
  unfold BoxOffice.recordMarketingOptIn
  cases guest with
  | none => exact h
  | some g =>
    dsimp only
    split_ifs
    · exact h
    · exact h.update rfl fun _ => ⟨rfl, rfl⟩

/-- So does attaching it to an order. -/
theorem attachGuest_guestsOf {email name : String} {marketingOptIn : Bool} {now : Time}
    {guest : Option GuestAccount}
    (h : attachGuest guests organization email name marketingOptIn now = (guests', guest)) :
    GuestsOf organization guests guests' (guest.map (·.id)) := by
  have hget := getOrCreateForEmail_guestsOf organization guests email name
  unfold attachGuest at h
  dsimp only at h
  cases h
  split_ifs
  · exact hget.recordMarketingOptIn
  · exact hget

end Guests

/-! ### One organization's write -/

/-- The organization `n` wrote the shop: nobody else's rows changed, and the rows of its own are
    at home. -/
structure Confined (n : Nat) (db db' : Db) : Prop where
  guests : Persists db.guests db'.guests
  otherGuests : ∀ m ≠ n, db'.guests.rowsOf m = db.guests.rowsOf m
  promoCodes : Persists db.promoCodes db'.promoCodes
  otherCodes : ∀ m ≠ n, db'.promoCodes.rowsOf m = db.promoCodes.rowsOf m
  gaAllocations : Table.WrittenBy n (·.performance) (fun _ => False) db.gaAllocations db'.gaAllocations
  holds : Table.WrittenBy n (fun h => h)
    (fun h => db.performances.Owns n h.performance ∧
      (∀ s ∈ h.holdSeats, db.seats.Owns n s.seat) ∧
      ∀ c ∈ h.promoCode, db.promoCodes.Owns n c) db.holds db'.holds
  orders : Table.WrittenBy n (fun o => (o.performance, o.guest))
    (fun o => (∀ p ∈ o.performance, db.performances.Owns n p) ∧
      ∀ g ∈ o.guest, db'.guests.Owns n g) db.orders db'.orders
  ordersStay : Persists db.orders db'.orders
  orderItems : Table.WrittenBy n (·.order)
    (fun i => db'.orders.Owns n i.order) db.orderItems db'.orderItems
  tickets : Table.WrittenBy n
    (fun t => (t.order, t.performance, t.seat))
    (fun t => db'.orders.Owns n t.order ∧ db.performances.Owns n t.performance ∧
      ∀ s ∈ t.seat, db.seats.Owns n s) db.tickets db'.tickets
  payments : Table.WrittenBy n (·.order)
    (fun p => db'.orders.Owns n p.order) db.payments db'.payments
  passPurchases : Table.WrittenBy n (fun p => (p.order, p.guest))
    (fun p => db'.orders.Owns n p.order ∧ ∀ g ∈ p.guest, db'.guests.Owns n g)
    db.passPurchases db'.passPurchases
  passesStay : Persists db.passPurchases db'.passPurchases
  passRedemptions : Table.WrittenBy n (fun r => (r.order, r.passPurchase))
    (fun r => db'.orders.Owns n r.order ∧ db'.passPurchases.Owns n r.passPurchase)
    db.passRedemptions db'.passRedemptions
  rest : ∃ guests promoCodes gaAllocations holds orders orderItems tickets payments
      passPurchases passRedemptions,
    db' = { db with
      guests := guests, promoCodes := promoCodes, gaAllocations := gaAllocations, holds := holds,
      orders := orders, orderItems := orderItems, tickets := tickets, payments := payments,
      passPurchases := passPurchases, passRedemptions := passRedemptions }

section Confined

variable {n : Nat} {db db' : Db}

/-- No sale writes performances or seats. -/
theorem Confined.setup (h : Confined n db db') :
    db'.performances = db.performances ∧ db'.seats = db.seats := by
  obtain ⟨_, _, _, _, _, _, _, _, _, _, hrest⟩ := h.rest
  rw [hrest]
  exact ⟨rfl, rfl⟩

/-- **A confined write** leaves all keys at home. -/
theorem Confined.keysHome (h : Confined n db db') (hk : KeysHome db) : KeysHome db' := by
  obtain ⟨hp, hs⟩ := h.setup
  exact {
    -- A reference to what is never deleted stays good; what is new refers to rows of the
    -- organization.
    allocations := hp ▸ hk.allocations.of_writtenBy h.gaAllocations
      (fun _ _ he => by rw [he]) fun _ hf => hf.elim
    carts := hp ▸ hk.carts.of_writtenBy h.holds (fun _ _ he => by rw [he])
      fun _ hnew i hi => by rw [List.mem_singleton.mp hi]; exact hnew.1
    heldSeats := hs ▸ hk.heldSeats.of_writtenBy h.holds (fun _ _ he => by rw [he])
      fun _ hnew i hi => by
        obtain ⟨s, hs, rfl⟩ := List.mem_map.mp hi
        exact hnew.2.1 s hs
    heldCodes := (hk.heldCodes.of_writtenBy h.holds (fun _ _ he => by rw [he])
      fun _ hnew i hi => hnew.2.2 i (Option.mem_toList.mp hi)).persist h.promoCodes
    orders := hp ▸ hk.orders.of_writtenBy h.orders (fun _ _ he => by rw [(Prod.mk.inj he).1])
      fun _ hnew i hi => hnew.1 i (Option.mem_toList.mp hi)
    buyers := (hk.buyers.persist h.guests).of_writtenBy h.orders
      (fun _ _ he => by rw [(Prod.mk.inj he).2])
      fun _ hnew i hi => hnew.2 i (Option.mem_toList.mp hi)
    lines := (hk.lines.persist h.ordersStay).of_writtenBy h.orderItems (fun _ _ he => by rw [he])
      fun _ hnew i hi => by rw [List.mem_singleton.mp hi]; exact hnew
    tickets := (hk.tickets.persist h.ordersStay).of_writtenBy h.tickets
      (fun _ _ he => by rw [(Prod.mk.inj he).1])
      fun _ hnew i hi => by rw [List.mem_singleton.mp hi]; exact hnew.1
    shows := hp ▸ hk.shows.of_writtenBy h.tickets
      (fun _ _ he => by rw [(Prod.mk.inj (Prod.mk.inj he).2).1])
      fun _ hnew i hi => by rw [List.mem_singleton.mp hi]; exact hnew.2.1
    seats := hs ▸ hk.seats.of_writtenBy h.tickets
      (fun _ _ he => by rw [(Prod.mk.inj (Prod.mk.inj he).2).2])
      fun _ hnew i hi => hnew.2.2 i (Option.mem_toList.mp hi)
    payments := (hk.payments.persist h.ordersStay).of_writtenBy h.payments
      (fun _ _ he => by rw [he])
      fun _ hnew i hi => by rw [List.mem_singleton.mp hi]; exact hnew
    passes := (hk.passes.persist h.ordersStay).of_writtenBy h.passPurchases
      (fun _ _ he => by rw [(Prod.mk.inj he).1])
      fun _ hnew i hi => by rw [List.mem_singleton.mp hi]; exact hnew.1
    holders := (hk.holders.persist h.guests).of_writtenBy h.passPurchases
      (fun _ _ he => by rw [(Prod.mk.inj he).2])
      fun _ hnew i hi => hnew.2 i (Option.mem_toList.mp hi)
    redemptions := (hk.redemptions.persist h.ordersStay).of_writtenBy h.passRedemptions
      (fun _ _ he => by rw [(Prod.mk.inj he).1])
      fun _ hnew i hi => by rw [List.mem_singleton.mp hi]; exact hnew.1
    redeemed := (hk.redeemed.persist h.passesStay).of_writtenBy h.passRedemptions
      (fun _ _ he => by rw [(Prod.mk.inj he).2])
      fun _ hnew i hi => by rw [List.mem_singleton.mp hi]; exact hnew.2 }

end Confined

end BoxOffice

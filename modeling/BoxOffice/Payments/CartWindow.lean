import BoxOffice.Payments.CartMoney
import BoxOffice.Payments.StripeSession

namespace BoxOffice

open Relational Transition

/-!
# Payments — a cart between its session and the delivery

While the buyer is on the payment page, the same browser session can go on editing the cart.

* `theater_carts` — in every reachable state of the theater discounts are not negative and gifts
  are positive, chart saves included;
* `cart_kept` — over every run of the shop a stored row keeps its owner, its places and its
  seats: only promo and donation columns are rewritten, and new carts get new keys;
* `cartDelivery_ok` — a delivery sells the row of that key as it finds it.
-/

/-! ### Signs -/

/-- The discount is not negative, and the gift is positive. -/
structure Hold.Signed (h : Hold) : Prop where
  discount : ∀ d ∈ h.discountAmount, 0 ≤ d
  donation : ∀ a ∈ h.donationAmount, 0 < a

section Signs

variable {trig : Trig} {db db' : Db} {now : Time} {h : Hold}

/-- A discount is never negative. -/
theorem Hold.Signed.discount_nonneg (hs : h.Signed) : 0 ≤ holdDiscount h := by
  unfold holdDiscount
  cases hd : h.discountAmount with
  | none => exact le_refl 0
  | some d => exact hs.discount d hd

/-- A gift is never negative. -/
theorem Hold.Signed.donation_nonneg (hs : h.Signed) : 0 ≤ holdDonation h := by
  unfold holdDonation
  cases ha : h.donationAmount with
  | none => exact le_refl 0
  | some a => exact (hs.donation a ha).le

/-- Every cart has its signs. -/
def CartsSigned (db : Db) : Prop := ∀ h ∈ db.holds.rows, h.Signed

/-- Deleting carts keeps the signs of the others. -/
theorem CartsSigned.delete (hs : CartsSigned db) {p : Hold → Bool}
    (h : db'.holds = db.holds.delete p) : CartsSigned db' := by
  intro k hk
  rw [h] at hk
  exact hs k (Table.mem_delete.mp hk).1

/-- Rewriting the seats of the carts does not touch their signs. -/
theorem CartsSigned.update (hs : CartsSigned db) {f : Hold → Hold} {hf}
    (h : db'.holds = db.holds.update (fun _ => true) f hf)
    (hkeep : ∀ k : Hold, (f k).discountAmount = k.discountAmount ∧
      (f k).donationAmount = k.donationAmount) : CartsSigned db' := by
  intro k hk
  rw [h] at hk
  obtain ⟨x, hx, rfl⟩ := Table.mem_update.mp hk
  refine ⟨?_, ?_⟩
  · rw [if_pos rfl, (hkeep x).1]
    exact (hs x hx).discount
  · rw [if_pos rfl, (hkeep x).2]
    exact (hs x hx).donation

/-- What a request may do keeps the signs. -/
theorem Effect.cartsSigned (he : Effect now db db') (hs : CartsSigned db) : CartsSigned db' := by
  cases he with
  | released p h => exact hs.delete (by rw [h])
  | replacedGa organization performance sessionKey priceTier allocation n _ _ _ _ _ h =>
    subst h
    intro k hk
    rcases mem_replaceSessionHold.mp hk with hk | rfl
    · exact hs k (Table.mem_delete.mp hk).1
    -- A new cart has neither discount nor gift.
    · exact ⟨fun d hd => (by cases hd), fun a ha => (by cases ha)⟩
  | replacedReserved organization performance sessionKey seats _ _ _ _ _ h =>
    subst h
    intro k hk
    rcases mem_replaceSessionHold.mp hk with hk | rfl
    · exact hs k (Table.mem_delete.mp hk).1
    · exact ⟨fun d hd => (by cases hd), fun a ha => (by cases ha)⟩
  | edited id f hf _ hmoney h =>
    subst h
    intro k hk
    obtain ⟨x, hx, rfl⟩ := mem_editHold.mp hk
    split_ifs with hid
    -- An edit leaves a figure as it was, or writes one with the right sign.
    · have hedit := hmoney x hx hid
      refine ⟨fun d hd => ?_, fun a ha => ?_⟩
      · rcases hedit.discount d hd with hold | hnew
        · exact (hs x hx).discount d hold
        · exact hnew.1
      · rcases hedit.donation a ha with hold | hnew
        · exact (hs x hx).donation a hold
        · exact hnew
    · exact hs x hx
  | sold hold row order _ _ _ hsold => exact hs.delete hsold.holds
  | voided order _ _ _ hholds => intro k hk; rw [hholds] at hk; exact hs k hk
  | aside _ _ hholds => intro k hk; rw [hholds] at hk; exact hs k hk

/-- What the staff may do keeps the signs. -/
theorem execStaff_cartsSigned (hshape : CartsShaped db) (hs : CartsSigned db) (op : StaffOp) :
    CartsSigned (execStaff trig op db) := by
  rcases ((@execStaff_effect trig) hshape.gaSeatless op).1 with
    h | ⟨zone, h⟩ | ⟨section_, removed, accessible, -, -, h⟩ | ⟨ts, -, h⟩
  · intro k hk; rw [h] at hk; exact hs k hk
  · exact hs.update h fun _ => ⟨rfl, rfl⟩
  · exact hs.update h fun _ => ⟨rfl, rfl⟩
  · exact hs.delete h

/-- **Shape, signs and books** of every reachable state of the theater. -/
theorem theater_carts {s : State} (h : Reachable (theater trig) s) :
    CartsShaped s.db ∧ CartsSigned s.db ∧ Linked s.db := by
  refine h.invariant (I := fun s => CartsShaped s.db ∧ CartsSigned s.db ∧ Linked s.db)
    (fun s hf => ⟨fun k hk => ?_, fun k hk => ?_, hf.linked⟩) ?_
  · rw [hf.holds] at hk; cases hk
  · rw [hf.holds] at hk; cases hk
  · rintro u r v ⟨hshape, hsigned, hl⟩ ⟨ha, rfl⟩
    refine ⟨?_, ?_, execRequest_linked hshape.gaSeatless r hl⟩
    · cases r with
      | shop op => exact (exec_effect ha).cartsShaped hshape
      | staff op => exact execStaff_cartsShaped hshape op
    · cases r with
      | shop op => exact (exec_effect ha).cartsSigned hsigned
      | staff op => exact execStaff_cartsSigned hshape hsigned op

/-- A run of the shop goes on inside the theater. -/
theorem theater_run {s s' : State} {ops : List Op} (h : Reachable (theater trig) s)
    (hrun : Run boxOffice s ops s') : Reachable (theater trig) s' :=
  hrun.invariant h fun _ op _ hu hs => hu.step (i := .shop op) ⟨hs.1, hs.2⟩

end Signs

/-! ### The row of a cart -/

/-- The key of the cart is taken, and a row that has it has the owner, the places and the seats
    of the cart. -/
structure CartKept (cart : Hold) (db : Db) : Prop where
  taken : cart.id < db.holds.nextId
  same : ∀ h ∈ db.holds.rows, h.id = cart.id → Hold.SameCart h cart ∧ h.holdSeats = cart.holdSeats

section Kept

variable {db db' : Db} {now : Time} {cart : Hold}

/-- A stored cart is kept. -/
theorem CartKept.of_mem (hmem : cart ∈ db.holds.rows) : CartKept cart db where
  taken := db.holds.fresh cart hmem
  same := fun h hh hid => by
    obtain rfl : h = cart := Table.eq_of_key_eq hh hmem hid
    exact ⟨⟨rfl, rfl, rfl, rfl, rfl, rfl⟩, rfl⟩

/-- Deleting carts keeps those that are left as they were. -/
theorem CartKept.delete (hk : CartKept cart db) {p : Hold → Bool}
    (h : db'.holds = db.holds.delete p) : CartKept cart db' where
  taken := by rw [h]; exact hk.taken
  same := fun x hx hid => by
    rw [h] at hx
    exact hk.same x (Table.mem_delete.mp hx).1 hid

/-- A cart is kept while the carts stay. -/
theorem CartKept.of_eq (hk : CartKept cart db) (h : db'.holds = db.holds) : CartKept cart db' where
  taken := by rw [h]; exact hk.taken
  same := by rw [h]; exact hk.same

/-- A cart that replaces another one gets a new key. -/
theorem CartKept.replace (hk : CartKept cart db) {organization performance : Nat}
    {sessionKey : String} {mk : Nat → Hold} {hmk} :
    CartKept cart (replaceSessionHold db organization performance sessionKey mk hmk).1 where
  taken := hk.taken.trans (Nat.lt_succ_self _)
  same := fun x hx hid => by
    rcases mem_replaceSessionHold.mp hx with hx | rfl
    · exact hk.same x (Table.mem_delete.mp hx).1 hid
    · exact absurd ((hmk _).symm.trans hid) (Nat.ne_of_gt hk.taken)

/-- **The step.** -/
theorem Effect.cartKept (he : Effect now db db') (hk : CartKept cart db) : CartKept cart db' := by
  cases he with
  | released p h => exact hk.delete (by rw [h])
  | replacedGa organization performance sessionKey priceTier allocation n _ _ _ _ _ h =>
    subst h
    exact hk.replace
  | replacedReserved organization performance sessionKey seats _ _ _ _ _ h =>
    subst h
    exact hk.replace
  | edited id f hf hedit _ h =>
    subst h
    refine ⟨hk.taken, fun x hx hid => ?_⟩
    obtain ⟨y, hy, rfl⟩ := mem_editHold.mp hx
    split_ifs at hid ⊢ with hyid
    · -- A cart edit keeps the owner, the places and the seats of the row.
      obtain ⟨⟨h1, h2, h3, h4, h5, h6⟩, hseats⟩ := hedit y
      obtain ⟨⟨g1, g2, g3, g4, g5, g6⟩, gseats⟩ := hk.same y hy (h1.symm.trans hid)
      exact ⟨⟨h1.trans g1, h2.trans g2, h3.trans g3, h4.trans g4, h5.trans g5, h6.trans g6⟩,
        hseats.trans gseats⟩
    · exact hk.same y hy hid
  | sold hold row order _ _ _ hsold => exact hk.delete hsold.holds
  | voided order _ _ _ hholds => exact hk.of_eq hholds
  | aside _ _ hholds => exact hk.of_eq hholds

/-- **The run.** -/
theorem cart_kept {s s' : State} {ops : List Op} (hmem : cart ∈ s.db.holds.rows)
    (hrun : Run boxOffice s ops s') : CartKept cart s'.db :=
  hrun.invariant (I := fun s => CartKept cart s.db) (.of_mem hmem) fun u op v hu hs => by
    obtain ⟨ha, rfl⟩ := hs
    exact (exec_effect ha).cartKept hu

end Kept

/-! ### The delivery -/

/-- **What a delivery sells** is the stored row of the cart the session names. -/
theorem cartDelivery_ok {db db' : Db} {now : Time} {organization id : Nat}
    {session : CheckoutSession} {order : Order} (hkind : session.kind = .hold (some id))
    (h : fulfillCheckoutSession db now organization session = .ok (db', order, true)) :
    ∃ cart ∈ db.holds.rows, cart.id = id ∧
      fulfillHold db now cart (sessionArgs session) = .ok (db', order) := by
  rcases fulfillCheckoutSession_ok h with ⟨-, target, ht, hb⟩ | ⟨hfalse, -⟩
  · unfold readTarget at ht
    split_ifs at ht
    simp only [hkind, Option.bind_some] at ht
    split at ht
    · cases ht
    · rename_i cart hcart
      split_ifs at ht
      cases ht
      have hp := List.find?_some hcart
      simp only [Bool.and_eq_true, beq_iff_eq] at hp
      exact ⟨cart, List.mem_of_find?_eq_some hcart, hp.2, hb⟩
  · cases hfalse

end BoxOffice

import BoxOffice.System

namespace BoxOffice

open Relational Transition

/-!
# Orders — where the carts of the shop come from

* `CartOrigin s op h` — the ways in which the row `h` can be stored after the operation: it was
  there, a selection created it, or an edit of the promo or the donation columns rewrote it;
* `exec_origin` — there are no others.
-/

/-- Where a row of the holds comes from. -/
inductive CartOrigin (s : State) : Op → Hold → Prop
  | kept {op : Op} {h : Hold} : h ∈ s.db.holds.rows → CartOrigin s op h
  | ga {organization performance : Nat} {sessionKey : String} {priceTier : Nat} {quantity : Int}
      {p : Performance} {t : PriceTier} {r : Db × Option Hold} :
      findPerformance s.db organization performance = some p →
      s.db.priceTiers.get? priceTier = some t →
      setGaHold s.db s.now organization p sessionKey t (some quantity) = .ok r →
      0 < quantity →
      CartOrigin s (.setGaHold organization performance sessionKey priceTier quantity)
        (newGaHold s.now organization p sessionKey t quantity.toNat s.db.holds.nextId)
  | reserved {organization performance : Nat} {sessionKey : String} {seatIds : List Nat}
      {p : Performance} {r : Db × Option Hold} :
      findPerformance s.db organization performance = some p →
      setReservedHold s.db s.now organization p sessionKey seatIds = .ok r →
      CartOrigin s (.setReservedHold organization performance sessionKey seatIds)
        (newReservedHold s.now organization p sessionKey
          ((requestedSeats s.db organization p seatIds.dedup).map (newHoldSeat s.db p))
          s.db.holds.nextId)
  | promo {organization : Nat} {sessionKey : String} {holdId : Option Nat} {code : String}
      {h : Hold} {promo : PromoCode} :
      h ∈ s.db.holds.rows → getUsableCode s.db.promoCodes organization code = some promo →
      computeDiscount promo (holdTotal s.db h) < holdTotal s.db h →
      CartOrigin s (.applyPromoCode organization sessionKey holdId code)
        (h.setPromo (some promo.id) promo.code (some (computeDiscount promo (holdTotal s.db h))))
  | unpromo {organization : Nat} {sessionKey : String} {holdId : Option Nat} {h : Hold} :
      h ∈ s.db.holds.rows →
      CartOrigin s (.removePromoCode organization sessionKey holdId) (h.setPromo none "" none)
  | donation {op : Op} {amount : Option Cents} {campaign : Option Nat} {h : Hold} :
      h ∈ s.db.holds.rows → CartOrigin s op (h.setDonation amount campaign)

section Origin

variable {s : State} {op : Op} {db' : Db} {now : Time} {organization : Nat}
  {performance : Performance} {sessionKey : String}

/-- The rows that clearing the session's hold leaves. -/
theorem mem_clearSessionHold {holds : Table Hold} {n : Nat} {h : Hold}
    (hh : h ∈ (clearSessionHold holds organization n sessionKey).rows) : h ∈ holds.rows :=
  (Table.mem_delete.mp hh).1

/-- The row a general-admission selection creates, if it creates one. -/
theorem mem_setGaHold {db : Db} {priceTier : PriceTier} {quantity : Int} {r : Option Hold}
    {h : Hold}
    (hr : setGaHold db now organization performance sessionKey priceTier (some quantity)
      = .ok (db', r)) (hh : h ∈ db'.holds.rows) :
    h ∈ db.holds.rows ∨ 0 < quantity ∧ h = newGaHold now organization performance sessionKey
      priceTier quantity.toNat db.holds.nextId := by
  unfold setGaHold at hr
  by_cases hq : quantity ≤ 0
  · simp only [hq, if_true] at hr
    cases hr
    exact .inl (mem_clearSessionHold hh)
  · simp only [hq, if_false] at hr
    cases ha : allocationOf db performance.id with
    | none => simp only [ha] at hr; cases hr
    | some allocation =>
      simp only [ha] at hr
      split_ifs at hr
      cases hr
      rcases mem_replaceSessionHold.mp hh with hh | rfl
      · exact .inl (mem_clearSessionHold hh)
      · exact .inr ⟨not_le.mp hq, rfl⟩

/-- The row a selection of seats creates, if it creates one. -/
theorem mem_setReservedHold {db : Db} {seatIds : List Nat} {r : Option Hold} {h : Hold}
    (hr : setReservedHold db now organization performance sessionKey seatIds = .ok (db', r))
    (hh : h ∈ db'.holds.rows) :
    h ∈ db.holds.rows ∨ h = newReservedHold now organization performance sessionKey
      ((requestedSeats db organization performance seatIds.dedup).map (newHoldSeat db performance))
      db.holds.nextId := by
  unfold setReservedHold at hr
  by_cases hnil : seatIds.dedup = []
  · simp only [hnil, if_true] at hr
    cases hr
    exact .inl (mem_clearSessionHold hh)
  · simp only [hnil, if_false] at hr
    split_ifs at hr
    cases hr
    rcases mem_replaceSessionHold.mp hh with hh | rfl
    · exact .inl (mem_clearSessionHold hh)
    · exact .inr rfl

/-- A transaction that only deletes holds. -/
theorem commit_kept {α : Type} {r : Result α}
    (h : ∀ db' a, r = .ok (db', a) → ∀ k ∈ db'.holds.rows, k ∈ s.db.holds.rows) :
    ∀ k ∈ (s.commit r).db.holds.rows, CartOrigin s op k :=
  fun k hk => .kept (commit_rule (p := fun db => ∀ k ∈ db.holds.rows, k ∈ s.db.holds.rows)
    (fun _ hk => hk) h k hk)

/-- The sale of a cart makes no cart. -/
theorem fulfillHold_holds {db : Db} {hold : Hold} {args : FulfillArgs} {order : Order}
    (h : fulfillHold db now hold args = .ok (db', order)) :
    ∀ k ∈ db'.holds.rows, k ∈ db.holds.rows := by
  obtain ⟨guests, guest, -, -, -, -, rfl⟩ := fulfillHold_ok h
  exact fun k hk => (Table.mem_delete.mp hk).1

/-- Nor does a donation. -/
theorem fulfillDonation_holds {db : Db} {amount : Cents} {campaign : Option Nat}
    {args : FulfillArgs} {order : Order}
    (h : fulfillDonation db now organization amount campaign args = .ok (db', order)) :
    ∀ k ∈ db'.holds.rows, k ∈ db.holds.rows := by
  obtain ⟨guests, guest, -, -, -, rfl⟩ := fulfillDonation_ok h
  exact fun k hk => hk

/-- Nor does the sale of a pass. -/
theorem fulfillPassPurchase_holds {db : Db} {product : PassProduct} {args : FulfillArgs}
    {order : Order} (h : fulfillPassPurchase db now organization product args = .ok (db', order)) :
    ∀ k ∈ db'.holds.rows, k ∈ db.holds.rows := by
  obtain ⟨guests, guest, -, -, -, -, rfl⟩ := fulfillPassPurchase_ok h
  exact fun k hk => hk

/-- Nor does a redemption. -/
theorem fulfillHoldWithPass_holds {db : Db} {hold : Hold} {passPurchase : Nat}
    {buyerEmail buyerName : String} {marketingOptIn : Bool} {order : Order}
    (h : fulfillHoldWithPass db now hold passPurchase buyerEmail buyerName marketingOptIn
      = .ok (db', order)) :
    ∀ k ∈ db'.holds.rows, k ∈ db.holds.rows := by
  obtain ⟨p, performance, -, -, -, -, -, -, -, guests, guest, -, -, rfl⟩ :=
    fulfillHoldWithPass_ok h
  exact fun k hk => (Table.mem_delete.mp hk).1

/-- Nor does a delivery. -/
theorem fulfillCheckoutSession_holds {db : Db} {session : CheckoutSession} {order : Order}
    {created : Bool}
    (h : fulfillCheckoutSession db now organization session = .ok (db', order, created)) :
    ∀ k ∈ db'.holds.rows, k ∈ db.holds.rows := by
  rcases fulfillCheckoutSession_ok h with ⟨-, target, -, hbody⟩ | ⟨-, rfl, -⟩
  · cases target with
    | hold hold => exact fulfillHold_holds hbody
    | donation amount campaign => exact fulfillDonation_holds hbody
    | pass product => exact fulfillPassPurchase_holds hbody
  · exact fun k hk => hk

/-- An edit of one hold rewrites that row. -/
theorem edit_origin {id : Nat} {f : Hold → Hold} {hf} {h : Hold}
    (hedit : ∀ k ∈ s.db.holds.rows, k.id = id → CartOrigin s op (f k))
    (hh : h ∈ (editHold s.db id f hf).holds.rows) : CartOrigin s op h := by
  obtain ⟨k, hk, rfl⟩ := mem_editHold.mp hh
  split_ifs with hid
  · exact hedit k hk hid
  · exact .kept hk

/-- **Origins.** A cart that is stored after an operation was there before, was created by a
    selection, or is a cart whose promo or donation columns were rewritten. -/
theorem exec_origin {h : Hold} (hh : h ∈ (exec op s).db.holds.rows) : CartOrigin s op h := by
  cases op with
  | advance d => exact .kept hh
  -- A selection that succeeds stores the cart that it returns, which is the new one.
  | setGaHold organization performance sessionKey priceTier quantity =>
    simp only [exec] at hh
    cases hp : findPerformance s.db organization performance with
    | none => simp only [hp] at hh; exact .kept hh
    | some p =>
      cases ht : s.db.priceTiers.get? priceTier with
      | none => simp only [hp, ht] at hh; exact .kept hh
      | some t =>
        simp only [hp, ht] at hh
        cases hr : setGaHold s.db s.now organization p sessionKey t (some quantity) with
        | error e => rw [hr] at hh; exact .kept hh
        | ok r =>
          rw [hr] at hh
          rcases mem_setGaHold hr hh with hh | ⟨hpos, rfl⟩
          · exact .kept hh
          · exact .ga hp ht hr hpos
  | setReservedHold organization performance sessionKey seatIds =>
    simp only [exec] at hh
    cases hp : findPerformance s.db organization performance with
    | none => simp only [hp] at hh; exact .kept hh
    | some p =>
      simp only [hp] at hh
      cases hr : setReservedHold s.db s.now organization p sessionKey seatIds with
      | error e => rw [hr] at hh; exact .kept hh
      | ok r =>
        rw [hr] at hh
        rcases mem_setReservedHold hr hh with hh | rfl
        · exact .kept hh
        · exact .reserved hp hr
  -- Releasing only takes carts away.
  | releaseHold organization performance sessionKey => exact .kept (mem_clearSessionHold hh)
  | releaseHoldById organization sessionKey holdId =>
    simp only [exec, releaseHoldById] at hh
    split_ifs at hh
    · exact .kept hh
    · exact .kept (Table.mem_delete.mp hh).1
  | releaseExpiredHolds => exact .kept (Table.mem_delete.mp hh).1
  -- The columns of one cart are rewritten; its key tells which one.
  | applyPromoCode organization sessionKey holdId code =>
    simp only [exec] at hh
    cases hr : applyPromoCode s.db s.now organization sessionKey holdId code with
    | error e => rw [hr] at hh; exact .kept hh
    | ok r =>
      obtain ⟨db', u⟩ := r
      obtain ⟨hold, promo, hfind, hcode, hlt, hdb⟩ := applyPromoCode_ok hr
      rw [hr, State.commit, hdb] at hh
      refine edit_origin (fun k hk hid => ?_) hh
      have hsame : k = hold := Table.eq_of_key_eq hk (findActiveHold_some hfind).1 hid
      subst hsame
      exact .promo hk hcode hlt
  | removePromoCode organization sessionKey holdId =>
    simp only [exec] at hh
    rcases (@removePromoCode_eq s.db organization sessionKey holdId) with h | ⟨hold, -, h⟩
    · rw [h] at hh
      exact .kept hh
    · rw [h] at hh
      exact edit_origin (fun k hk _ => .unpromo hk) hh
  | setHoldDonation organization sessionKey holdId amount campaign =>
    simp only [exec] at hh
    cases hr : setHoldDonation s.db s.now organization sessionKey holdId amount campaign with
    | error e => rw [hr] at hh; exact .kept hh
    | ok r =>
      obtain ⟨db', u⟩ := r
      obtain ⟨hold, gift, -, -, -, -, hdb⟩ := setHoldDonation_ok hr
      rw [hr, State.commit, hdb] at hh
      exact edit_origin (fun k hk _ => .donation hk) hh
  | clearHoldDonation organization sessionKey holdId =>
    simp only [exec] at hh
    rcases (@clearHoldDonation_eq s.db organization sessionKey holdId) with h | ⟨hold, -, h⟩
    · rw [h] at hh
      exact .kept hh
    · rw [h] at hh
      exact edit_origin (fun k hk _ => .donation hk) hh
  -- A fulfilment takes its cart away and leaves the others.
  | fulfillHold hold args =>
    simp only [exec] at hh
    exact commit_kept (fun _ _ hr => fulfillHold_holds hr) h hh
  | fulfillHoldWithPass hold passPurchase buyerEmail buyerName marketingOptIn =>
    simp only [exec] at hh
    exact commit_kept (fun _ _ hr => fulfillHoldWithPass_holds hr) h hh
  | fulfillDonation organization amount campaign args =>
    simp only [exec] at hh
    exact commit_kept (fun _ _ hr => fulfillDonation_holds hr) h hh
  | fulfillPassPurchase organization product args =>
    simp only [exec] at hh
    split at hh
    · exact commit_kept (fun _ _ hr => fulfillPassPurchase_holds hr) h hh
    · exact .kept hh
  | fulfillCheckoutSession organization session =>
    simp only [exec] at hh
    exact commit_kept (fun _ _ hr => fulfillCheckoutSession_holds hr) h hh
  -- The undoing of orders does not touch the carts.
  | voidOrder order =>
    simp only [exec] at hh
    split at hh
    · rw [voidOrder_fst] at hh
      exact .kept hh
    · exact .kept hh
  | refundOrder order gateway =>
    simp only [exec] at hh
    refine commit_kept (fun db' performed hr => ?_) h hh
    obtain ⟨o, -, ⟨-, rfl, -⟩ | ⟨-, -, -, provider, refundRef, rfl⟩⟩ := refundOrder_ok hr
    · exact fun _ hk => hk
    · rw [refundedDb_eq]
      exact fun _ hk => hk
  | orderCancel order =>
    simp only [exec] at hh
    split at hh
    · unfold orderCancel at hh
      split_ifs at hh
      · exact .kept hh
      · rw [undoOrder_eq] at hh
        exact .kept hh
    · exact .kept hh

end Origin

end BoxOffice

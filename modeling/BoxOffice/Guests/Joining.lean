import BoxOffice.Guests.Storefront

namespace BoxOffice

open Relational Transition

/-!
# Guests — which orders an account has

* `Joins` — a sale adds one order, and links it to the account of its address, to a new account or
  to none (`fulfillOnSpot_joins`, `fulfillCheckoutSession_joins`);
* `SameLinks` — nothing else changes whose order an order is (`exec_links`);
* `Plan.Of` — a purchase view sells what belongs to its theater (`StoreRequest.plan_of`).
-/

/-- The key of the account that has the address. -/
def accountKey (db : Db) (organization : Nat) (email : String) : Option Nat :=
  (accountOf db.guests organization email).map (·.id)

/-- A sale adds the order, linked to the account that was there, to a new account or to none. -/
structure Joins (db db' : Db) (account : Option Nat) (order : Order) : Prop where
  orders : ∃ mk hk, db'.orders = db.orders.insert mk hk ∧ mk db.orders.nextId = order
  guests : db.guests.nextId ≤ db'.guests.nextId
  known : ∀ pk, order.guest = some pk → pk < db'.guests.nextId
  guest : ∀ pk, order.guest = some pk → account = some pk ∨ pk = db.guests.nextId

/-- Every order is an order from before, with the guest it had. -/
structure SameLinks (db db' : Db) : Prop where
  orders : ∀ o' ∈ db'.orders.rows, ∃ o ∈ db.orders.rows, o.id = o'.id ∧ o.guest = o'.guest
  guests : db'.guests = db.guests

section Sales

variable {db db' : Db} {now : Time} {organization : Nat} {email : String} {args : FulfillArgs}
  {order : Order}

/-- The order of an attached guest. -/
theorem Joins.of_attach {name : String} {marketingOptIn : Bool} {guests : Table GuestAccount}
    {guest : Option GuestAccount} (hsale : NewSale db db' order)
    (h : attachGuest db.guests organization email name marketingOptIn now = (guests, guest))
    (hguests : db'.guests = guests) (hguest : order.guest = guest.map (·.id)) :
    Joins db db' (accountKey db organization email) order := by
  obtain ⟨hnext, hcases⟩ := attachGuest_cases h
  have hboth : ∀ pk, order.guest = some pk → pk < guests.nextId ∧
      (accountKey db organization email = some pk ∨ pk = db.guests.nextId) := by
    intro pk hpk
    rw [hguest] at hpk
    -- No account, the one that has the address, or the next one.
    rcases hcases with rfl | ⟨g, rfl, old, hold, hid⟩ | ⟨g, rfl, hid, hsucc⟩
    · cases hpk
    · obtain rfl : g.id = pk := Option.some.inj hpk
      refine ⟨?_, .inl ?_⟩
      · rw [← hid]
        exact lt_of_lt_of_le (db.guests.fresh old (accountOf_some hold).1) hnext
      · rw [accountKey, hold, Option.map_some, hid]
    · obtain rfl : g.id = pk := Option.some.inj hpk
      rw [hid, hsucc]
      exact ⟨Nat.lt_succ_self _, .inr rfl⟩
  rw [← hguests] at hnext hboth
  exact ⟨hsale.orders, hnext, fun pk hpk => (hboth pk hpk).1, fun pk hpk => (hboth pk hpk).2⟩

/-- The sale of a cart joins the account of its address. -/
theorem fulfillHold_joins {hold : Hold}
    (h : fulfillHold db now hold args = .ok (db', order)) :
    Joins db db' (accountKey db hold.organization args.buyerEmail) order := by
  have hsale := (fulfillHold_newSale h).1
  obtain ⟨guests, guest, hattach, -, -, rfl, rfl⟩ := fulfillHold_ok h
  exact .of_attach hsale hattach rfl rfl

/-- So does a donation. -/
theorem fulfillDonation_joins {amount : Cents} {campaign : Option Nat}
    (h : fulfillDonation db now organization amount campaign args = .ok (db', order)) :
    Joins db db' (accountKey db organization args.buyerEmail) order := by
  have hsale := (fulfillDonation_newSale h).1
  obtain ⟨guests, guest, hattach, -, rfl, rfl⟩ := fulfillDonation_ok h
  exact .of_attach hsale hattach rfl rfl

/-- So does the sale of a pass. -/
theorem fulfillPassPurchase_joins {product : PassProduct}
    (h : fulfillPassPurchase db now organization product args = .ok (db', order)) :
    Joins db db' (accountKey db organization args.buyerEmail) order := by
  have hsale := (fulfillPassPurchase_newSale h).1
  obtain ⟨guests, guest, hattach, -, -, rfl, rfl⟩ := fulfillPassPurchase_ok h
  exact .of_attach hsale hattach rfl rfl

/-- **A fulfilment on the spot** joins the account of the address that was typed. -/
theorem fulfillOnSpot_joins {target : Target} (hof : target.Of organization)
    (h : fulfillOnSpot db now organization args target = .ok (db', order)) :
    Joins db db' (accountKey db organization args.buyerEmail) order := by
  cases target with
  | hold hold =>
    obtain rfl : hold.organization = organization := hof
    exact fulfillHold_joins h
  | donation amount campaign => exact fulfillDonation_joins h
  | pass product => exact fulfillPassPurchase_joins h

/-- **A fulfilment of a Checkout Session** joins the account of the address Stripe reports, or finds
    that it was done before. -/
theorem fulfillCheckoutSession_joins {session : CheckoutSession} {created : Bool}
    (h : fulfillCheckoutSession db now organization session = .ok (db', order, created)) :
    (created = true ∧ existingOrder db organization session.id = none ∧
      Joins db db' (accountKey db organization session.buyerEmail) order) ∨
        (created = false ∧ db' = db) := by
  rcases fulfillCheckoutSession_ok h with ⟨hcreated, target, htarget, hbody⟩ | ⟨hcreated, hdb, -⟩
  · refine .inl ⟨hcreated, ?_, ?_⟩
    · cases hexisting : existingOrder db organization session.id with
      | none => rfl
      | some existing =>
        -- A body that ran has found no order of the session.
        unfold fulfillCheckoutSession at h
        rw [hexisting] at h
        cases h
        cases hcreated
    · exact @fulfillOnSpot_joins db db' now organization (sessionArgs session) order target
        (readTarget_of htarget) (by cases target <;> exact hbody)
  · exact .inr ⟨hcreated, hdb⟩

/-- **A redemption** joins the account that holds the pass. -/
theorem fulfillHoldWithPass_joins {hold : Hold} {organization : Organization} {guest : GuestAccount}
    {pk : Nat} {p : PassPurchase} {buyerEmail buyerName : String}
    (hp : guestPass db organization guest pk = some p) (hguest : guest ∈ db.guests.rows)
    (h : fulfillHoldWithPass db now hold p.id buyerEmail buyerName false = .ok (db', order)) :
    Joins db db' (some guest.id) order := by
  have hmem := List.mem_of_find?_eq_some hp
  have hheld := List.find?_some hp
  rw [Bool.and_eq_true, beq_iff_eq (b := some guest.id)] at hheld
  have hsale := (fulfillHoldWithPass_newSale h).1
  obtain ⟨p', performance, hp', -, -, -, -, -, -, guests, found, hfound, rfl, rfl⟩ :=
    fulfillHoldWithPass_ok h
  obtain ⟨hmem', hid⟩ := Table.get?_eq_some.mp hp'
  obtain rfl : p' = p := Table.eq_of_key_eq hmem' hmem hid
  -- The pass has a guest, so the order is linked to that guest.
  unfold redemptionGuest at hfound
  rw [hheld.2] at hfound
  obtain ⟨rfl, rfl⟩ := Prod.mk.inj hfound
  refine ⟨hsale.orders, le_refl _, fun pk hpk => ?_, fun pk hpk => .inl hpk⟩
  obtain rfl : guest.id = pk := Option.some.inj hpk
  exact db.guests.fresh guest hguest

end Sales

/-! ### The rest of the box office -/

section Rest

variable {db db' : Db}

/-- Orders and accounts that stay keep their links. -/
theorem SameLinks.of_eq (horders : db'.orders = db.orders) (hguests : db'.guests = db.guests) :
    SameLinks db db' :=
  ⟨fun o ho => ⟨o, by rwa [horders] at ho, rfl, rfl⟩, hguests⟩

/-- Writing only holds keeps them. -/
theorem SameLinks.of_holds (h : OnlyHolds db db') : SameLinks db db' := by
  obtain ⟨holds, rfl⟩ := h
  exact .of_eq rfl rfl

/-- A change of the status of an order. -/
theorem SameLinks.of_status {order : Nat} {status : OrderStatus}
    (horders : db'.orders = setOrderStatus db.orders order status)
    (hguests : db'.guests = db.guests) : SameLinks db db' := by
  refine ⟨fun o' ho' => ?_, hguests⟩
  rw [horders] at ho'
  obtain ⟨o, ho, rfl⟩ := Table.mem_update.mp ho'
  refine ⟨o, ho, ?_⟩
  split_ifs <;> exact ⟨rfl, rfl⟩

/-- A request that keeps the links commits them so. -/
theorem commit_links {α : Type} {s : State} {r : Result α}
    (h : ∀ db' a, r = .ok (db', a) → SameLinks s.db db') : SameLinks s.db (s.commit r).db :=
  commit_rule (p := SameLinks s.db) (.of_eq rfl rfl) h

/-- **An operation that sells nothing** leaves every order with the guest it has. -/
theorem exec_links {op : Op} {s : State} (hsells : ¬op.Sells) :
    SameLinks s.db (exec op s).db := by
  cases op with
  | fulfillHold => exact absurd (.inl trivial) hsells
  | fulfillHoldWithPass => exact absurd (.inl trivial) hsells
  | fulfillDonation organization amount campaign args =>
    exact absurd (.inr ⟨args, rfl⟩) hsells
  | fulfillPassPurchase organization product args => exact absurd (.inr ⟨args, rfl⟩) hsells
  | fulfillCheckoutSession => exact absurd (.inl trivial) hsells
  | voidOrder order =>
    simp only [exec]
    split
    · rw [voidOrder_fst]
      exact .of_eq rfl rfl
    · exact .of_eq rfl rfl
  | refundOrder order gateway =>
    simp only [exec]
    refine commit_links fun _ performed h => ?_
    obtain ⟨o, -, ⟨-, rfl, -⟩ | ⟨-, -, -, provider, refundRef, rfl⟩⟩ := refundOrder_ok h
    · exact .of_eq rfl rfl
    · rw [refundedDb_eq]
      exact .of_status rfl rfl
  | orderCancel order =>
    simp only [exec]
    split
    · unfold orderCancel
      split_ifs
      · exact .of_eq rfl rfl
      · rw [undoOrder_eq]
        exact .of_status rfl rfl
    · exact .of_eq rfl rfl
  -- What is left are the operations on carts.
  | _ => exact SameLinks.of_holds (exec_carts (by trivial) s)

end Rest

/-! ### What the views decide on -/

/-- A decision to fulfil is about a target of the organization. -/
def Plan.Of (organization : Nat) (plan : Plan) : Prop :=
  ∀ target args, plan = .fulfill target args → target.Of organization

section Plans

variable {settings : StoreSettings} {s : State} {organization : Organization} {key : String}
  {holdId : Option Nat} {buyer : Buyer} {amount : Option Cents} {pk : Nat} {n : Nat}

/-- A page is for no organization. -/
theorem Plan.Of.answer {page : StorePage} : (Plan.answer page).Of n := by
  intro target args h
  cases h

/-- Nor is a visit to Stripe. -/
theorem Plan.Of.visit {page : CheckoutPage} : (Plan.visit page).Of n := by
  intro target args h
  cases h

/-- A sale is for the organization of its target. -/
theorem Plan.Of.fulfill {target : Target} {args : FulfillArgs} (h : target.Of n) :
    (Plan.fulfill target args).Of n := by
  intro target' args' heq
  obtain ⟨rfl, -⟩ := Plan.fulfill.inj heq
  exact h

/-- What is decided about a cart is for its organization. -/
theorem withHold_of {plan : Hold → Plan}
    (h : ∀ hold, hold.organization = organization.id → (plan hold).Of n) :
    (withHold s organization key holdId plan).Of n := by
  unfold withHold
  split
  · exact .answer
  · rename_i hold hfind
    exact h hold (findActiveHold_some hfind).2.1

/-- What is decided about a campaign is too. -/
theorem withCampaign_of {plan : DonationCampaign → Plan} (h : ∀ campaign, (plan campaign).Of n) :
    (withCampaign s organization plan).Of n := by
  unfold withCampaign
  split
  · exact .answer
  · exact h _

/-- So is what is decided about a pass. -/
theorem withProduct_of {plan : PassProduct → Plan} (h : ∀ product, (plan product).Of n) :
    (withProduct s organization pk plan).Of n := by
  unfold withProduct
  split
  · exact .answer
  · exact h _

/-- So is what is decided with an address for the receipt. -/
theorem withReceiptEmail_of {plan : String → Plan} (h : ∀ email, (plan email).Of n) :
    (withReceiptEmail buyer plan).Of n := by
  unfold withReceiptEmail
  split
  · exact .answer
  · exact h _

/-- The simulated checkout sells for its own organization. -/
theorem simulatedCheckout_of {closed : Option String} {provider : Provider} :
    (simulatedCheckout closed provider s organization key holdId buyer).Of organization.id := by
  unfold simulatedCheckout
  split
  · exact .answer
  · refine withHold_of fun hold hof => ?_
    split
    · exact .answer
    · exact .fulfill hof

/-- So does the checkout page. -/
theorem checkoutView_of {optIn : Bool} :
    (checkoutView settings s organization key holdId optIn).Of n := by
  refine withHold_of fun hold _ => ?_
  split
  · exact .visit
  · exact .answer
  · exact .answer

/-- So does the donation page. -/
theorem donate_of : (donate settings s organization amount buyer).Of n := by
  refine withCampaign_of fun campaign => ?_
  split
  · exact .answer
  · refine withReceiptEmail_of fun email => ?_
    split
    · exact .fulfill trivial
    · exact .visit

/-- So does the stub donation. -/
theorem donateStub_of : (donateStub s organization amount buyer).Of n := by
  unfold donateStub
  split
  · exact .answer
  · refine withCampaign_of fun campaign => ?_
    split
    · exact .answer
    · exact withReceiptEmail_of fun email => .fulfill trivial

/-- So does the page of a pass. -/
theorem passDetail_of : (passDetail settings s organization pk buyer).Of n := by
  refine withProduct_of fun product => withReceiptEmail_of fun email => ?_
  split
  · exact .fulfill trivial
  · exact .visit

/-- So does the stub sale of a pass. -/
theorem passStub_of : (passStub s organization pk buyer).Of n := by
  unfold passStub
  split
  · exact .answer
  · exact withProduct_of fun product => withReceiptEmail_of fun email => .fulfill trivial

/-- A purchase view sells what belongs to its theater. -/
theorem StoreRequest.plan_of {r : StoreRequest} {plan : Plan}
    (h : r.plan settings s organization key = some plan) : plan.Of organization.id := by
  cases r with
  | checkoutView holdId optIn => exact Option.some.inj h ▸ checkoutView_of
  | checkoutTest holdId buyer => exact Option.some.inj h ▸ simulatedCheckout_of
  | checkoutStub holdId buyer => exact Option.some.inj h ▸ simulatedCheckout_of
  | donate amount buyer => exact Option.some.inj h ▸ donate_of
  | donateStub amount buyer => exact Option.some.inj h ▸ donateStub_of
  | passDetail pk buyer => exact Option.some.inj h ▸ passDetail_of
  | passStub pk buyer => exact Option.some.inj h ▸ passStub_of
  | _ => cases h

end Plans

end BoxOffice

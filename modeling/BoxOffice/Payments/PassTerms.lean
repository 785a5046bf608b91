import BoxOffice.Dashboard.PassProducts
import BoxOffice.Payments.StripeSession
import BoxOffice.System

namespace BoxOffice

open Relational Transition

/-!
# Payments — the terms of a pass, from checkout to delivery

`create_pass_checkout_session` charges the price of the product as it is when the session is
created; `fulfill_pass_purchase` records the price and freezes the terms of the product as it is
when the webhook is delivered.

* `TermsKept` — the delivery records what was charged and grants what was offered;
* `SameTerms` — the stored product still has the terms of the session;
* `pass_terms_fixed` — over every run of catalogue changes one holds exactly when the other does.
-/

/-- The purchase grants what the product offers, with a full balance. -/
structure PassPurchase.Grants (p : PassPurchase) (product : PassProduct) : Prop where
  sold : p.product = product.id
  kind : p.kind = product.kind
  creditCount : p.creditCount = product.creditCount
  creditsRemaining : p.creditsRemaining = product.creditCount
  validFrom : p.validFrom = product.validFrom
  validUntil : p.validUntil = product.validUntil
  coveredEvents : ∀ e, e ∈ p.coveredEvents ↔ e ∈ product.events

/-- A delivery that went from `db` to `db'` recorded what `request` charged, on the order and on
    one new payment, and sold one pass on the terms of `product`. -/
structure TermsKept (request : SessionRequest) (product : PassProduct) (db db' : Db)
    (order : Order) : Prop where
  total : (order.total : ℚ) = request.charged
  payment : ∃ p, db'.payments.rows = db.payments.rows ++ [p] ∧ p.order = order.id ∧
    (p.amount : ℚ) = request.charged
  terms : ∃ p, db'.passPurchases.rows = db.passPurchases.rows ++ [p] ∧ p.order = order.id ∧
    p.Grants product

/-- The product as it is stored costs what the session charged for it, and offers the same. -/
structure SameTerms (currency : String) (product stored : PassProduct) : Prop where
  price : stored.price = wholeUnits product.price currency
  kind : stored.kind = product.kind
  creditCount : stored.creditCount = product.creditCount
  validFrom : stored.validFrom = product.validFrom
  validUntil : stored.validUntil = product.validUntil
  events : ∀ e, e ∈ stored.events ↔ e ∈ product.events

section Delivery

variable {db db' : Db} {now : Time} {organization : Nat} {session : CheckoutSession}
  {product stored : PassProduct} {order : Order} {request : SessionRequest}

/-- A pass session goes on with the stored product of the organization. -/
theorem readTarget_pass {target : Target} {id : Nat} (hkind : session.kind = .pass (some id))
    (h : readTarget db now organization session = .ok target) :
    ∃ stored ∈ db.passProducts.rows, stored.id = id ∧ stored.organization = organization ∧
      target = .pass stored := by
  unfold readTarget at h
  split_ifs at h
  simp only [hkind, Option.bind_some] at h
  split at h
  · cases h
  · rename_i row hrow
    cases h
    have hp := List.find?_some hrow
    simp only [Bool.and_eq_true, beq_iff_eq] at hp
    exact ⟨row, List.mem_of_find?_eq_some hrow, hp.2, hp.1, rfl⟩

/-- **What a delivery sells** is the stored product, at the stored price. -/
theorem passDelivery_ok {id : Nat} (hkind : session.kind = .pass (some id))
    (h : fulfillCheckoutSession db now organization session = .ok (db', order, true)) :
    ∃ stored ∈ db.passProducts.rows, stored.id = id ∧
      fulfillPassPurchase db now organization stored (sessionArgs session) = .ok (db', order) := by
  rcases fulfillCheckoutSession_ok h with ⟨-, target, ht, hb⟩ | ⟨hfalse, -⟩
  · obtain ⟨stored, hmem, hid, -, rfl⟩ := readTarget_pass hkind ht
    exact ⟨stored, hmem, hid, hb⟩
  · cases hfalse

/-- The pass of a fulfilment grants what another product offers exactly when the terms agree. -/
theorem newPassPurchase_grants_iff {guest : Option GuestAccount} {n : Nat}
    (hid : stored.id = product.id) :
    (newPassPurchase order stored guest n).Grants product ↔
      stored.kind = product.kind ∧ stored.creditCount = product.creditCount ∧
        stored.validFrom = product.validFrom ∧ stored.validUntil = product.validUntil ∧
        ∀ e, e ∈ stored.events ↔ e ∈ product.events := by
  constructor
  · rintro ⟨-, hkind, hcount, -, hfrom, huntil, hevents⟩
    exact ⟨hkind, hcount, hfrom, huntil, hevents⟩
  · rintro ⟨hkind, hcount, hfrom, huntil, hevents⟩
    exact ⟨hid, hkind, hcount, hcount, hfrom, huntil, hevents⟩

/-- **One fulfilment** of a stored product keeps the terms of the session exactly when the stored
    product has them. -/
theorem termsKept_iff {currency : String} {args : FulfillArgs} (hid : stored.id = product.id)
    (hcharged : request.charged = wholeUnits product.price currency)
    (h : fulfillPassPurchase db now organization stored args = .ok (db', order)) :
    TermsKept request product db db' order ↔ SameTerms currency product stored := by
  obtain ⟨guests, guest, -, -, -, horder, hdb⟩ := fulfillPassPurchase_ok h
  have htotal : order.total = stored.price := by rw [horder]; rfl
  have hpayments : db'.payments.rows = db.payments.rows ++ [paymentRow order args.provider
      stored.price .succeeded args.paymentRef db.payments.nextId] := by rw [hdb]; rfl
  have hpasses : db'.passPurchases.rows = db.passPurchases.rows ++
      [newPassPurchase order stored guest db.passPurchases.nextId] := by rw [hdb]; rfl
  constructor
  · rintro ⟨hpaid, -, p, hp, -, hgrants⟩
    rw [hpasses] at hp
    obtain rfl := List.singleton_inj.mp (List.append_cancel_left hp)
    obtain ⟨hkind, hcount, hfrom, huntil, hevents⟩ := (newPassPurchase_grants_iff hid).mp hgrants
    refine ⟨?_, hkind, hcount, hfrom, huntil, hevents⟩
    rw [htotal, hcharged] at hpaid
    exact_mod_cast hpaid
  · rintro ⟨hprice, hkind, hcount, hfrom, huntil, hevents⟩
    have hpaid : (stored.price : ℚ) = request.charged := by rw [hprice, hcharged]
    exact ⟨by rw [htotal, hpaid], ⟨_, hpayments, rfl, hpaid⟩,
      ⟨_, hpasses, rfl,
        (newPassPurchase_grants_iff hid).mpr ⟨hkind, hcount, hfrom, huntil, hevents⟩⟩⟩

end Delivery

/-! ### The run in between -/

section Run

variable {db db' db'' : Db} {product : PassProduct}

/-- The product of that key is stored, for that organization. -/
def OnSale (product organization : Nat) (db : Db) : Prop :=
  ∃ p ∈ db.passProducts.rows, p.id = product ∧ p.organization = organization

/-- A product stays on sale through edits that keep its organization. -/
theorem OnSale.update {id organization : Nat} {p : PassProduct → Bool}
    {f : PassProduct → PassProduct} {k} (h : OnSale id organization db)
    (hkeep : ∀ x, (f x).organization = x.organization)
    (hdb : db'.passProducts = db.passProducts.update p f k) : OnSale id organization db' := by
  obtain ⟨x, hx, hid, horg⟩ := h
  refine ⟨if p x then f x else x, ?_, ?_, ?_⟩
  · rw [hdb]
    exact Table.mem_update.mpr ⟨x, hx, rfl⟩
  · split
    · exact (k x).trans hid
    · exact hid
  · split
    · exact (hkeep x).trans horg
    · exact horg

/-- **The step.** No catalogue change takes a product away. -/
theorem execCatalog_onSale {id organization : Nat} (h : OnSale id organization db)
    (op : CatalogOp) : OnSale id organization (execCatalog op db) := by
  cases op with
  | savePassProduct product form =>
    simp only [execCatalog, savePassProduct]
    split_ifs with herrors hshaped
    · exact h
    · exact h.update (f := form.row hshaped) (k := fun _ => rfl) (fun _ => rfl) rfl
    · exact h
  | passToggle product =>
    exact h.update (f := fun p => { p with isActive := !p.isActive }) (k := fun _ => rfl)
      (fun _ => rfl) rfl
  | createEvent organization title => exact h
  | editEvent event title => exact h
  | deleteEvent event =>
    rcases hd : deleteEvent db event with e | db'
    · simp only [execCatalog, hd]
      exact h
    · simp only [execCatalog, hd]
      unfold deleteEvent at hd
      split_ifs at hd
      cases hd
      exact h.update (f := PassProduct.dropEvent event) (k := fun _ => rfl) (fun _ => rfl) rfl

/-- **The run.** A product that is on sale stays stored over every run of catalogue changes. -/
theorem onSale_run {ops : List CatalogOp} {id organization : Nat} (h : OnSale id organization db)
    (hrun : Run catalog db ops db') : OnSale id organization db' :=
  hrun.invariant h fun u op v hu hs => by
    obtain ⟨-, rfl⟩ := hs
    exact execCatalog_onSale hu op

/-- **Pass terms.** A session is created for a product, the catalogue is changed in any way, and
    the delivery of the completed session creates an order: the order, its payment and the sold
    pass keep the terms of the session exactly when the product stored by then has them. -/
theorem pass_terms_fixed {settings : FeeSettings} {organization : Organization} {now : Time}
    {createdFor buyerEmail buyerName id : String} {marketingOptIn : Bool}
    {paymentIntent : Option String} {request : SessionRequest} {order : Order}
    {ops : List CatalogOp} (hp : product ∈ db.passProducts.rows)
    (horg : product.organization = organization.id)
    (hcreate : createPassCheckoutSession settings organization product createdFor marketingOptIn
      = .stripe request)
    (hrun : Run catalog db ops db')
    (hdeliver : fulfillCheckoutSession db' now organization.id
      (request.completed id buyerEmail buyerName paymentIntent) = .ok (db'', order, true)) :
    (∃ stored ∈ db'.passProducts.rows, stored.id = product.id ∧
      stored.organization = organization.id) ∧
    (TermsKept request product db' db'' order ↔
      ∀ stored ∈ db'.passProducts.rows, stored.id = product.id →
        SameTerms (chargeCurrency organization) product stored) := by
  obtain ⟨hcharged, hkind, -⟩ := createPassCheckoutSession_stripe hcreate
  obtain ⟨stored, hmem, hid, hfulfil⟩ := (@passDelivery_ok _ _ _ _ _ _ product.id) hkind hdeliver
  refine ⟨onSale_run ⟨product, hp, rfl, horg⟩ hrun, ?_⟩
  rw [termsKept_iff hid hcharged hfulfil]
  constructor
  · intro hsame x hx hxid
    rwa [Table.eq_of_key_eq hx hmem (hxid.trans hid.symm)]
  · exact fun hall => hall stored hmem hid

end Run

/-! ### A price raised in between -/

/-- The sample theater. -/
def playhouse : Organization := ⟨1, "Playhouse", "USD", "acct_1", true, none⟩

/-- The pass on sale in the sample theater. -/
def fourShows : PassProduct :=
  PassProduct.mk 1 1 "Four shows" .flex 6000 (some 4) none none [] true fourCredits

/-- The session created for it. -/
def fourShowsRequest : SessionRequest :=
  singleRequest ⟨0, 0⟩ playhouse 6000 "Four shows — Playhouse" (.pass (some 1)) "" false

/-- The session, delivered. -/
def fourShowsSession : CheckoutSession :=
  fourShowsRequest.completed "cs_1" "ada@example.com" "Ada" (some "pi_1")

/-- The four shows are on sale. -/
theorem fourShows_onSale : fourShows ∈ sampleDb.passProducts.rows := List.mem_singleton.mpr rfl

/-- The request for the four shows. -/
theorem fourShows_created :
    createPassCheckoutSession ⟨0, 0⟩ playhouse fourShows "" false = .stripe fourShowsRequest := rfl

/-- The request charges the price of the pass. -/
theorem fourShows_charged :
    fourShowsRequest.charged = wholeUnits fourShows.price (chargeCurrency playhouse) :=
  singleRequest_charged _ _ _

/-- Staff archive the pass and put it back on sale. -/
def archivedAndBack : Db := execCatalog (.passToggle 1) (execCatalog (.passToggle 1) sampleDb)

/-- The pass is delivered on the terms of its session. -/
theorem pass_terms_fixed_sample : ∃ db' order,
    fulfillCheckoutSession archivedAndBack 0 1 fourShowsSession = .ok (db', order, true) ∧
      TermsKept fourShowsRequest fourShows archivedAndBack db' order := by
  obtain ⟨db', order, hok⟩ :=
    created_ok (r := fulfillCheckoutSession archivedAndBack 0 1 fourShowsSession) rfl
  have hrun : Run catalog sampleDb [.passToggle 1, .passToggle 1] archivedAndBack :=
    .cons (catalog_step _ _) (.single (catalog_step _ _))
  refine ⟨db', order, hok,
    (pass_terms_fixed fourShows_onSale rfl fourShows_created hrun hok).2.mpr ?_⟩
  intro stored hmem _
  obtain rfl : stored = fourShows := List.mem_singleton.mp hmem
  exact ⟨by decide, rfl, rfl, rfl, rfl, fun _ => Iff.rfl⟩

/-- Staff raise the price to 90.00 and cut the pass to two shows. -/
def raisedForm : PassProductForm :=
  { name := "Four shows", kind := .flex, price := 9000, creditCount := some 2, validFrom := none,
    validUntil := none, events := [], isActive := true }

/-- The catalogue after the edit. -/
def raisedPrice : Db := execCatalog (.savePassProduct 1 raisedForm) sampleDb

/-- The session that charged 60.00 is recorded at 90.00. -/
theorem pass_terms_changed : Run catalog sampleDb [.savePassProduct 1 raisedForm] raisedPrice ∧
    fourShowsRequest.charged = 6000 ∧ ∃ db' order,
      fulfillCheckoutSession raisedPrice 0 1 fourShowsSession = .ok (db', order, true) ∧
      order.total = 9000 ∧ ¬TermsKept fourShowsRequest fourShows raisedPrice db' order := by
  obtain ⟨db', order, hok⟩ :=
    created_ok (r := fulfillCheckoutSession raisedPrice 0 1 fourShowsSession) rfl
  obtain ⟨stored, hmem, hid, hfulfil⟩ := (@passDelivery_ok _ _ _ _ _ _ 1) rfl hok
  have hprice : ∀ p ∈ raisedPrice.passProducts.rows, p.price = 9000 := by decide
  obtain ⟨_, _, -, -, -, horder, -⟩ := fulfillPassPurchase_ok hfulfil
  refine ⟨.single (catalog_step _ _), by rw [fourShows_charged]; rfl, db', order, hok,
    by rw [horder]; exact hprice stored hmem, fun hkept => ?_⟩
  have hsame := ((@termsKept_iff _ _ _ _ fourShows) hid fourShows_charged hfulfil).mp hkept
  have hsix : wholeUnits fourShows.price (chargeCurrency playhouse) = 9000 :=
    hsame.price.symm.trans (hprice stored hmem)
  exact absurd hsix (by decide)

end BoxOffice

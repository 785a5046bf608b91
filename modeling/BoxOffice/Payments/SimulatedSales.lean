import BoxOffice.Guests.Joining
import Mathlib.Data.List.Count

namespace BoxOffice

open Relational Transition

/-!
# Payments — simulated payments

A theater that cannot charge yet sells through pages that simulate the payment.  Stripe switches
charging on and off (`account.updated`) while requests are on their way, and a request acts on the
organization it was resolved to, which it read before.

* `tills` is any number of purchase requests, each of them three steps: the organization of the
  host, the decision of the view, the fulfilment;
* `StoreRequest.plan_closed` — with charging on, and test checkout off, no view sells on the spot;
* `simulated_sales_bounded` — once a theater can charge, only the requests that were resolved
  before can still sell without a payment, each of them once.
-/

/-- A payment nobody made. -/
def Provider.simulated : Provider → Bool
  | .test | .stub => true
  | _ => false

/-- The sales of an organization whose payment was simulated. -/
def simulatedSales (db : Db) (organization : Nat) : Nat :=
  (db.payments.rows.filter fun p =>
    p.organization == organization && p.status == .succeeded && p.provider.simulated).length

/-- How far a purchase request has come. -/
inductive PurchaseStage
  | arrived
  | resolved (organization : Organization)
  | decided (organization : Organization) (target : Target) (args : FulfillArgs)
  | answered

/-- A purchase request of a browser session at the host of an organization. -/
structure Purchase where
  organization : Nat
  key : String
  request : StoreRequest
  stage : PurchaseStage

/-- The next step of a request. -/
def purchaseStep (settings : StoreSettings) (s : State) (p : Purchase) : State × Purchase :=
  match p.stage with
  | .arrived =>
    match s.db.organizations.get? p.organization with
    | none => (s, { p with stage := .answered })
    | some organization => (s, { p with stage := .resolved organization })
  | .resolved organization =>
    match p.request.plan settings s organization p.key with
    | some (.fulfill target args) => (s, { p with stage := .decided organization target args })
    | _ => (s, { p with stage := .answered })
  | .decided organization target args =>
    (s.commit (fulfillOnSpot s.db s.now organization.id args target),
      { p with stage := .answered })
  | .answered => (s, p)

/-- `apply_account_status`, as far as charging goes. -/
def applyAccountStatus (db : Db) (organization : Nat) (chargesEnabled : Bool) : Db :=
  { db with
    organizations := db.organizations.update (fun o => o.id == organization)
      fun o => { o with stripeChargesEnabled := chargesEnabled } }

/-- What happens besides: Stripe reports on an account, or the rest of the box office acts. -/
inductive TillEvent
  | accountStatus (organization : Nat) (chargesEnabled : Bool)
  | other (op : Op)

/-- Simulated payments are taken by purchase requests only. -/
def TillEvent.Admissible (s : State) : TillEvent → Prop
  | .accountStatus _ _ => True
  | .other op =>
    BoxOffice.Admissible s op ∧ ∀ args, op.PaysWith args → args.provider.simulated = false

/-- Carry an event out. -/
def TillEvent.exec : TillEvent → State → State
  | .accountStatus organization chargesEnabled, s =>
    { s with db := applyAccountStatus s.db organization chargesEnabled }
  | .other op, s => BoxOffice.exec op s

/-- Any purchase requests, interleaved with the rest. -/
def tills (settings : StoreSettings) : Processes State Purchase TillEvent where
  init := Fresh
  start p := p.stage = .arrived
  step := purchaseStep settings
  admits := TillEvent.Admissible
  env := TillEvent.exec

/-- The organization can charge. -/
def Charging (db : Db) (organization : Nat) : Prop :=
  ∀ o ∈ db.organizations.rows, o.id = organization → o.stripeChargesEnabled = true

instance (db : Db) (organization : Nat) : Decidable (Charging db organization) :=
  inferInstanceAs (Decidable
    (∀ o ∈ db.organizations.rows, o.id = organization → o.stripeChargesEnabled = true))

/-- A request that was resolved while its organization could not charge, or has decided to sell
    with a simulated payment. -/
def Purchase.Open (organization : Nat) (p : Purchase) : Bool :=
  p.organization == organization &&
    match p.stage with
    | .resolved o => !o.stripeChargesEnabled
    | .decided _ _ args => args.provider.simulated
    | _ => false

/-- The open requests. -/
def openRequests (organization : Nat) (c : Config State Purchase) : Nat :=
  c.procs.countP (Purchase.Open organization)

/-- Stripe does not report that the organization cannot charge. -/
def StaysCharging (organization : Nat) (_ : Config State Purchase) :
    Move Purchase TillEvent → Prop
  | .env (.accountStatus n chargesEnabled) => n = organization → chargesEnabled = true
  | _ => True

/-! ### What a sale and an operation write -/

/-- One payment is added, and the organizations are as they were. -/
structure OneSale (db db' : Db) (organization : Nat) (provider : Provider) : Prop where
  organizations : db'.organizations = db.organizations
  payments : ∃ p : Payment, db'.payments.rows = db.payments.rows ++ [p] ∧
    p.organization = organization ∧ p.provider = provider ∧ p.status = .succeeded

/-- The organizations are as they were, and no payment is added that was simulated. -/
structure NothingSimulated (db db' : Db) : Prop where
  organizations : db'.organizations = db.organizations
  payments : ∃ new, db'.payments.rows = db.payments.rows ++ new ∧
    ∀ p ∈ new, p.status = .succeeded → p.provider.simulated = false

section Writes

variable {s : State} {db db' : Db} {now : Time} {hold : Hold} {args : FulfillArgs} {order : Order}
  {n : Nat} {provider : Provider}

/-- A sale of a cart is one sale. -/
theorem fulfillHold_oneSale (h : fulfillHold db now hold args = .ok (db', order)) :
    OneSale db db' hold.organization args.provider := by
  obtain ⟨_, _, -, -, -, rfl, rfl⟩ := fulfillHold_ok h
  exact ⟨rfl, _, rfl, rfl, rfl, rfl⟩

/-- A donation is one sale. -/
theorem fulfillDonation_oneSale {amount : Cents} {campaign : Option Nat}
    (h : fulfillDonation db now n amount campaign args = .ok (db', order)) :
    OneSale db db' n args.provider := by
  obtain ⟨_, _, -, -, rfl, rfl⟩ := fulfillDonation_ok h
  exact ⟨rfl, _, rfl, rfl, rfl, rfl⟩

/-- The sale of a pass is one sale. -/
theorem fulfillPassPurchase_oneSale {product : PassProduct}
    (h : fulfillPassPurchase db now n product args = .ok (db', order)) :
    OneSale db db' n args.provider := by
  obtain ⟨_, _, -, -, -, rfl, rfl⟩ := fulfillPassPurchase_ok h
  exact ⟨rfl, _, rfl, rfl, rfl, rfl⟩

/-- What is fulfilled on the spot is one sale. -/
theorem fulfillOnSpot_oneSale {target : Target} (ht : target.Of n)
    (h : fulfillOnSpot db now n args target = .ok (db', order)) :
    OneSale db db' n args.provider := by
  cases target with
  | hold hold =>
    have hof : hold.organization = n := ht
    exact hof ▸ fulfillHold_oneSale h
  | donation amount campaign => exact fulfillDonation_oneSale h
  | pass product => exact fulfillPassPurchase_oneSale h

/-- A sale through Stripe simulates nothing. -/
theorem OneSale.nothing (h : OneSale db db' n provider) (hp : provider.simulated = false) :
    NothingSimulated db db' := by
  obtain ⟨p, hrows, -, rfl, -⟩ := h.payments
  refine ⟨h.organizations, [p], hrows, fun q hq _ => ?_⟩
  rw [List.mem_singleton.mp hq]
  exact hp

/-- Nothing was simulated. -/
theorem NothingSimulated.refl (db : Db) : NothingSimulated db db :=
  ⟨rfl, [], (List.append_nil _).symm, by simp⟩

/-- A request that simulates nothing commits nothing simulated. -/
theorem NothingSimulated.commit {α : Type} {r : Result α}
    (h : ∀ db' a, r = .ok (db', a) → NothingSimulated s.db db') :
    NothingSimulated s.db (s.commit r).db :=
  commit_rule (p := NothingSimulated s.db) (.refl s.db) h

/-- Nothing is simulated while organizations and payments stay. -/
theorem NothingSimulated.of_eq (ho : db'.organizations = db.organizations)
    (hp : db'.payments = db.payments) : NothingSimulated db db' :=
  ⟨ho, [], by rw [hp, List.append_nil], by simp⟩

/-- Writing only carts simulates nothing. -/
theorem OnlyHolds.nothingSimulated (h : OnlyHolds db db') : NothingSimulated db db' := by
  obtain ⟨holds, rfl⟩ := h
  exact .of_eq rfl rfl

/-- An operation that pays with nothing simulated adds nothing simulated. -/
theorem exec_nothingSimulated (op : Op) (s : State)
    (hop : ∀ args, op.PaysWith args → args.provider.simulated = false) :
    NothingSimulated s.db (exec op s).db := by
  cases op with
  | fulfillHold hold args =>
    simp only [exec]
    exact .commit fun _ _ h => (fulfillHold_oneSale h).nothing (hop args rfl)
  | fulfillHoldWithPass hold passPurchase buyerEmail buyerName marketingOptIn =>
    simp only [exec]
    refine .commit fun _ _ h => ?_
    obtain ⟨p, _, -, -, -, -, -, -, -, _, _, -, rfl, rfl⟩ := fulfillHoldWithPass_ok h
    refine ⟨rfl, _, rfl, fun q hq _ => ?_⟩
    rw [List.mem_singleton.mp hq]
    rfl
  | fulfillDonation organization amount campaign args =>
    simp only [exec]
    exact .commit fun _ _ h => (fulfillDonation_oneSale h).nothing (hop args rfl)
  | fulfillPassPurchase organization product args =>
    simp only [exec]
    split
    · exact .commit fun _ _ h => (fulfillPassPurchase_oneSale h).nothing (hop args rfl)
    · exact .refl s.db
  | fulfillCheckoutSession organization session =>
    simp only [exec]
    refine .commit fun db' a h => ?_
    have hprovider := hop (sessionArgs session) rfl
    rcases (@fulfillCheckoutSession_ok _ _ _ _ _ a.1 a.2) h with
      ⟨-, target, -, hbody⟩ | ⟨-, rfl, -⟩
    · cases target with
      | hold hold => exact (fulfillHold_oneSale hbody).nothing hprovider
      | donation amount campaign => exact (fulfillDonation_oneSale hbody).nothing hprovider
      | pass product => exact (fulfillPassPurchase_oneSale hbody).nothing hprovider
    · exact .refl s.db
  | voidOrder order =>
    simp only [exec]
    split
    · rw [voidOrder_fst]; exact .of_eq rfl rfl
    · exact .refl s.db
  | refundOrder order gateway =>
    simp only [exec]
    refine .commit fun db' performed h => ?_
    obtain ⟨o, -, ⟨-, rfl, -⟩ | ⟨-, -, -, provider, refundRef, rfl⟩⟩ := refundOrder_ok h
    · exact .refl s.db
    · rw [refundedDb_eq]
      refine ⟨rfl, _, rfl, fun q hq hs => ?_⟩
      -- The row of a refund did not succeed.
      rw [List.mem_singleton.mp hq] at hs
      cases hs
  | orderCancel order =>
    simp only [exec]
    split
    · unfold orderCancel
      split_ifs
      · exact .refl s.db
      · rw [undoOrder_eq]; exact .of_eq rfl rfl
    · exact .refl s.db
  | _ => exact OnlyHolds.nothingSimulated (exec_carts (by trivial) s)

/-- New payments add their simulated sales. -/
theorem simulatedSales_append {new : List Payment}
    (h : db'.payments.rows = db.payments.rows ++ new) :
    simulatedSales db' n = simulatedSales db n + (new.filter fun p =>
      p.organization == n && p.status == .succeeded && p.provider.simulated).length := by
  unfold simulatedSales
  rw [h, List.filter_append, List.length_append]

/-- Nothing simulated adds no simulated sale. -/
theorem NothingSimulated.simulatedSales_eq (h : NothingSimulated db db') :
    simulatedSales db' n = simulatedSales db n := by
  obtain ⟨new, hrows, hnew⟩ := h.payments
  rw [simulatedSales_append hrows, List.filter_eq_nil_iff.mpr, List.length_nil, Nat.add_zero]
  intro p hp
  cases hs : p.status with
  | succeeded => simp [hnew p hp hs]
  | refunded => simp

/-- One sale adds one simulated sale at most. -/
theorem OneSale.simulatedSales_eq {m : Nat} (h : OneSale db db' m provider) :
    simulatedSales db' n = simulatedSales db n + if m = n ∧ provider.simulated then 1 else 0 := by
  obtain ⟨p, hrows, rfl, rfl, hs⟩ := h.payments
  rw [simulatedSales_append hrows]
  by_cases hm : p.organization = n
  · cases hp : p.provider.simulated <;> simp [hm, hs, hp]
  · simp [hm]

end Writes

/-! ### What the views decide on -/

/-- A decision to sell with a simulated payment needs a theater that cannot charge. -/
def Plan.Closed (organization : Organization) (plan : Plan) : Prop :=
  ∀ target args, plan = .fulfill target args → args.provider.simulated = true →
    organization.stripeChargesEnabled = false

section Closed

variable {settings : StoreSettings} {s : State} {organization : Organization} {key : String}
  {holdId : Option Nat} {buyer : Buyer} {amount : Option Cents} {pk : Nat}

/-- A page sells nothing. -/
theorem Plan.Closed.answer {page : StorePage} : (Plan.answer page).Closed organization := by
  intro target args h
  cases h

/-- Nor does a visit to Stripe. -/
theorem Plan.Closed.visit {page : CheckoutPage} : (Plan.visit page).Closed organization := by
  intro target args h
  cases h

/-- Every decision is closed for a theater that cannot charge. -/
theorem Plan.Closed.off {plan : Plan} (h : organization.stripeChargesEnabled = false) :
    plan.Closed organization :=
  fun _ _ _ _ => h

/-- The stub pages open only for a theater that cannot charge. -/
theorem stubClosed_none {message : String} (h : stubClosed organization message = none) :
    organization.stripeChargesEnabled = false := by
  unfold stubClosed at h
  split_ifs at h with hc
  exact Bool.not_eq_true _ ▸ hc

/-- So the decisions of the stub checkout are closed. -/
theorem checkoutStub_closed :
    (checkoutStub s organization key holdId buyer).Closed organization := by
  unfold checkoutStub simulatedCheckout
  split
  · exact .answer
  · rename_i hopen
    exact .off (stubClosed_none hopen)

/-- So are those of the stub donation. -/
theorem donateStub_closed : (donateStub s organization amount buyer).Closed organization := by
  unfold donateStub
  split
  · exact .answer
  · rename_i hopen
    exact .off (stubClosed_none hopen)

/-- So are those of the stub sale of a pass. -/
theorem passStub_closed : (passStub s organization pk buyer).Closed organization := by
  unfold passStub
  split
  · exact .answer
  · rename_i hopen
    exact .off (stubClosed_none hopen)

/-- The pages for tests are closed. -/
theorem testShortcut_off (h : settings.enableTestCheckout = false) :
    testShortcut settings organization = false := by
  unfold testShortcut
  rw [h, Bool.and_false]

/-- The test checkout is closed while it is switched off. -/
theorem checkoutTest_closed (h : settings.enableTestCheckout = false) :
    (checkoutTest settings s organization key holdId buyer).Closed organization := by
  unfold checkoutTest simulatedCheckout
  rw [h, if_neg Bool.false_ne_true]
  exact .answer

/-- The decisions of the checkout page are closed. -/
theorem checkoutView_closed {optIn : Bool} :
    (checkoutView settings s organization key holdId optIn).Closed organization := by
  unfold checkoutView withHold
  split
  · exact .answer
  · dsimp only
    split
    · exact .visit
    · exact .answer
    · exact .answer

/-- Those of the donation page are while the test checkout is switched off. -/
theorem donate_closed (h : settings.enableTestCheckout = false) :
    (donate settings s organization amount buyer).Closed organization := by
  unfold donate withCampaign
  split
  · exact .answer
  · dsimp only
    split
    · exact .answer
    · unfold withReceiptEmail
      split
      · exact .answer
      · dsimp only
        rw [testShortcut_off h, if_neg Bool.false_ne_true]
        exact .visit

/-- And so are those of the page of a pass. -/
theorem passDetail_closed (h : settings.enableTestCheckout = false) :
    (passDetail settings s organization pk buyer).Closed organization := by
  unfold passDetail withProduct
  split
  · exact .answer
  · unfold withReceiptEmail
    dsimp only
    split
    · exact .answer
    · rw [testShortcut_off h, if_neg Bool.false_ne_true]
      exact .visit

/-- With the pages for tests closed, a view that sells on the spot has seen a theater that cannot
    charge. -/
theorem StoreRequest.plan_closed {r : StoreRequest} {plan : Plan}
    (htest : settings.enableTestCheckout = false)
    (h : r.plan settings s organization key = some plan) : plan.Closed organization := by
  cases r with
  | checkoutView holdId optIn => exact Option.some.inj h ▸ checkoutView_closed
  | checkoutTest holdId buyer => exact Option.some.inj h ▸ checkoutTest_closed htest
  | checkoutStub holdId buyer => exact Option.some.inj h ▸ checkoutStub_closed
  | donate amount buyer => exact Option.some.inj h ▸ donate_closed htest
  | donateStub amount buyer => exact Option.some.inj h ▸ donateStub_closed
  | passDetail pk buyer => exact Option.some.inj h ▸ passDetail_closed htest
  | passStub pk buyer => exact Option.some.inj h ▸ passStub_closed
  | _ => cases h

end Closed

/-! ### One step -/

section Tills

variable {settings : StoreSettings} {s s' : State} {db db' : Db} {p p' : Purchase} {n : Nat}
  {c c' : Config State Purchase}

/-- What a request carries with it is of its organization. -/
def Purchase.Bound (p : Purchase) : Prop :=
  match p.stage with
  | .resolved o => o.id = p.organization
  | .decided o target _ => o.id = p.organization ∧ target.Of o.id
  | _ => True

/-- The organization can still charge, nothing that was sold is lost, and what is sold without a
    payment was open before. -/
structure Contained (n : Nat) (c c' : Config State Purchase) : Prop where
  charging : Charging c'.shared.db n
  sales : simulatedSales c.shared.db n ≤ simulatedSales c'.shared.db n
  bound : simulatedSales c'.shared.db n + openRequests n c'
    ≤ simulatedSales c.shared.db n + openRequests n c

/-- Contained runs compose. -/
theorem Contained.trans {c'' : Config State Purchase} (h : Contained n c c')
    (h' : Contained n c' c'') : Contained n c c'' :=
  ⟨h'.charging, h.sales.trans h'.sales, h'.bound.trans h.bound⟩

/-- A step keeps a request bound to its organization. -/
theorem purchaseStep_bound (hp : p.Bound) : (purchaseStep settings s p).2.Bound := by
  cases hs : p.stage with
  | arrived =>
    simp only [purchaseStep, hs]
    cases ho : s.db.organizations.get? p.organization with
    | none => trivial
    | some o => exact Table.get?_key ho
  | resolved o =>
    have hid : o.id = p.organization := by simpa only [Purchase.Bound, hs] using hp
    simp only [purchaseStep, hs]
    split
    · rename_i target args hplan
      exact ⟨hid, StoreRequest.plan_of hplan target args rfl⟩
    · trivial
  | decided o target args =>
    simp only [purchaseStep, hs]
    trivial
  | answered =>
    simp only [purchaseStep, hs]
    exact hp

/-- A step of a request adds a simulated sale only where the request was open. -/
theorem purchaseStep_contained (htest : settings.enableTestCheckout = false)
    (hn : Charging s.db n) (hp : p.Bound) (hs' : purchaseStep settings s p = (s', p')) :
    Charging s'.db n ∧ simulatedSales s.db n ≤ simulatedSales s'.db n ∧
      simulatedSales s'.db n + (if p'.Open n then 1 else 0)
        ≤ simulatedSales s.db n + if p.Open n then 1 else 0 := by
  cases hs : p.stage with
  | arrived =>
    -- The organization can charge when it is looked up.
    simp only [purchaseStep, hs] at hs'
    cases ho : s.db.organizations.get? p.organization with
    | none =>
      simp only [ho] at hs'
      obtain ⟨rfl, rfl⟩ := Prod.mk.inj hs'
      exact ⟨hn, le_rfl, by simp [Purchase.Open]⟩
    | some o =>
      simp only [ho] at hs'
      obtain ⟨rfl, rfl⟩ := Prod.mk.inj hs'
      refine ⟨hn, le_rfl, ?_⟩
      have hclosed : Purchase.Open n { p with stage := .resolved o } = false := by
        unfold Purchase.Open
        by_cases hof : p.organization = n
        · simp [hn o (Table.get?_mem ho) ((Table.get?_key ho).trans hof)]
        · simp [hof]
      rw [hclosed]
      simp
  | resolved o =>
    simp only [purchaseStep, hs] at hs'
    split at hs'
    · rename_i target args hplan
      obtain ⟨rfl, rfl⟩ := Prod.mk.inj hs'
      refine ⟨hn, le_rfl, ?_⟩
      have hopen : Purchase.Open n { p with stage := .decided o target args } = true →
          p.Open n = true := by
        intro h
        unfold Purchase.Open at h ⊢
        rw [Bool.and_eq_true] at h ⊢
        rw [hs]
        refine ⟨h.1, ?_⟩
        show (!o.stripeChargesEnabled) = true
        rw [StoreRequest.plan_closed htest hplan target args rfl h.2]
        rfl
      by_cases h : Purchase.Open n { p with stage := .decided o target args } = true
      · rw [if_pos h, if_pos (hopen h)]
      · rw [if_neg h]
        omega
    · obtain ⟨rfl, rfl⟩ := Prod.mk.inj hs'
      exact ⟨hn, le_rfl, by simp [Purchase.Open]⟩
  | decided o target args =>
    obtain ⟨hid, hof⟩ : o.id = p.organization ∧ target.Of o.id := by
      simpa only [Purchase.Bound, hs] using hp
    simp only [purchaseStep, hs] at hs'
    obtain ⟨rfl, rfl⟩ := Prod.mk.inj hs'
    cases hr : fulfillOnSpot s.db s.now o.id args target with
    | error e => exact ⟨hn, le_rfl, by simp [State.commit, Purchase.Open]⟩
    | ok r =>
      have hone := @fulfillOnSpot_oneSale s.db r.1 s.now args r.2 o.id target hof hr
      have hsales := @OneSale.simulatedSales_eq _ _ n _ _ hone
      have hopen : p.Open n = (o.id == n && args.provider.simulated) := by
        simp only [Purchase.Open, hs, hid]
      refine ⟨fun x hx => hn x (hone.organizations ▸ hx), ?_, ?_⟩
      · show _ ≤ simulatedSales r.1 n
        rw [hsales]
        exact Nat.le_add_right _ _
      · show simulatedSales r.1 n + _ ≤ _
        rw [hsales, hopen]
        simp [Purchase.Open]
  | answered =>
    simp only [purchaseStep, hs] at hs'
    obtain ⟨rfl, rfl⟩ := Prod.mk.inj hs'
    exact ⟨hn, le_rfl, le_rfl⟩

/-- Every request carries what is of its organization. -/
theorem tills_bound : Interference (tills settings) (fun _ _ => True) (fun _ => True)
    (fun _ p => p.Bound) where
  start := fun s p _ h => by
    have hs : p.stage = .arrived := h
    simp only [Purchase.Bound, hs]
  step := fun s p _ hp _ => ⟨trivial, purchaseStep_bound hp⟩
  stable := fun _ _ _ _ _ _ hk => hk
  env := fun _ _ _ _ => trivial
  envStable := fun _ _ _ _ _ hp => hp

/-- **The step of the others.** An event that leaves charges enabled simulates nothing. -/
theorem TillEvent.exec_contained {e : TillEvent} (ha : e.Admissible s)
    (hs : ∀ m b, e = .accountStatus m b → m = n → b = true) (hn : Charging s.db n) :
    Charging (e.exec s).db n ∧ simulatedSales (e.exec s).db n = simulatedSales s.db n := by
  cases e with
  | accountStatus m chargesEnabled =>
    refine ⟨fun o ho hid => ?_, rfl⟩
    have hmem : o ∈ s.db.organizations.rows.map fun r =>
      if r.id == m then { r with stripeChargesEnabled := chargesEnabled } else r := ho
    obtain ⟨r, hr, rfl⟩ := List.mem_map.mp hmem
    split_ifs at hid ⊢ with hm
    · exact hs m chargesEnabled rfl ((beq_iff_eq.mp hm).symm.trans hid)
    · exact hn r hr hid
  | other op =>
    have hnone := exec_nothingSimulated op s ha.2
    exact ⟨fun o ho => hn o (hnone.organizations ▸ ho), hnone.simulatedSales_eq⟩

/-- **One step.** -/
theorem tills_contained {a : Move Purchase TillEvent} (htest : settings.enableTestCheckout = false)
    (hs : ((tills settings).system.restrict (StaysCharging n)).step c a c')
    (hb : ∀ p ∈ c.procs, p.Bound) (hn : Charging c.shared.db n) : Contained n c c' := by
  obtain ⟨hs, hstays⟩ := hs
  rcases Processes.step_cases hs with ⟨p, hp, -, rfl⟩ | ⟨i, p, hp, -, -, rfl⟩ | ⟨e, he, rfl, rfl⟩
  · -- A request that has only arrived is not open.
    have harrived : p.stage = .arrived := hp
    refine ⟨hn, le_rfl, ?_⟩
    unfold openRequests
    rw [List.countP_append]
    simp [Purchase.Open, harrived]
  · obtain ⟨hi, hget⟩ := List.getElem?_eq_some_iff.mp hp
    obtain ⟨hn', hsales, hbound⟩ := purchaseStep_contained htest hn (hb p (List.mem_of_getElem? hp))
      (Prod.mk.eta (p := purchaseStep settings c.shared p)).symm
    refine ⟨hn', hsales, ?_⟩
    -- The process itself is counted as long as it is open.
    have hcount : (if p.Open n then 1 else 0) ≤ c.procs.countP (Purchase.Open n) := by
      split_ifs with hopen
      · exact List.countP_pos_iff.mpr ⟨p, List.mem_of_getElem? hp, hopen⟩
      · exact Nat.zero_le _
    show simulatedSales (purchaseStep settings c.shared p).1.db n
      + (c.procs.set i (purchaseStep settings c.shared p).2).countP (Purchase.Open n)
      ≤ simulatedSales c.shared.db n + c.procs.countP (Purchase.Open n)
    rw [List.countP_set hi, hget]
    omega
  -- The events between requests sell nothing for this theater.
  · obtain ⟨hn', hsales⟩ := TillEvent.exec_contained he (fun m b h => by
      subst h
      exact hstays) hn
    exact ⟨hn', hsales.ge, by unfold openRequests; exact (Nat.add_le_add_right hsales.le _)⟩

/-- **Simulated sales are bounded.** From the moment a theater can charge, and as long as Stripe
    does not report otherwise, nothing is sold there without a payment but by the requests that
    were resolved before, at most once each; in any order of requests, and with the pages for tests
    closed. -/
theorem simulated_sales_bounded {as : List (Move Purchase TillEvent)}
    (htest : settings.enableTestCheckout = false)
    (hc : Reachable (tills settings).system c) (hn : Charging c.shared.db n)
    (hr : Run ((tills settings).system.restrict (StaysCharging n)) c as c') :
    Charging c'.shared.db n ∧ simulatedSales c.shared.db n ≤ simulatedSales c'.shared.db n ∧
      simulatedSales c'.shared.db n + openRequests n c'
        ≤ simulatedSales c.shared.db n + openRequests n c := by
  have hb := (@tills_bound settings).reachable (fun _ _ => trivial) hc
  have hall := hr.invariant (I := fun d => (∀ p ∈ d.procs, p.Bound) ∧ Contained n c d)
    ⟨hb.2, hn, le_rfl, le_rfl⟩ fun d a d' hd hs =>
      ⟨(tills_bound.preserves hs.1 ⟨trivial, hd.1⟩).2,
        hd.2.trans (tills_contained htest hs hd.1 hd.2.charging)⟩
  exact ⟨hall.2.charging, hall.2.sales, hall.2.bound⟩

end Tills

/-- The sample theater before Stripe lets it charge. -/
def stillOnboarding : State := ⟨applyAccountStatus sampleDb 1 false, 0⟩

/-- A gift on the page that simulates the payment, about to be made. -/
def stubGift : Purchase where
  organization := 1
  key := "a"
  request := .donateStub (some 500)
    { name := "Ada", email := "ada@example.com", marketingOptIn := false, reference := "stub-1" }
  stage := .arrived

/-- The settings of a live site. -/
def liveSettings : StoreSettings := ⟨false, true, ⟨0, 0⟩⟩

/-- The request is resolved, and then the theater can charge. -/
def overtaken : Config State Purchase :=
  (tills liveSettings).perform [.spawn stubGift, .act 0, .env (.accountStatus 1 true)]
    ⟨stillOnboarding, []⟩

/-- The one request that was overtaken sells without a payment, and nothing else does. -/
theorem simulated_sales_bounded_overtaken :
    openRequests 1 overtaken = 1 ∧ simulatedSales overtaken.shared.db 1 = 0 ∧
      simulatedSales ((tills liveSettings).perform [.act 0, .act 0] overtaken).shared.db 1 = 1 ∧
      openRequests 1 ((tills liveSettings).perform [.act 0, .act 0] overtaken) = 0 := by
  have hfresh : Fresh stillOnboarding :=
    ⟨rfl, rfl, rfl, rfl, rfl, rfl, rfl, by decide, by decide⟩
  have hreach : Reachable (tills liveSettings).system overtaken := by
    refine Processes.reachable_perform (.of_init ⟨hfresh, rfl⟩) (fun l hl => ?_) fun s e he => ?_
    · simp only [List.mem_cons, Move.spawn.injEq, reduceCtorEq, List.not_mem_nil, or_false] at hl
      subst hl
      exact rfl
    · simp only [List.mem_cons, reduceCtorEq, Move.env.injEq, List.not_mem_nil, or_false,
        false_or] at he
      subst he
      exact trivial
  have hcharging : Charging overtaken.shared.db 1 := by decide
  have hrun : Run ((tills liveSettings).system.restrict (StaysCharging 1)) overtaken
      [.act 0, .act 0] ((tills liveSettings).perform [.act 0, .act 0] overtaken) :=
    Processes.run_perform_restrict ⟨⟨_, rfl, trivial⟩, ⟨_, rfl, trivial⟩, trivial⟩
      ⟨trivial, trivial, trivial⟩
  have hbound := (simulated_sales_bounded rfl hreach hcharging hrun).2.2
  have hopen : openRequests 1 overtaken = 1 := by decide
  have hnone : simulatedSales overtaken.shared.db 1 = 0 := by decide
  have hsold : 1 ≤ simulatedSales
      ((tills liveSettings).perform [.act 0, .act 0] overtaken).shared.db 1 := by decide
  omega

end BoxOffice

import BoxOffice.Payments.Fulfill

namespace BoxOffice

open Relational

/-!
# Payments — fulfilling a completed Checkout Session

`fulfillCheckoutSession` is `fulfill_checkout_session`, cut at its three database phases: the
read for an existing order, the read of what the session sells, and the atomic fulfilment with
its recovery from a lost race.

* `existingOrder`, `readTarget`, `fulfillTarget` are the phases, each on the database it finds;
* `fulfillTarget_ok` says that a call which returns either created the order of the session or
  found the winner's and changed nothing.
-/

/-- What the metadata of a session says it sells.  `amount` is `donation_amount` when it
    parses, `amountText` its representation in the error message. -/
inductive SessionKind
  | hold (holdId : Option Nat)
  | donation (amountText : String) (amount : Option Cents) (campaign : Option Nat)
  | pass (product : Option Nat)
deriving Repr, DecidableEq

/-- A Checkout Session as the webhook delivers it. -/
structure CheckoutSession where
  id : String
  kind : SessionKind
  organizationId : Option Nat
  marketingOptIn : Bool
  buyerEmail : String
  buyerName : String
  paymentIntent : Option String
deriving Repr, DecidableEq

/-- What the session's fulfilment works from once it has been looked up. -/
inductive Target
  | hold (hold : Hold)
  | donation (amount : Cents) (campaign : Option Nat)
  | pass (product : PassProduct)

/-- `Order.objects.filter(organization=…, stripe_checkout_session_id=…).first()`. -/
def existingOrder (db : Db) (organization : Nat) (sessionId : String) : Option Order :=
  db.orders.rows.find? fun o =>
    o.organization == organization && o.stripeCheckoutSessionId == some sessionId

/-- `repr` of an optional metadata value. -/
def reprId : Option Nat → String
  | none => "None"
  | some n => s!"'{n}'"

/-- The tenant check and the lookup of the hold, the campaign or the product. -/
def readTarget (db : Db) (now : Time) (organization : Nat) (session : CheckoutSession) :
    Except ServiceError Target :=
  if ∃ o ∈ session.organizationId, o ≠ organization then
    .error (.tenantMismatch
      s!"Session {session.id} metadata organization_id={session.organizationId.getD 0} does not match the organization ({organization}) resolved from the event's connected account.")
  else
    match session.kind with
    | .donation amountText amount campaign =>
      match amount with
      | none => .error (.donationData
          s!"Donation session {session.id} has a missing/malformed donation_amount ({amountText}); payment succeeded but nothing was fulfilled.")
      | some amount =>
        let row := campaign.bind fun c =>
          db.donationCampaigns.rows.find? fun r => r.organization == organization && r.id == c
        .ok (.donation amount (row.map (·.id)))
    | .pass product =>
      match product.bind fun p =>
        db.passProducts.rows.find? fun r => r.organization == organization && r.id == p with
      | none => .error (.passData
          s!"Pass session {session.id} names product {reprId product} which is missing for this org; payment succeeded but nothing was fulfilled.")
      | some row => .ok (.pass row)
    | .hold holdId =>
      let gone := ServiceError.holdGone
        s!"Hold {reprId holdId} for session {session.id} is missing or expired; payment succeeded but nothing was fulfilled."
      match holdId.bind fun h =>
        db.holds.rows.find? fun r => r.organization == organization && r.id == h with
      | none => .error gone
      | some hold => if hold.expiresAt ≤ now then .error gone else .ok (.hold hold)

/-- The arguments the webhook passes on. -/
def sessionArgs (session : CheckoutSession) : FulfillArgs where
  buyerEmail := session.buyerEmail
  buyerName := session.buyerName
  paymentRef :=
    match session.paymentIntent with
    | some intent => if intent = "" then session.id else intent
    | none => session.id
  provider := .stripe
  stripeCheckoutSessionId := some session.id
  marketingOptIn := session.marketingOptIn

/-- The fulfilment function of a target. -/
def fulfillBody (db : Db) (now : Time) (organization : Nat) (session : CheckoutSession) :
    Target → Result Order
  | .hold hold => fulfillHold db now hold (sessionArgs session)
  | .donation amount campaign =>
    fulfillDonation db now organization amount campaign (sessionArgs session)
  | .pass product => fulfillPassPurchase db now organization product (sessionArgs session)

/-- The fulfilment inside its savepoint, with the `IntegrityError` recovery: fall back to the
    winner's order, else report the conflict. -/
def fulfillTarget (db : Db) (now : Time) (organization : Nat) (session : CheckoutSession)
    (target : Target) : Result (Order × Bool) :=
  match fulfillBody db now organization session target with
  | .ok (db', order) => .ok (db', order, true)
  | .error (.integrity constraint) =>
    match existingOrder db organization session.id with
    | some winner => .ok (db, winner, false)
    | none =>
      match target with
      | .hold _ => .error (.availabilityChanged
          s!"Fulfilling session {session.id} hit a database integrity conflict (a seat was most likely ticketed concurrently); not retrying.")
      | _ => .error (.integrity constraint)
  | .error e => .error e

/-- `fulfill_checkout_session`: the order of the session and whether this call created it. -/
def fulfillCheckoutSession (db : Db) (now : Time) (organization : Nat)
    (session : CheckoutSession) : Result (Order × Bool) :=
  match existingOrder db organization session.id with
  | some existing => .ok (db, existing, false)
  | none =>
    match readTarget db now organization session with
    | .error e => .error e
    | .ok target => fulfillTarget db now organization session target

/-! ### What the phases return -/

section Spec

variable {db db' : Db} {now : Time} {organization : Nat} {session : CheckoutSession}
  {target : Target} {order : Order} {created : Bool}

/-- Without an existing order none has the session. -/
theorem existingOrder_none (h : existingOrder db organization session.id = none) :
    ∀ o ∈ db.orders.rows, o.organization = organization →
      o.stripeCheckoutSessionId ≠ some session.id := by
  intro o ho horg hs
  have := List.find?_eq_none.mp h o ho
  simp [horg, hs] at this

/-- Without an order of that session, its id is free. -/
theorem sessionTaken_of_existingOrder_none
    (h : existingOrder db organization session.id = none) :
    sessionTaken db.orders organization (some session.id) = false := by
  unfold sessionTaken
  have hnone : (db.orders.rows.any fun o =>
      o.organization == organization && o.stripeCheckoutSessionId == some session.id) = false := by
    rw [List.any_eq_false]
    intro o ho hp
    simp only [Bool.and_eq_true, beq_iff_eq] at hp
    exact existingOrder_none h o ho hp.1 hp.2
  rw [hnone, Bool.and_false]

/-- The read phase never reports a conflict. -/
theorem readTarget_ne_availabilityChanged {m : String} :
    readTarget db now organization session ≠ .error (.availabilityChanged m) := by
  intro h
  unfold readTarget at h
  split at h
  · cases h
  · split at h
    · split at h <;> cases h
    · split at h <;> cases h
    · dsimp only at h
      split at h
      · cases h
      · split_ifs at h; cases h

/-- A hold the webhook goes on with is a stored, unexpired hold of the organization. -/
theorem readTarget_hold {hold : Hold}
    (h : readTarget db now organization session = .ok (.hold hold)) :
    hold ∈ db.holds.rows ∧ hold.organization = organization ∧ hold.Active now := by
  unfold readTarget at h
  split_ifs at h
  cases hk : session.kind with
  | donation text amount campaign =>
    cases amount with
    | none => simp only [hk] at h; cases h
    | some amount => simp only [hk] at h; cases h
  | pass product =>
    simp only [hk] at h
    split at h <;> cases h
  | hold holdId =>
    cases holdId with
    | none => simp only [hk, Option.bind_none] at h; cases h
    | some i =>
      simp only [hk, Option.bind_some] at h
      split at h
      · cases h
      · rename_i row hrow
        split_ifs at h with hexp
        cases h
        have hp := List.find?_some hrow
        simp only [Bool.and_eq_true, beq_iff_eq] at hp
        exact ⟨List.mem_of_find?_eq_some hrow, hp.1, not_le.mp hexp⟩

/-- **The atomic phase.** A call that returns either ran the fulfilment of the target, or found
    the order of another delivery and changed nothing. -/
theorem fulfillTarget_ok
    (h : fulfillTarget db now organization session target = .ok (db', order, created)) :
    (created = true ∧ fulfillBody db now organization session target = .ok (db', order)) ∨
      (created = false ∧ db' = db ∧ existingOrder db organization session.id = some order) := by
  unfold fulfillTarget at h
  split at h
  · rename_i hb
    cases h
    exact .inl ⟨rfl, hb⟩
  · split at h
    · rename_i hw
      cases h
      exact .inr ⟨rfl, rfl, hw⟩
    · split at h <;> cases h
  · cases h

/-- **`fulfill_checkout_session`.** A call that returns either created the order by the
    fulfilment of the session's target, or returns an order that was there and changed
    nothing. -/
theorem fulfillCheckoutSession_ok
    (h : fulfillCheckoutSession db now organization session = .ok (db', order, created)) :
    (created = true ∧ ∃ target, readTarget db now organization session = .ok target ∧
        fulfillBody db now organization session target = .ok (db', order)) ∨
      (created = false ∧ db' = db ∧ existingOrder db organization session.id = some order) := by
  unfold fulfillCheckoutSession at h
  split at h
  · rename_i he
    cases h
    exact .inr ⟨rfl, rfl, he⟩
  · split at h
    · cases h
    · rename_i target ht
      rcases fulfillTarget_ok h with ⟨hc, hb⟩ | hlost
      · exact .inl ⟨hc, target, ht, hb⟩
      · exact .inr hlost

end Spec

end BoxOffice

import BoxOffice.Payments.ExactlyOnce

namespace BoxOffice

open Relational Transition

/-!
# Payments — the webhook and its receipts

`stripeWebhook` is the `checkout.session.completed` branch of `stripe_webhook`: it commits the
fulfilment, then emails the receipt of an order it has created, then answers.

* `mailroom` is the box office with deliveries of any events, one at a time, where the mail
  transport may refuse a message;
* `Creates.created` and `stripeWebhook_same` say what a delivery does when it creates the order
  of its session and when it does not.
-/

/-- The messages `send_order_receipt` chooses between. -/
inductive ReceiptKind
  | tickets | passPurchase | donation
deriving Repr, DecidableEq

/-- A message the mail transport has accepted. -/
structure Receipt where
  order : Nat
  kind : ReceiptKind
  recipient : String
deriving Repr, DecidableEq

/-- The dispatch of `send_order_receipt`: tickets, then a pass line, else a donation. -/
def receiptKind (db : Db) (order : Nat) : ReceiptKind :=
  if db.tickets.rows.any fun t => t.order == order then .tickets
  else if db.orderItems.rows.any fun i => i.order == order && i.kind == .pass then .passPurchase
  else .donation

/-- `send_order_receipt`: the messages accepted, or the transport's exception.  A message
    without a recipient is not handed to the transport. -/
def sendOrderReceipt (db : Db) (order : Order) (accepts : Bool) : Except Unit (List Receipt) :=
  if order.buyerEmail = "" then .ok []
  else if accepts then .ok [⟨order.id, receiptKind db order.id, order.buyerEmail⟩]
  else .error ()

/-- A verified `checkout.session.completed` event. -/
structure StripeEvent where
  account : Option String
  session : CheckoutSession
deriving Repr, DecidableEq

/-- `_org_for_account`. -/
def orgForAccount (db : Db) : Option String → Option Organization
  | none => none
  | some account =>
    if account = "" then none
    else db.organizations.rows.find? fun o => o.stripeAccountId == account

/-- The box office and the messages its webhook has sent. -/
structure MailRoom where
  state : State
  outbox : List Receipt

/-- `stripe_webhook` on a completed session; `accepts` is the answer of the mail transport, if it
    is asked.  The second component is the status of the response. -/
def stripeWebhook (s : MailRoom) (event : StripeEvent) (accepts : Bool) : MailRoom × Nat :=
  match orgForAccount s.state.db event.account with
  | none => (s, 200)
  | some organization =>
    match fulfillCheckoutSession s.state.db s.state.now organization.id event.session with
    | .error e => (s, if e.isFulfillmentError then 200 else 500)
    | .ok (db, order, created) =>
      let s := { s with state := { s.state with db := db } }
      if created then
        match sendOrderReceipt db order accepts with
        | .error () => (s, 500)
        | .ok sent => ({ s with outbox := s.outbox ++ sent }, 200)
      else (s, 200)

/-- A delivery, or an operation of the rest of the box office. -/
inductive MailOp
  | deliver (event : StripeEvent) (accepts : Bool)
  | other (op : Op)

/-- Session ids are not blank, and only the webhook uses them. -/
def MailOp.Admissible (s : MailRoom) : MailOp → Prop
  | .deliver event _ => event.session.id ≠ ""
  | .other op => BoxOffice.Admissible s.state op ∧ op.Sessionless

/-- Run one request. -/
def MailOp.exec : MailOp → MailRoom → MailRoom
  | .deliver event accepts, s => (stripeWebhook s event accepts).1
  | .other op, s => { s with state := BoxOffice.exec op s.state }

/-- The box office with its webhook, one request at a time. -/
def mailroom : System MailRoom MailOp :=
  .ofFun (fun s => Fresh s.state ∧ s.outbox = []) MailOp.Admissible MailOp.exec

/-! ### What a delivery does -/

/-- The delivery `event` creates the order of its session: there is none, and the fulfilment
    goes through. -/
def Creates (s : MailRoom) (event : StripeEvent) : Prop :=
  ∃ organization target db order,
    orgForAccount s.state.db event.account = some organization ∧
    existingOrder s.state.db organization.id event.session.id = none ∧
    readTarget s.state.db s.state.now organization.id event.session = .ok target ∧
    fulfillBody s.state.db s.state.now organization.id event.session target = .ok (db, order)

/-- The effect of a delivery that creates an order: the fulfilment, the messages that were
    accepted, and the status. -/
structure Created (s : MailRoom) (event : StripeEvent) (accepts : Bool)
    (organization : Organization)
    (order : Order) : Prop where
  account : orgForAccount s.state.db event.account = some organization
  organizations :
    (stripeWebhook s event accepts).1.state.db.organizations = s.state.db.organizations
  newSale : NewSale s.state.db (stripeWebhook s event accepts).1.state.db order
  ofOrganization : order.organization = organization.id
  ofSession : order.stripeCheckoutSessionId = some event.session.id
  buyerEmail : order.buyerEmail = event.session.buyerEmail
  first : existingOrder s.state.db organization.id event.session.id = none
  mailed : event.session.buyerEmail ≠ "" → accepts = true →
    ∃ r ∈ (stripeWebhook s event accepts).1.outbox, r.order = order.id
  unmailed : event.session.buyerEmail = "" ∨ accepts = false →
    (stripeWebhook s event accepts).1.outbox = s.outbox
  outbox : ∃ sent : List Receipt, (stripeWebhook s event accepts).1.outbox = s.outbox ++ sent ∧
    (sent.map (·.order)).Sublist [order.id]
  status : event.session.buyerEmail = "" → (stripeWebhook s event accepts).2 = 200

section Webhook

variable {s : MailRoom} {event : StripeEvent} {accepts : Bool} {organization : Organization}

/-- The buyer's address of a fulfilled session. -/
theorem fulfillBody_buyerEmail {db db' : Db} {now : Time} {n : Nat} {session : CheckoutSession}
    {target : Target} {order : Order} (h : fulfillBody db now n session target = .ok (db', order)) :
    order.buyerEmail = session.buyerEmail := by
  cases target with
  | hold hold =>
    obtain ⟨_, _, -, -, -, rfl, -⟩ := (@fulfillHold_ok _ _ _ _ (sessionArgs session)) h
    rfl
  | donation amount campaign =>
    obtain ⟨_, _, -, -, rfl, -⟩ := (@fulfillDonation_ok _ _ _ (sessionArgs session)) h
    rfl
  | pass product =>
    obtain ⟨_, _, -, -, -, rfl, -⟩ := (@fulfillPassPurchase_ok _ _ _ (sessionArgs session)) h
    rfl

/-- A fulfilment leaves the organizations alone. -/
theorem fulfillBody_organizations {db db' : Db} {now : Time} {n : Nat} {session : CheckoutSession}
    {target : Target} {order : Order} (h : fulfillBody db now n session target = .ok (db', order)) :
    db'.organizations = db.organizations := by
  cases target with
  | hold hold =>
    obtain ⟨_, _, -, -, -, -, rfl⟩ := (@fulfillHold_ok _ _ _ _ (sessionArgs session)) h
    rfl
  | donation amount campaign =>
    obtain ⟨_, _, -, -, -, rfl⟩ := (@fulfillDonation_ok _ _ _ (sessionArgs session)) h
    rfl
  | pass product =>
    obtain ⟨_, _, -, -, -, -, rfl⟩ := (@fulfillPassPurchase_ok _ _ _ (sessionArgs session)) h
    rfl

/-- The target of a session belongs to the organization it was read for. -/
theorem readTarget_of {db : Db} {now : Time} {n : Nat} {session : CheckoutSession} {target : Target}
    (h : readTarget db now n session = .ok target) : target.Of n := by
  cases target with
  | hold hold => exact (readTarget_hold h).2.1
  | donation amount campaign => exact trivial
  | pass product => exact trivial

/-- Fulfilling a session for which there is no order, step by step. -/
theorem fulfillCheckoutSession_created {db db' : Db} {now : Time} {n : Nat}
    {session : CheckoutSession} {target : Target} {order : Order}
    (hnone : existingOrder db n session.id = none)
    (ht : readTarget db now n session = .ok target)
    (hb : fulfillBody db now n session target = .ok (db', order)) :
    fulfillCheckoutSession db now n session = .ok (db', order, true) := by
  unfold fulfillCheckoutSession
  rw [hnone]
  dsimp only
  rw [ht]
  dsimp only
  unfold fulfillTarget
  rw [hb]

/-- **A delivery that creates the order.** -/
theorem Creates.created (h : Creates s event) (accepts : Bool) :
    ∃ organization order, Created s event accepts organization order := by
  obtain ⟨organization, target, db, order, horg, hnone, ht, hb⟩ := h
  obtain ⟨hnew, ho, hsession, -⟩ := fulfillBody_newSale (readTarget_of ht) hb
  have hmail := fulfillBody_buyerEmail hb
  have horgs := fulfillBody_organizations hb
  -- The order is stored in either case; only the answer waits for the mail.
  have hstep : stripeWebhook s event accepts =
      match sendOrderReceipt db order accepts with
      | .error () => ({ s with state := { s.state with db := db } }, 500)
      | .ok sent =>
        (⟨{ s.state with db := db }, s.outbox ++ sent⟩, 200) := by
    unfold stripeWebhook
    rw [horg]
    dsimp only
    rw [fulfillCheckoutSession_created hnone ht hb]
    rfl
  refine ⟨organization, order, ?_⟩
  -- Without an address nothing is sent, and nothing can fail.
  by_cases hblank : event.session.buyerEmail = ""
  · have hsend : sendOrderReceipt db order accepts = .ok [] := if_pos (hmail.trans hblank)
    rw [hsend] at hstep
    refine ⟨horg, by rw [hstep]; exact horgs, by rw [hstep]; exact hnew, ho, hsession, hmail, hnone,
      fun hne => absurd hblank hne, (fun _ => by rw [hstep]; exact List.append_nil _),
      ⟨[], by rw [hstep], List.nil_sublist _⟩, fun _ => by rw [hstep]⟩
  · have hto : order.buyerEmail ≠ "" := by rw [hmail]; exact hblank
    cases accepts with
    | true =>
      have hsend : sendOrderReceipt db order true
          = .ok [⟨order.id, receiptKind db order.id, order.buyerEmail⟩] := if_neg hto
      rw [hsend] at hstep
      refine ⟨horg, by rw [hstep]; exact horgs, by rw [hstep]; exact hnew, ho, hsession, hmail,
        hnone, fun _ _ => ?_,
        fun h => ?_, ⟨_, by rw [hstep], List.Sublist.refl _⟩, fun h => absurd h hblank⟩
      · rw [hstep]
        exact ⟨_, List.mem_append_right _ (List.mem_singleton.mpr rfl), rfl⟩
      · rcases h with h | h
        · exact absurd h hblank
        · cases h
    | false =>
      have hsend : sendOrderReceipt db order false = .error () := if_neg hto
      rw [hsend] at hstep
      exact ⟨horg, by rw [hstep]; exact horgs, by rw [hstep]; exact hnew, ho, hsession, hmail,
        hnone, (fun _ h => by cases h),
        (fun _ => by rw [hstep]), ⟨[], by rw [hstep]; exact (List.append_nil _).symm,
          List.nil_sublist _⟩, fun h => absurd h hblank⟩

/-- **Any other delivery** changes nothing. -/
theorem stripeWebhook_same (h : ¬Creates s event) : (stripeWebhook s event accepts).1 = s := by
  unfold stripeWebhook
  split
  · rfl
  · rename_i organization horg
    split
    · rfl
    · rename_i db order created hf
      rcases fulfillCheckoutSession_ok hf with ⟨rfl, target, ht, hb⟩ | ⟨rfl, rfl, -⟩
      · exfalso
        cases hnone : existingOrder s.state.db organization.id event.session.id with
        | none => exact h ⟨organization, target, db, order, horg, hnone, ht, hb⟩
        | some o =>
          unfold fulfillCheckoutSession at hf
          rw [hnone] at hf
          cases hf
      · rfl

/-- With an order on file, a delivery is acknowledged and changes nothing. -/
theorem stripeWebhook_existing {o : Order}
    (horg : orgForAccount s.state.db event.account = some organization)
    (ho : existingOrder s.state.db organization.id event.session.id = some o) :
    stripeWebhook s event accepts = (s, 200) := by
  unfold stripeWebhook
  rw [horg]
  dsimp only
  unfold fulfillCheckoutSession
  rw [ho]
  rfl

/-- The database after a delivery is that of the serialized fulfilment. -/
theorem stripeWebhook_state
    (horg : orgForAccount s.state.db event.account = some organization) :
    (stripeWebhook s event accepts).1.state
      = exec (.fulfillCheckoutSession organization.id event.session) s.state := by
  simp only [stripeWebhook, horg, exec]
  cases hf : fulfillCheckoutSession s.state.db s.state.now organization.id event.session with
  | error e => rfl
  | ok p =>
    obtain ⟨db, order, created⟩ := p
    cases created with
    | false => rfl
    | true =>
      dsimp only
      rw [if_pos rfl]
      cases sendOrderReceipt db order accepts with
      | error u => rfl
      | ok sent => rfl

end Webhook

end BoxOffice

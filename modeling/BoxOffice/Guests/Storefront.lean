import BoxOffice.Guests.Sessions
import BoxOffice.Payments.Checkouts
import BoxOffice.Payments.StripeSession
import BoxOffice.Payments.Webhook

namespace BoxOffice

open Relational Transition

/-!
# Guests — the storefront

The views through which a browser session buys, signs in and redeems, as one request each.

* the seven purchase views decide first (`Plan`): an answer, a trip to a payment page, or a
  fulfilment on the spot;
* `StoreRequest.exec` carries the decision out, and signs the buyer in where the view does;
* `storefront` is every run of requests of any sessions, with the webhook and the rest of the box
  office.
-/

/-- The settings the views read. -/
structure StoreSettings where
  enableTestCheckout : Bool
  emailDeliveryConfigured : Bool
  fees : FeeSettings

/-- The form of a buyer, and the reference the view makes up for the payment. -/
structure Buyer where
  name : String
  email : String
  marketingOptIn : Bool
  reference : String
deriving Repr, DecidableEq

/-- What a session gets to see. -/
inductive StorePage
  | notFound (message : String)
  | refused (message : String)
  | serverError
  | redirect (page : CheckoutPage)
  | receipt (order : Nat)
  | confirming
  | signIn (link : Option LoginToken)
  | portal (guest : GuestAccount) (orders : List Order) (passes : List PassPurchase)
  | done (message : String)

/-- A Checkout Session at Stripe, and the browser session it was made for. -/
structure StripeSession where
  id : String
  request : SessionRequest
  key : String
deriving Repr, DecidableEq

/-- The site: the box office, the browser sessions, the tokens it has minted and mailed, the
    Checkout Sessions it has made, and a record of which session placed which order. -/
structure Site where
  state : State
  sessions : String → Visitor
  minted : List LoginToken
  mailed : List (String × LoginToken)
  stripe : List StripeSession
  placedBy : Nat → Option String

/-! ### Deciding on a purchase -/

/-- What a purchase view decides to do. -/
inductive Plan
  | answer (page : StorePage)
  | visit (page : CheckoutPage)
  | fulfill (target : Target) (args : FulfillArgs)

/-- The arguments of a payment that is simulated. -/
def Buyer.args (buyer : Buyer) (provider : Provider) (name email : String) : FulfillArgs :=
  checkoutArgs provider email name buyer.reference buyer.marketingOptIn

/-- `get_object_or_404` on a hold of the session that has not expired. -/
def withHold (s : State) (organization : Organization) (key : String) (holdId : Option Nat)
    (plan : Hold → Plan) : Plan :=
  match findActiveHold s.db s.now organization.id key holdId with
  | none => .answer (.notFound "No Hold matches the given query.")
  | some hold => plan hold

/-- `checkout_view`. -/
def checkoutView (settings : StoreSettings) (s : State) (organization : Organization)
    (key : String) (holdId : Option Nat) (marketingOptIn : Bool) : Plan :=
  withHold s organization key holdId fun hold =>
    match createCheckoutSession s.db s.now settings.fees hold marketingOptIn with
    | .ok page => .visit page
    | .error (.checkoutError message) => .answer (.refused message)
    | .error _ => .answer .serverError

/-- The simulated payment of a hold, unless the page is closed. -/
def simulatedCheckout (closed : Option String) (provider : Provider) (s : State)
    (organization : Organization) (key : String) (holdId : Option Nat) (buyer : Buyer) : Plan :=
  match closed with
  | some message => .answer (.notFound message)
  | none =>
    withHold s organization key holdId fun hold =>
      if strip buyer.email = "" then
        .answer (.refused "Enter an email address to receive your tickets.")
      else .fulfill (.hold hold) (buyer.args provider (strip buyer.name) (strip buyer.email))

/-- `checkout_test`. -/
def checkoutTest (settings : StoreSettings) : State → Organization → String → Option Nat → Buyer →
    Plan :=
  simulatedCheckout
    (if settings.enableTestCheckout then none else some "Test checkout is not enabled.") .test

/-- The message of a stub page of a theater that can charge. -/
def stubClosed (organization : Organization) (message : String) : Option String :=
  if organization.stripeChargesEnabled then some message else none

/-- `checkout_stub`. -/
def checkoutStub (s : State) (organization : Organization) : String → Option Nat → Buyer → Plan :=
  simulatedCheckout (stubClosed organization
    "Stub checkout is unavailable once the theater can take real payments.") .stub s organization

/-- `MAX_DONATION`. -/
def maxDonation : Cents := 1000000

/-- `_parse_amount`, of the posted amount rounded to two decimals; `none` is not a number. -/
def parseAmount : Option Cents → Except String Cents
  | none => .error "Please enter a valid donation amount."
  | some amount =>
    if amount ≤ 0 then .error "Please enter a donation amount greater than zero."
    else if maxDonation < amount then
      .error "Donations here are capped at 10000; please contact the box office for a larger gift."
    else .ok amount

/-- `_active_campaign_or_404`. -/
def withCampaign (s : State) (organization : Organization)
    (plan : DonationCampaign → Plan) : Plan :=
  match s.db.donationCampaigns.rows.find? fun c =>
      c.organization == organization.id && c.isActive with
  | none => .answer (.notFound "Donations aren't turned on for this box office.")
  | some campaign => plan campaign

/-- A form with an email address.  The amount, if there is one, is checked first. -/
def withReceiptEmail (buyer : Buyer) (plan : String → Plan) : Plan :=
  if normalizeEmail buyer.email = "" then
    .answer (.refused "Enter an email address for your receipt.")
  else plan (normalizeEmail buyer.email)

/-- May the page fulfil on the spot: the test setting, at a theater that cannot charge. -/
def testShortcut (settings : StoreSettings) (organization : Organization) : Bool :=
  !organization.stripeChargesEnabled && settings.enableTestCheckout

/-- `donate`. -/
def donate (settings : StoreSettings) (s : State) (organization : Organization)
    (amount : Option Cents) (buyer : Buyer) : Plan :=
  withCampaign s organization fun campaign =>
    match parseAmount amount with
    | .error message => .answer (.refused message)
    | .ok amount =>
      withReceiptEmail buyer fun email =>
        if testShortcut settings organization then
          .fulfill (.donation amount (some campaign.id))
            (buyer.args .test (strip buyer.name) email)
        else
          .visit (createDonationCheckoutSession settings.fees organization amount
            (some campaign.id) email buyer.marketingOptIn)

/-- `donate_stub`. -/
def donateStub (s : State) (organization : Organization) (amount : Option Cents) (buyer : Buyer) :
    Plan :=
  match stubClosed organization
      "Stub donations are unavailable once this box office can take real payments." with
  | some message => .answer (.notFound message)
  | none =>
    withCampaign s organization fun campaign =>
      match parseAmount amount with
      | .error message => .answer (.refused message)
      | .ok amount =>
        withReceiptEmail buyer fun email =>
          .fulfill (.donation amount (some campaign.id)) (buyer.args .stub (strip buyer.name) email)

/-- `get_object_or_404` on the passes on sale. -/
def withProduct (s : State) (organization : Organization) (pk : Nat) (plan : PassProduct → Plan) :
    Plan :=
  match s.db.passProducts.rows.find? fun p =>
      p.organization == organization.id && p.isActive && p.id == pk with
  | none => .answer (.notFound "No PassProduct matches the given query.")
  | some product => plan product

/-- `pass_detail`. -/
def passDetail (settings : StoreSettings) (s : State) (organization : Organization) (pk : Nat)
    (buyer : Buyer) : Plan :=
  withProduct s organization pk fun product =>
    withReceiptEmail buyer fun email =>
      if testShortcut settings organization then
        .fulfill (.pass product) (buyer.args .test (strip buyer.name) email)
      else
        .visit (createPassCheckoutSession settings.fees organization product email
          buyer.marketingOptIn)

/-- `pass_stub`. -/
def passStub (s : State) (organization : Organization) (pk : Nat) (buyer : Buyer) : Plan :=
  match stubClosed organization
      "Stub pass checkout is unavailable once this box office can take real payments." with
  | some message => .answer (.notFound message)
  | none =>
    withProduct s organization pk fun product =>
      withReceiptEmail buyer fun email =>
        .fulfill (.pass product) (buyer.args .stub (strip buyer.name) email)

/-! ### Carrying it out -/

/-- The fulfilment of a target with those arguments. -/
def fulfillOnSpot (db : Db) (now : Time) (organization : Nat) (args : FulfillArgs) :
    Target → Result Order
  | .hold hold => fulfillHold db now hold args
  | .donation amount campaign => fulfillDonation db now organization amount campaign args
  | .pass product => fulfillPassPurchase db now organization product args

/-- The site with another state of one session. -/
def Site.setSession (s : Site) (key : String) (v : Visitor) : Site :=
  { s with sessions := Function.update s.sessions key v }

/-- The site after a session has placed an order. -/
def Site.place (s : Site) (db : Db) (key : String) (order : Order) : Site :=
  { s with
    state := { s.state with db := db }
    placedBy := Function.update s.placedBy order.id (some key) }

/-- `_sign_in_buyer`, `_sign_in_donor`: sign the session in as the guest of the order. -/
def Site.signInBuyer (s : Site) (key : String) (order : Order) : Site :=
  match order.guest.bind s.state.db.guests.get? with
  | none => s
  | some guest => s.setSession key (loginGuest guest (s.sessions key))

/-- What the buyer is told when the fulfilment raises.  Only the pages of a hold catch it. -/
def failurePage (target : Target) (e : ServiceError) : StorePage :=
  match target with
  | .hold _ => if e.isFulfillmentError then .refused e.message else .serverError
  | _ => .serverError

/-- Carry a decision out, for a session; `stripeId` is the id Stripe gives a new session. -/
def Site.carryOut (s : Site) (organization : Organization) (key stripeId : String) :
    Plan → Site × StorePage
  | .answer page => (s, page)
  | .visit page =>
    match page with
    | .stub _ => (s, .redirect page)
    | .stripe request =>
      ({ s with stripe := s.stripe ++ [⟨stripeId, request, key⟩] }, .redirect page)
  | .fulfill target args =>
    match fulfillOnSpot s.state.db s.state.now organization.id args target with
    | .error e => (s, failurePage target e)
    | .ok (db, order) => ((s.place db key order).signInBuyer key order, .receipt order.id)

/-! ### Requests -/

/-- A request of a browser session. -/
inductive StoreRequest
  | checkoutView (holdId : Option Nat) (marketingOptIn : Bool)
  | checkoutTest (holdId : Option Nat) (buyer : Buyer)
  | checkoutStub (holdId : Option Nat) (buyer : Buyer)
  | donate (amount : Option Cents) (buyer : Buyer)
  | donateStub (amount : Option Cents) (buyer : Buyer)
  | passDetail (pk : Nat) (buyer : Buyer)
  | passStub (pk : Nat) (buyer : Buyer)
  | checkoutSuccess (sessionId : String)
  | guestPortal
  | guestRequestLink (email : Option String) (lockedOut : Bool)
  | guestVerify (token : LoginToken)
  | guestPreferences (optedIn : Bool)
  | guestLogout
  | passRedeemStart (pk : Nat)
  | passRedeemExit
  | passRedeem (holdId : Option Nat)

/-- The decision of a purchase view. -/
def StoreRequest.plan (settings : StoreSettings) (s : State) (organization : Organization)
    (key : String) : StoreRequest → Option Plan
  | .checkoutView holdId optIn =>
    some (BoxOffice.checkoutView settings s organization key holdId optIn)
  | .checkoutTest holdId buyer =>
    some (BoxOffice.checkoutTest settings s organization key holdId buyer)
  | .checkoutStub holdId buyer => some (BoxOffice.checkoutStub s organization key holdId buyer)
  | .donate amount buyer => some (BoxOffice.donate settings s organization amount buyer)
  | .donateStub amount buyer => some (BoxOffice.donateStub s organization amount buyer)
  | .passDetail pk buyer => some (BoxOffice.passDetail settings s organization pk buyer)
  | .passStub pk buyer => some (BoxOffice.passStub s organization pk buyer)
  | _ => none

/-- `checkout_success`: the order of the Stripe session signs whoever lands here in. -/
def checkoutSuccess (s : Site) (organization : Organization) (key sessionId : String) :
    Site × StorePage :=
  if sessionId = "" then (s, .confirming)
  else
    match existingOrder s.state.db organization.id sessionId with
    | none => (s, .confirming)
    | some order => (s.signInBuyer key order, .receipt order.id)

/-- Ask for the guest of a request; the session may have to forget one that is gone. -/
def Site.currentGuest (s : Site) (organization : Organization) (key : String) :
    Site × Option GuestAccount :=
  let found := getCurrentGuest s.state.db.guests organization.id (s.sessions key)
  (s.setSession key found.2, found.1)

/-- `guest_portal`. -/
def guestPortal (s : Site) (organization : Organization) (key : String) : Site × StorePage :=
  let (s, guest) := s.currentGuest organization key
  match guest with
  | none => (s, .signIn none)
  | some guest =>
    (s, .portal guest
      (s.state.db.orders.rows.filter fun o =>
        o.organization == organization.id && o.guest == some guest.id).reverse
      (s.state.db.passPurchases.rows.filter fun p =>
        p.organization == organization.id && p.guest == some guest.id).reverse)

/-- The confirmation that tells nobody whether there is an account. -/
def linkSent : StorePage :=
  .done "If that email has tickets with us, we've sent it a sign-in link. Check your inbox."

/-- The site after a link for a guest has been made, and mailed if it is to be. -/
def Site.mint (s : Site) (guest : GuestAccount) (mail : Bool) : Site :=
  let token := makeLoginToken guest s.state.now
  { s with
    minted := s.minted ++ [token]
    mailed := if mail then s.mailed ++ [(guest.email, token)] else s.mailed }

/-- `guest_request_link`, of the cleaned address; `none` is a form that is not valid. -/
def guestRequestLink (settings : StoreSettings) (s : Site) (organization : Organization)
    (email : Option String) (lockedOut : Bool) : Site × StorePage :=
  match email with
  | none => (s, .signIn none)
  | some email =>
    if lockedOut then (s, linkSent)
    else
      match accountOf s.state.db.guests organization.id email, settings.emailDeliveryConfigured with
      | none, true => (s, linkSent)
      | some guest, true => (s.mint guest true, linkSent)
      -- Without mail the link is shown to whoever asked for it.
      | none, false => (s, .signIn none)
      | some guest, false =>
        (s.mint guest false, .signIn (some (makeLoginToken guest s.state.now)))

/-- `guest_verify`. -/
def guestVerify (s : Site) (organization : Organization) (key : String) (token : LoginToken) :
    Site × StorePage :=
  match (readLoginToken s.minted s.state.now token organization.id).bind
      (guestOf s.state.db.guests organization.id) with
  | none =>
    (s, .refused
      "That sign-in link is invalid or has expired. Enter your email to get a new one.")
  | some guest =>
    let v := s.sessions key
    (s.setSession key (loginGuest guest { v with presented := v.presented ++ [token] }),
      .done "You're signed in. Here are your tickets.")

/-- `guest_preferences`. -/
def guestPreferences (s : Site) (organization : Organization) (key : String) (optedIn : Bool) :
    Site × StorePage :=
  let (s, guest) := s.currentGuest organization key
  match guest with
  | none => (s, .refused "Sign in to your account to update your email preferences.")
  | some guest =>
    ({ s with state := { s.state with db := { s.state.db with
        guests := setMarketingOptIn s.state.db.guests (some guest) optedIn s.state.now } } },
      .done (if optedIn then "You're subscribed to email updates."
        else "You've been unsubscribed from email updates."))

/-- A pass of the guest. -/
def guestPass (db : Db) (organization : Organization) (guest : GuestAccount) (pk : Nat) :
    Option PassPurchase :=
  db.passPurchases.rows.find? fun p =>
    p.organization == organization.id && p.id == pk && p.guest == some guest.id

/-- `pass_redeem_start`. -/
def passRedeemStart (s : Site) (organization : Organization) (key : String) (pk : Nat) :
    Site × StorePage :=
  let (s, guest) := s.currentGuest organization key
  match guest with
  | none => (s, .refused "Sign in to your account to redeem a pass.")
  | some guest =>
    match guestPass s.state.db organization guest pk with
    | none => (s, .notFound "No PassPurchase matches the given query.")
    | some p =>
      if redeemableNow p s.state.now = false then
        (s, .refused "This pass can't be redeemed right now.")
      else
        let v := s.sessions key
        let product := ((s.state.db.passProducts.get? p.product).map (·.name)).getD "your pass"
        (s.setSession key { v with redeemingPass := some p.id },
          .done s!"Redeeming with {product} — pick a show to use it on.")

/-- The session without the pass it redeems with. -/
def Site.exitRedeem (s : Site) (key : String) : Site :=
  let v := s.sessions key
  s.setSession key { v with redeemingPass := none }

/-- `pass_redeem`. -/
def passRedeem (s : Site) (organization : Organization) (key : String) (holdId : Option Nat) :
    Site × StorePage :=
  let (s, guest) := s.currentGuest organization key
  match guest with
  | none => (s, .refused "Sign in to your account to redeem a pass.")
  | some guest =>
    match findActiveHold s.state.db s.state.now organization.id key holdId with
    | none => (s, .notFound "No Hold matches the given query.")
    | some hold =>
      match (s.sessions key).redeemingPass.bind (guestPass s.state.db organization guest) with
      | none =>
        (s.exitRedeem key, .refused "Your pass redemption session expired. Please start again.")
      | some p =>
        match fulfillHoldWithPass s.state.db s.state.now hold p.id guest.email guest.name false with
        | .error e =>
          match e with
          | .passRedemption message | .holdGone message => (s, .refused message)
          | _ => (s, .serverError)
        | .ok (db, order) => ((s.place db key order).exitRedeem key, .receipt order.id)

/-- Handle a request of a session at the host of an organization. -/
def StoreRequest.handle (settings : StoreSettings) (s : Site) (organization : Organization)
    (key stripeId : String) (r : StoreRequest) : Site × StorePage :=
  match r.plan settings s.state organization key with
  | some plan => s.carryOut organization key stripeId plan
  | none =>
    match r with
    | .checkoutSuccess sessionId => BoxOffice.checkoutSuccess s organization key sessionId
    | .guestPortal => BoxOffice.guestPortal s organization key
    | .guestRequestLink email lockedOut =>
      BoxOffice.guestRequestLink settings s organization email lockedOut
    | .guestVerify token => BoxOffice.guestVerify s organization key token
    | .guestPreferences optedIn => BoxOffice.guestPreferences s organization key optedIn
    | .guestLogout => (s.setSession key (logoutGuest (s.sessions key)), .done "Signed out.")
    | .passRedeemStart pk => BoxOffice.passRedeemStart s organization key pk
    | .passRedeemExit => (s.exitRedeem key, .done "Exited pass redemption mode.")
    | .passRedeem holdId => BoxOffice.passRedeem s organization key holdId
    | _ => (s, .serverError)

/-! ### Runs -/

/-- The webhook of a Checkout Session that was paid, with what the buyer typed at Stripe. -/
def Site.paid (s : Site) (stripeId buyerEmail buyerName : String) (paymentIntent : Option String) :
    Site :=
  match s.stripe.find? fun x => x.id == stripeId with
  | none => s
  | some x =>
    match orgForAccount s.state.db (some x.request.stripeAccount) with
    | none => s
    | some organization =>
      match fulfillCheckoutSession s.state.db s.state.now organization.id
          (x.request.completed stripeId buyerEmail buyerName paymentIntent) with
      | .error _ => s
      | .ok (db, order, created) =>
        if created then s.place db x.key order else { s with state := { s.state with db := db } }

/-- What happens next: a request of a session, a payment at Stripe, or an operation of the rest of
    the box office. -/
inductive StoreEvent
  | request (organization : Nat) (key stripeId : String) (r : StoreRequest)
  | paid (stripeId buyerEmail buyerName : String) (paymentIntent : Option String)
  | other (op : Op)

/-- The operations that sell something. -/
def Op.Sells (op : Op) : Prop := op.SellsHold ∨ ∃ args, op.PaysWith args

/-- Sales are made through the storefront and the webhook only. -/
def StoreEvent.Admissible : StoreEvent → Prop
  | .other op => ¬op.Sells
  | _ => True

/-- Carry an event out.  A host of no organization answers nothing. -/
def StoreEvent.exec (settings : StoreSettings) (e : StoreEvent) (s : Site) : Site :=
  match e with
  | .request organization key stripeId r =>
    match s.state.db.organizations.get? organization with
    | none => s
    | some organization => (r.handle settings s organization key stripeId).1
  | .paid stripeId buyerEmail buyerName paymentIntent =>
    s.paid stripeId buyerEmail buyerName paymentIntent
  | .other op => { s with state := BoxOffice.exec op s.state }

/-- Every order that names a guest names one that exists. -/
def GuestsLinked (db : Db) : Prop :=
  ∀ o ∈ db.orders.rows, ∀ pk, o.guest = some pk → ∃ g ∈ db.guests.rows, g.id = pk

/-- A site nobody is signed in to. -/
structure Site.Opening (s : Site) : Prop where
  signedOut : ∀ key, (s.sessions key).guestId = none
  linked : GuestsLinked s.state.db

/-- Every run of requests of any sessions. -/
def storefront (settings : StoreSettings) : System Site StoreEvent :=
  .ofFun Site.Opening (fun _ e => e.Admissible) (fun e => e.exec settings)

end BoxOffice

import BoxOffice.Guests.Access

namespace BoxOffice

open Relational Transition

/-!
# Guests — who gets into the portal

Every request keeps the site guarded, as long as the event is careful (`StoreEvent.guarded`), and
so does every run: `portal_access`.

The sign-in after a purchase asks for no proof.  Whoever types the address of an account that has
orders already is in it: `address_is_no_proof`.
-/

section Requests

variable {settings : StoreSettings} {s s' : Site} {organization : Organization}
  {key stripeId : String} {pk : Nat}

/-! ### Purchases -/

/-- Carrying out a careful decision keeps the site guarded. -/
theorem Site.carryOut_guarded {plan : Plan} (hs : s.Guarded) (hof : plan.Of organization.id)
    (hc : ∀ target args, plan = .fulfill target args →
      ∀ pk, accountKey s.state.db organization.id args.buyerEmail = some pk →
        s.Entitled key pk ∧ s.Alone key pk) :
    (s.carryOut organization key stripeId plan).1.Guarded := by
  cases plan with
  | answer page => exact hs
  | visit page =>
    cases page with
    | stub query => exact hs
    | stripe request =>
      exact hs.keeps ⟨fun o ho => ⟨o, ho, rfl, rfl⟩, le_refl _, rfl, fun _ _ => id, fun _ _ => id,
        fun _ => id⟩
  | fulfill target args =>
    unfold Site.carryOut
    dsimp only
    split
    · exact hs
    · rename_i db order hfulfill
      -- The order joins an account, and then its buyer is signed in to that account.
      have hjoins := fulfillOnSpot_joins (hof target args rfl) hfulfill
      have hcareful := hc target args rfl
      exact (hs.place hjoins fun pk hpk => (hcareful pk hpk).2).signInBuyer fun pk hguest =>
        hjoins.entitled hs (fun pk hpk => (hcareful pk hpk).1) hguest

/-- **The Stripe landing** signs the session in as the guest of the order. -/
theorem checkoutSuccess_guarded {sessionId : String} (hs : s.Guarded)
    (hc : ∀ pk, s.landsIn organization (.checkoutSuccess sessionId) = some pk → s.Entitled key pk) :
    (checkoutSuccess s organization key sessionId).1.Guarded := by
  unfold checkoutSuccess
  split_ifs
  · exact hs
  · cases hexisting : existingOrder s.state.db organization.id sessionId with
    | none => exact hs
    | some order =>
      refine hs.signInBuyer fun pk hguest => hc pk ?_
      show (existingOrder s.state.db organization.id sessionId).bind (·.guest) = some pk
      rw [hexisting]
      exact hguest

/-- **A paid Checkout Session** links an order, and signs nobody in. -/
theorem Site.paid_guarded {buyerEmail buyerName : String} {paymentIntent : Option String}
    (hs : s.Guarded)
    (hc : ∀ key pk, s.paysFor stripeId buyerEmail = some (key, pk) → s.Alone key pk) :
    (s.paid stripeId buyerEmail buyerName paymentIntent).Guarded := by
  unfold Site.paysFor at hc
  unfold Site.paid
  cases hx : s.stripe.find? fun x => x.id == stripeId with
  | none => exact hs
  | some x =>
    rw [hx, Option.bind_some] at hc
    dsimp only
    cases horg : orgForAccount s.state.db (some x.request.stripeAccount) with
    | none => exact hs
    | some organization =>
      rw [horg, Option.bind_some] at hc
      dsimp only
      split
      · exact hs
      · rename_i db order created hfulfill
        rcases fulfillCheckoutSession_joins hfulfill with ⟨rfl, hnone, hjoins⟩ | ⟨rfl, rfl⟩
        -- A first delivery places the order for the session that went to Stripe.
        · rw [if_pos rfl]
          rw [show existingOrder s.state.db organization.id stripeId = none from hnone] at hc
          exact hs.place hjoins fun pk hpk => hc x.key pk (by
            rw [show accountKey s.state.db organization.id buyerEmail = some pk from hpk]
            rfl)
        · rw [if_neg Bool.false_ne_true]
          exact hs

/-! ### The portal -/

/-- Looking up the guest keeps what matters. -/
theorem Site.currentGuest_keeps : s.Keeps (s.currentGuest organization key).1 := by
  show s.Keeps (s.setSession key (getCurrentGuest _ _ (s.sessions key)).2)
  rcases @getCurrentGuest_visitor s.state.db.guests organization.id (s.sessions key) with h | h <;>
    rw [h]
  · exact Site.setSession_keeps rfl (.inr rfl)
  · exact Site.setSession_keeps rfl (.inl rfl)

/-- A session that is alone stays so. -/
theorem Site.Alone.keeps (h : s.Alone key pk) (hk : s.Keeps s') : s'.Alone key pk :=
  fun other hother hin => (h other hother (hk.signedIn other pk hin)).keeps hk

/-- Leaving a redemption keeps what matters. -/
theorem Site.exitRedeem_keeps : s.Keeps (s.exitRedeem key) :=
  Site.setSession_keeps rfl (.inr rfl)

/-- So does minting a token. -/
theorem Site.mint_keeps {guest : GuestAccount} {mail : Bool} : s.Keeps (s.mint guest mail) :=
  ⟨fun o ho => ⟨o, ho, rfl, rfl⟩, le_refl _, rfl, fun _ _ => id, fun _ _ => id,
    fun _ => List.mem_append_left _⟩

/-- So does the portal. -/
theorem guestPortal_keeps : s.Keeps (guestPortal s organization key).1 := by
  unfold guestPortal
  dsimp only
  split <;> exact Site.currentGuest_keeps

/-- So does asking for a link. -/
theorem guestRequestLink_keeps {email : Option String} {lockedOut : Bool} :
    s.Keeps (guestRequestLink settings s organization email lockedOut).1 := by
  unfold guestRequestLink
  split
  · exact .refl s
  · split_ifs
    · exact .refl s
    · split
      · exact .refl s
      · exact Site.mint_keeps
      · exact .refl s
      · exact Site.mint_keeps

/-- **A sign-in link** lets in whoever presents a token of the account. -/
theorem guestVerify_guarded {token : LoginToken} (hs : s.Guarded) :
    (guestVerify s organization key token).1.Guarded := by
  unfold guestVerify
  split
  · exact hs
  · rename_i guest hguest
    obtain ⟨gid, hread, hfound⟩ := Option.bind_eq_some_iff.mp hguest
    obtain ⟨hmem, -, rfl⟩ := guestOf_some hfound
    unfold readLoginToken at hread
    split_ifs at hread with hminted
    -- The token is minted, and from now on it is presented.
    refine hs.signIn rfl (s.state.db.guests.fresh guest hmem) (.inl ⟨token, ?_,
      Option.some.inj hread, hminted⟩)
    rw [setSession_self]
    exact List.mem_append_right _ (List.mem_singleton_self token)

/-- A choice about marketing adds no account. -/
theorem setMarketingOptIn_nextId {guests : Table GuestAccount} {guest : Option GuestAccount}
    {optedIn : Bool} {now : Time} :
    (setMarketingOptIn guests guest optedIn now).nextId = guests.nextId := by
  unfold setMarketingOptIn
  split
  · rfl
  · split_ifs <;> rfl

/-- The preferences keep the site guarded. -/
theorem guestPreferences_guarded {optedIn : Bool} (hs : s.Guarded) :
    (guestPreferences s organization key optedIn).1.Guarded := by
  have hcurrent := hs.keeps (@Site.currentGuest_keeps s organization key)
  unfold guestPreferences
  dsimp only
  split
  · exact hcurrent
  · exact hcurrent.keeps ⟨fun o ho => ⟨o, ho, rfl, rfl⟩, setMarketingOptIn_nextId.ge, rfl,
      fun _ _ => id, fun _ _ => id, fun _ => id⟩

/-- So does the start of a redemption. -/
theorem passRedeemStart_guarded {pk : Nat} (hs : s.Guarded) :
    (passRedeemStart s organization key pk).1.Guarded := by
  have hcurrent := hs.keeps (@Site.currentGuest_keeps s organization key)
  unfold passRedeemStart
  dsimp only
  split
  · exact hcurrent
  · split
    · exact hcurrent
    · split_ifs
      · exact hcurrent
      · exact hcurrent.keeps (Site.setSession_keeps rfl (.inr rfl))

/-- **A redemption** adds an order to the account the session is signed in to. -/
theorem passRedeem_guarded {holdId : Option Nat} (hs : s.Guarded)
    (hc : ∀ pk, (s.sessions key).guestId = some pk → s.Alone key pk) :
    (passRedeem s organization key holdId).1.Guarded := by
  have hkeeps := @Site.currentGuest_keeps s organization key
  have hcurrent := hs.keeps hkeeps
  unfold passRedeem
  dsimp only
  split
  · exact hcurrent
  · rename_i guest hguest
    obtain ⟨hin, hmem⟩ := getCurrentGuest_some hguest
    split
    · exact hcurrent
    · split
      · exact hcurrent.keeps Site.exitRedeem_keeps
      · rename_i p hp
        -- The pass is one of the guest, so the order joins the guest's account.
        obtain ⟨pass, -, hpass⟩ := Option.bind_eq_some_iff.mp hp
        split
        · split <;> exact hcurrent
        · rename_i db order hfulfill
          have hjoins := fulfillHoldWithPass_joins hpass hmem hfulfill
          refine (hcurrent.place hjoins fun pk hpk => ?_).keeps Site.exitRedeem_keeps
          exact (hc pk (hin.trans hpk)).keeps hkeeps

/-! ### Every run -/

/-- **A request** keeps the site guarded. -/
theorem StoreRequest.handle_guarded {r : StoreRequest} (hs : s.Guarded)
    (hbuys : ∀ pk, s.buysFor settings organization key r = some pk →
      s.Entitled key pk ∧ s.Alone key pk)
    (hlands : ∀ pk, s.landsIn organization r = some pk → s.Entitled key pk)
    (hredeems : ∀ pk, s.redeemsFrom key r = some pk → s.Alone key pk) :
    (r.handle settings s organization key stripeId).1.Guarded := by
  cases hplan : r.plan settings s.state organization key with
  | some plan =>
    unfold StoreRequest.handle
    rw [hplan]
    -- A purchase view decides first, and the condition is about the address it decides on.
    refine Site.carryOut_guarded hs (StoreRequest.plan_of hplan) fun target args hfulfill pk hpk =>
      hbuys pk ?_
    unfold Site.buysFor
    rw [hplan, hfulfill]
    exact hpk
  | none =>
    cases r with
    | checkoutSuccess sessionId => exact checkoutSuccess_guarded hs hlands
    | guestPortal => exact hs.keeps guestPortal_keeps
    | guestRequestLink email lockedOut => exact hs.keeps guestRequestLink_keeps
    | guestVerify token => exact guestVerify_guarded hs
    | guestPreferences optedIn => exact guestPreferences_guarded hs
    | guestLogout => exact hs.keeps (Site.setSession_keeps rfl (.inl rfl))
    | passRedeemStart pk => exact passRedeemStart_guarded hs
    | passRedeemExit => exact hs.keeps Site.exitRedeem_keeps
    | passRedeem holdId => exact passRedeem_guarded hs hredeems
    | _ => cases hplan

/-- **An event** that is careful keeps the site guarded. -/
theorem StoreEvent.guarded {e : StoreEvent} (hs : s.Guarded) (he : e.Admissible)
    (hc : Careful settings s e) : (e.exec settings s).Guarded := by
  cases e with
  | request organization key stripeId r =>
    unfold StoreEvent.exec
    dsimp only
    cases horg : s.state.db.organizations.get? organization with
    | none => exact hs
    | some o =>
      obtain ⟨hbuys, hlands, hredeems⟩ := hc o horg
      exact StoreRequest.handle_guarded hs hbuys hlands hredeems
  | paid stripeId buyerEmail buyerName paymentIntent => exact Site.paid_guarded hs hc
  | other op =>
    have hlinks := @exec_links op s.state he
    exact hs.keeps ⟨hlinks.orders, (congrArg Table.nextId hlinks.guests).ge, rfl, fun _ _ => id,
      fun _ _ => id, fun _ => id⟩

/-- The opening site is guarded. -/
theorem Site.Opening.guarded (h : s.Opening) : s.Guarded where
  linked o ho pk hguest := by
    obtain ⟨g, hg, rfl⟩ := h.linked o ho pk hguest
    exact s.state.db.guests.fresh g hg
  known key pk hin := by
    rw [h.signedOut key] at hin
    cases hin
  entitled key pk hin := by
    rw [h.signedOut key] at hin
    cases hin

/-- **Portal access.** In every run of requests of any sessions in which every event is careful,
    a session that is signed in to an account has presented a token that was minted for it, or has
    placed every order of the account itself. -/
theorem portal_access {guest : GuestAccount}
    (h : Reachable ((storefront settings).restrict (Careful settings)) s) {n : Nat}
    (hguest : (getCurrentGuest s.state.db.guests n (s.sessions key)).1 = some guest) :
    s.TokenPresented key guest.id ∨ s.PlacedAll key guest.id := by
  have hguarded : s.Guarded := by
    refine h.invariant (fun s hs => hs.guarded) fun u e v hu hstep => ?_
    obtain ⟨⟨hadmissible, rfl⟩, hcareful⟩ := hstep
    exact StoreEvent.guarded hu hadmissible hcareful
  exact hguarded.entitled key guest.id (getCurrentGuest_some hguest).1

end Requests

/-! ### A theater that cannot charge yet -/

/-- The settings of the sample. -/
def sampleSettings : StoreSettings where
  enableTestCheckout := false
  emailDeliveryConfigured := true
  fees := ⟨0, 0⟩

/-- The sample theater before it has finished its onboarding at Stripe. -/
def openingSite : Site where
  state := { sampleState with db := { sampleDb with
    organizations := Table.empty.insert fun id =>
      Organization.mk id "Playhouse" "USD" "" false none } }
  sessions _ := .new
  minted := []
  mailed := []
  stripe := []
  placedBy _ := none

/-- The sample site is an opening site. -/
theorem openingSite_opening : openingSite.Opening :=
  ⟨fun _ => rfl, fun _ ho => absurd ho List.not_mem_nil⟩

/-- The simulated payment of a pass. -/
def buyPass (key name email : String) : StoreEvent :=
  .request 1 key "" (.passStub 1 ⟨name, email, false, "stub-1"⟩)

/-- Ada has bought a pass. -/
def passBought : Site := (buyPass "ada" "Ada" "ada@example.com").exec sampleSettings openingSite

/-- The token in the link that Ada then asks for. -/
def adasToken : LoginToken := ⟨1, 1, 0⟩

/-- Ada asks for a link on her phone. -/
def askForLink : StoreEvent :=
  .request 1 "phone" "" (.guestRequestLink (some "ada@example.com") false)

/-- Ada follows the link on her phone. -/
def followLink : StoreEvent := .request 1 "phone" "" (.guestVerify adasToken)

/-- Ada is signed in on her phone. -/
def linkFollowed : Site :=
  followLink.exec sampleSettings (askForLink.exec sampleSettings passBought)

/-- Eve has bought a pass as well, with the address of Ada. -/
def addressTyped : Site := (buyPass "eve" "Eve" " ADA@example.com").exec sampleSettings passBought

/-- Buying the first pass is careful. -/
theorem passBought_careful : Careful sampleSettings openingSite
    (buyPass "ada" "Ada" "ada@example.com") := by
  rintro o ⟨⟩
  refine ⟨fun pk h => ?_, fun pk h => ?_, fun pk h => ?_⟩ <;> cases h

/-- The site after it is reachable. -/
theorem passBought_reachable :
    Reachable ((storefront sampleSettings).restrict (Careful sampleSettings)) passBought :=
  (Reachable.of_init openingSite_opening).step (i := buyPass "ada" "Ada" "ada@example.com")
    ⟨⟨trivial, rfl⟩, passBought_careful⟩

/-- So is the site after the link was followed. -/
theorem linkFollowed_reachable :
    Reachable ((storefront sampleSettings).restrict (Careful sampleSettings)) linkFollowed := by
  refine (passBought_reachable.step (i := askForLink) ⟨⟨trivial, rfl⟩, ?_⟩).step
    (i := followLink) ⟨⟨trivial, rfl⟩, ?_⟩
  · rintro o -
    refine ⟨fun pk h => ?_, fun pk h => ?_, fun pk h => ?_⟩ <;> cases h
  · rintro o -
    refine ⟨fun pk h => ?_, fun pk h => ?_, fun pk h => ?_⟩ <;> cases h

/-- Ada follows her link on the phone. -/
theorem portal_access_phone : ∃ guest,
    (getCurrentGuest linkFollowed.state.db.guests 1 (linkFollowed.sessions "phone")).1
      = some guest ∧
      guest.email = "ada@example.com" ∧
      (linkFollowed.TokenPresented "phone" guest.id ∨ linkFollowed.PlacedAll "phone" guest.id) :=
  ⟨⟨1, 1, "ada@example.com", "Ada", false, none⟩, by decide, rfl,
    portal_access linkFollowed_reachable (n := 1) (by decide)⟩

/-- **An address is no proof.** Eve has typed the address of Ada into a purchase of her own. -/
theorem address_is_no_proof : ∃ s, Reachable (storefront sampleSettings) s ∧ ∃ guest,
    (getCurrentGuest s.state.db.guests 1 (s.sessions "eve")).1 = some guest ∧
      (s.sessions "eve").presented = [] ∧
      (∃ o ∈ s.state.db.orders.rows, o.guest = some guest.id ∧ s.placedBy o.id = some "ada") ∧
      ¬s.Entitled "eve" guest.id := by
  have hreach : Reachable (storefront sampleSettings) addressTyped :=
    passBought_reachable.of_restrict.step (i := buyPass "eve" "Eve" " ADA@example.com")
      ⟨trivial, rfl⟩
  have horder : ∃ o ∈ addressTyped.state.db.orders.rows,
      o.guest = some 1 ∧ addressTyped.placedBy o.id = some "ada" := by decide +kernel
  have hnone : (addressTyped.sessions "eve").presented = [] := by decide +kernel
  refine ⟨addressTyped, hreach, ⟨1, 1, "ada@example.com", "Ada", false, none⟩,
    by decide +kernel, hnone, horder, ?_⟩
  rintro (⟨token, hmem, -⟩ | hplaced)
  · rw [hnone] at hmem
    exact absurd hmem List.not_mem_nil
  -- The order of Ada is one that Eve has not placed.
  · obtain ⟨o, ho, hguest, hby⟩ := horder
    rw [hplaced o ho hguest] at hby
    exact absurd hby (by decide)

end BoxOffice

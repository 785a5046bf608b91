import BoxOffice.Guests.Joining

namespace BoxOffice

open Relational Transition

/-!
# Guests — access follows proof of the address

A session is `Entitled` to an account when a sign-in token of the account was presented on it, or
when it has placed every order of the account itself.

* `Careful` — a purchase with the address of an account that is there already finds its session
  entitled, and no other session in that account without a token;
* `Site.Guarded` — every session is entitled to the account it is signed in to;
* `Site.Guarded.signIn`, `Site.Guarded.place` — letting a session in and placing an order keep it.
-/

/-- A token that was minted for the account has signed the session in. -/
def Site.TokenPresented (s : Site) (key : String) (pk : Nat) : Prop :=
  ∃ token ∈ (s.sessions key).presented, token.gid = pk ∧ token ∈ s.minted

/-- Every order of the account was placed from the session. -/
def Site.PlacedAll (s : Site) (key : String) (pk : Nat) : Prop :=
  ∀ o ∈ s.state.db.orders.rows, o.guest = some pk → s.placedBy o.id = some key

/-- The session may see the account. -/
def Site.Entitled (s : Site) (key : String) (pk : Nat) : Prop :=
  s.TokenPresented key pk ∨ s.PlacedAll key pk

/-- Nobody else is signed in to the account without a token. -/
def Site.Alone (s : Site) (key : String) (pk : Nat) : Prop :=
  ∀ other, other ≠ key → (s.sessions other).guestId = some pk → s.TokenPresented other pk

/-! ### The condition -/

/-- The account that has the address a purchase is about to be made with. -/
def Site.buysFor (settings : StoreSettings) (s : Site) (organization : Organization) (key : String)
    (r : StoreRequest) : Option Nat :=
  match r.plan settings s.state organization key with
  | some (.fulfill _ args) => accountKey s.state.db organization.id args.buyerEmail
  | _ => none

/-- The account of the order that a Stripe landing finds. -/
def Site.landsIn (s : Site) (organization : Organization) : StoreRequest → Option Nat
  | .checkoutSuccess sessionId =>
    (existingOrder s.state.db organization.id sessionId).bind (·.guest)
  | _ => none

/-- The account that a redemption is made from. -/
def Site.redeemsFrom (s : Site) (key : String) : StoreRequest → Option Nat
  | .passRedeem _ => (s.sessions key).guestId
  | _ => none

/-- The session a Checkout Session was made for, and the account that has the address it was paid
    with, as long as it has no order. -/
def Site.paysFor (s : Site) (stripeId buyerEmail : String) : Option (String × Nat) :=
  (s.stripe.find? fun x => x.id == stripeId).bind fun x =>
    (orgForAccount s.state.db (some x.request.stripeAccount)).bind fun organization =>
      match existingOrder s.state.db organization.id stripeId with
      | some _ => none
      | none => (accountKey s.state.db organization.id buyerEmail).map fun pk => (x.key, pk)

/-- **The condition.** An event that would let a session into an account finds it entitled, and an
    event that would add an order to an account finds nobody else in it without a token. -/
def Careful (settings : StoreSettings) (s : Site) : StoreEvent → Prop
  | .request organization key _ r =>
    ∀ o ∈ s.state.db.organizations.get? organization,
      (∀ pk, s.buysFor settings o key r = some pk → s.Entitled key pk ∧ s.Alone key pk) ∧
      (∀ pk, s.landsIn o r = some pk → s.Entitled key pk) ∧
      ∀ pk, s.redeemsFrom key r = some pk → s.Alone key pk
  | .paid stripeId buyerEmail _ _ =>
    ∀ key pk, s.paysFor stripeId buyerEmail = some (key, pk) → s.Alone key pk
  | .other _ => True

/-! ### The invariant -/

/-- Every session is entitled to the account it is signed in to, and accounts that are named
    exist. -/
structure Site.Guarded (s : Site) : Prop where
  linked : ∀ o ∈ s.state.db.orders.rows, ∀ pk, o.guest = some pk → pk < s.state.db.guests.nextId
  known : ∀ key pk, (s.sessions key).guestId = some pk → pk < s.state.db.guests.nextId
  entitled : ∀ key pk, (s.sessions key).guestId = some pk → s.Entitled key pk

/-- No order is added and nobody is let in. -/
structure Site.Keeps (s s' : Site) : Prop where
  orders : ∀ o' ∈ s'.state.db.orders.rows, ∃ o ∈ s.state.db.orders.rows,
    o.id = o'.id ∧ o.guest = o'.guest
  guests : s.state.db.guests.nextId ≤ s'.state.db.guests.nextId
  placedBy : s'.placedBy = s.placedBy
  signedIn : ∀ key pk, (s'.sessions key).guestId = some pk → (s.sessions key).guestId = some pk
  presented : ∀ key, ∀ token ∈ (s.sessions key).presented, token ∈ (s'.sessions key).presented
  minted : ∀ token ∈ s.minted, token ∈ s'.minted

section Guard

variable {s s' : Site} {key stripeId : String} {pk : Nat} {db : Db} {order : Order}
  {account : Option Nat} {settings : StoreSettings} {organization : Organization}

/-- A site keeps itself. -/
theorem Site.Keeps.refl (s : Site) : s.Keeps s :=
  ⟨fun o ho => ⟨o, ho, rfl, rfl⟩, le_refl _, rfl, fun _ _ => id, fun _ _ => id, fun _ => id⟩

/-- A token that was presented stays so. -/
theorem Site.TokenPresented.keeps (h : s.TokenPresented key pk) (hk : s.Keeps s') :
    s'.TokenPresented key pk := by
  obtain ⟨token, hmem, hgid, hminted⟩ := h
  exact ⟨token, hk.presented key token hmem, hgid, hk.minted token hminted⟩

/-- An entitled session stays so. -/
theorem Site.Entitled.keeps (h : s.Entitled key pk) (hk : s.Keeps s') : s'.Entitled key pk := by
  rcases h with htoken | hplaced
  · exact .inl (htoken.keeps hk)
  · refine .inr fun o' ho' hguest => ?_
    obtain ⟨o, ho, hid, hsame⟩ := hk.orders o' ho'
    rw [hk.placedBy, ← hid]
    exact hplaced o ho (hsame.trans hguest)

/-- A guarded site stays so. -/
theorem Site.Guarded.keeps (h : s.Guarded) (hk : s.Keeps s') : s'.Guarded where
  linked o' ho' pk hguest := by
    obtain ⟨o, ho, -, hsame⟩ := hk.orders o' ho'
    exact lt_of_lt_of_le (h.linked o ho pk (hsame.trans hguest)) hk.guests
  known key pk hin := lt_of_lt_of_le (h.known key pk (hk.signedIn key pk hin)) hk.guests
  entitled key pk hin := (h.entitled key pk (hk.signedIn key pk hin)).keeps hk

/-! ### One session changes -/

/-- The session that was set. -/
@[simp] theorem setSession_self (s : Site) (key : String) (v : Visitor) :
    (s.setSession key v).sessions key = v := Function.update_self ..

/-- The sessions that were not. -/
@[simp] theorem setSession_of_ne {other : String} (v : Visitor) (h : other ≠ key) :
    (s.setSession key v).sessions other = s.sessions other := Function.update_of_ne h ..

/-- A session that gives nothing up but, perhaps, its sign-in. -/
theorem Site.setSession_keeps {v : Visitor} (hpresented : v.presented = (s.sessions key).presented)
    (hguest : v.guestId = none ∨ v.guestId = (s.sessions key).guestId) :
    s.Keeps (s.setSession key v) where
  orders o ho := ⟨o, ho, rfl, rfl⟩
  guests := le_refl _
  placedBy := rfl
  signedIn other pk hin := by
    by_cases hother : other = key
    · subst hother
      rw [setSession_self] at hin
      -- The session was signed out, or left as it was.
      rcases hguest with hnone | hsame
      · rw [hnone] at hin
        cases hin
      · rwa [← hsame]
    · rwa [setSession_of_ne v hother] at hin
  presented other token hmem := by
    by_cases hother : other = key
    · subst hother
      rwa [setSession_self, hpresented]
    · rwa [setSession_of_ne v hother]
  minted _ := id

/-- **Letting a session in** that is entitled to the account afterwards. -/
theorem Site.Guarded.signIn {v : Visitor} (h : s.Guarded) (hv : v.guestId = some pk)
    (hpk : pk < s.state.db.guests.nextId) (he : (s.setSession key v).Entitled key pk) :
    (s.setSession key v).Guarded where
  linked := h.linked
  known other i hin := by
    by_cases hother : other = key
    · subst hother
      rw [setSession_self, hv] at hin
      rwa [← Option.some.inj hin]
    · rw [setSession_of_ne v hother] at hin
      exact h.known other i hin
  entitled other i hin := by
    by_cases hother : other = key
    · subst hother
      rw [setSession_self, hv] at hin
      rwa [← Option.some.inj hin]
    -- Another session's entitlement rests on its own tokens, or on orders that are all there still.
    · rw [setSession_of_ne v hother] at hin
      rcases h.entitled other i hin with ⟨token, hmem, hgid, hminted⟩ | hplaced
      · exact .inl ⟨token, by rwa [setSession_of_ne v hother], hgid, hminted⟩
      · exact .inr hplaced

/-- Signing in an entitled buyer keeps the site guarded. -/
theorem Site.Guarded.signInBuyer (h : s.Guarded)
    (he : ∀ pk, order.guest = some pk → s.Entitled key pk) :
    (s.signInBuyer key order).Guarded := by
  unfold Site.signInBuyer
  cases hguest : order.guest with
  | none => exact h
  | some pk =>
    rw [Option.bind_some]
    cases hrow : s.state.db.guests.get? pk with
    | none => exact h
    | some guest =>
      obtain ⟨hmem, rfl⟩ := Table.get?_eq_some.mp hrow
      refine h.signIn rfl (s.state.db.guests.fresh guest hmem) ?_
      rcases he guest.id hguest with ⟨token, htoken, hgid, hminted⟩ | hplaced
      · exact .inl ⟨token, by rwa [setSession_self], hgid, hminted⟩
      · exact .inr hplaced

/-! ### An order is placed -/

/-- The orders after a sale: those from before, which are not the new one, and the new one. -/
theorem Joins.mem_orders (hj : Joins s.state.db db account order) {o : Order}
    (ho : o ∈ db.orders.rows) :
    (o ∈ s.state.db.orders.rows ∧ o.id ≠ order.id) ∨ o = order := by
  obtain ⟨mk, hk, horders, rfl⟩ := hj.orders
  rw [horders] at ho
  rcases Table.mem_insert.mp ho with hmem | rfl
  · refine .inl ⟨hmem, ?_⟩
    rw [show (mk s.state.db.orders.nextId).id = s.state.db.orders.nextId from hk _]
    exact (s.state.db.orders.fresh o hmem).ne
  · exact .inr rfl

/-- The order was placed from the session. -/
theorem Site.place_placedBy (s : Site) (db : Db) (key : String) (order : Order) :
    (s.place db key order).placedBy order.id = some key := Function.update_self ..

/-- The other orders were placed from where they were. -/
theorem Site.place_placedBy_of_ne (s : Site) (db : Db) (key : String) {order : Order} {i : Nat}
    (h : i ≠ order.id) : (s.place db key order).placedBy i = s.placedBy i :=
  Function.update_of_ne h ..

/-- The session that places an order stays entitled. -/
theorem Site.PlacedAll.place (hj : Joins s.state.db db account order) (h : s.PlacedAll key pk) :
    (s.place db key order).PlacedAll key pk := by
  intro o ho hguest
  rcases hj.mem_orders ho with ⟨hmem, hne⟩ | rfl
  · rw [s.place_placedBy_of_ne db key hne]
    exact h o hmem hguest
  · exact s.place_placedBy db key o

/-- A new account has one order, and its session has placed it. -/
theorem Joins.placedAll_new (hj : Joins s.state.db db account order) (hs : s.Guarded) :
    (s.place db key order).PlacedAll key s.state.db.guests.nextId := by
  intro o ho hguest
  rcases hj.mem_orders ho with ⟨hmem, -⟩ | rfl
  -- An earlier order cannot name an account that is only now made.
  · exact absurd (hs.linked o hmem _ hguest) (lt_irrefl _)
  · exact s.place_placedBy db key o

/-- The session is entitled to the account its order was linked to. -/
theorem Joins.entitled (hj : Joins s.state.db db account order) (hs : s.Guarded)
    (he : ∀ pk, account = some pk → s.Entitled key pk) (hguest : order.guest = some pk) :
    (s.place db key order).Entitled key pk := by
  rcases hj.guest pk hguest with haccount | rfl
  · rcases he pk haccount with htoken | hplaced
    · exact .inl htoken
    · exact .inr (hplaced.place hj)
  · exact .inr (hj.placedAll_new hs)

/-- **Placing an order** where nobody else is in its account without a token. -/
theorem Site.Guarded.place (hs : s.Guarded) (hj : Joins s.state.db db account order)
    (halone : ∀ pk, account = some pk → s.Alone key pk) : (s.place db key order).Guarded where
  linked o ho pk hguest := by
    rcases hj.mem_orders ho with ⟨hmem, -⟩ | rfl
    · exact lt_of_lt_of_le (hs.linked o hmem pk hguest) hj.guests
    · exact hj.known pk hguest
  known other pk hin := lt_of_lt_of_le (hs.known other pk hin) hj.guests
  entitled other pk hin := by
    rcases hs.entitled other pk hin with htoken | hplaced
    · exact .inl htoken
    · by_cases hother : other = key
      · exact .inr (hother ▸ hplaced.place hj)
      -- Another session in the account the order joins: it has a token, or the account is new.
      · by_cases hguest : order.guest = some pk
        · rcases hj.guest pk hguest with haccount | rfl
          · exact .inl (halone pk haccount other hother hin)
          · exact absurd (hs.known other _ hin) (lt_irrefl _)
        · -- The new order is somebody else's.
          refine .inr fun o ho hlinked => ?_
          rcases hj.mem_orders ho with ⟨hmem, hne⟩ | rfl
          · rw [s.place_placedBy_of_ne db key hne]
            exact hplaced o hmem hlinked
          · exact absurd hlinked hguest

end Guard

end BoxOffice

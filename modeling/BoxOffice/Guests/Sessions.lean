import BoxOffice.Guests

namespace BoxOffice

open Relational

/-!
# Guests — sessions and sign-in links

`guests.services` and the sign-in half of `guests.tokens`.  A guest is signed in by two values in
the browser session and nothing else; `getCurrentGuest` is the one place that reads them.

A `LoginToken` is what a signed token says.  Signatures are not modelled: a token verifies when it
is one of those the site has minted.
-/

/-- A sign-in token: the account, its theater, and when it was minted, in seconds. -/
structure LoginToken where
  gid : Nat
  org : Nat
  timestamp : Nat
deriving Repr, DecidableEq

/-- `make_login_token`. -/
def makeLoginToken (guest : GuestAccount) (now : Time) : LoginToken :=
  ⟨guest.id, guest.organization, now / 1000000⟩

/-- `DEFAULT_MAX_AGE_SECONDS`. -/
def maxTokenAge : Time := 24 * 60 * 60 * 1000000

/-- `read_login_token`, where `minted` are the tokens that carry a valid signature. -/
def readLoginToken (minted : List LoginToken) (now : Time) (token : LoginToken)
    (organization : Nat) : Option Nat :=
  if token ∉ minted then none
  else if token.timestamp * 1000000 + maxTokenAge < now then none
  else if token.org ≠ organization then none
  else some token.gid

/-- What a browser session holds: the two values of the sign-in, the pass it redeems with, and a
    record of the tokens that have signed it in. -/
structure Visitor where
  guestId : Option Nat
  guestOrg : Option Nat
  redeemingPass : Option Nat
  presented : List LoginToken
deriving Repr, DecidableEq

/-- A new session. -/
def Visitor.new : Visitor := ⟨none, none, none, []⟩

/-- `login_guest`. -/
def loginGuest (guest : GuestAccount) (v : Visitor) : Visitor :=
  { v with guestId := some guest.id, guestOrg := some guest.organization }

/-- `logout_guest`. -/
def logoutGuest (v : Visitor) : Visitor := { v with guestId := none, guestOrg := none }

/-- The account of a theater with that key. -/
def guestOf (guests : Table GuestAccount) (organization pk : Nat) : Option GuestAccount :=
  guests.rows.find? fun g => g.organization == organization && g.id == pk

/-- The account of a theater with that address. -/
def accountOf (guests : Table GuestAccount) (organization : Nat) (email : String) :
    Option GuestAccount :=
  guests.rows.find? fun g => g.organization == organization && g.email == normalizeEmail email

/-- `get_current_guest`: the account, and the session, which forgets an account that is gone. -/
def getCurrentGuest (guests : Table GuestAccount) (organization : Nat) (v : Visitor) :
    Option GuestAccount × Visitor :=
  match v.guestId with
  | none => (none, v)
  | some pk =>
    if pk ≠ 0 ∧ v.guestOrg = some organization then
      match guestOf guests organization pk with
      | some guest => (some guest, v)
      | none => (none, logoutGuest v)
    else (none, v)

section Spec

variable {guests : Table GuestAccount} {organization pk : Nat} {v : Visitor} {guest : GuestAccount}

/-- The guest that is found is the organization's, with that key. -/
theorem guestOf_some (h : guestOf guests organization pk = some guest) :
    guest ∈ guests.rows ∧ guest.organization = organization ∧ guest.id = pk := by
  have hp := List.find?_some h
  rw [Bool.and_eq_true, beq_iff_eq, beq_iff_eq] at hp
  exact ⟨List.mem_of_find?_eq_some h, hp⟩

/-- The account that is found is the organization's, with that address. -/
theorem accountOf_some {email : String} (h : accountOf guests organization email = some guest) :
    guest ∈ guests.rows ∧ guest.organization = organization ∧
      guest.email = normalizeEmail email := by
  have hp := List.find?_some h
  rw [Bool.and_eq_true, beq_iff_eq, beq_iff_eq] at hp
  exact ⟨List.mem_of_find?_eq_some h, hp⟩

/-- The current guest is the account whose key the session holds. -/
theorem getCurrentGuest_some (h : (getCurrentGuest guests organization v).1 = some guest) :
    v.guestId = some guest.id ∧ guest ∈ guests.rows := by
  unfold getCurrentGuest at h
  cases hid : v.guestId with
  | none =>
    rw [hid] at h
    cases h
  | some pk =>
    rw [hid] at h
    dsimp only at h
    split_ifs at h with hhere
    cases hguest : guestOf guests organization pk with
    | none =>
      rw [hguest] at h
      cases h
    | some found =>
      rw [hguest] at h
      cases h
      obtain ⟨hmem, -, rfl⟩ := guestOf_some hguest
      exact ⟨rfl, hmem⟩

/-- Asking for the current guest signs nobody in. -/
theorem getCurrentGuest_visitor :
    (getCurrentGuest guests organization v).2 = v ∨
      (getCurrentGuest guests organization v).2 = logoutGuest v := by
  unfold getCurrentGuest
  split
  · exact .inl rfl
  · split_ifs
    · split
      · exact .inl rfl
      · exact .inr rfl
    · exact .inl rfl

/-! ### The account of a purchase -/

/-- Recording consent adds no account. -/
theorem recordMarketingOptIn_nextId (guests : Table GuestAccount) (guest : Option GuestAccount)
    (now : Time) : (recordMarketingOptIn guests guest now).nextId = guests.nextId := by
  unfold recordMarketingOptIn
  split
  · rfl
  · split_ifs <;> rfl

/-- **Getting or creating.** The account of the address, or a new one; a blank address has
    none. -/
theorem getOrCreateForEmail_cases {email name : String} {guests' : Table GuestAccount}
    {found : Option GuestAccount}
    (h : getOrCreateForEmail guests organization email name = (guests', found)) :
    guests.nextId ≤ guests'.nextId ∧
      (found = none ∨
        (∃ g, found = some g ∧ ∃ old, accountOf guests organization email = some old ∧
          old.id = g.id) ∨
        ∃ g, found = some g ∧ g.id = guests.nextId ∧ guests'.nextId = guests.nextId + 1) := by
  unfold getOrCreateForEmail at h
  dsimp only at h
  split_ifs at h with hblank
  · obtain ⟨rfl, rfl⟩ := Prod.mk.inj h
    exact ⟨le_refl _, .inl rfl⟩
  · -- The lookup of the function is `accountOf`.
    change (match accountOf guests organization email with
      | some guest => _
      | none => _) = _ at h
    cases haccount : accountOf guests organization email with
    | some old =>
      -- With or without a name to fill in, it is the row of `old`.
      rw [haccount] at h
      dsimp only at h
      split_ifs at h
      · obtain ⟨rfl, rfl⟩ := Prod.mk.inj h
        exact ⟨le_refl _, .inr (.inl ⟨_, rfl, old, rfl, rfl⟩)⟩
      · obtain ⟨rfl, rfl⟩ := Prod.mk.inj h
        exact ⟨le_refl _, .inr (.inl ⟨_, rfl, old, rfl, rfl⟩)⟩
    | none =>
      rw [haccount] at h
      obtain ⟨rfl, rfl⟩ := Prod.mk.inj h
      exact ⟨Nat.le_succ _, .inr (.inr ⟨_, rfl, rfl, rfl⟩)⟩

/-- **Attaching** gets or creates the account, and may record a consent on it. -/
theorem attachGuest_cases {email name : String} {marketingOptIn : Bool} {now : Time}
    {guests' : Table GuestAccount} {found : Option GuestAccount}
    (h : attachGuest guests organization email name marketingOptIn now = (guests', found)) :
    guests.nextId ≤ guests'.nextId ∧
      (found = none ∨
        (∃ g, found = some g ∧ ∃ old, accountOf guests organization email = some old ∧
          old.id = g.id) ∨
        ∃ g, found = some g ∧ g.id = guests.nextId ∧ guests'.nextId = guests.nextId + 1) := by
  unfold attachGuest at h
  rcases hcreate : getOrCreateForEmail guests organization email name with ⟨table, g⟩
  rw [hcreate] at h
  obtain ⟨rfl, rfl⟩ := Prod.mk.inj h
  have hconsent : (if marketingOptIn = true then recordMarketingOptIn table g now
      else table).nextId = table.nextId := by
    split_ifs
    · exact recordMarketingOptIn_nextId table g now
    · rfl
  rw [hconsent]
  exact getOrCreateForEmail_cases hcreate

end Spec

end BoxOffice

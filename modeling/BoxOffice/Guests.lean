import BoxOffice.Money

namespace BoxOffice

open Relational

/-!
# Guests — the buyer accounts that fulfilment attaches to an order

These functions act on the guest table alone, so every caller's effect on the other tables is
visible in its own text.
-/

/-- `normalize_email`. -/
def normalizeEmail (email : String) : String := Python.lower (strip email)

/-- `GuestAccountManager.get_or_create_for_email`. -/
def getOrCreateForEmail (guests : Table GuestAccount) (organization : Nat) (email name : String) :
    Table GuestAccount × Option GuestAccount :=
  let normalized := normalizeEmail email
  if normalized = "" then (guests, none)
  else
    match guests.rows.find? (fun g => g.organization == organization && g.email == normalized) with
    | some guest =>
      if strip name ≠ "" ∧ guest.name = "" then
        (guests.update (fun g => g.id == guest.id) (fun g => { g with name := strip name }),
          some { guest with name := strip name })
      else (guests, some guest)
    | none =>
      let mk := fun i : Nat =>
        ({ id := i, organization := organization, email := normalized, name := strip name,
           marketingOptIn := false, marketingOptInAt := none } : GuestAccount)
      (guests.insert mk, some (mk guests.nextId))

/-- `record_marketing_opt_in`: one-way consent, stamped the first time. -/
def recordMarketingOptIn (guests : Table GuestAccount) (guest : Option GuestAccount) (now : Time) :
    Table GuestAccount :=
  match guest with
  | none => guests
  | some g =>
    if g.marketingOptIn then guests
    else guests.update (fun r => r.id == g.id)
      (fun r => { r with marketingOptIn := true, marketingOptInAt := some now })

/-- `set_marketing_opt_in`: the two-way setter, which reads the object its caller loaded.  Opting
    out keeps the stamp. -/
def setMarketingOptIn (guests : Table GuestAccount) (guest : Option GuestAccount) (optedIn : Bool)
    (now : Time) : Table GuestAccount :=
  match guest with
  | none => guests
  | some g =>
    if optedIn then
      if g.marketingOptIn then guests
      else guests.update (fun r => r.id == g.id)
        (fun r => { r with marketingOptIn := true, marketingOptInAt := some now })
    else
      if !g.marketingOptIn then guests
      else guests.update (fun r => r.id == g.id) (fun r => { r with marketingOptIn := false })

/-- The guest an order is attached to, with the buyer's consent recorded when given. -/
def attachGuest (guests : Table GuestAccount) (organization : Nat) (email name : String)
    (marketingOptIn : Bool) (now : Time) : Table GuestAccount × Option GuestAccount :=
  let (guests, guest) := getOrCreateForEmail guests organization email name
  (if marketingOptIn then recordMarketingOptIn guests guest now else guests, guest)

end BoxOffice

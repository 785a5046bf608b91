import BoxOffice.Guests.Joining
import Mathlib.Data.List.Induction

namespace BoxOffice

open Relational

/-!
# Guests — marketing consent

Everything that writes `marketing_opt_in` and `marketing_opt_in_at`: the fulfilments with the box
ticked, the portal's preferences, the unsubscribe link, and the staff's form of `audience_detail`,
which saves the whole row that it loaded.

* `CrmEvent.chosen` — what a guest chose by an event, and `Consent.choose` what should become of
  the two columns;
* `Rewrites` — what an event does to the columns of every row (`exec_rewrites`);
* `consent_as_asked` — a run keeps the columns as its guests asked exactly when no form saves
  columns that have changed since, and nobody opts in a second time.
-/

/-! ### Writers -/

/-- The state of the theater's database, with the staff's columns of each guest apart, and the
    rows that requests of `audience_detail` have loaded and not saved yet. -/
structure Crm where
  office : State
  tagsNotes : Nat → String × String
  forms : List GuestAccount

/-- What happens to consent, and anything else at the theater. -/
inductive CrmEvent
  | office (op : Op)
  | preferences (organization : Nat) (visitor : Visitor) (marketingOptIn : Option String)
  /-- `token` is the guest that the link's token names for this theater. -/
  | unsubscribe (organization : Nat) (token : Option Nat) (post : Bool) (action : Option String)
  | audienceLoad (organization pk : Nat)
  | audienceSave (form : Nat) (tags notes : String)

def Crm.guests (s : Crm) : Table GuestAccount := s.office.db.guests

def Crm.withGuests (s : Crm) (guests : Table GuestAccount) : Crm :=
  { s with office := { s.office with db := { s.office.db with guests := guests } } }

/-- The value of the preference that a form posts. -/
def postedOptIn (marketingOptIn : Option String) : Bool :=
  marketingOptIn ∈ [some "on", some "1", some "true"]

/-- `guest_unsubscribe`: a one-click POST and a visit opt out, the button opts back in. -/
def resubscribes (post : Bool) (action : Option String) : Bool :=
  post && action == some "resubscribe"

/-- `GuestTagsNotesForm.is_valid`. -/
def tagsNotesValid (tags notes : String) : Bool :=
  (strip tags).length ≤ 255 && !(tags.toList ++ notes.toList).contains (Char.ofNat 0)

/-- `form.save()` of `GuestTagsNotesForm`: every column of the instance. -/
def saveInstance (guests : Table GuestAccount) (loaded : GuestAccount) : Table GuestAccount :=
  guests.update (fun r => r.id == loaded.id) fun r => { loaded with id := r.id }

/-- Carry an event out. -/
def CrmEvent.exec (e : CrmEvent) (s : Crm) : Crm :=
  match e with
  | .office op => { s with office := BoxOffice.exec op s.office }
  | .preferences organization visitor marketingOptIn =>
    s.withGuests (setMarketingOptIn s.guests (getCurrentGuest s.guests organization visitor).1
      (postedOptIn marketingOptIn) s.office.now)
  | .unsubscribe organization token post action =>
    s.withGuests (setMarketingOptIn s.guests (token.bind (guestOf s.guests organization))
      (resubscribes post action) s.office.now)
  | .audienceLoad organization pk =>
    { s with forms := s.forms ++ (guestOf s.guests organization pk).toList }
  | .audienceSave form tags notes =>
    match s.forms[form]? with
    | none => s
    | some loaded =>
      let s := { s with forms := s.forms.eraseIdx form }
      if tagsNotesValid tags notes then
        { s.withGuests (saveInstance s.guests loaded) with
          tagsNotes := Function.update s.tagsNotes loaded.id (strip tags, strip notes) }
      else s

/-! ### What guests choose -/

/-- The two columns. -/
structure Consent where
  optedIn : Bool
  since : Option Time
deriving Repr, DecidableEq

/-- Before any choice. -/
def Consent.unasked : Consent := ⟨false, none⟩

/-- What a choice should make of the columns. -/
def Consent.choose (now : Time) (k : Consent) : Bool → Consent
  | true => ⟨true, some (k.since.getD now)⟩
  | false => ⟨false, k.since⟩

/-- The columns of a row. -/
def GuestAccount.consent (g : GuestAccount) : Consent := ⟨g.marketingOptIn, g.marketingOptInAt⟩

/-- The result of a purchase that goes through, when its box is ticked. -/
def tickedSale (op : Op) (s : State) : Option (Db × Order) :=
  match op with
  | .fulfillHold hold args =>
    if args.marketingOptIn then (fulfillHold s.db s.now hold args).toOption else none
  | .fulfillHoldWithPass hold passPurchase buyerEmail buyerName marketingOptIn =>
    if marketingOptIn then
      (fulfillHoldWithPass s.db s.now hold passPurchase buyerEmail buyerName
        marketingOptIn).toOption
    else none
  | .fulfillDonation organization amount campaign args =>
    if args.marketingOptIn then
      (fulfillDonation s.db s.now organization amount campaign args).toOption
    else none
  | .fulfillPassPurchase organization product args =>
    if args.marketingOptIn then
      (findProduct s.db organization product).bind fun p =>
        (fulfillPassPurchase s.db s.now organization p args).toOption
    else none
  | .fulfillCheckoutSession organization session =>
    if session.marketingOptIn then
      -- A session that was delivered before sells nothing again.
      match fulfillCheckoutSession s.db s.now organization session with
      | .ok (db, order, true) => some (db, order)
      | _ => none
    else none
  | _ => none

/-- The row of the guest that an order is linked to. -/
def linkedGuest (db : Db) (order : Order) : Option GuestAccount :=
  order.guest.bind db.guests.get?

/-- The guest of a ticked sale, who opts in. -/
def saleChosen (sale : Option (Db × Order)) : Option (Nat × Bool) :=
  sale.bind fun (db, order) => (linkedGuest db order).map fun g => (g.id, true)

/-- The guest who makes an effective choice by an event, and the choice. -/
def CrmEvent.chosen (e : CrmEvent) (s : Crm) : Option (Nat × Bool) :=
  match e with
  | .office op => saleChosen (tickedSale op s.office)
  | .preferences organization visitor marketingOptIn =>
    (getCurrentGuest s.guests organization visitor).1.map fun g =>
      (g.id, postedOptIn marketingOptIn)
  | .unsubscribe organization token post action =>
    (token.bind (guestOf s.guests organization)).map fun g => (g.id, resubscribes post action)
  | .audienceLoad .. => none
  | .audienceSave .. => none

/-- The columns of a guest, after somebody's choice. -/
def choiceFor (chosen : Option (Nat × Bool)) (f : Consent → Bool → Consent) (pk : Nat)
    (k : Consent) : Consent :=
  match chosen with
  | some (g, choice) => if g = pk then f k choice else k
  | none => k

/-- A run with the columns that its guests asked for. -/
structure Asked where
  crm : Crm
  consents : Nat → Consent

def CrmEvent.next (s : Asked) (e : CrmEvent) : Asked where
  crm := e.exec s.crm
  consents pk := choiceFor (e.chosen s.crm) (Consent.choose s.crm.office.now) pk (s.consents pk)

/-- Events in turn. -/
def Asked.run (s : Asked) (es : List CrmEvent) : Asked := es.foldl CrmEvent.next s

/-- The beginning: no guest, and no form open. -/
structure Asked.Opening (s : Asked) : Prop where
  guests : s.crm.guests.rows = []
  forms : s.crm.forms = []
  consents : s.consents = fun _ => .unasked

/-- Every row has the columns that its guest asked for. -/
def Asked.AsAsked (s : Asked) : Prop := ∀ g ∈ s.crm.guests.rows, g.consent = s.consents g.id

/-- An event that writes no other columns: a form that is saved was loaded with the columns of
    the row, and who opts in either is opted in, or never was. -/
structure CrmEvent.Careful (e : CrmEvent) (s : Crm) : Prop where
  save : ∀ form tags notes loaded, e = .audienceSave form tags notes →
    tagsNotesValid tags notes = true → s.forms[form]? = some loaded →
    ∀ g ∈ s.guests.rows, g.id = loaded.id → loaded.consent = g.consent
  optIn : ∀ pk, e.chosen s = some (pk, true) → ∀ g ∈ s.guests.rows, g.id = pk →
    g.marketingOptIn = true ∨ g.marketingOptInAt = none ∨
      g.marketingOptInAt = some s.office.now

/-! ### What is written -/

/-- What the setters make of the columns. -/
def Consent.write (now : Time) (k : Consent) : Bool → Consent
  | true => if k.optedIn then k else ⟨true, some now⟩
  | false => ⟨false, k.since⟩

/-- Somebody's choice is written to the columns of that guest, and of no other. -/
structure Rewrites (guests guests' : Table GuestAccount) (chosen : Option (Nat × Bool))
    (now : Time) : Prop where
  kept : ∀ g ∈ guests.rows, ∃ g' ∈ guests'.rows, g'.id = g.id ∧
    g'.consent = choiceFor chosen (Consent.write now) g.id g.consent
  new : ∀ g' ∈ guests'.rows, (∃ g ∈ guests.rows, g.id = g'.id) ∨
    guests.nextId ≤ g'.id ∧ g'.consent = choiceFor chosen (Consent.write now) g'.id .unasked
  next : guests.nextId ≤ guests'.nextId
  known : ∀ pk choice, chosen = some (pk, choice) → pk < guests'.nextId

section Tables

variable {guests guests' guests'' : Table GuestAccount} {chosen : Option (Nat × Bool)}
  {now : Time}

/-- No account was rewritten. -/
theorem Rewrites.refl (guests : Table GuestAccount) (now : Time) :
    Rewrites guests guests none now :=
  ⟨fun g hg => ⟨g, hg, rfl, rfl⟩, fun g hg => .inl ⟨g, hg, rfl⟩, le_refl _, nofun⟩

/-- What changes no consent may come first. -/
theorem Rewrites.after (h : Rewrites guests' guests'' chosen now)
    (h₀ : Rewrites guests guests' none now) : Rewrites guests guests'' chosen now where
  kept g hg := by
    obtain ⟨g', hg', hid, hconsent⟩ := h₀.kept g hg
    obtain ⟨g'', hg'', hid', hconsent'⟩ := h.kept g' hg'
    refine ⟨g'', hg'', hid'.trans hid, ?_⟩
    rw [hconsent', hid, hconsent]
    rfl
  new g'' hg'' := by
    rcases h.new g'' hg'' with ⟨g', hg', hid⟩ | ⟨hnew, hconsent⟩
    · rcases h₀.new g' hg' with ⟨g, hg, hid'⟩ | ⟨hnew, hconsent⟩
      · exact .inl ⟨g, hg, hid'.trans hid⟩
      · refine .inr ⟨hid ▸ hnew, ?_⟩
        obtain ⟨r, hr, hrid, hrconsent⟩ := h.kept g' hg'
        obtain rfl : r = g'' := Table.eq_of_key_eq hr hg'' (hrid.trans hid)
        rw [hrconsent, hconsent, hid]
        rfl
    · exact .inr ⟨le_trans h₀.next hnew, hconsent⟩
  next := le_trans h₀.next h.next
  known := h.known

/-- A row rewritten in place. -/
theorem Rewrites.of_update {g : GuestAccount} (hg : g ∈ guests.rows) {choice : Bool}
    {f : GuestAccount → GuestAccount} {k} (hf : (f g).consent = g.consent.write now choice) :
    Rewrites guests (guests.update (fun r => r.id == g.id) f k) (some (g.id, choice)) now where
  kept r hr := by
    refine ⟨_, Table.mem_update.mpr ⟨r, hr, rfl⟩, ?_⟩
    by_cases hid : r.id = g.id
    · obtain rfl : r = g := Table.eq_of_key_eq hr hg hid
      have hkey : (f r).id = r.id := k r
      simp [choiceFor, hf, hkey]
    · simp [choiceFor, hid, Ne.symm hid]
  new r' hr' := by
    obtain ⟨r, hr, rfl⟩ := Table.mem_update.mp hr'
    refine .inl ⟨r, hr, ?_⟩
    have hkey : (f r).id = r.id := k r
    split_ifs
    · exact hkey.symm
    · rfl
  next := le_refl _
  known pk c h := by
    obtain ⟨rfl, -⟩ := Prod.mk.inj (Option.some.inj h)
    exact guests.fresh g hg

/-- A setter that finds what it is to set. -/
theorem Rewrites.of_same {g : GuestAccount} (hg : g ∈ guests.rows) {choice : Bool}
    (h : g.consent.write now choice = g.consent) :
    Rewrites guests guests (some (g.id, choice)) now where
  kept r hr := by
    refine ⟨r, hr, rfl, ?_⟩
    by_cases hid : g.id = r.id
    · obtain rfl : g = r := Table.eq_of_key_eq hg hr hid
      simp [choiceFor, h]
    · simp [choiceFor, hid]
  new r hr := .inl ⟨r, hr, rfl⟩
  next := le_refl _
  known pk c h := by
    obtain ⟨rfl, -⟩ := Prod.mk.inj (Option.some.inj h)
    exact guests.fresh g hg

/-- **The setter**, on a row of the table. -/
theorem setMarketingOptIn_rewrites {g : GuestAccount} (hg : g ∈ guests.rows) (choice : Bool)
    (now : Time) :
    Rewrites guests (setMarketingOptIn guests (some g) choice now) (some (g.id, choice)) now := by
  cases choice with
  | true =>
    by_cases hin : g.marketingOptIn = true
    · have hset : setMarketingOptIn guests (some g) true now = guests := by
        simp [setMarketingOptIn, hin]
      rw [hset]
      exact .of_same hg (by simp [Consent.write, GuestAccount.consent, hin])
    · simp only [setMarketingOptIn, hin, if_true, if_false, Bool.false_eq_true]
      refine Rewrites.of_update hg ?_
      simp [Consent.write, GuestAccount.consent, hin]
  | false =>
    by_cases hin : g.marketingOptIn = true
    · simp only [setMarketingOptIn, hin, Bool.not_true, Bool.false_eq_true, if_false]
      exact Rewrites.of_update hg rfl
    · have hset : setMarketingOptIn guests (some g) false now = guests := by
        simp [setMarketingOptIn, hin]
      rw [hset]
      have hout : g.marketingOptIn = false := by simpa using hin
      exact .of_same hg (by simp [Consent.write, GuestAccount.consent, hout])

/-- The checkout's setter is the two-way one, on. -/
theorem recordMarketingOptIn_eq (guests : Table GuestAccount) (guest : Option GuestAccount)
    (now : Time) :
    recordMarketingOptIn guests guest now = setMarketingOptIn guests guest true now := by
  cases guest <;> simp [recordMarketingOptIn, setMarketingOptIn]

/-- A setter, on the row that its caller looked up. -/
theorem setMarketingOptIn_rewrites_option {guest : Option GuestAccount}
    (h : ∀ g, guest = some g → g ∈ guests.rows) (choice : Bool) (now : Time) :
    Rewrites guests (setMarketingOptIn guests guest choice now)
      (guest.map fun g => (g.id, choice)) now := by
  cases guest with
  | none => exact .refl guests now
  | some g => exact setMarketingOptIn_rewrites (h g rfl) choice now

/-- Getting or creating the account of an address changes no consent. -/
theorem getOrCreateForEmail_rewrites {organization : Nat} {email name : String}
    {guest : Option GuestAccount} (now : Time)
    (h : getOrCreateForEmail guests organization email name = (guests', guest)) :
    Rewrites guests guests' none now ∧ ∀ g, guest = some g → g ∈ guests'.rows := by
  unfold getOrCreateForEmail at h
  dsimp only at h
  split_ifs at h with hblank
  · cases h
    exact ⟨.refl guests now, fun _ h => by cases h⟩
  · split at h
    next found hfound =>
      -- The account is there; its name may be filled in, and its consent is not touched.
      have hmem := List.mem_of_find?_eq_some hfound
      split_ifs at h
      · obtain ⟨rfl, rfl⟩ := Prod.mk.inj h
        refine ⟨⟨fun r hr => ⟨_, Table.mem_update.mpr ⟨r, hr, rfl⟩, ?_⟩, fun r' hr' => ?_,
          le_refl _, fun _ _ h => by cases h⟩, ?_⟩
        · split_ifs <;> exact ⟨rfl, rfl⟩
        · obtain ⟨r, hr, rfl⟩ := Table.mem_update.mp hr'
          refine .inl ⟨r, hr, ?_⟩
          split_ifs <;> rfl
        · rintro g hg
          obtain rfl := Option.some.inj hg
          exact Table.mem_update.mpr ⟨found, hmem, by simp⟩
      · obtain ⟨rfl, rfl⟩ := Prod.mk.inj h
        exact ⟨.refl guests now, fun g hg => Option.some.inj hg ▸ hmem⟩
    next =>
      -- A new account has not been asked.
      obtain ⟨rfl, rfl⟩ := Prod.mk.inj h
      refine ⟨⟨fun r hr => ⟨r, Table.mem_insert_of_mem hr, rfl, rfl⟩, fun r' hr' => ?_,
        Nat.le_succ _, fun _ _ h => by cases h⟩, fun g hg => Option.some.inj hg ▸ Table.mem_insert_new⟩
      rcases Table.mem_insert.mp hr' with hr | rfl
      · exact .inl ⟨r', hr, rfl⟩
      · exact .inr ⟨le_refl _, rfl⟩

/-- **The account of a purchase**, with the box of the purchase. -/
theorem attachGuest_rewrites {organization : Nat} {email name : String} {optIn : Bool}
    {guest : Option GuestAccount}
    (h : attachGuest guests organization email name optIn now = (guests', guest)) :
    Rewrites guests guests' (if optIn then guest.map fun g => (g.id, true) else none) now ∧
      ∀ g, guest = some g → ∃ row ∈ guests'.rows, row.id = g.id := by
  unfold attachGuest at h
  rcases hget : getOrCreateForEmail guests organization email name with ⟨guests₁, found⟩
  rw [hget] at h
  obtain ⟨rfl, rfl⟩ := Prod.mk.inj h
  obtain ⟨hfirst, hmem⟩ := getOrCreateForEmail_rewrites now hget
  cases optIn with
  | false => exact ⟨hfirst, fun g hg => ⟨g, hmem g hg, rfl⟩⟩
  | true =>
    simp only [if_true]
    rw [recordMarketingOptIn_eq]
    have hset := setMarketingOptIn_rewrites_option hmem true now
    refine ⟨hset.after hfirst, fun g hg => ?_⟩
    obtain ⟨row, hrow, hid, -⟩ := hset.kept g (hmem g hg)
    exact ⟨row, hrow, hid⟩

end Tables

/-! ### The purchases -/

section Sales

variable {db db' : Db} {now : Time} {organization : Nat} {args : FulfillArgs} {order : Order}

/-- A sale writes the choice of its box, to the guest of its order. -/
def SaleRewrites (db db' : Db) (order : Order) (optIn : Bool) (now : Time) : Prop :=
  Rewrites db.guests db'.guests
    (if optIn then (linkedGuest db' order).map fun g => (g.id, true) else none) now

/-- A sale rewrites the account it attaches. -/
theorem SaleRewrites.of_attach {email name : String} {optIn : Bool} {guests : Table GuestAccount}
    {guest : Option GuestAccount}
    (h : attachGuest db.guests organization email name optIn now = (guests, guest))
    (hguests : db'.guests = guests) (hguest : order.guest = guest.map (·.id)) :
    SaleRewrites db db' order optIn now := by
  obtain ⟨hrewrites, hmem⟩ := attachGuest_rewrites h
  have hlinked : (linkedGuest db' order).map (fun g => (g.id, true))
      = guest.map fun g => (g.id, true) := by
    rw [linkedGuest, hguest, hguests]
    cases guest with
    | none => rfl
    | some g =>
      obtain ⟨row, hrow, hid⟩ := hmem g rfl
      have hget : guests.get? g.id = some row := Table.get?_eq_some.mpr ⟨hrow, hid⟩
      simp [hget, hid]
  rw [SaleRewrites, hlinked, hguests]
  exact hrewrites

/-- The sale of a cart rewrites one account at most. -/
theorem fulfillHold_rewrites {hold : Hold}
    (h : fulfillHold db now hold args = .ok (db', order)) :
    SaleRewrites db db' order args.marketingOptIn now := by
  obtain ⟨guests, guest, hattach, -, -, rfl, rfl⟩ := fulfillHold_ok h
  exact .of_attach hattach rfl rfl

/-- So does a donation. -/
theorem fulfillDonation_rewrites {amount : Cents} {campaign : Option Nat}
    (h : fulfillDonation db now organization amount campaign args = .ok (db', order)) :
    SaleRewrites db db' order args.marketingOptIn now := by
  obtain ⟨guests, guest, hattach, -, rfl, rfl⟩ := fulfillDonation_ok h
  exact .of_attach hattach rfl rfl

/-- So does the sale of a pass. -/
theorem fulfillPassPurchase_rewrites {product : PassProduct}
    (h : fulfillPassPurchase db now organization product args = .ok (db', order)) :
    SaleRewrites db db' order args.marketingOptIn now := by
  obtain ⟨guests, guest, hattach, -, -, rfl, rfl⟩ := fulfillPassPurchase_ok h
  exact .of_attach hattach rfl rfl

/-- So does the body of a delivery. -/
theorem fulfillBody_rewrites {session : CheckoutSession} {target : Target}
    (h : fulfillBody db now organization session target = .ok (db', order)) :
    SaleRewrites db db' order session.marketingOptIn now := by
  cases target with
  | hold hold => exact fulfillHold_rewrites h
  | donation amount campaign => exact fulfillDonation_rewrites h
  | pass product => exact fulfillPassPurchase_rewrites h

/-- A redemption, by the holder of the pass or by the buyer. -/
theorem fulfillHoldWithPass_rewrites {hold : Hold} {passPurchase : Nat}
    {buyerEmail buyerName : String} {optIn : Bool}
    (h : fulfillHoldWithPass db now hold passPurchase buyerEmail buyerName optIn
      = .ok (db', order)) : SaleRewrites db db' order optIn now := by
  obtain ⟨p, performance, -, -, -, -, -, -, -, guests, guest, hguest, rfl, rfl⟩ :=
    fulfillHoldWithPass_ok h
  unfold redemptionGuest at hguest
  split at hguest
  -- The pass has a holder, who is asked.
  next g hg =>
    obtain ⟨rfl, rfl⟩ := Prod.mk.inj hguest
    cases optIn with
    | false => exact .refl db.guests now
    | true =>
      simp only [SaleRewrites, if_true, recordMarketingOptIn_eq]
      have hmem : ∀ row, db.guests.get? g = some row → row ∈ db.guests.rows :=
        fun row hrow => Table.get?_mem hrow
      have hset := setMarketingOptIn_rewrites_option hmem true now
      -- The guest of the order is the row that was just rewritten.
      have hlinked : (linkedGuest { db with
            guests := setMarketingOptIn db.guests (db.guests.get? g) true now }
          (redemptionOrder hold buyerEmail buyerName (some g) db.orders.nextId)).map
            (fun row => (row.id, true))
          = (db.guests.get? g).map fun row => (row.id, true) := by
        show ((setMarketingOptIn db.guests (db.guests.get? g) true now).get? g).map _ = _
        cases hrow : db.guests.get? g with
        | none =>
          show (db.guests.get? g).map _ = _
          rw [hrow]
        | some row =>
          obtain ⟨row', hrow', hid, -⟩ := (hrow ▸ hset).kept row (hmem row hrow)
          have hkey : row'.id = g := hid.trans (Table.get?_key hrow)
          rw [Table.get?_eq_some.mpr ⟨hrow', hkey⟩]
          simp [hid]
      exact hlinked ▸ hset
  next =>
    -- Otherwise the buyer is attached, as for any sale.
    rcases hattach : attachGuest db.guests hold.organization buyerEmail buyerName optIn now
      with ⟨guests₁, found⟩
    rw [hattach] at hguest
    obtain ⟨rfl, rfl⟩ := Prod.mk.inj hguest
    exact .of_attach hattach rfl rfl

end Sales

/-! ### Every event -/

/-- A purchase that goes through, or is rolled back. -/
theorem commit_rewrites {s : State} {r : Result Order} {optIn : Bool}
    (h : ∀ db order, r = .ok (db, order) → SaleRewrites s.db db order optIn s.now) :
    Rewrites s.db.guests (s.commit r).db.guests
      (saleChosen (if optIn then r.toOption else none)) s.now := by
  cases hr : r with
  | error e =>
    have hnone : saleChosen (if optIn then (Except.error e : Result Order).toOption else none)
        = none := by cases optIn <;> rfl
    rw [hnone]
    exact .refl s.db.guests s.now
  | ok sale =>
    obtain ⟨db, order⟩ := sale
    have hsale := h db order hr
    cases optIn with
    | false => exact hsale
    | true => exact hsale

/-- **Every operation** writes the choice of a ticked box, and nothing else. -/
theorem exec_rewrites (op : Op) (s : State) :
    Rewrites s.db.guests (BoxOffice.exec op s).db.guests (saleChosen (tickedSale op s))
      s.now := by
  cases op with
  | fulfillHold hold args =>
    simp only [BoxOffice.exec, tickedSale]
    exact commit_rewrites fun db order h => fulfillHold_rewrites h
  | fulfillHoldWithPass hold passPurchase buyerEmail buyerName marketingOptIn =>
    simp only [BoxOffice.exec, tickedSale]
    exact commit_rewrites fun db order h => fulfillHoldWithPass_rewrites h
  | fulfillDonation organization amount campaign args =>
    simp only [BoxOffice.exec, tickedSale]
    exact commit_rewrites fun db order h => fulfillDonation_rewrites h
  | fulfillPassPurchase organization product args =>
    cases hp : findProduct s.db organization product with
    | none =>
      have hnone : saleChosen (tickedSale (.fulfillPassPurchase organization product args) s)
          = none := by
        simp [tickedSale, hp, saleChosen]
      rw [hnone]
      simp only [BoxOffice.exec, hp]
      exact .refl s.db.guests s.now
    | some p =>
      simp only [BoxOffice.exec, tickedSale, hp, Option.bind_some]
      exact commit_rewrites fun db order h => fulfillPassPurchase_rewrites h
  | fulfillCheckoutSession organization session =>
    cases hresult : fulfillCheckoutSession s.db s.now organization session with
    | error e =>
      have hnone : saleChosen (tickedSale (.fulfillCheckoutSession organization session) s)
          = none := by
        simp [tickedSale, hresult, saleChosen]
      rw [hnone]
      simp only [BoxOffice.exec, hresult]
      exact .refl s.db.guests s.now
    | ok result =>
      obtain ⟨db, order, created⟩ := result
      simp only [BoxOffice.exec, hresult, tickedSale, State.commit]
      rcases fulfillCheckoutSession_ok hresult with
        ⟨rfl, target, -, hbody⟩ | ⟨rfl, rfl, -⟩
      · have hsale : SaleRewrites s.db db order session.marketingOptIn s.now :=
          fulfillBody_rewrites hbody
        cases hin : session.marketingOptIn with
        | false => exact (hin ▸ hsale :)
        | true => exact (hin ▸ hsale :)
      · have hnone : saleChosen (if session.marketingOptIn = true then none else none) = none := by
          split_ifs <;> rfl
        simp only [hnone]
        exact .refl s.db.guests s.now
  | _ =>
    -- The rest sells nothing.
    show Rewrites s.db.guests (BoxOffice.exec _ s).db.guests none s.now
    rw [(exec_links (by rintro (h | ⟨args, h⟩) <;> exact h)).guests]
    exact .refl s.db.guests s.now

/-- The events that are not a staff save write the choice that they are. -/
theorem CrmEvent.rewrites (e : CrmEvent) (s : Crm)
    (hsave : ∀ form tags notes, e ≠ .audienceSave form tags notes) :
    Rewrites s.guests (e.exec s).guests (e.chosen s) s.office.now := by
  cases e with
  | office op => exact exec_rewrites op s.office
  | preferences organization visitor marketingOptIn =>
    exact setMarketingOptIn_rewrites_option (fun g hg => (getCurrentGuest_some hg).2) _ _
  | unsubscribe organization token post action =>
    refine setMarketingOptIn_rewrites_option (fun g hg => ?_) _ _
    obtain ⟨pk, -, hfound⟩ := Option.bind_eq_some_iff.mp hg
    exact (guestOf_some hfound).1
  | audienceLoad organization pk => exact .refl s.guests s.office.now
  | audienceSave form tags notes => exact absurd rfl (hsave form tags notes)

/-! ### One step -/

/-- What the columns asked for are, whatever was written. -/
structure Asked.Recorded (s : Asked) : Prop where
  fresh : ∀ pk, s.crm.guests.nextId ≤ pk → s.consents pk = .unasked
  stamped : ∀ pk, (s.consents pk).optedIn = true → (s.consents pk).since ≠ none

section Step

variable {s : Asked}

/-- Writing a choice is making it, unless consent was given before. -/
theorem Consent.write_eq_choose_iff {k : Consent} {now : Time}
    (h : k.optedIn = true → k.since ≠ none) :
    k.write now true = k.choose now true ↔
      k.optedIn = true ∨ k.since = none ∨ k.since = some now := by
  obtain ⟨optedIn, since⟩ := k
  cases optedIn <;> cases since <;> simp_all [Consent.write, Consent.choose, eq_comm]

/-- What saving the audience form makes of the accounts. -/
theorem audienceSave_guests (s : Crm) (form : Nat) (tags notes : String) :
    ((CrmEvent.exec (.audienceSave form tags notes) s).guests = s.guests ∧
        (tagsNotesValid tags notes = true → s.forms[form]? = none)) ∨
      ∃ loaded, s.forms[form]? = some loaded ∧ tagsNotesValid tags notes = true ∧
        (CrmEvent.exec (.audienceSave form tags notes) s).guests
          = saveInstance s.guests loaded := by
  simp only [CrmEvent.exec]
  split
  next hform => exact .inl ⟨rfl, fun _ => hform⟩
  next loaded hloaded =>
    split_ifs with htags
    · exact .inr ⟨loaded, hloaded, htags, rfl⟩
    · exact .inl ⟨rfl, fun h => absurd h htags⟩

/-- Keys are never handed out twice, and a choice is of an account that exists. -/
theorem CrmEvent.nextId_le (e : CrmEvent) (s : Crm) :
    s.guests.nextId ≤ (e.exec s).guests.nextId ∧
      ∀ pk choice, e.chosen s = some (pk, choice) → pk < (e.exec s).guests.nextId := by
  by_cases hsave : ∃ form tags notes, e = .audienceSave form tags notes
  · obtain ⟨form, tags, notes, rfl⟩ := hsave
    refine ⟨?_, nofun⟩
    rcases audienceSave_guests s form tags notes with ⟨h, -⟩ | ⟨loaded, -, -, h⟩
    · rw [h]
    · rw [h]
      exact le_refl _
  · have hrewrites := e.rewrites s fun form tags notes he => hsave ⟨form, tags, notes, he⟩
    exact ⟨hrewrites.next, hrewrites.known⟩

/-- **The step.** What is asked of accounts stays recorded. -/
theorem Asked.Recorded.next (h : s.Recorded) (e : CrmEvent) : (e.next s).Recorded := by
  obtain ⟨hnext, hknown⟩ := e.nextId_le s.crm
  refine ⟨fun pk hpk => ?_, fun pk hin => ?_⟩
  · simp only [CrmEvent.next, choiceFor] at hpk ⊢
    split
    next g choice hchosen =>
      rw [if_neg (by have := hknown g choice hchosen; omega)]
      exact h.fresh pk (le_trans hnext hpk)
    next => exact h.fresh pk (le_trans hnext hpk)
  · simp only [CrmEvent.next, choiceFor] at hin ⊢
    split at hin
    next g choice hchosen =>
      split_ifs at hin ⊢ with hg
      · cases choice with
        | true => simp [Consent.choose]
        | false => cases hin
      · exact h.stamped pk hin
    next => exact h.stamped pk hin

/-- **A setter is right** unless it stamps a second opt-in. -/
theorem Rewrites.asked_iff {guests' : Table GuestAccount} {chosen : Option (Nat × Bool)}
    {now : Time} (h : Rewrites s.crm.guests guests' chosen now) (hs : s.Recorded)
    (hasked : s.AsAsked) :
    (∀ g ∈ guests'.rows,
        g.consent = choiceFor chosen (Consent.choose now) g.id (s.consents g.id)) ↔
      ∀ pk, chosen = some (pk, true) → ∀ g ∈ s.crm.guests.rows, g.id = pk →
        g.marketingOptIn = true ∨ g.marketingOptInAt = none ∨
          g.marketingOptInAt = some now := by
  -- For one account: a write is the choice, unless it stamps a second date.
  have hwrite : ∀ g ∈ s.crm.guests.rows,
      (g.consent.write now true = g.consent.choose now true ↔
        g.marketingOptIn = true ∨ g.marketingOptInAt = none ∨
          g.marketingOptInAt = some now) := fun g hg =>
    Consent.write_eq_choose_iff (by rw [hasked g hg]; exact hs.stamped g.id)
  constructor
  · rintro hafter pk hchosen g hg rfl
    obtain ⟨g', hg', hid, hconsent⟩ := h.kept g hg
    refine (hwrite g hg).mp ?_
    have hright := hafter g' hg'
    rw [hconsent, hid, ← hasked g hg, hchosen] at hright
    simpa [choiceFor] using hright
  · intro hcareful g' hg'
    -- The accounts there were, and one that this write has created.
    rcases h.new g' hg' with ⟨g, hg, hid⟩ | ⟨hnew, hconsent⟩
    · obtain ⟨r, hr, hrid, hconsent⟩ := h.kept g hg
      obtain rfl : r = g' := Table.eq_of_key_eq hr hg' (hrid.trans hid)
      rw [hconsent, ← hid, ← hasked g hg]
      rcases chosen with _ | ⟨pk, choice⟩
      · rfl
      · by_cases hpk : pk = g.id
        · cases choice with
          | true =>
            subst hpk
            simpa [choiceFor] using (hwrite g hg).mpr (hcareful g.id rfl g hg rfl)
          | false => simp [choiceFor, hpk, Consent.write, Consent.choose]
        · simp [choiceFor, hpk]
    · rw [hconsent, hs.fresh g'.id hnew]
      rcases chosen with _ | ⟨pk, choice⟩
      · rfl
      · by_cases hpk : pk = g'.id
        · cases choice <;> simp [choiceFor, hpk, Consent.write, Consent.choose, Consent.unasked]
        · simp [choiceFor, hpk]

/-- A staff save is right exactly when the row has the columns that were loaded. -/
theorem saveInstance_asked_iff {loaded : GuestAccount} (hasked : s.AsAsked) :
    (∀ g ∈ (saveInstance s.crm.guests loaded).rows, g.consent = s.consents g.id) ↔
      ∀ g ∈ s.crm.guests.rows, g.id = loaded.id → loaded.consent = g.consent := by
  constructor
  · intro hafter g hg hid
    have hmem : ({ loaded with id := g.id } : GuestAccount)
        ∈ (saveInstance s.crm.guests loaded).rows :=
      Table.mem_update.mpr ⟨g, hg, by simp [hid]⟩
    have hright := hafter _ hmem
    rw [hasked g hg]
    exact hright
  · intro hsame g' hg'
    obtain ⟨g, hg, rfl⟩ := Table.mem_update.mp hg'
    by_cases hid : g.id = loaded.id
    · simp only [hid, beq_self_eq_true, if_true]
      rw [← hid, ← hasked g hg, ← hsame g hg hid]
      rfl
    · simpa [hid] using hasked g hg

/-- **One step.** From columns as they were asked for, a careful event leads to such columns,
    and no other event does. -/
theorem CrmEvent.asked_iff (e : CrmEvent) (hs : s.Recorded) (hasked : s.AsAsked) :
    (e.next s).AsAsked ↔ e.Careful s.crm := by
  by_cases hsave : ∃ form tags notes, e = .audienceSave form tags notes
  · obtain ⟨form, tags, notes, rfl⟩ := hsave
    rcases audienceSave_guests s.crm form tags notes with ⟨h, hnone⟩ | ⟨loaded, hloaded, htags, h⟩
    · refine iff_of_true (fun g hg => hasked g (h ▸ hg)) ⟨?_, nofun⟩
      rintro _ _ _ loaded ⟨⟩ htags hloaded
      rw [hnone htags] at hloaded
      cases hloaded
    · have hrows : (CrmEvent.next s (.audienceSave form tags notes)).AsAsked ↔
          ∀ g ∈ (saveInstance s.crm.guests loaded).rows, g.consent = s.consents g.id := by
        rw [← h]
        rfl
      refine hrows.trans ((saveInstance_asked_iff hasked).trans ⟨?_, ?_⟩)
      · refine fun hsame => ⟨?_, nofun⟩
        rintro _ _ _ loaded' ⟨⟩ - hloaded'
        obtain rfl := Option.some.inj (hloaded.symm.trans hloaded')
        exact hsame
      · exact fun hcareful => hcareful.save form tags notes loaded rfl htags hloaded
  · have hrewrites := e.rewrites s.crm fun form tags notes he => hsave ⟨form, tags, notes, he⟩
    refine (hrewrites.asked_iff hs hasked).trans ⟨fun h => ⟨?_, h⟩, fun h => h.optIn⟩
    exact fun form tags notes loaded he => absurd ⟨form, tags, notes, he⟩ hsave

end Step

/-! ### Every run -/

/-- A run with one more event. -/
theorem Asked.run_concat (s : Asked) (es : List CrmEvent) (e : CrmEvent) :
    s.run (es ++ [e]) = e.next (s.run es) := by
  simp [Asked.run]

/-- At the opening everything is recorded. -/
theorem Asked.Opening.recorded {s : Asked} (h : s.Opening) : s.Recorded :=
  ⟨fun pk _ => by rw [h.consents], fun pk hin => by rw [h.consents] at hin; cases hin⟩

/-- At the opening everything is as asked. -/
theorem Asked.Opening.asAsked {s : Asked} (h : s.Opening) : s.AsAsked := by
  intro g hg
  rw [h.guests] at hg
  cases hg

/-- **The run.** What is asked of accounts is recorded. -/
theorem Asked.Recorded.run {s : Asked} (h : s.Recorded) (es : List CrmEvent) :
    (s.run es).Recorded := by
  induction es using List.reverseRecOn with
  | nil => exact h
  | append_singleton es e ih => exact s.run_concat es e ▸ ih.next e

/-- **Consent moves as the guests asked**, in every state of a run, exactly when every event of
    the run is careful. -/
theorem consent_as_asked {s : Asked} (h : s.Opening) (es : List CrmEvent) :
    (∀ es₁, es₁ <+: es → (s.run es₁).AsAsked) ↔
      ∀ es₁ e, es₁ ++ [e] <+: es → e.Careful (s.run es₁).crm := by
  constructor
  · intro hasked es₁ e hpre
    have hbefore : es₁ <+: es := (List.prefix_append es₁ [e]).trans hpre
    refine (e.asked_iff (h.recorded.run es₁) (hasked es₁ hbefore)).mp ?_
    rw [← s.run_concat]
    exact hasked _ hpre
  · intro hcareful es₁
    induction es₁ using List.reverseRecOn with
    | nil => exact fun _ => h.asAsked
    | append_singleton es₁ e ih =>
      intro hpre
      have hbefore : es₁ <+: es := (List.prefix_append es₁ [e]).trans hpre
      rw [s.run_concat]
      exact (e.asked_iff (h.recorded.run es₁) (ih hbefore)).mpr (hcareful es₁ e hpre)

/-- A theater that nobody has written to. -/
def unwritten : Asked := ⟨⟨⟨Db.empty, 0⟩, fun _ => ("", ""), []⟩, fun _ => .unasked⟩

/-- A gift, with the box ticked. -/
def tickedGift : CrmEvent :=
  .office (.fulfillDonation 1 500 none
    { sampleArgs with stripeCheckoutSessionId := none, marketingOptIn := true })

/-- A click on the link of an email. -/
def unsubscribeClick : CrmEvent := .unsubscribe 1 (some 1) false none

/-- The theater without consents is an opening state. -/
theorem unwritten_opening : unwritten.Opening := ⟨rfl, rfl, rfl⟩

/-- The giver of a gift leaves and has a label put on: consent is as it was asked. -/
theorem consent_as_asked_leaves :
    let es := [tickedGift, unsubscribeClick, .audienceLoad 1 1, .audienceSave 0 "vip" ""]
    ∀ es₁, es₁ <+: es → (unwritten.run es₁).AsAsked := by
  intro es
  refine (consent_as_asked unwritten_opening es).mpr fun es₁ e hpre => ?_
  rcases es₁ with _ | ⟨e₁, _ | ⟨e₂, _ | ⟨e₃, _ | ⟨e₄, es₁⟩⟩⟩⟩ <;>
    simp only [es, List.nil_append, List.cons_append, List.cons_prefix_cons, List.prefix_nil,
      List.append_eq_nil_iff, List.cons_ne_nil, and_false, List.nil_prefix, and_true] at hpre
  · subst hpre
    exact ⟨nofun, fun pk _ => nofun⟩
  · obtain ⟨rfl, rfl⟩ := hpre
    refine ⟨nofun, fun pk hchosen => ?_⟩
    have hout : unsubscribeClick.chosen (unwritten.run [tickedGift]).crm = some (1, false) := by
      decide +kernel
    simp [hout] at hchosen
  · obtain ⟨rfl, rfl, rfl⟩ := hpre
    exact ⟨nofun, nofun⟩
  · obtain ⟨rfl, rfl, rfl, rfl⟩ := hpre
    refine ⟨?_, nofun⟩
    rintro _ _ _ loaded ⟨⟩ - hloaded
    have hsame : ∀ loaded ∈ (unwritten.run [tickedGift, unsubscribeClick,
        .audienceLoad 1 1]).crm.forms[0]?, ∀ g ∈ (unwritten.run [tickedGift, unsubscribeClick,
          .audienceLoad 1 1]).crm.guests.rows, g.id = loaded.id → loaded.consent = g.consent := by
      decide +kernel
    exact hsame loaded hloaded

/-- A label that is saved after the guest has left puts the consent back, and a gift after that
    has it begin anew. -/
theorem consent_not_as_asked :
    unwritten.Opening ∧
      ¬ (unwritten.run [tickedGift, .audienceLoad 1 1, unsubscribeClick,
        .audienceSave 0 "vip" ""]).AsAsked ∧
      ¬ (unwritten.run [tickedGift, unsubscribeClick, .office (.advance 60),
        tickedGift]).AsAsked := by
  refine ⟨unwritten_opening, ?_, ?_⟩
  · unfold Asked.AsAsked
    decide +kernel
  · unfold Asked.AsAsked
    decide +kernel

end BoxOffice

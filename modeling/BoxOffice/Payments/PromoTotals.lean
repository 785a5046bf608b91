import BoxOffice.Orders.CartOrigin
import BoxOffice.Orders.HoldCalls
import BoxOffice.Payments.CartMoney

namespace BoxOffice

open Relational Transition

/-!
# Payments — codes, gifts and the total of a cart

A code stores its discount on the cart; the subtotal is computed again from the frozen prices.

* `TotalDecided` — the discount lies inside the subtotal, and the clamp at zero of
  `hold_grand_total` never decides;
* `applyPromoCode_saveDonation` — a gift changes nothing about what a code does to the cart;
* `applyPromoCode_again` — a code that is applied again, on unchanged terms, leaves the cart as it
  is;
* `promo_totals` — all this in every run whose selections have prices that do not add up below
  zero (`PricesAddUp`): nothing refuses a negative price tier.
-/

/-- What the totals of a stored cart say about each other. -/
structure TotalDecided (db : Db) (h : Hold) : Prop where
  nonneg : 0 ≤ holdDiscount h
  le : holdDiscount h ≤ holdTotal db h
  coded : h.promoCode ≠ none → holdDiscount h < holdTotal db h
  grand : holdGrandTotal db h = holdTotal db h - holdDiscount h + holdDonation h

/-- A selection that is accepted has prices that do not add up to less than zero. -/
def PricesAddUp (s : State) : Request → Prop
  | .shop (.setGaHold organization performance sessionKey priceTier quantity) =>
    ∀ p t r, findPerformance s.db organization performance = some p →
      s.db.priceTiers.get? priceTier = some t →
      setGaHold s.db s.now organization p sessionKey t (some quantity) = .ok r →
      0 < quantity → 0 ≤ t.amount
  | .shop (.setReservedHold organization performance sessionKey seatIds) =>
    ∀ p r, findPerformance s.db organization performance = some p →
      setReservedHold s.db s.now organization p sessionKey seatIds = .ok r →
      0 ≤ (((requestedSeats s.db organization p seatIds.dedup).map (newHoldSeat s.db p)).map
        (·.unitAmount)).sum
  | _ => True

/-- The theater, without saves of the chart editor, on selections whose prices add up. -/
def promoDay (trig : Trig) : System State Request := (pricingDay trig).restrict PricesAddUp

/-! ### The totals -/

/-- A subtotal that is not negative, and a discount wherever there is a code. -/
structure Hold.Decided (h : Hold) : Prop where
  gross : 0 ≤ h.gross
  coded : h.promoCode ≠ none → h.discountAmount ≠ none

def CartsDecided (db : Db) : Prop := ∀ h ∈ db.holds.rows, h.Decided

section Totals

variable {trig : Trig} {s t : State} {db : Db} {h : Hold}

/-- **Totals.** -/
theorem Hold.Decided.total (hd : h.Decided) (hmem : h ∈ db.holds.rows) (hp : h.Priced) :
    TotalDecided db h := by
  have hgross := holdTotal_eq_gross hmem hp.toShaped
  have hnonneg := hd.gross
  cases hdiscount : h.discountAmount with
  | none =>
    have hzero : holdDiscount h = 0 := by
      unfold holdDiscount
      rw [hdiscount]
      rfl
    refine ⟨hzero.ge, by rwa [hzero, hgross], fun hcode => absurd hdiscount (hd.coded hcode), ?_⟩
    rw [holdGrandTotal, hgross, hzero, sub_zero, max_eq_left hnonneg]
  | some d =>
    have heq : holdDiscount h = d := by
      unfold holdDiscount
      rw [hdiscount]
      rfl
    obtain ⟨hpos, hlt⟩ := hp.discount d hdiscount
    refine ⟨by rwa [heq], by rw [heq, hgross]; exact hlt.le, fun _ => by rwa [heq, hgross], ?_⟩
    rw [holdGrandTotal, hgross, heq, max_eq_left (sub_nonneg.mpr hlt.le)]

/-- The edits of a cart leave its subtotal. -/
theorem Hold.setPromo_gross (promoCode : Option Nat) (text : String) (discount : Option Cents) :
    (h.setPromo promoCode text discount).gross = h.gross := rfl

/-- A cart of places is worth their number times their price. -/
theorem newGaHold_gross {now : Time} {organization : Nat} {p : Performance} {sessionKey : String}
    {tier : PriceTier} {n i : Nat} :
    (newGaHold now organization p sessionKey tier n i).gross = tier.amount * n := rfl

/-- Wherever a cart of the shop comes from, it is decided. -/
theorem CartOrigin.decided {op : Op} (ho : CartOrigin s op h) (hs : CartsDecided s.db)
    (hadd : PricesAddUp s (.shop op)) : h.Decided := by
  cases ho with
  | kept hmem => exact hs h hmem
  | ga hp ht hr hpos =>
    refine ⟨?_, fun hcode => absurd rfl hcode⟩
    rw [newGaHold_gross]
    exact Int.mul_nonneg (hadd _ _ _ hp ht hr hpos) (Int.natCast_nonneg _)
  | reserved hp hr => exact ⟨hadd _ _ hp hr, fun hcode => absurd rfl hcode⟩
  | @promo _ _ _ _ k promo hmem hcode hlt =>
    exact ⟨(hs k hmem).gross, fun _ => Option.some_ne_none _⟩
  | @unpromo _ _ _ k hmem => exact ⟨(hs k hmem).gross, fun hcode => absurd rfl hcode⟩
  | @donation _ amount campaign k hmem => exact ⟨(hs k hmem).gross, (hs k hmem).coded⟩

/-- A cart stays decided when a zone is taken from its seats. -/
theorem Hold.Decided.dropZone (hd : h.Decided) (zone : Nat) : (h.dropZone zone).Decided where
  gross := by rw [h.dropZone_gross]; exact hd.gross
  coded := hd.coded

/-- What every request but a save of the chart editor does to the carts. -/
theorem execStaff_carts (hs : CartsShaped db) {op : StaffOp}
    (hop : (Request.staff op).keepsSeats) {k : Hold}
    (hk : k ∈ (execStaff trig op db).holds.rows) :
    ∃ h ∈ db.holds.rows, k = h ∨ ∃ zone, k = h.dropZone zone := by
  rcases ((@execStaff_effect trig) hs.gaSeatless op).1 with
    he | ⟨zone, he⟩ | ⟨section_, removed, accessible, rfl, -, -⟩ | ⟨tiers, -, he⟩
  · rw [he] at hk
    exact ⟨k, hk, .inl rfl⟩
  · rw [he] at hk
    obtain ⟨h, hmem, rfl⟩ := Table.mem_update.mp hk
    exact ⟨h, hmem, .inr ⟨zone, rfl⟩⟩
  · exact hop.elim
  · rw [he] at hk
    exact ⟨k, (Table.mem_delete.mp hk).1, .inl rfl⟩

/-- One request keeps every cart decided. -/
theorem execRequest_decided {r : Request} (hs : CartsDecided s.db) (hp : CartsPriced s.db)
    (hadd : PricesAddUp s r) (hkeep : r.keepsSeats) :
    CartsDecided (execRequest trig r s).db := by
  intro k hk
  cases r with
  | shop op => exact (exec_origin hk).decided hs hadd
  | staff op =>
    obtain ⟨h, hmem, rfl | ⟨zone, rfl⟩⟩ := execStaff_carts hp.shaped hkeep hk
    · exact hs k hmem
    · exact (hs h hmem).dropZone zone

/-- Every cart of a run is priced and decided. -/
theorem promoDay_invariant (hr : Reachable (promoDay trig) s) :
    CartsPriced s.db ∧ CartsDecided s.db := by
  refine ⟨(pricingDay_invariant hr.of_restrict).1, ?_⟩
  have hboth : Reachable (pricingDay trig) s ∧ CartsDecided s.db := by
    refine hr.invariant (I := fun u => Reachable (pricingDay trig) u ∧ CartsDecided u.db)
      (fun u hf => ⟨.of_init hf, fun k hk => ?_⟩) ?_
    · rw [Fresh.holds hf] at hk
      cases hk
    · rintro u r v ⟨hu, hd⟩ ⟨hstep, hadd⟩
      refine ⟨hu.step hstep, ?_⟩
      obtain ⟨⟨-, rfl⟩, hkeep⟩ := hstep
      exact execRequest_decided hd (pricingDay_invariant hu).1 hadd hkeep
  exact hboth.2

end Totals

/-! ### A gift beside a code -/

section Donation

variable {db : Db} {now : Time} {organization id : Nat} {sessionKey code : String}
  {holdId : Option Nat} {amount : Option Cents} {campaign : Option Nat}

/-- The row of the hold `id` with the gift on it. -/
def Hold.giveIf (id : Nat) (amount : Option Cents) (campaign : Option Nat) (h : Hold) : Hold :=
  if h.id == id then h.setDonation amount campaign else h

/-- A gift leaves every other column. -/
theorem Hold.giveIf_cart (h : Hold) :
    (h.giveIf id amount campaign).id = h.id ∧
      (h.giveIf id amount campaign).organization = h.organization ∧
      (h.giveIf id amount campaign).sessionKey = h.sessionKey ∧
      (h.giveIf id amount campaign).expiresAt = h.expiresAt ∧
      (h.giveIf id amount campaign).ga = h.ga ∧
      (h.giveIf id amount campaign).holdSeats = h.holdSeats := by
  unfold Hold.giveIf
  split_ifs <;> exact ⟨rfl, rfl, rfl, rfl, rfl, rfl⟩

/-- Saving a gift writes it to the cart with the key. -/
theorem saveDonation_holds :
    (saveDonation id amount campaign db).holds.rows
      = db.holds.rows.map (Hold.giveIf id amount campaign) := rfl

/-- A cart is found after a gift as before. -/
theorem findActiveHold_saveDonation :
    findActiveHold (saveDonation id amount campaign db) now organization sessionKey holdId
      = (findActiveHold db now organization sessionKey holdId).map
          (Hold.giveIf id amount campaign) := by
  unfold findActiveHold
  rw [saveDonation_holds, List.find?_map]
  -- The gift is none of the columns that are looked at.
  refine congrArg (Option.map _) (congrFun (congrArg _ (funext fun h => ?_)) _)
  unfold Function.comp Hold.giveIf
  dsimp only
  split_ifs <;> rfl

/-- A gift leaves the seats of a cart. -/
theorem holdSeatsOf_saveDonation (h : Hold) :
    holdSeatsOf (saveDonation id amount campaign db) (h.giveIf id amount campaign)
      = holdSeatsOf db h := by
  have hget : (saveDonation id amount campaign db).holds.get? h.id
      = (db.holds.get? h.id).map (Hold.giveIf id amount campaign) :=
    Table.get?_update (p := fun k : Hold => k.id == id) (f := Hold.setDonation amount campaign)
      (k := Hold.setDonation_id amount campaign)
  unfold holdSeatsOf
  rw [h.giveIf_cart.1, hget]
  cases db.holds.get? h.id with
  | none => rfl
  | some row => exact row.giveIf_cart.2.2.2.2.2

/-- The discount base and the minimum of a code are read past the gift. -/
theorem holdTotal_saveDonation (h : Hold) :
    holdTotal (saveDonation id amount campaign db) (h.giveIf id amount campaign)
      = holdTotal db h := by
  unfold holdTotal
  rw [h.giveIf_cart.2.2.2.2.1, holdSeatsOf_saveDonation]
  rfl

/-- A gift leaves the currency of a cart. -/
theorem holdCurrency_saveDonation (h : Hold) :
    holdCurrency (saveDonation id amount campaign db) (h.giveIf id amount campaign)
      = holdCurrency db h := by
  unfold holdCurrency
  rw [h.giveIf_cart.2.2.2.2.1, holdSeatsOf_saveDonation, h.giveIf_cart.2.1]
  rfl

/-- The columns of a code and those of a gift are written in either order. -/
theorem savePromo_saveDonation {hold : Nat} {promo : Option Nat} {text : String}
    {discount : Option Cents} :
    savePromo hold promo text discount (saveDonation id amount campaign db)
      = saveDonation id amount campaign (savePromo hold promo text discount db) := by
  have hholds : (savePromo hold promo text discount (saveDonation id amount campaign db)).holds
      = (saveDonation id amount campaign (savePromo hold promo text discount db)).holds := by
    refine Table.ext ?_ rfl
    show ((db.holds.rows.map _).map _) = ((db.holds.rows.map _).map _)
    rw [List.map_map, List.map_map]
    refine List.map_congr_left fun h _ => ?_
    unfold Function.comp Hold.setPromo Hold.setDonation
    dsimp only
    split_ifs <;> rfl
  unfold savePromo saveDonation editHold at hholds ⊢
  exact congrArg (fun holds => { db with holds := holds }) hholds

/-- **A gift changes nothing about a code**: it is applied, or refused with the same message,
    and it writes the same columns. -/
theorem applyPromoCode_saveDonation :
    applyPromoCode (saveDonation id amount campaign db) now organization sessionKey holdId code
      = (applyPromoCode db now organization sessionKey holdId code).map
          fun r => (saveDonation id amount campaign r.1, r.2) := by
  have hcodes : (saveDonation id amount campaign db).promoCodes = db.promoCodes := rfl
  unfold applyPromoCode
  rw [findActiveHold_saveDonation, hcodes]
  cases findActiveHold db now organization sessionKey holdId with
  | none => rfl
  | some hold =>
    cases getUsableCode db.promoCodes organization code with
    | none => rfl
    | some promo =>
      dsimp only [Option.map_some]
      rw [holdTotal_saveDonation, holdCurrency_saveDonation, hold.giveIf_cart.1]
      cases validateCode promo (holdTotal db hold) (holdCurrency db hold) now with
      | error e => rfl
      | ok u => exact congrArg (fun d => Except.ok (d, ())) savePromo_saveDonation

end Donation

/-! ### A code that is applied again -/

/-- The same text, kind and value. -/
def PromoCode.SameTerms (p q : PromoCode) : Prop :=
  q.code = p.code ∧ q.kind = p.kind ∧ q.value = p.value

/-- The code is stored on its terms. -/
def CodeTermsKept (p : PromoCode) (db : Db) : Prop :=
  ∀ q ∈ db.promoCodes.rows, q.id = p.id → p.SameTerms q

/-- A cart that carries the code carries what the code gives. -/
def Hold.AsApplied (p : PromoCode) (h : Hold) : Prop :=
  h.promoCode = some p.id →
    h.promoCodeText = p.code ∧ h.discountAmount = some (computeDiscount p h.gross)

section Again

variable {trig : Trig} {s t : State} {db : Db} {h : Hold} {p q : PromoCode} {id : Nat}

/-- Codes with the same terms give the same discount. -/
theorem PromoCode.SameTerms.computeDiscount_eq (ht : p.SameTerms q) (subtotal : Cents) :
    computeDiscount q subtotal = computeDiscount p subtotal := by
  obtain ⟨-, hkind, hvalue⟩ := ht
  unfold computeDiscount
  rw [hkind, hvalue]

/-- An edit that moves no row. -/
theorem editHold_of_fix {f : Hold → Hold} {hf} (hfix : ∀ k ∈ db.holds.rows, k.id = id → f k = k) :
    editHold db id f hf = db := by
  have hholds : db.holds.update (fun k => k.id == id) f hf = db.holds :=
    Table.update_eq_self_of_fix fun k hk hid => hfix k hk (beq_iff_eq.mp hid)
  unfold editHold
  rw [hholds]

/-- A usable code is stored. -/
theorem getUsableCode_mem {promoCodes : Table PromoCode} {organization : Nat} {code : String}
    (hq : getUsableCode promoCodes organization code = some q) : q ∈ promoCodes.rows := by
  unfold getUsableCode at hq
  dsimp only at hq
  split_ifs at hq
  exact List.mem_of_find?_eq_some hq

/-- What a code on its terms writes is as applied. -/
theorem asApplied_setPromo (hterms : q.id = p.id → p.SameTerms q) {subtotal : Cents}
    (hsubtotal : subtotal = h.gross) :
    (h.setPromo (some q.id) q.code (some (computeDiscount q subtotal))).AsApplied p := by
  intro hid
  have hsame := hterms (Option.some.inj hid)
  refine ⟨hsame.1, ?_⟩
  rw [Hold.setPromo_gross, ← hsubtotal, ← hsame.computeDiscount_eq]
  rfl

/-- Wherever the cart comes from, it is as applied, as long as the code is on its terms. -/
theorem CartOrigin.asApplied {op : Op} (ho : CartOrigin s op h) (hp : CartsPriced s.db)
    (hterms : CodeTermsKept p s.db)
    (hs : ∀ k ∈ s.db.holds.rows, k.id = id → k.AsApplied p) (hid : h.id = id) : h.AsApplied p := by
  cases ho with
  | kept hmem => exact hs h hmem hid
  | ga => exact fun hcode => nomatch hcode
  | reserved => exact fun hcode => nomatch hcode
  | @promo _ _ _ _ k promo hmem hcode hlt =>
    exact asApplied_setPromo (hterms promo (getUsableCode_mem hcode))
      (holdTotal_eq_gross hmem (hp k hmem).toShaped)
  | unpromo => exact fun hcode => nomatch hcode
  | @donation _ amount campaign k hmem => exact hs k hmem hid

/-- **A code keeps a cart as applied**, over a run that leaves its terms alone. -/
theorem run_asApplied {rs : List Request}
    (hr : Run ((promoDay trig).restrict fun u r => CodeTermsKept p (execRequest trig r u).db)
      s rs t) (hs : Reachable (promoDay trig) s) (hterms : CodeTermsKept p s.db)
    (happlied : ∀ k ∈ s.db.holds.rows, k.id = id → k.AsApplied p) :
    Reachable (promoDay trig) t ∧ CodeTermsKept p t.db ∧
      ∀ k ∈ t.db.holds.rows, k.id = id → k.AsApplied p := by
  refine hr.invariant (I := fun u => Reachable (promoDay trig) u ∧ CodeTermsKept p u.db ∧
    ∀ k ∈ u.db.holds.rows, k.id = id → k.AsApplied p) ⟨hs, hterms, happlied⟩ ?_
  rintro u r v ⟨hu, huterms, hu'⟩ ⟨hstep, hkept⟩
  have hpriced := (promoDay_invariant hu).1
  refine ⟨hu.step hstep, ?_⟩
  obtain ⟨⟨⟨-, rfl⟩, hkeep⟩, -⟩ := hstep
  refine ⟨hkept, fun k hk hid => ?_⟩
  cases r with
  | shop op => exact (exec_origin hk).asApplied hpriced huterms hu' hid
  | staff op =>
    obtain ⟨h, hmem, rfl | ⟨zone, rfl⟩⟩ := execStaff_carts hpriced.shaped hkeep hk
    · exact hu' k hmem hid
    · intro hcode
      rw [h.dropZone_gross]
      exact hu' h hmem hid hcode

/-- **Idempotence.** A code that a cart carries as applied leaves it as it is. -/
theorem applyPromoCode_again {now : Time} {organization : Nat} {sessionKey code : String} {db' : Db}
    (hmem : h ∈ db.holds.rows) (hpriced : h.Priced) (hcarries : h.promoCode = some p.id)
    (happlied : h.AsApplied p) (hterms : CodeTermsKept p db)
    (hcode : getUsableCode db.promoCodes organization code = some q) (hq : q.id = p.id)
    (h' : applyPromoCode db now organization sessionKey (some h.id) code = .ok (db', ())) :
    db' = db := by
  obtain ⟨hold, promo, hfind, hpromo, -, rfl⟩ := applyPromoCode_ok h'
  obtain ⟨hhold, -, -, hkey, -⟩ := findActiveHold_some hfind
  obtain rfl : hold = h := Table.eq_of_key_eq hhold hmem (Option.some.inj hkey)
  obtain rfl : promo = q := Option.some.inj (hpromo.symm.trans hcode)
  have hsame := hterms promo (getUsableCode_mem hcode) hq
  obtain ⟨htext, hdiscount⟩ := happlied hcarries
  -- The row is written over with what it says.
  have hfix : hold.setPromo (some promo.id) promo.code
      (some (computeDiscount promo (holdTotal db hold))) = hold := by
    rw [holdTotal_eq_gross hmem hpriced.toShaped, hsame.computeDiscount_eq, hq, hsame.1,
      ← hcarries, ← htext, ← hdiscount]
    rfl
  refine editHold_of_fix fun k hk hid => ?_
  obtain rfl : k = hold := Table.eq_of_key_eq hk hmem hid
  exact hfix

end Again

/-! ### The claim over runs -/

/-- A code that was just applied to a cart, applied to it again after any run that leaves its
    terms alone, changes nothing. -/
def ReapplyIdle (trig : Trig) (s : State) : Prop :=
  ∀ {organization : Nat} {sessionKey code : String} {id : Nat} {promo : PromoCode} {db₁ : Db},
    getUsableCode s.db.promoCodes organization code = some promo →
    applyPromoCode s.db s.now organization sessionKey (some id) code = .ok (db₁, ()) →
    ∀ {rs : List Request} {t : State},
      Run ((promoDay trig).restrict fun u r => CodeTermsKept promo (execRequest trig r u).db)
        { s with db := db₁ } rs t →
      ∀ h ∈ t.db.holds.rows, h.id = id → h.promoCode = some promo.id →
      ∀ {organization' : Nat} {sessionKey' code' : String} {q : PromoCode} {db₂ : Db},
        getUsableCode t.db.promoCodes organization' code' = some q → q.id = promo.id →
        applyPromoCode t.db t.now organization' sessionKey' (some id) code' = .ok (db₂, ()) →
        db₂ = t.db

/-- Applying a code to its cart again changes nothing. -/
theorem reapplyIdle {trig : Trig} {s : State} (h : Reachable (promoDay trig) s) :
    ReapplyIdle trig s := by
  intro organization sessionKey code id promo db₁ hcode happly rs t hr k hk hid hcarries
    organization' sessionKey' code' q db₂ hcode' hq happly'
  have hpriced := (promoDay_invariant h).1
  have hexec : exec (.applyPromoCode organization sessionKey (some id) code) s
      = { s with db := db₁ } := by
    simp only [exec]
    rw [happly]
    rfl
  have hs₁ : Reachable (promoDay trig) { s with db := db₁ } := by
    refine h.step (i := .shop (.applyPromoCode organization sessionKey (some id) code)) ?_
    exact ⟨⟨⟨trivial, hexec.symm⟩, trivial⟩, trivial⟩
  -- The code and the cart are as they were just after the first application, and the run keeps
  -- both so.
  have hterms : CodeTermsKept promo db₁ := by
    obtain ⟨hold, found, -, -, -, rfl⟩ := applyPromoCode_ok happly
    intro p hp hpid
    obtain rfl : p = promo := Table.eq_of_key_eq hp (getUsableCode_mem hcode) hpid
    exact ⟨rfl, rfl, rfl⟩
  have happlied : ∀ k ∈ db₁.holds.rows, k.id = id → k.AsApplied promo := by
    obtain ⟨hold, found, hfind, hfound, -, rfl⟩ := applyPromoCode_ok happly
    obtain rfl : found = promo := Option.some.inj (hfound.symm.trans hcode)
    obtain ⟨hhold, -, -, hkey, -⟩ := findActiveHold_some hfind
    intro k hk hid
    obtain ⟨x, hx, rfl⟩ := mem_editHold.mp hk
    split_ifs at hid ⊢ with hxid
    · obtain rfl : x = hold := Table.eq_of_key_eq hx hhold hxid
      exact asApplied_setPromo (fun _ => ⟨rfl, rfl, rfl⟩)
        (holdTotal_eq_gross hx (hpriced x hx).toShaped)
    · exact absurd (hid.trans (Option.some.inj hkey).symm) hxid
  obtain ⟨ht, htterms, htapplied⟩ := run_asApplied hr hs₁ hterms happlied
  subst hid
  exact applyPromoCode_again hk ((promoDay_invariant ht).1 k hk) hcarries (htapplied k hk rfl)
    htterms hcode' hq happly'

/-- **A code never makes the tickets free or the total wrong.** In every run of the theater without
    chart saves whose selections have prices that do not add up below zero: every cart has its
    discount inside its subtotal, strictly where it carries a code, and the clamp of its total
    does not decide; a gift changes nothing about a code; and a code that is applied again on
    unchanged terms leaves the cart as it is. -/
theorem promo_totals {trig : Trig} {s : State} (h : Reachable (promoDay trig) s) :
    (∀ hold ∈ s.db.holds.rows, TotalDecided s.db hold)
    ∧ (∀ now organization sessionKey holdId code id amount campaign,
        applyPromoCode (saveDonation id amount campaign s.db) now organization sessionKey holdId
            code
          = (applyPromoCode s.db now organization sessionKey holdId code).map
              fun r => (saveDonation id amount campaign r.1, r.2))
    ∧ ReapplyIdle trig s := by
  obtain ⟨hpriced, hdecided⟩ := promoDay_invariant h
  refine ⟨fun hold hmem => (hdecided hold hmem).total hmem (hpriced hold hmem), ?_, reapplyIdle h⟩
  intro now organization sessionKey holdId code id amount campaign
  exact applyPromoCode_saveDonation

/-! ### Two carts -/

/-- One dollar off. -/
def oneOff : PromoCodeForm := ⟨"oneoff", .fixed, 100, "", none, none, some 1, none, true⟩

/-- The sample theater with the code. -/
def codeNight : State := execRequest flatTrig (.staff (.createPromoCode 1 oneOff)) sampleState

/-- A place at twenty dollars, and the code on it. -/
def placeNight : State := execRequest flatTrig (.shop (.setGaHold 1 1 "a" 1 1)) codeNight

def discountedNight : State :=
  execRequest flatTrig (.shop (.applyPromoCode 1 "a" (some 1) "oneoff")) placeNight

/-- The night with a discount is reachable. -/
theorem discountedNight_reachable : Reachable (promoDay flatTrig) discountedNight := by
  have hfresh : Reachable (promoDay flatTrig) sampleState := .of_init sampleState_fresh
  have hcode : Reachable (promoDay flatTrig) codeNight :=
    hfresh.step (i := .staff (.createPromoCode 1 oneOff)) ⟨⟨⟨trivial, rfl⟩, trivial⟩, trivial⟩
  have hprice : (codeNight.db.priceTiers.get? 1).map (·.amount) = some 2000 := by decide
  have hplace : Reachable (promoDay flatTrig) placeNight := by
    refine hcode.step (i := .shop (.setGaHold 1 1 "a" 1 1)) ⟨⟨⟨trivial, rfl⟩, trivial⟩, ?_⟩
    intro p t r _ ht _ _
    rw [ht] at hprice
    exact (Option.some.inj hprice).symm.le.trans' (by decide)
  exact hplace.step (i := .shop (.applyPromoCode 1 "a" (some 1) "oneoff"))
    ⟨⟨⟨trivial, rfl⟩, trivial⟩, trivial⟩

/-- The cart with the code is charged nineteen dollars. -/
theorem promo_totals_discountedNight :
    ∃ hold ∈ discountedNight.db.holds.rows, hold.promoCode = some 1 ∧
      holdTotal discountedNight.db hold = 2000 ∧ TotalDecided discountedNight.db hold := by
  obtain ⟨hold, hmem, hcode, htotal⟩ : ∃ hold ∈ discountedNight.db.holds.rows,
      hold.promoCode = some 1 ∧ holdTotal discountedNight.db hold = 2000 := by decide +kernel
  exact ⟨hold, hmem, hcode, htotal, (promo_totals discountedNight_reachable).1 hold hmem⟩

/-- A price tier of minus five dollars is saved, and a place at it is put into a cart. -/
def negativeNight : State :=
  execRequest flatTrig (.shop (.setGaHold 1 1 "a" 3 1))
    (execRequest flatTrig (.staff (.addPriceTier 1 1 "Refund" (-500) "USD")) sampleState)

/-- **The counterexample.** The discount of the cart, zero, is above its subtotal, and its total is
    what the clamp decides. -/
theorem negative_subtotal : Reachable (pricingDay flatTrig) negativeNight ∧
    ∃ hold ∈ negativeNight.db.holds.rows, hold.Active negativeNight.now ∧
      holdDiscount hold = 0 ∧ holdDonation hold = 0 ∧ holdTotal negativeNight.db hold = -500 ∧
      holdGrandTotal negativeNight.db hold = 0 := by
  have hfresh : Reachable (pricingDay flatTrig) sampleState := .of_init sampleState_fresh
  refine ⟨?_, by decide +kernel⟩
  have htier : Reachable (pricingDay flatTrig)
      (execRequest flatTrig (.staff (.addPriceTier 1 1 "Refund" (-500) "USD")) sampleState) :=
    hfresh.step (i := .staff (.addPriceTier 1 1 "Refund" (-500) "USD")) ⟨⟨trivial, rfl⟩, trivial⟩
  exact htier.step (i := .shop (.setGaHold 1 1 "a" 3 1)) ⟨⟨trivial, rfl⟩, trivial⟩

end BoxOffice

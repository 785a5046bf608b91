import BoxOffice.Dashboard.Pricing
import BoxOffice.System
import BoxOffice.Transition.Interleaving

namespace BoxOffice

open Relational Transition

/-!
# Promotions — counting the redemptions

Three writers work on a code: a fulfilment increments the counter in the database,
`promo_deactivate` writes one column, and `PromoCodeUpdateView` writes back the whole row that it
loaded.

* `PromoTask` is one request of the dashboard and `promoStep` its next database statement;
  `promoDesk` interleaves such requests with everything that happens in the shop, and records the
  codes of the holds that are fulfilled;
* `Counted` — every counter has grown by the redemptions recorded since;
* `promo_counted` — so it is in every run in which a save finds the counter as it was loaded
  (`SavesCount`); `count_lost` is the run in which one does not.
-/

/-! ### The form -/

/-- What is posted to `PromoCodeForm`, field by field.  `value` has two decimals. -/
structure PromoSubmission where
  code : String
  kind : PromoKind
  value : Int
  currency : String
  startsAt : Option Time
  endsAt : Option Time
  maxRedemptions : Option Nat
  minOrderAmount : Option Cents
  isActive : Bool
deriving Repr, DecidableEq

/-- Another code of the organization has that name, normalised. -/
def codeTaken (promoCodes : Table PromoCode) (organization : Nat) (code : String) (pk : Nat) :
    Bool :=
  promoCodes.rows.any fun p =>
    p.organization == organization && p.code == Python.upper (strip code) && p.id != pk

/-- `PromoCodeForm.clean`: the range of a value depends on its kind. -/
def promoValueErrors (kind : PromoKind) (value : Int) : List (String × String) :=
  match kind with
  | .percent =>
    if 0 ≤ value ∧ value ≤ 10000 then []
    else [("value", "A percentage must be between 0 and 100.")]
  | .fixed => if value ≤ 0 then [("value", "A fixed amount must be greater than 0.")] else []

namespace PromoSubmission

/-- `form.errors`: `clean_code`, then `clean`. -/
def errors (promoCodes : Table PromoCode) (organization pk : Nat) (posted : PromoSubmission) :
    List (String × String) :=
  (if Python.upper (strip posted.code) ≠ "" ∧ codeTaken promoCodes organization posted.code pk then
    [("code", "A promo code with this code already exists.")]
  else []) ++ promoValueErrors posted.kind posted.value

/-- The cleaned fields. -/
def cleaned (posted : PromoSubmission) : PromoCodeForm where
  code := posted.code
  kind := posted.kind
  value := posted.value.toNat
  currency := posted.currency
  startsAt := posted.startsAt
  endsAt := posted.endsAt
  maxRedemptions := posted.maxRedemptions
  minOrderAmount := posted.minOrderAmount
  isActive := posted.isActive

end PromoSubmission

/-! ### The requests -/

/-- The box office, and the codes of the holds that were fulfilled. -/
structure PromoDesk where
  shop : State
  redeemed : List Nat

/-- Where a submission stands, with the row it has loaded. -/
inductive PromoEditStage
  | load
  | validate (promo : PromoCode)
  | save (promo : PromoCode)
  | notFound
  | invalid (errors : List (String × String))
  | integrityError
  | saved

/-- A `POST` to `PromoCodeUpdateView`. -/
structure PromoEdit where
  organization : Nat
  pk : Nat
  posted : PromoSubmission
  stage : PromoEditStage

/-- Where a `promo_deactivate` stands. -/
inductive PromoToggleStage
  | load
  | save (promo : PromoCode)
  | notFound
  | saved

/-- A `POST` to `promo_deactivate`. -/
structure PromoToggle where
  organization : Nat
  pk : Nat
  stage : PromoToggleStage

/-- A request of the dashboard. -/
inductive PromoTask
  | edit (e : PromoEdit)
  | toggle (t : PromoToggle)

def PromoDesk.setPromoCodes (d : PromoDesk) (promoCodes : Table PromoCode) : PromoDesk :=
  { d with shop := { d.shop with db := { d.shop.db with promoCodes := promoCodes } } }

/-- `get_object()` of the organization's codes. -/
def findPromo (promoCodes : Table PromoCode) (organization pk : Nat) : Option PromoCode :=
  promoCodes.rows.find? fun p => p.organization == organization && p.id == pk

/-- `form.save()`: every column of the row is written, the counter as it was loaded. -/
def savePromoRow (promoCodes : Table PromoCode) (promo : PromoCode) (form : PromoCodeForm) :
    Table PromoCode :=
  promoCodes.update (fun p => p.id == promo.id)
    (fun p => form.row promo.organization promo.redemptionCount p.id) (fun p => form.row_id _ _ p.id)

/-- `promo.save(update_fields=["is_active"])`. -/
def savePromoActive (promoCodes : Table PromoCode) (promo : PromoCode) : Table PromoCode :=
  promoCodes.update (fun p => p.id == promo.id) fun p => { p with isActive := !promo.isActive }

/-- The next statement of a submission. -/
def promoEditStep (d : PromoDesk) (e : PromoEdit) : PromoDesk × PromoEdit :=
  match e.stage with
  | .load =>
    match findPromo d.shop.db.promoCodes e.organization e.pk with
    | none => (d, { e with stage := .notFound })
    | some promo => (d, { e with stage := .validate promo })
  | .validate promo =>
    match e.posted.errors d.shop.db.promoCodes e.organization promo.id with
    | [] => (d, { e with stage := .save promo })
    | errors => (d, { e with stage := .invalid errors })
  | .save promo =>
    -- `unique_promo_code_per_org` is checked again by the database.
    if codeTaken d.shop.db.promoCodes promo.organization e.posted.code promo.id then
      (d, { e with stage := .integrityError })
    else
      (d.setPromoCodes (savePromoRow d.shop.db.promoCodes promo e.posted.cleaned),
        { e with stage := .saved })
  | .notFound | .invalid _ | .integrityError | .saved => (d, e)

/-- The next statement of a toggle. -/
def promoToggleStep (d : PromoDesk) (t : PromoToggle) : PromoDesk × PromoToggle :=
  match t.stage with
  | .load =>
    match findPromo d.shop.db.promoCodes t.organization t.pk with
    | none => (d, { t with stage := .notFound })
    | some promo => (d, { t with stage := .save promo })
  | .save promo =>
    (d.setPromoCodes (savePromoActive d.shop.db.promoCodes promo), { t with stage := .saved })
  | .notFound | .saved => (d, t)

/-- The next statement of a request. -/
def promoStep (d : PromoDesk) : PromoTask → PromoDesk × PromoTask
  | .edit e => ((promoEditStep d e).1, .edit (promoEditStep d e).2)
  | .toggle t => ((promoToggleStep d t).1, .toggle (promoToggleStep d t).2)

/-- A request that has not begun. -/
def PromoTask.Fresh : PromoTask → Prop
  | .edit e => e.stage = .load
  | .toggle t => t.stage = .load

/-! ### The shop -/

/-- The hold that an operation turns into an order, when its transaction commits. -/
def fulfilledHold (s : State) : Op → Option Hold
  | .fulfillHold hold args =>
    match fulfillHold s.db s.now hold args with
    | .ok _ => some hold
    | .error _ => none
  | .fulfillHoldWithPass hold passPurchase buyerEmail buyerName marketingOptIn =>
    match fulfillHoldWithPass s.db s.now hold passPurchase buyerEmail buyerName marketingOptIn with
    | .ok _ => some hold
    | .error _ => none
  | .fulfillCheckoutSession organization session =>
    match fulfillCheckoutSession s.db s.now organization session,
        readTarget s.db s.now organization session with
    | .ok (_, _, true), .ok (.hold hold) => some hold
    | _, _ => none
  | _ => none

/-- The code that it redeems. -/
def redeemedCode (s : State) (op : Op) : Option Nat := (fulfilledHold s op).bind (·.promoCode)

/-- What happens in the shop meanwhile. -/
def PromoDesk.shopStep (op : Op) (d : PromoDesk) : PromoDesk where
  shop := exec op d.shop
  redeemed := d.redeemed ++ (redeemedCode d.shop op).toList

/-- Requests of the dashboard in any interleaving with the shop, from any database.  Only the
    redemptions of the run itself are recorded. -/
def promoDesk : Processes PromoDesk PromoTask Op where
  init d := d.redeemed = []
  start := PromoTask.Fresh
  step := promoStep
  admits d op := Admissible d.shop op
  env := PromoDesk.shopStep

/-- A save that the database lets through finds the counter as it was loaded: no redemption has
    been counted in between. -/
def SavesCount (d : PromoDesk) : PromoTask → Prop
  | .edit e =>
    match e.stage with
    | .save promo =>
      codeTaken d.shop.db.promoCodes promo.organization e.posted.code promo.id = false →
        ∀ p ∈ d.shop.db.promoCodes.rows, p.id = promo.id → p.redemptionCount = promo.redemptionCount
    | _ => True
  | .toggle _ => True

/-- Every counter has grown by the redemptions recorded in between. -/
def Counted (d d' : PromoDesk) : Prop :=
  ∃ codes, d'.redeemed = d.redeemed ++ codes ∧
    ∀ p ∈ d.shop.db.promoCodes.rows, ∃ p' ∈ d'.shop.db.promoCodes.rows,
      p'.id = p.id ∧ p'.redemptionCount = p.redemptionCount + codes.count p.id

section Steps

variable {d d' d'' : PromoDesk} {s : State}

namespace Counted

/-- Nothing was counted. -/
theorem refl (d : PromoDesk) : Counted d d :=
  ⟨[], (List.append_nil _).symm, fun p hp => ⟨p, hp, rfl, rfl⟩⟩

/-- Counting one after another is counting. -/
theorem trans (h : Counted d d') (h' : Counted d' d'') : Counted d d'' := by
  obtain ⟨codes, hredeemed, hrows⟩ := h
  obtain ⟨codes', hredeemed', hrows'⟩ := h'
  refine ⟨codes ++ codes', ?_, fun p hp => ?_⟩
  · rw [hredeemed', hredeemed, List.append_assoc]
  · obtain ⟨p', hp', hid, hcount⟩ := hrows p hp
    obtain ⟨p'', hp'', hid', hcount'⟩ := hrows' p' hp'
    refine ⟨p'', hp'', hid'.trans hid, ?_⟩
    rw [hcount', hcount, hid, List.count_append, Nat.add_assoc]

/-- A write to the codes that leaves the counters alone. -/
theorem of_update {q : PromoCode → Bool} {f : PromoCode → PromoCode} {k}
    (hf : ∀ p ∈ d.shop.db.promoCodes.rows, q p = true →
      (f p).redemptionCount = p.redemptionCount) :
    Counted d (d.setPromoCodes (d.shop.db.promoCodes.update q f k)) := by
  refine ⟨[], (List.append_nil _).symm, fun p hp => ?_⟩
  refine ⟨if q p then f p else p, (Table.mem_update (k := k)).mpr ⟨p, hp, rfl⟩, ?_⟩
  split_ifs with hq
  · exact ⟨k p, hf p hp hq⟩
  · exact ⟨rfl, rfl⟩

end Counted

/-! ### The dashboard -/

/-- A submission that saves on time keeps the counters. -/
theorem promoEditStep_counted (e : PromoEdit) (h : SavesCount d (.edit e)) :
    Counted d (promoEditStep d e).1 := by
  unfold promoEditStep
  cases hstage : e.stage with
  | load =>
    dsimp only
    split <;> exact .refl d
  | validate promo =>
    dsimp only
    split <;> exact .refl d
  | save promo =>
    dsimp only
    split_ifs with htaken
    · exact .refl d
    · have hsame := h
      simp only [SavesCount, hstage] at hsame
      refine .of_update fun p hp hq => ?_
      exact (hsame (Bool.not_eq_true _ ▸ htaken) p hp (beq_iff_eq.mp hq)).symm
  | notFound => exact .refl d
  | invalid errors => exact .refl d
  | integrityError => exact .refl d
  | saved => exact .refl d

/-- A toggle writes another column. -/
theorem promoToggleStep_counted (t : PromoToggle) : Counted d (promoToggleStep d t).1 := by
  unfold promoToggleStep
  cases t.stage with
  | load =>
    dsimp only
    split <;> exact .refl d
  | save promo => exact .of_update fun p _ _ => rfl
  | notFound => exact .refl d
  | saved => exact .refl d

/-! ### The shop -/

/-- The codes after an operation that redeems that code, if it redeems one. -/
def withRedeemed (promoCodes : Table PromoCode) : Option Nat → Table PromoCode
  | some promo => recordRedemption promoCodes promo
  | none => promoCodes

/-- A sale counts the code of its cart. -/
theorem withRedemption_eq (promoCodes : Table PromoCode) (hold : Hold) :
    withRedemption promoCodes hold = withRedeemed promoCodes hold.promoCode := by
  unfold withRedemption withRedeemed
  cases hold.promoCode <;> rfl

/-- A fulfilled hold's code is counted. -/
theorem fulfillHold_promoCodes {db db' : Db} {now : Time} {hold : Hold} {args : FulfillArgs}
    {order : Order} (h : fulfillHold db now hold args = .ok (db', order)) :
    db'.promoCodes = withRedeemed db.promoCodes hold.promoCode := by
  obtain ⟨guests, guest, -, -, -, -, rfl⟩ := fulfillHold_ok h
  exact withRedemption_eq _ _

/-- A hold with a code is not redeemed for a pass. -/
theorem fulfillHoldWithPass_promoCodes {db db' : Db} {now : Time} {hold : Hold}
    {passPurchase : Nat} {buyerEmail buyerName : String} {marketingOptIn : Bool} {order : Order}
    (h : fulfillHoldWithPass db now hold passPurchase buyerEmail buyerName marketingOptIn
      = .ok (db', order)) :
    hold.promoCode = none ∧ db'.promoCodes = db.promoCodes := by
  obtain ⟨p, performance, -, -, -, hcode, -, -, -, guests, guest, -, -, rfl⟩ :=
    fulfillHoldWithPass_ok h
  exact ⟨hcode, rfl⟩

/-- A delivery counts the code of the hold that it fulfils. -/
theorem fulfillCheckoutSession_promoCodes {organization : Nat} {session : CheckoutSession}
    {db' : Db} {order : Order} {created : Bool}
    (h : fulfillCheckoutSession s.db s.now organization session = .ok (db', order, created)) :
    db'.promoCodes = withRedeemed s.db.promoCodes
      (redeemedCode s (.fulfillCheckoutSession organization session)) := by
  rcases fulfillCheckoutSession_ok h with ⟨rfl, target, htarget, hbody⟩ | ⟨rfl, hdb, -⟩
  · simp only [redeemedCode, fulfilledHold, h, htarget]
    cases target with
    | hold hold => exact fulfillHold_promoCodes hbody
    | donation amount campaign =>
      obtain ⟨guests, guest, -, -, -, rfl⟩ := fulfillDonation_ok hbody
      rfl
    | pass product =>
      obtain ⟨guests, guest, -, -, -, -, rfl⟩ := fulfillPassPurchase_ok hbody
      rfl
  · simp only [redeemedCode, fulfilledHold, h, hdb]
    rfl

/-- What a commit leaves of the codes. -/
theorem commit_promoCodes {α : Type} {r : Result α}
    (h : ∀ db' a, r = .ok (db', a) → db'.promoCodes = s.db.promoCodes) :
    (s.commit r).db.promoCodes = s.db.promoCodes :=
  commit_rule (p := fun db => db.promoCodes = s.db.promoCodes) rfl h

/-- **Only a fulfilment writes to the codes**, and all it writes is one more redemption. -/
theorem exec_promoCodes (s : State) (op : Op) :
    (exec op s).db.promoCodes = withRedeemed s.db.promoCodes (redeemedCode s op) := by
  cases op with
  | advance d => rfl
  -- Carts refer to a code and do not count it.
  | setGaHold organization performance sessionKey priceTier quantity =>
    simp only [exec]
    split
    · refine commit_promoCodes fun db' hold h => ?_
      rcases setGaHold_ok h with rfl | ⟨allocation, n, -, -, -, rfl⟩ <;> rfl
    · rfl
  | setReservedHold organization performance sessionKey seatIds =>
    simp only [exec]
    split
    · refine commit_promoCodes fun db' hold h => ?_
      rcases setReservedHold_ok h with rfl | ⟨seats, -, -, -, rfl⟩ <;> rfl
    · rfl
  | releaseHold organization performance sessionKey => rfl
  | releaseHoldById organization sessionKey holdId =>
    simp only [exec, releaseHoldById]
    split <;> rfl
  | releaseExpiredHolds => rfl
  | applyPromoCode organization sessionKey holdId code =>
    refine commit_promoCodes fun db' _ h => ?_
    obtain ⟨hold, promo, -, -, -, rfl⟩ := applyPromoCode_ok h
    rfl
  | removePromoCode organization sessionKey holdId =>
    simp only [exec, removePromoCode]
    split <;> rfl
  | setHoldDonation organization sessionKey holdId amount campaign =>
    refine commit_promoCodes fun db' _ h => ?_
    obtain ⟨hold, gift, -, -, -, -, rfl⟩ := setHoldDonation_ok h
    rfl
  | clearHoldDonation organization sessionKey holdId =>
    simp only [exec, clearHoldDonation]
    split <;> rfl
  -- The fulfilment of a cart redeems the code of the cart, once.
  | fulfillHold hold args =>
    simp only [exec, redeemedCode, fulfilledHold]
    cases h : fulfillHold s.db s.now hold args with
    | error e => rfl
    | ok r => exact fulfillHold_promoCodes h
  | fulfillHoldWithPass hold passPurchase buyerEmail buyerName marketingOptIn =>
    simp only [exec, redeemedCode, fulfilledHold]
    cases h : fulfillHoldWithPass s.db s.now hold passPurchase buyerEmail buyerName
        marketingOptIn with
    | error e => rfl
    | ok r =>
      obtain ⟨db', order⟩ := r
      obtain ⟨hcode, hcodes⟩ := fulfillHoldWithPass_promoCodes h
      simp only [Option.bind_some, hcode]
      exact hcodes
  | fulfillDonation organization amount campaign args =>
    simp only [exec, redeemedCode, fulfilledHold, Option.bind_none]
    refine commit_promoCodes fun db' order h => ?_
    obtain ⟨guests, guest, -, -, -, rfl⟩ := fulfillDonation_ok h
    rfl
  | fulfillPassPurchase organization product args =>
    simp only [exec]
    split
    · refine commit_promoCodes fun db' order h => ?_
      obtain ⟨guests, guest, -, -, -, -, rfl⟩ := fulfillPassPurchase_ok h
      rfl
    · rfl
  | fulfillCheckoutSession organization session =>
    simp only [exec]
    cases h : fulfillCheckoutSession s.db s.now organization session with
    | error e => simp only [redeemedCode, fulfilledHold, h]; rfl
    | ok r => exact fulfillCheckoutSession_promoCodes h
  -- An undone order does not give its redemption back.
  | voidOrder order =>
    simp only [exec]
    split
    · rw [voidOrder_fst]; rfl
    · rfl
  | refundOrder order gateway =>
    refine commit_promoCodes fun db' performed h => ?_
    obtain ⟨o, -, ⟨-, rfl, -⟩ | ⟨-, -, -, provider, refundRef, rfl⟩⟩ := refundOrder_ok h
    · rfl
    · rw [refundedDb_eq]
  | orderCancel order =>
    simp only [exec]
    split
    · unfold orderCancel
      split_ifs
      · rfl
      · rw [undoOrder_eq]; rfl
    · rfl

/-- The code after a redemption was recorded. -/
theorem mem_recordRedemption {promoCodes : Table PromoCode} {p : PromoCode} {promo : Nat}
    (hp : p ∈ promoCodes.rows) :
    (if p.id == promo then { p with redemptionCount := p.redemptionCount + 1 } else p)
      ∈ (recordRedemption promoCodes promo).rows :=
  Table.mem_update.mpr ⟨p, hp, rfl⟩

/-- One more redemption is one more on its counter. -/
theorem shopStep_counted (d : PromoDesk) (op : Op) : Counted d (d.shopStep op) := by
  refine ⟨(redeemedCode d.shop op).toList, rfl, fun p hp => ?_⟩
  show ∃ p' ∈ (exec op d.shop).db.promoCodes.rows, _
  rw [exec_promoCodes]
  cases redeemedCode d.shop op with
  | none => exact ⟨p, hp, rfl, rfl⟩
  | some promo =>
    refine ⟨if p.id == promo then { p with redemptionCount := p.redemptionCount + 1 } else p,
      mem_recordRedemption hp, ?_⟩
    rw [Option.toList_some, List.count_singleton]
    by_cases hp : p.id = promo
    · rw [if_pos (beq_iff_eq.mpr hp), if_pos (beq_iff_eq.mpr hp.symm)]
      exact ⟨rfl, rfl⟩
    · rw [if_neg (by simpa using hp), if_neg (by simpa using Ne.symm hp)]
      exact ⟨rfl, rfl⟩

end Steps

/-- **Redemptions are counted exactly**, in every run in which no fulfilment of a code commits
    between the load and the save of a submission: every counter is its initial value and the
    number of orders that were fulfilled from holds carrying the code. -/
theorem promo_counted {s : State} {c : Config PromoDesk PromoTask} {as : List (Move PromoTask Op)}
    (hr : Run (promoDesk.systemWhen SavesCount) ⟨⟨s, []⟩, []⟩ as c) :
    ∀ p ∈ s.db.promoCodes.rows, ∃ p' ∈ c.shared.shop.db.promoCodes.rows,
      p'.id = p.id ∧ p'.redemptionCount = p.redemptionCount + c.shared.redeemed.count p.id := by
  have hcounted : Counted ⟨s, []⟩ c.shared := by
    refine hr.shared_rel Counted.refl (fun _ _ _ => Counted.trans) fun d a d' hs => ?_
    rcases Processes.step_cases hs with ⟨l, -, -, rfl⟩ | ⟨i, l, -, hC, -, rfl⟩ | ⟨op, -, -, rfl⟩
    · exact .refl _
    · cases l with
      | edit e => exact promoEditStep_counted e hC
      | toggle t => exact promoToggleStep_counted t
    · exact shopStep_counted _ op
  obtain ⟨codes, hredeemed, hrows⟩ := hcounted
  rw [hredeemed]
  exact hrows

/-! ### Two schedules -/

/-- The sample theater with a code, of one dollar off, that nobody has used. -/
def codeState : State :=
  { sampleState with
    db := { sampleDb with
      promoCodes := Table.empty.insert fun id =>
        PromoCode.mk id 1 "ONEOFF" .fixed 100 "" none none (some 1) 0 none true } }

/-- A buyer's cart with the code. -/
def codeCart : State :=
  exec (.applyPromoCode 1 "a" (some 1) "oneoff") (exec (.setGaHold 1 1 "a" 1 1) codeState)

/-- The cart is paid for. -/
def payCodeCart : Op :=
  .fulfillCheckoutSession 1 ⟨"cs_1", .hold (some 1), some 1, false, "ada@example.com", "Ada",
    some "pi_1"⟩

/-- A manager raises the limit of the code to two. -/
def raiseLimit : PromoEdit where
  organization := 1
  pk := 1
  posted := ⟨"oneoff", .fixed, 100, "", none, none, some 2, none, true⟩
  stage := .load

/-- The page is loaded and checked; then the cart is paid for, before or after the page is
    saved. -/
def paidBeforeSave : List (Move PromoTask Op) :=
  [.spawn (.edit raiseLimit), .act 0, .act 0, .env payCodeCart, .act 0]

def paidAfterSave : List (Move PromoTask Op) :=
  [.spawn (.edit raiseLimit), .act 0, .act 0, .act 0, .env payCodeCart]

/-- The counter of the sample code. -/
def sampleCount (c : Config PromoDesk PromoTask) : List Nat :=
  c.shared.shop.db.promoCodes.rows.map (·.redemptionCount)

/-- Where the page is saved first, the redemption is counted. -/
theorem promo_counted_paidAfterSave :
    ∃ c, Run (promoDesk.systemWhen SavesCount) ⟨⟨codeCart, []⟩, []⟩ paidAfterSave c ∧
      c.shared.redeemed = [1] ∧ ∀ p ∈ codeCart.db.promoCodes.rows,
        ∃ p' ∈ c.shared.shop.db.promoCodes.rows, p'.id = p.id ∧
          p'.redemptionCount = p.redemptionCount + c.shared.redeemed.count p.id := by
  have hrun : Run (promoDesk.systemWhen SavesCount) ⟨⟨codeCart, []⟩, []⟩ paidAfterSave
      (promoDesk.perform paidAfterSave ⟨⟨codeCart, []⟩, []⟩) :=
    Processes.run_perform ⟨rfl, ⟨_, rfl, trivial⟩, ⟨_, rfl, trivial⟩,
      ⟨_, rfl, fun _ => by decide +kernel⟩, trivial, trivial⟩
  exact ⟨_, hrun, by decide +kernel, promo_counted hrun⟩

/-- **The counterexample.** The redemption that is counted while the page is open is written over
    when it is saved: one order carried the code, and the counter is zero. -/
theorem count_lost :
    ∃ c, Run promoDesk.system ⟨⟨codeCart, []⟩, []⟩ paidBeforeSave c ∧
      c.shared.redeemed = [1] ∧ sampleCount ⟨⟨codeCart, []⟩, []⟩ = [0] ∧ sampleCount c = [0] := by
  have hrun : Run promoDesk.system ⟨⟨codeCart, []⟩, []⟩ paidBeforeSave
      (promoDesk.perform paidBeforeSave ⟨⟨codeCart, []⟩, []⟩) :=
    Processes.run_perform ⟨rfl, ⟨_, rfl, trivial⟩, ⟨_, rfl, trivial⟩, trivial,
      ⟨_, rfl, trivial⟩, trivial⟩
  exact ⟨_, hrun, by decide +kernel, by decide +kernel, by decide +kernel⟩

end BoxOffice

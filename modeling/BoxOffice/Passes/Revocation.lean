import BoxOffice.Passes.Entitlement

namespace BoxOffice

open Relational Transition

/-!
# Passes — a pass and the sale that created it

A refund of the order that sold a pass refunds the pass; a cancellation leaves it active.

* `Standing` — a pass is refunded, or its order is paid and has the line that says a pass was
  sold;
* `exec_standing` carries it through every operation but the cancellation of such an order;
* `pass_revoked` — then no pass outlives its sale; `pass_outlives_sale` — the cancellation.
-/

/-- The pass stands on a paid order that sold it, or is refunded. -/
def PassStands (db : Db) (p : PassPurchase) : Prop :=
  ∃ o ∈ db.orders.rows, o.id = p.order ∧ soldAPass db o.id = true ∧
    (o.status = .paid ∨ p.status = .refunded)

/-- Every pass stands on its sale. -/
def Standing (db : Db) : Prop := ∀ p ∈ db.passPurchases.rows, PassStands db p

/-- The operation does not cancel a standing order that sold a pass. -/
def KeepsSale (s : State) : Op → Prop
  | .orderCancel order => ∀ o, s.db.orders.get? order = some o → o.status = .paid →
    soldAPass s.db order = false
  | _ => True

section Steps

variable {db db' : Db} {now : Time} {hold : Hold} {order : Order} {args : FulfillArgs}

/-- An order sold a pass if one of its lines is for a pass. -/
theorem soldAPass_iff {id : Nat} :
    soldAPass db id = true ↔ ∃ i ∈ db.orderItems.rows, i.order = id ∧ i.kind = .pass := by
  simp [soldAPass]

/-- New orders and items leave the sale of a pass standing. -/
theorem PassStands.grow {p p' : PassPurchase} (h : PassStands db p) (hid : p'.order = p.order)
    (hstatus : p.status = .refunded → p'.status = .refunded)
    (horders : ∀ o ∈ db.orders.rows, o ∈ db'.orders.rows)
    (hitems : ∀ i ∈ db.orderItems.rows, i ∈ db'.orderItems.rows) : PassStands db' p' := by
  obtain ⟨o, ho, hoid, hsold, hpaid⟩ := h
  obtain ⟨i, hi, hio, hik⟩ := soldAPass_iff.mp hsold
  exact ⟨o, horders o ho, hoid.trans hid.symm, soldAPass_iff.mpr ⟨i, hitems i hi, hio, hik⟩,
    hpaid.imp id hstatus⟩

/-- The sale of a cart leaves the passes standing. -/
theorem fulfillHold_standing (h : Standing db)
    (hf : fulfillHold db now hold args = .ok (db', order)) : Standing db' := by
  obtain ⟨guests, guest, -, -, -, -, rfl⟩ := fulfillHold_ok hf
  intro p hp
  refine (h p hp).grow rfl id (fun o ho => Table.mem_insert_of_mem (k := fun _ => rfl) ho)
    fun i hi => ?_
  show i ∈ (withDonation _ _ _).rows
  unfold withDonation
  split_ifs
  · exact Table.mem_insert_of_mem (k := fun _ => rfl)
      (Table.mem_insertMany_of_mem (k := fun _ _ => rfl) hi)
  · exact Table.mem_insertMany_of_mem (k := fun _ _ => rfl) hi

/-- So does a donation. -/
theorem fulfillDonation_standing (h : Standing db) {organization : Nat} {amount : Cents}
    {campaign : Option Nat}
    (hf : fulfillDonation db now organization amount campaign args = .ok (db', order)) :
    Standing db' := by
  obtain ⟨guests, guest, -, -, -, rfl⟩ := fulfillDonation_ok hf
  exact fun p hp =>
    (h p hp).grow rfl id (fun o ho => Table.mem_insert_of_mem (k := fun _ => rfl) ho)
    fun i hi => Table.mem_insert_of_mem (k := fun _ => rfl) hi

/-- A sold pass stands on its new order. -/
theorem fulfillPassPurchase_standing (h : Standing db) {organization : Nat} {product : PassProduct}
    (hf : fulfillPassPurchase db now organization product args = .ok (db', order)) :
    Standing db' := by
  obtain ⟨guests, guest, -, -, -, rfl, rfl⟩ := fulfillPassPurchase_ok hf
  intro p hp
  rcases (Table.mem_insert (k := fun _ => rfl)).mp hp with hp | rfl
  · exact (h p hp).grow rfl id (fun o ho => Table.mem_insert_of_mem (k := fun _ => rfl) ho)
      fun i hi => Table.mem_insert_of_mem (k := fun _ => rfl) hi
  · exact ⟨_, Table.mem_insert_new (k := fun _ => rfl), rfl,
      soldAPass_iff.mpr ⟨_, Table.mem_insert_new (k := fun _ => rfl), rfl, rfl⟩, .inl rfl⟩

/-- A redemption keeps the order of a pass. -/
theorem burnCredits_order (n : Nat) (p : PassPurchase) : (burnCredits n p).order = p.order := by
  unfold burnCredits
  dsimp only
  split_ifs <;> rfl

/-- A pass that admits is not refunded, so a redemption hides no refund. -/
theorem fulfillHoldWithPass_standing (h : Standing db) {passPurchase : Nat}
    {buyerEmail buyerName : String} {marketingOptIn : Bool}
    (hf : fulfillHoldWithPass db now hold passPurchase buyerEmail buyerName marketingOptIn
      = .ok (db', order)) : Standing db' := by
  obtain ⟨p, performance, hp, -, -, -, -, -, ha, guests, guest, -, -, rfl⟩ :=
    fulfillHoldWithPass_ok hf
  -- The pass has admitted, so it was active.
  have hactive : p.status = .active := by
    have hnow := ha.redeemable
    simp only [redeemableNow, Bool.and_eq_true, beq_iff_eq] at hnow
    exact hnow.1
  have horders : ∀ o ∈ db.orders.rows, o ∈ (db.orders.insert
      (redemptionOrder hold buyerEmail buyerName guest)).rows :=
    fun o ho => Table.mem_insert_of_mem (k := fun _ => rfl) ho
  intro q hq
  change q ∈ (chargedPasses db.passPurchases p (ticketCount db hold)).rows at hq
  unfold chargedPasses at hq
  split_ifs at hq with hk
  -- Its credits change, and its status does not.
  · obtain ⟨x, hx, rfl⟩ := Table.mem_update.mp hq
    split_ifs with hid
    · obtain rfl : x = p :=
        Table.eq_of_key_eq hx (Table.get?_mem hp) (beq_iff_eq.mp hid)
      refine (h x hx).grow (burnCredits_order _ x) (fun href => ?_) horders
        fun i hi => Table.mem_insertMany_of_mem (k := fun _ _ => rfl) hi
      rw [hactive] at href
      cases href
    · exact (h x hx).grow rfl id horders fun i hi =>
        Table.mem_insertMany_of_mem (k := fun _ _ => rfl) hi
  · exact (h q hq).grow rfl id horders fun i hi =>
      Table.mem_insertMany_of_mem (k := fun _ _ => rfl) hi

/-- Restored credits do not bring a refunded pass back. -/
theorem restoredPass_refunded (db : Db) (order : Nat) (p : PassPurchase) :
    (restoredPass db order p).order = p.order ∧
      (p.status = .refunded → (restoredPass db order p).status = .refunded) := by
  unfold restoredPass
  split_ifs
  · unfold restoreCredits
    cases p.creditsRemaining with
    | none =>
      dsimp only
      split_ifs with hex
      · exact ⟨rfl, fun h => by rw [hex.1] at h; cases h⟩
      · exact ⟨rfl, id⟩
    | some credits =>
      dsimp only
      split_ifs with _ hex hex
      · exact ⟨rfl, fun h => by rw [show p.status = .exhausted from hex.1] at h; cases h⟩
      · exact ⟨rfl, id⟩
      · exact ⟨rfl, fun h => by rw [hex.1] at h; cases h⟩
      · exact ⟨rfl, id⟩
  · exact ⟨rfl, id⟩

/-- **An undo.** The order that loses its paid status refunds the passes it sold, unless they are
    refunded already. -/
theorem Standing.undo (h : Standing db) {o : Order} (ho : o ∈ db.orders.rows)
    {status : OrderStatus} (refunded : Bool) (hitems : db'.orderItems = db.orderItems)
    (horders : db'.orders = setOrderStatus db.orders o.id status)
    (hpasses : db'.passPurchases = refundedPasses (restoredPasses db o.id) o.id refunded)
    (hsold : ∀ p ∈ db.passPurchases.rows, p.order = o.id → p.status = .refunded ∨ refunded = true) :
    Standing db' := by
  intro p' hp'
  rw [hpasses] at hp'
  obtain ⟨p, hp, rfl⟩ := mem_undonePasses.mp hp'
  -- The order that the pass was sold by keeps its lines.
  obtain ⟨x, hx, hxid, hxsold, hxpaid⟩ := h p hp
  obtain ⟨hkeep, hstays⟩ := restoredPass_refunded db o.id p
  have hsoldAPass : soldAPass db' x.id = true := by
    unfold soldAPass at hxsold ⊢
    rw [hitems]
    exact hxsold
  by_cases hxo : x.id = o.id
  · -- The pass was sold by this very order.
    obtain rfl := Table.eq_of_key_eq hx ho hxo
    have hmem : { x with status := status } ∈ db'.orders.rows := by
      rw [horders]
      exact Table.mem_update.mpr ⟨x, hx, by simp⟩
    have hmine : (restoredPass db x.id p).order = x.id := hkeep.trans hxid.symm
    split_ifs with hr
    · exact ⟨_, hmem, hmine.symm, hsoldAPass, .inr rfl⟩
    · have href := (hsold p hp hxid.symm).resolve_right fun h => hr ⟨h, hmine⟩
      exact ⟨_, hmem, hmine.symm, hsoldAPass, .inr (hstays href)⟩
  -- It was sold by another order, which is untouched.
  · have hmem : x ∈ db'.orders.rows := by
      rw [horders]
      exact Table.mem_update.mpr ⟨x, hx, by simp [hxo]⟩
    have hother : ¬(refunded = true ∧ (restoredPass db o.id p).order = o.id) :=
      fun hb => hxo (hxid.trans (hkeep.symm.trans hb.2))
    rw [if_neg hother]
    exact ⟨x, hmem, hxid.trans hkeep.symm, hsoldAPass, hxpaid.imp id hstays⟩

end Steps

/-- **The step.** Every operation but the cancellation of the sale keeps the passes standing. -/
theorem exec_standing {s : State} (h : Standing s.db) (op : Op) (hk : KeepsSale s op) :
    Standing (exec op s).db := by
  cases exec_sale op s with
  | none he =>
    intro p hp
    rw [he.passPurchases] at hp
    obtain ⟨o, ho, hid, hsold, hpaid⟩ := h p hp
    refine ⟨o, by rwa [he.orders], hid, ?_, hpaid⟩
    unfold soldAPass at hsold ⊢
    rwa [he.orderItems]
  | hold hold args _ _ _ hf => exact fulfillHold_standing h hf
  | withPass _ _ _ _ _ _ _ hf => exact fulfillHoldWithPass_standing h hf
  | donation _ _ _ _ _ _ hf => exact fulfillDonation_standing h hf
  | passSale _ _ _ _ _ hf => exact fulfillPassPurchase_standing h hf
  | void order _ _ hdb =>
    rw [hdb, voidOrder_fst]
    exact h
  | refund order gateway performed hf =>
    obtain ⟨o, ho, ⟨-, hdb, -⟩ | ⟨-, -, -, provider, refundRef, hdb⟩⟩ := refundOrder_ok hf
    · rw [hdb]
      exact h
    · rw [hdb, refundedDb_eq]
      refine h.undo (Table.get?_mem ho) (soldAPass s.db o.id) rfl rfl rfl ?_
      intro p hp hpo
      obtain ⟨x, -, hxid, hsold, -⟩ := h p hp
      exact .inr (by rw [← hpo, ← hxid]; exact hsold)
  | cancel order hop hmem hdb =>
    rw [hdb]
    unfold orderCancel
    split_ifs with hdone
    · exact h
    · rw [undoOrder_eq]
      refine h.undo hmem false rfl rfl rfl fun p hp hpo => .inl ?_
      rw [hop] at hk
      obtain ⟨x, hx, hxid, hsold, hpaid⟩ := h p hp
      obtain rfl := Table.eq_of_key_eq hx hmem (hxid.trans hpo)
      refine hpaid.resolve_left fun hpaid => ?_
      -- A standing pass of the order would make it a sale that is not cancelled.
      have hno := hk x (Table.get?_eq_some.mpr ⟨hx, rfl⟩) hpaid
      rw [hno] at hsold
      cases hsold

/-- **The run.** -/
theorem standing_of_reachable {s : State} (h : Reachable (boxOffice.restrict KeepsSale) s) :
    Standing s.db :=
  h.invariant (I := fun s => Standing s.db)
    (fun _ hf p hp => by rw [hf.passPurchases] at hp; cases hp) fun u op v hu hs => by
      obtain ⟨⟨-, rfl⟩, hk⟩ := hs
      exact exec_standing hu op hk

/-- **Revocation.** In every run in which no standing order that sold a pass is cancelled: once
    the order that sold a pass is not paid any more, the pass is not redeemable at any time and
    `fulfill_hold_with_pass` refuses every hold with it. -/
theorem pass_revoked {s : State} (h : Reachable (boxOffice.restrict KeepsSale) s)
    {p : PassPurchase} {o : Order} (hp : p ∈ s.db.passPurchases.rows)
    (ho : o ∈ s.db.orders.rows) (hid : o.id = p.order) (hpaid : o.status ≠ .paid) :
    (∀ now, redeemableNow p now = false) ∧
    ∀ now hold buyerEmail buyerName marketingOptIn, ∃ e,
      fulfillHoldWithPass s.db now hold p.id buyerEmail buyerName marketingOptIn = .error e := by
  obtain ⟨x, hx, hxid, -, hstand⟩ := standing_of_reachable h p hp
  obtain rfl := Table.eq_of_key_eq hx ho (hxid.trans hid.symm)
  have href : p.status = .refunded := hstand.resolve_left hpaid
  have hno : ∀ now, redeemableNow p now = false := by
    intro now
    unfold redeemableNow
    rw [href]
    rfl
  refine ⟨hno, fun now hold buyerEmail buyerName marketingOptIn => ?_⟩
  rcases hf : fulfillHoldWithPass s.db now hold p.id buyerEmail buyerName marketingOptIn
    with e | ⟨db', order⟩
  · exact ⟨e, rfl⟩
  · obtain ⟨q, performance, hq, -, -, -, -, -, hadmits, -⟩ := fulfillHoldWithPass_ok hf
    obtain rfl : q = p := Table.eq_of_key_eq (Table.get?_mem hq) hp (Table.get?_key hq)
    have := hadmits.redeemable
    rw [hno now] at this
    cases this

/-! ### A cancelled sale -/

/-- The flex pass of the sample theater is sold. -/
def passSold : State := exec (.fulfillPassPurchase 1 1 sampleArgs) sampleState

/-- The sold pass is reachable. -/
theorem passSold_reachable : Reachable (boxOffice.restrict KeepsSale) passSold := by
  have hinit : Reachable (boxOffice.restrict KeepsSale) sampleState := .of_init sampleState_fresh
  exact hinit.step (i := .fulfillPassPurchase 1 1 sampleArgs) ⟨⟨trivial, rfl⟩, trivial⟩

/-- Refunded, the sale takes the pass with it. -/
theorem pass_revoked_refund :
    ∃ p ∈ (exec (.refundOrder 1 (.ok "re_1")) passSold).db.passPurchases.rows,
      p.order = 1 ∧ ∀ now, redeemableNow p now = false := by
  have hr : Reachable (boxOffice.restrict KeepsSale)
      (exec (.refundOrder 1 (.ok "re_1")) passSold) :=
    passSold_reachable.step (i := .refundOrder 1 (.ok "re_1")) ⟨⟨trivial, rfl⟩, trivial⟩
  obtain ⟨p, hp, o, ho, hpo, hid, hpaid⟩ :
      ∃ p ∈ (exec (.refundOrder 1 (.ok "re_1")) passSold).db.passPurchases.rows,
      ∃ o ∈ (exec (.refundOrder 1 (.ok "re_1")) passSold).db.orders.rows,
        p.order = 1 ∧ o.id = p.order ∧ o.status ≠ .paid := by decide
  exact ⟨p, hp, hpo, (pass_revoked hr hp ho hid hpaid).1⟩

/-- Staff cancel the sale, and a buyer fills a cart. -/
def cartAfterCancel : State := exec (.setGaHold 1 1 "a" 1 1) (exec (.orderCancel 1) passSold)

/-- Cancelled, the sale leaves the pass redeemable, and it admits the next cart. -/
theorem pass_outlives_sale : ∃ s, Reachable boxOffice s ∧
    ∃ p ∈ s.db.passPurchases.rows, ∃ o ∈ s.db.orders.rows, o.id = p.order ∧
      o.status = .cancelled ∧ redeemableNow p s.now = true ∧
      ∃ hold ∈ s.db.holds.rows, ∃ r,
        fulfillHoldWithPass s.db s.now hold p.id "ada@example.com" "Ada" false = .ok r := by
  refine ⟨cartAfterCancel,
    reachable_exec (reachable_exec passSold_reachable.of_restrict trivial) trivial, ?_⟩
  obtain ⟨p, hp, o, ho, hid, hcancelled, hopen, hold, hhold, hok⟩ :
      ∃ p ∈ cartAfterCancel.db.passPurchases.rows, ∃ o ∈ cartAfterCancel.db.orders.rows,
        o.id = p.order ∧ o.status = .cancelled ∧ redeemableNow p cartAfterCancel.now = true ∧
        ∃ hold ∈ cartAfterCancel.db.holds.rows,
          (fulfillHoldWithPass cartAfterCancel.db cartAfterCancel.now hold p.id
            "ada@example.com" "Ada" false).isOk = true := by decide
  refine ⟨p, hp, o, ho, hid, hcancelled, hopen, hold, hhold, ?_⟩
  rcases hr : fulfillHoldWithPass cartAfterCancel.db cartAfterCancel.now hold p.id
    "ada@example.com" "Ada" false with e | r
  · rw [hr] at hok
    cases hok
  · exact ⟨r, rfl⟩

end BoxOffice

import BoxOffice.Passes.Books

namespace BoxOffice

open Relational Transition

/-!
# Passes — entitlement is conserved

What a pass was sold for is what it admits, over every run of sales, redemptions, refunds and
cancellations.

* `passOffice` is the box office in which an order is only undone as a whole;
* `exec_passBooks` carries the books of the passes through every operation;
* `entitlement_conserved` reads off them what each pass has left, what it has admitted, and that
  its tickets and redemptions match one to one.
-/

/-- An order is voided by a refund or a cancellation, which reverse its redemptions too, and a
    sale for money is not booked as a pass. -/
def Op.keepsPasses : Op → Prop
  | .voidOrder _ => False
  | .fulfillHold _ args => args.provider ≠ .pass
  | .fulfillDonation _ _ _ args => args.provider ≠ .pass
  | .fulfillPassPurchase _ _ args => args.provider ≠ .pass
  | _ => True

/-- An operation that keeps the passes pays with none. -/
theorem Op.keepsPasses.provider {op : Op} {args : FulfillArgs} (hk : op.keepsPasses)
    (h : op.PaysWith args) : args.provider ≠ .pass := by
  cases op <;> cases h
  case fulfillHold => exact hk
  case fulfillDonation => exact hk
  case fulfillPassPurchase => exact hk
  case fulfillCheckoutSession => exact fun h => by cases h

/-- The box office, as far as passes go. -/
def passOffice : System State Op := boxOffice.restrict fun _ op => op.keepsPasses

/-- An operation that keeps the passes stays within the pass office. -/
theorem passOffice_step {s : State} (h : Reachable passOffice s) (op : Op) (ha : Admissible s op)
    (hk : op.keepsPasses) : Reachable passOffice (exec op s) :=
  h.step ⟨⟨ha, rfl⟩, hk⟩

/-! ### Every operation keeps the books -/

section Ops

variable {db db' : Db} {now : Time} {hold : Hold} {order : Order} {args : FulfillArgs}

/-- The sale of a cart keeps the books of the passes. -/
theorem fulfillHold_passBooks (hb : PassBooks db) (hl : Linked db) (hp : args.provider ≠ .pass)
    (h : fulfillHold db now hold args = .ok (db', order)) : PassBooks db' := by
  have hid := (fulfillHold_sold h).order_id
  obtain ⟨guests, guest, -, -, -, -, rfl⟩ := fulfillHold_ok h
  exact hb.sale hl hid hp rfl rfl rfl rfl

/-- A redemption keeps them. -/
theorem fulfillHoldWithPass_passBooks (hb : PassBooks db) (hl : Linked db) {passPurchase : Nat}
    {buyerEmail buyerName : String} {marketingOptIn : Bool}
    (h : fulfillHoldWithPass db now hold passPurchase buyerEmail buyerName marketingOptIn
      = .ok (db', order)) : PassBooks db' := by
  have hid := (fulfillHoldWithPass_sold h).order_id
  obtain ⟨p, performance, hp, -, -, -, -, -, ha, guests, guest, -, -, rfl⟩ :=
    fulfillHoldWithPass_ok h
  exact hb.redeem hl hid (Table.get?_mem hp) ha rfl rfl rfl rfl

/-- So does a donation. -/
theorem fulfillDonation_passBooks (hb : PassBooks db) (hl : Linked db) {organization : Nat}
    {amount : Cents} {campaign : Option Nat}
    (h : fulfillDonation db now organization amount campaign args = .ok (db', order)) :
    PassBooks db' := by
  obtain ⟨guests, guest, -, -, rfl, rfl⟩ := fulfillDonation_ok h
  exact hb.plain hl rfl rfl rfl rfl rfl

/-- So does the sale of a pass. -/
theorem fulfillPassPurchase_passBooks (hb : PassBooks db) (hl : Linked db) {organization : Nat}
    {product : PassProduct}
    (h : fulfillPassPurchase db now organization product args = .ok (db', order)) :
    PassBooks db' := by
  obtain ⟨guests, guest, -, -, -, rfl, rfl⟩ := fulfillPassPurchase_ok h
  exact hb.issue hl rfl rfl rfl rfl rfl

/-- So does a refund. -/
theorem refundOrder_passBooks (hb : PassBooks db) {id : Nat} {gateway : Except String String}
    {performed : Bool} (h : refundOrder db id gateway = .ok (db', performed)) :
    PassBooks db' := by
  obtain ⟨o, -, ⟨-, rfl, -⟩ | ⟨-, -, -, provider, refundRef, rfl⟩⟩ := refundOrder_ok h
  · exact hb
  · rw [refundedDb_eq]
    exact hb.undo o _ rfl (.inr ⟨_, _, _, _, rfl⟩) rfl rfl

/-- So does a cancellation. -/
theorem orderCancel_passBooks (hb : PassBooks db) : PassBooks (orderCancel db order) := by
  unfold orderCancel
  split_ifs
  · exact hb
  · rw [undoOrder_eq]
    exact hb.undo order false rfl (.inl rfl) rfl rfl

end Ops

/-- **The step.** Every operation of the pass office keeps the books of the passes. -/
theorem exec_passBooks {s : State} (hb : PassBooks s.db) (hl : Linked s.db) (op : Op)
    (hk : op.keepsPasses) : PassBooks (exec op s).db := by
  cases exec_sale op s with
  | none h => exact hb.of_eq h.tickets h.payments h.passRedemptions h.passPurchases
  | hold hold args _ _ hpays h => exact fulfillHold_passBooks hb hl (hk.provider hpays) h
  | withPass _ _ _ _ _ _ _ h => exact fulfillHoldWithPass_passBooks hb hl h
  | donation _ _ _ _ _ _ h => exact fulfillDonation_passBooks hb hl h
  | passSale _ _ _ _ _ h => exact fulfillPassPurchase_passBooks hb hl h
  | void order hop =>
    rw [hop] at hk
    exact hk.elim
  | refund _ _ _ h => exact refundOrder_passBooks hb h
  | cancel order _ _ h => rw [h]; exact orderCancel_passBooks hb

/-- A box office without sales has its books in order. -/
theorem Fresh.passBooks {s : State} (h : Fresh s) : PassBooks s.db where
  ticketed := fun r hr => by rw [h.passRedemptions] at hr; cases hr
  once := by rw [h.passRedemptions]; exact .nil
  charged := fun r hr => by rw [h.passRedemptions] at hr; cases hr
  perEvent := fun r hr => by rw [h.passRedemptions] at hr; cases hr
  backed := fun t ht => by rw [h.tickets] at ht; cases ht
  balanced := fun p hp => by rw [h.passPurchases] at hp; cases hp

/-- **The run.** The books of the passes are in order in every reachable state. -/
theorem passOffice_invariant {s : State} (h : Reachable passOffice s) :
    PassBooks s.db ∧ Linked s.db :=
  h.invariant (I := fun s => PassBooks s.db ∧ Linked s.db)
    (fun _ hf => ⟨hf.passBooks, hf.linked⟩) fun u op v hu hs => by
      obtain ⟨⟨-, rfl⟩, hk⟩ := hs
      exact ⟨exec_passBooks hu.1 hu.2 op hk, (exec_booked op u).linked hu.2⟩

/-! ### Admissions -/

/-- The redemptions of a pass for one event. -/
def eventRedemptions (db : Db) (passPurchase event : Nat) : List PassRedemption :=
  db.passRedemptions.rows.filter fun r => r.passPurchase == passPurchase && r.event == event

/-- The live tickets with a redemption that `q` accepts. -/
def admittedBy (db : Db) (q : PassRedemption → Bool) : List Ticket :=
  db.tickets.rows.filter fun t =>
    decide t.Live && db.passRedemptions.rows.any fun r => r.ticket == t.id && q r

/-- The live admissions of a pass. -/
def liveAdmissions (db : Db) (passPurchase : Nat) : Nat :=
  (admittedBy db fun r => r.passPurchase == passPurchase).length

/-- The live admissions of a pass to one event. -/
def eventAdmissions (db : Db) (passPurchase event : Nat) : Nat :=
  (admittedBy db fun r => r.passPurchase == passPurchase && r.event == event).length

/-- A flex pass has admitted what its credits paid for. -/
structure FlexConserved (db : Db) (p : PassPurchase) (n c : Nat) : Prop extends Flex db p n c where
  oneEach : ∀ r ∈ db.passRedemptions.rows, r.passPurchase = p.id → r.creditsUsed = 1
  admissions : liveAdmissions db p.id ≤ n

/-- A season pass has admitted one seat an event. -/
structure SeasonConserved (db : Db) (p : PassPurchase) : Prop where
  free : ∀ r ∈ db.passRedemptions.rows, r.passPurchase = p.id → r.creditsUsed = 0
  once : ∀ event, (eventRedemptions db p.id event).length ≤ 1
  admissions : ∀ event, eventAdmissions db p.id event ≤ 1

section Admissions

variable {db : Db} {p : PassPurchase}

/-- Different tickets have different redemptions. -/
theorem length_admittedBy_le (q : PassRedemption → Bool) :
    (admittedBy db q).length ≤ (db.passRedemptions.rows.filter q).length := by
  have hnd : ((admittedBy db q).map (·.id)).Nodup :=
    db.tickets.nodup.sublist (List.filter_sublist.map _)
  have hsub : (admittedBy db q).map (·.id) ⊆ (db.passRedemptions.rows.filter q).map (·.ticket) := by
    intro i hi
    obtain ⟨t, ht, rfl⟩ := List.mem_map.mp hi
    have hany := (List.mem_filter.mp ht).2
    rw [Bool.and_eq_true] at hany
    obtain ⟨r, hr, hrt⟩ := List.any_eq_true.mp hany.2
    rw [Bool.and_eq_true, beq_iff_eq] at hrt
    exact List.mem_map.mpr ⟨r, List.mem_filter.mpr ⟨hr, hrt.2⟩, hrt.1⟩
  have hle := (List.subperm_of_subset hnd hsub).length_le
  rwa [List.length_map, List.length_map] at hle

/-- A redemption used one credit of a flex pass, and none of a season pass. -/
theorem PassBooks.creditsUsed (hb : PassBooks db) (hp : p ∈ db.passPurchases.rows)
    {r : PassRedemption} (hr : r ∈ db.passRedemptions.rows) (hrp : r.passPurchase = p.id) :
    r.creditsUsed = if p.kind = .flex then 1 else 0 := by
  obtain ⟨q, hq, hqid, hused⟩ := hb.charged r hr
  rw [← Table.eq_of_key_eq hq hp (hqid.trans hrp)]
  exact hused

/-- A flex pass has the credits it was sold with, used or left. -/
theorem PassBooks.flexConserved (hb : PassBooks db) (hp : p ∈ db.passPurchases.rows)
    (hk : p.kind = .flex) : ∃ n c, FlexConserved db p n c := by
  have hbal := hb.balanced p hp
  unfold Balanced at hbal
  rw [hk] at hbal
  obtain ⟨n, c, hf⟩ := hbal
  have hone : ∀ r ∈ db.passRedemptions.rows, r.passPurchase = p.id → r.creditsUsed = 1 :=
    fun r hr hrp => (hb.creditsUsed hp hr hrp).trans (if_pos hk)
  refine ⟨n, c, hf, hone, ?_⟩
  calc liveAdmissions db p.id
      ≤ (db.passRedemptions.rows.filter fun r => r.passPurchase == p.id).length :=
        length_admittedBy_le _
    _ = usedCredits db p.id := by
        rw [Table.length_filter_eq_total]
        refine Table.total_congr fun r hr => ?_
        by_cases hrp : r.passPurchase = p.id
        · simp [hrp, hone r hr hrp]
        · simp [hrp]
    _ ≤ n := by
        have := hf.balance
        omega

/-- A season pass is redeemed once for an event at most, and costs no credits. -/
theorem PassBooks.seasonConserved (hb : PassBooks db) (hp : p ∈ db.passPurchases.rows)
    (hk : p.kind = .season) : SeasonConserved db p := by
  have hfree : ∀ r ∈ db.passRedemptions.rows, r.passPurchase = p.id → r.creditsUsed = 0 :=
    fun r hr hrp => (hb.creditsUsed hp hr hrp).trans (if_neg (by rw [hk]; decide))
  have honce : ∀ event, (eventRedemptions db p.id event).length ≤ 1 := by
    intro event
    have hnd : (eventRedemptions db p.id event).Nodup :=
      (List.Nodup.of_map _ db.passRedemptions.nodup).filter _
    have hmem : ∀ r ∈ eventRedemptions db p.id event,
        r ∈ db.passRedemptions.rows ∧ r.passPurchase = p.id ∧ r.event = event := by
      intro r hr
      simpa [eventRedemptions] using hr
    match hl : eventRedemptions db p.id event with
    | [] => exact Nat.zero_le 1
    | [_] => exact le_refl 1
    | r :: r' :: l =>
      rw [hl] at hnd hmem
      obtain ⟨hr, hrp, hre⟩ := hmem r (by simp)
      obtain ⟨hr', hrp', hre'⟩ := hmem r' (by simp)
      have heq := hb.perEvent r hr r' hr' (hrp.trans hrp'.symm) (hre.trans hre'.symm)
        (hfree r hr hrp) (hfree r' hr' hrp')
      exact absurd hnd (by simp [heq])
  exact ⟨hfree, honce, fun event => (length_admittedBy_le _).trans (honce event)⟩

end Admissions

/-! ### The entitlement -/

/-- **Conservation.** After every run of the pass office:
    every flex pass has exactly the credits it was sold with less those its redemptions used,
    and is exhausted exactly when none is left (unless refunded); every season pass has at most
    one redemption an event and used no credits; no pass has more live admissions than it
    entitles to; the live tickets of pass orders and the redemptions match one to one; and a
    redemption never asks for more credits than the pass has left. -/
theorem entitlement_conserved {s : State} (h : Reachable passOffice s) :
    (∀ p ∈ s.db.passPurchases.rows,
      (p.kind = .flex → ∃ n c, FlexConserved s.db p n c) ∧
      (p.kind = .season → SeasonConserved s.db p)) ∧
    (∀ t ∈ s.db.tickets.rows, t.Live → PassOrder s.db t.order →
      ∃! r, r ∈ s.db.passRedemptions.rows ∧ r.ticket = t.id) ∧
    (∀ r ∈ s.db.passRedemptions.rows, ∃ t ∈ s.db.tickets.rows, t.id = r.ticket ∧ t.Live) ∧
    ∀ hold passPurchase buyerEmail buyerName marketingOptIn db' order p,
      fulfillHoldWithPass s.db s.now hold passPurchase buyerEmail buyerName marketingOptIn
        = .ok (db', order) →
      s.db.passPurchases.get? passPurchase = some p → p.kind = .flex →
      ∃ c, p.creditsRemaining = some c ∧ (soldSeats s.db hold).length ≤ c := by
  obtain ⟨hb, -⟩ := passOffice_invariant h
  refine ⟨fun p hp => ⟨hb.flexConserved hp, hb.seasonConserved hp⟩, ?_, ?_, ?_⟩
  · intro t ht hlive hpo
    obtain ⟨r, hr, hrt⟩ := hb.backed t ht hlive hpo
    refine ⟨r, ⟨hr, hrt⟩, ?_⟩
    rintro r' ⟨hr', hrt'⟩
    exact List.inj_on_of_nodup_map hb.once hr' hr (hrt'.trans hrt.symm)
  · intro r hr
    obtain ⟨t, ht, hid, -, hlive⟩ := hb.ticketed r hr
    exact ⟨t, ht, hid, hlive⟩
  · intro hold passPurchase buyerEmail buyerName marketingOptIn db' order p hok hp hk
    obtain ⟨q, performance, hq, -, -, -, -, -, ha, -⟩ := fulfillHoldWithPass_ok hok
    obtain rfl : p = q := Option.some.inj (hp.symm.trans hq)
    have hbal := hb.balanced p (Table.get?_mem hp)
    unfold Balanced at hbal
    rw [hk] at hbal
    obtain ⟨n, c, hf⟩ := hbal
    have hfits := ha.flex hk
    rw [hf.creditsRemaining, ticketCount_eq_length] at hfits
    exact ⟨c, hf.creditsRemaining, hfits⟩

/-! ### A run -/

/-- The sample theater after a flex pass was bought and the session `a` took a place. -/
def passCart : State :=
  exec (.setGaHold 1 1 "a" 1 1) (exec (.fulfillPassPurchase 1 1 sampleArgs) sampleState)

/-- The pass with a cart is reachable. -/
theorem passCart_reachable : Reachable passOffice passCart :=
  passOffice_step (passOffice_step (.of_init sampleState_fresh)
    (.fulfillPassPurchase 1 1 sampleArgs) trivial (fun h => nomatch h)) (.setGaHold 1 1 "a" 1 1)
      trivial trivial

/-- The place is redeemed on the pass, which has three of its four credits left. -/
theorem entitlement_conserved_sample : ∃ s, Reachable passOffice s ∧
    s.db.passPurchases.rows.map (·.creditsRemaining) = [some 3] ∧
    ∀ p ∈ s.db.passPurchases.rows, p.kind = .flex → ∃ n c, FlexConserved s.db p n c := by
  obtain ⟨hold, hmem, hleft⟩ : ∃ hold ∈ passCart.db.holds.rows,
      (exec (.fulfillHoldWithPass hold 1 "ada@example.com" "Ada" false)
        passCart).db.passPurchases.rows.map
        (·.creditsRemaining) = [some 3] := by decide
  have hr := passOffice_step passCart_reachable
    (.fulfillHoldWithPass hold 1 "ada@example.com" "Ada" false)
      ⟨hold, hmem, rfl, rfl, rfl, rfl, rfl, rfl⟩ trivial
  exact ⟨_, hr, hleft, fun p hp => ((entitlement_conserved hr).1 p hp).1⟩

end BoxOffice

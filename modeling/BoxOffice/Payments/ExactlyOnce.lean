import BoxOffice.Payments.Deliveries

namespace BoxOffice

open Relational Transition

/-!
# Payments — exactly-once fulfilment

Under any interleaving of deliveries, a session is fulfilled at most once and every delivery
that comes later answers with the order of the first.

The proof is an assertion proof: `DeskBooks` about the shared state, `Delivery.Sound` about each
delivery.  `deliver_cases` says once what a step of a delivery can do, `exec_sessionOrders` and
`exec_paidOnce` what the rest of the box office can.
-/

/-- No order has two succeeded payments. -/
def PaidOnce (db : Db) : Prop := ∀ n, (succeededPayments db n).length ≤ 1

section PaidOnce

variable {db db' : Db} {order : Order}

/-- A payment row counts for its order when it succeeded. -/
theorem length_succeededPayments {provider : Provider} {amount : Cents} {status : PaymentStatus}
    {ref : String} (h : db'.payments
      = db.payments.insert (paymentRow order provider amount status ref)) (n : Nat) :
    (succeededPayments db' n).length = (succeededPayments db n).length
      + if order.id = n ∧ status = .succeeded then 1 else 0 := by
  unfold succeededPayments
  rw [h, Table.insert_rows, List.filter_append, List.length_append]
  by_cases hn : order.id = n <;> by_cases hs : status = .succeeded <;> simp [paymentRow, hn, hs]

/-- A new sale keeps each order paid once. -/
theorem NewSale.paidOnce (h : NewSale db db' order) (hl : Linked db) (hp : PaidOnce db) :
    PaidOnce db' := by
  obtain ⟨provider, amount, ref, hpay⟩ := h.payments
  intro n
  rw [length_succeededPayments hpay]
  split_ifs with hn
  · -- The order is new, so nothing was paid for it.
    have hnone : succeededPayments db n = [] := by
      refine List.filter_eq_nil_iff.mpr fun p hmem hm => ?_
      rw [Bool.and_eq_true, beq_iff_eq] at hm
      exact hl.payment_ne hmem (hm.1.trans (hn.1.symm.trans h.order_id))
    rw [hnone]
    exact le_refl 1
  · exact hp n

/-- Whether orders are paid once depends on the payments only. -/
theorem paidOnce_congr (h : db'.payments = db.payments) (hp : PaidOnce db) : PaidOnce db' := by
  intro n
  unfold succeededPayments
  rw [h]
  exact hp n

/-- A refund keeps each order paid once. -/
theorem refundOrder_paidOnce {n : Nat} {gateway : Except String String} {performed : Bool}
    (h : refundOrder db n gateway = .ok (db', performed)) (hp : PaidOnce db) : PaidOnce db' := by
  obtain ⟨o, -, ⟨-, rfl, -⟩ | ⟨-, -, -, provider, refundRef, rfl⟩⟩ := refundOrder_ok h
  · exact hp
  · intro n
    rw [refundedDb_eq, length_succeededPayments rfl, if_neg (by simp), Nat.add_zero]
    exact hp n

/-- A cancellation writes no payment. -/
theorem orderCancel_payments : (orderCancel db order).payments = db.payments := by
  unfold orderCancel
  split_ifs
  · rfl
  · rw [undoOrder_eq]

/-- Nor does voiding an order. -/
theorem voidOrder_payments : (voidOrder db order).1.payments = db.payments := by
  rw [voidOrder_fst]

end PaidOnce

/-! ### The rest of the box office -/

/-- Nothing else pays an order twice. -/
theorem exec_paidOnce (op : Op) (s : State) (hl : Linked s.db) (hp : PaidOnce s.db) :
    PaidOnce (exec op s).db := by
  cases exec_sale op s with
  | none h => exact paidOnce_congr h.payments hp
  | hold _ _ _ _ _ h => exact (fulfillHold_newSale h).1.paidOnce hl hp
  | withPass _ _ _ _ _ _ _ h => exact (fulfillHoldWithPass_newSale h).1.paidOnce hl hp
  | donation _ _ _ _ _ _ h => exact (fulfillDonation_newSale h).1.paidOnce hl hp
  | passSale _ _ _ _ _ h => exact (fulfillPassPurchase_newSale h).1.paidOnce hl hp
  | void order _ _ h => exact paidOnce_congr (by rw [h, voidOrder_payments]) hp
  | refund _ _ _ h => exact refundOrder_paidOnce h hp
  | cancel order _ _ h => exact paidOnce_congr (by rw [h, orderCancel_payments]) hp

section Frame

variable {db db' : Db} {order : Order} {organization : Nat} {id : String}

/-- A sale without a session id adds to no session's orders. -/
theorem NewSale.sessionOrders_eq (h : NewSale db db' order)
    (hnone : order.stripeCheckoutSessionId = none) :
    BoxOffice.sessionOrders db' organization id = BoxOffice.sessionOrders db organization id := by
  rw [h.sessionOrders, List.filter_eq_nil_iff.mpr (by simp [hnone]), List.append_nil]

/-- The orders of a session depend on the orders only. -/
theorem sessionOrders_congr (h : db'.orders = db.orders) :
    sessionOrders db' organization id = sessionOrders db organization id := by
  unfold sessionOrders
  rw [h]

end Frame

/-- Nothing else adds to or takes from the orders of a session. -/
theorem exec_sessionOrders {op : Op} (hs : op.Sessionless) (s : State) (organization : Nat)
    (id : String) :
    (sessionOrders (exec op s).db organization id).map (·.id)
      = (sessionOrders s.db organization id).map (·.id) := by
  -- Sales here carry no session of their own; what is undone keeps its session.
  cases exec_sale op s with
  | none h => rw [sessionOrders_congr h.orders]
  | hold _ _ _ _ hpays h =>
    obtain ⟨hnew, -, hsession, -⟩ := fulfillHold_newSale h
    rw [hnew.sessionOrders_eq (hsession.trans (hs _ hpays))]
  | withPass _ _ _ _ _ _ _ h =>
    obtain ⟨hnew, hnone⟩ := fulfillHoldWithPass_newSale h
    rw [hnew.sessionOrders_eq hnone]
  | donation _ _ _ _ _ hpays h =>
    obtain ⟨hnew, -, hsession, -⟩ := fulfillDonation_newSale h
    rw [hnew.sessionOrders_eq (hsession.trans (hs _ hpays))]
  | passSale _ _ _ _ hpays h =>
    obtain ⟨hnew, -, hsession, -⟩ := fulfillPassPurchase_newSale h
    rw [hnew.sessionOrders_eq (hsession.trans (hs _ hpays))]
  | void order _ _ h =>
    rw [h, voidOrder_fst]
    rfl
  | refund _ _ _ h =>
    obtain ⟨o, -, ⟨-, h, -⟩ | ⟨-, -, -, provider, refundRef, h⟩⟩ := refundOrder_ok h
    · rw [h]
    · exact sessionOrders_setOrderStatus (by rw [h, refundedDb_eq])
  | cancel order _ _ h =>
    rw [h]
    unfold orderCancel
    split_ifs
    · rfl
    · exact sessionOrders_setOrderStatus (by rw [undoOrder_eq])

/-! ### A step of a delivery -/

/-- What a delivery has established about itself. -/
structure Delivery.Sound (d : Delivery) : Prop where
  id_ne : d.session.id ≠ ""
  target : ∀ target, d.phase = .found target → target.Of d.organization

/-- The delivery `d` fulfils its session in this step. -/
def Fulfils (s : Desk) (d : Delivery) : Prop :=
  ∃ target db order, d.phase = .found target ∧
    fulfillBody s.state.db s.state.now d.organization d.session target = .ok (db, order) ∧
    deliver s d = (⟨{ s.state with db := db }, (d.organization, d.session.id) :: s.fulfilled⟩,
      d.answer (.ok (order, true)))

section Step

variable {s : Desk} {d : Delivery}

/-- **A step of a delivery.** It fulfils the session, or changes nothing. -/
theorem deliver_cases (s : Desk) (d : Delivery) : (deliver s d).1 = s ∨ Fulfils s d := by
  unfold Fulfils deliver
  cases hphase : d.phase with
  | received =>
    dsimp only
    split
    · exact .inl rfl
    · exact .inl rfl
  | checked =>
    dsimp only
    split
    · exact .inl rfl
    · exact .inl rfl
  | found target =>
    dsimp only
    split
    · exact .inl rfl
    · rename_i db order created hf
      rcases fulfillTarget_ok hf with ⟨rfl, hbody⟩ | ⟨rfl, rfl, -⟩
      · exact .inr ⟨target, db, order, rfl, hbody, rfl⟩
      · exact .inl rfl
  | answered r => exact .inl rfl

/-- A delivery stays sound. -/
theorem deliver_sound (hd : d.Sound) : (deliver s d).2.Sound := by
  unfold deliver
  cases hphase : d.phase with
  | received =>
    dsimp only
    split
    · exact ⟨hd.id_ne, fun _ h => by cases h⟩
    · exact ⟨hd.id_ne, fun _ h => by cases h⟩
  | checked =>
    dsimp only
    split
    · exact ⟨hd.id_ne, fun _ h => by cases h⟩
    · rename_i target ht
      refine ⟨hd.id_ne, fun t h => ?_⟩
      cases h
      cases target with
      | hold hold => exact (readTarget_hold ht).2.1
      | donation amount campaign => exact trivial
      | pass product => exact trivial
  | found target =>
    dsimp only
    split
    · exact ⟨hd.id_ne, fun _ h => by cases h⟩
    · exact ⟨hd.id_ne, fun _ h => by cases h⟩
  | answered r => exact hd

/-- A session is fulfilled while it has no order, and has one afterwards. -/
theorem Fulfils.newSale (h : Fulfils s d) (hd : d.Sound) :
    ∃ order, NewSale s.state.db (deliver s d).1.state.db order ∧
      order.organization = d.organization ∧ order.stripeCheckoutSessionId = some d.session.id ∧
      sessionOrders s.state.db d.organization d.session.id = [] ∧
      (deliver s d).1.fulfilled = (d.organization, d.session.id) :: s.fulfilled := by
  obtain ⟨target, db, order, hphase, hbody, hstep⟩ := h
  obtain ⟨hnew, horg, hsession, hfree⟩ := fulfillBody_newSale (hd.target target hphase) hbody
  rw [hstep]
  exact ⟨order, hnew, horg, hsession, sessionOrders_of_free hd.id_ne hfree, rfl⟩

/-- The orders of another session are not touched. -/
theorem Fulfils.sessionOrders (h : Fulfils s d) (hd : d.Sound) (organization : Nat) (id : String) :
    (BoxOffice.sessionOrders (deliver s d).1.state.db organization id).length
      = (if (d.organization, d.session.id) = (organization, id) then 1 else 0)
        + (BoxOffice.sessionOrders s.state.db organization id).length := by
  obtain ⟨order, hnew, horg, hsession, -⟩ := h.newSale hd
  rw [hnew.sessionOrders, List.length_append, Nat.add_comm]
  congr 1
  by_cases hsame : (d.organization, d.session.id) = (organization, id)
  · obtain ⟨rfl, rfl⟩ := Prod.mk.inj hsame
    simp [horg, hsession]
  · rw [if_neg hsame, List.filter_eq_nil_iff.mpr]
    · rfl
    · intro o ho hm
      rw [List.mem_singleton.mp ho, Bool.and_eq_true, beq_iff_eq, beq_iff_eq, horg, hsession] at hm
      exact hsame (Prod.ext hm.1 (Option.some.inj hm.2))

end Step

/-! ### The assertion proof -/

/-- The books of the desk: a session has at most one order, and has been fulfilled as often as it
    has orders. -/
structure DeskBooks (s : Desk) : Prop where
  linked : Linked s.state.db
  paid : PaidOnce s.state.db
  once : ∀ organization id, (sessionOrders s.state.db organization id).length ≤ 1
  counted : ∀ organization id,
    s.fulfilled.count (organization, id) = (sessionOrders s.state.db organization id).length

/-- **The step.** A delivery that fulfils keeps the books of the desk. -/
theorem Fulfils.deskBooks {s : Desk} {d : Delivery} (h : Fulfils s d) (hd : d.Sound)
    (hb : DeskBooks s) : DeskBooks (deliver s d).1 := by
  obtain ⟨order, hnew, horg, hsession, hnone, hfulfilled⟩ := h.newSale hd
  have hlength := h.sessionOrders hd
  refine ⟨?_, hnew.paidOnce hb.linked hb.paid, fun organization id => ?_, fun organization id => ?_⟩
  · obtain ⟨target, db, o, -, hbody, hstep⟩ := h
    rw [hstep]
    refine Booked.linked ?_ hb.linked
    cases target with
    | hold hold => exact fulfillHold_booked hbody
    | donation amount campaign => exact fulfillDonation_booked hbody
    | pass product => exact fulfillPassPurchase_booked hbody
  · rw [hlength]
    split_ifs with hsame
    · obtain ⟨rfl, rfl⟩ := Prod.mk.inj hsame
      rw [hnone]
      rfl
    · rw [Nat.zero_add]
      exact hb.once organization id
  · rw [hlength, hfulfilled, List.count_cons, hb.counted, Nat.add_comm]
    simp only [beq_iff_eq]

/-- **Interference freedom.** -/
theorem webhooks_interference :
    Interference webhooks (fun _ _ => True) DeskBooks fun _ d => d.Sound where
  start := fun _ d _ hd => ⟨hd.2, fun _ h => by rw [hd.1] at h; cases h⟩
  step := fun s d hb hd _ => by
    refine ⟨?_, deliver_sound hd⟩
    rcases deliver_cases s d with h | h
    · show DeskBooks (deliver s d).1
      rw [h]
      exact hb
    · exact h.deskBooks hd hb
  stable := fun _ _ _ _ _ _ hk => hk
  env := fun s op hb hop => by
    have hids := exec_sessionOrders hop.2 s.state
    have hlength : ∀ organization id, (sessionOrders (exec op s.state).db organization id).length
        = (sessionOrders s.state.db organization id).length := fun organization id => by
      have := congrArg List.length (hids organization id)
      rwa [List.length_map, List.length_map] at this
    exact ⟨(exec_booked op s.state).linked hb.linked, exec_paidOnce op s.state hb.linked hb.paid,
      fun organization id => (hlength organization id).trans_le (hb.once organization id),
      fun organization id => (hb.counted organization id).trans (hlength organization id).symm⟩
  envStable := fun _ _ _ _ _ hd => hd

/-- The books of the desk are in order at the start. -/
theorem webhooks_init (s : Desk) (h : webhooks.init s) : DeskBooks s := by
  obtain ⟨hf, hnil⟩ := h
  have hnone : ∀ organization id, sessionOrders s.state.db organization id = [] := by
    intro organization id
    unfold sessionOrders
    rw [hf.orders]
    rfl
  refine ⟨hf.linked, fun n => ?_, fun organization id => ?_, fun organization id => ?_⟩
  · unfold succeededPayments
    rw [hf.payments]
    exact Nat.zero_le 1
  · rw [hnone]
    exact Nat.zero_le 1
  · rw [hnone, hnil]
    rfl

/-! ### One session -/

/-- A step of a delivery keeps the orders of every session. -/
theorem deliver_keeps (s : Desk) (d : Delivery) (organization : Nat) (id : String) :
    (sessionOrders s.state.db organization id).map (·.id) ⊆
      (sessionOrders (deliver s d).1.state.db organization id).map (·.id) := by
  rcases deliver_cases s d with h | ⟨target, db, order, -, hbody, hstep⟩
  · rw [h]
    exact List.Subset.refl _
  · have hnew : NewSale s.state.db db order := by
      cases target with
      | hold hold => exact (fulfillHold_newSale hbody).1
      | donation amount campaign => exact (fulfillDonation_newSale hbody).1
      | pass product => exact (fulfillPassPurchase_newSale hbody).1
    rw [hstep]
    show _ ⊆ (sessionOrders db organization id).map (·.id)
    rw [hnew.sessionOrders, List.map_append]
    exact List.subset_append_left _ _

/-- Orders of a session stay, over any run. -/
theorem sessionOrders_mono {c c' : Config Desk Delivery} {as : List (Move Delivery Op)}
    (hr : Run webhooks.system c as c') (organization : Nat) (id : String) :
    (sessionOrders c.shared.state.db organization id).map (·.id) ⊆
      (sessionOrders c'.shared.state.db organization id).map (·.id) := by
  refine hr.shared_rel
    (R := fun s t => (sessionOrders s.state.db organization id).map (·.id) ⊆
      (sessionOrders t.state.db organization id).map (·.id))
    (fun _ => List.Subset.refl _) (fun _ _ _ => List.Subset.trans) fun d a d' hs => ?_
  rcases Processes.step_cases hs with ⟨l, -, -, rfl⟩ | ⟨i, l, -, -, -, rfl⟩ | ⟨op, hop, -, rfl⟩
  · exact List.Subset.refl _
  · exact deliver_keeps d.shared l organization id
  · show _ ⊆ (sessionOrders (exec op d.shared.state).db organization id).map (·.id)
    rw [exec_sessionOrders hop.2 d.shared.state organization id]
    exact List.Subset.refl _

/-- The session of the delivery. -/
def Delivery.IsFor (d : Delivery) (organization : Nat) (id : String) : Prop :=
  d.organization = organization ∧ d.session.id = id

/-- Once the session has its order `o`, a delivery changes nothing, and one that has just been
    received answers with `o`. -/
def Settled (s : Desk) (d : Delivery) (o : Order) : Prop :=
  (deliver s d).1 = s ∧ (d.phase = .received → (deliver s d).2 = d.answer (.ok (o, false)))

/-- A session with one order is settled. -/
theorem settled {s : Desk} {d : Delivery} {o : Order} (hd : d.Sound)
    (ho : sessionOrders s.state.db d.organization d.session.id = [o]) : Settled s d o := by
  constructor
  · rcases deliver_cases s d with h | h
    · exact h
    · obtain ⟨-, -, -, -, hnone, -⟩ := h.newSale hd
      rw [hnone] at ho
      cases ho
  · intro hphase
    have hfirst : existingOrder s.state.db d.organization d.session.id = some o := by
      unfold existingOrder
      rw [← List.head?_filter]
      exact congrArg List.head? ho
    unfold deliver
    rw [hphase]
    dsimp only
    rw [hfirst]

/-- What exactly-once means for one session in one configuration. -/
structure ExactlyOnce (c : Config Desk Delivery) (organization : Nat) (id : String) : Prop where
  /-- The session has at most one order. -/
  order : (sessionOrders c.shared.state.db organization id).length ≤ 1
  /-- It has at most one succeeded payment. -/
  payment : ∀ o ∈ sessionOrders c.shared.state.db organization id,
    (succeededPayments c.shared.state.db o.id).length ≤ 1
  /-- It was fulfilled at most once. -/
  fulfilled : c.shared.fulfilled.count (organization, id) ≤ 1
  /-- A delivery changes something in one case only: no order of the session is there, and it
      fulfils the session. -/
  step : ∀ d ∈ c.procs, d.IsFor organization id → (deliver c.shared d).1 = c.shared ∨
    (sessionOrders c.shared.state.db organization id = [] ∧ Fulfils c.shared d)
  /-- From its first order on, the session is settled in every later configuration. -/
  settled : ∀ o ∈ sessionOrders c.shared.state.db organization id, ∀ as c',
    Run webhooks.system c as c' → ∃ o', o'.id = o.id ∧
      sessionOrders c'.shared.state.db organization id = [o'] ∧
      ∀ d ∈ c'.procs, d.IsFor organization id → Settled c'.shared d o'

/-- **Exactly once.** Under every interleaving of deliveries of any sessions with each other and
    with the box office, each session is fulfilled at most once: one order, one succeeded
    payment, one change to the database.  A delivery that loses the race changes nothing, and
    every delivery received after the first success answers with its order. -/
theorem deliveries_exactly_once {c : Config Desk Delivery} (h : Reachable webhooks.system c)
    (organization : Nat) (id : String) : ExactlyOnce c organization id := by
  obtain ⟨hb, hsound⟩ := webhooks_interference.reachable webhooks_init h
  refine ⟨hb.once organization id, fun o _ => hb.paid o.id, ?_, ?_, ?_⟩
  · rw [hb.counted]
    exact hb.once organization id
  · rintro d hd ⟨rfl, rfl⟩
    rcases deliver_cases c.shared d with hsame | hf
    · exact .inl hsame
    · obtain ⟨-, -, -, -, hnone, -⟩ := hf.newSale (hsound d hd)
      exact .inr ⟨hnone, hf⟩
  · intro o ho as c' hr
    obtain ⟨hb', hsound'⟩ := webhooks_interference.run hr ⟨hb, hsound⟩
    obtain ⟨o', ho', hid⟩ := List.mem_map.mp
      (sessionOrders_mono hr organization id (List.mem_map.mpr ⟨o, ho, rfl⟩))
    obtain ⟨x, hx⟩ := List.length_eq_one_iff.mp
      (Nat.le_antisymm (hb'.once organization id) (List.length_pos_of_mem ho'))
    have hxo : o' = x := List.mem_singleton.mp (hx ▸ ho')
    refine ⟨o', hid, hxo ▸ hx, ?_⟩
    rintro d hd ⟨rfl, rfl⟩
    exact BoxOffice.settled (hsound' d hd) (hxo ▸ hx)

/-! ### A race -/

/-- A delivery of the session `cs_1`, a gift of 25.00. -/
def giftDelivery : Delivery where
  organization := 1
  session :=
    { id := "cs_1", kind := .donation "25.00" (some 2500) none, organizationId := some 1,
      marketingOptIn := false, buyerEmail := "ada@example.com", buyerName := "Ada",
      paymentIntent := some "pi_1" }
  phase := .received

/-- Two deliveries of one session find no order, both read what it sells, and both go on. -/
def giftRace : Config Desk Delivery :=
  [.spawn giftDelivery, .spawn giftDelivery, .act 0, .act 1, .act 0, .act 1, .act 0, .act 1].foldl
    (fun c a => webhooks.exec a c) ⟨⟨sampleState, []⟩, []⟩

/-- Two deliveries of one gift can race. -/
theorem giftRace_reachable : Reachable webhooks.system giftRace := by
  have h0 : Reachable webhooks.system ⟨⟨sampleState, []⟩, []⟩ :=
    .of_init ⟨⟨sampleState_fresh, rfl⟩, rfl⟩
  have hgift : webhooks.start giftDelivery := ⟨rfl, by decide⟩
  have h2 := Processes.reachable_spawn (Processes.reachable_spawn h0 hgift) hgift
  have hact : ∀ {c : Config Desk Delivery} (i : Nat), Reachable webhooks.system c →
      Reachable webhooks.system (webhooks.exec (.act i) c) :=
    fun i h => Processes.reachable_act h i fun _ _ => trivial
  exact hact 1 (hact 0 (hact 1 (hact 0 (hact 1 (hact 0 h2)))))

/-- The race leaves one order. -/
theorem deliveries_exactly_once_race :
    (sessionOrders giftRace.shared.state.db 1 "cs_1").map (·.total) = [2500] ∧
      ExactlyOnce giftRace 1 "cs_1" :=
  ⟨by decide, deliveries_exactly_once giftRace_reachable 1 "cs_1"⟩

end BoxOffice

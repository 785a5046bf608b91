import BoxOffice.Payments.Webhook

namespace BoxOffice

open Relational Transition

/-!
# Payments — every paid order gets its receipt?

The webhook emails the receipt only on the delivery that creates the order.  When the transport
raises there, Stripe delivers again, but that delivery finds the order and is acknowledged
without a message.

* `mailroom_desk` embeds the runs of `mailroom` into `webhooks`, so that what holds of
  interleaved deliveries holds here;
* `receipt_sent` — a receipt is never sent twice, and a delivery and its retry are acknowledged
  with the receipt sent exactly when `MailWorks` holds of the delivery;
* `receipt_lost` — without it, they are not.
-/

/-- On the delivery that creates the order the transport takes the message, and the session
    names a buyer. -/
def MailWorks (s : MailRoom) : MailOp → Prop
  | .deliver event accepts => Creates s event → accepts = true ∧ event.session.buyerEmail ≠ ""
  | .other _ => True

/-- The receipts of a session. -/
def sessionReceipts (s : MailRoom) (organization : Nat) (id : String) : List Receipt :=
  s.outbox.filter fun r => (sessionOrders s.state.db organization id).any fun o => o.id == r.order

/-- If the delivery is acknowledged and the session then has its order, the receipt of that order
    has been sent. -/
def ReceiptSent (s : MailRoom) (event : StripeEvent) (accepts : Bool) : Prop :=
  ∀ organization, orgForAccount s.state.db event.account = some organization →
    (stripeWebhook s event accepts).2 = 200 →
    ∀ o ∈ sessionOrders (stripeWebhook s event accepts).1.state.db organization.id event.session.id,
      ∃ r ∈ (stripeWebhook s event accepts).1.outbox, r.order = o.id

/-! ### Deliveries one at a time are interleavings -/

/-- A delivery that is not interrupted is a run of the interleaved system. -/
theorem webhooks_uninterrupted {st : State} {f : List (Nat × String)} {ds : List Delivery}
    (h : Reachable webhooks.system ⟨⟨st, f⟩, ds⟩) (organization : Nat) {session : CheckoutSession}
    (hid : session.id ≠ "") : ∃ f' ds', Reachable webhooks.system
      ⟨⟨exec (.fulfillCheckoutSession organization session) st, f'⟩, ds'⟩ := by
  have hact : ∀ {s : Desk} {d : Delivery}, Reachable webhooks.system ⟨s, ds ++ [d]⟩ →
      Reachable webhooks.system ⟨(deliver s d).1, ds ++ [(deliver s d).2]⟩ := by
    intro s d h
    have := Processes.reachable_act h ds.length fun _ _ => trivial
    rwa [Processes.exec_act_last] at this
  have hspawn : Reachable webhooks.system ⟨⟨st, f⟩, ds ++ [⟨organization, session, .received⟩]⟩ :=
    Processes.reachable_spawn h ⟨rfl, hid⟩
  have hrun := hact (hact (hact hspawn))
  have hstate := deliver_uninterrupted ⟨st, f⟩ organization session
  dsimp only at hstate
  rw [← hstate]
  exact ⟨_, _, hrun⟩

/-- **Embedding.** What a mail room reaches, the interleaved deliveries reach. -/
theorem mailroom_desk {s : MailRoom} (h : Reachable mailroom s) :
    ∃ f ds, Reachable webhooks.system ⟨⟨s.state, f⟩, ds⟩ := by
  refine h.invariant (I := fun s => ∃ f ds, Reachable webhooks.system ⟨⟨s.state, f⟩, ds⟩)
    (fun s hs => ⟨[], [], .of_init ⟨⟨hs.1, rfl⟩, rfl⟩⟩) fun u op v hu hs => ?_
  obtain ⟨f, ds, hr⟩ := hu
  obtain ⟨hadm, rfl⟩ := hs
  cases op with
  | deliver event accepts =>
    show ∃ f ds, Reachable webhooks.system ⟨⟨(stripeWebhook u event accepts).1.state, f⟩, ds⟩
    cases horg : orgForAccount u.state.db event.account with
    | none =>
      have hsame : (stripeWebhook u event accepts).1 = u :=
        stripeWebhook_same fun ⟨_, _, _, _, h, _⟩ => by rw [horg] at h; cases h
      rw [hsame]
      exact ⟨f, ds, hr⟩
    | some organization =>
      rw [stripeWebhook_state horg]
      exact webhooks_uninterrupted hr organization.id hadm
  | other op => exact ⟨f, ds, Processes.reachable_env hr hadm⟩

/-- The desk behind the mail room keeps its books. -/
theorem mailroom_deskBooks {s : MailRoom} (h : Reachable mailroom s) :
    ∃ f, DeskBooks ⟨s.state, f⟩ := by
  obtain ⟨f, ds, hr⟩ := mailroom_desk h
  exact ⟨f, (webhooks_interference.reachable webhooks_init hr).1⟩

/-! ### At most one receipt -/

/-- Receipts are for different orders, and for orders that exist. -/
structure Posted (s : MailRoom) : Prop where
  nodup : (s.outbox.map (·.order)).Nodup
  handed : ∀ r ∈ s.outbox, r.order < s.state.db.orders.nextId

section Outbox

variable {s : MailRoom} {event : StripeEvent} {accepts : Bool}

/-- **The step.** A delivery posts no receipt twice. -/
theorem Posted.deliver (h : Posted s) (event : StripeEvent) (accepts : Bool) :
    Posted (stripeWebhook s event accepts).1 := by
  by_cases hc : Creates s event
  · obtain ⟨organization, order, hcr⟩ := hc.created accepts
    obtain ⟨sent, hout, hsub⟩ := hcr.outbox
    have hid := hcr.newSale.order_id
    -- What is sent is about the new order, whose key was never handed out before.
    have hnext : (stripeWebhook s event accepts).1.state.db.orders.nextId
        = s.state.db.orders.nextId + 1 := by
      obtain ⟨mk, hk, ho, -⟩ := hcr.newSale.orders
      rw [ho, Table.insert_nextId]
    have hsent : ∀ r ∈ sent, r.order = order.id := fun r hr =>
      List.mem_singleton.mp (hsub.subset (List.mem_map.mpr ⟨r, hr, rfl⟩))
    constructor
    · rw [hout, List.map_append]
      refine List.nodup_append.mpr ⟨h.nodup, hsub.nodup (List.nodup_singleton _), ?_⟩
      rintro a ha b hb rfl
      obtain ⟨r, hr, rfl⟩ := List.mem_map.mp ha
      have hrid : r.order = order.id := List.mem_singleton.mp (hsub.subset hb)
      have := h.handed r hr
      omega
    · intro r hr
      rw [hout] at hr
      rw [hnext]
      rcases List.mem_append.mp hr with hr | hr
      · exact Nat.lt_succ_of_lt (h.handed r hr)
      · rw [hsent r hr, hid]
        exact Nat.lt_succ_self _
  · rw [stripeWebhook_same hc]
    exact h

/-- In every reachable state no receipt was posted twice. -/
theorem mailroom_posted {s : MailRoom} (h : Reachable mailroom s) : Posted s := by
  refine h.invariant (I := Posted) (fun s hs => ?_) fun u op v hu hs => ?_
  · exact ⟨by rw [hs.2]; exact .nil, fun r hr => by rw [hs.2] at hr; cases hr⟩
  · obtain ⟨-, rfl⟩ := hs
    cases op with
    | deliver event accepts => exact hu.deliver event accepts
    | other op =>
      exact ⟨hu.nodup, fun r hr => lt_of_lt_of_le (hu.handed r hr) (exec_booked op u.state).next⟩

/-- A session with one order has one receipt. -/
theorem sessionReceipts_length (h : Posted s) (organization : Nat) (id : String)
    (honce : (sessionOrders s.state.db organization id).length ≤ 1) :
    (sessionReceipts s organization id).length ≤ 1 := by
  have hnd : ((sessionReceipts s organization id).map (·.order)).Nodup :=
    h.nodup.sublist (List.filter_sublist.map _)
  have hsub : (sessionReceipts s organization id).map (·.order) ⊆
      (sessionOrders s.state.db organization id).map (·.id) := by
    intro n hn
    obtain ⟨r, hr, rfl⟩ := List.mem_map.mp hn
    obtain ⟨o, ho, heq⟩ := List.any_eq_true.mp (List.mem_filter.mp hr).2
    exact List.mem_map.mpr ⟨o, ho, beq_iff_eq.mp heq⟩
  have hle := (List.subperm_of_subset hnd hsub).length_le
  rw [List.length_map, List.length_map] at hle
  exact hle.trans honce

end Outbox

/-! ### At least one receipt -/

/-- Every order of a session has its receipt. -/
def Receipted (s : MailRoom) : Prop := ∀ organization id,
  ∀ n ∈ (sessionOrders s.state.db organization id).map (·.id), ∃ r ∈ s.outbox, r.order = n

section Receipted

variable {s : MailRoom} {event : StripeEvent} {accepts : Bool}

/-- Receipts stay complete through a delivery when the mail works. -/
theorem Receipted.deliver (h : Receipted s) (hw : MailWorks s (.deliver event accepts)) :
    Receipted (stripeWebhook s event accepts).1 := by
  by_cases hc : Creates s event
  · obtain ⟨organization, order, hcr⟩ := hc.created accepts
    obtain ⟨haccepts, hemail⟩ := hw hc
    obtain ⟨sent, hout, -⟩ := hcr.outbox
    intro n id m hm
    rw [hcr.newSale.sessionOrders, List.map_append] at hm
    rcases List.mem_append.mp hm with hm | hm
    · obtain ⟨r, hr, hro⟩ := h n id m hm
      exact ⟨r, by rw [hout]; exact List.mem_append_left _ hr, hro⟩
    · obtain ⟨o, ho, rfl⟩ := List.mem_map.mp hm
      rw [List.mem_singleton.mp (List.mem_of_mem_filter ho)]
      exact hcr.mailed hemail haccepts
  · rw [stripeWebhook_same hc]
    exact h

/-- **Invariant.** While the mail works, every order of a session has its receipt. -/
theorem mailroom_receipted (h : Reachable (mailroom.restrict MailWorks) s) : Receipted s := by
  refine h.invariant (I := Receipted) (fun s hs n id m hm => ?_) fun u op v hu hs => ?_
  · unfold sessionOrders at hm
    rw [hs.1.orders] at hm
    cases hm
  · obtain ⟨⟨hadm, rfl⟩, hw⟩ := hs
    cases op with
    | deliver event accepts => exact hu.deliver hw
    | other op =>
      intro n id m hm
      rw [show sessionOrders (MailOp.exec (.other op) u).state.db n id
        = sessionOrders (exec op u.state).db n id from rfl, exec_sessionOrders hadm.2] at hm
      exact hu n id m hm

/-- After a delivery its session has nothing left to create. -/
theorem not_creates_again : ¬Creates (stripeWebhook s event accepts).1 event := by
  by_cases hc : Creates s event
  · obtain ⟨organization, order, hcr⟩ := hc.created accepts
    rintro ⟨organization', _, _, _, horg', hnone, -⟩
    have hsame : organization' = organization := by
      have horg := hcr.account
      unfold orgForAccount at horg horg'
      rw [hcr.organizations] at horg'
      exact Option.some.inj (horg'.symm.trans horg)
    rw [hsame] at hnone
    -- The new order is one of the session.
    obtain ⟨mk, hk, ho, hmk⟩ := hcr.newSale.orders
    have hmem : order ∈ (stripeWebhook s event accepts).1.state.db.orders.rows := by
      rw [ho, ← hmk]
      exact Table.mem_insert.mpr (.inr rfl)
    exact existingOrder_none hnone order hmem hcr.ofOrganization hcr.ofSession
  · rw [stripeWebhook_same hc]
    exact hc

/-- After a delivery the receipt was sent. -/
theorem receiptSent_of_receipted (h : Receipted (stripeWebhook s event accepts).1) :
    ReceiptSent s event accepts :=
  fun organization _ _ o ho => h organization.id event.session.id o.id
    (List.mem_map.mpr ⟨o, ho, rfl⟩)

/-- **A lost receipt.** When the delivery that creates the order does not get its message out, the
    retry is acknowledged, and the receipt is not sent. -/
theorem receipt_lost (hp : Posted s) (hc : Creates s event)
    (hfail : event.session.buyerEmail = "" ∨ accepts = false) (again : Bool) :
    ¬ReceiptSent (stripeWebhook s event accepts).1 event again := by
  obtain ⟨organization, order, hcr⟩ := hc.created accepts
  intro hsent
  have horg : orgForAccount (stripeWebhook s event accepts).1.state.db event.account
      = some organization := by
    have := hcr.account
    unfold orgForAccount at this ⊢
    rw [hcr.organizations]
    exact this
  have hmem : order ∈ sessionOrders (stripeWebhook s event accepts).1.state.db organization.id
      event.session.id := by
    rw [hcr.newSale.sessionOrders]
    refine List.mem_append_right _ (List.mem_filter.mpr ⟨List.mem_singleton.mpr rfl, ?_⟩)
    rw [hcr.ofOrganization, hcr.ofSession]
    simp
  obtain ⟨o, ho⟩ : ∃ o, existingOrder (stripeWebhook s event accepts).1.state.db organization.id
      event.session.id = some o := by
    cases he : existingOrder (stripeWebhook s event accepts).1.state.db organization.id
      event.session.id with
    | some o => exact ⟨o, rfl⟩
    | none =>
      exact absurd hcr.ofSession (existingOrder_none he order (List.mem_of_mem_filter hmem)
        hcr.ofOrganization)
  have hagain := (@stripeWebhook_existing _ _ again) horg ho
  obtain ⟨r, hr, hro⟩ := hsent organization horg (by rw [hagain]) order (by rw [hagain]; exact hmem)
  -- Nothing was sent, and the order is younger than every receipt.
  rw [hagain, hcr.unmailed hfail] at hr
  exact absurd (hro.trans hcr.newSale.order_id) (hp.handed r hr).ne

end Receipted

/-- **Receipts.** However deliveries fail and repeat, the receipt of a session is sent at most
    once.  In a run in which the mail has worked so far, a delivery and every immediate retry are
    acknowledged only with the receipt sent, exactly when the mail works on this delivery too. -/
theorem receipt_sent (s : MailRoom) :
    (Reachable mailroom s → ∀ organization id,
      (sessionReceipts s organization id).length ≤ 1) ∧
    (Reachable (mailroom.restrict MailWorks) s → ∀ event accepts,
      MailWorks s (.deliver event accepts) ↔ ReceiptSent s event accepts ∧
        ∀ again, ReceiptSent (stripeWebhook s event accepts).1 event again) := by
  refine ⟨fun h organization id => ?_, fun h event accepts => ⟨fun hw => ?_, fun hsent hc => ?_⟩⟩
  · obtain ⟨f, hb⟩ := mailroom_deskBooks h
    exact sessionReceipts_length (mailroom_posted h) organization id (hb.once organization id)
  · have hafter := (mailroom_receipted h).deliver hw
    refine ⟨receiptSent_of_receipted hafter, fun again => receiptSent_of_receipted ?_⟩
    rw [stripeWebhook_same not_creates_again]
    exact hafter
  · have hp := mailroom_posted h.of_restrict
    by_contra hnot
    have hfail : event.session.buyerEmail = "" ∨ accepts = false := by
      by_cases hblank : event.session.buyerEmail = ""
      · exact .inl hblank
      · exact .inr (Bool.eq_false_of_not_eq_true fun hok => hnot ⟨hok, hblank⟩)
    exact receipt_lost hp hc hfail accepts (hsent.2 accepts)

/-! ### A gift -/

/-- The sample session, as an event of the theater's account. -/
def giftEvent : StripeEvent := ⟨some "acct_1", giftDelivery.session⟩

/-- The sample mail room is reachable. -/
theorem sampleRoom_reachable : Reachable (mailroom.restrict MailWorks) ⟨sampleState, []⟩ :=
  .of_init ⟨sampleState_fresh, rfl⟩

/-- Delivered with a working transport, the gift is acknowledged and its receipt sent. -/
theorem receipt_sent_gift :
    (stripeWebhook ⟨sampleState, []⟩ giftEvent true).2 = 200 ∧
      ReceiptSent ⟨sampleState, []⟩ giftEvent true :=
  ⟨by decide, (((receipt_sent _).2 sampleRoom_reachable giftEvent true).mp
    fun _ => ⟨rfl, by decide⟩).1⟩

/-- The transport refuses the receipt of the gift, and the retry is acknowledged without it. -/
theorem gift_receipt_lost :
    ¬∀ s, Reachable mailroom s → ∀ event accepts, event.session.id ≠ "" →
      ReceiptSent s event accepts := by
  intro hall
  have hstart : Reachable mailroom ⟨sampleState, []⟩ := .of_init ⟨sampleState_fresh, rfl⟩
  have hid : giftEvent.session.id ≠ "" := by decide
  have hfirst : Reachable mailroom (stripeWebhook ⟨sampleState, []⟩ giftEvent false).1 :=
    hstart.step (i := .deliver giftEvent false) ⟨hid, rfl⟩
  have hsent := hall _ hfirst giftEvent true hid
  obtain ⟨organization, horg, hstatus, hlost⟩ :
      ∃ organization, orgForAccount (stripeWebhook ⟨sampleState, []⟩ giftEvent false).1.state.db
          giftEvent.account = some organization ∧
        (stripeWebhook (stripeWebhook ⟨sampleState, []⟩ giftEvent false).1 giftEvent true).2 = 200 ∧
        ∃ o ∈ sessionOrders (stripeWebhook (stripeWebhook ⟨sampleState, []⟩ giftEvent false).1
            giftEvent true).1.state.db organization.id giftEvent.session.id,
          ∀ r ∈ (stripeWebhook (stripeWebhook ⟨sampleState, []⟩ giftEvent false).1 giftEvent
            true).1.outbox, r.order ≠ o.id :=
    ⟨Organization.mk 1 "Playhouse" "USD" "acct_1" true none, by decide, by decide, by decide⟩
  obtain ⟨o, ho, hnone⟩ := hlost
  obtain ⟨r, hr, hro⟩ := hsent organization horg hstatus o ho
  exact hnone r hr hro

end BoxOffice

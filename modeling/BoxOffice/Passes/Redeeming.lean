import BoxOffice.Inventory.Availability
import BoxOffice.Payments.AppendOnly
import BoxOffice.Passes.Entitlement
import Mathlib.Data.List.Dedup

namespace BoxOffice

open Relational Transition

/-!
# Passes — what the pages promise about a redemption

* `remainingAdmissions` is the number a holder is shown, `redeemableWithPass` decides whether the
  cart shows the redeem button;
* `RedemptionsSound` — redemptions are of covered events, and their tickets have been issued;
* `remaining_exact` — the number shown for a season pass is that of the covered events that are
  still open;
* `redeem_button_exact` — a redemption goes through exactly when the button is there, the pass is
  live and of the organization, the cart is free of promo code and gift, and a season pass was
  not used for the event.
-/

/-- The events a pass has been redeemed for. -/
def redeemedEvents (db : Db) (p : PassPurchase) : List Nat :=
  ((db.passRedemptions.rows.filter fun r => r.passPurchase == p.id).map (·.event)).dedup

/-- `remaining_admissions`; `none` is unbounded.  The covered events are a set. -/
def remainingAdmissions (db : Db) (p : PassPurchase) : Option Nat :=
  match p.kind with
  | .flex => p.creditsRemaining
  | .season =>
    let coveredCount := p.coveredEvents.dedup.length
    if coveredCount = 0 then none else some (coveredCount - (redeemedEvents db p).length)

/-- `redeemable_with_pass`, for a pass that is being redeemed. -/
def redeemableWithPass (db : Db) (hold : Hold) (performance : Performance) (p : PassPurchase) :
    Bool :=
  if passCoversPerformance p performance = false then false
  else
    let quantity := ticketCount db hold
    if quantity = 0 then false
    else
      match p.kind with
      | .flex =>
        match remainingAdmissions db p with
        | none => true
        | some remaining => decide (quantity ≤ remaining)
      | .season => quantity == 1

/-- The covered events a pass was not redeemed for. -/
def openEvents (db : Db) (p : PassPurchase) : List Nat :=
  p.coveredEvents.dedup.filter fun e => !(redeemedEvents db p).contains e

/-- Redemptions are of covered events, their tickets have been issued, and a flex pass has a
    counter. -/
structure RedemptionsSound (db : Db) : Prop where
  covered : ∀ r ∈ db.passRedemptions.rows, ∃ p ∈ db.passPurchases.rows,
    p.id = r.passPurchase ∧ (p.coveredEvents = [] ∨ r.event ∈ p.coveredEvents)
  issued : ∀ r ∈ db.passRedemptions.rows, r.ticket < db.tickets.nextId
  counted : ∀ p ∈ db.passPurchases.rows, p.kind = .flex → p.creditsRemaining.isSome = true

section Sound

variable {db db' : Db} {now : Time} {hold : Hold} {order : Order}

/-- The events a pass was redeemed for. -/
theorem mem_redeemedEvents {p : PassPurchase} {e : Nat} :
    e ∈ redeemedEvents db p ↔ ∃ r ∈ db.passRedemptions.rows, r.passPurchase = p.id ∧ r.event = e := by
  unfold redeemedEvents
  simp only [List.mem_dedup, List.mem_map, List.mem_filter, beq_iff_eq, and_assoc]

/-- Old passes later, new ones with a counter; old redemptions, and new ones that are sound. -/
theorem RedemptionsSound.step (hs : RedemptionsSound db)
    (htickets : db.tickets.nextId ≤ db'.tickets.nextId)
    (hpasses : db.passPurchases.Grows PassPurchase.Later db'.passPurchases)
    (hnew : ∀ p' ∈ db'.passPurchases.rows, (∃ p ∈ db.passPurchases.rows, p.Later p') ∨
      (p'.kind = .flex → p'.creditsRemaining.isSome = true))
    (hredemptions : ∀ r ∈ db'.passRedemptions.rows, r ∈ db.passRedemptions.rows ∨
      r.ticket < db'.tickets.nextId ∧ ∃ p ∈ db'.passPurchases.rows,
        p.id = r.passPurchase ∧ (p.coveredEvents = [] ∨ r.event ∈ p.coveredEvents)) :
    RedemptionsSound db' where
  covered := fun r hr => by
    rcases hredemptions r hr with hr | ⟨-, hr⟩
    · obtain ⟨p, hp, hid, hcovered⟩ := hs.covered r hr
      obtain ⟨p', hp', hlater⟩ := hpasses.exists_mem hp
      refine ⟨p', hp', ?_⟩
      rw [hlater.columns]
      exact ⟨hid, hcovered⟩
    · exact hr
  issued := fun r hr => by
    rcases hredemptions r hr with hr | ⟨hlt, -⟩
    · exact (hs.issued r hr).trans_le htickets
    · exact hlt
  counted := fun p' hp' hk => by
    rcases hnew p' hp' with ⟨p, hp, hlater⟩ | hnew
    · refine hlater.counted (hs.counted p hp ?_)
      rw [← hk, hlater.columns]
    · exact hnew hk

/-- A write that leaves the passes and their redemptions alone. -/
theorem RedemptionsSound.of_eq (hs : RedemptionsSound db)
    (htickets : db.tickets.nextId ≤ db'.tickets.nextId)
    (hpasses : db'.passPurchases = db.passPurchases)
    (hredemptions : db'.passRedemptions = db.passRedemptions) : RedemptionsSound db' :=
  hs.step htickets (.of_eq PassPurchase.Later.refl hpasses)
    (fun p hp => .inl ⟨p, hpasses ▸ hp, .refl p⟩) fun _ hr => .inl (hredemptions ▸ hr)

/-- An undo. -/
theorem RedemptionsSound.undo (hs : RedemptionsSound db)
    (htickets : db'.tickets.nextId = db.tickets.nextId)
    (hpasses : db.passPurchases.Rewritten PassPurchase.Later db'.passPurchases)
    (hredemptions : ∀ r ∈ db'.passRedemptions.rows, r ∈ db.passRedemptions.rows) :
    RedemptionsSound db' :=
  hs.step htickets.ge hpasses.grows (fun _ hp => .inl (hpasses.exists_mem hp))
    fun r hr => .inl (hredemptions r hr)

/-- Minting takes keys. -/
theorem nextId_le_insertMany {tickets : Table Ticket} {seats : List (Option Nat)} :
    tickets.nextId ≤ (tickets.insertMany (newTicket hold order) seats).nextId := by
  induction seats generalizing tickets with
  | nil => exact le_rfl
  | cons s rest ih =>
    have hrest := @ih (tickets.insert (newTicket hold order s))
    exact (Nat.le_succ _).trans hrest

/-- A redemption keeps the redemptions sound. -/
theorem fulfillHoldWithPass_sound {passPurchase : Nat} {email name : String} {optIn : Bool}
    (hs : RedemptionsSound db)
    (h : fulfillHoldWithPass db now hold passPurchase email name optIn = .ok (db', order)) :
    RedemptionsSound db' := by
  obtain ⟨p, performance, hpass, -, -, -, -, -, hadmits, guests, guest, -, -, rfl⟩ :=
    fulfillHoldWithPass_ok h
  have hcharged := chargedPasses_rewritten (Table.get?_mem hpass) hadmits.redeemable
    (ticketCount db hold)
  refine hs.step nextId_le_insertMany hcharged.grows (fun _ hp => .inl (hcharged.exists_mem hp))
    fun r hr => ?_
  rcases Table.mem_insertMany hr with hr | ⟨t, ht, i, -, rfl⟩
  · exact .inl hr
  · refine .inr ⟨Table.fresh _ t (List.mem_filter.mp ht).1, ?_⟩
    obtain ⟨p', hp', hlater⟩ := hcharged.grows.exists_mem (Table.get?_mem hpass)
    refine ⟨p', hp', ?_⟩
    rw [hlater.columns]
    refine ⟨rfl, ?_⟩
    have hcovers := hadmits.covers
    unfold passCoversPerformance at hcovers
    rw [Bool.and_eq_true, Bool.and_eq_true, Bool.or_eq_true, beq_iff_eq,
      List.contains_iff_mem] at hcovers
    exact hcovers.1.1

/-- **The step.** So does every operation. -/
theorem exec_sound {s : State} (op : Op) (hs : RedemptionsSound s.db) :
    RedemptionsSound (exec op s).db := by
  cases exec_sale op s with
  | none h => exact hs.of_eq (by rw [h.tickets]) h.passPurchases h.passRedemptions
  | hold hold args order _ _ h =>
    obtain ⟨guests, guest, -, -, -, -, hdb⟩ := fulfillHold_ok h
    rw [hdb]
    exact hs.of_eq nextId_le_insertMany rfl rfl
  | withPass _ _ _ _ _ _ _ h => exact fulfillHoldWithPass_sound hs h
  | donation organization amount campaign args order _ h =>
    obtain ⟨guests, guest, -, -, -, hdb⟩ := fulfillDonation_ok h
    rw [hdb]
    exact hs.of_eq le_rfl rfl rfl
  | passSale organization product args order _ h =>
    obtain ⟨guests, guest, -, -, -, -, hdb⟩ := fulfillPassPurchase_ok h
    rw [hdb]
    refine hs.step le_rfl (Table.grows_append PassPurchase.Later.refl rfl) (fun p hp => ?_)
      fun _ hr => .inl hr
    have hp : p ∈ s.db.passPurchases.rows ++ [newPassPurchase order product guest _] := hp
    rcases List.mem_append.mp hp with hp | hp
    · exact .inl ⟨p, hp, .refl p⟩
    · rw [List.mem_singleton] at hp
      -- The terms of the product give a flex pass its counter.
      subst hp
      refine .inr fun hk => ?_
      rcases product.creditShape with ⟨-, n, hn, -⟩ | ⟨hseason, -⟩
      · exact Option.isSome_iff_exists.mpr ⟨n, hn⟩
      · exact absurd (hk.symm.trans hseason) (by decide)
  | void order _ _ h =>
    rw [h, voidOrder_fst]
    exact hs.of_eq le_rfl rfl rfl
  | refund order gateway performed h =>
    obtain ⟨o, ho, ⟨-, hdb, -⟩ | ⟨-, -, -, provider, ref, hdb⟩⟩ := refundOrder_ok h
    · rw [hdb]
      exact hs
    · rw [hdb, refundedDb_eq]
      exact hs.undo rfl ((restoredPasses_rewritten _ _).trans PassPurchase.Later.trans
        (refundedPasses_rewritten _ _ _)) fun _ hr => (Table.mem_delete.mp hr).1
  | cancel order _ _ h =>
    rw [h]
    unfold orderCancel
    split_ifs
    · exact hs
    · rw [undoOrder_eq]
      exact hs.undo rfl (restoredPasses_rewritten _ _) fun _ hr => (Table.mem_delete.mp hr).1

/-- In every reachable state the redemptions are sound and the books linked. -/
theorem sound_reachable {s : State} (h : Reachable boxOffice s) :
    RedemptionsSound s.db ∧ Linked s.db :=
  h.invariant (I := fun u => RedemptionsSound u.db ∧ Linked u.db)
    (fun u h0 => by
      have hfresh : Fresh u := h0
      refine ⟨⟨fun r hr => ?_, fun r hr => ?_, fun p hp => ?_⟩, hfresh.linked⟩
      · rw [hfresh.passRedemptions] at hr
        cases hr
      · rw [hfresh.passRedemptions] at hr
        cases hr
      · rw [hfresh.passPurchases] at hp
        cases hp)
    fun u op _ hu hstep => by
      rw [hstep.2]
      exact ⟨exec_sound op hu.1, (exec_booked op u).linked hu.2⟩

end Sound

/-! ### A pass with a cart -/

/-- The pass with a cart is one of the box office. -/
theorem passCart_boxOffice : Reachable boxOffice passCart := passCart_reachable.of_restrict

/-! ### The number a holder is shown -/

section Remaining

variable {db db' : Db} {now : Time} {p : PassPurchase} {hold : Hold} {order : Order}

/-- What a pass was redeemed for is covered. -/
theorem RedemptionsSound.redeemed_subset (hs : RedemptionsSound db)
    (hp : p ∈ db.passPurchases.rows) (hbounded : p.coveredEvents ≠ []) :
    redeemedEvents db p ⊆ p.coveredEvents.dedup := by
  intro e he
  obtain ⟨r, hr, hrp, rfl⟩ := mem_redeemedEvents.mp he
  obtain ⟨q, hq, hid, hcovered⟩ := hs.covered r hr
  rw [Table.eq_of_key_eq hq hp (hid.trans hrp)] at hcovered
  exact List.mem_dedup.mpr (hcovered.resolve_left hbounded)

/-- The covered events are the open ones and those redeemed. -/
theorem RedemptionsSound.openEvents_add (hs : RedemptionsSound db)
    (hp : p ∈ db.passPurchases.rows) (hbounded : p.coveredEvents ≠ []) :
    (openEvents db p).length + (redeemedEvents db p).length = p.coveredEvents.dedup.length := by
  have hsplit := List.length_eq_length_filter_add
    (l := p.coveredEvents.dedup) fun e => !(redeemedEvents db p).contains e
  have hperm : (p.coveredEvents.dedup.filter fun e => !!(redeemedEvents db p).contains e).Perm
      (redeemedEvents db p) := by
    refine (List.perm_ext_iff_of_nodup ((List.nodup_dedup _).filter _) (List.nodup_dedup _)).mpr
      fun e => ?_
    rw [List.mem_filter, Bool.not_not, List.contains_iff_mem]
    exact ⟨fun h => h.2, fun h => ⟨hs.redeemed_subset hp hbounded h, h⟩⟩
  rw [hsplit, hperm.length_eq]
  rfl

/-- The number of a season pass that covers chosen events. -/
theorem remainingAdmissions_season (hk : p.kind = .season) (hbounded : p.coveredEvents ≠ []) :
    remainingAdmissions db p
      = some (p.coveredEvents.dedup.length - (redeemedEvents db p).length) := by
  have hpos : p.coveredEvents.dedup.length ≠ 0 := fun h => hbounded (by
    obtain ⟨e, he⟩ := List.exists_mem_of_ne_nil _ hbounded
    have hmem := List.mem_dedup.mpr he
    rw [List.length_eq_zero_iff.mp h] at hmem
    cases hmem)
  unfold remainingAdmissions
  rw [hk]
  exact if_neg hpos

/-- That of one that covers all. -/
theorem remainingAdmissions_unbounded (hk : p.kind = .season) (hall : p.coveredEvents = []) :
    remainingAdmissions db p = none := by
  unfold remainingAdmissions
  rw [hk, hall]
  rfl

/-- That of a flex pass. -/
theorem remainingAdmissions_flex (hk : p.kind = .flex) :
    remainingAdmissions db p = p.creditsRemaining := by
  unfold remainingAdmissions
  rw [hk]

/-- The number shown is that of the open events. -/
theorem RedemptionsSound.remaining_eq (hs : RedemptionsSound db)
    (hp : p ∈ db.passPurchases.rows) (hk : p.kind = .season) (hbounded : p.coveredEvents ≠ []) :
    remainingAdmissions db p = some (openEvents db p).length := by
  rw [remainingAdmissions_season hk hbounded, ← hs.openEvents_add hp hbounded,
    Nat.add_sub_cancel]

/-- The pass after its own redemption. -/
theorem charged_get? (hp : db.passPurchases.get? p.id = some p) (n : Nat) :
    (chargedPasses db.passPurchases p n).get? p.id
      = some (if p.kind = .flex then burnCredits n p else p) := by
  unfold chargedPasses
  split_ifs with hk
  · rw [Table.get?_update, hp]
    simp
  · exact hp

/-- A redemption adds the event of the performance to those redeemed. -/
theorem mem_redeemedEvents_redeem {performance : Performance} {items : List OrderItem}
    {tickets : List Ticket} {e : Nat} (hsome : tickets ≠ [])
    (hr : db'.passRedemptions
      = db.passRedemptions.insertMany (newRedemption p order performance items) tickets) :
    e ∈ redeemedEvents db' p ↔ e = performance.event ∨ e ∈ redeemedEvents db p := by
  rw [mem_redeemedEvents, mem_redeemedEvents, hr]
  constructor
  · rintro ⟨r, hr, hrp, rfl⟩
    rcases Table.mem_insertMany hr with hr | ⟨t, -, i, -, rfl⟩
    · exact .inr ⟨r, hr, hrp, rfl⟩
    · exact .inl rfl
  · rintro (rfl | ⟨r, hr, hrp, rfl⟩)
    · obtain ⟨t, ht⟩ := List.exists_mem_of_ne_nil _ hsome
      obtain ⟨i, -, hi⟩ := Table.exists_mem_insertMany (t := db.passRedemptions)
        (newRedemption p order performance items) (fun _ _ => rfl) ht
      exact ⟨_, hi, rfl, rfl⟩
    · exact ⟨r, Table.mem_insertMany_of_mem hr, hrp, rfl⟩

/-- A redemption adds one event to those of its pass. -/
theorem length_redeemedEvents_redeem {performance : Performance} {items : List OrderItem}
    {tickets : List Ticket} (hsome : tickets ≠ [])
    (hr : db'.passRedemptions
      = db.passRedemptions.insertMany (newRedemption p order performance items) tickets)
    (hunused : ∀ r ∈ db.passRedemptions.rows, r.passPurchase = p.id → r.event ≠ performance.event) :
    (redeemedEvents db' p).length = (redeemedEvents db p).length + 1 := by
  have hnew : performance.event ∉ redeemedEvents db p := fun h => by
    obtain ⟨r, hr, hrp, hre⟩ := mem_redeemedEvents.mp h
    exact hunused r hr hrp hre
  have hperm : (redeemedEvents db' p).Perm (performance.event :: redeemedEvents db p) := by
    refine (List.perm_ext_iff_of_nodup (List.nodup_dedup _)
      (List.nodup_cons.mpr ⟨hnew, List.nodup_dedup _⟩)).mpr fun e => ?_
    rw [List.mem_cons]
    exact mem_redeemedEvents_redeem hsome hr
  rw [hperm.length_eq, List.length_cons]

/-- A redemption takes its credits. -/
theorem burnCredits_creditsRemaining (n : Nat) (p : PassPurchase) :
    (burnCredits n p).creditsRemaining = some (p.creditsRemaining.getD 0 - n) := by
  unfold burnCredits
  dsimp only
  split_ifs <;> rfl

/-- A redemption lowers the number shown by the tickets it mints, which are no more than that. -/
theorem remaining_redeem (hs : RedemptionsSound db) (hl : Linked db)
    (hp : db.passPurchases.get? p.id = some p) {email name : String} {optIn : Bool}
    (h : fulfillHoldWithPass db now hold p.id email name optIn = .ok (db', order)) :
    ∃ p', db'.passPurchases.get? p.id = some p' ∧
      remainingAdmissions db' p' = (remainingAdmissions db p).map (· - ticketCount db hold) ∧
      ∀ r ∈ remainingAdmissions db p, ticketCount db hold ≤ r := by
  have hid := (fulfillHoldWithPass_sold h).order_id
  obtain ⟨q, performance, hq, -, -, -, -, -, hadmits, guests, guest, -, -, hdb⟩ :=
    fulfillHoldWithPass_ok h
  obtain rfl : p = q := Option.some.inj (hp.symm.trans hq)
  refine ⟨_, by rw [hdb]; exact charged_get? hp _, ?_⟩
  cases hk : p.kind with
  | flex =>
    rw [if_pos rfl, remainingAdmissions_flex ((burnCredits_kind _ _).trans hk),
      remainingAdmissions_flex hk, burnCredits_creditsRemaining]
    obtain ⟨c, hc⟩ := Option.isSome_iff_exists.mp (hs.counted p (Table.get?_mem hp) hk)
    have hfits := hadmits.flex hk
    rw [hc] at hfits ⊢
    exact ⟨rfl, fun r hr => by cases hr; exact hfits⟩
  | season =>
    rw [if_neg (by decide)]
    obtain ⟨hone, hunused⟩ := hadmits.season hk
    by_cases hall : p.coveredEvents = []
    · rw [remainingAdmissions_unbounded hk hall, remainingAdmissions_unbounded hk hall]
      exact ⟨rfl, fun r hr => by cases hr⟩
    · have hminted : ((db.tickets.insertMany (newTicket hold order)
          (soldSeats db hold)).rows.filter fun t => t.order == order.id) ≠ [] :=
        List.ne_nil_of_length_pos (by
          rw [length_mintedTickets hl hid, ← ticketCount_eq_length, hone]
          exact one_pos)
      have hstep : (redeemedEvents db' p).length = (redeemedEvents db p).length + 1 :=
        length_redeemedEvents_redeem hminted (by rw [hdb]) hunused
      rw [remainingAdmissions_season hk hall, remainingAdmissions_season hk hall, hstep, hone]
      refine ⟨by rw [Option.map_some, Nat.sub_sub], fun r hr => ?_⟩
      cases hr
      -- The event of the performance is covered and was open.
      have hcovers := hadmits.covers
      unfold passCoversPerformance at hcovers
      rw [Bool.and_eq_true, Bool.and_eq_true, Bool.or_eq_true, beq_iff_eq,
        List.contains_iff_mem] at hcovers
      have hopen : performance.event ∈ openEvents db p := by
        unfold openEvents
        rw [List.mem_filter, List.mem_dedup, Bool.not_eq_true', Bool.eq_false_iff, ne_eq,
          List.contains_iff_mem, mem_redeemedEvents]
        exact ⟨hcovers.1.1.resolve_left hall, fun hr => by
          obtain ⟨r, hr, hrp, hre⟩ := hr
          exact hunused r hr hrp hre⟩
      have hsum := hs.openEvents_add (Table.get?_mem hp) hall
      have hpos := List.length_pos_of_mem hopen
      omega

/-- **The number shown.** In every state of the box office the number of a season pass that
    covers chosen events is that of the covered events it was not redeemed for, so its floor at
    zero never counts; and every redemption lowers the number of its pass, credits or events, by
    exactly the tickets it mints, of which there are never more than were shown. -/
theorem remaining_exact {s : State} (h : Reachable boxOffice s) {p : PassPurchase}
    (hp : s.db.passPurchases.get? p.id = some p) :
    (p.kind = .season → p.coveredEvents ≠ [] →
      remainingAdmissions s.db p = some (openEvents s.db p).length ∧
      (openEvents s.db p).length + (redeemedEvents s.db p).length
        = p.coveredEvents.dedup.length) ∧
    ∀ hold email name optIn db' order,
      fulfillHoldWithPass s.db s.now hold p.id email name optIn = .ok (db', order) →
      ∃ p', db'.passPurchases.get? p.id = some p' ∧
        remainingAdmissions db' p'
          = (remainingAdmissions s.db p).map (· - (soldSeats s.db hold).length) ∧
        (∀ r ∈ remainingAdmissions s.db p, (soldSeats s.db hold).length ≤ r) ∧
        (db'.tickets.rows.filter fun t => t.order == order.id).length
          = (soldSeats s.db hold).length := by
  obtain ⟨hs, hl⟩ := sound_reachable h
  refine ⟨fun hk hbounded => ⟨hs.remaining_eq (Table.get?_mem hp) hk hbounded,
    hs.openEvents_add (Table.get?_mem hp) hbounded⟩, fun hold email name optIn db' order hok => ?_⟩
  obtain ⟨p', hp', hleft, hfits⟩ := remaining_redeem hs hl hp hok
  have hsold := fulfillHoldWithPass_sold hok
  rw [ticketCount_eq_length] at hleft hfits
  refine ⟨p', hp', hleft, hfits, ?_⟩
  rw [hsold.tickets]
  exact length_mintedTickets hl hsold.order_id

/-- The sample theater with a second event and a season pass for both. -/
def seasonDb : Db :=
  { sampleDb with
    events := sampleDb.events.insert fun id => Event.mk id 1 "The Tempest"
    passProducts := Table.empty.insert fun id =>
      PassProduct.mk id 1 "Season" .season 9000 none none none [1, 2] true
        (Or.inr (And.intro rfl rfl)) }

/-- The theater with a season pass is fresh. -/
theorem seasonDb_fresh : Fresh ⟨seasonDb, 0⟩ where
  holds := rfl
  orders := rfl
  orderItems := rfl
  tickets := rfl
  payments := rfl
  passPurchases := rfl
  passRedemptions := rfl
  sold := by decide
  allocations := by decide

/-- The season pass was bought there, and the session `a` took a place for the first event. -/
def seasonCart : State :=
  exec (.setGaHold 1 1 "a" 1 1) (exec (.fulfillPassPurchase 1 1 sampleArgs) ⟨seasonDb, 0⟩)

/-- The season pass with a cart is reachable. -/
theorem seasonCart_boxOffice : Reachable boxOffice seasonCart :=
  reachable_exec (reachable_exec (.of_init seasonDb_fresh) trivial) trivial

/-- Four credits are shown, and three after the place in the cart was redeemed; the pass for a
    season of two events, neither used so far, shows two, and one after the redemption. -/
theorem remaining_exact_carts :
    (∃ p ∈ seasonCart.db.passPurchases.rows, p.coveredEvents = [1, 2] ∧
      remainingAdmissions seasonCart.db p = some (openEvents seasonCart.db p).length ∧
      (openEvents seasonCart.db p).length + (redeemedEvents seasonCart.db p).length = 2) ∧
    ∀ cart ∈ [(passCart, 4), (seasonCart, 2)], ∃ p hold db' order p',
      fulfillHoldWithPass cart.1.db cart.1.now hold p.id "ada@example.com" "Ada" false
        = .ok (db', order) ∧
      remainingAdmissions cart.1.db p = some cart.2 ∧
      db'.passPurchases.get? p.id = some p' ∧
      remainingAdmissions db' p' = some (cart.2 - 1) ∧
      (db'.tickets.rows.filter fun t => t.order == order.id).length = 1 := by
  constructor
  -- The pass for a season was sold with events, so its remaining ones are the open ones.
  · obtain ⟨p, hp, hkind, hcovered⟩ : ∃ p ∈ seasonCart.db.passPurchases.rows,
        p.kind = .season ∧ p.coveredEvents = [1, 2] := by decide
    have hbounded : p.coveredEvents ≠ [] := by
      rw [hcovered]
      decide
    obtain ⟨hshown, hsum⟩ := (remaining_exact seasonCart_boxOffice
      (Table.get?_eq_some.mpr ⟨hp, rfl⟩)).1 hkind hbounded
    rw [hcovered] at hsum
    exact ⟨p, hp, hcovered, hshown, hsum⟩
  · intro cart hcart
    have hr : Reachable boxOffice cart.1 := by
      rcases List.mem_pair.mp hcart with rfl | rfl
      · exact passCart_boxOffice
      · exact seasonCart_boxOffice
    obtain ⟨p, hp, hold, -, hshown, hseats, hok⟩ : ∃ p ∈ cart.1.db.passPurchases.rows,
        ∃ hold ∈ cart.1.db.holds.rows, remainingAdmissions cart.1.db p = some cart.2 ∧
          (soldSeats cart.1.db hold).length = 1 ∧
          (fulfillHoldWithPass cart.1.db cart.1.now hold p.id "ada@example.com" "Ada"
            false).toBool = true := by
      rcases List.mem_pair.mp hcart with rfl | rfl
      · decide
      · decide
    -- The rest of both carts follows from the theorem and from what can be evaluated.
    have hget : cart.1.db.passPurchases.get? p.id = some p := Table.get?_eq_some.mpr ⟨hp, rfl⟩
    cases hrun : fulfillHoldWithPass cart.1.db cart.1.now hold p.id "ada@example.com" "Ada"
        false with
    | error e =>
      rw [hrun] at hok
      cases hok
    | ok r =>
      obtain ⟨p', hp', hleft, -, hminted⟩ := (remaining_exact hr hget).2 hold
        "ada@example.com" "Ada" false r.1 r.2 hrun
      rw [hshown, hseats] at hleft
      rw [hseats] at hminted
      exact ⟨p, hold, r.1, r.2, p', hrun, hshown, hp', hleft, hminted⟩

end Remaining

/-! ### The redeem button -/

section Button

variable {db : Db} {now : Time} {p : PassPurchase} {hold : Hold} {order : Order}
  {performance : Performance}

/-- What a pass admits is let through. -/
theorem checkPass_isOk (h : Admits db now hold p performance) :
    checkPass db now hold p performance = .ok () := by
  unfold checkPass
  rw [if_neg (not_not.mpr h.organization), h.redeemable, h.covers, if_neg (by decide),
    if_neg (by decide), if_neg h.positive.ne']
  cases hk : p.kind with
  | flex => exact if_neg (not_lt.mpr (h.flex hk))
  | season =>
    obtain ⟨hone, hunused⟩ := h.season hk
    dsimp only
    rw [if_neg (not_not.mpr hone), if_neg fun hr => ?_]
    obtain ⟨r, hr, hrp, hre⟩ := hr
    exact hunused r hr hrp hre

/-- Tickets without a redemption get one each; one of them, where the pass is for the season. -/
theorem createRedemptions_isOk {items : List OrderItem} {redemptions : Table PassRedemption}
    {l : List Ticket} (hnodup : (l.map (·.id)).Nodup)
    (hfresh : ∀ r ∈ redemptions.rows, r.ticket ∉ l.map (·.id))
    (hseason : p.kind = .season → l = [] ∨ l.length = 1 ∧
      ∀ r ∈ redemptions.rows, r.passPurchase = p.id → r.event ≠ performance.event) :
    ∃ redemptions', createRedemptions p order performance items redemptions l
      = .ok redemptions' := by
  induction l generalizing redemptions with
  | nil => exact ⟨_, rfl⟩
  | cons ticket rest ih =>
    rw [List.map_cons, List.nodup_cons] at hnodup
    have hclash : redemptionClash redemptions
        (newRedemption p order performance items ticket redemptions.nextId) = false := by
      rw [redemptionClash, List.any_eq_false]
      intro r hr hc
      rw [Bool.or_eq_true, beq_iff_eq] at hc
      -- A clash would be about the ticket, or about the event of a season pass.
      rcases hc with hticket | hevent
      · refine hfresh r hr ?_
        rw [hticket, List.map_cons]
        exact List.mem_cons_self
      · simp only [Bool.and_eq_true, beq_iff_eq, newRedemption] at hevent
        cases hk : p.kind with
        | flex =>
          rw [hk, if_pos rfl] at hevent
          exact absurd hevent.1.1.1 one_ne_zero
        | season =>
          exact ((hseason hk).resolve_left (List.cons_ne_nil _ _)).2 r hr hevent.1.2 hevent.2
    unfold createRedemptions
    dsimp only
    rw [hclash, if_neg (by decide)]
    refine ih hnodup.2 (fun r hr => ?_) fun hk => .inl ?_
    · rcases Table.mem_insert.mp hr with hr | rfl
      · exact fun h => hfresh r hr (List.mem_cons_of_mem _ h)
      · exact hnodup.1
    · -- A season pass has no ticket after the first.
      have hone := ((hseason hk).resolve_left (List.cons_ne_nil _ _)).1
      exact List.length_eq_zero_iff.mp (Nat.succ.inj hone)

/-- The button is there when the pass covers the performance, has enough admissions for the
    cart and, for the season, the cart is of one. -/
theorem redeemableWithPass_iff (hs : RedemptionsSound db) (hp : p ∈ db.passPurchases.rows) :
    redeemableWithPass db hold performance p = true ↔
      passCoversPerformance p performance = true ∧ 0 < ticketCount db hold ∧
      (p.kind = .flex → ticketCount db hold ≤ p.creditsRemaining.getD 0) ∧
      (p.kind = .season → ticketCount db hold = 1) := by
  unfold redeemableWithPass
  dsimp only
  cases hc : passCoversPerformance p performance with
  | false => simp
  | true =>
    rw [if_neg (by decide)]
    by_cases hcount : ticketCount db hold = 0
    · rw [if_pos hcount, hcount]
      simp
    · rw [if_neg hcount]
      cases hk : p.kind with
      | season => simp [Nat.pos_of_ne_zero hcount]
      | flex =>
        obtain ⟨c, hc⟩ := Option.isSome_iff_exists.mp (hs.counted p hp hk)
        simp [remainingAdmissions_flex hk, hc, Nat.pos_of_ne_zero hcount]

/-- A redemption that nothing speaks against goes through. -/
theorem fulfillHoldWithPass_isOk (hc : Consistent db) (hfit : (ledger db now).Fits)
    (hs : RedemptionsSound db) (hl : Linked db) (hrow : HoldExists db hold)
    (hp : db.passPurchases.get? p.id = some p)
    (hperformance : db.performances.get? hold.performance = some performance)
    (hactive : hold.Active now) (hpromo : hold.promoCode = none ∧ hold.promoCodeText = "")
    (hgift : holdDonation hold ≤ 0) (hadmits : Admits db now hold p performance)
    (email name : String) (optIn : Bool) :
    ∃ db' order, fulfillHoldWithPass db now hold p.id email name optIn = .ok (db', order) := by
  obtain ⟨row, hmem, hsame⟩ := hrow
  unfold fulfillHoldWithPass
  -- The checks of the body pass by hypothesis; what can still fail is the stock and the
  -- redemptions.
  rw [if_neg (not_le.mpr hactive), if_neg (by rw [hpromo.1, hpromo.2]; simp),
    if_neg (not_lt.mpr hgift)]
  simp only [hp, hperformance, checkPass_isOk hadmits]
  rcases redemptionGuest db now hold p email name optIn with ⟨guests, guest⟩
  have ho : createOrder db.orders (redemptionOrder hold email name guest)
      = .ok (db.orders.insert (redemptionOrder hold email name guest),
          redemptionOrder hold email name guest db.orders.nextId) := rfl
  have hid : (redemptionOrder hold email name guest db.orders.nextId).id = db.orders.nextId := rfl
  -- The stock fits, as the cart is stored and active.
  obtain ⟨db₁, hm⟩ := (@mintTickets_isOk { db with
      guests := guests
      orders := db.orders.insert (redemptionOrder hold email name guest) } _ _ _
    (redemptionOrder hold email name guest db.orders.nextId))
    hc.counted hfit hmem hsame hactive
  simp only [ho, hm]
  have hm' := mintTickets_ok hm
  rw [soldLines_with, soldSeats_with, soldAllocations_with] at hm'
  subst hm'
  generalize redemptionOrder hold email name guest db.orders.nextId = order at hid
  have hok : ∃ redemptions', createRedemptions p order performance
      ((db.orderItems.insertMany (ticketItem order) (soldLines db hold)).rows.filter
        fun i => i.order == order.id) db.passRedemptions
      ((db.tickets.insertMany (newTicket hold order) (soldSeats db hold)).rows.filter
        fun t => t.order == order.id) = .ok redemptions' := by
    refine createRedemptions_isOk ((Table.nodup _).sublist (List.filter_sublist.map _))
      (fun r hr h => ?_) fun hk => .inr ⟨?_, (hadmits.season hk).2⟩
    · -- The tickets are newer than every redemption.
      obtain ⟨t, ht, hticket⟩ := List.mem_map.mp h
      obtain ⟨hmem, ho⟩ := List.mem_filter.mp ht
      rcases Table.mem_insertMany hmem with hmem | ⟨seat, -, i, hi, rfl⟩
      · exact hl.ticket_ne hmem ((beq_iff_eq.mp ho).trans hid)
      · exact (hs.issued r hr).not_ge (hi.trans_eq hticket)
    · rw [length_mintedTickets hl hid, ← ticketCount_eq_length, (hadmits.season hk).1]
  obtain ⟨redemptions', hr⟩ := hok
  simp only [hr]
  exact ⟨_, _, rfl⟩

/-- **The redeem button.** In every state of the box office a stored cart is redeemed on a pass
    exactly when the button is there, the cart is live and free of promo code and gift, the pass
    is of its organization, active and not past its end, and a season pass was not used for the
    event; where all of it holds nothing else can fail, and the shown button has counted the
    credits. -/
theorem redeem_button_exact {s : State} (h : Reachable boxOffice s) {hold : Hold}
    (hrow : HoldExists s.db hold) {p : PassPurchase}
    (hp : s.db.passPurchases.get? p.id = some p) {performance : Performance}
    (hperformance : s.db.performances.get? hold.performance = some performance)
    (email name : String) (optIn : Bool) :
    (∃ db' order,
      fulfillHoldWithPass s.db s.now hold p.id email name optIn = .ok (db', order)) ↔
      redeemableWithPass s.db hold performance p = true ∧ hold.Active s.now ∧
      (hold.promoCode = none ∧ hold.promoCodeText = "") ∧ holdDonation hold ≤ 0 ∧
      p.organization = hold.organization ∧ redeemableNow p s.now = true ∧
      (p.kind = .season → performance.event ∉ redeemedEvents s.db p) := by
  obtain ⟨hs, hl⟩ := sound_reachable h
  obtain ⟨hc, hfit⟩ := reachable_fits h
  have hmem := Table.get?_mem hp
  constructor
  · rintro ⟨db', order, hok⟩
    obtain ⟨q, performance', hq, hperf, hactive, hpromo, htext, hgift, hadmits, -⟩ :=
      fulfillHoldWithPass_ok hok
    obtain rfl : p = q := Option.some.inj (hp.symm.trans hq)
    obtain rfl : performance = performance' := Option.some.inj (hperformance.symm.trans hperf)
    refine ⟨(redeemableWithPass_iff hs hmem).mpr ⟨hadmits.covers, hadmits.positive, hadmits.flex,
      fun hk => (hadmits.season hk).1⟩, hactive, ⟨hpromo, htext⟩, hgift, hadmits.organization,
      hadmits.redeemable, fun hk he => ?_⟩
    obtain ⟨r, hr, hrp, hre⟩ := mem_redeemedEvents.mp he
    exact (hadmits.season hk).2 r hr hrp hre
  · rintro ⟨hbutton, hactive, hpromo, hgift, horganization, hnow, hunused⟩
    obtain ⟨hcovers, hpositive, hflex, hone⟩ := (redeemableWithPass_iff hs hmem).mp hbutton
    exact fulfillHoldWithPass_isOk hc hfit hs hl hrow hp hperformance hactive hpromo hgift
      ⟨horganization, hnow, hcovers, hpositive, hflex, fun hk => ⟨hone hk, fun r hr hrp hre =>
        hunused hk (mem_redeemedEvents.mpr ⟨r, hr, hrp, hre⟩)⟩⟩ email name optIn

/-- The button is there for the place in the cart, and the redemption goes through. -/
theorem redeem_button_exact_passCart : ∃ (p : PassPurchase) (hold : Hold) (db' : Db)
    (order : Order),
    fulfillHoldWithPass passCart.db passCart.now hold p.id "ada@example.com" "Ada" false
      = .ok (db', order) := by
  obtain ⟨p, hp, hold, hold_mem, performance, hperf, hid, hbutton, hactive, hpromo, htext,
      hgift, horg, hnow, hflex⟩ : ∃ p ∈ passCart.db.passPurchases.rows,
      ∃ hold ∈ passCart.db.holds.rows, ∃ performance ∈ passCart.db.performances.rows,
        performance.id = hold.performance ∧
        redeemableWithPass passCart.db hold performance p = true ∧ passCart.now < hold.expiresAt ∧
        hold.promoCode = none ∧ hold.promoCodeText = "" ∧ holdDonation hold ≤ 0 ∧
        p.organization = hold.organization ∧ redeemableNow p passCart.now = true ∧
        p.kind = .flex := by decide
  have hok := (redeem_button_exact passCart_boxOffice ⟨hold, hold_mem, rfl, rfl, rfl, rfl, rfl, rfl⟩
    (Table.get?_eq_some.mpr ⟨hp, rfl⟩) (Table.get?_eq_some.mpr ⟨hperf, hid⟩) "ada@example.com" "Ada"
    false).mpr ⟨hbutton, hactive, ⟨hpromo, htext⟩, hgift, horg, hnow, fun hk =>
      absurd (hflex.symm.trans hk) (by decide)⟩
  exact ⟨p, hold, hok⟩

end Button

end BoxOffice

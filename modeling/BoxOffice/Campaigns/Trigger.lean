import BoxOffice.Campaigns.Models

namespace BoxOffice

open Relational

/-!
# Campaigns — segments and the trigger

* `segmentGuests` — the guests a campaign goes to;
* `startCampaign` — queues one row a guest and flips the draft, in one transaction;
* `startCampaign_ok` says what a trigger that goes through has written.
-/

/-! ### The segment -/

/-- The opted-in guests of the organization that have an address. -/
def segmentBase (db : Db) (campaign : EmailCampaign) : List GuestAccount :=
  db.guests.rows.filter fun g =>
    g.organization == campaign.organization && g.marketingOptIn && g.email != ""

/-- The `PAID` orders of a guest. -/
def paidOrders (db : Db) (guest : GuestAccount) : List Order :=
  db.orders.rows.filter fun o => o.guest == some guest.id && o.status == .paid

/-- `order.performance.event`; `NULL` without a performance. -/
def orderEvent (db : Db) (o : Order) : Option Nat :=
  o.performance.bind fun p => (db.performances.get? p).map (·.event)

/-- `Sum("orders__total")` over the `PAID` orders; `NULL` when there is none. -/
def paidSpend (db : Db) (guest : GuestAccount) : Option Cents :=
  match paidOrders db guest with
  | [] => none
  | orders => some (orders.map (·.total)).sum

/-- `segment_guests`. -/
def segmentGuests (db : Db) (campaign : EmailCampaign) :
    Except ServiceError (List GuestAccount) :=
  let base := segmentBase db campaign
  match campaign.segmentKind with
  | .event =>
    .ok (base.filter fun g =>
      (paidOrders db g).any fun o => orderEvent db o == campaign.segmentEvent)
  | .minSpend =>
    match campaign.segmentMinSpend with
    | none => .error (.valueError "Cannot use None as a query value")
    | some min => .ok (base.filter fun g => (paidSpend db g).any fun spend => min ≤ spend)
  | _ => .ok base

/-! ### The trigger -/

/-- A queued row. -/
def queuedSend (campaign : EmailCampaign) (guest : GuestAccount) (i : Nat) : CampaignSend where
  id := i
  organization := campaign.organization
  campaign := campaign.id
  guest := guest.id
  email := guest.email
  status := .pending
  error := ""
  sentAt := none

/-- `bulk_create(sends, ignore_conflicts=True)`: a row that `unique_send_per_campaign_guest`
    refuses is left out. -/
def bulkCreate (sends : Table CampaignSend) (campaign : EmailCampaign)
    (guests : List GuestAccount) : Table CampaignSend :=
  guests.foldl (fun sends guest =>
    if sends.rows.any fun r => r.campaign == campaign.id && r.guest == guest.id then sends
    else sends.insert (queuedSend campaign guest)) sends

/-- The columns the trigger saves.  With nobody to send to the campaign is finished. -/
def triggered (count : Nat) (now : Time) (c : EmailCampaign) : EmailCampaign :=
  if count = 0 then { c with recipientCount := count, status := .sent, sentAt := some now }
  else { c with recipientCount := count, status := .sending }

/-- A start keeps the key of a campaign. -/
theorem triggered_id (count : Nat) (now : Time) (c : EmailCampaign) :
    (triggered count now c).id = c.id := by
  unfold triggered
  split <;> rfl

/-- `start_campaign`. -/
def startCampaign (m : Marketing) (campaign : Nat) : Except ServiceError (Marketing × Nat) :=
  match m.campaigns.get? campaign with
  | none => .error (.doesNotExist "EmailCampaign")
  | some locked =>
    if locked.status ≠ .draft then
      .error (.campaignState s!"Campaign {locked.id} is {locked.status.display}, not a draft; it can't be sent again.")
    else
      match segmentGuests m.db locked with
      | .error e => .error e
      | .ok guests =>
        let count := guests.length
        .ok ({ m with
          sends := bulkCreate m.sends locked guests
          campaigns := m.campaigns.update (fun c => c.id == locked.id) (triggered count m.now)
            (triggered_id count m.now) }, count)

/-! ### What a trigger writes -/

section Trigger

variable {db : Db} {campaign : EmailCampaign} {guests : List GuestAccount}
  {t : Table CampaignSend}

/-- No guest is twice in the base. -/
theorem segmentBase_nodup (db : Db) (campaign : EmailCampaign) :
    ((segmentBase db campaign).map (·.id)).Nodup :=
  db.guests.nodup.sublist (List.filter_sublist.map _)

/-- No guest is in a segment twice. -/
theorem segmentGuests_nodup (h : segmentGuests db campaign = .ok guests) :
    (guests.map (·.id)).Nodup := by
  have hsub : guests.Sublist (segmentBase db campaign) := by
    unfold segmentGuests at h
    split at h
    · obtain rfl := Except.ok.inj h
      exact List.filter_sublist
    · split at h
      · cases h
      · obtain rfl := Except.ok.inj h
        exact List.filter_sublist
    · obtain rfl := Except.ok.inj h
      exact .refl _
  exact (segmentBase_nodup db campaign).sublist (hsub.map _)

/-- **The bulk insert** of a campaign without rows leaves nobody out. -/
theorem bulkCreate_eq (hnodup : (guests.map (·.id)).Nodup)
    (h : ∀ r ∈ t.rows, r.campaign = campaign.id → ∀ g ∈ guests, r.guest ≠ g.id) :
    bulkCreate t campaign guests = t.insertMany (queuedSend campaign) guests := by
  induction guests generalizing t with
  | nil => rfl
  | cons g rest ih =>
    -- Induction on the guests: no row of the campaign is in the way of the first of them.
    obtain ⟨hg, hrest⟩ := List.nodup_cons.mp hnodup
    have hfree : (t.rows.any fun r => r.campaign == campaign.id && r.guest == g.id) = false := by
      refine List.any_eq_false.mpr fun r hr hhit => ?_
      simp only [Bool.and_eq_true, beq_iff_eq] at hhit
      exact h r hr hhit.1 g (List.mem_cons_self ..) hhit.2
    have hstep : bulkCreate t campaign (g :: rest)
        = bulkCreate (t.insert (queuedSend campaign g)) campaign rest := by
      unfold bulkCreate
      rw [List.foldl_cons, hfree]
      rfl
    rw [hstep, Table.insertMany_cons]
    refine ih hrest fun r hr hc g' hg' => ?_
    rcases Table.mem_insert.mp hr with hr | rfl
    · exact h r hr hc g' (List.mem_cons_of_mem _ hg')
    · -- The row just inserted belongs to another guest.
      exact fun heq => hg (List.mem_map.mpr ⟨g', hg', heq.symm⟩)

/-- What the trigger of the draft `locked` with the recipients `guests` leaves behind. -/
def startedWith (m : Marketing) (locked : EmailCampaign) (guests : List GuestAccount) :
    Marketing :=
  { m with
    sends := m.sends.insertMany (queuedSend locked) guests
    campaigns := m.campaigns.update (fun c => c.id == locked.id) (triggered guests.length m.now)
      (triggered_id guests.length m.now) }

/-- The campaigns after one was started. -/
theorem mem_startedWith {m : Marketing} {locked c' : EmailCampaign} :
    c' ∈ (startedWith m locked guests).campaigns.rows ↔ ∃ c ∈ m.campaigns.rows,
      (if c.id == locked.id then triggered guests.length m.now c else c) = c' :=
  Table.mem_update (k := triggered_id guests.length m.now)

/-- A campaign without recipients is sent at once. -/
theorem triggered_status (count : Nat) (now : Time) (c : EmailCampaign) :
    (triggered count now c).status = (if count = 0 then .sent else .sending) ∧
      (triggered count now c).recipientCount = count := by
  unfold triggered
  split_ifs <;> exact ⟨rfl, rfl⟩

/-- The rows of the other campaigns stay as they are. -/
theorem sendsOf_startedWith {m : Marketing} {locked : EmailCampaign} {c : Nat}
    (hne : c ≠ locked.id) :
    (startedWith m locked guests).sendsOf c = m.sendsOf c :=
  Table.filter_insertMany fun _ _ => beq_false_of_ne hne.symm

/-- The campaign gets one row a guest. -/
theorem length_sendsOf_startedWith (m : Marketing) (locked : EmailCampaign)
    (guests : List GuestAccount) :
    ((startedWith m locked guests).sendsOf locked.id).length
      = (m.sendsOf locked.id).length + guests.length := by
  have hguests : ((startedWith m locked guests).sendsOf locked.id).map (·.guest)
      = (m.sendsOf locked.id).map (·.guest) ++ guests.map (·.id) :=
    Table.map_filter_insertMany (fun _ _ => beq_self_eq_true locked.id) fun _ _ => rfl
  have hlength := congrArg List.length hguests
  rwa [List.length_append, List.length_map, List.length_map, List.length_map] at hlength

/-- **The trigger.** It goes through for a draft only, and queues every guest of its segment. -/
theorem startCampaign_ok {m m' : Marketing} {c count : Nat}
    (h : startCampaign m c = .ok (m', count))
    (hdraft : ∀ r ∈ m.sends.rows, ∀ e ∈ m.campaigns.rows, e.status = .draft → r.campaign ≠ e.id) :
    ∃ locked ∈ m.campaigns.rows, ∃ guests, locked.id = c ∧ locked.status = .draft ∧
      segmentGuests m.db locked = .ok guests ∧ (guests.map (·.id)).Nodup ∧
      count = guests.length ∧ m' = startedWith m locked guests := by
  unfold startCampaign at h
  split at h
  · cases h
  case h_2 locked hget =>
    split_ifs at h with hstatus
    have hlocked := Table.get?_mem hget
    have hdraft' : locked.status = .draft := not_not.mp hstatus
    split at h
    · cases h
    case h_2 guests hsegment =>
      obtain ⟨rfl, rfl⟩ := Prod.mk.inj (Except.ok.inj h)
      have hnodup := segmentGuests_nodup hsegment
      refine ⟨locked, hlocked, guests, Table.get?_key hget, hdraft', hsegment, hnodup, rfl, ?_⟩
      unfold startedWith
      rw [bulkCreate_eq hnodup fun r hr hc => absurd hc (hdraft r hr locked hlocked hdraft')]

end Trigger

end BoxOffice

import BoxOffice.Campaigns.EditForm
import BoxOffice.Cascade
import BoxOffice.Relational.Query
import BoxOffice.System
import BoxOffice.Transition.Run

namespace BoxOffice

open Relational Transition

/-!
# Campaigns — who is in a segment

The query of `segment_guests` as the database evaluates it, joins, `NULL` and all, against the
segment that the campaign means.

* `segmentQuery` — the query; it returns the guests of `segmentGuests` (`segmentQuery_perm`);
* `InSegment` — the guests that the campaign is for;
* `segment_exact_iff` — for a campaign that the form has made, whatever became of its event and
  of the shop, the query returns these guests exactly, unless the event is gone and somebody has
  paid for an order without a performance.
-/

/-! ### The query -/

/-- A guest joined with an order of hers, and with its performance. -/
abbrev PurchaseRow := (GuestAccount × Order) × Option Performance

/-- The joins of the `EVENT` filter. -/
def purchaseRows (db : Db) (campaign : EmailCampaign) : List PurchaseRow :=
  leftJoin
    (innerJoin (segmentBase db campaign) db.orders.rows fun g o => o.guest == some g.id)
    db.performances.rows fun purchase p => purchase.2.performance == some p.id

/-- The `WHERE` of the `EVENT` filter. -/
def boughtEvent (campaign : EmailCampaign) (row : PurchaseRow) : Bool :=
  row.1.2.status == .paid && exactLookup (row.2.map (·.event)) campaign.segmentEvent

/-- The annotation `spend`. -/
def annotatedSpend (db : Db) (guest : GuestAccount) : Option Cents :=
  sqlSum ((leftJoin [guest] db.orders.rows fun g o => o.guest == some g.id).map fun row =>
    row.2.bind fun o => if o.status == .paid then some o.total else none)

/-- `segment_guests`, evaluated. -/
def segmentQuery (db : Db) (campaign : EmailCampaign) :
    Except ServiceError (List GuestAccount) :=
  match campaign.segmentKind with
  | .event =>
    .ok (((purchaseRows db campaign).filter (boughtEvent campaign)).map (·.1.1)).dedup
  | .minSpend =>
    match campaign.segmentMinSpend with
    | none => .error (.valueError "Cannot use None as a query value")
    | some min =>
      .ok ((segmentBase db campaign).filter fun g =>
        (annotatedSpend db g).any fun spend => min ≤ spend)
  | _ => .ok (segmentBase db campaign)

/-! ### The segment that is meant -/

/-- A paid order of the guest. -/
structure PaidBy (db : Db) (guest : GuestAccount) (o : Order) : Prop where
  row : o ∈ db.orders.rows
  guest : o.guest = some guest.id
  paid : o.status = .paid

/-- The guest has a paid order for a performance of the event. -/
def BoughtEvent (db : Db) (guest : GuestAccount) (event : Nat) : Prop :=
  ∃ o, PaidBy db guest o ∧ ∃ p ∈ db.performances.rows,
    o.performance = some p.id ∧ p.event = event

/-- The paid orders of the guest, of which there are some, come to the amount. -/
def SpentAtLeast (db : Db) (guest : GuestAccount) (amount : Cents) : Prop :=
  paidOrders db guest ≠ [] ∧ amount ≤ ((paidOrders db guest).map (·.total)).sum

/-- The condition of the kind. -/
def SegmentCondition (db : Db) (campaign : EmailCampaign) (guest : GuestAccount) : Prop :=
  match campaign.segmentKind with
  | .event => ∃ event, campaign.segmentEvent = some event ∧ BoughtEvent db guest event
  | .minSpend => ∃ amount, campaign.segmentMinSpend = some amount ∧ SpentAtLeast db guest amount
  | _ => True

/-- An opted-in guest of the organization with an address, who meets the condition. -/
structure InSegment (db : Db) (campaign : EmailCampaign) (guest : GuestAccount) : Prop where
  organization : guest.organization = campaign.organization
  optedIn : guest.marketingOptIn = true
  mailable : guest.email ≠ ""
  condition : SegmentCondition db campaign guest

/-- The query returns every guest of the segment once, and nobody else. -/
structure SegmentExact (db : Db) (campaign : EmailCampaign) (guests : List GuestAccount) :
    Prop where
  query : segmentQuery db campaign = .ok guests
  known : ∀ g ∈ guests, g ∈ db.guests.rows
  once : ∀ g ∈ db.guests.rows, InSegment db campaign g → guests.count g = 1
  only : ∀ g ∈ db.guests.rows, ¬ InSegment db campaign g → guests.count g = 0

/-! ### The life of a campaign -/

/-- The shop, and a campaign. -/
structure Targeting where
  db : Db
  campaign : EmailCampaign

/-- What happens to the two. -/
inductive TargetingEvent
  /-- The form of the campaign is saved. -/
  | edited (form : EmailCampaignForm)
  /-- An event is deleted, which leaves campaigns without it. -/
  | eventDeleted (event : Nat) (db : Db)
  /-- The campaign is triggered, finished or cancelled. -/
  | progressed (status : CampaignStatus) (recipientCount : Nat) (sentAt : Option Time)
  /-- Anything else in the shop. -/
  | shop (db : Db)

/-- `SET_NULL` of `segment_event`. -/
def EmailCampaign.withoutEvent (campaign : EmailCampaign) (event : Nat) : EmailCampaign :=
  { campaign with segmentEvent := campaign.segmentEvent.filter (· != event) }

def TargetingEvent.exec (s : Targeting) : TargetingEvent → Targeting
  | .edited form => { s with campaign := s.campaign.edited form }
  | .eventDeleted event db => ⟨db, s.campaign.withoutEvent event⟩
  | .progressed status recipientCount sentAt =>
    { s with campaign := { s.campaign with
        status := status
        recipientCount := recipientCount
        sentAt := sentAt } }
  | .shop db => { s with db := db }

/-- The form saves what it does not refuse, and an event is deleted as the cascade has it. -/
def TargetingEvent.Admitted (s : Targeting) : TargetingEvent → Prop
  | .edited form => form.errors s.db s.campaign.organization = []
  | .eventDeleted event db => deleteEvent s.db event = .ok db
  | _ => True

/-- A campaign is created by the form. -/
def targeting : System Targeting TargetingEvent :=
  .ofFun
    (fun s => ∃ blank form, s.campaign = EmailCampaign.edited blank form ∧
      form.errors s.db s.campaign.organization = [])
    TargetingEvent.Admitted fun e s => e.exec s

/-- A kind among the choices, and a threshold for the kind that needs one. -/
structure EmailCampaign.FromForm (campaign : EmailCampaign) : Prop where
  kind : ∀ text, campaign.segmentKind ≠ .other text
  minSpend : campaign.segmentKind = .minSpend → campaign.segmentMinSpend ≠ none

/-! ### What the query returns -/

section Query

variable {db : Db} {campaign : EmailCampaign} {g : GuestAccount}

/-- The base of a segment is the opted-in guests with an address. -/
theorem mem_segmentBase :
    g ∈ segmentBase db campaign ↔ g ∈ db.guests.rows ∧
      g.organization = campaign.organization ∧ g.marketingOptIn = true ∧ g.email ≠ "" := by
  simp [segmentBase, and_assoc]

/-- The paid orders of a guest. -/
theorem mem_paidOrders {o : Order} : o ∈ paidOrders db g ↔ PaidBy db g o := by
  simp only [paidOrders, List.mem_filter, Bool.and_eq_true, beq_iff_eq]
  exact ⟨fun ⟨hrow, hguest, hpaid⟩ => ⟨hrow, hguest, hpaid⟩,
    fun h => ⟨h.row, h.guest, h.paid⟩⟩

/-- The annotation is the sum of the paid orders, or `NULL`. -/
theorem annotatedSpend_eq (db : Db) (g : GuestAccount) :
    annotatedSpend db g = paidSpend db g := by
  unfold annotatedSpend paidSpend
  rw [sqlSum_leftJoin g db.orders.rows (fun g o => o.guest == some g.id)
    (fun o => o.status == .paid)]
  unfold paidOrders
  cases db.orders.rows.filter fun o => o.guest == some g.id && o.status == .paid <;> rfl

/-- Who the joins find: a guest with a paid order for the event, or, for no event, a guest with a
    paid order that has no performance. -/
theorem mem_eventQuery :
    g ∈ (((purchaseRows db campaign).filter (boughtEvent campaign)).map (·.1.1)).dedup ↔
      g ∈ segmentBase db campaign ∧ ∃ o, PaidBy db g o ∧
        ((∃ p ∈ db.performances.rows, o.performance = some p.id ∧
            campaign.segmentEvent = some p.event) ∨
          campaign.segmentEvent = none ∧ ∀ p ∈ db.performances.rows, o.performance ≠ some p.id) := by
  rw [List.mem_dedup, List.mem_map]
  constructor
  · rintro ⟨⟨⟨g', o⟩, performance⟩, hmem, rfl⟩
    obtain ⟨hrow, hwhere⟩ := List.mem_filter.mp hmem
    simp only [boughtEvent, Bool.and_eq_true, beq_iff_eq, exactLookup_iff] at hwhere
    obtain ⟨hpaid, hevent⟩ := hwhere
    cases performance with
    -- The left join has found the performance, or has put null in its place.
    | some p =>
      obtain ⟨hpurchase, hp, hon⟩ := mem_leftJoin_some.mp hrow
      obtain ⟨hg, ho, hguest⟩ := mem_innerJoin.mp hpurchase
      exact ⟨hg, o, ⟨ho, by simpa using hguest, hpaid⟩,
        .inl ⟨p, hp, by simpa using hon, hevent.symm⟩⟩
    | none =>
      obtain ⟨hpurchase, hnone⟩ := mem_leftJoin_none.mp hrow
      obtain ⟨hg, ho, hguest⟩ := mem_innerJoin.mp hpurchase
      exact ⟨hg, o, ⟨ho, by simpa using hguest, hpaid⟩,
        .inr ⟨hevent.symm, fun p hp => by simpa using hnone p hp⟩⟩
  · rintro ⟨hg, o, ho, hperformance⟩
    have hpurchase : (g, o) ∈ innerJoin (segmentBase db campaign) db.orders.rows
        fun g o => o.guest == some g.id :=
      mem_innerJoin.mpr ⟨hg, ho.row, by simp [ho.guest]⟩
    rcases hperformance with ⟨p, hp, hon, hevent⟩ | ⟨hevent, hnone⟩
    · refine ⟨((g, o), some p), List.mem_filter.mpr ⟨?_, ?_⟩, rfl⟩
      · exact mem_leftJoin_some.mpr ⟨hpurchase, hp, by simp [hon]⟩
      · simp [boughtEvent, ho.paid, exactLookup_iff, hevent]
    · refine ⟨((g, o), none), List.mem_filter.mpr ⟨?_, ?_⟩, rfl⟩
      · exact mem_leftJoin_none.mpr ⟨hpurchase, fun p hp => by simpa using hnone p hp⟩
      · simp [boughtEvent, ho.paid, exactLookup_iff, hevent]

/-- **The guests of `segmentGuests`**, in some order, or its error. -/
theorem segmentQuery_perm (db : Db) (campaign : EmailCampaign) :
    match segmentQuery db campaign, segmentGuests db campaign with
    | .ok guests, .ok guests' => guests.Perm guests'
    | .error e, .error e' => e = e'
    | _, _ => False := by
  unfold segmentQuery segmentGuests
  cases campaign.segmentKind with
  | all => exact .refl _
  | other text => exact .refl _
  | minSpend =>
    cases campaign.segmentMinSpend with
    | none => rfl
    | some min =>
      simp only [annotatedSpend_eq]
      exact .refl _
  | event =>
    -- Both lists are without repetition, so it is enough to compare their members.
    have hbase : (segmentBase db campaign).Nodup := (segmentBase_nodup db campaign).of_map
    refine (List.perm_ext_iff_of_nodup (List.nodup_dedup _) (hbase.filter _)).mpr fun g => ?_
    rw [mem_eventQuery, List.mem_filter, List.any_eq_true]
    refine and_congr_right fun _ => exists_congr fun o => ?_
    rw [mem_paidOrders, beq_iff_eq]
    refine and_congr_right fun _ => ?_
    -- An order without a performance joins as null, which is what a deleted event selects.
    unfold orderEvent
    cases hperformance : o.performance with
    | none => simp [eq_comm]
    | some pk =>
      cases hp : db.performances.get? pk with
      | none =>
        have habsent : ∀ p ∈ db.performances.rows, ¬ some pk = some p.id := fun p hmem heq => by
          rw [Table.get?_eq_some.mpr ⟨hmem, (Option.some.inj heq).symm⟩] at hp
          cases hp
        simp only [Option.bind_some, hp, Option.map_none]
        constructor
        · rintro (⟨p, hmem, heq, -⟩ | ⟨hnone, -⟩)
          · exact absurd heq (habsent p hmem)
          · exact hnone.symm
        · exact fun hnone => .inr ⟨hnone.symm, habsent⟩
      | some p =>
        obtain ⟨hmem, rfl⟩ := Table.get?_eq_some.mp hp
        simp only [Option.bind_some, hp, Option.map_some]
        constructor
        · rintro (⟨p', hmem', heq, hevent⟩ | ⟨-, hnone⟩)
          · rw [Table.eq_of_key_eq hmem hmem' (Option.some.inj heq)]
            exact hevent.symm
          · exact absurd rfl (hnone p hmem)
        · exact fun hevent => .inl ⟨p, hmem, rfl, hevent.symm⟩

/-- No guest is listed twice. -/
theorem segmentQuery_nodup {guests : List GuestAccount}
    (h : segmentQuery db campaign = .ok guests) : guests.Nodup := by
  have hperm := segmentQuery_perm db campaign
  rw [h] at hperm
  cases hguests : segmentGuests db campaign with
  | error e => rw [hguests] at hperm; cases hperm
  | ok guests' =>
    rw [hguests] at hperm
    exact hperm.nodup_iff.mpr (segmentGuests_nodup hguests).of_map

/-- Who is in a segment: the base, and the condition. -/
theorem inSegment_iff :
    InSegment db campaign g ↔ (g.organization = campaign.organization ∧
      g.marketingOptIn = true ∧ g.email ≠ "") ∧ SegmentCondition db campaign g :=
  ⟨fun h => ⟨⟨h.organization, h.optedIn, h.mailable⟩, h.condition⟩,
    fun ⟨⟨horganization, hin, hemail⟩, hcondition⟩ => ⟨horganization, hin, hemail, hcondition⟩⟩

/-- A list of known guests is exact when it has no doubles and the right members. -/
theorem segmentExact_iff {guests : List GuestAccount} (h : segmentQuery db campaign = .ok guests) :
    SegmentExact db campaign guests ↔
      ∀ g, g ∈ guests ↔ g ∈ segmentBase db campaign ∧ SegmentCondition db campaign g := by
  have hnodup := segmentQuery_nodup h
  constructor
  · intro hexact g
    constructor
    · intro hg
      have hin : InSegment db campaign g := by
        by_contra hout
        exact List.count_eq_zero.mp (hexact.only g (hexact.known g hg) hout) hg
      obtain ⟨hfields, hcondition⟩ := inSegment_iff.mp hin
      exact ⟨mem_segmentBase.mpr ⟨hexact.known g hg, hfields⟩, hcondition⟩
    · rintro ⟨hbase, hcondition⟩
      obtain ⟨hrow, hfields⟩ := mem_segmentBase.mp hbase
      have hcount := hexact.once g hrow (inSegment_iff.mpr ⟨hfields, hcondition⟩)
      exact List.count_pos_iff.mp (hcount ▸ Nat.one_pos)
  · intro hmem
    refine ⟨h, fun g hg => (mem_segmentBase.mp ((hmem g).mp hg).1).1, fun g hrow hin => ?_,
      fun g hrow hout => ?_⟩
    · obtain ⟨hfields, hcondition⟩ := inSegment_iff.mp hin
      exact List.count_eq_one_of_mem hnodup
        ((hmem g).mpr ⟨mem_segmentBase.mpr ⟨hrow, hfields⟩, hcondition⟩)
    · refine List.count_eq_zero.mpr fun hg => hout ?_
      obtain ⟨hbase, hcondition⟩ := (hmem g).mp hg
      exact inSegment_iff.mpr ⟨(mem_segmentBase.mp hbase).2, hcondition⟩

/-- **The query**, for a campaign with what its kind needs. -/
theorem segmentExact_iff_of_fromForm (hform : campaign.FromForm) :
    (∃ guests, SegmentExact db campaign guests) ↔
      (campaign.segmentKind = .event → campaign.segmentEvent = none →
        ∀ g ∈ segmentBase db campaign, ∀ o, PaidBy db g o →
          ∃ p ∈ db.performances.rows, o.performance = some p.id) := by
  cases hkind : campaign.segmentKind with
  | other text => exact absurd hkind (hform.kind text)
  | all =>
    have hquery : segmentQuery db campaign = .ok (segmentBase db campaign) := by
      simp [segmentQuery, hkind]
    refine iff_of_true ⟨_, (segmentExact_iff hquery).mpr fun g => ?_⟩ nofun
    simp [SegmentCondition, hkind]
  | minSpend =>
    obtain ⟨amount, hamount⟩ := Option.ne_none_iff_exists'.mp (hform.minSpend hkind)
    have hquery : segmentQuery db campaign = .ok ((segmentBase db campaign).filter fun g =>
        (annotatedSpend db g).any fun spend => amount ≤ spend) := by
      simp [segmentQuery, hkind, hamount]
    refine iff_of_true ⟨_, (segmentExact_iff hquery).mpr fun g => ?_⟩ nofun
    rw [List.mem_filter, annotatedSpend_eq]
    refine and_congr_right fun _ => ?_
    simp only [SegmentCondition, hkind, hamount, Option.some.injEq, exists_eq_left',
      SpentAtLeast, paidSpend]
    cases paidOrders db g <;> simp
  | event =>
    have hquery : segmentQuery db campaign = .ok
        (((purchaseRows db campaign).filter (boughtEvent campaign)).map (·.1.1)).dedup := by
      simp [segmentQuery, hkind]
    have hiff : (∃ guests, SegmentExact db campaign guests) ↔
        ∀ g, g ∈ (((purchaseRows db campaign).filter (boughtEvent campaign)).map (·.1.1)).dedup ↔
          g ∈ segmentBase db campaign ∧ SegmentCondition db campaign g := by
      rw [← segmentExact_iff hquery]
      refine ⟨?_, fun h => ⟨_, h⟩⟩
      rintro ⟨guests, h⟩
      obtain rfl := Except.ok.inj (hquery.symm.trans h.query)
      exact h
    rw [hiff]
    simp only [mem_eventQuery, SegmentCondition, hkind]
    cases hevent : campaign.segmentEvent with
    | some event =>
      refine iff_of_true (fun g => and_congr_right fun _ => ?_) (fun _ => nofun)
      simp [BoughtEvent, eq_comm]
    | none =>
      -- Without an event, whoever is found is wrong.
      simp only [reduceCtorEq, and_false, exists_false, false_or, true_and, false_and, iff_false,
        forall_const]
      refine forall_congr' fun g => ?_
      simp only [not_and, not_exists, not_forall, exists_prop, ne_eq, not_not]

end Query

/-! ### Every reachable state -/

/-- A campaign saved from a form that is valid is one of a form. -/
theorem fromForm_edited {db : Db} {organization : Nat} {form : EmailCampaignForm}
    (h : form.errors db organization = []) (campaign : EmailCampaign) :
    (campaign.edited form).FromForm := by
  obtain ⟨hfields, hclean⟩ := List.append_eq_nil_iff.mp h
  constructor
  · intro text hkind
    have hother : form.segmentKind = .other text := hkind
    simp [EmailCampaignForm.fieldErrors, hother] at hfields
  · intro hkind hnone
    have hspend : form.segmentKind = .minSpend := hkind
    have hmissing : form.segmentMinSpend = none := hnone
    simp [EmailCampaignForm.cleanErrors, hspend, hmissing] at hclean

/-- So is every reachable campaign. -/
theorem fromForm_reachable {s : Targeting} (h : Reachable targeting s) : s.campaign.FromForm := by
  refine h.invariant (I := fun s => s.campaign.FromForm) (fun s hs => ?_)
    fun s e s' hs hstep => ?_
  · obtain ⟨blank, form, hcampaign, hvalid⟩ := hs
    exact hcampaign ▸ fromForm_edited hvalid blank
  · obtain ⟨hadmitted, rfl⟩ := hstep
    cases e with
    | edited form => exact fromForm_edited hadmitted s.campaign
    | eventDeleted event db => exact ⟨hs.kind, hs.minSpend⟩
    | progressed status recipientCount sentAt => exact ⟨hs.kind, hs.minSpend⟩
    | shop db => exact hs

/-- **A campaign reaches exactly its segment**, in every reachable state, unless its event is gone
    and a guest that it could reach has paid for an order without a performance. -/
theorem segment_exact_iff {s : Targeting} (h : Reachable targeting s) :
    (∃ guests, SegmentExact s.db s.campaign guests) ↔
      (s.campaign.segmentKind = .event → s.campaign.segmentEvent = none →
        ∀ g ∈ segmentBase s.db s.campaign, ∀ o, PaidBy s.db g o →
          ∃ p ∈ s.db.performances.rows, o.performance = some p.id) :=
  segmentExact_iff_of_fromForm (fromForm_reachable h)

/-- The sample theater after a gift, with the box ticked. -/
def giftDb : Db :=
  (BoxOffice.exec (.fulfillDonation 1 500 none { sampleArgs with marketingOptIn := true })
    sampleState).db

/-- A message to those who have seen the sample event. -/
def thankYou : EmailCampaignForm :=
  ⟨"Hamlet", "Thank you", "Come again.", .event, some 1, none⟩

/-- The row that the form fills in. -/
def blankCampaign : EmailCampaign := ⟨1, 1, "", "", "", .all, none, none, .draft, 0, none⟩

/-- The thank-you campaign is reachable. -/
theorem thankYou_reachable : Reachable targeting ⟨giftDb, blankCampaign.edited thankYou⟩ :=
  ⟨_, _, ⟨blankCampaign, thankYou, rfl, by decide +kernel⟩, .nil⟩

/-- Its segment is exact. -/
theorem segment_exact_thankYou :
    ∃ guests, SegmentExact giftDb (blankCampaign.edited thankYou) guests :=
  (segment_exact_iff thankYou_reachable).mpr fun _ hnone => absurd hnone (by decide)

/-- The sample theater without its event. -/
def retiredDb : Db := (deleteEvent giftDb 1).toOption.getD giftDb

/-- The campaign without its event. -/
def orphaned : EmailCampaign := (blankCampaign.edited thankYou).withoutEvent 1

/-- The event of the gift can be deleted. -/
theorem deleteEvent_giftDb : deleteEvent giftDb 1 = .ok retiredDb := by
  have hok : (deleteEvent giftDb 1).toOption.isSome = true := by decide +kernel
  unfold retiredDb
  cases hdelete : deleteEvent giftDb 1 with
  | error e => rw [hdelete] at hok; cases hok
  | ok db => rfl

/-- The campaign of an event that is gone goes to the giver of a gift, who bought nothing. -/
theorem segment_of_no_event :
    Reachable targeting ⟨retiredDb, orphaned⟩ ∧ orphaned.segmentKind = .event ∧
      orphaned.segmentEvent = none ∧ ∃ guests, segmentQuery retiredDb orphaned = .ok guests ∧
        guests.length = 1 ∧ ∀ g, ¬ InSegment retiredDb orphaned g := by
  refine ⟨?_, rfl, by decide, ?_⟩
  · obtain ⟨s, is, hs, hrun⟩ := thankYou_reachable
    have hstep : targeting.step ⟨giftDb, blankCampaign.edited thankYou⟩
        (.eventDeleted 1 retiredDb) ⟨retiredDb, orphaned⟩ := ⟨deleteEvent_giftDb, rfl⟩
    exact ⟨s, _, hs, hrun.snoc hstep⟩
  · have hquery : segmentQuery retiredDb orphaned = .ok
        (((purchaseRows retiredDb orphaned).filter (boughtEvent orphaned)).map (·.1.1)).dedup := rfl
    refine ⟨_, hquery, by decide +kernel, fun g hin => ?_⟩
    obtain ⟨event, hevent, -⟩ := hin.condition
    cases hevent

end BoxOffice

import Mathlib.Data.List.Dedup
import BoxOffice.Orders.HoldCreate

namespace BoxOffice

open Relational Transition

/-!
# Orders — only published performances are sold

Every hold and every ticket is recorded with the status that its performance has at the moment.

* `listing` interleaves the requests of the storefront with the staff's changes of a status;
* `SelectsPublished` — a selection that the service has names a published performance: the page
  checks that, and `hold_create` does not; `ChargesPublished` says the same of the
  operation that turns a hold into tickets;
* `only_published_sold` — under the first every hold was created while its performance was
  published and every ticket comes from such a hold; under both every ticket was issued then;
* `draft_sold` — a draft performance whose page is not there is sold.
-/

/-- A hold or a ticket with the status its performance had when it was created. -/
inductive Creation
  | hold (id performance : Nat) (status : Option PerformanceStatus)
  | ticket (id performance : Nat) (status : Option PerformanceStatus) (hold : Option Nat)
deriving Repr, DecidableEq

/-- The box office, and what was created. -/
structure Listing where
  shop : State
  created : List Creation

/-- A request of the storefront, or a change of a status. -/
inductive ListingEvent
  | performanceDetail (organization pk : Nat)
  | holdCreate (organization pk : Nat) (sessionKey : String) (posted : Selection)
  | shop (op : Op)
  | setStatus (organization pk : Nat) (status : PerformanceStatus)

/-- The status of a performance. -/
def statusOf (db : Db) (performance : Nat) : Option PerformanceStatus :=
  (db.performances.get? performance).map (·.status)

def Performance.setStatus (status : PerformanceStatus) (p : Performance) : Performance :=
  { p with status := status }

/-- A new status keeps the primary key. -/
theorem Performance.setStatus_id (status : PerformanceStatus) (p : Performance) :
    (p.setStatus status).id = p.id := rfl

/-- The staff change the status of a performance. -/
def setStatus (db : Db) (organization pk : Nat) (status : PerformanceStatus) : Db :=
  { db with
    performances := db.performances.update
      (fun p => p.organization == organization && p.id == pk) (Performance.setStatus status)
      (Performance.setStatus_id status) }

/-- The operation of the shop that an event runs. -/
def ListingEvent.op (s : State) : ListingEvent → Option Op
  | .performanceDetail _ _ => none
  | .holdCreate organization pk sessionKey posted =>
    BoxOffice.holdCreate s.db organization pk sessionKey posted
  | .shop op => some op
  | .setStatus _ _ _ => none

/-- The rows of a table that were not there. -/
def newRows {α : Type} [Keyed α] (before after : Table α) : List α :=
  after.rows.filter fun r => before.nextId ≤ Keyed.key r

/-- What an operation creates, under the statuses before it. -/
def createdBy (op : Op) (s : State) : List Creation :=
  (newRows s.db.holds (exec op s).db.holds).map (fun h =>
    .hold h.id h.performance (statusOf s.db h.performance)) ++
  (newRows s.db.tickets (exec op s).db.tickets).map fun t =>
    .ticket t.id t.performance (statusOf s.db t.performance) ((fulfilledHold s op).map (·.id))

/-- Carry out an event. -/
def execListing (e : ListingEvent) (u : Listing) : Listing :=
  match e with
  | .setStatus organization pk status =>
    { u with shop := { u.shop with db := setStatus u.shop.db organization pk status } }
  | e =>
    match e.op u.shop with
    | none => u
    | some op => ⟨exec op u.shop, u.created ++ createdBy op u.shop⟩

/-- Holds are selected through `hold_create`. -/
def AdmissibleListing (u : Listing) : ListingEvent → Prop
  | .shop op => op.selects = false ∧ Admissible u.shop op
  | _ => True

/-- The storefront and the staff, from a fresh set-up. -/
def listing : System Listing ListingEvent :=
  .ofFun (fun u => Fresh u.shop ∧ u.created = []) AdmissibleListing execListing

/-- The service has what is selected: that many places, or every one of the seats. -/
def Accepted (s : State) : Op → Prop
  | .setGaHold _ performance sessionKey _ quantity =>
    ∃ allocation, allocationOf s.db performance = some allocation ∧
      allocation.sold + activeGaHeldQty s.db.holds s.now performance (some sessionKey)
        + quantity ≤ (allocation.capacity : Int)
  | .setReservedHold organization performance sessionKey seatIds =>
    seatIds ≠ [] ∧ ∃ p, findPerformance s.db organization performance = some p ∧
      ∀ id ∈ seatIds, ∃ seat, seat.id = id ∧
        Selectable s.db s.now organization p sessionKey seat
  | _ => False

/-- A `hold_create` whose selection the service has names a published performance. -/
def SelectsPublished (u : Listing) : ListingEvent → Prop
  | .holdCreate organization pk sessionKey posted =>
    ∀ p op, findPerformance u.shop.db organization pk = some p →
      BoxOffice.holdCreate u.shop.db organization pk sessionKey posted = some op →
      Accepted u.shop op → p.status = .published
  | _ => True

/-- A hold is turned into tickets while its performance is published. -/
def ChargesPublished (u : Listing) (e : ListingEvent) : Prop :=
  ∀ op hold, e.op u.shop = some op → fulfilledHold u.shop op = some hold →
    statusOf u.shop.db hold.performance = some .published

/-- Every hold was created while its performance was published. -/
structure HoldsPublished (u : Listing) : Prop where
  stored : ∀ h ∈ u.shop.db.holds.rows, ∃ status, .hold h.id h.performance status ∈ u.created
  published : ∀ id performance status,
    .hold id performance status ∈ u.created → status = some .published

/-- Every ticket is recorded, and was issued for a hold of its performance. -/
structure TicketsOfHolds (u : Listing) : Prop where
  stored : ∀ t ∈ u.shop.db.tickets.rows, ∃ performance status hold,
    .ticket t.id performance status hold ∈ u.created
  sold : ∀ id performance status hold, .ticket id performance status hold ∈ u.created →
    ∃ h status', hold = some h ∧ .hold h performance status' ∈ u.created

section Steps

variable {s : State} {u u' : Listing} {op : Op} {e : ListingEvent} {h : Hold}

/-! ### What is created -/

/-- The new rows are those with a key not given before. -/
theorem mem_newRows {α : Type} [Keyed α] {before after : Table α} {r : α} :
    r ∈ newRows before after ↔ r ∈ after.rows ∧ before.nextId ≤ Keyed.key r := by
  unfold newRows
  rw [List.mem_filter, decide_eq_true_eq]

/-- The holds that an operation creates. -/
theorem hold_mem_createdBy {id performance : Nat} {status : Option PerformanceStatus} :
    .hold id performance status ∈ createdBy op s ↔
      ∃ h ∈ (exec op s).db.holds.rows, s.db.holds.nextId ≤ h.id ∧ h.id = id ∧
        h.performance = performance ∧ statusOf s.db h.performance = status := by
  unfold createdBy
  rw [List.mem_append, List.mem_map, List.mem_map]
  constructor
  · rintro (⟨h, hh, heq⟩ | ⟨t, -, heq⟩)
    · obtain ⟨hmem, hnew⟩ := mem_newRows.mp hh
      injection heq with hid hperf hstatus
      exact ⟨h, hmem, hnew, hid, hperf, hstatus⟩
    · cases heq
  · rintro ⟨h, hmem, hnew, rfl, rfl, rfl⟩
    exact .inl ⟨h, mem_newRows.mpr ⟨hmem, hnew⟩, rfl⟩

/-- The tickets that an operation creates. -/
theorem ticket_mem_createdBy {id performance : Nat} {status : Option PerformanceStatus}
    {hold : Option Nat} :
    .ticket id performance status hold ∈ createdBy op s ↔
      ∃ t ∈ (exec op s).db.tickets.rows, s.db.tickets.nextId ≤ t.id ∧ t.id = id ∧
        t.performance = performance ∧ statusOf s.db t.performance = status ∧
        (fulfilledHold s op).map (·.id) = hold := by
  unfold createdBy
  rw [List.mem_append, List.mem_map, List.mem_map]
  constructor
  · rintro (⟨h, -, heq⟩ | ⟨t, ht, heq⟩)
    · cases heq
    · obtain ⟨hmem, hnew⟩ := mem_newRows.mp ht
      injection heq with hid hperf hstatus hhold
      exact ⟨t, hmem, hnew, hid, hperf, hstatus, hhold⟩
  · rintro ⟨t, hmem, hnew, rfl, rfl, rfl, rfl⟩
    exact .inr ⟨t, mem_newRows.mpr ⟨hmem, hnew⟩, rfl⟩

/-- A hold is new, or there is an old one of its key and performance. -/
theorem old_or_new (hh : h ∈ (exec op s).db.holds.rows) :
    (∃ k ∈ s.db.holds.rows, k.id = h.id ∧ k.performance = h.performance) ∨
      s.db.holds.nextId ≤ h.id := by
  cases exec_origin hh with
  | kept hmem => exact .inl ⟨h, hmem, rfl, rfl⟩
  | ga => exact .inr le_rfl
  | reserved => exact .inr le_rfl
  | @promo _ _ _ _ k promo hmem => exact .inl ⟨k, hmem, rfl, rfl⟩
  | @unpromo _ _ _ k hmem => exact .inl ⟨k, hmem, rfl, rfl⟩
  | @donation _ _ _ k hmem => exact .inl ⟨k, hmem, rfl, rfl⟩

/-- A row of the table is not new. -/
theorem not_new {α : Type} [Keyed α] {t : Table α} {r : α} {n : Nat} (hr : r ∈ t.rows)
    (hn : Keyed.key r = n) : ¬ t.nextId ≤ n :=
  hn ▸ (t.fresh r hr).not_ge

/-- Only a selection creates a hold, and it is one of its performance. -/
theorem new_hold (hh : h ∈ (exec op s).db.holds.rows) (hnew : s.db.holds.nextId ≤ h.id) :
    ∃ organization performance p, findPerformance s.db organization performance = some p ∧
      h.performance = p.id ∧
      ((∃ sessionKey tier quantity, op = .setGaHold organization performance sessionKey tier
          quantity) ∨
        ∃ sessionKey seatIds, op = .setReservedHold organization performance sessionKey seatIds) := by
  cases exec_origin hh with
  | kept hmem => exact absurd hnew (not_new hmem rfl)
  | ga hp => exact ⟨_, _, _, hp, rfl, .inl ⟨_, _, _, rfl⟩⟩
  | reserved hp => exact ⟨_, _, _, hp, rfl, .inr ⟨_, _, rfl⟩⟩
  | @promo _ _ _ _ k promo hmem => exact absurd hnew (not_new hmem rfl)
  | @unpromo _ _ _ k hmem => exact absurd hnew (not_new hmem rfl)
  | @donation _ _ _ k hmem => exact absurd hnew (not_new hmem rfl)

/-- A positive quantity that is held fits beside what is sold and what others hold. -/
theorem setGaHold_room {db db' : Db} {now : Time} {organization : Nat} {p : Performance}
    {sessionKey : String} {t : PriceTier} {quantity : Int} {result : Option Hold}
    (hq : 0 < quantity)
    (h : setGaHold db now organization p sessionKey t (some quantity) = .ok (db', result)) :
    ∃ allocation, allocationOf db p.id = some allocation ∧
      allocation.sold + activeGaHeldQty db.holds now p.id (some sessionKey) + quantity
        ≤ (allocation.capacity : Int) := by
  simp only [setGaHold, if_neg (not_le.mpr hq)] at h
  cases ha : allocationOf db p.id with
  | none => simp only [ha] at h; cases h
  | some allocation =>
    simp only [ha] at h
    split_ifs at h with hfit
    exact ⟨allocation, rfl, by omega⟩

/-- Every seat of a request that is held was selectable. -/
theorem selectable_of_held {db db' : Db} {now : Time} {organization : Nat} {p : Performance}
    {sessionKey : String} {seatIds : List Nat} {result : Option Hold}
    (hsome : seatIds.dedup ≠ [])
    (h : setReservedHold db now organization p sessionKey seatIds = .ok (db', result)) :
    ∀ id ∈ seatIds, ∃ seat, seat.id = id ∧ Selectable db now organization p sessionKey seat := by
  obtain ⟨hlen, hselectable, -⟩ := setReservedHold_checked hsome h
  intro id hid
  have hsub : (requestedSeats db organization p seatIds.dedup).map (·.id) ⊆ seatIds.dedup := by
    intro n hn
    obtain ⟨seat, hseat, rfl⟩ := List.mem_map.mp hn
    exact (mem_requestedSeats.mp hseat).2.2.2.2
  have hperm := (List.subperm_of_subset (requestedSeats_nodup _) hsub).perm_of_length_le
    (by rw [List.length_map, hlen])
  obtain ⟨seat, hseat, hkey⟩ := List.mem_map.mp (hperm.mem_iff.mpr (List.mem_dedup.2 hid))
  exact ⟨seat, hkey, hselectable seat hseat⟩

/-- A selection that creates a hold is one that the service has. -/
theorem accepted_of_new (hh : h ∈ (exec op s).db.holds.rows)
    (hnew : s.db.holds.nextId ≤ h.id) : Accepted s op := by
  cases exec_origin hh with
  | kept hmem => exact absurd hnew (not_new hmem rfl)
  | @ga organization performance sessionKey priceTier quantity p t r hp ht hr hq =>
    obtain ⟨db', result⟩ := r
    obtain rfl := findPerformance_id hp
    exact setGaHold_room hq hr
  | @reserved organization performance sessionKey seatIds p r hp hr =>
    obtain ⟨db', result⟩ := r
    have hsome : seatIds.dedup ≠ [] := by
      intro hnil
      have hrun : (exec (.setReservedHold organization performance sessionKey seatIds) s).db
          = releaseHold s.db organization p.id sessionKey := by
        simp only [exec, hp, setReservedHold, hnil, if_true, State.commit]
      rw [hrun] at hh
      exact absurd hnew (not_new (mem_clearSessionHold hh) rfl)
    exact ⟨fun hnil => hsome (by rw [hnil]; rfl), p, hp, selectable_of_held hsome hr⟩
  | @promo _ _ _ _ k promo hmem => exact absurd hnew (not_new hmem rfl)
  | @unpromo _ _ _ k hmem => exact absurd hnew (not_new hmem rfl)
  | @donation _ _ _ k hmem => exact absurd hnew (not_new hmem rfl)

/-- The status of a performance that was found. -/
theorem statusOf_found {db : Db} {organization pk : Nat} {p : Performance}
    (hp : findPerformance db organization pk = some p) : statusOf db p.id = some p.status := by
  have hget : db.performances.get? p.id = some p :=
    Table.get?_eq_some.mpr ⟨(findPerformance_some hp).1, rfl⟩
  unfold statusOf
  rw [hget]
  rfl

/-- What `hold_create` calls is about the performance it finds. -/
theorem holdCreate_cases {organization pk : Nat} {sessionKey : String} {posted : Selection}
    (hop : holdCreate s.db organization pk sessionKey posted = some op) :
    ∃ p, findPerformance s.db organization pk = some p ∧
      ((∃ tier quantity, op = .setGaHold organization p.id sessionKey tier quantity) ∨
        op = .releaseHold organization p.id sessionKey ∨
        op = .setReservedHold organization p.id sessionKey posted.seatIds) := by
  unfold holdCreate at hop
  cases hp : findPerformance s.db organization pk with
  | none => rw [hp] at hop; cases hop
  | some p =>
    rw [hp] at hop
    refine ⟨p, rfl, ?_⟩
    dsimp only at hop
    cases hmode : p.seatingMode with
    | reserved =>
      rw [hmode] at hop
      exact .inr (.inr (Option.some.inj hop).symm)
    | ga =>
      rw [hmode] at hop
      dsimp only at hop
      split_ifs at hop with hpos
      · cases ht : gaTier s.db p posted.priceTier with
        | none => rw [ht] at hop; cases hop
        | some t => rw [ht] at hop; exact .inl ⟨_, _, (Option.some.inj hop).symm⟩
      · exact .inr (.inl (Option.some.inj hop).symm)

/-- The hold that `hold_create` gets is one of the performance it found. -/
theorem holdCreate_new {organization pk : Nat} {sessionKey : String} {posted : Selection}
    (hop : holdCreate s.db organization pk sessionKey posted = some op)
    (hh : h ∈ (exec op s).db.holds.rows) (hnew : s.db.holds.nextId ≤ h.id) :
    ∃ p, findPerformance s.db organization pk = some p ∧ h.performance = p.id := by
  obtain ⟨p, hp, hform⟩ := holdCreate_cases hop
  obtain ⟨organization', performance, p', hp', hperf, hsel⟩ := new_hold hh hnew
  refine ⟨p, hp, hperf.trans ?_⟩
  rw [findPerformance_id hp']
  rcases hform with ⟨tier, quantity, rfl⟩ | rfl | rfl <;>
    rcases hsel with ⟨key, tier', quantity', heq⟩ | ⟨key, ids, heq⟩ <;> cases heq <;> rfl

/-- A hold request is admissible. -/
theorem holdCreate_admissible {organization pk : Nat} {sessionKey : String} {posted : Selection}
    (hop : holdCreate s.db organization pk sessionKey posted = some op) : Admissible s op := by
  obtain ⟨p, -, ⟨tier, quantity, rfl⟩ | rfl | rfl⟩ := holdCreate_cases hop <;> trivial

/-- The hold that an operation fulfils is stored. -/
theorem fulfilledHold_exists {hold : Hold} (ha : Admissible s op)
    (hf : fulfilledHold s op = some hold) : HoldExists s.db hold := by
  cases op with
  | fulfillHold h args =>
    simp only [fulfilledHold] at hf
    split at hf
    · exact Option.some.inj hf ▸ ha
    · cases hf
  | fulfillHoldWithPass h passPurchase buyerEmail buyerName marketingOptIn =>
    simp only [fulfilledHold] at hf
    split at hf
    · exact Option.some.inj hf ▸ ha
    · cases hf
  | fulfillCheckoutSession organization session =>
    simp only [fulfilledHold] at hf
    split at hf
    · rename_i hread
      obtain rfl := Option.some.inj hf
      exact ⟨_, (readTarget_hold hread).1, ⟨rfl, rfl, rfl, rfl, rfl, rfl⟩⟩
    · cases hf
  | _ => cases hf

/-! ### One operation -/

/-- What is recorded after an operation. -/
def Listing.run (op : Op) (u : Listing) : Listing := ⟨exec op u.shop, u.created ++ createdBy op u.shop⟩

/-- Holds stay those of published performances if the new ones are. -/
theorem HoldsPublished.run (hu : HoldsPublished u)
    (hnew : ∀ h ∈ (exec op u.shop).db.holds.rows, u.shop.db.holds.nextId ≤ h.id →
      statusOf u.shop.db h.performance = some .published) : HoldsPublished (u.run op) where
  stored := by
    intro h hh
    rcases old_or_new hh with ⟨k, hk, hid, hperf⟩ | hfresh
    · obtain ⟨status, hrec⟩ := hu.stored k hk
      exact ⟨status, List.mem_append_left _ (hid ▸ hperf ▸ hrec)⟩
    · exact ⟨_, List.mem_append_right _
        (hold_mem_createdBy.mpr ⟨h, hh, hfresh, rfl, rfl, rfl⟩)⟩
  published := by
    intro id performance status hrec
    rcases List.mem_append.mp hrec with hrec | hrec
    · exact hu.published _ _ _ hrec
    · obtain ⟨h, hh, hfresh, -, -, rfl⟩ := hold_mem_createdBy.mp hrec
      exact hnew h hh hfresh

/-- Tickets stay those of such holds. -/
theorem TicketsOfHolds.run (hu : TicketsOfHolds u) (hholds : HoldsPublished u)
    (ha : Admissible u.shop op) : TicketsOfHolds (u.run op) where
  stored := by
    intro t ht
    rcases exec_ticketOrigin ht with ⟨t', ht', hid⟩ | ⟨hfresh, -⟩
    · obtain ⟨performance, status, hold, hrec⟩ := hu.stored t' ht'
      exact ⟨performance, status, hold, List.mem_append_left _ (hid ▸ hrec)⟩
    · exact ⟨_, _, _, List.mem_append_right _
        (ticket_mem_createdBy.mpr ⟨t, ht, hfresh, rfl, rfl, rfl, rfl⟩)⟩
  sold := by
    intro id performance status hold hrec
    rcases List.mem_append.mp hrec with hrec | hrec
    · obtain ⟨h, status', rfl, hsold⟩ := hu.sold _ _ _ _ hrec
      exact ⟨h, status', rfl, List.mem_append_left _ hsold⟩
    · obtain ⟨t, ht, hfresh, -, rfl, -, rfl⟩ := ticket_mem_createdBy.mp hrec
      rcases exec_ticketOrigin ht with ⟨t', ht', hid⟩ | ⟨-, hold, hf, hperf⟩
      · exact absurd hfresh (not_new ht' hid)
      · -- The row it was fulfilled from has been recorded.
        obtain ⟨row, hrow, hsame⟩ := fulfilledHold_exists ha hf
        obtain ⟨status', hrec'⟩ := hholds.stored row hrow
        refine ⟨hold.id, status', by rw [hf]; rfl, List.mem_append_left _ ?_⟩
        rw [hperf, hsame.1, hsame.2.2.1]
        exact hrec'

/-- A ticket of a performance that is published when its hold is fulfilled. -/
theorem ticket_published (hcharge : ∀ hold, fulfilledHold s op = some hold →
      statusOf s.db hold.performance = some .published) {id performance : Nat}
    {status : Option PerformanceStatus} {hold : Option Nat}
    (hrec : .ticket id performance status hold ∈ createdBy op s) : status = some .published := by
  obtain ⟨t, ht, hfresh, -, -, rfl, -⟩ := ticket_mem_createdBy.mp hrec
  rcases exec_ticketOrigin ht with ⟨t', ht', hid⟩ | ⟨-, hold, hf, hperf⟩
  · exact absurd hfresh (not_new ht' hid)
  · rw [hperf]
    exact hcharge hold hf

/-- **What an event does**: nothing to what was created, or one operation of the shop. -/
theorem execListing_cases (hadm : AdmissibleListing u e) :
    (execListing e u).created = u.created ∧ (execListing e u).shop.db.holds = u.shop.db.holds ∧
        (execListing e u).shop.db.tickets = u.shop.db.tickets ∨
      ∃ op, e.op u.shop = some op ∧ Admissible u.shop op ∧ execListing e u = u.run op := by
  cases e with
  | performanceDetail organization pk => exact .inl ⟨rfl, rfl, rfl⟩
  | setStatus organization pk status => exact .inl ⟨rfl, rfl, rfl⟩
  | shop op => exact .inr ⟨op, rfl, hadm.2, rfl⟩
  | holdCreate organization pk sessionKey posted =>
    cases hop : holdCreate u.shop.db organization pk sessionKey posted with
    | none =>
      have hstay : execListing (.holdCreate organization pk sessionKey posted) u = u := by
        simp only [execListing, ListingEvent.op, hop]
      rw [hstay]
      exact .inl ⟨rfl, rfl, rfl⟩
    | some op =>
      refine .inr ⟨op, hop, holdCreate_admissible hop, ?_⟩
      simp only [execListing, ListingEvent.op, hop]
      rfl

/-- The hold that an event creates is one of a published performance. -/
theorem new_hold_published (hadm : AdmissibleListing u e) (hsel : SelectsPublished u e)
    (hop : e.op u.shop = some op) (hh : h ∈ (exec op u.shop).db.holds.rows)
    (hnew : u.shop.db.holds.nextId ≤ h.id) :
    statusOf u.shop.db h.performance = some .published := by
  cases e with
  | performanceDetail organization pk => cases hop
  | setStatus organization pk status => cases hop
  | shop op' =>
    obtain rfl := Option.some.inj hop
    obtain ⟨organization, performance, p, -, -, ⟨key, tier, quantity, rfl⟩ | ⟨key, ids, rfl⟩⟩ :=
      new_hold hh hnew <;> cases hadm.1
  | holdCreate organization pk sessionKey posted =>
    obtain ⟨p, hp, hperf⟩ := holdCreate_new hop hh hnew
    rw [hperf, statusOf_found hp, hsel p op hp hop (accepted_of_new hh hnew)]

end Steps

/-- What is recorded while selections name published performances. -/
structure SoldPublished (u : Listing) : Prop where
  holds : HoldsPublished u
  tickets : TicketsOfHolds u

/-- **The step.** An event of the listing keeps sold what was published. -/
theorem soldPublished_step {u : Listing} {e : ListingEvent} (hu : SoldPublished u)
    (hadm : AdmissibleListing u e) (hsel : SelectsPublished u e) :
    SoldPublished (execListing e u) := by
  rcases execListing_cases hadm with ⟨hcreated, hholds, htickets⟩ | ⟨op, hop, ha, hrun⟩
  · refine ⟨⟨?_, ?_⟩, ⟨?_, ?_⟩⟩
    · rw [hcreated, hholds]; exact hu.holds.stored
    · rw [hcreated]; exact hu.holds.published
    · rw [hcreated, htickets]; exact hu.tickets.stored
    · rw [hcreated]; exact hu.tickets.sold
  · rw [hrun]
    exact ⟨hu.holds.run fun h hh hnew => new_hold_published hadm hsel hop hh hnew,
      hu.tickets.run hu.holds ha⟩

/-- At the start nothing was created. -/
theorem soldPublished_init {u : Listing} (hf : Fresh u.shop) (hnone : u.created = []) :
    SoldPublished u := by
  refine ⟨⟨?_, ?_⟩, ⟨?_, ?_⟩⟩
  · rw [hf.holds]; simp
  · rw [hnone]; simp
  · rw [hf.tickets]; simp
  · rw [hnone]; simp

/-- **Only published performances are sold**, in every run in which no selection gets a hold of a
    performance that is not published: every hold was created while its performance was published,
    and every ticket was issued for such a hold.  Where holds are also charged only while their
    performance is published, every ticket was issued while it was. -/
theorem only_published_sold {u : Listing} :
    (Reachable (listing.restrict SelectsPublished) u → SoldPublished u)
    ∧ (Reachable (listing.restrict fun u e => SelectsPublished u e ∧ ChargesPublished u e) u →
        ∀ id performance status hold,
          .ticket id performance status hold ∈ u.created → status = some .published) := by
  constructor
  · intro h
    refine h.invariant (fun v hv => soldPublished_init hv.1 hv.2) ?_
    rintro v e w hv ⟨⟨hadm, rfl⟩, hsel⟩
    exact soldPublished_step hv hadm hsel
  · intro h
    refine h.invariant (I := fun v => ∀ id performance status hold,
      .ticket id performance status hold ∈ v.created → status = some .published)
      (fun v hv => ?_) ?_
    · rw [hv.2]; simp
    · rintro v e w hv ⟨⟨hadm, rfl⟩, -, hcharge⟩
      rcases execListing_cases hadm with ⟨hcreated, -, -⟩ | ⟨op, hop, -, hrun⟩
      · rwa [hcreated]
      · rw [hrun]
        intro id performance status hold hrec
        rcases List.mem_append.mp hrec with hrec | hrec
        · exact hv _ _ _ _ hrec
        · exact ticket_published (fun hold hf => hcharge op hold hop hf) hrec

/-! ### Two nights -/

/-- One place at the sample performance. -/
def onePlace : ListingEvent := .holdCreate 1 1 "a" ⟨1, 1, []⟩

/-- The cart is paid for. -/
def payPlace : ListingEvent :=
  .shop (.fulfillCheckoutSession 1 ⟨"cs_1", .hold (some 1), some 1, false, "ada@example.com",
    "Ada", some "pi_1"⟩)

def openingNight : Listing := ⟨sampleState, []⟩

/-- The published night, sold. -/
def soldNight : Listing := execListing payPlace (execListing onePlace openingNight)

/-- The opening night is reachable. -/
theorem openingNight_init : Reachable listing openingNight := .of_init ⟨sampleState_fresh, rfl⟩

/-- The place is held and sold, each while the performance is published. -/
theorem only_published_sold_night :
    soldNight.created = [.hold 1 1 (some .published), .ticket 1 1 (some .published) (some 1)] ∧
      SoldPublished soldNight ∧
      ∀ id performance status hold, .ticket id performance status hold ∈ soldNight.created →
        status = some .published := by
  -- Both conditions hold at the two steps of this night, the second by evaluation.
  have hselects : SelectsPublished openingNight onePlace := by
    intro p op hp _ _
    have hstatus : (findPerformance sampleDb 1 1).map (·.status) = some .published := by decide
    rw [show findPerformance sampleDb 1 1 = some p from hp] at hstatus
    exact Option.some.inj hstatus
  have hcharges : ChargesPublished (execListing onePlace openingNight) payPlace := by
    intro op hold hop hf
    obtain rfl := Option.some.inj hop
    have hall : ∀ h ∈ fulfilledHold (execListing onePlace openingNight).shop
        (.fulfillCheckoutSession 1 ⟨"cs_1", .hold (some 1), some 1, false, "ada@example.com",
          "Ada", some "pi_1"⟩),
        statusOf (execListing onePlace openingNight).shop.db h.performance = some .published := by
      decide +kernel
    exact hall hold hf
  have hnone : ChargesPublished openingNight onePlace := by
    intro op hold hop hf
    obtain ⟨p, -, ⟨tier, quantity, rfl⟩ | rfl | rfl⟩ :=
      @holdCreate_cases sampleState op 1 1 "a" ⟨1, 1, []⟩ hop <;> cases hf
  have hinit : Reachable (listing.restrict fun u e => SelectsPublished u e ∧ ChargesPublished u e)
      openingNight := .of_init ⟨sampleState_fresh, rfl⟩
  have hplace := hinit.step (i := onePlace) ⟨⟨trivial, rfl⟩, hselects, hnone⟩
  have hsold := hplace.step (i := payPlace) ⟨⟨⟨rfl, trivial⟩, rfl⟩, trivial, hcharges⟩
  have hinit' : Reachable (listing.restrict SelectsPublished) openingNight :=
    .of_init ⟨sampleState_fresh, rfl⟩
  have hplace' := hinit'.step (i := onePlace) ⟨⟨trivial, rfl⟩, hselects⟩
  have hsold' := hplace'.step (i := payPlace) ⟨⟨⟨rfl, trivial⟩, rfl⟩, trivial⟩
  exact ⟨by decide +kernel, only_published_sold.1 hsold', only_published_sold.2 hsold⟩

/-- The performance goes back to a draft, and a place is asked for and paid. -/
def draftNight : Listing := execListing (.setStatus 1 1 .draft) openingNight

/-- **The counterexample.** The page of the draft is not there; the request behind its form sells
    it. -/
theorem draft_sold :
    Reachable listing (execListing payPlace (execListing onePlace draftNight)) ∧
      performanceDetail draftNight.shop.db 1 1 = none ∧
      (execListing payPlace (execListing onePlace draftNight)).created
        = [.hold 1 1 (some .draft), .ticket 1 1 (some .draft) (some 1)] := by
  have hdraft : Reachable listing draftNight :=
    openingNight_init.step (i := .setStatus 1 1 .draft) ⟨trivial, rfl⟩
  have hplace : Reachable listing (execListing onePlace draftNight) :=
    hdraft.step (i := onePlace) ⟨trivial, rfl⟩
  exact ⟨hplace.step (i := payPlace) ⟨⟨rfl, trivial⟩, rfl⟩, by decide +kernel, by decide +kernel⟩

end BoxOffice

import BoxOffice.Orders.CartOrigin
import BoxOffice.Promotions.Counted

namespace BoxOffice

open Relational Transition

/-!
# Orders — the selection views

* `performanceDetail` is the page of a performance: it is there only while the performance is
  published;
* `holdCreate` is the request that its form posts.  It takes the performance from the request,
  and its mode decides between a quantity and seats;
* `exec_ticketOrigin` — a new ticket is one of the hold that the operation fulfils.
-/

/-- `performance_detail`: the performance of the page, or a 404. -/
def performanceDetail (db : Db) (organization pk : Nat) : Option Performance :=
  (findPerformance db organization pk).filter (·.status == .published)

/-- What the form of the page posts. -/
structure Selection where
  quantity : Int
  priceTier : Nat
  seatIds : List Nat
deriving Repr, DecidableEq

/-- A price tier of the performance that is not one of a section. -/
def gaTier (db : Db) (performance : Performance) (priceTier : Nat) : Option PriceTier :=
  db.priceTiers.rows.find? fun t =>
    t.id == priceTier && t.organization == performance.organization
      && t.performance == some performance.id && t.section_ == none

/-- `hold_create`: the operation it calls, or a 404. -/
def holdCreate (db : Db) (organization pk : Nat) (sessionKey : String) (posted : Selection) :
    Option Op :=
  match findPerformance db organization pk with
  | none => none
  | some p =>
    match p.seatingMode with
    | .ga =>
      if 0 < posted.quantity then
        match gaTier db p posted.priceTier with
        | none => none
        | some t => some (.setGaHold organization p.id sessionKey t.id posted.quantity)
      else some (.releaseHold organization p.id sessionKey)
    | .reserved => some (.setReservedHold organization p.id sessionKey posted.seatIds)

/-- The operations that `hold_create` alone calls. -/
def Op.selects : Op → Bool
  | .setGaHold _ _ _ _ _ | .setReservedHold _ _ _ _ => true
  | _ => false

section Tickets

variable {db' : Db} {now : Time} {hold : Hold} {args : FulfillArgs} {order : Order} {s : State}
  {op : Op} {t : Ticket}

/-- The ticket was there, or the operation fulfilled its hold. -/
def TicketOrigin (s : State) (op : Op) (t : Ticket) : Prop :=
  (∃ t' ∈ s.db.tickets.rows, t'.id = t.id) ∨
    s.db.tickets.nextId ≤ t.id ∧
      ∃ hold, fulfilledHold s op = some hold ∧ t.performance = hold.performance

/-- A ticket that was there has its origin. -/
theorem TicketOrigin.kept (h : t ∈ s.db.tickets.rows) : TicketOrigin s op t := .inl ⟨t, h, rfl⟩

/-- So has one that a fulfilment mints. -/
theorem TicketOrigin.minted {seats : List (Option Nat)} {k} (hop : fulfilledHold s op = some hold)
    (h : t ∈ (s.db.tickets.insertMany (newTicket hold order) seats k).rows) :
    TicketOrigin s op t := by
  rcases Table.mem_insertMany h with h | ⟨seat, -, n, hn, rfl⟩
  · exact .kept h
  · exact .inr ⟨hn, hold, hop, rfl⟩

/-- So has one that was voided. -/
theorem TicketOrigin.voided {n : Nat} (h : t ∈ (voidedTickets s.db.tickets n).rows) :
    TicketOrigin s op t := by
  obtain ⟨t', ht', rfl⟩ := Table.mem_update.mp h
  refine .inl ⟨t', ht', ?_⟩
  split_ifs <;> rfl

/-- A transaction that leaves the tickets. -/
theorem commit_tickets {α : Type} {r : Result α}
    (hr : ∀ db' a, r = .ok (db', a) → db'.tickets = s.db.tickets)
    (h : t ∈ (s.commit r).db.tickets.rows) : TicketOrigin s op t := by
  have hsame : (s.commit r).db.tickets = s.db.tickets :=
    commit_rule (p := fun db => db.tickets = s.db.tickets) rfl hr
  exact .kept (hsame ▸ h)

/-- The tickets after a delivery have their origin too. -/
theorem fulfillCheckoutSession_tickets {organization : Nat} {session : CheckoutSession}
    {created : Bool}
    (h : fulfillCheckoutSession s.db s.now organization session = .ok (db', order, created))
    (ht : t ∈ db'.tickets.rows) :
    TicketOrigin s (.fulfillCheckoutSession organization session) t := by
  rcases fulfillCheckoutSession_ok h with ⟨rfl, target, htarget, hbody⟩ | ⟨rfl, rfl, -⟩
  · cases target with
    | hold hold =>
      have hop : fulfilledHold s (.fulfillCheckoutSession organization session) = some hold := by
        simp only [fulfilledHold, h, htarget]
      obtain ⟨guests, guest, -, -, -, -, rfl⟩ := fulfillHold_ok hbody
      exact .minted hop ht
    | donation amount campaign =>
      obtain ⟨guests, guest, -, -, -, rfl⟩ := fulfillDonation_ok hbody
      exact .kept ht
    | pass product =>
      obtain ⟨guests, guest, -, -, -, -, rfl⟩ := fulfillPassPurchase_ok hbody
      exact .kept ht
  · exact .kept ht

/-- **Tickets come from holds.** -/
theorem exec_ticketOrigin (h : t ∈ (exec op s).db.tickets.rows) : TicketOrigin s op t := by
  cases op with
  | advance d => exact .kept h
  -- Carts are not tickets: what only writes carts leaves the tickets.
  | setGaHold organization performance sessionKey priceTier quantity =>
    simp only [exec] at h
    split at h
    · refine commit_tickets (fun db' hold hr => ?_) h
      rcases setGaHold_ok hr with rfl | ⟨allocation, n, -, -, -, rfl⟩ <;> rfl
    · exact .kept h
  | setReservedHold organization performance sessionKey seatIds =>
    simp only [exec] at h
    split at h
    · refine commit_tickets (fun db' hold hr => ?_) h
      rcases setReservedHold_ok hr with rfl | ⟨seats, -, -, -, rfl⟩ <;> rfl
    · exact .kept h
  | releaseHold organization performance sessionKey => exact .kept h
  | releaseHoldById organization sessionKey holdId =>
    simp only [exec, releaseHoldById] at h
    split_ifs at h <;> exact .kept h
  | releaseExpiredHolds => exact .kept h
  | applyPromoCode organization sessionKey holdId code =>
    simp only [exec] at h
    refine commit_tickets (fun db' _ hr => ?_) h
    obtain ⟨hold, promo, -, -, -, rfl⟩ := applyPromoCode_ok hr
    rfl
  | removePromoCode organization sessionKey holdId =>
    simp only [exec, removePromoCode] at h
    split at h <;> exact .kept h
  | setHoldDonation organization sessionKey holdId amount campaign =>
    simp only [exec] at h
    refine commit_tickets (fun db' _ hr => ?_) h
    obtain ⟨hold, gift, -, -, -, -, rfl⟩ := setHoldDonation_ok hr
    rfl
  | clearHoldDonation organization sessionKey holdId =>
    simp only [exec, clearHoldDonation] at h
    split at h <;> exact .kept h
  -- These two mint, and only for the cart that they fulfil.
  | fulfillHold hold args =>
    simp only [exec] at h
    cases hr : fulfillHold s.db s.now hold args with
    | error e => rw [hr] at h; exact .kept h
    | ok r =>
      have hop : fulfilledHold s (.fulfillHold hold args) = some hold := by
        simp only [fulfilledHold, hr]
      obtain ⟨db', order⟩ := r
      rw [hr] at h
      obtain ⟨guests, guest, -, -, -, -, rfl⟩ := fulfillHold_ok hr
      exact .minted hop h
  | fulfillHoldWithPass hold passPurchase buyerEmail buyerName marketingOptIn =>
    simp only [exec] at h
    cases hr : fulfillHoldWithPass s.db s.now hold passPurchase buyerEmail buyerName
        marketingOptIn with
    | error e => rw [hr] at h; exact .kept h
    | ok r =>
      have hop : fulfilledHold s (.fulfillHoldWithPass hold passPurchase buyerEmail buyerName
          marketingOptIn) = some hold := by
        simp only [fulfilledHold, hr]
      obtain ⟨db', order⟩ := r
      rw [hr] at h
      obtain ⟨p, performance, -, -, -, -, -, -, -, guests, guest, -, -, rfl⟩ :=
        fulfillHoldWithPass_ok hr
      exact .minted hop h
  -- Gifts and passes are orders without tickets.
  | fulfillDonation organization amount campaign args =>
    simp only [exec] at h
    refine commit_tickets (fun db' order hr => ?_) h
    obtain ⟨guests, guest, -, -, -, rfl⟩ := fulfillDonation_ok hr
    rfl
  | fulfillPassPurchase organization product args =>
    simp only [exec] at h
    split at h
    · refine commit_tickets (fun db' order hr => ?_) h
      obtain ⟨guests, guest, -, -, -, -, rfl⟩ := fulfillPassPurchase_ok hr
      rfl
    · exact .kept h
  | fulfillCheckoutSession organization session =>
    simp only [exec] at h
    cases hr : fulfillCheckoutSession s.db s.now organization session with
    | error e => rw [hr] at h; exact .kept h
    | ok r =>
      rw [hr] at h
      exact fulfillCheckoutSession_tickets hr h
  -- What is undone keeps its tickets, some of them void.
  | voidOrder order =>
    simp only [exec] at h
    split at h
    · rw [voidOrder_fst] at h
      exact .voided h
    · exact .kept h
  | refundOrder order gateway =>
    simp only [exec] at h
    cases hr : refundOrder s.db order gateway with
    | error e => rw [hr] at h; exact .kept h
    | ok r =>
      obtain ⟨db', performed⟩ := r
      rw [hr] at h
      obtain ⟨o, -, ⟨-, rfl, -⟩ | ⟨-, -, -, provider, refundRef, rfl⟩⟩ := refundOrder_ok hr
      · exact .kept h
      · rw [State.commit, refundedDb_eq] at h
        exact .voided h
  | orderCancel order =>
    simp only [exec] at h
    split at h
    · unfold orderCancel at h
      split_ifs at h
      · exact .kept h
      · rw [undoOrder_eq] at h
        exact .voided h
    · exact .kept h

end Tickets

end BoxOffice

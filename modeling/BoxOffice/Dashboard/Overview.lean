import BoxOffice.Dashboard.CartShape
import BoxOffice.Dashboard.Team
import BoxOffice.Relational.Query
import BoxOffice.Relational.Sorted
import BoxOffice.Tenants.Isolation

namespace BoxOffice

open Relational Transition

/-!
# Dashboard — the overview

The landing page of the dashboard, and what its numbers have to do with each other and with the
payments.

* `overview` is the view, for a member of the organization;
* `LedgerBalanced` — the orders an organization keeps the money of are worth what it was paid less what
  it paid back (`balanced_reachable`);
* `overview_revenue` — so the gross revenue is the balance of the payments, up to cancelled
  orders, and the events share it out;
* `overview_complete` — the performances share it out too, as long as all of them are shown.
-/

/-- `can_sell_tickets`: everybody but the scanners. -/
def Membership.canSellTickets (m : Membership) : Bool :=
  m.role == .owner || m.role == .manager || m.role == .boxOffice

/-- A row of the revenue by event; two events may share a title. -/
structure EventRevenueRow where
  eventTitle : Option String
  orders : Nat
  revenue : Cents
deriving Repr, DecidableEq

/-- A row of the sales by performance. -/
structure PerformanceRow where
  performance : Performance
  sold : Nat
  capacity : Option Nat
  revenue : Cents
deriving Repr, DecidableEq

/-- The context of the page, without the setup checklist. -/
structure Overview where
  upcomingPerformances : List Performance
  ticketsSold : Nat
  showRevenue : Bool
  grossRevenue : Cents
  eventRevenueRows : List EventRevenueRow
  performanceRows : List PerformanceRow
deriving Repr, DecidableEq

/-- `values(label).annotate(orders=Count("id"), revenue=Sum("total"))`: one entry a label. -/
structure RevenueGroup (κ : Type) where
  label : κ
  orders : Nat
  revenue : Cents

/-- The orders by label. -/
def groupRevenue {κ : Type} [DecidableEq κ] (label : Order → κ) (orders : List Order) :
    List (RevenueGroup κ) :=
  (orders.map label).dedup.map fun c =>
    let group := orders.filter fun o => label o = c
    ⟨c, group.length, (group.map (·.total)).sum⟩

/-- `paid_orders`. -/
def Overview.paidOrders (db : Db) (organization : Nat) : List Order :=
  db.orders.rows.filter fun o => o.organization == organization && o.status == .paid

/-- `ticketed_orders`: the paid orders of a performance. -/
def ticketedOrders (db : Db) (organization : Nat) : List Order :=
  (Overview.paidOrders db organization).filter fun o => o.performance.isSome

/-- `gross_revenue`. -/
def grossRevenue (db : Db) (organization : Nat) : Cents :=
  (sqlSum ((Overview.paidOrders db organization).map fun o => some o.total)).getD 0

/-- `performance__event` and `performance__event__title` of an order. -/
def Overview.orderEvent (db : Db) (o : Order) : Option Nat × Option String :=
  let event := (o.performance.bind db.performances.get?).map (·.event)
  (event, (event.bind db.events.get?).map (·.title))

/-- `event_revenue_rows`, the best-selling first. -/
def eventRevenueRows (db : Db) (organization : Nat) : List EventRevenueRow :=
  let groups := groupRevenue (Overview.orderEvent db) (ticketedOrders db organization)
  (sortBy (fun g => -g.revenue) groups).map fun g => ⟨g.label.2, g.orders, g.revenue⟩

/-- `revenue_by_performance.get(performance.id, Decimal("0.00"))`. -/
def performanceRevenue (db : Db) (organization performance : Nat) : Cents :=
  (((groupRevenue (·.performance) (ticketedOrders db organization)).find? fun g =>
    g.label == some performance).map (·.revenue)).getD 0

/-- The tickets of the organization that are not void. -/
def soldTickets (db : Db) (organization : Nat) : List Ticket :=
  db.tickets.rows.filter fun t => t.organization == organization && decide t.Live

/-- The capacity shown for a performance. -/
def shownCapacity (db : Db) (performance : Performance) : Option Nat :=
  match performance.seatingMode with
  | .ga => (allocationOf db performance.id).map (·.capacity)
  | .reserved => some (performanceSeats db performance).length

/-- The performances of the organization, the latest first. -/
def latestPerformances (db : Db) (organization : Nat) : List Performance :=
  sortBy (fun p => -(p.startsAt : Int))
    (db.performances.rows.filter fun p => p.organization == organization)

/-- `performance_rows`. -/
def performanceRows (db : Db) (organization : Nat) (showRevenue : Bool) : List PerformanceRow :=
  ((latestPerformances db organization).take 25).map fun p =>
    { performance := p
      sold := ((soldTickets db organization).filter fun t => t.performance == p.id).length
      capacity := shownCapacity db p
      revenue := if showRevenue then performanceRevenue db organization p.id else 0 }

/-- `overview`; `none` is the redirect of a scanner to the scan screen. -/
def overview (db : Db) (now : Time) (membership : Membership) : Option Overview :=
  if membership.canSellTickets then
    let organization := membership.organization
    let showRevenue := membership.canManageEvents
    some {
      upcomingPerformances :=
        (sortBy (·.startsAt) (db.performances.rows.filter fun p =>
          p.organization == organization && decide (now ≤ p.startsAt))).take 10
      ticketsSold := (soldTickets db organization).length
      showRevenue := showRevenue
      grossRevenue := if showRevenue then grossRevenue db organization else 0
      eventRevenueRows := if showRevenue then eventRevenueRows db organization else []
      performanceRows := performanceRows db organization showRevenue }
  else none

/-! ### Sums -/

section Sums

variable {db : Db} {organization : Nat}

/-- The gross revenue is the sum over the paid orders. -/
theorem grossRevenue_eq (db : Db) (organization : Nat) :
    grossRevenue db organization = ((Overview.paidOrders db organization).map (·.total)).sum := by
  unfold grossRevenue sqlSum
  rw [List.filterMap_map]
  simp only [Function.comp_def, id_eq]
  rw [show (fun o : Order => some o.total) = some ∘ Order.total from rfl, List.filterMap_eq_map]
  cases Overview.paidOrders db organization <;> rfl

/-- Orders of a performance and orders without one. -/
theorem grossRevenue_split (db : Db) (organization : Nat) :
    grossRevenue db organization = ((ticketedOrders db organization).map (·.total)).sum
      + (((Overview.paidOrders db organization).filter fun o => o.performance.isNone).map
          (·.total)).sum := by
  rw [grossRevenue_eq, ← List.sum_append, ← List.map_append]
  unfold ticketedOrders
  refine (((List.filter_append_perm (fun o : Order => o.performance.isSome) _).symm.map _).sum_eq).trans
    ?_
  simp only [Option.not_isSome]

/-- Grouping orders keeps their revenue. -/
theorem groupRevenue_revenue {κ : Type} [DecidableEq κ] (label : Order → κ) (orders : List Order) :
    ((groupRevenue label orders).map (·.revenue)).sum = (orders.map (·.total)).sum := by
  have h := groupBy_sum label (List.nodup_dedup (orders.map label))
    (fun o ho => List.mem_dedup.mpr (List.mem_map_of_mem ho)) (fun o => o.total)
  rw [← h]
  unfold groupRevenue groupBy
  rw [List.map_map, List.map_map]
  rfl

/-- Grouping orders keeps their number. -/
theorem groupRevenue_orders {κ : Type} [DecidableEq κ] (label : Order → κ) (orders : List Order) :
    ((groupRevenue label orders).map (·.orders)).sum = orders.length := by
  have h := groupBy_sum label (List.nodup_dedup (orders.map label))
    (fun o ho => List.mem_dedup.mpr (List.mem_map_of_mem ho)) (fun _ => 1)
  simp only [List.map_const', List.sum_replicate, nsmul_eq_mul, mul_one, Nat.cast_id] at h
  rw [← h]
  unfold groupRevenue groupBy
  rw [List.map_map, List.map_map]
  rfl

/-- The lookup finds the sum over the orders of the performance, which is zero without orders. -/
theorem performanceRevenue_eq (db : Db) (organization performance : Nat) :
    performanceRevenue db organization performance
      = (((ticketedOrders db organization).filter fun o =>
          o.performance = some performance).map (·.total)).sum := by
  unfold performanceRevenue
  cases hf : (groupRevenue (·.performance) (ticketedOrders db organization)).find? fun g =>
      g.label == some performance with
  | some g =>
    have hlabel : g.label = some performance := by simpa using List.find?_some hf
    obtain ⟨c, -, rfl⟩ := List.mem_map.mp (List.mem_of_find?_eq_some hf)
    rw [← hlabel]
    rfl
  | none =>
    have hnone : ((ticketedOrders db organization).filter fun o =>
        o.performance = some performance) = [] := by
      refine List.filter_eq_nil_iff.mpr fun o ho hp => ?_
      refine List.find?_eq_none.mp hf _ (List.mem_map.mpr ⟨some performance, ?_, rfl⟩)
        (beq_self_eq_true _)
      rw [List.mem_dedup, ← of_decide_eq_true hp]
      exact List.mem_map_of_mem ho
    rw [hnone]
    rfl

/-- The event rows add up to the revenue of the ticketed orders. -/
theorem eventRevenueRows_revenue (db : Db) (organization : Nat) :
    ((eventRevenueRows db organization).map (·.revenue)).sum
      = ((ticketedOrders db organization).map (·.total)).sum := by
  rw [← groupRevenue_revenue (Overview.orderEvent db), eventRevenueRows, List.map_map]
  exact ((sortBy_perm _ _).map _).sum_eq

/-- The event rows count every ticketed order. -/
theorem eventRevenueRows_orders (db : Db) (organization : Nat) :
    ((eventRevenueRows db organization).map (·.orders)).sum
      = (ticketedOrders db organization).length := by
  rw [← groupRevenue_orders (Overview.orderEvent db), eventRevenueRows, List.map_map]
  exact ((sortBy_perm _ _).map _).sum_eq

/-- The best-selling event comes first. -/
theorem eventRevenueRows_sorted (db : Db) (organization : Nat) :
    (eventRevenueRows db organization).Pairwise fun a b => b.revenue ≤ a.revenue := by
  unfold eventRevenueRows
  rw [List.pairwise_map]
  exact (sortBy_pairwise _ _).imp fun h => neg_le_neg_iff.mp h

end Sums

/-! ### The ledger -/

/-- What an order brings in: its total, unless it was refunded.  A cancellation keeps the money. -/
def keptRevenue (organization : Nat) (o : Order) : Cents :=
  if o.organization = organization ∧ (o.status = .paid ∨ o.status = .cancelled) then o.total else 0

/-- What a payment adds to the balance. -/
def received (organization : Nat) (p : Payment) : Cents :=
  if p.organization = organization then
    match p.status with
    | .succeeded => p.amount
    | .refunded => -p.amount
  else 0

/-- The balance of the payments of an organization. -/
def paymentBalance (db : Db) (organization : Nat) : Cents :=
  Table.total (received organization) db.payments

/-- The totals of the cancelled orders. -/
def cancelledRevenue (db : Db) (organization : Nat) : Cents :=
  ((db.orders.rows.filter fun o => o.organization == organization
    && o.status == .cancelled).map (·.total)).sum

/-- Every organization keeps what it was paid less what it paid back; and no order is pending. -/
structure LedgerBalanced (db : Db) : Prop where
  balance : ∀ organization,
    Table.total (keptRevenue organization) db.orders = paymentBalance db organization
  settled : ∀ o ∈ db.orders.rows, o.status ≠ .pending

section Ledger

variable {db db' : Db} {now : Time} {order : Order}

/-- What was kept is the gross revenue and what cancelled orders brought in. -/
theorem keptRevenue_split (db : Db) (organization : Nat) :
    Table.total (keptRevenue organization) db.orders
      = grossRevenue db organization + cancelledRevenue db organization := by
  rw [grossRevenue_eq]
  unfold Overview.paidOrders cancelledRevenue Table.total
  induction db.orders.rows with
  | nil => rfl
  | cons o rest ih =>
    rw [List.map_cons, List.sum_cons, ih, List.filter_cons, List.filter_cons]
    unfold keptRevenue
    by_cases horg : o.organization = organization
    · cases hs : o.status <;> simp [horg] <;> ring
    · simp [horg]

/-- A sale: the order and its payment have the same amount. -/
theorem LedgerBalanced.sale {provider : Provider} {ref : String} {id : Nat} (hb : LedgerBalanced db)
    (ho : db'.orders.rows = db.orders.rows ++ [order])
    (hp : db'.payments.rows
      = db.payments.rows ++ [paymentRow order provider order.total .succeeded ref id])
    (hpaid : order.status = .paid) : LedgerBalanced db' where
  balance := fun organization => by
    have hbalance := hb.balance organization
    unfold paymentBalance Table.total at hbalance ⊢
    rw [ho, hp, List.map_append, List.sum_append, List.map_append, List.sum_append, hbalance]
    unfold keptRevenue received
    by_cases horg : order.organization = organization <;> simp [paymentRow, horg, hpaid]
  settled := fun o hmem => by
    rw [ho, List.mem_append, List.mem_singleton] at hmem
    rcases hmem with hmem | rfl
    · exact hb.settled o hmem
    · rw [hpaid]
      decide

/-- The orders after a status is written. -/
theorem total_setOrderStatus (w : Order → Cents) {orders : Table Order} (status : OrderStatus)
    (hmem : order ∈ orders.rows) :
    Table.total w (setOrderStatus orders order.id status) + w order
      = Table.total w orders + w { order with status := status } := by
  unfold setOrderStatus
  rw [Table.total_update, Table.total_eq_add _ hmem, Table.total_eq_add w hmem]
  have hrest : Table.total (fun x => if Keyed.key x = Keyed.key order then 0
        else if x.id == order.id then w { x with status := status } else w x) orders
      = Table.total (fun x => if Keyed.key x = Keyed.key order then 0 else w x) orders := by
    refine Table.total_congr fun x _ => ?_
    by_cases hid : Keyed.key x = Keyed.key order
    · rw [if_pos hid, if_pos hid]
    · have hne : x.id ≠ order.id := hid
      rw [if_neg hid, if_neg hid, if_neg (by simpa using hne)]
  rw [hrest, if_pos (beq_self_eq_true order.id)]
  ring

/-- Giving an order a settled status leaves no order pending. -/
theorem LedgerBalanced.settled_set {status : OrderStatus} (hb : LedgerBalanced db)
    (hs : status ≠ .pending) :
    ∀ o ∈ (setOrderStatus db.orders order.id status).rows, o.status ≠ .pending := fun o ho => by
  obtain ⟨x, hx, rfl⟩ := Table.mem_update.mp ho
  split
  · exact hs
  · exact hb.settled x hx

/-- Cancelling an order moves no money. -/
theorem orderCancel_balanced (hb : LedgerBalanced db) (hmem : order ∈ db.orders.rows) :
    LedgerBalanced (orderCancel db order) := by
  unfold orderCancel
  split_ifs with hclosed
  · exact hb
  · rw [undoOrder_eq]
    have hpaid : order.status = .paid := by
      have := hb.settled order hmem
      rw [not_or] at hclosed
      cases hs : order.status <;> simp_all
    refine ⟨fun organization => ?_, hb.settled_set (by decide)⟩
    have h := total_setOrderStatus (keptRevenue organization) .cancelled hmem
    have hsame : keptRevenue organization { order with status := .cancelled }
        = keptRevenue organization order := by
      unfold keptRevenue
      simp [hpaid]
    rw [hsame] at h
    exact (add_right_cancel h).trans (hb.balance organization)

/-- A refund pays the total of the order back. -/
theorem refundedDb_balanced {provider : Provider} {ref : String} (hb : LedgerBalanced db)
    (hmem : order ∈ db.orders.rows) (hpaid : order.status = .paid) :
    LedgerBalanced (refundedDb db order provider ref) := by
  rw [refundedDb_eq]
  refine ⟨fun organization => ?_, hb.settled_set (by decide)⟩
  have h := total_setOrderStatus (keptRevenue organization) .refunded hmem
  have hzero : keptRevenue organization { order with status := .refunded } = 0 := by
    unfold keptRevenue
    simp
  have hbalance := hb.balance organization
  unfold paymentBalance at hbalance ⊢
  rw [hzero, add_zero] at h
  rw [Table.total_insert, ← hbalance, ← h]
  unfold keptRevenue received
  by_cases horg : order.organization = organization <;> simp [paymentRow, horg, hpaid]

/-- The balance depends on the orders and the payments only. -/
theorem LedgerBalanced.of_eq (hb : LedgerBalanced db) (ho : db'.orders = db.orders)
    (hp : db'.payments = db.payments) : LedgerBalanced db' where
  balance := fun organization => by
    unfold paymentBalance
    rw [ho, hp]
    exact hb.balance organization
  settled := ho ▸ hb.settled

/-- **The shop** keeps the ledger balanced. -/
theorem exec_balanced {s : State} (op : Op) (hb : LedgerBalanced s.db) :
    LedgerBalanced (exec op s).db := by
  cases exec_sale op s with
  | none h => exact hb.of_eq h.orders h.payments
  | hold hold args order _ _ h =>
    obtain ⟨guests, guest, -, -, -, rfl, hdb⟩ := fulfillHold_ok h
    rw [hdb]
    -- A sale adds an order and its payment.
    exact hb.sale rfl rfl rfl
  | withPass hold passPurchase email name optIn order _ h =>
    obtain ⟨p, performance, -, -, -, -, -, -, -, guests, guest, -, rfl, hdb⟩ :=
      fulfillHoldWithPass_ok h
    rw [hdb]
    exact hb.sale rfl rfl rfl
  | donation organization amount campaign args order _ h =>
    obtain ⟨guests, guest, -, -, rfl, hdb⟩ := fulfillDonation_ok h
    rw [hdb]
    exact hb.sale rfl rfl rfl
  | passSale organization product args order _ h =>
    obtain ⟨guests, guest, -, -, -, rfl, hdb⟩ := fulfillPassPurchase_ok h
    rw [hdb]
    exact hb.sale rfl rfl rfl
  | void order _ _ h =>
    rw [h, voidOrder_fst]
    exact hb.of_eq rfl rfl
  | refund order gateway performed h =>
    obtain ⟨o, ho, ⟨-, hdb, -⟩ | ⟨hpaid, -, -, provider, ref, hdb⟩⟩ := refundOrder_ok h
    · rw [hdb]
      exact hb
    · rw [hdb]
      -- A refund takes both out of the count.
      exact refundedDb_balanced hb (Table.get?_mem ho) hpaid
  | cancel order _ hmem h =>
    rw [h]
    exact orderCancel_balanced hb hmem

/-- The books balance in every reachable state of the theater. -/
theorem balanced_reachable {trig : Trig} {s : State} (h : Reachable (theater trig) s) :
    LedgerBalanced s.db := by
  refine (h.invariant (I := fun u => Reachable (theater trig) u ∧ LedgerBalanced u.db)
    (fun u h0 => ⟨.of_init h0, ?_⟩) fun u r v hu hstep => ⟨hu.1.step hstep, ?_⟩).2
  · have hfresh : Fresh u := h0
    refine ⟨fun organization => ?_, fun o ho => ?_⟩
    · unfold paymentBalance Table.total
      rw [hfresh.orders, hfresh.payments]
      rfl
    · rw [hfresh.orders] at ho
      cases ho
  · rw [hstep.2]
    cases r with
    | shop op => exact exec_balanced op hu.2
    | staff op =>
      have hkept := ((@execStaff_effect trig) (carts_shaped hu.1).gaSeatless op).2
      exact hu.2.of_eq hkept.orders hkept.payments

end Ledger

/-! ### What the page shows -/

section Page

variable {s : State} {m : Membership}

/-- What a manager is shown on the overview. -/
theorem overview_eq (hm : m.canManageEvents = true) (db : Db) (now : Time) :
    ∃ o, overview db now m = some o ∧ o.ticketsSold = (soldTickets db m.organization).length ∧
      o.grossRevenue = grossRevenue db m.organization ∧
      o.eventRevenueRows = eventRevenueRows db m.organization ∧
      o.performanceRows = performanceRows db m.organization true := by
  have hsell : m.canSellTickets = true := by
    unfold Membership.canManageEvents at hm
    unfold Membership.canSellTickets
    rw [hm]
    rfl
  refine ⟨_, if_pos hsell, rfl, ?_, ?_, ?_⟩ <;> dsimp only <;> rw [hm] <;> rfl

/-- **The revenue of the overview.** Over every run of the theater the gross revenue a manager
    sees is the balance of the organization's payments less its cancelled orders; and the events,
    best-selling first, share out the orders and the revenue that belong to a performance. -/
theorem overview_revenue {trig : Trig} (h : Reachable (theater trig) s)
    (hm : m.canManageEvents = true) :
    ∃ o, overview s.db s.now m = some o ∧
      o.grossRevenue = paymentBalance s.db m.organization
        - cancelledRevenue s.db m.organization ∧
      (o.eventRevenueRows.map (·.revenue)).sum
        + (((Overview.paidOrders s.db m.organization).filter fun x => x.performance.isNone).map
            (·.total)).sum = o.grossRevenue ∧
      (o.eventRevenueRows.map (·.orders)).sum = (ticketedOrders s.db m.organization).length ∧
      o.eventRevenueRows.Pairwise fun a b => b.revenue ≤ a.revenue := by
  obtain ⟨o, ho, -, hgross, hevents, -⟩ := overview_eq hm s.db s.now
  refine ⟨o, ho, ?_, ?_, ?_, ?_⟩
  · rw [hgross, ← (balanced_reachable h).balance, keptRevenue_split, add_sub_cancel_right]
  · rw [hevents, hgross, grossRevenue_split, eventRevenueRows_revenue]
  · rw [hevents, eventRevenueRows_orders]
  · rw [hevents]
    exact eventRevenueRows_sorted _ _

/-- A manager of the sample theater. -/
def sampleManager : Membership := ⟨1, 1, 1, .manager⟩

/-- Two sales, one of them cancelled, and the revenue the overview shows for them. -/
theorem overview_revenue_closedNight : ∃ first ∈ sampleCarts.db.holds.rows,
    ∃ second ∈ (closedNight first).db.holds.rows,
      let later := exec (.fulfillHold second laterArgs) (closedNight first)
      (paymentBalance later.db 1, cancelledRevenue later.db 1) = (5000, 2000) ∧
      ∃ o, overview later.db later.now sampleManager = some o ∧
        o.grossRevenue = paymentBalance later.db 1 - cancelledRevenue later.db 1 ∧
        (o.eventRevenueRows.map (·.revenue)).sum
          + (((Overview.paidOrders later.db 1).filter fun x => x.performance.isNone).map (·.total)).sum
            = o.grossRevenue ∧
        (o.eventRevenueRows.map (·.orders)).sum = (ticketedOrders later.db 1).length ∧
        o.eventRevenueRows.Pairwise fun a b => b.revenue ≤ a.revenue := by
  obtain ⟨first, hfirst, second, hsecond, hmoney⟩ :
      ∃ first ∈ sampleCarts.db.holds.rows, ∃ second ∈ (closedNight first).db.holds.rows,
        (paymentBalance (exec (.fulfillHold second laterArgs) (closedNight first)).db 1,
          cancelledRevenue (exec (.fulfillHold second laterArgs) (closedNight first)).db 1)
            = (5000, 2000) := by decide
  have hclosed : Reachable boxOffice (closedNight first) :=
    reachable_exec (reachable_exec sampleCarts_reachable
      ⟨first, hfirst, rfl, rfl, rfl, rfl, rfl, rfl⟩) trivial
  have hreach : Reachable boxOffice (exec (.fulfillHold second laterArgs) (closedNight first)) :=
    reachable_exec hclosed ⟨second, hsecond, rfl, rfl, rfl, rfl, rfl, rfl⟩
  exact ⟨first, hfirst, second, hsecond, hmoney,
    @overview_revenue _ sampleManager flatTrig (theater_of_boxOffice hreach) rfl⟩

/-- The performances shown are all there are, when they are few. -/
theorem latestPerformances_take {db : Db} {organization : Nat}
    (hfew : (db.performances.rows.filter fun p => p.organization == organization).length ≤ 25) :
    (latestPerformances db organization).take 25 = latestPerformances db organization := by
  refine List.take_of_length_le ?_
  rw [latestPerformances, (sortBy_perm _ _).length_eq]
  exact hfew

/-- Rows of an organization, each about one of its performances, are shared out by them. -/
theorem sum_latestPerformances {α M : Type} [AddCommMonoid M] (db : Db) (organization : Nat)
    {l : List α} (f : α → Option Nat)
    (hhome : ∀ x ∈ l, ∃ p, f x = some p ∧ db.performances.Owns organization p) (w : α → M) :
    ((latestPerformances db organization).map fun p =>
      ((l.filter fun x => f x = some p.id).map w).sum).sum = (l.map w).sum := by
  have hperm := sortBy_perm (fun p : Performance => -(p.startsAt : Int))
    (db.performances.rows.filter fun p => p.organization == organization)
  have hkeys : ((latestPerformances db organization).map fun p => some p.id).Nodup := by
    rw [show (fun p : Performance => some p.id) = some ∘ Performance.id from rfl, ← List.map_map]
    refine List.Nodup.map (Option.some_injective _) ((hperm.map _).nodup_iff.mpr ?_)
    exact db.performances.nodup.sublist (List.filter_sublist.map _)
  have h := groupBy_sum f hkeys (l := l) (fun x hx => ?_) w
  · rw [← h]
    unfold groupBy
    rw [List.map_map, List.map_map]
    rfl
  · obtain ⟨p, hp, row, hrow, hid, horg⟩ := hhome x hx
    rw [hp]
    refine List.mem_map.mpr ⟨row, mem_sortBy.mpr (List.mem_filter.mpr ⟨hrow, ?_⟩),
      congrArg some hid⟩
    exact beq_iff_eq.mpr horg

/-- **The performances of the overview.** While an organization has at most as many performances
    as the page shows, their rows share out its live tickets and, for a manager, the revenue
    that belongs to a performance; nothing of it is missing and nothing is shown twice. -/
theorem overview_complete (h : Reachable tenants s)
    (hfew : (s.db.performances.rows.filter fun p => p.organization == m.organization).length ≤ 25)
    (hm : m.canManageEvents = true) :
    ∃ o, overview s.db s.now m = some o ∧
      (o.performanceRows.map (·.sold)).sum = o.ticketsSold ∧
      (o.performanceRows.map (·.revenue)).sum
        + (((Overview.paidOrders s.db m.organization).filter fun x => x.performance.isNone).map
            (·.total)).sum = o.grossRevenue := by
  have hkeys := keysHome_reachable h
  obtain ⟨o, ho, hsold, hgross, -, hrows⟩ := overview_eq hm s.db s.now
  refine ⟨o, ho, ?_, ?_⟩
  -- Each live ticket is counted in the row of its performance.
  · rw [hrows, hsold, performanceRows, latestPerformances_take hfew, List.map_map]
    have hsum := sum_latestPerformances s.db m.organization
      (l := soldTickets s.db m.organization) (fun t => some t.performance) (fun t ht => ?_)
      fun _ => 1
    · simp only [List.map_const', List.sum_replicate, nsmul_eq_mul, mul_one, Nat.cast_id,
        Option.some.injEq] at hsum
      exact hsum
    · obtain ⟨hmem, hp⟩ := List.mem_filter.mp ht
      rw [Bool.and_eq_true, beq_iff_eq] at hp
      exact ⟨_, rfl, hp.1 ▸ hkeys.shows t hmem _ (List.mem_singleton.mpr rfl)⟩
  -- Each order for a performance in the row of its own; the others are the second summand.
  · rw [hrows, hgross, performanceRows, latestPerformances_take hfew, List.map_map,
      grossRevenue_split]
    have hsum := sum_latestPerformances s.db m.organization
      (l := ticketedOrders s.db m.organization) (fun o => o.performance) (fun x hx => ?_)
      fun o => o.total
    · rw [← hsum]
      congr 2
      exact List.map_congr_left fun p _ => performanceRevenue_eq _ _ _
    · obtain ⟨hpaid, hsome⟩ := List.mem_filter.mp hx
      obtain ⟨hmem, hp⟩ := List.mem_filter.mp hpaid
      rw [Bool.and_eq_true, beq_iff_eq] at hp
      obtain ⟨p, hperf⟩ := Option.isSome_iff_exists.mp hsome
      exact ⟨p, hperf, hp.1 ▸ hkeys.orders x hmem p (Option.mem_toList.mpr hperf)⟩

/-- Two tickets sold by one of two theaters, and its overview is complete. -/
theorem overview_complete_bothOpen : ∃ hold ∈ bothOpen.db.holds.rows,
    let sold := exec (.fulfillHold hold sampleArgs) bothOpen
    (soldTickets sold.db 1).length = 2 ∧ ∃ o, overview sold.db sold.now sampleManager = some o ∧
      (o.performanceRows.map (·.sold)).sum = o.ticketsSold ∧
      (o.performanceRows.map (·.revenue)).sum
        + (((Overview.paidOrders sold.db 1).filter fun x => x.performance.isNone).map (·.total)).sum
          = o.grossRevenue := by
  obtain ⟨hold, hmem, hcount, hfew⟩ : ∃ hold ∈ bothOpen.db.holds.rows,
      (soldTickets (exec (.fulfillHold hold sampleArgs) bothOpen).db 1).length = 2 ∧
      ((exec (.fulfillHold hold sampleArgs) bothOpen).db.performances.rows.filter fun p =>
        p.organization == sampleManager.organization).length ≤ 25 := by decide
  have hreach : Reachable tenants (exec (.fulfillHold hold sampleArgs) bothOpen) :=
    bothOpen_reachable.step (i := .fulfillHold hold sampleArgs)
      ⟨⟨⟨hold, hmem, rfl, rfl, rfl, rfl, rfl, rfl⟩,
        (keysHome_reachable bothOpen_reachable).ownCode hmem⟩, rfl⟩
  exact ⟨hold, hmem, hcount, @overview_complete _ sampleManager hreach hfew rfl⟩

end Page

end BoxOffice

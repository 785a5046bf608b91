import BoxOffice.Dashboard.StaffEffect
import BoxOffice.Payments.Sales
import BoxOffice.Relational.Growth

namespace BoxOffice

open Relational Transition

/-!
# Payments — the books are append-only

What becomes of a row of the books once it is stored.

* `Order.Later`, `OrderItem.Later`, `Ticket.Later`, `PassPurchase.Later` — the columns that may
  still change, and in which direction;
* `BooksKept` — no row of the books disappears, and each one changes within these relations;
* `books_append_only` — so it is over every run of the theater, staff at work included, and an
  order that was closed stays so, without a live ticket.
-/

/-- Cancelled or refunded. -/
def Order.Closed (o : Order) : Prop := o.status = .cancelled ∨ o.status = .refunded

/-- An order is only ever closed, once. -/
structure Order.Later (o o' : Order) : Prop where
  columns : o' = { o with status := o'.status }
  status : o'.status = o.status ∨ (¬o.Closed ∧ o'.Closed)

/-- A line only ever loses its key to a zone. -/
structure OrderItem.Later (i i' : OrderItem) : Prop where
  columns : i' = { i with pricingZone := i'.pricingZone }
  zone : i'.pricingZone = i.pricingZone ∨ i'.pricingZone = none

/-- A ticket is only ever voided, and loses its seat only when it is void. -/
structure Ticket.Later (t t' : Ticket) : Prop where
  columns : t' = { t with status := t'.status, seat := t'.seat }
  status : t'.status = t.status ∨ t'.status = .void
  seat : t'.seat = t.seat ∨ (t'.seat = none ∧ t'.status = .void)

/-- A sold pass keeps its terms and its counter, and a refunded one stays refunded. -/
structure PassPurchase.Later (p p' : PassPurchase) : Prop where
  columns : p' = { p with creditsRemaining := p'.creditsRemaining, status := p'.status }
  refunded : p.status = .refunded → p'.status = .refunded
  counted : p.creditsRemaining.isSome = true → p'.creditsRemaining.isSome = true

/-- No row of the books is lost, and none changes but as above; the lines and the tickets of an
    order are complete when it is stored. -/
structure BooksKept (db db' : Db) : Prop where
  next : db.orders.nextId ≤ db'.orders.nextId
  orders : db.orders.Grows Order.Later db'.orders
  orderItems : db.orderItems.Grows OrderItem.Later db'.orderItems
  tickets : db.tickets.Grows Ticket.Later db'.tickets
  payments : db.payments.Grows Eq db'.payments
  passPurchases : db.passPurchases.Grows PassPurchase.Later db'.passPurchases
  allItems : ∀ i' ∈ db'.orderItems.rows, i'.order < db.orders.nextId →
    ∃ i ∈ db.orderItems.rows, i.Later i'
  allTickets : ∀ t' ∈ db'.tickets.rows, t'.order < db.orders.nextId →
    ∃ t ∈ db.tickets.rows, t.Later t'

/-- The tickets of a closed order are void. -/
def ClosedVoid (db : Db) : Prop :=
  ∀ o ∈ db.orders.rows, o.Closed → ∀ t ∈ db.tickets.rows, t.order = o.id → t.status = .void

/-! ### The relations are preorders -/

/-- An order is a later form of itself. -/
theorem Order.Later.refl (o : Order) : o.Later o := ⟨rfl, .inl rfl⟩

/-- A later form of a later order is one. -/
theorem Order.Later.trans (a b c : Order) (h : a.Later b) (h' : b.Later c) : a.Later c where
  columns := by rw [h'.columns, h.columns]
  status := by
    rcases h'.status with hbc | ⟨hb, hc⟩
    · rcases h.status with hab | ⟨ha, hb⟩
      · exact .inl (hbc.trans hab)
      · exact .inr ⟨ha, by unfold Order.Closed; rw [hbc]; exact hb⟩
    · rcases h.status with hab | ⟨ha, -⟩
      · exact .inr ⟨by unfold Order.Closed; rw [← hab]; exact hb, hc⟩
      · exact .inr ⟨ha, hc⟩

/-- What is closed keeps its status. -/
theorem Order.Later.status_of_closed {o o' : Order} (h : o.Later o') (hc : o.Closed) :
    o'.status = o.status :=
  h.status.resolve_right fun hopen => hopen.1 hc

/-- An order line is a later form of itself. -/
theorem OrderItem.Later.refl (i : OrderItem) : i.Later i := ⟨rfl, .inl rfl⟩

/-- A later form of a later order line is one. -/
theorem OrderItem.Later.trans (a b c : OrderItem) (h : a.Later b) (h' : b.Later c) :
    a.Later c where
  columns := by rw [h'.columns, h.columns]
  zone := by
    rcases h'.zone with hbc | hc
    · rw [hbc]; exact h.zone
    · exact .inr hc

/-- A ticket is a later form of itself. -/
theorem Ticket.Later.refl (t : Ticket) : t.Later t := ⟨rfl, .inl rfl, .inl rfl⟩

/-- A later form of a later ticket is one. -/
theorem Ticket.Later.trans (a b c : Ticket) (h : a.Later b) (h' : b.Later c) : a.Later c where
  columns := by rw [h'.columns, h.columns]
  status := by
    rcases h'.status with hbc | hc
    · rw [hbc]; exact h.status
    · exact .inr hc
  seat := by
    rcases h'.seat with hbc | hc
    · rcases h.seat with hab | ⟨hb, hvoid⟩
      · exact .inl (hbc.trans hab)
      · refine .inr ⟨hbc.trans hb, ?_⟩
        rcases h'.status with hs | hs
        · exact hs.trans hvoid
        · exact hs
    · exact .inr hc

/-- A sold pass is a later form of itself. -/
theorem PassPurchase.Later.refl (p : PassPurchase) : p.Later p := ⟨rfl, fun h => h, fun h => h⟩

/-- A later form of a later pass is one. -/
theorem PassPurchase.Later.trans (a b c : PassPurchase) (h : a.Later b) (h' : b.Later c) :
    a.Later c where
  columns := by rw [h'.columns, h.columns]
  refunded := fun ha => h'.refunded (h.refunded ha)
  counted := fun ha => h'.counted (h.counted ha)

/-- An order line stays with its order. -/
theorem OrderItem.Later.order_eq {i i' : OrderItem} (h : i.Later i') : i'.order = i.order := by
  rw [h.columns]

/-- A ticket stays with its order. -/
theorem Ticket.Later.order_eq {t t' : Ticket} (h : t.Later t') : t'.order = t.order := by
  rw [h.columns]

/-- Books kept twice are kept. -/
theorem BooksKept.trans {db db' db'' : Db} (h : BooksKept db db') (h' : BooksKept db' db'') :
    BooksKept db db'' where
  next := h.next.trans h'.next
  orders := h.orders.trans Order.Later.trans h'.orders
  orderItems := h.orderItems.trans OrderItem.Later.trans h'.orderItems
  tickets := h.tickets.trans Ticket.Later.trans h'.tickets
  payments := h.payments.trans (fun _ _ _ => Eq.trans) h'.payments
  passPurchases := h.passPurchases.trans PassPurchase.Later.trans h'.passPurchases
  allItems := fun i hi hlt => by
    obtain ⟨j, hj, hji⟩ := h'.allItems i hi (hlt.trans_le h.next)
    obtain ⟨k, hk, hkj⟩ := h.allItems j hj (hji.order_eq ▸ hlt)
    exact ⟨k, hk, hkj.trans _ _ _ hji⟩
  allTickets := fun t ht hlt => by
    obtain ⟨u, hu, hut⟩ := h'.allTickets t ht (hlt.trans_le h.next)
    obtain ⟨v, hv, hvu⟩ := h.allTickets u hu (hut.order_eq ▸ hlt)
    exact ⟨v, hv, hvu.trans _ _ _ hut⟩

/-! ### Two kinds of writes

A request either stores one order with all that belongs to it, or amends what is stored. -/

/-- A sale: one open order, its lines and its tickets. -/
structure Issued (db db' : Db) (order : Order) : Prop where
  orders : ∃ mk hk, db'.orders = db.orders.insert mk hk ∧ mk db.orders.nextId = order
  paid : order.status = .paid
  orderItems : ∃ new, db'.orderItems.rows = db.orderItems.rows ++ new ∧
    ∀ i ∈ new, i.order = order.id
  tickets : ∃ new, db'.tickets.rows = db.tickets.rows ++ new ∧ ∀ t ∈ new, t.order = order.id
  payments : db.payments.Grows Eq db'.payments
  passPurchases : db.passPurchases.Grows PassPurchase.Later db'.passPurchases

/-- An undo, or staff at work: no new order, line or ticket, and an order is closed only with
    its tickets. -/
structure Amended (db db' : Db) : Prop where
  next : db'.orders.nextId = db.orders.nextId
  orders : db.orders.Rewritten Order.Later db'.orders
  orderItems : db.orderItems.Rewritten OrderItem.Later db'.orderItems
  tickets : db.tickets.Rewritten Ticket.Later db'.tickets
  payments : db.payments.Grows Eq db'.payments
  passPurchases : db.passPurchases.Grows PassPurchase.Later db'.passPurchases
  closed : ∀ o ∈ db'.orders.rows, o.Closed → o ∈ db.orders.rows ∨
    ∀ t ∈ db'.tickets.rows, t.order = o.id → t.status = .void

section Kinds

variable {db db' db'' : Db} {order : Order}

/-- The new order has the next key. -/
theorem Issued.order_id (h : Issued db db' order) : order.id = db.orders.nextId := by
  obtain ⟨mk, hk, -, rfl⟩ := h.orders
  exact hk _

/-- A sale keeps the books. -/
theorem Issued.kept (h : Issued db db' order) : BooksKept db db' := by
  have hid := h.order_id
  obtain ⟨mk, hk, ho, -⟩ := h.orders
  obtain ⟨newItems, hi, hiNew⟩ := h.orderItems
  obtain ⟨newTickets, ht, htNew⟩ := h.tickets
  refine ⟨by rw [ho]; exact Nat.le_succ _,
    Table.grows_append Order.Later.refl (by rw [ho]; exact Table.insert_rows mk hk),
    Table.grows_append OrderItem.Later.refl hi, Table.grows_append Ticket.Later.refl ht,
    h.payments, h.passPurchases, fun i hmem hlt => ?_, fun t hmem hlt => ?_⟩
  · rw [hi, List.mem_append] at hmem
    refine hmem.elim (fun hmem => ⟨i, hmem, .refl i⟩) fun hmem => ?_
    exact absurd (hiNew i hmem ▸ hid ▸ hlt) (lt_irrefl _)
  · rw [ht, List.mem_append] at hmem
    refine hmem.elim (fun hmem => ⟨t, hmem, .refl t⟩) fun hmem => ?_
    exact absurd (htNew t hmem ▸ hid ▸ hlt) (lt_irrefl _)

/-- The order of a sale is open, and no closed one has its key. -/
theorem Issued.closedVoid (h : Issued db db' order) (hc : ClosedVoid db) : ClosedVoid db' := by
  intro o ho hclosed t ht hto
  have hid := h.order_id
  obtain ⟨mk, hk, hrows, hmk⟩ := h.orders
  obtain ⟨new, htickets, hnew⟩ := h.tickets
  rw [hrows, Table.mem_insert, hmk] at ho
  rcases ho with ho | rfl
  · rw [htickets, List.mem_append] at ht
    rcases ht with ht | ht
    · exact hc o ho hclosed t ht hto
    · exact absurd (hto.symm.trans ((hnew t ht).trans hid)) (Table.key_ne_nextId ho)
  · unfold Order.Closed at hclosed
    rw [h.paid] at hclosed
    simp at hclosed

/-- An amendment keeps the books. -/
theorem Amended.kept (h : Amended db db') : BooksKept db db' where
  next := h.next.ge
  orders := h.orders.grows
  orderItems := h.orderItems.grows
  tickets := h.tickets.grows
  payments := h.payments
  passPurchases := h.passPurchases
  allItems := fun _ hi _ => h.orderItems.exists_mem hi
  allTickets := fun _ ht _ => h.tickets.exists_mem ht

/-- An amendment leaves closed orders without live tickets. -/
theorem Amended.closedVoid (h : Amended db db') (hc : ClosedVoid db) : ClosedVoid db' := by
  intro o ho hclosed t ht hto
  rcases h.closed o ho hclosed with hold | hvoid
  · obtain ⟨u, hu, hut⟩ := h.tickets.exists_mem ht
    have hwas := hc o hold hclosed u hu (hut.order_eq ▸ hto)
    rcases hut.status with hs | hs
    · exact hs.trans hwas
    · exact hs
  · exact hvoid t ht hto

/-- Staff writes, which leave the orders alone. -/
theorem Amended.of_staff (ho : db'.orders = db.orders)
    (hi : db.orderItems.Rewritten OrderItem.Later db'.orderItems)
    (ht : db.tickets.Rewritten Ticket.Later db'.tickets) (hp : db'.payments = db.payments)
    (hpp : db'.passPurchases = db.passPurchases) : Amended db db' where
  next := by rw [ho]
  orders := .of_eq Order.Later.refl ho
  orderItems := hi
  tickets := ht
  payments := .of_eq Eq.refl hp
  passPurchases := .of_eq PassPurchase.Later.refl hpp
  closed := fun _ hmem _ => .inl (ho ▸ hmem)

/-- Books that nobody wrote. -/
theorem Amended.of_eq (ho : db'.orders = db.orders) (hi : db'.orderItems = db.orderItems)
    (ht : db'.tickets = db.tickets) (hp : db'.payments = db.payments)
    (hpp : db'.passPurchases = db.passPurchases) : Amended db db' :=
  .of_staff ho (.of_eq OrderItem.Later.refl hi) (.of_eq Ticket.Later.refl ht) hp hpp

/-- Nothing was amended. -/
theorem Amended.refl (db : Db) : Amended db db := .of_eq rfl rfl rfl rfl rfl

end Kinds

/-! ### What the writes do -/

section Writes

variable {db db' : Db} {now : Time} {hold : Hold} {order : Order} {args : FulfillArgs}

/-- The lines of a sale of tickets carry the key of its order. -/
theorem withDonation_rows (items : Table OrderItem) (lines : List Line) (hold : Hold)
    (order : Order) :
    ∃ new, (withDonation (items.insertMany (ticketItem order) lines) hold order).rows
      = items.rows ++ new ∧ ∀ i ∈ new, i.order = order.id := by
  have hlines : ∀ i ∈ lines.mapIdx fun n b => ticketItem order b (items.nextId + n),
      i.order = order.id := by
    intro i hi
    obtain ⟨n, hn, rfl⟩ := List.mem_mapIdx.mp hi
    rfl
  unfold withDonation
  split_ifs
  · rw [Table.insert_rows, Table.insertMany_rows, List.append_assoc]
    refine ⟨_, rfl, fun i hi => ?_⟩
    rcases List.mem_append.mp hi with hi | hi
    · exact hlines i hi
    · rw [List.mem_singleton.mp hi]
      rfl
  · exact ⟨_, Table.insertMany_rows, hlines⟩

/-- Minting appends tickets of the order. -/
theorem newTicket_rows (tickets : Table Ticket) (seats : List (Option Nat)) (hold : Hold)
    (order : Order) :
    ∃ new, (tickets.insertMany (newTicket hold order) seats).rows = tickets.rows ++ new ∧
      ∀ t ∈ new, t.order = order.id := by
  refine ⟨_, Table.insertMany_rows, fun t ht => ?_⟩
  obtain ⟨n, hn, rfl⟩ := List.mem_mapIdx.mp ht
  rfl

/-- Voiding rewrites tickets to later ones. -/
theorem voidedTickets_rewritten (tickets : Table Ticket) (order : Nat) :
    tickets.Rewritten Ticket.Later (voidedTickets tickets order) :=
  Table.rewritten_update Ticket.Later.refl rfl fun _ _ _ => ⟨rfl, .inr rfl, .inl rfl⟩

/-- Closing the order that was read, which was open. -/
theorem setOrderStatus_rewritten {orders : Table Order} {status : OrderStatus}
    (hmem : order ∈ orders.rows) (hopen : ¬order.Closed)
    (hclosed : status = .cancelled ∨ status = .refunded) :
    orders.Rewritten Order.Later (setOrderStatus orders order.id status) := by
  refine Table.rewritten_update Order.Later.refl rfl fun o ho hid => ⟨rfl, .inr ⟨?_, hclosed⟩⟩
  rw [Table.eq_of_key_eq ho hmem (beq_iff_eq.mp hid)]
  exact hopen

/-- The order that is closed has its tickets voided; the others are as they were. -/
theorem setOrderStatus_closed {orders : Table Order} {tickets : Table Ticket} {n : Nat}
    {status : OrderStatus} :
    ∀ o ∈ (setOrderStatus orders n status).rows, o.Closed → o ∈ orders.rows ∨
      ∀ t ∈ (voidedTickets tickets n).rows, t.order = o.id → t.status = .void := by
  intro o ho _
  obtain ⟨x, hx, rfl⟩ := Table.mem_update.mp ho
  by_cases hid : x.id = n
  · right
    intro t ht hto
    obtain ⟨u, -, rfl⟩ := Table.mem_update.mp ht
    rw [if_pos (beq_iff_eq.mpr hid)] at hto
    by_cases hu : u.order = n
    · rw [if_pos (beq_iff_eq.mpr hu)]
    · rw [if_neg (by simpa using hu)] at hto
      exact absurd (hto.trans hid) hu
  · left
    rw [if_neg (by simpa using hid)]
    exact hx

/-- A redemption makes a later pass of one that is not refunded. -/
theorem burnCredits_later {p : PassPurchase} (n : Nat) (hp : p.status ≠ .refunded) :
    p.Later (burnCredits n p) := by
  unfold burnCredits
  dsimp only
  split_ifs
  · exact ⟨rfl, fun h => absurd h hp, fun _ => rfl⟩
  · exact ⟨rfl, fun h => h, fun _ => rfl⟩

/-- A restore makes a later pass. -/
theorem restoreCredits_later (p : PassPurchase) (n : Nat) : p.Later (restoreCredits n p) := by
  unfold restoreCredits
  cases hc : p.creditsRemaining with
  | none =>
    dsimp only
    split_ifs with hdry
    · exact ⟨rfl, fun h => absurd (h.symm.trans hdry.1) (by decide), fun h => h⟩
    · exact .refl p
  | some c =>
    dsimp only
    split_ifs with _ hdry hdry
    · exact ⟨rfl, fun h => absurd (h.symm.trans hdry.1) (by decide), fun _ => rfl⟩
    · exact ⟨rfl, fun h => h, fun _ => rfl⟩
    · exact ⟨rfl, fun h => absurd (h.symm.trans hdry.1) (by decide), fun h => h⟩
    · exact .refl p

/-- The pass that is charged is not a refunded one. -/
theorem chargedPasses_rewritten {p : PassPurchase} (hmem : p ∈ db.passPurchases.rows)
    (hp : redeemableNow p now = true) (n : Nat) :
    db.passPurchases.Rewritten PassPurchase.Later (chargedPasses db.passPurchases p n) := by
  unfold chargedPasses
  split_ifs
  · refine Table.rewritten_update PassPurchase.Later.refl rfl fun q hq hid =>
      burnCredits_later n ?_
    rw [Table.eq_of_key_eq hq hmem (beq_iff_eq.mp hid)]
    unfold redeemableNow at hp
    rw [Bool.and_eq_true, beq_iff_eq] at hp
    rw [hp.1]
    decide
  · exact .refl PassPurchase.Later.refl _

/-- A restore rewrites the passes to later ones. -/
theorem restoredPasses_rewritten (db : Db) (order : Nat) :
    db.passPurchases.Rewritten PassPurchase.Later (restoredPasses db order) :=
  Table.rewritten_update PassPurchase.Later.refl rfl fun p _ _ => restoreCredits_later p _

/-- A refund rewrites the passes to later ones. -/
theorem refundedPasses_rewritten (passes : Table PassPurchase) (order : Nat) (sold : Bool) :
    passes.Rewritten PassPurchase.Later (refundedPasses passes order sold) := by
  unfold refundedPasses
  split_ifs
  · exact Table.rewritten_update PassPurchase.Later.refl rfl fun _ _ _ => ⟨rfl, fun _ => rfl, fun h => h⟩
  · exact .refl PassPurchase.Later.refl _

/-! ### Sales -/

/-- A sale of a cart issues one order. -/
theorem fulfillHold_issued (h : fulfillHold db now hold args = .ok (db', order)) :
    Issued db db' order := by
  obtain ⟨guests, guest, -, -, -, rfl, rfl⟩ := fulfillHold_ok h
  exact ⟨⟨_, fun _ => rfl, rfl, rfl⟩, rfl, withDonation_rows _ _ _ _, newTicket_rows _ _ _ _,
    Table.grows_append Eq.refl rfl, .refl PassPurchase.Later.refl _⟩

/-- A redemption issues one order. -/
theorem fulfillHoldWithPass_issued {passPurchase : Nat} {buyerEmail buyerName : String}
    {marketingOptIn : Bool}
    (h : fulfillHoldWithPass db now hold passPurchase buyerEmail buyerName marketingOptIn
      = .ok (db', order)) : Issued db db' order := by
  obtain ⟨p, performance, hp, -, -, -, -, -, hadm, guests, guest, -, rfl, rfl⟩ :=
    fulfillHoldWithPass_ok h
  refine ⟨⟨_, fun _ => rfl, rfl, rfl⟩, rfl, ⟨_, Table.insertMany_rows, fun i hi => ?_⟩,
    newTicket_rows _ _ _ _, Table.grows_append Eq.refl rfl,
    (chargedPasses_rewritten (Table.get?_mem hp) hadm.redeemable _).grows⟩
  obtain ⟨n, hn, rfl⟩ := List.mem_mapIdx.mp hi
  rfl

/-- A donation issues one order. -/
theorem fulfillDonation_issued {organization : Nat} {amount : Cents} {campaign : Option Nat}
    (h : fulfillDonation db now organization amount campaign args = .ok (db', order)) :
    Issued db db' order := by
  obtain ⟨guests, guest, -, -, rfl, rfl⟩ := fulfillDonation_ok h
  exact ⟨⟨_, fun _ => rfl, rfl, rfl⟩, rfl,
    ⟨_, rfl, fun i hi => by rw [List.mem_singleton.mp hi]; rfl⟩,
    ⟨[], (List.append_nil _).symm, fun t ht => absurd ht List.not_mem_nil⟩,
    Table.grows_append Eq.refl rfl, .refl PassPurchase.Later.refl _⟩

/-- The sale of a pass issues one order. -/
theorem fulfillPassPurchase_issued {organization : Nat} {product : PassProduct}
    (h : fulfillPassPurchase db now organization product args = .ok (db', order)) :
    Issued db db' order := by
  obtain ⟨guests, guest, -, -, -, rfl, rfl⟩ := fulfillPassPurchase_ok h
  exact ⟨⟨_, fun _ => rfl, rfl, rfl⟩, rfl,
    ⟨_, rfl, fun i hi => by rw [List.mem_singleton.mp hi]; rfl⟩,
    ⟨[], (List.append_nil _).symm, fun t ht => absurd ht List.not_mem_nil⟩,
    Table.grows_append Eq.refl rfl, Table.grows_append PassPurchase.Later.refl rfl⟩

/-! ### Undos -/

/-- Voiding an order amends the books. -/
theorem voidOrder_amended : Amended db (voidOrder db order).1 := by
  rw [voidOrder_fst]
  exact .of_staff rfl (.refl OrderItem.Later.refl _) (voidedTickets_rewritten _ _) rfl rfl

/-- A cancellation amends the books. -/
theorem orderCancel_amended (hmem : order ∈ db.orders.rows) :
    Amended db (orderCancel db order) := by
  unfold orderCancel
  split_ifs with hclosed
  · exact .refl db
  · rw [undoOrder_eq]
    exact ⟨rfl, setOrderStatus_rewritten hmem hclosed (.inl rfl), .refl OrderItem.Later.refl _,
      voidedTickets_rewritten _ _, .refl Eq.refl _, (restoredPasses_rewritten db order.id).grows,
      setOrderStatus_closed⟩

/-- A refund amends the books. -/
theorem refundOrder_amended {n : Nat} {gateway : Except String String} {performed : Bool}
    (h : refundOrder db n gateway = .ok (db', performed)) : Amended db db' := by
  obtain ⟨o, ho, ⟨-, rfl, -⟩ | ⟨hpaid, -, -, provider, refundRef, rfl⟩⟩ := refundOrder_ok h
  · exact .refl _
  · rw [refundedDb_eq]
    have hopen : ¬o.Closed := by
      unfold Order.Closed
      rw [hpaid]
      decide
    exact ⟨rfl, setOrderStatus_rewritten (Table.get?_mem ho) hopen (.inr rfl),
      .refl OrderItem.Later.refl _, voidedTickets_rewritten _ _, Table.grows_append Eq.refl rfl,
      ((restoredPasses_rewritten db o.id).trans PassPurchase.Later.trans
        (refundedPasses_rewritten _ _ _)).grows,
      setOrderStatus_closed⟩

end Writes

/-- **The shop** stores an order or amends the books. -/
theorem exec_books (op : Op) (s : State) :
    (∃ order, Issued s.db (exec op s).db order) ∨ Amended s.db (exec op s).db := by
  cases exec_sale op s with
  | none h =>
    exact .inr (.of_eq h.orders h.orderItems h.tickets h.payments h.passPurchases)
  | hold _ _ _ _ _ h => exact .inl ⟨_, fulfillHold_issued h⟩
  | withPass _ _ _ _ _ _ _ h => exact .inl ⟨_, fulfillHoldWithPass_issued h⟩
  | donation _ _ _ _ _ _ h => exact .inl ⟨_, fulfillDonation_issued h⟩
  | passSale _ _ _ _ _ h => exact .inl ⟨_, fulfillPassPurchase_issued h⟩
  | void order _ _ h => rw [h]; exact .inr voidOrder_amended
  | refund _ _ _ h => exact .inr (refundOrder_amended h)
  | cancel order _ hmem h => rw [h]; exact .inr (orderCancel_amended hmem)

/-! ### Staff -/

section Staff

variable {trig : Trig} {columns : PriceColumns} {db db' : Db}

/-- The price grid does not touch the books. -/
theorem savePlans_books {organization : Nat} {plans : List PricePlan}
    (h : savePlans columns db organization plans = .ok db') :
    ∃ priceTiers holds, db' = { db with priceTiers := priceTiers, holds := holds } := by
  induction plans generalizing db with
  | nil => cases h; exact ⟨_, _, rfl⟩
  | cons plan rest ih =>
    unfold savePlans at h
    cases hp : savePlan columns db organization plan with
    | error e => simp only [hp] at h; cases h
    | ok db₁ =>
      simp only [hp] at h
      obtain ⟨_, tiers, rfl⟩ := savePlan_ok hp
      obtain ⟨tiers', holds', rfl⟩ := ih h
      exact ⟨_, _, rfl⟩

/-- Deleting seats that no live ticket is for. -/
theorem deleteSeats_amended {ids : List Nat} (hfree : ∀ t ∈ db.tickets.rows, t.Live →
      ∀ s ∈ t.seat, s ∉ ids) (h : deleteSeats db ids = .ok db') : Amended db db' := by
  obtain ⟨-, rfl⟩ := deleteSeats_ok h
  refine .of_staff rfl (.refl OrderItem.Later.refl _)
    (Table.rewritten_update Ticket.Later.refl rfl fun t ht _ => ⟨rfl, .inl rfl, ?_⟩) rfl rfl
  show nullSeat ids t.seat = t.seat ∨ (nullSeat ids t.seat = none ∧ t.status = .void)
  unfold nullSeat
  cases hs : t.seat with
  | none => exact .inl rfl
  | some s =>
    rw [Option.filter_some]
    by_cases hmem : ids.contains s = true
    · rw [hmem]
      refine .inr ⟨rfl, ?_⟩
      by_contra hlive
      exact hfree t ht hlive s hs (by simpa using hmem)
    · rw [Bool.not_eq_true] at hmem
      rw [hmem]
      exact .inl rfl

/-- The save of a section amends the books. -/
theorem saveSection_amended {section_ : Section} {removed accessible : List SeatIdentity}
    (h : saveSection trig db section_ removed accessible = .ok db') : Amended db db' := by
  rcases saveSection_ok h with ⟨seats, sections, rfl⟩ | ⟨hreg, db₁, seats, sections, hd, rfl⟩
  · exact .of_eq rfl rfl rfl rfl rfl
  · have hkept := deleteSeats_amended (fun t ht hlive s hs hmem => ?_) hd
    · exact ⟨hkept.next, hkept.orders, hkept.orderItems, hkept.tickets, hkept.payments,
        hkept.passPurchases, hkept.closed⟩
    · -- The guard of the regeneration would have counted this ticket.
      obtain ⟨x, hx, hid⟩ := List.mem_map.mp hmem
      have hcount : t ∈ liveTicketSeats db section_.id := by
        unfold liveTicketSeats
        rw [List.mem_filter]
        refine ⟨ht, ?_⟩
        rw [Option.mem_def.mp hs, Bool.and_eq_true, decide_eq_true_eq]
        exact ⟨List.any_eq_true.mpr ⟨x, hx, beq_iff_eq.mpr hid⟩, hlive⟩
      rw [hreg.2.2.1] at hcount
      cases hcount

/-- An operation that amends the books if it succeeds amends them. -/
theorem keepOnError_amended {r : Except ServiceError Db}
    (h : ∀ db', r = .ok db' → Amended db db') : Amended db (keepOnError db r) := by
  cases r with
  | error e => exact .refl db
  | ok db' => exact h db' rfl

/-- **The staff** amend the books. -/
theorem execStaff_books (op : StaffOp) : Amended db (execStaff trig op db) := by
  cases op with
  | saveSection section_ removed accessible =>
    exact keepOnError_amended fun _ h => saveSection_amended h
  | applyZone organization performance seatIds amount template =>
    refine keepOnError_amended fun _ h => ?_
    obtain ⟨zones, rfl⟩ := applyZone_ok h
    exact .of_eq rfl rfl rfl rfl rfl
  | removeSeatsFromZone zone seatIds => exact .of_eq rfl rfl rfl rfl rfl
  | deleteZone zone =>
    -- Lines outlive the zone that they point to, with the reference set to null.
    refine .of_staff rfl (Table.rewritten_update OrderItem.Later.refl rfl fun i _ _ => ⟨rfl, ?_⟩)
      (.refl Ticket.Later.refl _) rfl rfl
    show nullZone zone i.pricingZone = i.pricingZone ∨ nullZone zone i.pricingZone = none
    unfold nullZone
    cases i.pricingZone with
    | none => exact .inl rfl
    | some z =>
      rw [Option.filter_some]
      split_ifs
      · exact .inl rfl
      · exact .inr rfl
  | cloneZones organization target source =>
    simp only [execStaff]
    split
    · exact .of_eq rfl rfl rfl rfl rfl
    · exact .refl db
  | getOrCreateTemplate organization name color => exact .of_eq rfl rfl rfl rfl rfl
  | saveReservedPrices columns organization performance cells =>
    simp only [execStaff]
    split
    · refine keepOnError_amended fun db' h => ?_
      unfold saveReservedPrices at h
      dsimp only at h
      split_ifs at h
      · cases h; exact .refl db
      · rename_i p _ _
        -- Plans write tiers, of which the books keep a copy.
        cases hs : savePlans columns db organization
          (((chartSections db p).map fun s => planSection p.id s (cells s.id)).map
            (·.1)).flatten with
        | error e => rw [hs] at h; cases h
        | ok db₁ =>
          rw [hs] at h
          cases h
          obtain ⟨_, _, rfl⟩ := savePlans_books hs
          exact .of_eq rfl rfl rfl rfl rfl
    · exact .refl db
  | addPriceTier organization performance name amount currency =>
    simp only [execStaff]
    split
    · exact .of_eq rfl rfl rfl rfl rfl
    · exact .refl db
  | editPriceTier priceTier name amount currency => exact .of_eq rfl rfl rfl rfl rfl
  | deletePriceTier priceTier =>
    refine keepOnError_amended fun _ h => ?_
    obtain ⟨-, rfl⟩ := deletePriceTier_ok h
    exact .of_eq rfl rfl rfl rfl rfl
  | createPromoCode organization form => exact .of_eq rfl rfl rfl rfl rfl
  | savePromoCode promo form => exact .of_eq rfl rfl rfl rfl rfl
  | promoDeactivate promo => exact .of_eq rfl rfl rfl rfl rfl
  | donationSettings organization name isActive => exact .of_eq rfl rfl rfl rfl rfl

end Staff

/-! ### Runs -/

section Runs

variable {trig : Trig} {s t : State}

/-- **One request** of the theater. -/
theorem execRequest_booksKept (r : Request) (s : State) :
    BooksKept s.db (execRequest trig r s).db ∧
      (ClosedVoid s.db → ClosedVoid (execRequest trig r s).db) := by
  cases r with
  | shop op =>
    rcases exec_books op s with ⟨_, h⟩ | h
    · exact ⟨h.kept, h.closedVoid⟩
    · exact ⟨h.kept, h.closedVoid⟩
  | staff op => exact ⟨(execStaff_books op).kept, (execStaff_books op).closedVoid⟩

/-- In every reachable state closed orders have no live tickets. -/
theorem closedVoid_reachable (h : Reachable (theater trig) s) : ClosedVoid s.db :=
  h.invariant (I := fun u => ClosedVoid u.db)
    (fun u hu o ho => by rw [(show Fresh u from hu).orders] at ho; cases ho)
    fun u r _ hu hstep => by rw [hstep.2]; exact (execRequest_booksKept r u).2 hu

/-- **The books are append-only.** Over every run of the theater no order, line, ticket, payment
    or sold pass disappears, each keeps its columns but those of the relations above, nothing is
    added to an order once it is stored, and a closed order keeps its status and never has a
    live ticket again. -/
theorem books_append_only {rs : List Request} (h : Reachable (theater trig) s)
    (hr : Run (theater trig) s rs t) :
    BooksKept s.db t.db ∧ ∀ o ∈ s.db.orders.rows, o.Closed →
      (∃ o' ∈ t.db.orders.rows, o'.id = o.id ∧ o'.status = o.status) ∧
        ∀ k ∈ t.db.tickets.rows, k.order = o.id → k.status = .void := by
  have hkept : BooksKept s.db t.db :=
    hr.invariant (I := fun u => BooksKept s.db u.db) (Amended.refl s.db).kept
      fun u r _ hu hstep => hu.trans (by rw [hstep.2]; exact (execRequest_booksKept r u).1)
  refine ⟨hkept, fun o ho hclosed => ?_⟩
  obtain ⟨o', ho', hlater⟩ := hkept.orders.exists_mem ho
  have hid : o'.id = o.id := by rw [hlater.columns]
  refine ⟨⟨o', ho', hid, hlater.status_of_closed hclosed⟩, fun k hk hko => ?_⟩
  obtain ⟨k₀, hk₀, hkl⟩ := hkept.allTickets k hk (hko ▸ s.db.orders.fresh o ho)
  have hvoid := closedVoid_reachable h o ho hclosed k₀ hk₀ (hkl.order_eq ▸ hko)
  rcases hkl.status with hs | hs
  · exact hs.trans hvoid
  · exact hs

/-- The sample theater after the sale of one cart and the cancellation of its order. -/
def closedNight (hold : Hold) : State :=
  exec (.orderCancel 1) (exec (.fulfillHold hold sampleArgs) sampleCarts)

/-- A buyer who pays in another session. -/
def laterArgs : FulfillArgs := { sampleArgs with stripeCheckoutSessionId := none }

/-- Two sales and a cancellation, and the books between them. -/
theorem books_append_only_closedNight : ∃ first ∈ sampleCarts.db.holds.rows,
    ∃ second ∈ (closedNight first).db.holds.rows,
      let later := exec (.fulfillHold second laterArgs) (closedNight first)
      (closedNight first).db.orders.rows.map (·.status) = [.cancelled] ∧
      later.db.orders.rows.map (·.status) = [.cancelled, .paid] ∧
      BooksKept (closedNight first).db later.db ∧
      ∀ o ∈ (closedNight first).db.orders.rows, o.Closed →
        (∃ o' ∈ later.db.orders.rows, o'.id = o.id ∧ o'.status = o.status) ∧
          ∀ k ∈ later.db.tickets.rows, k.order = o.id → k.status = .void := by
  obtain ⟨first, hfirst, second, hsecond, hclosed, hsold⟩ :
      ∃ first ∈ sampleCarts.db.holds.rows, ∃ second ∈ (closedNight first).db.holds.rows,
        (closedNight first).db.orders.rows.map (·.status) = [.cancelled] ∧
        (exec (.fulfillHold second laterArgs) (closedNight first)).db.orders.rows.map (·.status)
          = [.cancelled, .paid] := by decide
  have hreach : Reachable boxOffice (closedNight first) :=
    reachable_exec (reachable_exec sampleCarts_reachable
      ⟨first, hfirst, rfl, rfl, rfl, rfl, rfl, rfl⟩) trivial
  refine ⟨first, hfirst, second, hsecond, hclosed, hsold, ?_⟩
  exact @books_append_only flatTrig _ _ [.shop (.fulfillHold second laterArgs)]
    (theater_of_boxOffice hreach)
    (Run.single ⟨⟨second, hsecond, rfl, rfl, rfl, rfl, rfl, rfl⟩, rfl⟩)

end Runs

end BoxOffice

import BoxOffice.Payments.Books

namespace BoxOffice

open Relational Transition

/-!
# Passes — the books of the passes

`PassBooks` is what the tables of passes, redemptions, tickets and payments say about each
other: every redemption is the charge of one live ticket, every live ticket of a pass order has
one, and the credits left on a pass and the credits its redemptions used add up to what it was
sold with.

One lemma for each thing an operation can do: sell tickets for money (`PassBooks.sale`), record
a sale without tickets (`PassBooks.plain`), issue a pass (`PassBooks.issue`), redeem one
(`PassBooks.redeem`) and undo an order (`PassBooks.undo`).
-/

/-- The credits the redemptions of a pass have used. -/
def usedCredits (db : Db) (passPurchase : Nat) : Nat :=
  Table.total (fun r => if r.passPurchase = passPurchase then r.creditsUsed else 0)
    db.passRedemptions

/-- The order was paid for with a pass. -/
def PassOrder (db : Db) (order : Nat) : Prop :=
  ∃ p ∈ db.payments.rows, p.order = order ∧ p.provider = .pass

/-- A flex pass of `n` credits with `c` of them left. -/
structure Flex (db : Db) (p : PassPurchase) (n c : Nat) : Prop where
  positive : 0 < n
  creditCount : p.creditCount = some n
  creditsRemaining : p.creditsRemaining = some c
  balance : c + usedCredits db p.id = n
  exhausted : p.status ≠ .refunded → (p.status = .exhausted ↔ c = 0)

/-- The credits of a pass are accounted for. -/
def Balanced (db : Db) (p : PassPurchase) : Prop :=
  match p.kind with
  | .flex => ∃ n c, Flex db p n c
  | .season => p.creditsRemaining = none

structure PassBooks (db : Db) : Prop where
  /-- A redemption is for a live ticket of its order. -/
  ticketed : ∀ r ∈ db.passRedemptions.rows,
    ∃ t ∈ db.tickets.rows, t.id = r.ticket ∧ t.order = r.order ∧ t.Live
  /-- `PassRedemption.ticket` is one-to-one. -/
  once : (db.passRedemptions.rows.map (·.ticket)).Nodup
  /-- A redemption charges a pass: one credit of a flex pass, none of a season pass. -/
  charged : ∀ r ∈ db.passRedemptions.rows, ∃ p ∈ db.passPurchases.rows,
    p.id = r.passPurchase ∧ r.creditsUsed = if p.kind = .flex then 1 else 0
  /-- `unique_season_event_redemption`. -/
  perEvent : ∀ r ∈ db.passRedemptions.rows, ∀ r' ∈ db.passRedemptions.rows,
    r.passPurchase = r'.passPurchase → r.event = r'.event →
    r.creditsUsed = 0 → r'.creditsUsed = 0 → r = r'
  /-- A live ticket of a pass order has its redemption. -/
  backed : ∀ t ∈ db.tickets.rows, t.Live → PassOrder db t.order →
    ∃ r ∈ db.passRedemptions.rows, r.ticket = t.id
  balanced : ∀ p ∈ db.passPurchases.rows, Balanced db p

section Steps

variable {db db' : Db} {order : Order} {hold : Hold}

/-- The balance of a pass depends on the credits used. -/
theorem Balanced.congr {p : PassPurchase} (h : usedCredits db' p.id = usedCredits db p.id)
    (hb : Balanced db p) : Balanced db' p := by
  unfold Balanced at hb ⊢
  split
  · rename_i hk
    rw [hk] at hb
    obtain ⟨n, c, hf⟩ := hb
    exact ⟨n, c, hf.positive, hf.creditCount, hf.creditsRemaining, by rw [h]; exact hf.balance,
      hf.exhausted⟩
  · rename_i hk
    rw [hk] at hb
    exact hb

/-- The credits used depend on the redemptions only. -/
theorem usedCredits_congr (h : db'.passRedemptions = db.passRedemptions) (p : Nat) :
    usedCredits db' p = usedCredits db p := by
  unfold usedCredits
  rw [h]

/-- Nothing the pass books look at has changed. -/
theorem PassBooks.of_eq (hb : PassBooks db) (ht : db'.tickets = db.tickets)
    (hp : db'.payments = db.payments) (hr : db'.passRedemptions = db.passRedemptions)
    (hpass : db'.passPurchases = db.passPurchases) : PassBooks db' := by
  refine ⟨?_, ?_, ?_, ?_, ?_, ?_⟩
  · rw [hr, ht]; exact hb.ticketed
  · rw [hr]; exact hb.once
  · rw [hr, hpass]; exact hb.charged
  · rw [hr]; exact hb.perEvent
  · unfold PassOrder
    rw [ht, hp, hr]
    exact hb.backed
  · rw [hpass]
    exact fun p hmem => (hb.balanced p hmem).congr (usedCredits_congr hr p.id)

/-- A payment on a new order makes no earlier order a pass order. -/
theorem passOrder_insert {provider : Provider} {amount : Cents} {status : PaymentStatus}
    {ref : String} (hp : db'.payments
      = db.payments.insert (paymentRow order provider amount status ref)) {n : Nat}
    (hn : n ≠ order.id ∨ provider ≠ .pass) (h : PassOrder db' n) : PassOrder db n := by
  obtain ⟨p, hmem, ho, hpass⟩ := h
  rw [hp] at hmem
  rcases Table.mem_insert.mp hmem with hmem | rfl
  · exact ⟨p, hmem, ho, hpass⟩
  · rcases hn with hn | hn
    · exact absurd ho.symm hn
    · exact absurd hpass hn

/-- **Tickets for money** are on a new order that no pass paid for. -/
theorem PassBooks.sale (hb : PassBooks db) (hl : Linked db) (hid : order.id = db.orders.nextId)
    {seats : List (Option Nat)} {provider : Provider} {amount : Cents} {status : PaymentStatus}
    {ref : String} (hprovider : provider ≠ .pass)
    (ht : db'.tickets = db.tickets.insertMany (newTicket hold order) seats)
    (hp : db'.payments = db.payments.insert (paymentRow order provider amount status ref))
    (hr : db'.passRedemptions = db.passRedemptions)
    (hpass : db'.passPurchases = db.passPurchases) : PassBooks db' := by
  refine ⟨?_, ?_, ?_, ?_, ?_, ?_⟩
  · rw [hr, ht]
    intro r hmem
    obtain ⟨t, hmem, h⟩ := hb.ticketed r hmem
    exact ⟨t, Table.mem_insertMany_of_mem hmem, h⟩
  · rw [hr]; exact hb.once
  · rw [hr, hpass]; exact hb.charged
  · rw [hr]; exact hb.perEvent
  · intro t hmem hlive hpo
    have hpo := passOrder_insert hp (.inr hprovider) hpo
    rw [ht] at hmem
    rw [hr]
    rcases Table.mem_insertMany hmem with hmem | ⟨seat, -, i, -, rfl⟩
    · exact hb.backed t hmem hlive hpo
    · -- The new order had no payment before.
      obtain ⟨p, hpmem, hpo, -⟩ := hpo
      exact absurd (hpo.trans hid) (hl.payment_ne hpmem)
  · rw [hpass]
    exact fun p hmem => (hb.balanced p hmem).congr (usedCredits_congr hr p.id)

/-- **A sale without tickets** touches no ticket's order. -/
theorem PassBooks.plain (hb : PassBooks db) (hl : Linked db) (hid : order.id = db.orders.nextId)
    {provider : Provider} {amount : Cents} {status : PaymentStatus} {ref : String}
    (ht : db'.tickets = db.tickets)
    (hp : db'.payments = db.payments.insert (paymentRow order provider amount status ref))
    (hr : db'.passRedemptions = db.passRedemptions)
    (hpass : db'.passPurchases = db.passPurchases) : PassBooks db' := by
  refine ⟨?_, ?_, ?_, ?_, ?_, ?_⟩
  · rw [hr, ht]; exact hb.ticketed
  · rw [hr]; exact hb.once
  · rw [hr, hpass]; exact hb.charged
  · rw [hr]; exact hb.perEvent
  · intro t hmem hlive hpo
    rw [ht] at hmem
    rw [hr]
    refine hb.backed t hmem hlive (passOrder_insert hp (.inl ?_) hpo)
    rw [hid]
    exact hl.ticket_ne hmem
  · rw [hpass]
    exact fun p hmem => (hb.balanced p hmem).congr (usedCredits_congr hr p.id)

/-- Redemptions name passes that exist. -/
theorem PassBooks.pass_lt (hb : PassBooks db) {r : PassRedemption}
    (hr : r ∈ db.passRedemptions.rows) : r.passPurchase < db.passPurchases.nextId := by
  obtain ⟨p, hp, hid, -⟩ := hb.charged r hr
  rw [← hid]
  exact db.passPurchases.fresh p hp

/-- A freshly issued pass has all its credits. -/
theorem balanced_newPassPurchase {product : PassProduct} {guest : Option GuestAccount} {n : Nat}
    (hused : usedCredits db n = 0) : Balanced db (newPassPurchase order product guest n) := by
  unfold Balanced newPassPurchase
  rcases product.creditShape with ⟨hk, c, hc, hpos⟩ | ⟨hk, hc⟩
  · simp only [hk]
    refine ⟨c, c, hpos, hc, hc, ?_, fun _ =>
      ⟨fun h => absurd h (by simp), fun h => absurd h (Nat.ne_of_gt hpos)⟩⟩
    show c + usedCredits db n = c
    rw [hused, Nat.add_zero]
  · simp only [hk]
    exact hc

/-- **Issuing a pass.** -/
theorem PassBooks.issue (hb : PassBooks db) (hl : Linked db) (hid : order.id = db.orders.nextId)
    {product : PassProduct} {guest : Option GuestAccount} {provider : Provider} {amount : Cents}
    {status : PaymentStatus} {ref : String} (ht : db'.tickets = db.tickets)
    (hp : db'.payments = db.payments.insert (paymentRow order provider amount status ref))
    (hr : db'.passRedemptions = db.passRedemptions)
    (hpass : db'.passPurchases = db.passPurchases.insert (newPassPurchase order product guest)) :
    PassBooks db' := by
  -- Without the new row this is a plain sale.
  have hplain : PassBooks { db' with passPurchases := db.passPurchases } :=
    hb.plain hl hid ht hp hr rfl
  refine ⟨hplain.ticketed, hplain.once, fun r hmem => ?_, hplain.perEvent, hplain.backed, ?_⟩
  · obtain ⟨p, hpm, h⟩ := hplain.charged r hmem
    exact ⟨p, by rw [hpass]; exact Table.mem_insert.mpr (.inl hpm), h⟩
  · intro p hmem
    rw [hpass] at hmem
    rcases Table.mem_insert.mp hmem with hmem | rfl
    · have hbal := hplain.balanced p hmem
      refine Balanced.congr ?_ hbal
      rfl
    · refine balanced_newPassPurchase ?_
      rw [usedCredits_congr hr]
      exact Table.total_eq_zero fun r hmem => if_neg (hb.pass_lt hmem).ne

/-! ### Redeeming a pass -/

/-- A hold is charged for as many admissions as it sells tickets. -/
theorem ticketCount_eq_length (db : Db) (hold : Hold) :
    ticketCount db hold = (soldSeats db hold).length := by
  have hordered : (orderedHoldSeats db hold).length = (holdSeatsOf db hold).length :=
    (List.perm_insertionSort _ _).length_eq
  unfold ticketCount soldSeats
  cases hold.ga with
  | none => dsimp only; rw [List.length_map, hordered]
  | some g =>
    dsimp only
    split_ifs
    · rw [List.length_replicate]
    · rw [List.length_map, hordered]

/-- The tickets of a new order are the ones just minted, and they are live. -/
theorem mem_mintedTickets (hl : Linked db) (hid : order.id = db.orders.nextId)
    {seats : List (Option Nat)} {t : Ticket} :
    t ∈ (db.tickets.insertMany (newTicket hold order) seats).rows.filter
        (fun t => t.order == order.id) →
      t ∈ (db.tickets.insertMany (newTicket hold order) seats).rows ∧
        t.order = order.id ∧ t.Live := by
  intro ht
  obtain ⟨hmem, ho⟩ := List.mem_filter.mp ht
  rw [beq_iff_eq] at ho
  rcases Table.mem_insertMany hmem with hold | ⟨seat, -, i, -, rfl⟩
  · exact absurd (ho.trans hid) (hl.ticket_ne hold)
  · exact ⟨hmem, ho, fun h => by cases h⟩

/-- A sale mints a ticket for each seat. -/
theorem length_mintedTickets (hl : Linked db) (hid : order.id = db.orders.nextId)
    {seats : List (Option Nat)} :
    ((db.tickets.insertMany (newTicket hold order) seats).rows.filter
      (fun t => t.order == order.id)).length = seats.length := by
  have hnone : Table.total (fun t : Ticket => if t.order == order.id then 1 else 0)
      db.tickets = 0 :=
    Table.total_eq_zero fun t ht => if_neg (by rw [hid]; simpa using hl.ticket_ne ht)
  have hnew : ∀ (s : Option Nat) (i : Nat),
      (if (newTicket hold order s i).order == order.id then 1 else 0) = 1 := fun s i => by
    simp [newTicket]
  rw [Table.length_filter_eq_total, Table.total_insertMany (v := fun _ => 1) hnew, hnone]
  simp

/-- The pass that is charged, and the others. -/
theorem mem_chargedPasses {p q : PassPurchase} {n : Nat} (hp : p ∈ db.passPurchases.rows)
    (hq : q ∈ (chargedPasses db.passPurchases p n).rows) :
    (p.kind = .flex ∧ q = burnCredits n p) ∨
      (q ∈ db.passPurchases.rows ∧ (p.kind = .flex → q.id ≠ p.id)) := by
  unfold chargedPasses at hq
  split_ifs at hq with hk
  · obtain ⟨x, hx, rfl⟩ := Table.mem_update.mp hq
    split_ifs with hxp
    · rw [Table.eq_of_key_eq hx hp (beq_iff_eq.mp hxp)]
      exact .inl ⟨hk, rfl⟩
    · exact .inr ⟨hx, fun _ => by simpa using hxp⟩
  · exact .inr ⟨hq, fun h => absurd h hk⟩

/-- A redemption keeps the kind of a pass. -/
theorem burnCredits_kind (n : Nat) (p : PassPurchase) : (burnCredits n p).kind = p.kind := by
  unfold burnCredits
  dsimp only
  split_ifs <;> rfl

/-- Charging keeps every pass, with its kind. -/
theorem exists_chargedPass {p q : PassPurchase} {n : Nat} (hq : q ∈ db.passPurchases.rows) :
    ∃ q' ∈ (chargedPasses db.passPurchases p n).rows, q'.id = q.id ∧ q'.kind = q.kind := by
  unfold chargedPasses
  split_ifs
  · refine ⟨_, Table.mem_update.mpr ⟨q, hq, rfl⟩, ?_⟩
    split_ifs
    · exact ⟨burnCredits_id n q, burnCredits_kind n q⟩
    · exact ⟨rfl, rfl⟩
  · exact ⟨q, hq, rfl, rfl⟩

/-- Burning credits that are there keeps the credits accounted for. -/
theorem Flex.burn {p : PassPurchase} {n c k : Nat} (hf : Flex db p n c) (hk : k ≤ c)
    (hactive : p.status = .active)
    (hused : usedCredits db' p.id = usedCredits db p.id + k) :
    Flex db' (burnCredits k p) n (c - k) := by
  have hbalance := hf.balance
  have hsum : c - k + usedCredits db' (burnCredits k p).id = n := by
    rw [burnCredits_id, hused]
    omega
  refine ⟨hf.positive, ?_, ?_, hsum, ?_⟩
  · rw [← hf.creditCount]
    unfold burnCredits
    dsimp only
    split_ifs <;> rfl
  · unfold burnCredits
    rw [hf.creditsRemaining]
    dsimp only [Option.getD_some]
    split_ifs <;> rfl
  · intro _
    unfold burnCredits
    rw [hf.creditsRemaining]
    dsimp only [Option.getD_some]
    split_ifs with hzero
    · exact ⟨fun _ => hzero, fun _ => rfl⟩
    · exact ⟨fun h => absurd (hactive.symm.trans h) (by decide), fun h => absurd h hzero⟩

section Redeem

variable {p : PassPurchase} {performance : Performance} {items : List OrderItem}
  {new : List Ticket} {now : Time}

/-- The pass has used a credit more for each new redemption, and the other passes what they
    had. -/
theorem usedCredits_redeem (hr : db'.passRedemptions
      = db.passRedemptions.insertMany (newRedemption p order performance items) new) (q : Nat) :
    usedCredits db' q
      = usedCredits db q + if p.id = q ∧ p.kind = .flex then new.length else 0 := by
  have hrow : ∀ t i, (if (newRedemption p order performance items t i).passPurchase = q
      then (newRedemption p order performance items t i).creditsUsed else 0)
        = if p.id = q then if p.kind = .flex then 1 else 0 else 0 := fun _ _ => rfl
  unfold usedCredits
  rw [hr, Table.total_insertMany hrow]
  by_cases hq : p.id = q <;> by_cases hk : p.kind = .flex <;> simp [hq, hk]

/-- No ticket has two redemptions when the new ones are for tickets that had none. -/
theorem PassBooks.once_redeem (hb : PassBooks db) (hnew : (new.map (·.id)).Nodup)
    (hfresh : ∀ r ∈ db.passRedemptions.rows, ∀ t ∈ new, r.ticket ≠ t.id) :
    ((db.passRedemptions.insertMany (newRedemption p order performance items) new).rows.map
      (·.ticket)).Nodup := by
  have hrow : ∀ t i, (newRedemption p order performance items t i).ticket = t.id :=
    fun _ _ => rfl
  rw [Table.map_insertMany hrow]
  refine List.nodup_append.mpr ⟨hb.once, hnew, ?_⟩
  intro a ha b hb' hab
  obtain ⟨r, hrm, hra⟩ := List.mem_map.mp ha
  obtain ⟨t, htn, htb⟩ := List.mem_map.mp hb'
  exact hfresh r hrm t htn (hra.trans (hab.trans htb.symm))

/-- The new redemptions charge the pass, which is still there. -/
theorem PassBooks.charged_redeem (hb : PassBooks db) (hp : p ∈ db.passPurchases.rows) (n : Nat)
    {r : PassRedemption}
    (hr : r ∈ (db.passRedemptions.insertMany (newRedemption p order performance items) new).rows) :
    ∃ q ∈ (chargedPasses db.passPurchases p n).rows,
      q.id = r.passPurchase ∧ r.creditsUsed = if q.kind = .flex then 1 else 0 := by
  rcases Table.mem_insertMany hr with hr | ⟨t, -, i, -, rfl⟩
  · obtain ⟨q, hq, hqid, hqc⟩ := hb.charged r hr
    obtain ⟨q', hq', hid', hk'⟩ := exists_chargedPass (n := n) (p := p) hq
    exact ⟨q', hq', hid'.trans hqid, by rw [hk']; exact hqc⟩
  · obtain ⟨q', hq', hid', hk'⟩ := exists_chargedPass (n := n) (p := p) hp
    exact ⟨q', hq', hid', by rw [hk']; rfl⟩

/-- A season pass is redeemed once for an event. -/
theorem PassBooks.perEvent_redeem (hb : PassBooks db) (ha : Admits db now hold p performance)
    (hlen : new.length = ticketCount db hold) :
    let rows := (db.passRedemptions.insertMany (newRedemption p order performance items) new).rows
    ∀ r ∈ rows, ∀ r' ∈ rows, r.passPurchase = r'.passPurchase → r.event = r'.event →
      r.creditsUsed = 0 → r'.creditsUsed = 0 → r = r' := by
  intro rows r hmem r' hmem' hpp he hc hc'
  cases hk : p.kind with
  | flex =>
    -- The new rows cost a credit each.
    have hold : ∀ x ∈ rows, x.creditsUsed = 0 → x ∈ db.passRedemptions.rows := by
      intro x hx hx0
      rcases Table.mem_insertMany hx with hx | ⟨t, -, i, -, rfl⟩
      · exact hx
      · exact absurd hx0 (by simp [newRedemption, hk])
    exact hb.perEvent r (hold r hmem hc) r' (hold r' hmem' hc') hpp he hc hc'
  | season =>
    -- There is one new row, and the pass had not been used for the event.
    obtain ⟨hone, hunused⟩ := ha.season hk
    obtain ⟨u, hu⟩ := List.length_eq_one_iff.mp (hlen.trans hone)
    dsimp only [rows] at hmem hmem'
    rw [hu, Table.insertMany_cons, Table.insertMany_nil] at hmem hmem'
    rcases Table.mem_insert.mp hmem with hmem | rfl
    · rcases Table.mem_insert.mp hmem' with hmem' | rfl
      · exact hb.perEvent r hmem r' hmem' hpp he hc hc'
      · exact absurd he (hunused r hmem hpp)
    · rcases Table.mem_insert.mp hmem' with hmem' | rfl
      · exact absurd he.symm (hunused r' hmem' hpp.symm)
      · rfl

/-- Charging a pass that admits the hold leaves every pass accounted for. -/
theorem PassBooks.balanced_redeem (hb : PassBooks db) (hp : p ∈ db.passPurchases.rows)
    (ha : Admits db now hold p performance)
    (hused : ∀ q, usedCredits db' q
      = usedCredits db q + if p.id = q ∧ p.kind = .flex then ticketCount db hold else 0)
    {q : PassPurchase} (hq : q ∈ (chargedPasses db.passPurchases p (ticketCount db hold)).rows) :
    Balanced db' q := by
  rcases mem_chargedPasses hp hq with ⟨hk, rfl⟩ | ⟨hq, hne⟩
  · have hbal := hb.balanced p hp
    unfold Balanced at hbal ⊢
    rw [hk] at hbal
    rw [burnCredits_kind, hk]
    obtain ⟨n, c, hf⟩ := hbal
    have hfits := ha.flex hk
    rw [hf.creditsRemaining, Option.getD_some] at hfits
    have hactive : p.status = .active := by
      have := ha.redeemable
      unfold redeemableNow at this
      rw [Bool.and_eq_true, beq_iff_eq] at this
      exact this.1
    exact ⟨n, _, hf.burn hfits hactive (by rw [hused, if_pos ⟨rfl, hk⟩])⟩
  · refine (hb.balanced q hq).congr ?_
    rw [hused, if_neg, Nat.add_zero]
    rintro ⟨hpq, hk⟩
    exact hne hk hpq.symm

end Redeem

/-- **Redeeming a pass** mints a live ticket and its redemption for each admission, and charges
    the pass for exactly these. -/
theorem PassBooks.redeem (hb : PassBooks db) (hl : Linked db) (hid : order.id = db.orders.nextId)
    {now : Time} {p : PassPurchase} {performance : Performance} {items : List OrderItem}
    {ref : String} (hp : p ∈ db.passPurchases.rows) (ha : Admits db now hold p performance)
    (ht : db'.tickets = db.tickets.insertMany (newTicket hold order) (soldSeats db hold))
    (hr : db'.passRedemptions = db.passRedemptions.insertMany
      (newRedemption p order performance items)
      ((db.tickets.insertMany (newTicket hold order) (soldSeats db hold)).rows.filter
        fun t => t.order == order.id))
    (hpass : db'.passPurchases = chargedPasses db.passPurchases p (ticketCount db hold))
    (hpay : db'.payments = db.payments.insert (paymentRow order .pass 0 .succeeded ref)) :
    PassBooks db' := by
  have hminted : ∀ t, _ → _ := @mem_mintedTickets _ _ hold hl hid (soldSeats db hold)
  have hlen := (@length_mintedTickets _ _ hold hl hid (soldSeats db hold)).trans
    (ticketCount_eq_length db hold).symm
  have hsub : ((db.tickets.insertMany (newTicket hold order) (soldSeats db hold)).rows.filter
      fun t => t.order == order.id).map (·.id) |>.Nodup :=
    (db.tickets.insertMany (newTicket hold order) (soldSeats db hold)).nodup.sublist
      (List.filter_sublist.map _)
  generalize hT : db.tickets.insertMany (newTicket hold order) (soldSeats db hold) = T
    at ht hr hminted hlen hsub
  generalize hnew : (T.rows.filter fun t => t.order == order.id) = new at hr hminted hlen hsub
  have hkeep : ∀ t ∈ db.tickets.rows, t ∈ T.rows := fun t hmem => by
    rw [← hT]; exact Table.mem_insertMany_of_mem hmem
  -- A redemption that was there is for an earlier order's ticket.
  have hfresh : ∀ r ∈ db.passRedemptions.rows, ∀ t ∈ new, r.ticket ≠ t.id := by
    intro r hrm t htn hrt
    obtain ⟨u, hu, hur, -⟩ := hb.ticketed r hrm
    obtain ⟨htm, ho, -⟩ := hminted t htn
    have hut : u = t := Table.eq_of_key_eq (hkeep u hu) htm (hur.trans hrt)
    exact hl.ticket_ne hu (by rw [hut, ho, hid])
  have hused := usedCredits_redeem hr
  rw [hlen] at hused
  refine ⟨?_, ?_, ?_, ?_, ?_, ?_⟩
  · intro r hmem
    rw [hr] at hmem
    rw [ht]
    rcases Table.mem_insertMany hmem with hmem | ⟨t, htn, i, -, rfl⟩
    · obtain ⟨t, htm, h⟩ := hb.ticketed r hmem
      exact ⟨t, hkeep t htm, h⟩
    · obtain ⟨htm, ho, hlive⟩ := hminted t htn
      exact ⟨t, htm, rfl, ho, hlive⟩
  · rw [hr]
    exact hb.once_redeem hsub hfresh
  · rw [hr, hpass]
    exact fun r hmem => hb.charged_redeem hp _ hmem
  · rw [hr]
    exact hb.perEvent_redeem ha hlen
  · intro t hmem hlive hpo
    rw [ht] at hmem
    rw [hr]
    by_cases ho : t.order = order.id
    · have htn : t ∈ new := by
        rw [← hnew]; exact List.mem_filter.mpr ⟨hmem, by simpa using ho⟩
      obtain ⟨i, -, hrm⟩ := Table.exists_mem_insertMany (t := db.passRedemptions)
        (newRedemption p order performance items) (fun _ _ => rfl) htn
      exact ⟨_, hrm, rfl⟩
    · have hmem₀ : t ∈ db.tickets.rows := by
        rw [← hT] at hmem
        rcases Table.mem_insertMany hmem with h | ⟨_, -, _, -, rfl⟩
        · exact h
        · exact absurd rfl ho
      obtain ⟨r, hrm, hrt⟩ := hb.backed t hmem₀ hlive (passOrder_insert hpay (.inl ho) hpo)
      exact ⟨r, Table.mem_insertMany_of_mem hrm, hrt⟩
  · rw [hpass]
    exact fun q hq => hb.balanced_redeem hp ha hused hq

/-! ### Undoing an order -/

/-- The redemptions of a pass split into those of one order and the others. -/
theorem usedCredits_split (h : db'.passRedemptions
      = db.passRedemptions.delete fun r => r.order == order.id) (p : Nat) :
    usedCredits db' p + creditsByPass (redemptionsOf db.passRedemptions order.id) p
      = usedCredits db p := by
  have hof : creditsByPass (redemptionsOf db.passRedemptions order.id) p
      = Table.total (fun r => if r.order = order.id ∧ r.passPurchase = p then r.creditsUsed else 0)
        db.passRedemptions := by
    unfold creditsByPass redemptionsOf Table.total
    induction db.passRedemptions.rows with
    | nil => rfl
    | cons r l ih =>
      by_cases ho : r.order = order.id <;> by_cases hp : r.passPurchase = p <;> simp_all
  unfold usedCredits
  rw [h, Table.total_delete, hof, ← Table.total_add]
  refine Table.total_congr fun r _ => ?_
  by_cases ho : r.order = order.id <;> by_cases hp : r.passPurchase = p <;> simp [ho, hp]

/-- Restored credits are on the pass, and a pass with credits is not exhausted. -/
theorem restoreCredits_flex {p : PassPurchase} {c n : Nat} (hc : p.creditsRemaining = some c) :
    (restoreCredits n p).creditsRemaining = some (c + n) ∧
      (restoreCredits n p).creditCount = p.creditCount ∧
      (restoreCredits n p).kind = p.kind ∧
      (0 < c + n → (restoreCredits n p).status ≠ .exhausted) := by
  unfold restoreCredits
  rw [hc]
  by_cases hn : n = 0
  · subst hn
    simp only [ne_eq, not_true_eq_false, if_false, hc, Option.getD_some, Nat.add_zero]
    split_ifs with hex
    · exact ⟨rfl, rfl, rfl, fun _ h => by cases h⟩
    · exact ⟨hc, rfl, rfl, fun hpos h => hex ⟨h, hpos⟩⟩
  · simp only [ne_eq, hn, not_false_eq_true, if_true, Option.getD_some]
    split_ifs with hex
    · exact ⟨rfl, rfl, rfl, fun _ h => by cases h⟩
    · exact ⟨rfl, rfl, rfl, fun hpos h => hex ⟨h, hpos⟩⟩

/-- A season pass has no credits to restore. -/
theorem restoreCredits_season {p : PassPurchase} {n : Nat} (hc : p.creditsRemaining = none) :
    restoreCredits n p = p := by
  unfold restoreCredits
  rw [hc]
  simp [hc]

/-- The row of a pass after the redemptions of an order are reversed. -/
def restoredPass (db : Db) (order : Nat) (p : PassPurchase) : PassPurchase :=
  if (redemptionsOf db.passRedemptions order).any fun r => r.passPurchase == p.id
  then restoreCredits (creditsByPass (redemptionsOf db.passRedemptions order) p.id) p
  else p

/-- A restore keeps the kind of a pass. -/
theorem restoreCredits_kind (n : Nat) (p : PassPurchase) : (restoreCredits n p).kind = p.kind := by
  unfold restoreCredits
  cases p.creditsRemaining with
  | none => dsimp only; split_ifs <;> rfl
  | some credits => dsimp only; split_ifs <;> rfl

/-- A restored pass keeps its key and kind. -/
theorem restoredPass_keeps (db : Db) (order : Nat) (p : PassPurchase) :
    (restoredPass db order p).id = p.id ∧ (restoredPass db order p).kind = p.kind := by
  unfold restoredPass
  split_ifs
  · exact ⟨restoreCredits_id _ p, restoreCredits_kind _ p⟩
  · exact ⟨rfl, rfl⟩

/-- The passes after an undo are the restored ones, some of them refunded. -/
theorem mem_undonePasses {order : Nat} {refunded : Bool} {p' : PassPurchase} :
    p' ∈ (refundedPasses (restoredPasses db order) order refunded).rows ↔
      ∃ p ∈ db.passPurchases.rows,
        (if refunded ∧ (restoredPass db order p).order = order
          then { restoredPass db order p with status := .refunded }
          else restoredPass db order p) = p' := by
  unfold refundedPasses restoredPasses
  cases refunded with
  | false =>
    simp only [Bool.false_eq_true, if_false, false_and]
    exact Table.mem_update
  | true =>
    simp only [if_true, true_and]
    rw [Table.mem_update]
    constructor
    · rintro ⟨x, hx, rfl⟩
      obtain ⟨p, hp, rfl⟩ := Table.mem_update.mp hx
      exact ⟨p, hp, by simp only [beq_iff_eq]; rfl⟩
    · rintro ⟨p, hp, rfl⟩
      exact ⟨restoredPass db order p, Table.mem_update.mpr ⟨p, hp, rfl⟩, by simp only [beq_iff_eq]⟩

/-- **Restoring a pass.** The credits of the deleted redemptions are back on it. -/
theorem Balanced.restore (hb : PassBooks db) {p : PassPurchase} (hp : p ∈ db.passPurchases.rows)
    (hr : db'.passRedemptions = db.passRedemptions.delete fun r => r.order == order.id) :
    Balanced db' (restoredPass db order.id p) := by
  have hsplit := usedCredits_split hr p.id
  have hbal := hb.balanced p hp
  unfold restoredPass
  split_ifs with hany
  · obtain ⟨r, hmem, hrp⟩ := List.any_eq_true.mp hany
    rw [beq_iff_eq] at hrp
    cases hk : p.kind with
    | season =>
      unfold Balanced at hbal
      rw [hk] at hbal
      rw [restoreCredits_season hbal]
      unfold Balanced
      rw [hk]
      exact hbal
    | flex =>
      unfold Balanced at hbal
      rw [hk] at hbal
      obtain ⟨n, c, hf⟩ := hbal
      obtain ⟨hc', hn', hk', hex'⟩ := restoreCredits_flex
        (n := creditsByPass (redemptionsOf db.passRedemptions order.id) p.id) hf.creditsRemaining
      -- At least the credit of `r` comes back.
      have hpos : 0 < creditsByPass (redemptionsOf db.passRedemptions order.id) p.id := by
        obtain ⟨q, hq, hqid, hused⟩ := hb.charged r (mem_redemptionsOf.mp hmem).1
        have hqp : q = p := Table.eq_of_key_eq hq hp (hqid.trans hrp)
        rw [hqp, hk, if_pos rfl] at hused
        unfold creditsByPass
        refine List.sum_pos_iff_exists_pos_nat.mpr ⟨1, ?_, Nat.one_pos⟩
        exact List.mem_map.mpr ⟨r, List.mem_filter.mpr ⟨hmem, by simpa using hrp⟩, hused⟩
      have hbalance := hf.balance
      unfold Balanced
      rw [hk', hk]
      refine ⟨n, _, hf.positive, hn'.trans hf.creditCount, hc', ?_, fun _ => ?_⟩
      · rw [restoreCredits_id]
        omega
      · exact ⟨fun h => absurd h (hex' (by omega)), fun h => by omega⟩
  · -- No redemption of the order is on this pass.
    have hzero : creditsByPass (redemptionsOf db.passRedemptions order.id) p.id = 0 := by
      unfold creditsByPass
      rw [List.filter_eq_nil_iff.mpr]
      · rfl
      · intro r hr' hrp
        exact hany (List.any_eq_true.mpr ⟨r, hr', hrp⟩)
    exact hbal.congr (by omega)

/-- Refunding a pass leaves its credits accounted for. -/
theorem Balanced.refund {p : PassPurchase} (hb : Balanced db p) :
    Balanced db { p with status := .refunded } := by
  unfold Balanced at hb ⊢
  split
  · rename_i hk
    have hk' : p.kind = .flex := hk
    rw [hk'] at hb
    obtain ⟨n, c, hf⟩ := hb
    exact ⟨n, c, hf.positive, hf.creditCount, hf.creditsRemaining, hf.balance,
      fun h => absurd rfl h⟩
  · rename_i hk
    have hk' : p.kind = .season := hk
    rw [hk'] at hb
    exact hb

/-- A ticket that is live after a void was there, on another order. -/
theorem live_of_voided {tickets : Table Ticket} {order : Nat} {t : Ticket}
    (ht : t ∈ (voidedTickets tickets order).rows) (hlive : t.Live) :
    t ∈ tickets.rows ∧ t.order ≠ order := by
  obtain ⟨u, hu, rfl⟩ := Table.mem_update.mp ht
  by_cases ho : u.order = order
  · rw [if_pos (by simpa using ho)] at hlive
    exact absurd rfl hlive
  · rw [if_neg (by simpa using ho)]
    exact ⟨hu, ho⟩

/-- **Undoing an order** voids its tickets, deletes their redemptions and restores the credits;
    `refunded` says whether the passes it sold are refunded too. -/
theorem PassBooks.undo (hb : PassBooks db) (order : Order) (refunded : Bool)
    (ht : db'.tickets = voidedTickets db.tickets order.id)
    (hp : db'.payments = db.payments ∨ ∃ provider amount status ref,
      db'.payments = db.payments.insert (paymentRow order provider amount status ref))
    (hr : db'.passRedemptions = db.passRedemptions.delete fun r => r.order == order.id)
    (hpass : db'.passPurchases = refundedPasses (restoredPasses db order.id) order.id refunded) :
    PassBooks db' := by
  have hold : ∀ r ∈ db'.passRedemptions.rows, r ∈ db.passRedemptions.rows ∧ r.order ≠ order.id := by
    intro r hmem
    rw [hr] at hmem
    obtain ⟨hmem, hne⟩ := Table.mem_delete.mp hmem
    exact ⟨hmem, by simpa using hne⟩
  have hkept : ∀ t ∈ db.tickets.rows, t.order ≠ order.id → t ∈ db'.tickets.rows := by
    intro t hmem hne
    rw [ht]
    exact Table.mem_update.mpr ⟨t, hmem, if_neg (by simpa using hne)⟩
  -- Every pass is still there, with its key and kind.
  have hmap : ∀ p ∈ db.passPurchases.rows, ∃ p' ∈ db'.passPurchases.rows,
      p'.id = p.id ∧ p'.kind = p.kind := by
    intro p hmem
    refine ⟨_, by rw [hpass]; exact mem_undonePasses.mpr ⟨p, hmem, rfl⟩, ?_⟩
    obtain ⟨hid, hk⟩ := restoredPass_keeps db order.id p
    split_ifs
    · exact ⟨hid, hk⟩
    · exact ⟨hid, hk⟩
  refine ⟨?_, ?_, ?_, ?_, ?_, ?_⟩
  · intro r hmem
    obtain ⟨hmem, hne⟩ := hold r hmem
    obtain ⟨t, htm, hid, ho, hlive⟩ := hb.ticketed r hmem
    exact ⟨t, hkept t htm (ho ▸ hne), hid, ho, hlive⟩
  · rw [hr]
    exact hb.once.sublist (List.filter_sublist.map _)
  · intro r hmem
    obtain ⟨p, hpm, hid, hused⟩ := hb.charged r (hold r hmem).1
    obtain ⟨p', hpm', hid', hk'⟩ := hmap p hpm
    exact ⟨p', hpm', hid'.trans hid, by rw [hk']; exact hused⟩
  · intro r hmem r' hmem'
    exact hb.perEvent r (hold r hmem).1 r' (hold r' hmem').1
  · intro t hmem hlive hpo
    rw [ht] at hmem
    obtain ⟨hmem, hne⟩ := live_of_voided hmem hlive
    have hpo' : PassOrder db t.order := by
      rcases hp with hp | ⟨_, _, _, _, hp⟩
      · unfold PassOrder at hpo ⊢
        rw [hp] at hpo
        exact hpo
      · exact passOrder_insert hp (.inl hne) hpo
    obtain ⟨r, hrm, hrt⟩ := hb.backed t hmem hlive hpo'
    -- Its redemption is for its own order, so it is not deleted.
    obtain ⟨v, hv, hvid, hvo, -⟩ := hb.ticketed r hrm
    have hvt : v = t := Table.eq_of_key_eq hv hmem (hvid.trans hrt)
    refine ⟨r, ?_, hrt⟩
    rw [hr]
    exact Table.mem_delete.mpr ⟨hrm, by rw [← hvo, hvt]; simpa using hne⟩
  · intro p' hmem
    rw [hpass] at hmem
    obtain ⟨p, hp, rfl⟩ := mem_undonePasses.mp hmem
    split_ifs
    · exact (Balanced.restore hb hp hr).refund
    · exact Balanced.restore hb hp hr

end Steps

end BoxOffice

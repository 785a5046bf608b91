import BoxOffice.Dashboard.CartShape
import BoxOffice.Payments.Checkouts

namespace BoxOffice

open Relational Transition

/-!
# Payments — is a cart converted at most once?

The fulfilment functions work from the hold object they are given and never look whether its
row is still there.  An attempt that was overtaken by another therefore goes through: a
general-admission cart is sold once more, a cart of seats becomes a paid order without tickets.

* `Overtaken` is that situation, `converted_once` says that a cart is converted at most once as
  long as no attempt is let through in it;
* `TillBooks` is the invariant of the shared state, `Attempt.Reads` the assertion about an
  attempt: the object it has read is an image of the stored row, if that is still there;
* `cart_converted_twice` is a double submission.
-/

/-- The holds sold so far. -/
def soldKeys (s : Till) : List Nat := s.sales.map (·.1)

/-- Nothing is left of the hold: its places were sold, or its row is gone and with it its
    seats. -/
def Spent (s : Till) (hold : Hold) : Prop :=
  (hold.isGa = true ∧ hold.id ∈ soldKeys s) ∨
    (hold.isGa = false ∧ ∀ row ∈ s.state.db.holds.rows, row.id ≠ hold.id)

/-- The attempt is about to fulfil a hold of which nothing is left, and passes every check. -/
def Overtaken (s : Till) (a : Attempt) : Prop :=
  ∃ hold, a.stage = .holding hold ∧ Spent s hold ∧ a.route.Accepts s.state hold

/-- A hold that sells at least one ticket. -/
def Stocked (h : Hold) : Prop := h.isGa = true ∨ h.holdSeats ≠ []

/-! ### The rest of the box office -/

/-- Rows keep their inventory, and new rows come under new keys. -/
structure HoldsKept (db db' : Db) : Prop where
  next : db.holds.nextId ≤ db'.holds.nextId
  rows : ∀ row' ∈ db'.holds.rows,
    (∃ row ∈ db.holds.rows, Hold.SameCart row' row ∧ row'.holdSeats = row.holdSeats) ∨
      (db.holds.nextId ≤ row'.id ∧ Stocked row')

section Holds

variable {db db' : Db} {now : Time}

/-- A cart is the same cart as itself. -/
theorem Hold.SameCart.refl (h : Hold) : Hold.SameCart h h := ⟨rfl, rfl, rfl, rfl, rfl, rfl⟩

/-- Being the same cart is transitive. -/
theorem Hold.SameCart.trans {a b c : Hold} (h : SameCart a b) (h' : SameCart b c) : SameCart a c :=
  ⟨h.1.trans h'.1, h.2.1.trans h'.2.1, h.2.2.1.trans h'.2.2.1, h.2.2.2.1.trans h'.2.2.2.1,
    h.2.2.2.2.1.trans h'.2.2.2.2.1, h.2.2.2.2.2.trans h'.2.2.2.2.2⟩

/-- Being the same cart is symmetric. -/
theorem Hold.SameCart.symm {a b : Hold} (h : SameCart a b) : SameCart b a :=
  ⟨h.1.symm, h.2.1.symm, h.2.2.1.symm, h.2.2.2.1.symm, h.2.2.2.2.1.symm, h.2.2.2.2.2.symm⟩

/-- The same cart is for general admission or for seats. -/
theorem Hold.SameCart.isGa {a b : Hold} (h : SameCart a b) : a.isGa = b.isGa := by
  unfold Hold.isGa
  rw [h.2.2.2.2.2]

/-- Deleting carts keeps those that are left. -/
theorem HoldsKept.delete {p : Hold → Bool} (h : db'.holds = db.holds.delete p) :
    HoldsKept db db' where
  next := by rw [h, Table.delete_nextId]
  rows := fun row hrow => by
    rw [h] at hrow
    exact .inl ⟨row, (Table.mem_delete.mp hrow).1, .refl row, rfl⟩

/-- Carts are kept while the table stays. -/
theorem HoldsKept.of_eq (h : db'.holds = db.holds) : HoldsKept db db' where
  next := by rw [h]
  rows := fun row hrow => .inl ⟨row, h ▸ hrow, .refl row, rfl⟩

/-- Every effect of the box office keeps the holds. -/
theorem Effect.holdsKept (he : Effect now db db') : HoldsKept db db' := by
  cases he with
  | released p h => exact .delete (by rw [h])
  | replacedGa organization performance sessionKey priceTier allocation n _ _ _ hn _ h =>
    subst h
    refine ⟨Nat.le_succ _, fun row hrow => ?_⟩
    -- The carts kept are others; the new one has places, or seats, and a key of its own.
    rcases mem_replaceSessionHold.mp hrow with hrow | rfl
    · exact .inl ⟨row, (Table.mem_delete.mp hrow).1, .refl row, rfl⟩
    · refine .inr ⟨le_refl _, .inl ?_⟩
      have hne : n ≠ 0 := Nat.ne_of_gt hn
      simp [newGaHold, Hold.isGa, hne]
  | replacedReserved organization performance sessionKey seats _ _ _ hne _ h =>
    subst h
    refine ⟨Nat.le_succ _, fun row hrow => ?_⟩
    rcases mem_replaceSessionHold.mp hrow with hrow | rfl
    · exact .inl ⟨row, (Table.mem_delete.mp hrow).1, .refl row, rfl⟩
    · refine .inr ⟨le_refl _, .inr ?_⟩
      simpa [newReservedHold] using hne
  | edited id f hf hedit _ h =>
    subst h
    refine ⟨le_refl _, fun row hrow => ?_⟩
    obtain ⟨k, hk, rfl⟩ := mem_editHold.mp hrow
    refine .inl ⟨k, hk, ?_⟩
    -- An edit leaves what the cart holds.
    split_ifs
    · exact hedit k
    · exact ⟨.refl k, rfl⟩
  | sold hold row order _ _ _ hsold => exact .delete hsold.holds
  | voided order _ _ _ hholds => exact .of_eq hholds
  | aside _ _ hholds => exact .of_eq hholds

/-- Without a sale of a hold, no order for a performance comes in and tickets stay with their
    orders. -/
structure NoHoldSold (db db' : Db) : Prop where
  orders : ∀ o' ∈ db'.orders.rows,
    (∃ o ∈ db.orders.rows, o'.id = o.id ∧ o'.performance = o.performance) ∨ o'.performance = none
  kept : OrdersKept db db'
  tickets : ∀ t ∈ db.tickets.rows, ∃ t' ∈ db'.tickets.rows, t'.order = t.order

/-- No hold is sold while orders and tickets stay. -/
theorem NoHoldSold.of_eq (ho : db'.orders = db.orders) (ht : db'.tickets = db.tickets) :
    NoHoldSold db db' where
  orders := fun o h => .inl ⟨o, ho ▸ h, rfl, rfl⟩
  kept := .of_subset fun _ h => ho ▸ h
  tickets := fun t h => ⟨t, ht ▸ h, rfl⟩

/-- An order without a performance brings no tickets. -/
theorem NoHoldSold.of_insert {mk : Nat → Order} {hk} (ho : db'.orders = db.orders.insert mk hk)
    (hnone : (mk db.orders.nextId).performance = none) (ht : db'.tickets = db.tickets) :
    NoHoldSold db db' where
  orders := fun o h => by
    rw [ho] at h
    rcases Table.mem_insert.mp h with h | rfl
    · exact .inl ⟨o, h, rfl, rfl⟩
    · exact .inr hnone
  kept := .of_subset fun _ h => by rw [ho]; exact Table.mem_insert.mpr (.inl h)
  tickets := fun t h => ⟨t, ht ▸ h, rfl⟩

/-- Tickets stay with their orders when some of them are voided. -/
theorem voidedTickets_order {tickets : Table Ticket} {order : Nat} {t : Ticket}
    (h : t ∈ tickets.rows) : ∃ t' ∈ (voidedTickets tickets order).rows, t'.order = t.order :=
  ⟨_, Table.mem_update.mpr ⟨t, h, rfl⟩, by split <;> rfl⟩

/-- No hold is sold by a new status and voided tickets. -/
theorem NoHoldSold.of_status {order n : Nat} {status : OrderStatus}
    (ho : db'.orders = setOrderStatus db.orders order status)
    (ht : db'.tickets = voidedTickets db.tickets n) : NoHoldSold db db' where
  orders := fun o h => by
    rw [ho] at h
    obtain ⟨x, hx, rfl⟩ := Table.mem_update.mp h
    exact .inl ⟨x, hx, by split <;> rfl, by split <;> rfl⟩
  kept := .setStatus ho
  tickets := fun t h => by rw [ht]; exact voidedTickets_order h

end Holds

/-- An operation that sells no hold sells none. -/
theorem exec_noHoldSold {op : Op} (s : State) (h : ¬op.SellsHold) :
    NoHoldSold s.db (exec op s).db := by
  cases exec_sale op s with
  | none h => exact .of_eq h.orders h.tickets
  | hold _ _ _ hsells => exact absurd hsells h
  | withPass _ _ _ _ _ _ hsells => exact absurd hsells h
  | donation _ _ _ _ _ _ hok =>
    obtain ⟨_, _, -, -, -, hdb⟩ := fulfillDonation_ok hok
    exact .of_insert (by rw [hdb]) rfl (by rw [hdb])
  | passSale _ _ _ _ _ hok =>
    obtain ⟨_, _, -, -, -, -, hdb⟩ := fulfillPassPurchase_ok hok
    exact .of_insert (by rw [hdb]) rfl (by rw [hdb])
  | void order _ _ hdb =>
    rw [hdb, voidOrder_fst]
    exact ⟨fun o h => .inl ⟨o, h, rfl, rfl⟩, .of_subset fun _ h => h,
      fun t h => voidedTickets_order h⟩
  | refund _ _ _ hok =>
    obtain ⟨o, -, ⟨-, hdb, -⟩ | ⟨-, -, -, _, _, hdb⟩⟩ := refundOrder_ok hok
    · exact .of_eq (by rw [hdb]) (by rw [hdb])
    · exact .of_status (by rw [hdb, refundedDb_eq]) (by rw [hdb, refundedDb_eq])
  | cancel order _ _ hdb =>
    unfold orderCancel at hdb
    split_ifs at hdb
    · exact .of_eq (by rw [hdb]) (by rw [hdb])
    · exact .of_status (by rw [hdb, undoOrder_eq]) (by rw [hdb, undoOrder_eq])

/-! ### The invariant -/

/-- The books of the till. -/
structure TillBooks (s : Till) : Prop where
  linked : Linked s.state.db
  stocked : ∀ h ∈ s.state.db.holds.rows, Stocked h
  /-- A sold hold is gone for good. -/
  gone : ∀ k ∈ soldKeys s, k < s.state.db.holds.nextId ∧ ∀ row ∈ s.state.db.holds.rows, row.id ≠ k
  once : (soldKeys s).Nodup
  sold : ∀ sale ∈ s.sales, ∃ o ∈ s.state.db.orders.rows, o.id = sale.2 ∧ o.performance ≠ none
  /-- Every order for a performance has tickets. -/
  ticketed : ∀ o ∈ s.state.db.orders.rows, o.performance ≠ none →
    ∃ t ∈ s.state.db.tickets.rows, t.order = o.id

/-- The hold an attempt has read is an image of the stored row, if that is still there. -/
def Attempt.Reads (s : Till) (a : Attempt) : Prop := ∀ hold, a.stage = .holding hold →
  hold.id < s.state.db.holds.nextId ∧
    ∀ row ∈ s.state.db.holds.rows, row.id = hold.id → Hold.SameCart hold row

section Sells

variable {s s' : Till} {a : Attempt} {hold : Hold} {order : Order}

/-- What an attempt has read stays read while the carts are kept. -/
theorem Attempt.Reads.mono (hr : a.Reads s) (h : HoldsKept s.state.db s'.state.db) :
    a.Reads s' := by
  intro hold hstage
  obtain ⟨hlt, hsame⟩ := hr hold hstage
  refine ⟨lt_of_lt_of_le hlt h.next, fun row' hrow' hid => ?_⟩
  rcases h.rows row' hrow' with ⟨row, hrow, hcart, -⟩ | ⟨hnew, -⟩
  · exact (hsame row hrow (hcart.1.symm.trans hid)).trans hcart.symm
  · omega

/-- An attempt that was not overtaken sells a hold that was not sold before. -/
theorem Sells.fresh (h : Sells s s' a hold order) (hb : TillBooks s) (hc : ¬Overtaken s a) :
    hold.id ∉ soldKeys s := by
  intro hk
  refine hc ⟨hold, h.stage, ?_, h.accepts⟩
  cases hga : hold.isGa with
  | true => exact .inl ⟨hga, hk⟩
  | false => exact .inr ⟨hga, (hb.gone hold.id hk).2⟩

/-- It sells at least one ticket. -/
theorem Sells.soldSeats_ne (h : Sells s s' a hold order) (hb : TillBooks s) (hr : a.Reads s)
    (hc : ¬Overtaken s a) : soldSeats s.state.db hold ≠ [] := by
  cases hga : hold.isGa with
  | true =>
    unfold Hold.isGa at hga
    unfold soldSeats
    cases hg : hold.ga with
    | none => rw [hg] at hga; cases hga
    | some g =>
      rw [hg] at hga
      have hq : g.quantity ≠ 0 := by simpa using hga
      simp [hq]
  | false =>
    -- The row is still there, or the attempt would have been overtaken.
    obtain ⟨row, hrow, hid⟩ : ∃ row ∈ s.state.db.holds.rows, row.id = hold.id := by
      by_contra hnone
      exact hc ⟨hold, h.stage, .inr ⟨hga, fun row hrow hid => hnone ⟨row, hrow, hid⟩⟩, h.accepts⟩
    have hsame := (hr hold h.stage).2 row hrow hid
    have hseats : holdSeatsOf s.state.db hold = row.holdSeats := by
      unfold holdSeatsOf
      rw [← hid, Table.get?_eq_some (i := row.id).mpr ⟨hrow, rfl⟩]
    have hne : row.holdSeats ≠ [] := by
      rcases hb.stocked row hrow with hrga | hne
      · rw [← hsame.isGa, hga] at hrga; cases hrga
      · exact hne
    have hordered : orderedHoldSeats s.state.db hold ≠ [] := by
      intro hnil
      have hlen := (List.perm_insertionSort (fun a b : HoldSeat => a.seat ≤ b.seat)
        (holdSeatsOf s.state.db hold)).length_eq
      unfold orderedHoldSeats at hnil
      rw [hnil, hseats] at hlen
      exact hne (List.length_eq_zero_iff.mp hlen.symm)
    unfold Hold.isGa at hga
    unfold soldSeats
    cases hg : hold.ga with
    | none => simpa using hordered
    | some g =>
      rw [hg] at hga
      have hq : g.quantity = 0 := by simpa using hga
      simpa [hq] using hordered

/-- A sale keeps the other carts. -/
theorem Sells.holdsKept (h : Sells s s' a hold order) : HoldsKept s.state.db s'.state.db :=
  .delete h.sold.holds

/-- **A sale keeps the books**, unless the attempt was overtaken. -/
theorem Sells.tillBooks (h : Sells s s' a hold order) (hb : TillBooks s) (hr : a.Reads s)
    (hc : ¬Overtaken s a) : TillBooks s' := by
  obtain ⟨mk, hk, horders, hmk⟩ := h.sold.orders
  have hkeys : soldKeys s' = hold.id :: soldKeys s := by unfold soldKeys; rw [h.sales]; rfl
  have hmem : ∀ row, row ∈ s'.state.db.holds.rows → row ∈ s.state.db.holds.rows ∧
      row.id ≠ hold.id := by
    intro row hrow
    rw [h.sold.holds] at hrow
    obtain ⟨hrow, hne⟩ := Table.mem_delete.mp hrow
    exact ⟨hrow, by simpa using hne⟩
  have hnext : s'.state.db.holds.nextId = s.state.db.holds.nextId := by
    rw [h.sold.holds]
    rfl
  refine ⟨h.booked.linked hb.linked, fun row hrow => hb.stocked row (hmem row hrow).1, ?_,
    ?_, ?_, ?_⟩
  -- The key that was sold is gone for good: new carts get later ones.
  · intro k hk'
    rw [hkeys] at hk'
    rw [hnext]
    rcases List.mem_cons.mp hk' with rfl | hk'
    · exact ⟨(hr hold h.stage).1, fun row hrow => (hmem row hrow).2⟩
    · exact ⟨(hb.gone k hk').1, fun row hrow => (hb.gone k hk').2 row (hmem row hrow).1⟩
  -- It was not sold before, which is what an overtaken attempt would have missed.
  · rw [hkeys]
    exact List.nodup_cons.mpr ⟨h.fresh hb hc, hb.once⟩
  · intro sale hsale
    rw [h.sales] at hsale
    rw [horders]
    rcases List.mem_cons.mp hsale with rfl | hsale
    · refine ⟨order, Table.mem_insert.mpr (.inr hmk.symm), rfl, ?_⟩
      rw [h.sold.performance]
      exact Option.some_ne_none _
    · obtain ⟨o, ho, hrest⟩ := hb.sold sale hsale
      exact ⟨o, Table.mem_insert.mpr (.inl ho), hrest⟩
  · intro o ho hperf
    rw [horders] at ho
    rw [h.sold.tickets]
    rcases Table.mem_insert.mp ho with ho | rfl
    -- The new order has the tickets of its cart, and the cart had seats.
    · obtain ⟨t, ht, hto⟩ := hb.ticketed o ho hperf
      exact ⟨t, Table.mem_insertMany_of_mem ht, hto⟩
    · obtain ⟨seat, hseat⟩ := List.exists_mem_of_ne_nil _ (h.soldSeats_ne hb hr hc)
      obtain ⟨i, -, ht⟩ := Table.exists_mem_insertMany (t := s.state.db.tickets)
        (newTicket hold order) (fun _ _ => rfl) hseat
      exact ⟨_, ht, by rw [hmk]; rfl⟩

end Sells

/-- The hold a request reads is a stored one. -/
theorem read_stored {enableTest : Bool} {s : State} {r : Route} {hold : Hold}
    (h : r.read enableTest s = .holding hold ∨ r.readHold s = .holding hold) :
    hold ∈ s.db.holds.rows := by
  rcases h with h | h
  -- Each route looks its hold up in the table, and most branches find none.
  · unfold Route.read at h
    cases r with
    | checkout organization sessionKey holdId provider buyerEmail buyerName paymentRef optIn =>
      dsimp only at h
      split at h
      · split at h
        · rename_i hf
          cases h
          exact (findActiveHold_some hf).1
        · cases h
      · cases h
    | redeem organization sessionKey holdId guest passPurchase =>
      dsimp only at h
      split at h
      · rename_i hf _
        cases h
        exact (findActiveHold_some hf).1
      · cases h
    | webhook organization session =>
      dsimp only at h
      split at h
      · cases h
      · cases h
  · unfold Route.readHold at h
    cases r with
    | checkout => cases h
    | redeem => cases h
    | webhook organization session =>
      dsimp only at h
      split at h
      · rename_i ht
        cases h
        exact (readTarget_hold ht).1
      · cases h

/-- What an attempt has read, it has read from the table. -/
theorem attempt_reads {enableTest : Bool} {s : Till} {a : Attempt} (hr : a.Reads s) :
    (attempt enableTest s a).2.Reads (attempt enableTest s a).1 := by
  have hstored : ∀ hold : Hold, hold ∈ s.state.db.holds.rows →
      hold.id < s.state.db.holds.nextId ∧
        ∀ row ∈ s.state.db.holds.rows, row.id = hold.id → Hold.SameCart hold row := by
    intro hold hmem
    refine ⟨s.state.db.holds.fresh hold hmem, fun row hrow hid => ?_⟩
    rw [Table.eq_of_key_eq hrow hmem hid]
    exact .refl hold
  unfold attempt
  cases hstage : a.stage with
  | requested => exact fun hold h => hstored hold (read_stored (.inl h))
  | checked => exact fun hold h => hstored hold ((@read_stored enableTest) (.inr h))
  | answered order => exact hr
  | holding hold =>
    dsimp only
    split
    · exact fun _ h => by cases h
    · exact fun _ h => by cases h

/-! ### At most once -/

/-- The rest of the box office keeps the books of the till. -/
theorem TillBooks.env {enableTest : Bool} {s : Till} {op : Op} (hb : TillBooks s)
    (hop : (checkouts enableTest).admits s op) : TillBooks ((checkouts enableTest).env op s) := by
  have hkept := (exec_effect hop.1).holdsKept
  have hplain := exec_noHoldSold s.state hop.2
  refine ⟨(exec_booked op s.state).linked hb.linked, fun row hrow => ?_, fun k hk => ?_, hb.once,
    fun sale hsale => ?_, fun o' ho' hperf => ?_⟩
  · rcases hkept.rows row hrow with ⟨k, hk, hsame, hseats⟩ | ⟨-, hnew⟩
    · rcases hb.stocked k hk with hga | hne
      · exact .inl (hsame.isGa.trans hga)
      · exact .inr (by rw [hseats]; exact hne)
    · exact hnew
  · obtain ⟨hlt, hgone⟩ := hb.gone k hk
    refine ⟨lt_of_lt_of_le hlt hkept.next, fun row hrow hid => ?_⟩
    rcases hkept.rows row hrow with ⟨old, hold, hsame, -⟩ | ⟨hnew, -⟩
    · exact hgone old hold (hsame.1.symm.trans hid)
    · omega
  · obtain ⟨o, ho, hid, hperf⟩ := hb.sold sale hsale
    obtain ⟨o', ho', hid', hperf'⟩ := hplain.kept o ho
    exact ⟨o', ho', hid'.trans hid, by rw [hperf']; exact hperf⟩
  · rcases hplain.orders o' ho' with ⟨o, ho, hid, hp⟩ | hnone
    · obtain ⟨t, ht, hto⟩ := hb.ticketed o ho (by rw [← hp]; exact hperf)
      obtain ⟨t', ht', hto'⟩ := hplain.tickets t ht
      exact ⟨t', ht', hto'.trans (hto.trans hid.symm)⟩
    · exact absurd hnone hperf

/-- **Interference freedom**, as long as no overtaken attempt is let through. -/
theorem checkouts_interference (enableTest : Bool) :
    Interference (checkouts enableTest) (fun s a => ¬Overtaken s a) TillBooks
      fun s a => a.Reads s where
  start := fun s a _ ha hold hstage => by rw [ha] at hstage; cases hstage
  step := fun s a hb hr hc => by
    refine ⟨?_, attempt_reads hr⟩
    rcases attempt_cases enableTest s a with h | ⟨hold, order, h⟩
    · show TillBooks (attempt enableTest s a).1
      rw [h]
      exact hb
    · exact h.tillBooks hb hr hc
  stable := fun s a k hb hr hc hk => by
    rcases attempt_cases enableTest s a with h | ⟨hold, order, h⟩
    · show k.Reads (attempt enableTest s a).1
      rw [h]
      exact hk
    · exact hk.mono h.holdsKept
  env := fun _ _ hb hop => hb.env hop
  envStable := fun s op a _ hop hr => by
    have hkept : HoldsKept s.state.db (exec op s.state).db := (exec_effect hop.1).holdsKept
    exact hr.mono hkept

/-- At the start nothing was sold. -/
theorem checkouts_init (enableTest : Bool) (s : Till) (h : (checkouts enableTest).init s) :
    TillBooks s := by
  obtain ⟨hf, hnil⟩ := h
  have hkeys : soldKeys s = [] := by unfold soldKeys; rw [hnil]; rfl
  exact ⟨hf.linked, fun row hrow => by (rw [hf.holds] at hrow; cases hrow),
    fun k hk => by (rw [hkeys] at hk; cases hk), by (rw [hkeys]; exact .nil),
    fun sale hsale => by (rw [hnil] at hsale; cases hsale),
    fun o ho => by (rw [hf.orders] at ho; cases ho)⟩

/-- No hold was converted twice, and no order was left without tickets. -/
structure SoldOnce (s : Till) : Prop where
  once : (soldKeys s).Nodup
  /-- Every sale has its order, with tickets. -/
  sale : ∀ sale ∈ s.sales, ∃ o ∈ s.state.db.orders.rows, o.id = sale.2 ∧
    ∃ t ∈ s.state.db.tickets.rows, t.order = o.id
  /-- No order for a performance is without tickets. -/
  ticketed : ∀ o ∈ s.state.db.orders.rows, o.performance ≠ none →
    ∃ t ∈ s.state.db.tickets.rows, t.order = o.id

/-- **At most once.** In every interleaving in which no overtaken attempt is let through, a cart
    is converted at most once, every order it is converted into has tickets, and the next step
    of an attempt that is not overtaken changes nothing or sells a hold not sold before. -/
theorem converted_once {enableTest : Bool} {c : Config Till Attempt}
    (h : Reachable ((checkouts enableTest).systemWhen fun s a => ¬Overtaken s a) c) :
    SoldOnce c.shared ∧ ∀ a ∈ c.procs, ¬Overtaken c.shared a →
      (attempt enableTest c.shared a).1 = c.shared ∨
        ∃ hold order, Sells c.shared (attempt enableTest c.shared a).1 a hold order ∧
          hold.id ∉ soldKeys c.shared := by
  obtain ⟨hb, hr⟩ := (checkouts_interference enableTest).reachable (checkouts_init enableTest) h
  refine ⟨⟨hb.once, fun sale hsale => ?_, hb.ticketed⟩, fun a ha hc => ?_⟩
  · obtain ⟨o, ho, hid, hperf⟩ := hb.sold sale hsale
    exact ⟨o, ho, hid, hb.ticketed o ho hperf⟩
  · rcases attempt_cases enableTest c.shared a with hsame | ⟨hold, order, hsells⟩
    · exact .inl hsame
    · exact .inr ⟨hold, order, hsells, hsells.fresh hb hc⟩

/-! ### Submitted once, and twice -/

/-- A test checkout of the cart of a session, the first hold of the sample theater. -/
def testCheckout (sessionKey : String) : Attempt :=
  ⟨.checkout 1 sessionKey 1 .test "ada@example.com" "Ada" "test-1" false, .requested⟩

/-- The sample theater without requests. -/
def openTill : Config Till Attempt := ⟨⟨sampleState, []⟩, []⟩

/-- The till is open at the start. -/
theorem openTill_reachable {C : Till → Attempt → Prop} :
    Reachable ((checkouts true).systemWhen C) openTill :=
  .of_init ⟨⟨sampleState_fresh, rfl⟩, rfl⟩

/-- The attempt is about to fulfil places that the allocation does not have any more. -/
def Attempt.late (s : Till) (a : Attempt) : Bool :=
  match a.stage with
  | .holding hold => hold.isGa && (allocationOf s.state.db hold.performance).any fun x =>
      x.capacity < x.sold + hold.gaQuantity
  | _ => false

/-- A late attempt does not get through. -/
theorem Attempt.not_accepts_of_late {s : Till} {a : Attempt} {hold : Hold} (h : a.late s = true)
    (hstage : a.stage = .holding hold) : ¬a.route.Accepts s.state hold := by
  intro haccepts
  have hroom : HasRoom s.state.db hold := by
    unfold Route.Accepts at haccepts
    split at haccepts
    · exact haccepts.2
    · exact haccepts.2.1
    · exact haccepts.2.1
  simp only [Attempt.late, hstage, Bool.and_eq_true, Option.any_eq_true, decide_eq_true_eq] at h
  obtain ⟨hga, x, hx, hfull⟩ := h
  obtain ⟨y, hy, hfits⟩ := hroom hga
  rw [Option.some.inj (hy.symm.trans hx)] at hfits
  omega

/-- The session `a` takes both places and submits the test checkout twice; both views have read the
    hold. -/
def placesRead : Config Till Attempt :=
  (checkouts true).perform [.env (.setGaHold 1 1 "a" 1 2), .spawn (testCheckout "a"),
    .spawn (testCheckout "a"), .act 0, .act 1] openTill

/-- The cart they have read. -/
def placesCart : Hold := ⟨1, 1, 1, "a", 600000000, some ⟨1, 2, some 2000⟩, [], none, "", none, none, none⟩

/-- The first of them has sold the places. -/
def placesSold : Config Till Attempt := (checkouts true).exec (.act 0) placesRead

/-- A test checkout that has read nothing cannot be overtaken. -/
theorem testCheckout_not_overtaken (s : Till) (sessionKey : String) :
    ¬Overtaken s (testCheckout sessionKey) := by
  rintro ⟨hold, hstage, -⟩
  cases hstage

/-- Both submissions have read the places, in time. -/
theorem placesRead_reachable :
    Reachable ((checkouts true).systemWhen fun s a => ¬Overtaken s a) placesRead := by
  have hcart := Processes.reachable_env (P := checkouts true) (C := fun s a => ¬Overtaken s a)
    (e := .setGaHold 1 1 "a" 1 2) openTill_reachable ⟨trivial, id⟩
  have hspawn := Processes.reachable_spawn (l := testCheckout "a")
    (Processes.reachable_spawn (l := testCheckout "a") hcart rfl) rfl
  refine Processes.reachable_act (Processes.reachable_act hspawn 0 fun a ha => ?_) 1 fun a ha => ?_
  · obtain rfl : testCheckout "a" = a := Option.some.inj ha
    exact testCheckout_not_overtaken _ _
  · obtain rfl : testCheckout "a" = a := Option.some.inj ha
    exact testCheckout_not_overtaken _ _

/-- The first submission sells the places, in time. -/
theorem placesSold_reachable :
    Reachable ((checkouts true).systemWhen fun s a => ¬Overtaken s a) placesSold := by
  refine Processes.reachable_act placesRead_reachable 0 ?_
  rintro a ha ⟨hold, hstage, hspent, -⟩
  obtain rfl : ⟨(testCheckout "a").route, .holding placesCart⟩ = a := Option.some.inj ha
  obtain rfl : placesCart = hold := Stage.holding.inj hstage
  have hnone : soldKeys placesRead.shared = [] := by decide
  rcases hspent with ⟨-, hk⟩ | ⟨hseats, -⟩
  · rw [hnone] at hk
    cases hk
  · cases hseats

/-- The places are sold once.  The second submission, which has read the same hold, changes
    nothing. -/
theorem converted_once_places :
    soldKeys placesSold.shared = [1] ∧ SoldOnce placesSold.shared ∧
      ∃ a, placesSold.procs[1]? = some a ∧ a.stage = .holding placesCart ∧
        (attempt true placesSold.shared a).1 = placesSold.shared := by
  obtain ⟨honce, hsteps⟩ := converted_once placesSold_reachable
  have hsecond : placesSold.procs[1]?
      = some ⟨(testCheckout "a").route, .holding placesCart⟩ := rfl
  have hlate : Attempt.late placesSold.shared ⟨(testCheckout "a").route, .holding placesCart⟩
      = true := by decide
  refine ⟨by decide, honce, _, hsecond, rfl, ?_⟩
  refine (hsteps _ (List.mem_of_getElem? hsecond) ?_).resolve_right ?_
  · rintro ⟨hold, hstage, -, haccepts⟩
    exact Attempt.not_accepts_of_late hlate hstage haccepts
  · rintro ⟨hold, order, hsells, -⟩
    exact Attempt.not_accepts_of_late hlate hsells.stage hsells.accepts

/-- The session `b` takes the seat and submits the test checkout twice; both views read the hold
    before the first of them fulfils it. -/
def seatTwice : Config Till Attempt :=
  [Move.env (.setReservedHold 1 1 "b" [1]), .spawn (testCheckout "b"), .spawn (testCheckout "b"),
    .act 0, .act 1, .act 0, .act 1].foldl (fun c m => (checkouts true).exec m c) openTill

/-- Two submissions for one seat can read it both. -/
theorem seatTwice_reachable : Reachable (checkouts true).system seatTwice := by
  have hact : ∀ {c : Config Till Attempt} (i : Nat), Reachable (checkouts true).system c →
      Reachable (checkouts true).system ((checkouts true).exec (.act i) c) :=
    fun i h => Processes.reachable_act h i fun _ _ => trivial
  have hcart := Processes.reachable_env (P := checkouts true) (C := fun _ _ => True)
    (e := .setReservedHold 1 1 "b" [1]) openTill_reachable ⟨trivial, id⟩
  have hspawn := Processes.reachable_spawn (l := testCheckout "b")
    (Processes.reachable_spawn (l := testCheckout "b") hcart rfl) rfl
  exact hact 1 (hact 0 (hact 1 (hact 0 hspawn)))

/-- The second submission makes a paid order without tickets. -/
theorem cart_converted_twice :
    ¬∀ c, Reachable (checkouts true).system c → SoldOnce c.shared := by
  intro hall
  obtain ⟨o, ho, hperf, hempty⟩ : ∃ o ∈ seatTwice.shared.state.db.orders.rows,
      o.performance ≠ none ∧ ∀ t ∈ seatTwice.shared.state.db.tickets.rows, t.order ≠ o.id := by
    decide
  obtain ⟨t, ht, hto⟩ := (hall seatTwice seatTwice_reachable).ticketed o ho hperf
  exact hempty t ht hto

end BoxOffice

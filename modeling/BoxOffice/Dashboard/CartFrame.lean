import BoxOffice.Dashboard.CartShape

namespace BoxOffice

open Relational Transition

/-!
# Dashboard — carts under staff operations

What the buyer sees of a cart is `cartView`.  Staff operations keep it, except for two:

* a chart save that regenerates a section deletes the held seats of it;
* deleting the price tier of a general-admission cart deletes the cart.

`SparesCart` is the condition that a staff operation is neither for a given cart, and
`cart_unchanged` says that under it every run of staff operations leaves the cart alone.
-/

/-- What a cart holds and costs. -/
structure CartView where
  seats : List Nat
  quantity : Nat
  total : Cents
  discount : Cents
  donation : Cents
  grandTotal : Cents
deriving Repr, DecidableEq

/-- The cart of a hold. -/
def cartView (db : Db) (h : Hold) : CartView where
  seats := (holdSeatsOf db h).map (·.seat)
  quantity := h.gaQuantity
  total := holdTotal db h
  discount := holdDiscount h
  donation := holdDonation h
  grandTotal := holdGrandTotal db h

/-- The operation neither deletes seats of the cart nor its price tier. -/
def SparesCart (trig : Trig) (hold : Nat) (db : Db) (op : StaffOp) : Prop :=
  ∀ h ∈ db.holds.rows, h.id = hold →
    (∀ section_ removed accessible, op = .saveSection section_ removed accessible →
      Regenerates trig db section_ removed accessible →
      ∀ hs ∈ h.holdSeats, hs.seat ∉ (seatsOf db section_.id).map (·.id)) ∧
    ∀ t, DeletesTier op db t → h.usesTier t = false

section Frame

variable {trig : Trig} {db db' : Db} {h k : Hold}

/-- The view of a stored, shaped cart is read off its row. -/
theorem cartView_row (hmem : h ∈ db.holds.rows) (hs : h.Shaped) :
    cartView db h =
      { seats := h.holdSeats.map (·.seat), quantity := h.gaQuantity, total := h.gross,
        discount := holdDiscount h, donation := holdDonation h,
        grandTotal := max (h.gross - holdDiscount h) 0 + holdDonation h } := by
  unfold cartView holdGrandTotal
  rw [holdSeatsOf_self hmem, holdTotal_eq_gross hmem hs]

/-- Nulling keys to a zone changes nothing that the buyer sees. -/
theorem cartView_dropZone {zone : Nat} (hmem : h ∈ db.holds.rows)
    (hmem' : h.dropZone zone ∈ db'.holds.rows)
    (hs : h.Shaped) : cartView db' (h.dropZone zone) = cartView db h := by
  have hseats : (h.dropZone zone).holdSeats.map (·.seat) = h.holdSeats.map (·.seat) := by
    unfold Hold.dropZone
    rw [List.map_map]
    rfl
  rw [cartView_row hmem' (hs.dropZone zone), cartView_row hmem hs, hseats, h.dropZone_gross]
  rfl

/-- The cart of that key is stored, with that view. -/
def Unchanged (hold : Nat) (view : CartView) (db : Db) : Prop :=
  CartsShaped db ∧ ∃ h ∈ db.holds.rows, h.id = hold ∧ cartView db h = view

/-- **One step.** A staff operation that spares the cart leaves it unchanged. -/
theorem unchanged_step {hold : Nat} {view : CartView} {op : StaffOp}
    (hu : Unchanged hold view db) (hspare : SparesCart trig hold db op) :
    Unchanged hold view (execStaff trig op db) := by
  obtain ⟨hshape, h, hmem, hid, hview⟩ := hu
  have hshape' := (@execStaff_cartsShaped trig) hshape op
  obtain ⟨hseats, htiers⟩ := hspare h hmem hid
  refine ⟨hshape', ?_⟩
  -- A row that is still stored as it was has the same view.
  have hkeep : h ∈ (execStaff trig op db).holds.rows →
      ∃ k ∈ (execStaff trig op db).holds.rows,
        k.id = hold ∧ cartView (execStaff trig op db) k = view := fun hmem' =>
    ⟨h, hmem', hid, by
      rw [cartView_row hmem' (hshape h hmem), ← hview, cartView_row hmem (hshape h hmem)]⟩
  rcases ((@execStaff_effect trig) hshape.gaSeatless op).1 with
    he | ⟨zone, he⟩ | ⟨section_, removed, accessible, hop, hreg, he⟩ | ⟨ts, hdel, he⟩
  · exact hkeep (by rw [he]; exact hmem)
  · have hmem' : h.dropZone zone ∈ (execStaff trig op db).holds.rows := by
      rw [he]
      exact Table.mem_update.mpr ⟨h, hmem, rfl⟩
    exact ⟨h.dropZone zone, hmem', hid, by
      rw [cartView_dropZone hmem hmem' (hshape h hmem), hview]⟩
  · refine hkeep ?_
    rw [he]
    refine Table.mem_update.mpr ⟨h, hmem, ?_⟩
    rw [if_pos rfl]
    exact Hold.dropSeats_eq_self (hseats section_ removed accessible hop hreg)
  · refine hkeep ?_
    rw [he]
    exact mem_deleteTierHolds.mpr ⟨hmem, fun t ht => htiers t (hdel t ht)⟩

/-- **Carts.** A cart of any reachable state is stored with the same seats, quantity and money
    after every run of staff operations each of which spares it. -/
theorem cart_unchanged {s : State} {ops : List StaffOp} (h : Reachable (theater trig) s)
    (hmem : k ∈ s.db.holds.rows)
    (hrun : Run ((staff trig).restrict (SparesCart trig k.id)) s.db ops db') :
    ∃ k' ∈ db'.holds.rows, k'.id = k.id ∧ cartView db' k' = cartView s.db k := by
  refine (hrun.invariant (I := Unchanged k.id (cartView s.db k))
    ⟨carts_shaped h, k, hmem, rfl, rfl⟩ ?_).2
  rintro u op v hu ⟨⟨-, rfl⟩, hspare⟩
  exact unchanged_step hu hspare

/-- Raising the price of the held seat is an operation that spares its cart. -/
theorem cart_unchanged_sample : ∃ k' ∈ (execStaff flatTrig (.editPriceTier 2 "Stalls" 9000 "USD")
    sampleCarts.db).holds.rows, (cartView (execStaff flatTrig
      (.editPriceTier 2 "Stalls" 9000 "USD") sampleCarts.db) k').total = 3000 := by
  obtain ⟨k, hk, htotal⟩ : ∃ k ∈ sampleCarts.db.holds.rows,
      (cartView sampleCarts.db k).total = 3000 := by decide
  obtain ⟨k', hk', -, hview⟩ := (@cart_unchanged flatTrig)
    (theater_of_boxOffice sampleCarts_reachable) hk
    (.single (i := .editPriceTier 2 "Stalls" 9000 "USD") ⟨⟨trivial, rfl⟩, fun _ _ _ =>
      ⟨fun _ _ _ hop => (nomatch hop), fun _ hdel => False.elim hdel⟩⟩)
  exact ⟨k', hk', by rw [hview, htotal]⟩

end Frame

/-! ### A chart save under a cart -/

/-- The section of the sample set-up with a second seat in its row. -/
def widenedSection : Section :=
  { id := 1, organization := 1, chart := 1, name := "Stalls", ordering := 0, tier := "",
    params := { sampleParams with seatsPerRow := 2 } }

/-- The staff widen the row while the session `b` holds its seat. -/
def widened : Db := execStaff flatTrig (.saveSection widenedSection [] []) sampleCarts.db

/-- After the save the cart of the session `b` is empty. -/
theorem widened_empty : ∀ k ∈ widened.holds.rows, k.id = 2 → (cartView widened k).seats = [] := by
  decide

/-- The condition on chart saves is needed: one that takes the seats away changes what a live cart
    shows. -/
theorem cart_emptied_by_chart_save :
    ¬∀ (trig : Trig) (s : State) (k : Hold) (ops : List StaffOp) (db' : Db),
      Reachable (theater trig) s → k ∈ s.db.holds.rows → k.Active s.now →
      Run (staff trig) s.db ops db' →
      ∃ k' ∈ db'.holds.rows, k'.id = k.id ∧ cartView db' k' = cartView s.db k := by
  intro hall
  obtain ⟨k, hk, hid, hact, hseats⟩ : ∃ k ∈ sampleCarts.db.holds.rows,
      k.id = 2 ∧ k.Active sampleCarts.now ∧ (cartView sampleCarts.db k).seats = [1] := by decide
  obtain ⟨k', hk', hid', hview⟩ := hall flatTrig sampleCarts k _ widened
    (theater_of_boxOffice sampleCarts_reachable) hk hact
    (.single (i := .saveSection widenedSection [] []) ⟨trivial, rfl⟩)
  have hempty := widened_empty k' hk' (hid'.trans hid)
  rw [hview, hseats] at hempty
  cases hempty

end BoxOffice

import BoxOffice.Dashboard.StaffEffect
import BoxOffice.Inventory.Effect

namespace BoxOffice

open Relational Transition

/-!
# Dashboard — the shape of a cart

In every reachable state of the theater a cart is either general-admission places at a frozen
price or seats at frozen prices (`carts_shaped`), so its money can be read off its own row:
`holdTotal_eq_gross` says that the live price of a tier never matters.
-/

namespace Hold

/-- A cart of places at a frozen price and no seats, or a cart of seats. -/
structure Shaped (h : Hold) : Prop where
  frozen : ∀ g ∈ h.ga, 0 < g.quantity ∧ g.gaUnitAmount ≠ none
  seatless : h.ga ≠ none → h.holdSeats = []

/-- The ticket subtotal by the frozen prices of the row. -/
def gross (h : Hold) : Cents :=
  match h.ga with
  | some g => g.gaUnitAmount.getD 0 * g.quantity
  | none => (h.holdSeats.map (·.unitAmount)).sum

/-- Edits of the promo and donation columns keep the shape. -/
theorem Shaped.of_sameCart {h k : Hold} (hk : k.Shaped) (hsame : SameCart h k)
    (hseats : h.holdSeats = k.holdSeats) : h.Shaped where
  frozen := fun g hg => hk.frozen g (by rw [← hsame.2.2.2.2.2]; exact hg)
  seatless := fun hg => by rw [hseats]; exact hk.seatless (by rw [← hsame.2.2.2.2.2]; exact hg)

/-- A hold of seats is shaped. -/
theorem Shaped.of_seats {h : Hold} (hga : h.ga = none) : h.Shaped where
  frozen := fun g hg => by rw [hga] at hg; simp at hg
  seatless := fun hg => absurd hga hg

end Hold

section Reading

variable {db : Db} {h : Hold}

/-- A stored hold reads its own seats. -/
theorem holdSeatsOf_self (hmem : h ∈ db.holds.rows) : holdSeatsOf db h = h.holdSeats := by
  unfold holdSeatsOf
  rw [Table.get?_eq_some (i := h.id).mpr ⟨hmem, rfl⟩]

/-- **Frozen prices.** The total of a stored hold is read off its row. -/
theorem holdTotal_eq_gross (hmem : h ∈ db.holds.rows) (hs : h.Shaped) :
    holdTotal db h = h.gross := by
  unfold holdTotal Hold.gross
  cases hga : h.ga with
  | none => dsimp only; rw [holdSeatsOf_self hmem]
  | some g =>
    obtain ⟨hq, hfrozen⟩ := hs.frozen g hga
    dsimp only
    rw [if_pos (by omega)]
    unfold gaUnitAmount
    cases hu : g.gaUnitAmount with
    | none => exact absurd hu hfrozen
    | some amount => rfl

end Reading

/-! ### The invariant -/

section Invariant

variable {trig : Trig} {db db' : Db} {now : Time}

/-- Every cart is shaped. -/
def CartsShaped (db : Db) : Prop := ∀ h ∈ db.holds.rows, h.Shaped

/-- Shaped carts hold no seat for general admission. -/
theorem CartsShaped.gaSeatless (hs : CartsShaped db) : GaSeatless db :=
  fun h hmem => (hs h hmem).seatless

/-- Deleting carts keeps the others shaped. -/
theorem CartsShaped.delete (hs : CartsShaped db) {p : Hold → Bool}
    (h : db'.holds = db.holds.delete p) : CartsShaped db' := by
  intro k hk
  rw [h] at hk
  exact hs k (Table.mem_delete.mp hk).1

/-- An update that keeps each cart shaped keeps them all so. -/
theorem CartsShaped.update (hs : CartsShaped db) {f : Hold → Hold} {hf}
    (hshape : ∀ k : Hold, k.Shaped → (f k).Shaped)
    (h : db'.holds = db.holds.update (fun _ => true) f hf) : CartsShaped db' := by
  intro k hk
  rw [h] at hk
  obtain ⟨x, hx, rfl⟩ := Table.mem_update.mp hk
  exact hshape x (hs x hx)

/-- The inventory effects of the shop keep the carts shaped. -/
theorem Effect.cartsShaped (he : Effect now db db') (hs : CartsShaped db) : CartsShaped db' := by
  cases he with
  | released p h => exact hs.delete (by rw [h])
  | replacedGa organization performance sessionKey priceTier allocation n _ _ _ hn _ h =>
    subst h
    intro k hk
    -- The new cart has a positive quantity, or a seat.
    rcases mem_replaceSessionHold.mp hk with hk | rfl
    · exact hs k (Table.mem_delete.mp hk).1
    · refine ⟨fun g hg => ?_, fun _ => rfl⟩
      rw [← Option.some.inj hg]
      exact ⟨hn, by simp⟩
  | replacedReserved organization performance sessionKey seats _ _ _ _ _ h =>
    subst h
    intro k hk
    rcases mem_replaceSessionHold.mp hk with hk | rfl
    · exact hs k (Table.mem_delete.mp hk).1
    · exact .of_seats rfl
  | edited id f hf hedit _ h =>
    subst h
    intro k hk
    obtain ⟨x, hx, rfl⟩ := mem_editHold.mp hk
    -- An edit keeps what the cart holds.
    split_ifs
    · exact (hs x hx).of_sameCart (hedit x).1 (hedit x).2
    · exact hs x hx
  | sold hold row order _ _ _ hsold => exact hs.delete hsold.holds
  | voided order _ _ _ hholds => intro k hk; rw [hholds] at hk; exact hs k hk
  | aside _ _ hholds => intro k hk; rw [hholds] at hk; exact hs k hk

/-- Dropping seats or keys to a zone keeps a hold shaped. -/
theorem Hold.Shaped.dropSeats {h : Hold} (hs : h.Shaped) (ids : List Nat) :
    (h.dropSeats ids).Shaped where
  frozen := hs.frozen
  seatless := fun hg => by unfold Hold.dropSeats; rw [hs.seatless hg]; rfl

/-- A cart stays shaped when a zone is taken from its seats. -/
theorem Hold.Shaped.dropZone {h : Hold} (hs : h.Shaped) (zone : Nat) :
    (h.dropZone zone).Shaped where
  frozen := hs.frozen
  seatless := fun hg => by unfold Hold.dropZone; rw [hs.seatless hg]; rfl

/-- A key to a zone does not price a seat. -/
theorem Hold.dropZone_gross (h : Hold) (zone : Nat) : (h.dropZone zone).gross = h.gross := by
  unfold Hold.gross Hold.dropZone
  dsimp only
  cases h.ga with
  | some g => rfl
  | none => dsimp only; rw [List.map_map]; rfl

/-- **The step.** Every operation of the staff keeps the carts shaped. -/
theorem execStaff_cartsShaped (hs : CartsShaped db) (op : StaffOp) :
    CartsShaped (execStaff trig op db) := by
  rcases ((@execStaff_effect trig) hs.gaSeatless op).1 with
    h | ⟨zone, h⟩ | ⟨section_, removed, accessible, -, -, h⟩ | ⟨ts, -, h⟩
  · intro k hk; rw [h] at hk; exact hs k hk
  · exact hs.update (fun k hk => hk.dropZone zone) h
  · exact hs.update (fun k hk => hk.dropSeats _) h
  · exact hs.delete h

/-- **Shape.** Every cart of a reachable state is shaped. -/
theorem carts_shaped {s : State} (h : Reachable (theater trig) s) : CartsShaped s.db := by
  refine h.invariant (I := fun s => CartsShaped s.db) (fun s hf k hk => ?_) ?_
  · rw [hf.holds] at hk; cases hk
  · rintro u (op | op) v hu ⟨ha, rfl⟩
    · exact (exec_effect ha).cartsShaped hu
    · exact execStaff_cartsShaped hu op

end Invariant

end BoxOffice

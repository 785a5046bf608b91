import BoxOffice.Dashboard.CartShape
import BoxOffice.Payments.Books

namespace BoxOffice

open Relational Transition

/-!
# Payments — the money of a cart over a run

A cart that has been put together while prices, zones and codes were edited is *priced*: it
sells something, its discount lies between zero and its frozen ticket subtotal, and its gift is
positive.

* `pricingDay` is the theater without saves of the chart editor, which can take seats out of a
  cart;
* `pricingDay_invariant` — in every reachable state carts are priced, and the books are linked.
-/

/-- A cart with something to sell, a discount inside its subtotal and a positive gift. -/
structure Hold.Priced (h : Hold) : Prop extends h.Shaped where
  seated : h.ga = none → h.holdSeats ≠ []
  discount : ∀ d ∈ h.discountAmount, 0 ≤ d ∧ d < h.gross
  donation : ∀ a ∈ h.donationAmount, 0 < a

/-- Every cart is priced. -/
def CartsPriced (db : Db) : Prop := ∀ h ∈ db.holds.rows, h.Priced

/-- The request is not a save of the chart editor. -/
def Request.keepsSeats : Request → Prop
  | .staff (.saveSection _ _ _) => False
  | _ => True

/-- The theater without saves of the chart editor. -/
def pricingDay (trig : Trig) : System State Request :=
  (theater trig).restrict fun _ r => r.keepsSeats

section Invariant

variable {trig : Trig} {db db' : Db} {now : Time}

/-- A cart in order about its money is shaped. -/
theorem CartsPriced.shaped (hp : CartsPriced db) : CartsShaped db :=
  fun h hmem => (hp h hmem).toShaped

/-- Deleting carts keeps the others priced. -/
theorem CartsPriced.delete (hp : CartsPriced db) {p : Hold → Bool}
    (h : db'.holds = db.holds.delete p) : CartsPriced db' := by
  intro k hk
  rw [h] at hk
  exact hp k (Table.mem_delete.mp hk).1

/-- A cart edit reads the subtotal off the row, so it keeps the cart priced. -/
theorem Hold.Priced.edit {h : Hold} {f : Hold → Hold} (hmem : h ∈ db.holds.rows)
    (hp : h.Priced) (hcart : CartEdit f) (hmoney : MoneyEdit db h (f h)) : (f h).Priced := by
  obtain ⟨hsame, hseats⟩ := hcart h
  have hgross : (f h).gross = h.gross := by
    unfold Hold.gross
    rw [hsame.2.2.2.2.2, hseats]
  refine { hp.toShaped.of_sameCart hsame hseats with seated := ?_, discount := ?_, donation := ?_ }
  · intro hga
    rw [hseats]
    exact hp.seated (by rw [← hsame.2.2.2.2.2]; exact hga)
  · intro d hd
    rw [hgross]
    rcases hmoney.discount d hd with hkeep | hset
    · exact hp.discount d hkeep
    · rwa [holdTotal_eq_gross hmem hp.toShaped] at hset
  · intro a ha
    rcases hmoney.donation a ha with hkeep | hset
    · exact hp.donation a hkeep
    · exact hset

/-- The effects of the shop keep the carts priced. -/
theorem Effect.cartsPriced (he : Effect now db db') (hp : CartsPriced db) : CartsPriced db' := by
  have hshape := he.cartsShaped hp.shaped
  cases he with
  | released p h => exact hp.delete (by rw [h])
  | replacedGa organization performance sessionKey priceTier allocation n _ _ _ hn _ h =>
    subst h
    -- The carts kept are priced as they were; the new one has frozen the price of its tier.
    intro k hk
    refine { hshape k hk with seated := ?_, discount := ?_, donation := ?_ } <;>
      rcases mem_replaceSessionHold.mp hk with hk | rfl
    · exact (hp k (Table.mem_delete.mp hk).1).seated
    · intro hga; cases hga
    · exact (hp k (Table.mem_delete.mp hk).1).discount
    · intro d hd; cases hd
    · exact (hp k (Table.mem_delete.mp hk).1).donation
    · intro a ha; cases ha
  | replacedReserved organization performance sessionKey seats _ _ _ hne _ h =>
    subst h
    intro k hk
    refine { hshape k hk with seated := ?_, discount := ?_, donation := ?_ } <;>
      rcases mem_replaceSessionHold.mp hk with hk | rfl
    · exact (hp k (Table.mem_delete.mp hk).1).seated
    · exact fun _ => by simpa [newReservedHold] using hne
    · exact (hp k (Table.mem_delete.mp hk).1).discount
    · intro d hd; cases hd
    · exact (hp k (Table.mem_delete.mp hk).1).donation
    · intro a ha; cases ha
  | edited id f hf hcart hmoney h =>
    subst h
    intro k hk
    obtain ⟨x, hx, rfl⟩ := mem_editHold.mp hk
    -- The cart that was edited, and the others.
    split_ifs with hid
    · exact (hp x hx).edit hx hcart (hmoney x hx hid)
    · exact hp x hx
  | sold hold row order _ _ _ hsold => exact hp.delete hsold.holds
  | voided order _ _ _ hholds => intro k hk; rw [hholds] at hk; exact hp k hk
  | aside _ _ hholds => intro k hk; rw [hholds] at hk; exact hp k hk

/-- A cart stays priced when a zone is taken from its seats. -/
theorem Hold.Priced.dropZone {h : Hold} (hp : h.Priced) (zone : Nat) :
    (h.dropZone zone).Priced where
  toShaped := hp.toShaped.dropZone zone
  seated := fun hga => by
    have := hp.seated hga
    simpa [Hold.dropZone] using this
  discount := by rw [h.dropZone_gross]; exact hp.discount
  donation := hp.donation

/-- Every staff operation but a chart save keeps the carts priced. -/
theorem execStaff_cartsPriced (hp : CartsPriced db) {op : StaffOp}
    (hop : (Request.staff op).keepsSeats) : CartsPriced (execStaff trig op db) := by
  rcases ((@execStaff_effect trig) hp.shaped.gaSeatless op).1 with
    h | ⟨zone, h⟩ | ⟨section_, removed, accessible, rfl, -, -⟩ | ⟨ts, -, h⟩
  · intro k hk; rw [h] at hk; exact hp k hk
  · intro k hk
    rw [h] at hk
    obtain ⟨x, hx, rfl⟩ := Table.mem_update.mp hk
    exact (hp x hx).dropZone zone
  · exact hop.elim
  · exact hp.delete h

/-- **Priced carts and linked books** of every reachable state. -/
theorem pricingDay_invariant {s : State} (h : Reachable (pricingDay trig) s) :
    CartsPriced s.db ∧ Linked s.db := by
  refine h.invariant (I := fun s => CartsPriced s.db ∧ Linked s.db)
    (fun s hf => ⟨fun k hk => ?_, hf.linked⟩) ?_
  · rw [hf.holds] at hk; cases hk
  · rintro u r v ⟨hu, hl⟩ ⟨⟨ha, rfl⟩, hkeep⟩
    refine ⟨?_, execRequest_linked hu.shaped.gaSeatless r hl⟩
    cases r with
    | shop op => exact (exec_effect ha).cartsPriced hu
    | staff op => exact execStaff_cartsPriced hu hkeep

end Invariant

end BoxOffice

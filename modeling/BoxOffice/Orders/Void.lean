import BoxOffice.Orders.Holds

namespace BoxOffice

open Relational

/-!
# Orders — voiding

`voidOrder` is `void_order`: it voids every live ticket of an order and gives the
general-admission part of its inventory back to the allocation counter.
-/

namespace Ticket

/-- A ticket that occupies inventory. -/
def Live (t : Ticket) : Prop := t.status ≠ .void

instance (t : Ticket) : Decidable t.Live := inferInstanceAs (Decidable (t.status ≠ .void))

end Ticket

/-- The live tickets of an order. -/
def liveTicketsOf (db : Db) (order : Nat) : List Ticket :=
  db.tickets.rows.filter fun t => t.order == order && decide t.Live

/-- Give `n` seats back to the allocation of a performance, floored at zero. -/
def returnToAllocation (db : Db) (performance n : Nat) : Table GAAllocation :=
  match allocationOf db performance with
  | none => db.gaAllocations
  | some allocation =>
    db.gaAllocations.update (fun a => a.id == allocation.id)
      (fun a => { a with sold := allocation.sold - n })

/-- How many general-admission tickets of the order are live. -/
def gaCount (db : Db) (order : Nat) : Nat :=
  ((liveTicketsOf db order).filter fun t => t.seat == none).length

/-- `void_order`: the next database and the number of tickets newly voided. -/
def voidOrder (db : Db) (order : Order) : Db × Nat :=
  let tickets := liveTicketsOf db order.id
  if tickets = [] then (db, 0)
  else
    let voided := db.tickets.update (fun t => (tickets.map (·.id)).contains t.id)
      (fun t => { t with status := .void })
    match order.performance with
    | some performance =>
      if gaCount db order.id ≠ 0 then
        ({ db with
            tickets := voided
            gaAllocations := returnToAllocation db performance (gaCount db order.id) },
          tickets.length)
      else ({ db with tickets := voided }, tickets.length)
    | none => ({ db with tickets := voided }, tickets.length)

/-! ### What it writes -/

/-- The tickets after a void: those of the order are all void, the others are as they were. -/
def voidedTickets (tickets : Table Ticket) (order : Nat) : Table Ticket :=
  tickets.update (fun t => t.order == order) (fun t => { t with status := .void })

/-- The allocations after a void. -/
def voidedAllocations (db : Db) (order : Order) : Table GAAllocation :=
  match order.performance with
  | some performance =>
    if gaCount db order.id ≠ 0 then returnToAllocation db performance (gaCount db order.id)
    else db.gaAllocations
  | none => db.gaAllocations

/-- The live tickets of an order. -/
theorem mem_liveTicketsOf {db : Db} {order : Nat} {t : Ticket} :
    t ∈ liveTicketsOf db order ↔ t ∈ db.tickets.rows ∧ t.order = order ∧ t.Live := by
  simp [liveTicketsOf]

/-- Voiding by the keys of the live tickets is voiding by order. -/
theorem update_liveTicketsOf (db : Db) (order : Nat) :
    (db.tickets.update (fun t => ((liveTicketsOf db order).map (·.id)).contains t.id)
      (fun t => { t with status := .void })) = voidedTickets db.tickets order := by
  refine Table.update_congr fun t ht => ?_
  have hkey : ((liveTicketsOf db order).map (·.id)).contains t.id = true ↔
      t.order = order ∧ t.Live := by
    rw [List.contains_iff_mem, List.mem_map]
    constructor
    · rintro ⟨u, hu, hid⟩
      obtain ⟨hmem, horder, hlive⟩ := mem_liveTicketsOf.mp hu
      rw [← Table.eq_of_key_eq hmem ht hid]
      exact ⟨horder, hlive⟩
    · rintro ⟨horder, hlive⟩
      exact ⟨t, mem_liveTicketsOf.mpr ⟨ht, horder, hlive⟩, rfl⟩
  by_cases horder : t.order = order
  · by_cases hlive : t.Live
    · rw [if_pos (hkey.mpr ⟨horder, hlive⟩), if_pos (by simp [horder])]
    · -- A ticket that is already void is left out of the update, to no effect.
      have hvoid : t.status = .void := not_not.mp hlive
      rw [if_neg (fun h => hlive (hkey.mp h).2), if_pos (by simp [horder]), ← hvoid]
  · rw [if_neg (fun h => horder (hkey.mp h).1), if_neg (by simp [horder])]

/-- **`void_order`.** The tickets of the order are void afterwards and its live
    general-admission tickets are returned to the allocation; nothing else changes. -/
theorem voidOrder_fst (db : Db) (order : Order) :
    (voidOrder db order).1 =
      { db with
          tickets := voidedTickets db.tickets order.id
          gaAllocations := voidedAllocations db order } := by
  unfold voidOrder voidedAllocations
  dsimp only
  rw [update_liveTicketsOf]
  by_cases hnil : liveTicketsOf db order.id = []
  · have hcount : gaCount db order.id = 0 := by simp [gaCount, hnil]
    have hsame : voidedTickets db.tickets order.id = db.tickets := by
      rw [← update_liveTicketsOf, hnil]
      exact Table.ext (by simp [Table.update]) rfl
    rw [if_pos hnil, hcount, hsame]
    cases order.performance <;> rfl
  · rw [if_neg hnil]
    cases order.performance with
    | none => rfl
    | some performance =>
      by_cases hcount : gaCount db order.id = 0
      · simp only [hcount, ne_eq, not_true_eq_false, if_false]
      · simp only [hcount, ne_eq, not_false_eq_true, if_true]

end BoxOffice

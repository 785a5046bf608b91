import BoxOffice.Dashboard.Undoing
import BoxOffice.Payments.Sales
import BoxOffice.Scanning.Redeem
import BoxOffice.Transition.Ownership

namespace BoxOffice

open Relational Transition

/-!
# Scanning — the door

* `door` interleaves scans with cancellations and refunds, statement by statement, and with every
  other operation of the box office;
* `TicketsKept` is all that anything but a scan does to the tickets: it voids some and issues new
  ones (`exec_tickets`, `undoStep_tickets`).
-/

/-! ### What happens to tickets -/

def Ticket.voided (t : Ticket) : Ticket := { t with status := .void }

/-- Every ticket stays, or is voided; a new one is valid and was never scanned. -/
structure TicketsKept (t t' : Table Ticket) : Prop where
  forward : ∀ r ∈ t.rows, r ∈ t'.rows ∨ r.voided ∈ t'.rows
  back : ∀ r' ∈ t'.rows, r' ∈ t.rows ∨ (∃ r ∈ t.rows, r' = r.voided) ∨
    (r'.status = .valid ∧ r'.usedAt = none)

namespace TicketsKept

/-- The tickets are kept while nothing happens. -/
theorem refl (t : Table Ticket) : TicketsKept t t := ⟨fun _ hr => .inl hr, fun _ hr => .inl hr⟩

/-- The tickets are kept while the table stays. -/
theorem of_eq {t t' : Table Ticket} (h : t' = t) : TicketsKept t t' := h ▸ refl t

/-- Voiding an order keeps the tickets. -/
theorem void (t : Table Ticket) (order : Nat) : TicketsKept t (voidedTickets t order) := by
  have hmem : ∀ r', r' ∈ (voidedTickets t order).rows ↔ ∃ r ∈ t.rows,
      (if r.order == order then r.voided else r) = r' :=
    fun r' => Table.mem_update (f := Ticket.voided) (k := fun _ => rfl)
  constructor
  · intro r hr
    by_cases horder : (r.order == order) = true
    · exact .inr ((hmem _).mpr ⟨r, hr, if_pos horder⟩)
    · exact .inl ((hmem _).mpr ⟨r, hr, if_neg horder⟩)
  · intro r' hr'
    obtain ⟨r, hr, rfl⟩ := (hmem r').mp hr'
    split_ifs
    · exact .inr (.inl ⟨r, hr, rfl⟩)
    · exact .inl hr

/-- Minting tickets keeps those there are. -/
theorem issue (t : Table Ticket) (hold : Hold) (order : Order) (seats : List (Option Nat)) :
    TicketsKept t (t.insertMany (newTicket hold order) seats) := by
  constructor
  · exact fun r hr => .inl (Table.mem_insertMany_of_mem hr)
  · intro r' hr'
    rcases Table.mem_insertMany hr' with hr | ⟨seat, -, i, -, rfl⟩
    · exact .inl hr
    · exact .inr (.inr ⟨rfl, rfl⟩)

end TicketsKept

/-- **The tickets over an operation** of the box office. -/
theorem exec_tickets (op : Op) (s : State) : TicketsKept s.db.tickets (exec op s).db.tickets := by
  cases exec_sale op s with
  | none h => exact .of_eq h.tickets
  -- A sale issues, voiding voids, and the rest leaves the tickets alone.
  | hold hold args order _ _ h =>
    rw [(fulfillHold_sold h).tickets]
    exact .issue _ hold order _
  | withPass hold passPurchase buyerEmail buyerName marketingOptIn order _ h =>
    rw [(fulfillHoldWithPass_sold h).tickets]
    exact .issue _ hold order _
  | donation organization amount campaign args order _ h =>
    obtain ⟨_, _, -, -, -, hdb⟩ := fulfillDonation_ok h
    rw [hdb]
    exact .refl _
  | passSale organization product args order _ h =>
    obtain ⟨_, _, -, -, -, -, hdb⟩ := fulfillPassPurchase_ok h
    rw [hdb]
    exact .refl _
  | void order _ _ h =>
    rw [h, voidOrder_fst]
    exact .void _ _
  | refund order gateway performed h =>
    obtain ⟨o, -, ⟨-, hdb, -⟩ | ⟨-, -, -, provider, refundRef, hdb⟩⟩ := refundOrder_ok h
    · rw [hdb]
      exact .refl _
    · rw [hdb, refundedDb_eq]
      exact .void _ _
  | cancel order _ _ h =>
    rw [h]
    unfold orderCancel
    split_ifs
    · exact .refl _
    · rw [undoOrder_eq]
      exact .void _ _

/-- **The tickets over a statement** of a cancellation or a refund. -/
theorem undoStep_tickets (order : Nat) (db : Db) (u : Undo) :
    TicketsKept db.tickets (undoStep order db u).1.tickets := by
  cases u with
  | cancel stage =>
    cases stage with
    | requested =>
      simp only [undoStep, cancelStep]
      split <;> exact .refl _
    -- The one statement of a cancellation that voids.
    | read o =>
      simp only [undoStep, cancelStep]
      split_ifs
      · exact .refl _
      · rw [voidOrder_fst]
        exact .void _ _
    | voided =>
      simp only [undoStep, cancelStep]
      split_ifs <;> exact .refl _
    | listed redemptions => exact .refl _
    | locked redemptions passes => exact .refl _
    | saving redemptions passes => cases passes <;> exact .refl _
    | done cancelled => exact .refl _
  | refund gateway result =>
    cases result with
    | some result => exact .refl _
    | none =>
      rcases hr : refundOrder db order gateway with e | ⟨db', performed⟩
      · simp only [undoStep, hr]
        exact .refl _
      · simp only [undoStep, hr]
        obtain ⟨o, -, ⟨-, rfl, -⟩ | ⟨-, -, -, provider, refundRef, rfl⟩⟩ := refundOrder_ok hr
        · exact .refl _
        · rw [refundedDb_eq]
          exact .void _ _

/-! ### Scans, cancellations and refunds -/

/-- One scan; `elapsed` is the time between its two readings of the clock. -/
structure Scan where
  organization : Nat
  token : String
  sig : String
  scannedBy : Nat
  elapsed : Nat
deriving Repr, DecidableEq

/-- What goes on at the door and at the box office. -/
inductive DoorTask
  | scan (request : Scan) (result : Option (Except ServiceError ScanResult))
  | undo (order : Nat) (request : Undo)

/-- What happens beside: an operation of the box office, or a change of anything but the
    tickets. -/
inductive DoorEvent
  | op (op : Op)
  | elsewhere (change : Db → Db)

/-- The next transaction or statement of a task. -/
def doorStep (scanner : Scanner) (s : State) : DoorTask → State × DoorTask
  | .scan request none =>
    match redeemTicket scanner s.db s.now (s.now + request.elapsed) request.organization
        request.token request.sig request.scannedBy with
    | .ok (db, result) => ({ s with db := db }, .scan request (some (.ok result)))
    | .error e => (s, .scan request (some (.error e)))
  | .scan request (some result) => (s, .scan request (some result))
  | .undo order u =>
    ({ s with db := (undoStep order s.db u).1 }, .undo order (undoStep order s.db u).2)

/-- A task that has not begun. -/
def DoorTask.Fresh : DoorTask → Prop
  | .scan _ result => result = none
  | .undo _ (.cancel stage) => stage = .requested
  | .undo _ (.refund _ result) => result = none

/-- Any number of scans, cancellations and refunds in any order, from before the first scan. -/
def door (scanner : Scanner) : Processes State DoorTask DoorEvent where
  init s := ∀ t ∈ s.db.tickets.rows, t.status ≠ .used ∧ t.usedAt = none
  start := DoorTask.Fresh
  step := doorStep scanner
  admits _ _ := True
  env
    | .op op, s => exec op s
    | .elsewhere change, s => { s with db := { change s.db with tickets := s.db.tickets } }

/-- The ticket that a scan has let in. -/
def DoorTask.admits : DoorTask → Option Nat
  | .scan _ (some (.ok result)) => result.admits
  | _ => none

/-- **The next transaction of a task.** It keeps the tickets and admits nobody else, or it lets a
    valid ticket in. -/
theorem doorStep_cases (scanner : Scanner) (s : State) (l : DoorTask) :
    (TicketsKept s.db.tickets (doorStep scanner s l).1.db.tickets ∧
        (doorStep scanner s l).2.admits = l.admits) ∨
      ∃ t ∈ s.db.tickets.rows, t.status = .valid ∧ l.admits = none ∧
        (doorStep scanner s l).2.admits = some t.id ∧
        ∃ usedAt scannedBy, (doorStep scanner s l).1.db = admitted s.db t.id usedAt scannedBy := by
  cases l with
  | undo order u => exact .inl ⟨undoStep_tickets order s.db u, rfl⟩
  | scan request result =>
    cases result with
    | some result => exact .inl ⟨.refl _, rfl⟩
    | none =>
      rcases hr : redeemTicket scanner s.db s.now (s.now + request.elapsed) request.organization
          request.token request.sig request.scannedBy with e | ⟨db, result⟩
      · simp only [doorStep, hr]
        exact .inl ⟨.refl _, rfl⟩
      · simp only [doorStep, hr]
        rcases redeemTicket_ok hr with ⟨rfl, hok⟩ | ⟨t, ht, -, -, hvalid, rfl, hok, hticket⟩
        · refine .inl ⟨.refl _, ?_⟩
          simp [DoorTask.admits, ScanResult.admits, hok]
        · refine .inr ⟨t, ht, hvalid, rfl, ?_, _, _, rfl⟩
          simp [DoorTask.admits, ScanResult.admits, hok, hticket, Ticket.useAt]

end BoxOffice

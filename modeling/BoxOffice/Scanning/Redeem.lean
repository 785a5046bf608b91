import BoxOffice.Events.Pricing
import BoxOffice.Orders.Tokens

namespace BoxOffice

open Relational

/-!
# Scanning — redeeming a ticket

* `redeemTicket` is `redeem_ticket`: the signature, then one transaction that looks the ticket up,
  refuses it or flips it to used;
* `redeemTicket_ok` says what a scan that returns has written: nothing, or the admission of a
  valid ticket.

How a time is printed and the e-mail of a staff account are parameters.
-/

/-- What a scan depends on besides the database. -/
structure Scanner extends Signing where
  /-- `in_venue_tz(…).strftime(…)`, by time and zone. -/
  localTime : Time → String → String
  userEmail : Nat → String

inductive ScanReason
  | ok | badSig | notFound | alreadyUsed | void | wrongTime
deriving Repr, DecidableEq

/-- `ScanResult`. -/
structure ScanResult where
  ok : Bool
  reason : ScanReason
  message : String
  ticket : Option Ticket
deriving Repr, DecidableEq

/-- One hour and four hours, in microseconds: `SCAN_WINDOW_OPENS_BEFORE` and
    `SCAN_WINDOW_CLOSES_AFTER`. -/
def scanWindowOpensBefore : Time := 3600000000

def scanWindowClosesAfter : Time := 14400000000

/-- The ticket of a code, joined to its performance and the venue of that. -/
def ticketForCode (db : Db) (organization : Nat) (token : String) :
    Option (Ticket × Performance × Venue) :=
  (orderedByPk (db.tickets.rows.filter fun t =>
    t.organization == organization && t.token == token)).findSome? fun t => do
      let performance ← db.performances.get? t.performance
      let venue ← db.venues.get? performance.venue
      return (t, performance, venue)

/-- `_wrong_time_result`. -/
def wrongTimeResult (scanner : Scanner) (now : Time) (ticket : Ticket) (performance : Performance)
    (venue : Venue) : Option ScanResult :=
  let when := scanner.localTime performance.startsAt venue.timezone
  -- `now < starts_at - SCAN_WINDOW_OPENS_BEFORE`, in natural numbers.
  if scanWindowOpensBefore + now < performance.startsAt then
    some ⟨false, .wrongTime,
      s!"Too early — this ticket is for {when}. Scanning opens an hour before the show.",
      some ticket⟩
  else if scanWindowClosesAfter + performance.startsAt < now then
    some ⟨false, .wrongTime,
      s!"Too late — this ticket was for {when}. The scan window has closed.", some ticket⟩
  else none

/-- `Already scanned … by …`. -/
def alreadyUsedMessage (scanner : Scanner) (ticket : Ticket) (venue : Venue) : String :=
  let who := (ticket.scannedBy.map scanner.userEmail).getD "unknown staff"
  let when := (ticket.usedAt.map fun at_ => scanner.localTime at_ venue.timezone).getD
    "an earlier scan"
  s!"Already scanned {when} by {who}."

/-- The columns an admission writes. -/
def Ticket.useAt (usedAt : Time) (scannedBy : Nat) (t : Ticket) : Ticket :=
  { t with status := .used, usedAt := some usedAt, scannedBy := some scannedBy }

/-- The database after the admission of a ticket. -/
def admitted (db : Db) (ticket : Nat) (usedAt : Time) (scannedBy : Nat) : Db :=
  { db with tickets := db.tickets.update (fun t => t.id == ticket) (Ticket.useAt usedAt scannedBy) }

/-- A valid ticket is refused at the wrong time, and let in otherwise. -/
def redeemValid (scanner : Scanner) (db : Db) (now usedAt : Time) (ticket : Ticket)
    (performance : Performance) (venue : Venue) (scannedBy : Nat) : Db × ScanResult :=
  match wrongTimeResult scanner now ticket performance venue with
  | some result => (db, result)
  | none =>
    (admitted db ticket.id usedAt scannedBy,
      ⟨true, .ok, "Valid ticket — admit.", some (ticket.useAt usedAt scannedBy)⟩)

/-- `redeem_ticket`.  The clock is read twice, for the window and for the stamp. -/
def redeemTicket (scanner : Scanner) (db : Db) (now usedAt : Time) (organization : Nat)
    (token sig : String) (scannedBy : Nat) : Result ScanResult :=
  match verifyTicketSig scanner.toSigning token sig organization with
  | .error e => .error e
  | .ok false => .ok (db, ⟨false, .badSig, "Invalid or missing signature.", none⟩)
  | .ok true =>
    match ticketForCode db organization token with
    | none => .ok (db, ⟨false, .notFound, "No ticket found for this code.", none⟩)
    | some (ticket, performance, venue) =>
      match ticket.status with
      | .void => .ok (db, ⟨false, .void, "This ticket has been voided.", some ticket⟩)
      | .used =>
        .ok (db, ⟨false, .alreadyUsed, alreadyUsedMessage scanner ticket venue, some ticket⟩)
      | .valid => .ok (redeemValid scanner db now usedAt ticket performance venue scannedBy)

/-- The ticket that a result lets in. -/
def ScanResult.admits (r : ScanResult) : Option Nat :=
  if r.ok then r.ticket.map (·.id) else none

/-! ### What a scan writes -/

section Spec

variable {scanner : Scanner} {db db' : Db} {now usedAt : Time} {organization scannedBy : Nat}
  {token sig : String} {result : ScanResult}

/-- The ticket found for a code is one of the organization with that token. -/
theorem ticketForCode_mem {ticket : Ticket} {performance : Performance} {venue : Venue}
    (h : ticketForCode db organization token = some (ticket, performance, venue)) :
    ticket ∈ db.tickets.rows ∧ ticket.organization = organization ∧ ticket.token = token := by
  -- The query joins the ticket to two more rows; the ticket itself is the one filtered.
  obtain ⟨t, ht, hjoin⟩ := List.exists_of_findSome?_eq_some h
  obtain ⟨p, -, hjoin⟩ := Option.bind_eq_some_iff.mp hjoin
  obtain ⟨v, -, hjoin⟩ := Option.bind_eq_some_iff.mp hjoin
  obtain ⟨rfl, -⟩ := Prod.mk.inj (Option.some.inj hjoin)
  obtain ⟨hmem, hcode⟩ := List.mem_filter.mp ((orderedByPk_perm _).mem_iff.mp ht)
  rw [Bool.and_eq_true, beq_iff_eq, beq_iff_eq] at hcode
  exact ⟨hmem, hcode.1, hcode.2⟩

/-- A wrong time admits nobody. -/
theorem wrongTimeResult_ok {ticket : Ticket} {performance : Performance} {venue : Venue}
    (h : wrongTimeResult scanner now ticket performance venue = some result) :
    result.ok = false := by
  unfold wrongTimeResult at h
  split at h
  · cases h; rfl
  · split at h
    · cases h; rfl
    · cases h

/-- A valid code is refused without effect, or admits its ticket. -/
theorem redeemValid_cases (scanner : Scanner) (db : Db) (now usedAt : Time) (ticket : Ticket)
    (performance : Performance) (venue : Venue) (scannedBy : Nat) :
    (∃ refusal, refusal.ok = false ∧
        redeemValid scanner db now usedAt ticket performance venue scannedBy = (db, refusal)) ∨
      redeemValid scanner db now usedAt ticket performance venue scannedBy
        = (admitted db ticket.id usedAt scannedBy,
            ⟨true, .ok, "Valid ticket — admit.", some (ticket.useAt usedAt scannedBy)⟩) := by
  unfold redeemValid
  split
  case h_1 refusal hwrong => exact .inl ⟨refusal, wrongTimeResult_ok hwrong, rfl⟩
  case h_2 => exact .inr rfl

/-- **A scan.** It refuses and writes nothing, or it admits a valid ticket of the scanner's
    organization. -/
theorem redeemTicket_ok
    (h : redeemTicket scanner db now usedAt organization token sig scannedBy = .ok (db', result)) :
    (db' = db ∧ result.ok = false) ∨
      ∃ ticket ∈ db.tickets.rows, ticket.organization = organization ∧ ticket.token = token ∧
        ticket.status = .valid ∧ db' = admitted db ticket.id usedAt scannedBy ∧
        result.ok = true ∧ result.ticket = some (ticket.useAt usedAt scannedBy) := by
  unfold redeemTicket at h
  split at h
  · cases h
  · cases h
    exact .inl ⟨rfl, rfl⟩
  · split at h
    · cases h
      exact .inl ⟨rfl, rfl⟩
    case h_2 ticket performance venue hcode =>
      obtain ⟨hmem, horganization, htoken⟩ := ticketForCode_mem hcode
      split at h
      · cases h
        exact .inl ⟨rfl, rfl⟩
      · cases h
        exact .inl ⟨rfl, rfl⟩
      case h_3 hvalid =>
        -- The one path that may write: a valid ticket, and the time of its performance.
        have hpair := Except.ok.inj h
        rcases redeemValid_cases scanner db now usedAt ticket performance venue scannedBy with
          ⟨refusal, hrefusal, hvalue⟩ | hvalue
        · obtain ⟨rfl, rfl⟩ := Prod.mk.inj (hvalue.symm.trans hpair)
          exact .inl ⟨rfl, hrefusal⟩
        · obtain ⟨rfl, rfl⟩ := Prod.mk.inj (hvalue.symm.trans hpair)
          exact .inr ⟨ticket, hmem, horganization, htoken, hvalid, rfl, rfl, rfl⟩

end Spec

end BoxOffice

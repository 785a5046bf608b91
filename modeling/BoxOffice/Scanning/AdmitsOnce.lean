import BoxOffice.Scanning.Door

namespace BoxOffice

open Relational Transition

/-!
# Scanning — a ticket admits once

* `door_ownership` — an admission is claimed like a piece of work: two scans never let the same
  ticket in, because only a ticket without a stamp is let in;
* `door_attendance` — every stamp is some scan's;
* `VoidTicket.step` — a void ticket stays void, and is not let in any more;
* `ticket_admits_once` puts them together over every run.
-/

/-- The ticket `i` carries the time of its admission. -/
def Stamped (s : State) (i : Nat) : Prop := ∃ t ∈ s.db.tickets.rows, t.id = i ∧ t.usedAt ≠ none

/-- The ticket `i` is void. -/
def VoidTicket (s : State) (i : Nat) : Prop := ∃ t ∈ s.db.tickets.rows, t.id = i ∧ t.status = .void

/-- A valid ticket was never scanned. -/
def Unscanned (s : State) : Prop := ∀ t ∈ s.db.tickets.rows, t.status = .valid → t.usedAt = none

section Steps

variable {s s' : State} {i : Nat} {t : Ticket}

/-! ### Where the tickets are kept -/

/-- A stamped ticket stays stamped while the tickets are kept. -/
theorem Stamped.kept (h : TicketsKept s.db.tickets s'.db.tickets) (hs : Stamped s i) :
    Stamped s' i := by
  obtain ⟨t, ht, rfl, hused⟩ := hs
  rcases h.forward t ht with ht' | ht'
  · exact ⟨t, ht', rfl, hused⟩
  · exact ⟨t.voided, ht', rfl, hused⟩

/-- Kept tickets get no stamp. -/
theorem Stamped.of_kept (h : TicketsKept s.db.tickets s'.db.tickets) (hs : Stamped s' i) :
    Stamped s i := by
  obtain ⟨t', ht', rfl, hused⟩ := hs
  -- A ticket afterwards was there as it is, was voided, or is new and unstamped.
  rcases h.back t' ht' with ht | ⟨t, ht, rfl⟩ | ⟨-, hnew⟩
  · exact ⟨t', ht, rfl, hused⟩
  · exact ⟨t, ht, rfl, hused⟩
  · exact absurd hnew hused

/-- Unscanned tickets stay so while the tickets are kept. -/
theorem Unscanned.kept (h : TicketsKept s.db.tickets s'.db.tickets) (hs : Unscanned s) :
    Unscanned s' := by
  intro t' ht' hvalid
  rcases h.back t' ht' with ht | ⟨t, ht, rfl⟩ | ⟨-, hnew⟩
  · exact hs t' ht hvalid
  · cases hvalid
  · exact hnew

/-- A void ticket stays void while the tickets are kept. -/
theorem VoidTicket.kept (h : TicketsKept s.db.tickets s'.db.tickets) (hs : VoidTicket s i) :
    VoidTicket s' i := by
  obtain ⟨t, ht, rfl, hvoid⟩ := hs
  rcases h.forward t ht with ht' | ht'
  · exact ⟨t, ht', rfl, hvoid⟩
  · exact ⟨t.voided, ht', rfl, rfl⟩

/-! ### Where a ticket is let in -/

/-- The tickets after one of them was admitted. -/
theorem mem_admitted {db : Db} {usedAt : Time} {scannedBy : Nat} {t' : Ticket} :
    t' ∈ (admitted db i usedAt scannedBy).tickets.rows ↔ ∃ t ∈ db.tickets.rows,
      (if t.id == i then t.useAt usedAt scannedBy else t) = t' :=
  Table.mem_update (f := Ticket.useAt usedAt scannedBy) (k := fun _ => rfl)

section Admitted

variable {usedAt : Time} {scannedBy : Nat}

/-- The admitted ticket is stamped. -/
theorem Stamped.admitted_self (ht : t ∈ s.db.tickets.rows)
    (h : s'.db = admitted s.db t.id usedAt scannedBy) : Stamped s' t.id := by
  refine ⟨t.useAt usedAt scannedBy, ?_, rfl, Option.some_ne_none _⟩
  rw [h]
  exact mem_admitted.mpr ⟨t, ht, if_pos (beq_self_eq_true _)⟩

/-- An admission leaves the other stamps. -/
theorem Stamped.admitted {j : Nat} (h : s'.db = admitted s.db j usedAt scannedBy)
    (hs : Stamped s i) : Stamped s' i := by
  obtain ⟨t, ht, rfl, hused⟩ := hs
  by_cases hid : t.id = j
  · subst hid
    exact .admitted_self ht h
  · refine ⟨t, ?_, rfl, hused⟩
    rw [h]
    exact mem_admitted.mpr ⟨t, ht, if_neg (by simpa using hid)⟩

/-- Only the admitted ticket is newly stamped. -/
theorem Stamped.of_admitted {j : Nat} (h : s'.db = BoxOffice.admitted s.db j usedAt scannedBy)
    (hs : Stamped s' i) : i = j ∨ Stamped s i := by
  obtain ⟨t', ht', rfl, hused⟩ := hs
  rw [h] at ht'
  obtain ⟨t, ht, rfl⟩ := mem_admitted.mp ht'
  by_cases hid : t.id = j
  · rw [if_pos (beq_iff_eq.mpr hid)]
    exact .inl hid
  · rw [if_neg (by simpa using hid)] at hused ⊢
    exact .inr ⟨t, ht, rfl, hused⟩

/-- An admission leaves the other tickets unscanned. -/
theorem Unscanned.admitted {j : Nat} (h : s'.db = BoxOffice.admitted s.db j usedAt scannedBy)
    (hs : Unscanned s) : Unscanned s' := by
  intro t' ht' hvalid
  rw [h] at ht'
  obtain ⟨t, ht, rfl⟩ := mem_admitted.mp ht'
  split_ifs at hvalid ⊢ with hid
  · cases hvalid
  · exact hs t ht hvalid

/-- Only a valid ticket is let in, so a void one stays void. -/
theorem VoidTicket.admitted (ht : t ∈ s.db.tickets.rows) (hvalid : t.status = .valid)
    (h : s'.db = BoxOffice.admitted s.db t.id usedAt scannedBy) (hs : VoidTicket s i) :
    i ≠ t.id ∧ VoidTicket s' i := by
  obtain ⟨v, hv, rfl, hvoid⟩ := hs
  have hne : v.id ≠ t.id := by
    intro hid
    -- The ticket that is let in is valid, so it is not the void one.
    rw [Table.eq_of_key_eq hv ht hid, hvalid] at hvoid
    cases hvoid
  refine ⟨hne, v, ?_, rfl, hvoid⟩
  rw [h]
  exact mem_admitted.mpr ⟨v, hv, if_neg (by simpa using hne)⟩

end Admitted

/-- What happens beside the tasks keeps the tickets. -/
theorem door_env_kept (scanner : Scanner) (e : DoorEvent) (s : State) :
    TicketsKept s.db.tickets ((door scanner).env e s).db.tickets := by
  cases e with
  | op op => exact exec_tickets op s
  | elsewhere change => exact .refl _

/-- A task that has not begun has let nobody in. -/
theorem DoorTask.Fresh.admits {l : DoorTask} (h : l.Fresh) : l.admits = none := by
  cases l with
  | scan request result => cases (show result = none from h); rfl
  | undo order u => rfl

/-- What a scan has let in is stamped. -/
def Admission (s : State) (l : DoorTask) : Prop := ∀ i, l.admits = some i → Stamped s i

/-! ### The rules -/

/-- **Ownership.** Nothing is let in that somebody has let in already. -/
theorem door_ownership (scanner : Scanner) :
    Ownership (door scanner) (fun _ _ => True) Unscanned Admission DoorTask.admits where
  start s l _ hl := by
    have hnone : l.admits = none := DoorTask.Fresh.admits hl
    exact ⟨fun i hi => absurd (hnone.symm.trans hi) (Option.some_ne_none i).symm, hnone⟩
  step s l hg ha _ := by
    rcases doorStep_cases scanner s l with ⟨hkept, hsame⟩ | ⟨t, ht, -, -, hnew, _, _, hdb⟩
    · refine ⟨hg.kept hkept, fun i hi => (ha i ?_).kept hkept⟩
      exact hsame ▸ hi
    · refine ⟨hg.admitted hdb, fun i hi => ?_⟩
      -- Letting in and stamping are one statement.
      obtain rfl : t.id = i := Option.some.inj (hnew.symm.trans hi)
      exact .admitted_self ht hdb
  stable s l k _ _ _ hk _ := by
    intro i hi
    rcases doorStep_cases scanner s l with ⟨hkept, -⟩ | ⟨t, -, -, -, -, _, _, hdb⟩
    · exact (hk i hi).kept hkept
    · exact (hk i hi).admitted hdb
  claim s l i hg _ _ hi := by
    rcases doorStep_cases scanner s l with ⟨-, hsame⟩ | ⟨t, ht, hvalid, -, hnew, -⟩
    · exact .inl (hsame ▸ hi)
    · right
      obtain rfl : t.id = i := Option.some.inj (hnew.symm.trans hi)
      -- A stamp would mean that the ticket is not valid.
      intro k hk hown
      obtain ⟨r, hr, hid, hused⟩ := hk t.id hown
      obtain rfl : r = t := Table.eq_of_key_eq hr ht hid
      exact hused (hg r hr hvalid)
  env s e hg _ := hg.kept (door_env_kept scanner e s)
  envStable s e l _ _ hl := fun i hi => (hl i hi).kept (door_env_kept scanner e s)

/-- **Attendance.** Every stamp is some scan's. -/
theorem door_attendance (scanner : Scanner) :
    Attendance (door scanner) (fun _ _ => True) Unscanned Admission Stamped
      fun l i => l.admits = some i where
  step s l i _ _ _ hneed := by
    by_cases hown : l.admits = some i
    · left
      rcases doorStep_cases scanner s l with ⟨-, hsame⟩ | ⟨t, -, -, hnone, -⟩
      · exact hsame.trans hown
      · rw [hown] at hnone
        cases hnone
    · rcases doorStep_cases scanner s l with ⟨hkept, -⟩ | ⟨t, -, -, -, hnew, _, _, hdb⟩
      · exact .inr ⟨hneed.of_kept hkept, hown⟩
      -- The new stamp is of the ticket this scan lets in; the others were there.
      · rcases hneed.of_admitted hdb with rfl | hold
        · exact .inl hnew
        · exact .inr ⟨hold, hown⟩
  env s e i _ _ hneed := hneed.of_kept (door_env_kept scanner e s)

end Steps

/-! ### Every schedule -/

section Runs

variable {scanner : Scanner} {c c' : Config State DoorTask} {a : Move DoorTask DoorEvent}

/-- At every moment an admission has stamped its own ticket, and every stamp is of an admission. -/
theorem door_reachable (h : Reachable (door scanner).system c) :
    Owned Unscanned Admission DoorTask.admits c ∧
      Attended Stamped (fun l i => l.admits = some i) c := by
  refine h.invariant (I := fun c => Owned Unscanned Admission DoorTask.admits c ∧
    Attended Stamped (fun l i => l.admits = some i) c) ?_ ?_
  · rintro d ⟨hinit, hprocs⟩
    have hfresh : ∀ t ∈ d.shared.db.tickets.rows, t.status ≠ .used ∧ t.usedAt = none := hinit
    refine ⟨⟨⟨fun t ht _ => (hfresh t ht).2, by simp [hprocs]⟩, by rw [hprocs]; exact .nil _⟩, ?_⟩
    rintro i ⟨t, ht, -, hused⟩
    exact absurd (hfresh t ht).2 hused
  · rintro d a d' ⟨hown, hall⟩ hs
    exact ⟨(door_ownership scanner).preserves hs hown,
      (door_attendance scanner).preserves hs hown.1 hall⟩

/-- Nobody has let the ticket `i` in that had not done so before `c`. -/
def NoMoreAdmitted (c : Config State DoorTask) (i : Nat) (d : Config State DoorTask) : Prop :=
  ∀ (j : Nat) (l : DoorTask), d.procs[j]? = some l → l.admits = some i →
    ∃ l₀, c.procs[j]? = some l₀ ∧ l₀.admits = some i

/-- **A void ticket**, step by step: it stays void, and nobody lets it in. -/
theorem VoidTicket.step {i : Nat} {d d' : Config State DoorTask}
    (hs : (door scanner).system.step d a d') (hvoid : VoidTicket d.shared i)
    (h : NoMoreAdmitted c i d) : VoidTicket d'.shared i ∧ NoMoreAdmitted c i d' := by
  rcases Processes.step_cases hs with ⟨l, hl, -, rfl⟩ | ⟨n, l, hn, -, -, rfl⟩ | ⟨e, -, -, rfl⟩
  · refine ⟨hvoid, fun j k hk hadmits => ?_⟩
    by_cases hj : j < d.procs.length
    · rw [List.getElem?_append_left hj] at hk
      exact h j k hk hadmits
    · rw [List.getElem?_append_right (Nat.le_of_not_lt hj)] at hk
      have hkl : k = l := by simpa using List.mem_of_getElem? hk
      rw [hkl, hl.admits] at hadmits
      cases hadmits
  · have hlt : n < d.procs.length := (List.getElem?_eq_some_iff.mp hn).1
    -- The task that moved lets the ticket in only if it had done so before.
    have hmoved : VoidTicket (doorStep scanner d.shared l).1 i ∧
        ((doorStep scanner d.shared l).2.admits = some i → l.admits = some i) := by
      rcases doorStep_cases scanner d.shared l with
        ⟨hkept, hsame⟩ | ⟨t, ht, hvalid, -, hnew, _, _, hdb⟩
      · exact ⟨hvoid.kept hkept, fun hi => hsame ▸ hi⟩
      · obtain ⟨hne, hvoid'⟩ := hvoid.admitted ht hvalid hdb
        exact ⟨hvoid', fun hi => absurd (Option.some.inj (hi.symm.trans hnew)) hne⟩
    refine ⟨hmoved.1, fun j k hk hadmits => ?_⟩
    by_cases hj : j = n
    · subst hj
      rw [List.getElem?_set_self hlt] at hk
      obtain rfl : (doorStep scanner d.shared l).2 = k := Option.some.inj hk
      exact h j l hn (hmoved.2 hadmits)
    · rw [List.getElem?_set_ne (Ne.symm hj)] at hk
      exact h j k hk hadmits
  · exact ⟨hvoid.kept (door_env_kept scanner e d.shared), h⟩

/-- A void ticket admits nobody any more, in any run. -/
theorem VoidTicket.run {i : Nat} {as : List (Move DoorTask DoorEvent)}
    (hr : Run (door scanner).system c as c') (hvoid : VoidTicket c.shared i) :
    VoidTicket c'.shared i ∧ NoMoreAdmitted c i c' :=
  hr.invariant (I := fun d => VoidTicket d.shared i ∧ NoMoreAdmitted c i d)
    ⟨hvoid, fun _ l hl hadmits => ⟨l, hl, hadmits⟩⟩ fun _ _ _ hu hs => hu.1.step hs hu.2

/-- A scan without an ok result leaves everything as it was. -/
theorem scan_refused {n : Nat} {request : Scan} {result : Except ServiceError ScanResult}
    (hn : c.procs[n]? = some (.scan request none))
    (hnext : ((door scanner).exec (.act n) c).procs[n]? = some (.scan request (some result)))
    (hrefused : ∀ r, result = .ok r → r.ok = false) :
    ((door scanner).exec (.act n) c).shared = c.shared := by
  have hlt : n < c.procs.length := (List.getElem?_eq_some_iff.mp hn).1
  rw [Processes.exec_act hn] at hnext ⊢
  rw [List.getElem?_set_self hlt] at hnext
  have htask : (doorStep scanner c.shared (.scan request none)).2 = .scan request (some result) :=
    Option.some.inj hnext
  show (doorStep scanner c.shared (.scan request none)).1 = c.shared
  rcases hr : redeemTicket scanner c.shared.db c.shared.now (c.shared.now + request.elapsed)
      request.organization request.token request.sig request.scannedBy with e | ⟨db, r⟩
  · simp only [doorStep, hr]
  · simp only [doorStep, hr] at htask ⊢
    cases htask
    -- A scan that writes is one that admits.
    rcases redeemTicket_ok hr with ⟨rfl, -⟩ | ⟨t, -, -, -, -, -, hok, -⟩
    · rfl
    · rw [hrefused r rfl] at hok
      cases hok

/-- **A ticket admits once.** In every interleaving of scans by anybody, cancellations, refunds
    and the rest of the box office:
    no two scans let the same ticket in; a ticket is stamped exactly when a scan let it in; a void
    ticket stays void and is not let in again; and a scan without an ok result changes nothing. -/
theorem ticket_admits_once (h : Reachable (door scanner).system c) :
    Exclusive DoorTask.admits c.procs ∧
    (∀ t ∈ c.shared.db.tickets.rows,
      t.usedAt ≠ none ↔ ∃ l ∈ c.procs, l.admits = some t.id) ∧
    (∀ as c', Run (door scanner).system c as c' → ∀ t ∈ c.shared.db.tickets.rows,
      t.status = .void → VoidTicket c'.shared t.id ∧ NoMoreAdmitted c t.id c') ∧
    ∀ (n : Nat) (request : Scan) (result : Except ServiceError ScanResult),
      c.procs[n]? = some (.scan request none) →
      ((door scanner).exec (.act n) c).procs[n]? = some (.scan request (some result)) →
      (∀ r, result = .ok r → r.ok = false) →
      ((door scanner).exec (.act n) c).shared = c.shared := by
  obtain ⟨⟨⟨-, hadmission⟩, hexclusive⟩, hattended⟩ := door_reachable h
  refine ⟨hexclusive, fun t ht => ⟨fun hused => hattended t.id ⟨t, ht, rfl, hused⟩, ?_⟩,
    fun as c' hr t ht hvoid => VoidTicket.run hr ⟨t, ht, rfl, hvoid⟩,
    fun n request result hn hnext hrefused => scan_refused hn hnext hrefused⟩
  rintro ⟨l, hl, hadmits⟩
  obtain ⟨r, hr, hid, hused⟩ := hadmission l hl t.id hadmits
  rwa [Table.eq_of_key_eq hr ht hid] at hused

end Runs

/-! ### A night at the door -/

/-- The digests of the only code of the sample, under the keys of two tenants. -/
def sampleDigest (key : String) : List UInt8 :=
  if key = "secret:ticket-qr:1" then
    [176, 216, 190, 235, 11, 254, 208, 69, 243, 99, 77, 144, 83, 2, 165, 212, 97, 121, 59, 25,
      224, 52, 82, 48, 120, 94, 201, 11, 69, 86, 201, 13]
  else
    [160, 3, 182, 18, 76, 148, 46, 45, 48, 106, 121, 169, 29, 106, 84, 66, 21, 64, 180, 106, 141,
      56, 170, 184, 4, 231, 254, 251, 46, 7, 47, 129]

def sampleScanner : Scanner where
  secretKey := "secret"
  hmacSha256 key _ := sampleDigest key
  localTime _ _ := "Jan 01, 1970 12:00 AM"
  userEmail _ := "usher@example.com"

/-- The sample theater has sold one place. -/
def placeSold : State :=
  { sampleState with
    db := { sampleDb with
      orders := Table.empty.insert fun i =>
        { id := i, organization := 1, performance := some 1, buyerEmail := "ada@example.com",
          buyerName := "Ada", guest := none, promoCodeText := "", discountAmount := 0,
          total := 2000, status := .paid, stripeCheckoutSessionId := none }
      tickets := Table.empty.insert fun i =>
        { id := i, organization := 1, order := 1, performance := 1, seat := none,
          holderName := "Ada", token := newToken i, status := .valid, usedAt := none,
          scannedBy := none } } }

/-- The code of the ticket, read by the scanner of an organization. -/
def scanAt (organization : Nat) : DoorTask :=
  .scan ⟨organization, "CAAAAAAAAA", "WDML52YL73IEL43DJWIA", 7, 3⟩ none

/-- Two ushers scan the ticket, another theater tries it, then the order is cancelled and the
    ticket scanned once more. -/
def doorNight : Config State DoorTask :=
  (door sampleScanner).perform
    [.spawn (scanAt 1), .spawn (scanAt 1), .spawn (scanAt 2), .act 2, .act 0, .act 1,
      .spawn (.undo 1 (.cancel .requested)), .act 3, .act 3, .spawn (scanAt 1), .act 4]
    ⟨placeSold, []⟩

/-- The reason a scan has returned. -/
def DoorTask.reason : DoorTask → Option ScanReason
  | .scan _ (some (.ok result)) => some result.reason
  | _ => none

/-- The sample night is reachable. -/
theorem doorNight_reachable : Reachable (door sampleScanner).system doorNight := by
  refine Processes.reachable_perform (.of_init ⟨?_, rfl⟩) ?_ fun _ _ _ => trivial
  · intro t ht
    rw [List.mem_singleton.mp ht]
    exact ⟨by simp, rfl⟩
  · intro l hl
    have htask : l = scanAt 1 ∨ l = scanAt 2 ∨ l = .undo 1 (.cancel .requested) := by
      simpa [or_assoc, or_left_comm, or_comm] using hl
    rcases htask with rfl | rfl | rfl <;> rfl

/-- A ticket is scanned twice, then voided, and once more. -/
theorem ticket_admits_once_night :
    doorNight.procs.map DoorTask.reason
      = [some .ok, some .alreadyUsed, some .badSig, none, some .void] ∧
    doorNight.shared.db.tickets.rows.map (fun t => (t.status, t.usedAt)) = [(.void, some 3)] ∧
    Exclusive DoorTask.admits doorNight.procs ∧
    ∀ t ∈ doorNight.shared.db.tickets.rows,
      t.usedAt ≠ none ↔ ∃ l ∈ doorNight.procs, l.admits = some t.id := by
  obtain ⟨hexclusive, hstamped, -, -⟩ := ticket_admits_once doorNight_reachable
  exact ⟨rfl, rfl, hexclusive, hstamped⟩

end BoxOffice

import BoxOffice.Dashboard.PerformanceForm
import BoxOffice.Inventory.Promised

namespace BoxOffice

open Relational Transition PerformanceForm

/-!
# Dashboard — edits of a performance and its buyers

Buyers select, pay and redeem while the staff edit performances (`house`).

* `KeepsPromises` — the edit keeps what is promised: places stay places and fit the new capacity,
  seats stay seats of the same chart;
* `safeEdit_iff` — an accepted submission is safe for the buyers if and only if it keeps what is
  promised and, where the database refuses its capacity, edits nothing else;
* `performance_edits` — so in every run of such edits every performance is backed.
-/

/-- A request of a buyer, or of the form of a performance. -/
inductive HouseEvent
  | holdCreate (organization pk : Nat) (sessionKey : String) (posted : Selection)
  | shop (op : Op)
  | performanceUpdate (organization pk : Nat) (posted : PerformancePost)

/-- Carry out an event. -/
def execHouse (columnMax : Nat) (e : HouseEvent) (s : State) : State :=
  match e with
  | .holdCreate organization pk sessionKey posted =>
    match holdCreate s.db organization pk sessionKey posted with
    | none => s
    | some op => exec op s
  | .shop op => exec op s
  | .performanceUpdate organization pk posted =>
    { s with db := (performanceUpdate columnMax s.db organization pk posted).1 }

/-- Holds are selected through `hold_create`. -/
def AdmissibleHouse (s : State) : HouseEvent → Prop
  | .shop op => op.selects = false ∧ Admissible s op
  | _ => True

/-- The buyers and the form, from a fresh set-up. -/
def house (columnMax : Nat) : System State HouseEvent :=
  .ofFun Fresh AdmissibleHouse (execHouse columnMax)

/-- The edit keeps what is promised of the performance. -/
structure KeepsPromises (s : State) (p : Performance) (c : CleanedPerformance) : Prop where
  places : 0 < promised s (p.id, none) → c.seatingMode = .ga ∧
    ∀ capacity ∈ c.gaCapacity, promised s (p.id, none) ≤ capacity
  seats : ∀ n, 0 < promised s (p.id, some n) → c.seatingMode = .reserved ∧
    getSeatingChart s.db (edited c p) = getSeatingChart s.db p

/-- The edit keeps what is promised, or edits nothing if the database refuses its capacity. -/
structure MeetsPromises (columnMax : Nat) (s : State) (organization : Nat) (p : Performance)
    (c : CleanedPerformance) : Prop where
  stored : Storable columnMax s.db organization p c → KeepsPromises s p c
  refused : ¬Storable columnMax s.db organization p c → edited c p = p

/-- Every edit that the form accepts meets the promises. -/
def EditsMeet (columnMax : Nat) (s : State) : HouseEvent → Prop
  | .performanceUpdate organization pk posted =>
    ∀ p c, findPerformance s.db organization pk = some p →
      clean s.db organization p posted = .ok c → MeetsPromises columnMax s organization p c
  | _ => True

/-- No counter of sold tickets is touched. -/
def SoldKept (db db' : Db) : Prop :=
  ∀ a ∈ db.gaAllocations.rows, ∃ a' ∈ db'.gaAllocations.rows,
    a'.id = a.id ∧ a'.performance = a.performance ∧ a'.sold = a.sold

/-- A save that succeeds leaves the sold counters and backs every buyer of the performance; one
    that fails changes nothing. -/
structure SafeEdit (s : State) (p : Performance) (c : CleanedPerformance)
    (r : Db × Option SaveError) : Prop where
  saved : r.2 = none → SoldKept s.db r.1 ∧ Backed ⟨r.1, s.now⟩ (edited c p)
  failed : r.2 ≠ none → r.1 = s.db

/-- What a run keeps: nothing is promised twice, and what is promised is there. -/
structure Housing (s : State) : Prop where
  consistent : Consistent s.db
  fits : s.ledger.Fits
  housed : ∀ r, 0 < promised s r → ∃ p ∈ s.db.performances.rows, p.id = r.1 ∧ Housed s.db p r.2

section Edits

variable {columnMax organization : Nat} {s : State} {db' : Db} {op : Op} {p : Performance}
  {c : CleanedPerformance} {r : Resource}

/-! ### Backed by the invariant -/

/-- A seat that is promised is housed by its performance. -/
theorem Housing.housed_of (h : Housing s) (hp : p ∈ s.db.performances.rows) {seat : Option Nat}
    (hpos : 0 < promised s (p.id, seat)) : Housed s.db p seat := by
  obtain ⟨q, hq, hid, hh⟩ := h.housed _ hpos
  obtain rfl : q = p := Table.eq_of_key_eq hq hp hid
  exact hh

/-- What is promised is no more than there is. -/
theorem Housing.promised_le (h : Housing s) (r : Resource) : promised s r ≤ capacityOf s.db r :=
  h.fits r

/-- What is promised of a performance is what its allocation has sold and what is held. -/
theorem promised_eq (hc : Consistent s.db) {a : GAAllocation}
    (ha : allocationOf s.db p.id = some a) :
    promised s (p.id, none) = a.sold + activeGaHeldQty s.db.holds s.now p.id none := by
  obtain ⟨hmem, hperf⟩ := allocationOf_some ha
  rw [activeGaHeldQty_none, hc.counted a hmem, hperf]
  rfl

/-- **Backed.** Every performance of the house is backed. -/
theorem Housing.backed (h : Housing s) (hp : p ∈ s.db.performances.rows) : Backed s p := by
  refine backed_iff.mpr fun seat hpos => ?_
  have hcap := hpos.trans_le (h.promised_le _)
  cases h.housed_of hp hpos with
  | seat hm hn => exact .seat hm hn
  | places hm =>
    cases ha : allocationOf s.db p.id with
    | none => rw [capacityOf_none ha] at hcap; exact absurd hcap (Nat.lt_irrefl 0)
    | some a =>
      refine .places hm ha ?_
      rw [← promised_eq h.consistent ha, ← capacityOf_some ha]
      exact h.promised_le _

/-- A fresh theater houses what it promised, which is nothing. -/
theorem Fresh.housing (h : Fresh s) : Housing s where
  consistent := h.consistent
  fits := h.fits
  housed r hpos := by
    have hzero : promised s r = 0 := by
      unfold promised liveTickets heldQty Table.total
      rw [h.tickets, h.holds]
      rfl
    omega

/-! ### Operations of the shop -/

/-- An operation that selects only what the performance sells keeps the house. -/
theorem Housing.exec (h : Housing s) (ha : Admissible s op)
    (hsel : ∀ r, Selects s op r → ∃ p ∈ s.db.performances.rows, p.id = r.1 ∧ Housed s.db p r.2) :
    Housing (exec op s) := by
  have hstep : boxOffice.step s op (BoxOffice.exec op s) := ⟨ha, rfl⟩
  obtain ⟨hc, as, hrun⟩ := step_refines h.consistent hstep
  refine ⟨hc, (Ledger.run_fits hrun h.fits).1, fun r hpos => ?_⟩
  have hthere : ∃ p ∈ s.db.performances.rows, p.id = r.1 ∧ Housed s.db p r.2 := by
    rcases promised_origin h.consistent ha hpos with hold | hnew
    · exact h.housed r hold
    · exact hsel r hnew
  obtain ⟨p, hp, hid, hh⟩ := hthere
  have heq := exec_house op s
  exact ⟨p, by rw [heq.performances]; exact hp, hid, heq.housed hh⟩

/-- An operation that selects nothing selects no resource. -/
theorem not_selects (h : op.selects = false) (hsel : Selects s op r) : False := by
  cases hsel <;> cases h

/-! ### The save -/

/-- What a save leaves as it was. -/
structure SavedFrame (db : Db) (c : CleanedPerformance) (p : Performance) (db' : Db) : Prop where
  performances : db'.performances
    = db.performances.update (·.id == p.id) (edited c) (edited_id c)
  seatingCharts : db'.seatingCharts = db.seatingCharts
  sections : db'.sections = db.sections
  seats : db'.seats = db.seats
  holds : db'.holds = db.holds
  orders : db'.orders = db.orders
  tickets : db'.tickets = db.tickets

/-- What a saved edit leaves alone. -/
theorem PerformanceForm.Saved.frame (h : Saved s.db organization p c db') :
    SavedFrame s.db c p db' := by
  cases h <;> exact ⟨rfl, rfl, rfl, rfl, rfl, rfl, rfl⟩

/-- An edit promises the same seats as before. -/
theorem SavedFrame.promised (h : SavedFrame s.db c p db') (r : Resource) :
    BoxOffice.promised ⟨db', s.now⟩ r = BoxOffice.promised s r := by
  unfold BoxOffice.promised liveTickets heldQty
  rw [h.tickets, h.holds]

/-- The chart of a performance is looked up as before. -/
theorem SavedFrame.getSeatingChart (h : SavedFrame s.db c p db') (q : Performance) :
    BoxOffice.getSeatingChart db' q = BoxOffice.getSeatingChart s.db q := by
  unfold BoxOffice.getSeatingChart
  rw [h.seatingCharts]

/-- A performance has the same seats as before. -/
theorem SavedFrame.mem_performanceSeats (h : SavedFrame s.db c p db') {q : Performance}
    {x : Seat} : x ∈ performanceSeats db' q ↔ x ∈ performanceSeats s.db q := by
  rw [BoxOffice.mem_performanceSeats, BoxOffice.mem_performanceSeats, h.getSeatingChart, h.seats]
  unfold seatChart
  rw [h.sections]

/-- A seat of the old chart is one of the edited performance if and only if that has the chart. -/
theorem seat_edited_iff {n : Nat} (hn : n ∈ (performanceSeats s.db p).map (·.id)) :
    n ∈ (performanceSeats s.db (edited c p)).map (·.id) ↔
      getSeatingChart s.db (edited c p) = getSeatingChart s.db p := by
  obtain ⟨x, hx, rfl⟩ := List.mem_map.mp hn
  obtain ⟨hmem, horg, hsome, hchart⟩ := BoxOffice.mem_performanceSeats.mp hx
  constructor
  · intro hin
    obtain ⟨y, hy, hid⟩ := List.mem_map.mp hin
    obtain ⟨hmem', -, -, hchart'⟩ := BoxOffice.mem_performanceSeats.mp hy
    obtain rfl : y = x := Table.eq_of_key_eq hmem' hmem hid
    exact hchart'.symm.trans hchart
  · intro heq
    exact List.mem_map.mpr
      ⟨x, BoxOffice.mem_performanceSeats.mpr ⟨hmem, horg, hsome, hchart.trans heq.symm⟩, rfl⟩

/-- The allocations of the other performances are theirs. -/
theorem PerformanceForm.Saved.allocationOf_other (h : Saved s.db organization p c db') {q : Nat}
    (hq : q ≠ p.id) : allocationOf db' q = allocationOf s.db q := by
  cases h with
  | reserved => rfl
  | @resized a capacity hmode hcap ha hsold =>
    obtain ⟨hmem, hperf⟩ := allocationOf_some ha
    rw [allocationOf_resized rfl]
    cases hb : allocationOf s.db q with
    | none => rfl
    | some b =>
      obtain ⟨hbm, hbq⟩ := allocationOf_some hb
      have hne : b.id ≠ a.id := by
        intro hid
        obtain rfl := Table.eq_of_key_eq hbm hmem hid
        exact hq (hbq.symm.trans hperf)
      simp [hne]
  | @allocated capacity hmode hcap hnone =>
    show List.find? _ (s.db.gaAllocations.rows ++ [_]) = _
    rw [List.find?_append, List.find?_cons_of_neg (by simpa using Ne.symm hq), List.find?_nil,
      Option.or_none]
    rfl

/-- A performance that sells places has the capacity of the form. -/
theorem PerformanceForm.Saved.allocationOf_own (h : Saved s.db organization p c db')
    (hmode : c.seatingMode = .ga) :
    ∃ a capacity, allocationOf db' p.id = some a ∧ c.gaCapacity = some capacity ∧
      a.capacity = capacity := by
  cases h with
  | reserved hres => rw [hres] at hmode; cases hmode
  | @resized a capacity hga hcap ha hsold =>
    refine ⟨setCapacity capacity a, capacity, ?_, hcap, rfl⟩
    rw [allocationOf_resized rfl, ha]
    simp
  | @allocated capacity hga hcap hnone =>
    refine ⟨⟨s.db.gaAllocations.nextId, organization, p.id, capacity, 0⟩, capacity, ?_, hcap, rfl⟩
    show List.find? _ (s.db.gaAllocations.rows ++ [_]) = _
    have hnone' : s.db.gaAllocations.rows.find? (·.performance == p.id) = none := hnone
    rw [List.find?_append, hnone', List.find?_cons_of_pos (by simp)]
    rfl

/-- A saved edit keeps what was sold. -/
theorem PerformanceForm.Saved.soldKept (h : Saved s.db organization p c db') :
    SoldKept s.db db' := by
  intro a ha
  cases h with
  | reserved => exact ⟨a, ha, rfl, rfl, rfl⟩
  | resized =>
    refine ⟨_, mem_resizedAllocations.mpr ⟨a, ha, rfl⟩, ?_⟩
    split_ifs <;> exact ⟨rfl, rfl, rfl⟩
  | allocated => exact ⟨a, mem_newAllocations.mpr (.inl ha), rfl, rfl, rfl⟩

/-- A save keeps what the tables say about each other. -/
theorem PerformanceForm.Saved.consistent (h : Saved s.db organization p c db') (hh : Housing s) :
    Consistent db' := by
  have hframe := h.frame
  refine ⟨?_, ?_, ?_, ?_⟩
  -- One allocation for each night: the form only adds one where there was none.
  · cases h with
    | reserved => exact hh.consistent.allocations
    | @resized a capacity =>
      have hmap : (resizedAllocations s.db a capacity).rows.map (·.performance)
          = s.db.gaAllocations.rows.map (·.performance) := by
        unfold resizedAllocations Table.update
        rw [List.map_map]
        refine List.map_congr_left fun b _ => ?_
        dsimp only [Function.comp]
        split_ifs <;> rfl
      exact hmap ▸ hh.consistent.allocations
    | @allocated capacity hga hcap hnone =>
      have hmap : (newAllocations s.db organization p.id capacity).rows.map (·.performance)
          = s.db.gaAllocations.rows.map (·.performance) ++ [p.id] := List.map_append
      show ((newAllocations s.db organization p.id capacity).rows.map (·.performance)).Nodup
      rw [hmap, List.nodup_append]
      refine ⟨hh.consistent.allocations, List.nodup_singleton _, ?_⟩
      intro n hn m hm heq
      obtain ⟨a, ha, rfl⟩ := List.mem_map.mp hn
      have hne := List.find?_eq_none.mp hnone a ha
      rw [List.mem_singleton] at hm
      exact hne (by simp [heq, hm])
  · intro a ha
    -- No ticket is touched.
    have hlive : ∀ r, liveTickets db' r = liveTickets s.db r := fun r => by
      unfold liveTickets
      rw [hframe.tickets]
    rw [hlive]
    cases h with
    | reserved => exact hh.consistent.counted a ha
    | resized =>
      obtain ⟨b, hb, rfl⟩ := mem_resizedAllocations.mp ha
      have hcount := hh.consistent.counted b hb
      split_ifs <;> exact hcount
    | allocated hga hcap hnone =>
      rcases mem_newAllocations.mp ha with ha | rfl
      · exact hh.consistent.counted a ha
      -- A new allocation starts at none sold, and a night without one had sold none.
      · have hle : liveTickets s.db (p.id, none) ≤ capacityOf s.db (p.id, none) :=
          (Nat.le_add_right _ _).trans (hh.promised_le (p.id, none))
        rw [capacityOf_none hnone] at hle
        exact (Nat.le_zero.mp hle).symm
  · rw [hframe.tickets, hframe.orders]
    exact hh.consistent.ticketOrder
  · rw [hframe.holds, hframe.performances]
    intro k hk q hq
    obtain ⟨x, hx, rfl⟩ := Table.mem_update.mp hq
    have horg := hh.consistent.holdOrg k hk x hx
    split_ifs <;> exact horg

/-! ### One edit -/

/-- **One edit.** The buyers of the edited performance are backed if and only if the edit keeps
    what is promised. -/
theorem backed_edited_iff (hh : Housing s) (hp : p ∈ s.db.performances.rows)
    (hsaved : Saved s.db organization p c db') :
    Backed ⟨db', s.now⟩ (edited c p) ↔ KeepsPromises s p c := by
  have hframe := hsaved.frame
  have hc : Consistent (⟨db', s.now⟩ : State).db := hsaved.consistent hh
  rw [backed_iff]
  simp only [edited_id, hframe.promised]
  constructor
  · intro hall
    -- Places: what backs the buyers is the allocation, whose capacity is the form's.
    refine ⟨fun hpos => ?_, fun n hpos => ?_⟩
    · cases hall none hpos with
      | @places a hm ha hle =>
        obtain ⟨a', capacity, ha', hcap, hcapacity⟩ := hsaved.allocationOf_own hm
        obtain rfl : a = a' := Option.some.inj (ha.symm.trans ha')
        refine ⟨hm, fun capacity' hcap' => ?_⟩
        obtain rfl : capacity = capacity' := Option.some.inj (hcap.symm.trans hcap')
        rw [← hframe.promised, ← hcapacity, ← edited_id c p, promised_eq hc ha]
        exact hle
    -- Seats: those of the performance, which the edit may have moved to another chart.
    · cases hall (some n) hpos with
      | seat hm hn =>
        refine ⟨hm, ?_⟩
        cases hh.housed_of hp hpos with
        | seat hm' hn' =>
          refine (seat_edited_iff hn').mp ?_
          obtain ⟨x, hx, rfl⟩ := List.mem_map.mp hn
          exact List.mem_map.mpr ⟨x, hframe.mem_performanceSeats.mp hx, rfl⟩
  · intro hkeep seat hpos
    cases seat with
    | none =>
      obtain ⟨hm, hfits⟩ := hkeep.places hpos
      obtain ⟨a, capacity, ha, hcap, hcapacity⟩ := hsaved.allocationOf_own hm
      refine .places hm ha ?_
      have hsum : promised ⟨db', s.now⟩ (p.id, none)
          = a.sold + activeGaHeldQty db'.holds s.now p.id none := promised_eq hc ha
      have hle := hfits capacity hcap
      rw [← hframe.promised, hsum, ← hcapacity] at hle
      exact hle
    | some n =>
      obtain ⟨hm, hchart⟩ := hkeep.seats n hpos
      refine .seat hm ?_
      cases hh.housed_of hp hpos with
      | seat hm' hn' =>
        obtain ⟨x, hx, rfl⟩ := List.mem_map.mp ((seat_edited_iff hn').mpr hchart)
        exact List.mem_map.mpr ⟨x, hframe.mem_performanceSeats.mpr hx, rfl⟩

/-- Saving a performance as it is changes nothing. -/
theorem savePerformance_eq_self (h : edited c p = p) (hp : p ∈ s.db.performances.rows) :
    savePerformance s.db p c = s.db := by
  have hsame : s.db.performances.update (·.id == p.id) (edited c) (edited_id c)
      = s.db.performances := by
    refine Table.update_eq_self_of_fix fun q hq hid => ?_
    obtain rfl : q = p := Table.eq_of_key_eq hq hp (beq_iff_eq.mp hid)
    exact h
  unfold savePerformance
  rw [hsame]

/-- A save of the performance changes nothing only if it edits nothing. -/
theorem edited_of_savePerformance (h : savePerformance s.db p c = s.db)
    (hp : p ∈ s.db.performances.rows) : edited c p = p := by
  have hmem : edited c p
      ∈ (s.db.performances.update (·.id == p.id) (edited c) (edited_id c)).rows :=
    Table.mem_update.mpr ⟨p, hp, by simp⟩
  have hsame : s.db.performances.update (·.id == p.id) (edited c) (edited_id c)
      = s.db.performances := congrArg Db.performances h
  rw [hsame] at hmem
  exact Table.eq_of_key_eq hmem hp (edited_id c p)

/-- **An accepted submission is safe** if and only if it meets the promises. -/
theorem safeEdit_iff (hh : Housing s) (hp : p ∈ s.db.performances.rows)
    (hchecked : Checked s.db p c) :
    SafeEdit s p c (save columnMax s.db organization p c) ↔
      MeetsPromises columnMax s organization p c := by
  by_cases hst : Storable columnMax s.db organization p c
  · obtain ⟨db', heq, hsaved⟩ := save_storable hh.consistent hchecked hst
    rw [heq]
    constructor
    · intro hsafe
      exact ⟨fun _ => (backed_edited_iff hh hp hsaved).mp (hsafe.saved rfl).2,
        fun hno => absurd hst hno⟩
    · intro hmeets
      exact ⟨fun _ => ⟨hsaved.soldKept, (backed_edited_iff hh hp hsaved).mpr (hmeets.stored hst)⟩,
        fun hno => absurd rfl hno⟩
  · obtain ⟨e, heq⟩ := save_unstorable hh.consistent hchecked hst
    rw [heq]
    constructor
    · intro hsafe
      exact ⟨fun hyes => absurd hyes hst,
        fun _ => edited_of_savePerformance (hsafe.failed (by simp)) hp⟩
    · intro hmeets
      exact ⟨fun hno => by simp at hno, fun _ => savePerformance_eq_self (hmeets.refused hst) hp⟩

/-- An edit that keeps what is promised keeps the house. -/
theorem Housing.saved (hh : Housing s) (hp : p ∈ s.db.performances.rows)
    (hsaved : Saved s.db organization p c db') (hkeep : KeepsPromises s p c) :
    Housing ⟨db', s.now⟩ := by
  have hframe := hsaved.frame
  have hc := hsaved.consistent hh
  have hbacked := (backed_edited_iff hh hp hsaved).mpr hkeep
  have hmem' : edited c p ∈ db'.performances.rows := by
    rw [hframe.performances]
    exact Table.mem_update.mpr ⟨p, hp, by simp⟩
  refine ⟨hc, fun r => ?_, fun r hpos => ?_⟩
  -- A seat has capacity one whatever the form says; places are those of the allocation.
  · show BoxOffice.promised ⟨db', s.now⟩ r ≤ capacityOf db' r
    obtain ⟨q, seat⟩ := r
    cases seat with
    | some n =>
      rw [hframe.promised]
      exact hh.promised_le (q, some n)
    | none =>
      by_cases hq : q = p.id
      · subst hq
        -- Nothing promised, nothing to show; otherwise the allocation of the form covers it.
        rcases Nat.eq_zero_or_pos (promised s (p.id, none)) with hzero | hpos
        · rw [hframe.promised, hzero]
          exact Nat.zero_le _
        · have hb := backed_iff.mp hbacked none (by rw [edited_id, hframe.promised]; exact hpos)
          cases hb with
          | @places a hm ha hle =>
            have hsum : promised ⟨db', s.now⟩ (p.id, none)
                = a.sold + activeGaHeldQty db'.holds s.now p.id none := promised_eq hc ha
            have hcap : capacityOf db' (p.id, none) = a.capacity := capacityOf_some ha
            rw [hsum, hcap]
            exact hle
      · have hsame : capacityOf db' (q, none) = capacityOf s.db (q, none) := by
          show ((allocationOf db' q).map _).getD 0 = ((allocationOf s.db q).map _).getD 0
          rw [hsaved.allocationOf_other hq]
        rw [hframe.promised, hsame]
        exact hh.promised_le (q, none)
  · obtain ⟨n, seat⟩ := r
    obtain ⟨q, hq, hid, hhoused⟩ := hh.housed (n, seat) (by rw [← hframe.promised]; exact hpos)
    obtain rfl : q.id = n := hid
    -- What the edited night has promised, it still has: this is the condition.
    by_cases hqp : q.id = p.id
    · obtain rfl : q = p := Table.eq_of_key_eq hq hp hqp
      refine ⟨edited c q, hmem', rfl, ?_⟩
      cases backed_iff.mp hbacked seat hpos with
      | places hm => exact .places hm
      | seat hm hn => exact .seat hm hn
    · refine ⟨q, ?_, rfl, ?_⟩
      · rw [hframe.performances]
        exact Table.mem_update.mpr ⟨q, hq, by simp [hqp]⟩
      · cases hhoused with
        | places hm => exact .places hm
        | seat hm hn =>
          obtain ⟨x, hx, hid'⟩ := List.mem_map.mp hn
          exact .seat hm (List.mem_map.mpr ⟨x, hframe.mem_performanceSeats.mpr hx, hid'⟩)

/-- A submission that meets the promises keeps the house, whatever the page answers. -/
theorem Housing.performanceUpdate (hh : Housing s) {pk : Nat} {posted : PerformancePost}
    (hmeets : EditsMeet columnMax s (.performanceUpdate organization pk posted)) :
    Housing ⟨(performanceUpdate columnMax s.db organization pk posted).1, s.now⟩ := by
  unfold BoxOffice.performanceUpdate
  cases hp : findPerformance s.db organization pk with
  | none => exact hh
  | some p =>
    dsimp only
    cases hclean : clean s.db organization p posted with
    | error errors => exact hh
    | ok c =>
      have hmem := (findPerformance_some hp).1
      have hm := hmeets p c hp hclean
      dsimp only
      by_cases hst : Storable columnMax s.db organization p c
      · obtain ⟨db', heq, hsaved⟩ := save_storable hh.consistent (clean_ok hclean) hst
        rw [heq]
        exact hh.saved hmem hsaved (hm.stored hst)
      · obtain ⟨e, heq⟩ := save_unstorable hh.consistent (clean_ok hclean) hst
        rw [heq]
        dsimp only
        rw [savePerformance_eq_self (hm.refused hst) hmem]
        exact hh

/-! ### Every run -/

/-- **The step.** An event of the house keeps what was promised housed. -/
theorem housing_step {e : HouseEvent} (hh : Housing s) (hadm : AdmissibleHouse s e)
    (hmeets : EditsMeet columnMax s e) : Housing (execHouse columnMax e s) := by
  cases e with
  | holdCreate organization pk sessionKey posted =>
    simp only [execHouse]
    cases hop : holdCreate s.db organization pk sessionKey posted with
    | none => exact hh
    | some op =>
      exact hh.exec (holdCreate_admissible hop) fun r hsel => holdCreate_housed hop hsel
  | shop op => exact hh.exec hadm.2 fun r hsel => (not_selects hadm.1 hsel).elim
  | performanceUpdate organization pk posted => exact hh.performanceUpdate hmeets

/-- **Edits of a performance.** In every run of buyers and of edits that meet the promises, every
    performance is backed; and a submission that the form accepts then, of whatever fields, is safe
    for the buyers if and only if it meets the promises. -/
theorem performance_edits (columnMax : Nat)
    (h : Reachable ((house columnMax).restrict (EditsMeet columnMax)) s) :
    (∀ p ∈ s.db.performances.rows, Backed s p) ∧
      ∀ organization pk posted p c, findPerformance s.db organization pk = some p →
        clean s.db organization p posted = .ok c →
        (SafeEdit s p c (save columnMax s.db organization p c) ↔
          MeetsPromises columnMax s organization p c) := by
  have hh : Housing s := by
    refine h.invariant (fun v hv => Fresh.housing hv) ?_
    rintro v e w hv ⟨⟨hadm, rfl⟩, hmeets⟩
    exact housing_step hv hadm hmeets
  exact ⟨fun p hp => hh.backed hp, fun organization pk posted p c hp hclean =>
    safeEdit_iff hh (findPerformance_some hp).1 (clean_ok hclean)⟩

end Edits

/-! ### One place held -/

/-- The largest number of an integer column. -/
def columnTop : Nat := 9223372036854775807

/-- A buyer asks for one place. -/
def askForPlace : HouseEvent := .holdCreate 1 1 "a" ⟨1, 1, []⟩

/-- The sample performance with one place in a cart. -/
def placeHeld : State := execHouse columnTop askForPlace sampleState

/-- The sample cart is reachable. -/
theorem placeHeld_reachable : Reachable (house columnTop) placeHeld :=
  (Reachable.of_init sampleState_fresh).step (i := askForPlace) ⟨trivial, rfl⟩

/-- The form of the sample performance, for a start, a mode and a capacity. -/
def nightForm (startsAt : Time) (seatingMode : SeatingMode) (capacity : Int) : PerformancePost :=
  ⟨.given 1, .given startsAt, .given seatingMode, .given 1, .given .published, .given capacity⟩

/-- The performance as the form saves it. -/
def editedNight (startsAt : Time) (seatingMode : SeatingMode) : Performance :=
  ⟨1, 1, 1, 1, startsAt, seatingMode, .published, some 1⟩

/-- The database after the form is posted. -/
def postedNight (startsAt : Time) (seatingMode : SeatingMode) (capacity : Int) : Db × UpdateAnswer :=
  performanceUpdate columnTop placeHeld.db 1 1 (nightForm startsAt seatingMode capacity)

/-- Lowering the capacity to the place that is held is safe; lowering it below is not. -/
theorem performance_edits_placeHeld :
    Backed placeHeld (editedNight 5000 .ga) ∧
      SafeEdit placeHeld (editedNight 5000 .ga) ⟨1, 5000, .ga, some 1, .published, some 1⟩
        (save columnTop placeHeld.db 1 (editedNight 5000 .ga)
          ⟨1, 5000, .ga, some 1, .published, some 1⟩) ∧
      ¬SafeEdit placeHeld (editedNight 5000 .ga) ⟨1, 5000, .ga, some 1, .published, some 0⟩
        (save columnTop placeHeld.db 1 (editedNight 5000 .ga)
          ⟨1, 5000, .ga, some 1, .published, some 0⟩) := by
  have h : Reachable ((house columnTop).restrict (EditsMeet columnTop)) placeHeld :=
    (Reachable.of_init sampleState_fresh).step (i := askForPlace) ⟨⟨trivial, rfl⟩, trivial⟩
  have hfind : findPerformance placeHeld.db 1 1 = some (editedNight 5000 .ga) := by decide
  have hstorable : ∀ n, n ≤ 1 → Storable columnTop placeHeld.db 1 (editedNight 5000 .ga)
      ⟨1, 5000, .ga, some 1, .published, some n⟩ := by
    refine fun n hn _ => ⟨fun m hm => ?_, fun a ha => ?_⟩
    · obtain rfl := Option.some.inj hm
      exact hn.trans (by decide)
    · obtain ⟨hmem, -⟩ := allocationOf_some ha
      have hall : ∀ b ∈ placeHeld.db.gaAllocations.rows, b.organization = 1 := by decide
      exact hall a hmem
  -- One place is promised, and no seat.
  have hplaces : promised placeHeld (1, none) = 1 := by decide
  have hseats : ∀ n, ¬0 < promised placeHeld (1, some n) := by
    intro n hpos
    unfold promised at hpos
    have hlive : liveTickets placeHeld.db (1, some n) = 0 := rfl
    have hheld : heldQty placeHeld.db placeHeld.now (1, some n) = 0 := rfl
    omega
  refine ⟨(performance_edits columnTop h).1 _ (by decide), ?_, ?_⟩
  · refine ((performance_edits columnTop h).2 1 1 (nightForm 5000 .ga 1) _ _ hfind
      (by decide +kernel)).mpr ⟨fun _ => ⟨fun _ => ⟨rfl, fun capacity hc => ?_⟩,
        fun n hpos => (hseats n hpos).elim⟩, fun hno => absurd (hstorable 1 le_rfl) hno⟩
    obtain rfl := Option.some.inj hc
    exact hplaces.le
  -- A capacity of none would have to cover that place.
  · intro hsafe
    have hmeets := ((performance_edits columnTop h).2 1 1 (nightForm 5000 .ga 0) _ _ hfind
      (by decide +kernel)).mp hsafe
    have hle := ((hmeets.stored (hstorable 0 (Nat.zero_le _))).places (by
      show 0 < promised placeHeld (1, none)
      rw [hplaces]
      exact Nat.one_pos)).2 0 rfl
    have hle' : promised placeHeld (1, none) ≤ 0 := hle
    omega

/-- **The counterexample.** The form lowers the capacity below a cart, and turns the performance
    to reserved seating under it; and a capacity that the column refuses leaves the new start
    saved. -/
theorem edit_strands :
    Reachable (house columnTop) placeHeld ∧
      ((postedNight 5000 .ga 0).2 = .saved ∧
        editedNight 5000 .ga ∈ (postedNight 5000 .ga 0).1.performances.rows ∧
        ¬Backed ⟨(postedNight 5000 .ga 0).1, placeHeld.now⟩ (editedNight 5000 .ga)) ∧
      ((postedNight 5000 .reserved 0).2 = .saved ∧
        editedNight 5000 .reserved ∈ (postedNight 5000 .reserved 0).1.performances.rows ∧
        ¬Backed ⟨(postedNight 5000 .reserved 0).1, placeHeld.now⟩ (editedNight 5000 .reserved)) ∧
      ((postedNight 6000 .ga 10000000000000000000).2 = .raised .overflow ∧
        (postedNight 6000 .ga 10000000000000000000).1.performances.rows
          ≠ placeHeld.db.performances.rows) := by
  refine ⟨placeHeld_reachable, ⟨by decide +kernel, by decide +kernel, fun hb => ?_⟩,
    ⟨by decide +kernel, by decide +kernel, fun hb => ?_⟩, by decide +kernel, by decide +kernel⟩
  · cases backed_iff.mp hb none (by decide +kernel) with
    | @places a hm ha hle =>
      have hcap : ∀ b ∈ (postedNight 5000 .ga 0).1.gaAllocations.rows, b.capacity = 0 := by
        decide +kernel
      have hheld : activeGaHeldQty (postedNight 5000 .ga 0).1.holds placeHeld.now 1 none = 1 := by
        decide +kernel
      have hzero := hcap a (allocationOf_some ha).1
      have hle' : a.sold + activeGaHeldQty (postedNight 5000 .ga 0).1.holds placeHeld.now 1 none
        ≤ a.capacity := hle
      omega
  · cases backed_iff.mp hb none (by decide +kernel) with
    | places hm => cases hm

end BoxOffice

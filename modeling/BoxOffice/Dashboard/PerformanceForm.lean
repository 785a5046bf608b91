import BoxOffice.Inventory.Ledger

namespace BoxOffice

open Relational

/-!
# Dashboard — the form of a performance

`PerformanceForm` bound to a performance that exists.

* `PerformanceForm.clean` reads what is posted: the errors of the fields, then those of the form's
  own `clean`.  Of the inventory it looks at one counter: the capacity must not be below `sold`;
* `PerformanceForm.save` writes the performance and then, in a statement of its own, the capacity.
  A capacity that the column refuses leaves the performance written;
* `clean_ok`, `save_storable` and `save_unstorable` say what an accepted form has and what its save
  writes.
-/

/-- What arrives for a field: nothing, a text that it cannot read, or a value. -/
inductive FieldInput (α : Type)
  | missing
  | unreadable (text : String)
  | given (value : α)
deriving Repr, DecidableEq

structure FieldError where
  field : String
  message : String
deriving Repr, DecidableEq

/-- What the browser posts for the form. -/
structure PerformancePost where
  venue : FieldInput Nat
  startsAt : FieldInput Time
  seatingMode : FieldInput SeatingMode
  seatingChart : FieldInput Nat
  status : FieldInput PerformanceStatus
  gaCapacity : FieldInput Int
deriving Repr, DecidableEq

/-- `cleaned_data` of a valid form. -/
structure CleanedPerformance where
  venue : Nat
  startsAt : Time
  seatingMode : SeatingMode
  seatingChart : Option Nat
  status : PerformanceStatus
  gaCapacity : Option Nat
deriving Repr, DecidableEq

/-- A field that must be filled in. -/
def cleanRequired {α : Type} (field : String) (invalid : String → String) :
    FieldInput α → Except FieldError α
  | .missing => .error ⟨field, "This field is required."⟩
  | .unreadable text => .error ⟨field, invalid text⟩
  | .given value => .ok value

/-- A field that may be left blank. -/
def cleanOptional {α : Type} (field : String) (invalid : String → String) :
    FieldInput α → Except FieldError (Option α)
  | .missing => .ok none
  | .unreadable text => .error ⟨field, invalid text⟩
  | .given value => .ok (some value)

/-- What a choice field says of a text that is none of its choices. -/
def notAChoice (text : String) : String :=
  s!"Select a valid choice. {text} is not one of the available choices."

/-- What a model-choice field says of a key outside its queryset. -/
def notInQueryset : String :=
  "Select a valid choice. That choice is not one of the available choices."

/-- A key that must be in the queryset of its field. -/
def inQueryset (field : String) (queryset : Nat → Bool) (key : Nat) : Except FieldError Nat :=
  if queryset key then .ok key else .error ⟨field, notInQueryset⟩

namespace PerformanceForm

/-- `venue`: one of the organization's. -/
def cleanVenue (db : Db) (organization : Nat) (posted : FieldInput Nat) : Except FieldError Nat :=
  cleanRequired "venue" (fun _ => notInQueryset) posted >>=
    inQueryset "venue" fun v => (db.venues.get? v).any (·.organization == organization)

/-- `seating_chart`: one of the organization's, or blank. -/
def cleanSeatingChart (db : Db) (organization : Nat) (posted : FieldInput Nat) :
    Except FieldError (Option Nat) :=
  match posted with
  | .given c =>
    (inQueryset "seating_chart"
      (fun c => (db.seatingCharts.get? c).any (·.organization == organization)) c).map some
  | posted => cleanOptional "seating_chart" (fun _ => notInQueryset) posted

/-- `ga_capacity`: a number from zero on, or blank. -/
def cleanGaCapacity (posted : FieldInput Int) : Except FieldError (Option Nat) :=
  match posted with
  | .given n =>
    if n < 0 then
      .error ⟨"ga_capacity", "Ensure this value is greater than or equal to 0."⟩
    else .ok (some n.toNat)
  | .missing => .ok none
  | .unreadable _ => .error ⟨"ga_capacity", "Enter a whole number."⟩

/-- The form's own check of the capacity, for a performance that exists. -/
def capacityErrors (db : Db) (p : Performance) (seatingMode : Option SeatingMode)
    (gaCapacity : Option Nat) : List FieldError :=
  if seatingMode = some .ga then
    match gaCapacity with
    | none =>
      [⟨"ga_capacity", "GA capacity is required for General admission performances."⟩]
    | some capacity =>
      match allocationOf db p.id with
      | some allocation =>
        if capacity < allocation.sold then
          [⟨"ga_capacity",
            s!"Capacity can't be less than the {allocation.sold} ticket(s) already sold."⟩]
        else []
      | none => []
  else []

/-- The form's own check of the chart. -/
def chartErrors (db : Db) (venue seatingChart : Option Nat) : List FieldError :=
  match venue, seatingChart with
  | some venue, some chart =>
    if (db.seatingCharts.get? chart).all (·.venue == venue) then []
    else [⟨"seating_chart", "That chart doesn't belong to the selected venue."⟩]
  | _, _ => []

/-- The error of a field, if it has one. -/
def fieldError {α : Type} : Except FieldError α → List FieldError
  | .ok _ => []
  | .error e => [e]

/-- `PerformanceForm.clean`, after the fields have been cleaned one by one. -/
def clean (db : Db) (organization : Nat) (p : Performance) (posted : PerformancePost) :
    Except (List FieldError) CleanedPerformance :=
  let venue := cleanVenue db organization posted.venue
  let startsAt :=
    cleanRequired "starts_at" (fun _ => "Enter a valid date/time.") posted.startsAt
  let seatingMode := cleanRequired "seating_mode" notAChoice posted.seatingMode
  let seatingChart := cleanSeatingChart db organization posted.seatingChart
  let status := cleanRequired "status" notAChoice posted.status
  let gaCapacity := cleanGaCapacity posted.gaCapacity
  let errors := fieldError venue ++ fieldError startsAt ++ fieldError seatingMode
    ++ fieldError seatingChart ++ fieldError status ++ fieldError gaCapacity
    ++ capacityErrors db p seatingMode.toOption gaCapacity.toOption.join
    ++ chartErrors db venue.toOption seatingChart.toOption.join
  match errors, venue, startsAt, seatingMode, seatingChart, status, gaCapacity with
  | [], .ok venue, .ok startsAt, .ok seatingMode, .ok seatingChart, .ok status, .ok gaCapacity =>
    .ok { venue, startsAt, seatingMode, seatingChart, status, gaCapacity }
  | errors, _, _, _, _, _, _ => .error errors

/-- Why the database refuses the capacity. -/
inductive SaveError
  /-- The number does not fit the column. -/
  | overflow
  /-- A constraint of the table. -/
  | integrity
deriving Repr, DecidableEq

/-- The performance with the cleaned fields. -/
def edited (c : CleanedPerformance) (p : Performance) : Performance :=
  { p with
    venue := c.venue
    startsAt := c.startsAt
    seatingMode := c.seatingMode
    status := c.status
    seatingChart := c.seatingChart }

/-- An edit keeps the primary key. -/
@[simp] theorem edited_id (c : CleanedPerformance) (p : Performance) : (edited c p).id = p.id := rfl

/-- `performance.save()`. -/
def savePerformance (db : Db) (p : Performance) (c : CleanedPerformance) : Db :=
  { db with performances := db.performances.update (·.id == p.id) (edited c) (edited_id c) }

def setCapacity (capacity : Nat) (a : GAAllocation) : GAAllocation :=
  { a with capacity := capacity }

/-- A new capacity keeps the primary key. -/
@[simp] theorem setCapacity_id (capacity : Nat) (a : GAAllocation) :
    (setCapacity capacity a).id = a.id := rfl

/-- The allocations after one of them is given a capacity. -/
def resizedAllocations (db : Db) (a : GAAllocation) (capacity : Nat) : Table GAAllocation :=
  db.gaAllocations.update (·.id == a.id) (setCapacity capacity) (setCapacity_id capacity)

/-- The allocations after one is created. -/
def newAllocations (db : Db) (organization performance capacity : Nat) : Table GAAllocation :=
  db.gaAllocations.insert fun id => GAAllocation.mk id organization performance capacity 0

/-- The allocation that `update_or_create` finds. -/
def ownAllocation (db : Db) (organization performance : Nat) : Option GAAllocation :=
  db.gaAllocations.rows.find? fun a =>
    a.organization == organization && a.performance == performance

/-- `GAAllocation.objects.update_or_create`, on a column that takes numbers up to `columnMax`. -/
def saveCapacity (columnMax : Nat) (db : Db) (organization performance capacity : Nat) :
    Except SaveError Db :=
  if columnMax < capacity then .error .overflow
  else
    match ownAllocation db organization performance with
    | some a =>
      if capacity < a.sold then .error .integrity
      else .ok { db with gaAllocations := resizedAllocations db a capacity }
    | none =>
      if allocationOf db performance = none then
        .ok { db with gaAllocations := newAllocations db organization performance capacity }
      else .error .integrity

/-- `PerformanceForm.save`: the database after it, and what was raised. -/
def save (columnMax : Nat) (db : Db) (organization : Nat) (p : Performance)
    (c : CleanedPerformance) : Db × Option SaveError :=
  let db := savePerformance db p c
  match c.seatingMode with
  | .reserved => (db, none)
  | .ga =>
    match c.gaCapacity with
    | none => (db, some .integrity)
    | some capacity =>
      match saveCapacity columnMax db organization p.id capacity with
      | .error e => (db, some e)
      | .ok db' => (db', none)

end PerformanceForm

/-- What the page of `PerformanceUpdateView` answers. -/
inductive UpdateAnswer
  | notFound
  | invalid (errors : List FieldError)
  | saved
  | raised (e : PerformanceForm.SaveError)
deriving Repr, DecidableEq

/-- `PerformanceUpdateView`, posted to. -/
def performanceUpdate (columnMax : Nat) (db : Db) (organization pk : Nat)
    (posted : PerformancePost) : Db × UpdateAnswer :=
  match findPerformance db organization pk with
  | none => (db, .notFound)
  | some p =>
    match PerformanceForm.clean db organization p posted with
    | .error errors => (db, .invalid errors)
    | .ok c =>
      match PerformanceForm.save columnMax db organization p c with
      | (db, none) => (db, .saved)
      | (db, some e) => (db, .raised e)

/-! ### What an accepted form has, and what its save writes -/

namespace PerformanceForm

section Spec

variable {columnMax organization : Nat} {db db' : Db} {p : Performance} {posted : PerformancePost}
  {c : CleanedPerformance}

/-- What the form has checked: its capacity against the tickets sold, its chart against its
    venue. -/
structure Checked (db : Db) (p : Performance) (c : CleanedPerformance) : Prop where
  capacity : c.seatingMode = .ga → ∃ capacity, c.gaCapacity = some capacity ∧
    ∀ a, allocationOf db p.id = some a → a.sold ≤ capacity
  chart : ∀ chart, c.seatingChart = some chart → ∀ row, db.seatingCharts.get? chart = some row →
    row.venue = c.venue

/-- A capacity without errors is no less than what was sold. -/
theorem capacityErrors_nil {seatingMode : SeatingMode} {gaCapacity : Option Nat}
    (h : capacityErrors db p (some seatingMode) gaCapacity = []) (hga : seatingMode = .ga) :
    ∃ capacity, gaCapacity = some capacity ∧
      ∀ a, allocationOf db p.id = some a → a.sold ≤ capacity := by
  subst hga
  unfold capacityErrors at h
  rw [if_pos rfl] at h
  cases gaCapacity with
  | none => cases h
  | some capacity =>
    refine ⟨capacity, rfl, fun a ha => ?_⟩
    dsimp only at h
    rw [ha] at h
    dsimp only at h
    split_ifs at h with hlt
    exact not_lt.mp hlt

/-- A chart without errors is one of the venue. -/
theorem chartErrors_nil {venue chart : Nat} {row : SeatingChart}
    (h : chartErrors db (some venue) (some chart) = [])
    (hrow : db.seatingCharts.get? chart = some row) : row.venue = venue := by
  unfold chartErrors at h
  dsimp only at h
  rw [hrow] at h
  split_ifs at h with hv
  simpa using hv

/-- A valid form has made its checks. -/
theorem clean_ok (h : clean db organization p posted = .ok c) : Checked db p c := by
  unfold clean at h
  dsimp only at h
  split at h
  · rename_i hnil hvenue hstarts hmode hchart hstatus hcapacity
    obtain rfl := Except.ok.inj h
    rw [hvenue, hmode, hchart, hcapacity] at hnil
    obtain ⟨hnil, hcharts⟩ := List.append_eq_nil_iff.mp hnil
    obtain ⟨-, hcap⟩ := List.append_eq_nil_iff.mp hnil
    refine ⟨capacityErrors_nil hcap, ?_⟩
    intro chart hc row hrow
    dsimp only at hc
    subst hc
    exact chartErrors_nil hcharts hrow
  · cases h

/-- The database takes the capacity: it fits the column, and an allocation that the performance
    has is its organization's. -/
def Storable (columnMax : Nat) (db : Db) (organization : Nat) (p : Performance)
    (c : CleanedPerformance) : Prop :=
  c.seatingMode = .ga → (∀ capacity ∈ c.gaCapacity, capacity ≤ columnMax) ∧
    ∀ a, allocationOf db p.id = some a → a.organization = organization

/-- What a save that succeeds writes. -/
inductive Saved (db : Db) (organization : Nat) (p : Performance) (c : CleanedPerformance) :
    Db → Prop
  | reserved : c.seatingMode = .reserved → Saved db organization p c (savePerformance db p c)
  | resized {a : GAAllocation} {capacity : Nat} : c.seatingMode = .ga →
      c.gaCapacity = some capacity → allocationOf db p.id = some a → a.sold ≤ capacity →
      Saved db organization p c
        { savePerformance db p c with gaAllocations := resizedAllocations db a capacity }
  | allocated {capacity : Nat} : c.seatingMode = .ga → c.gaCapacity = some capacity →
      allocationOf db p.id = none →
      Saved db organization p c
        { savePerformance db p c with
          gaAllocations := newAllocations db organization p.id capacity }

/-- The allocations after one of them was resized. -/
theorem mem_resizedAllocations {a b : GAAllocation} {capacity : Nat} :
    b ∈ (resizedAllocations db a capacity).rows ↔
      ∃ x ∈ db.gaAllocations.rows, (if x.id == a.id then setCapacity capacity x else x) = b :=
  Table.mem_update

/-- The allocation of a performance after one of them was resized. -/
theorem allocationOf_resized {a : GAAllocation} {capacity : Nat}
    (h : db'.gaAllocations = resizedAllocations db a capacity) (performance : Nat) :
    allocationOf db' performance = (allocationOf db performance).map fun b =>
      if b.id == a.id then setCapacity capacity b else b :=
  @allocationOf_update db db' (·.id == a.id) (setCapacity capacity) (setCapacity_id capacity)
    (fun _ => rfl) h performance

/-- The allocations after one was added. -/
theorem mem_newAllocations {performance capacity : Nat} {b : GAAllocation} :
    b ∈ (newAllocations db organization performance capacity).rows ↔
      b ∈ db.gaAllocations.rows ∨
        b = ⟨db.gaAllocations.nextId, organization, performance, capacity, 0⟩ :=
  Table.mem_insert

/-- `update_or_create` finds the allocation of the performance if it is the organization's. -/
theorem ownAllocation_eq (hc : Consistent db) (performance : Nat) :
    ownAllocation db organization performance
      = (allocationOf db performance).filter (·.organization == organization) := by
  cases ha : allocationOf db performance with
  | none =>
    refine List.find?_eq_none.mpr fun a hmem => ?_
    have hne := List.find?_eq_none.mp ha a hmem
    simp only [Bool.and_eq_true, not_and]
    exact fun _ => hne
  | some a =>
    obtain ⟨hmem, hperf⟩ := allocationOf_some ha
    have honly : ∀ b ∈ db.gaAllocations.rows, b.performance = performance → b = a :=
      fun b hb hbp => hc.allocation_unique hb hmem (hbp.trans hperf.symm)
    by_cases horg : a.organization = organization
    · rw [Option.filter_some_pos (by simp [horg])]
      cases hown : ownAllocation db organization performance with
      | none =>
        have := List.find?_eq_none.mp hown a hmem
        simp [horg, hperf] at this
      | some b =>
        have hb := List.find?_some hown
        simp only [Bool.and_eq_true, beq_iff_eq] at hb
        rw [honly b (List.mem_of_find?_eq_some hown) hb.2]
    · rw [Option.filter_some_neg (by simp [horg])]
      refine List.find?_eq_none.mpr fun b hb => ?_
      simp only [Bool.and_eq_true, beq_iff_eq, not_and]
      intro hborg hbp
      exact horg (honly b hb hbp ▸ hborg)

/-- **A save that the database takes** writes the performance and its capacity. -/
theorem save_storable (hc : Consistent db) (hchecked : Checked db p c)
    (hst : Storable columnMax db organization p c) :
    ∃ db', save columnMax db organization p c = (db', none) ∧ Saved db organization p c db' := by
  unfold save
  dsimp only
  cases hmode : c.seatingMode with
  | reserved => exact ⟨_, rfl, .reserved hmode⟩
  | ga =>
    obtain ⟨capacity, hcap, hsold⟩ := hchecked.capacity hmode
    obtain ⟨hfits, horg⟩ := hst hmode
    have hown : ownAllocation (savePerformance db p c) organization p.id
        = (allocationOf db p.id).filter (·.organization == organization) := ownAllocation_eq hc p.id
    have hall : allocationOf (savePerformance db p c) p.id = allocationOf db p.id := rfl
    dsimp only
    rw [hcap]
    dsimp only
    unfold saveCapacity
    rw [if_neg (not_lt.mpr (hfits capacity hcap)), hown, hall]
    cases ha : allocationOf db p.id with
    | none => exact ⟨_, rfl, .allocated hmode hcap ha⟩
    | some a =>
      rw [Option.filter_some_pos (by simp [horg a ha])]
      dsimp only
      rw [if_neg (not_lt.mpr (hsold a ha))]
      exact ⟨_, rfl, .resized hmode hcap ha (hsold a ha)⟩

/-- **A save that the database refuses** has written the performance. -/
theorem save_unstorable (hc : Consistent db) (hchecked : Checked db p c)
    (hst : ¬Storable columnMax db organization p c) :
    ∃ e, save columnMax db organization p c = (savePerformance db p c, some e) := by
  unfold Storable at hst
  push Not at hst
  obtain ⟨hmode, hbad⟩ := hst
  obtain ⟨capacity, hcap, -⟩ := hchecked.capacity hmode
  have hown : ownAllocation (savePerformance db p c) organization p.id
      = (allocationOf db p.id).filter (·.organization == organization) := ownAllocation_eq hc p.id
  have hall : allocationOf (savePerformance db p c) p.id = allocationOf db p.id := rfl
  unfold save
  dsimp only
  rw [hmode, hcap]
  dsimp only
  unfold saveCapacity
  by_cases hbig : columnMax < capacity
  · rw [if_pos hbig]
    exact ⟨_, rfl⟩
  · have hfits : ∀ n ∈ c.gaCapacity, n ≤ columnMax := by
      rintro n hn
      obtain rfl : capacity = n := Option.some.inj (hcap.symm.trans hn)
      exact not_lt.mp hbig
    obtain ⟨a, ha, horg⟩ := hbad hfits
    rw [if_neg hbig, hown, hall, ha, Option.filter_some_neg (by simp [horg])]
    exact ⟨_, rfl⟩

end Spec

end PerformanceForm

end BoxOffice

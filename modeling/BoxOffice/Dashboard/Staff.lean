import BoxOffice.Dashboard.ChartEditor
import BoxOffice.Dashboard.Pricing
import BoxOffice.Events.Zones
import BoxOffice.System

namespace BoxOffice

open Relational Transition

/-!
# Dashboard — staff operations, and the theater as a whole

`StaffOp` is one transaction of the dashboard on charts, zones, prices, codes and the donation
campaign.  The `theater` is the system in which shop operations and staff operations alternate
in any order.

* a save of the chart editor is a run of `saveSection` transactions (`saveEntries_run`), so
  other requests can come between the sections of one save;
* a lookup that fails or an exception leaves the database as it was.
-/

/-- One transaction of the dashboard. -/
inductive StaffOp
  | saveSection (section_ : Section) (removed accessible : List SeatIdentity)
  | applyZone (organization performance : Nat) (seatIds : List Nat) (amount : Cents)
      (template : ZoneTemplate)
  | removeSeatsFromZone (zone : Nat) (seatIds : List Nat)
  | deleteZone (zone : Nat)
  | cloneZones (organization target source : Nat)
  | getOrCreateTemplate (organization : Nat) (name color : String)
  | saveReservedPrices (columns : PriceColumns) (organization performance : Nat)
      (cells : Nat → PriceCell × PriceCell)
  | addPriceTier (organization performance : Nat) (name : String) (amount : Cents)
      (currency : String)
  | editPriceTier (priceTier : Nat) (name : String) (amount : Cents) (currency : String)
  | deletePriceTier (priceTier : Nat)
  | createPromoCode (organization : Nat) (form : PromoCodeForm)
  | savePromoCode (promo : Nat) (form : PromoCodeForm)
  | promoDeactivate (promo : Nat)
  | donationSettings (organization : Nat) (name : String) (isActive : Bool)

/-- Commit what a transaction returns, or roll back. -/
def keepOnError (db : Db) : Except ServiceError Db → Db
  | .ok db' => db'
  | .error _ => db

/-- The sections of a performance's chart, as the price editor lists them. -/
def chartSections (db : Db) (performance : Performance) : List Section :=
  match getSeatingChart db performance with
  | none => []
  | some chart => db.sections.rows.filter fun s =>
      s.organization == performance.organization && s.chart == chart

/-- The cells `_save_reserved_prices` works through, when all of them parse. -/
def reservedPlans (db : Db) (performance : Performance) (cells : Nat → PriceCell × PriceCell) :
    List PricePlan :=
  ((chartSections db performance).map fun s =>
    (planSection performance.id s (cells s.id)).1).flatten

/-- Run one staff operation. -/
def execStaff (trig : Trig) (op : StaffOp) (db : Db) : Db :=
  match op with
  | .saveSection section_ removed accessible =>
    keepOnError db (saveSection trig db section_ removed accessible)
  | .applyZone organization performance seatIds amount template =>
    keepOnError db (applyZone db organization performance seatIds amount template)
  | .removeSeatsFromZone zone seatIds => removeSeatsFromZone db zone seatIds
  | .deleteZone zone => deleteZone db zone
  | .cloneZones organization target source =>
    match findPerformance db organization target, findPerformance db organization source with
    | some t, some s => cloneZonesFromPerformance db organization t s
    | _, _ => db
  | .getOrCreateTemplate organization name color =>
    { db with zoneTemplates := (getOrCreateTemplate db organization name color).1 }
  | .saveReservedPrices columns organization performance cells =>
    match findPerformance db organization performance with
    | some p => keepOnError db
      ((saveReservedPrices columns db organization p.id (chartSections db p) cells).map (·.1))
    | none => db
  | .addPriceTier organization performance name amount currency =>
    match findPerformance db organization performance with
    | some p => addPriceTier db organization p.id name amount currency
    | none => db
  | .editPriceTier priceTier name amount currency => editPriceTier db priceTier name amount currency
  | .deletePriceTier priceTier => keepOnError db (deletePriceTier db priceTier)
  | .createPromoCode organization form => createPromoCode db organization form
  | .savePromoCode promo form => savePromoCode db promo form
  | .promoDeactivate promo => promoDeactivate db promo
  | .donationSettings organization name isActive => donationSettings db organization name isActive

/-- A request to the theater. -/
inductive Request
  | shop (op : Op)
  | staff (op : StaffOp)

/-- Run one request. -/
def execRequest (trig : Trig) (r : Request) (s : State) : State :=
  match r with
  | .shop op => exec op s
  | .staff op => { s with db := execStaff trig op s.db }

/-- What a run may ask for: fulfilments are given a hold that still exists. -/
def AdmissibleRequest (s : State) : Request → Prop
  | .shop op => Admissible s op
  | .staff _ => True

/-- The theater: shop and staff requests in any order, from a fresh set-up. -/
def theater (trig : Trig) : System State Request :=
  .ofFun Fresh AdmissibleRequest (execRequest trig)

/-- The staff at work, from any database. -/
def staff (trig : Trig) : System Db StaffOp :=
  .ofFun (fun _ => True) (fun _ _ => True) (execStaff trig)

/-- A save of the chart editor is a run of section saves. -/
theorem saveEntries_run (trig : Trig) (payload : List (String × Nat × SectionEntry)) (db : Db)
    (sections : List Section) (saved : List Nat) (errors : List (String × String)) :
    ∃ ops, Run (staff trig) db ops (saveEntries trig db sections saved errors payload).1 := by
  induction payload generalizing db sections saved errors with
  | nil => exact ⟨[], .nil⟩
  | cons e rest ih =>
    obtain ⟨key, id, entry⟩ := e
    unfold saveEntries
    split
    · exact ih _ _ _ _
    · exact ih _ _ _ _
    · exact ih _ _ _ _
    · rename_i s input removed accessible hfind
      dsimp only
      cases hs : saveSection trig db { s with params := input.apply s.params } removed
        accessible with
      | ok db' =>
        obtain ⟨ops, hrun⟩ := ih db' (setParams sections id input.apply) (saved ++ [id]) errors
        refine ⟨_, Run.cons (i := .saveSection { s with params := input.apply s.params } removed
          accessible) ?_ hrun⟩
        refine ⟨trivial, ?_⟩
        simp only [execStaff, hs, keepOnError]
      | error e =>
        dsimp only
        split_ifs
        · exact ih _ _ _ _
        · exact ⟨[], .nil⟩

/-- **`chart_editor_save`** is a run of the staff system. -/
theorem chartEditorSave_run (trig : Trig) (db : Db) (organization chart : Nat)
    (payload : List (String × Nat × SectionEntry)) :
    ∃ ops, Run (staff trig) db ops (chartEditorSave trig db organization chart payload).1 :=
  saveEntries_run trig payload db _ [] []

/-- The staff at work stays within the theater. -/
theorem staff_reachable {trig : Trig} {s : State} (h : Reachable (theater trig) s) (op : StaffOp) :
    Reachable (theater trig) { s with db := execStaff trig op s.db } :=
  h.step (i := .staff op) ⟨trivial, rfl⟩

/-- Every run of the shop is a run of the theater. -/
theorem theater_of_boxOffice {trig : Trig} {s : State} (h : Reachable boxOffice s) :
    Reachable (theater trig) s :=
  h.invariant (fun _ h0 => .of_init h0) fun _ op _ hu hstep =>
    hu.step (i := .shop op) ⟨hstep.1, hstep.2⟩

end BoxOffice

import BoxOffice.Cascade
import BoxOffice.Transition.Run

namespace BoxOffice

open Relational Transition

/-!
# Dashboard — the catalogue: pass products and events

The staff forms that edit what is on sale, as far as passes go.

* `savePassProduct` is `PassProductUpdateView` with the checks of its form, `passToggle` the
  archive switch;
* `CatalogOp` adds the creation, the edit and the deletion of an event, and `catalog` is the
  system of all of them in any order.
-/

/-- The fields of `PassProductForm`, cleaned one by one. -/
structure PassProductForm where
  name : String
  kind : PassKind
  price : Cents
  creditCount : Option Nat
  validFrom : Option Time
  validUntil : Option Time
  events : List Nat
  isActive : Bool
deriving Repr, DecidableEq

namespace PassProductForm

/-- `PassProductForm.clean`: the fields that fail, with their messages. -/
def errors (form : PassProductForm) : List (String × String) :=
  (match form.kind with
    | .flex =>
      if form.creditCount.getD 0 = 0 then
        [("credit_count", "A flex pass needs a positive credit count.")]
      else []
    | .season =>
      if form.creditCount.getD 0 ≠ 0 then
        [("credit_count", "A season pass doesn't use credits -- leave this blank.")]
      else []) ++
  if form.price < 0 then [("price", "Price can't be negative.")] else []

/-- The constraint `passproduct_credit_shape`. -/
def Shaped (form : PassProductForm) : Prop :=
  (form.kind = .flex ∧ ∃ n ∈ form.creditCount, 0 < n) ∨
    (form.kind = .season ∧ form.creditCount = none)

instance (form : PassProductForm) : Decidable form.Shaped := by unfold Shaped; infer_instance

/-- The row a form is saved to. -/
def row (form : PassProductForm) (h : form.Shaped) (p : PassProduct) : PassProduct where
  id := p.id
  organization := p.organization
  name := form.name
  kind := form.kind
  price := form.price
  creditCount := form.creditCount
  validFrom := form.validFrom
  validUntil := form.validUntil
  events := form.events
  isActive := form.isActive
  creditShape := h

end PassProductForm

/-- `PassProductUpdateView`: the next database, or the validation errors and no change. -/
def savePassProduct (db : Db) (product : Nat) (form : PassProductForm) :
    Except ServiceError (Db × List (String × String)) :=
  if form.errors ≠ [] then .ok (db, form.errors)
  else if h : form.Shaped then
    .ok ({ db with
      passProducts := db.passProducts.update (fun p => p.id == product) (form.row h) }, [])
  else .error (.integrity "passproduct_credit_shape")

/-- `pass_toggle`. -/
def passToggle (db : Db) (product : Nat) : Db :=
  { db with
    passProducts := db.passProducts.update (fun p => p.id == product)
      fun p => { p with isActive := !p.isActive } }

/-- One change of the catalogue. -/
inductive CatalogOp
  | savePassProduct (product : Nat) (form : PassProductForm)
  | passToggle (product : Nat)
  | createEvent (organization : Nat) (title : String)
  | editEvent (event : Nat) (title : String)
  | deleteEvent (event : Nat)

/-- Run one change; validation errors and exceptions leave the database as it was. -/
def execCatalog (op : CatalogOp) (db : Db) : Db :=
  match op with
  | .savePassProduct product form =>
    match savePassProduct db product form with
    | .ok (db', _) => db'
    | .error _ => db
  | .passToggle product => passToggle db product
  | .createEvent organization title =>
    { db with events := db.events.insert fun id => Event.mk id organization title }
  | .editEvent event title =>
    { db with events := db.events.update (fun e => e.id == event) fun e =>
      { e with title := title } }
  | .deleteEvent event =>
    match deleteEvent db event with
    | .ok db' => db'
    | .error _ => db

/-- Any sequence of catalogue changes, from any database. -/
def catalog : System Db CatalogOp := .ofFun (fun _ => True) (fun _ _ => True) execCatalog

/-- Every request for the catalogue is a step of it. -/
theorem catalog_step (db : Db) (op : CatalogOp) : catalog.step db op (execCatalog op db) :=
  ⟨trivial, rfl⟩

/-- **A deletion that goes through**, as far as sold passes go. -/
theorem deleteEvent_passes {db db' : Db} {event : Nat} (h : deleteEvent db event = .ok db') :
    eventProtected db event = false ∧
      db'.passPurchases = db.passPurchases.update (fun _ => true)
        (PassPurchase.dropEvent event) := by
  unfold deleteEvent at h
  split_ifs at h with hp
  cases h
  exact ⟨by simpa using hp, rfl⟩

/-- **What the catalogue does to sold passes.** Nothing, except that a deleted event leaves the
    ones that cover it. -/
theorem execCatalog_passes (op : CatalogOp) (db : Db) :
    (execCatalog op db).passPurchases = db.passPurchases ∨
      ∃ event, op = .deleteEvent event ∧ eventProtected db event = false ∧
        (execCatalog op db).passPurchases
          = db.passPurchases.update (fun _ => true) (PassPurchase.dropEvent event) := by
  cases op with
  | savePassProduct product form =>
    left
    simp only [execCatalog, savePassProduct]
    split_ifs <;> rfl
  | passToggle product => exact .inl rfl
  | createEvent organization title => exact .inl rfl
  | editEvent event title => exact .inl rfl
  | deleteEvent event =>
    rcases hd : deleteEvent db event with e | db'
    · simp only [execCatalog, hd]
      exact .inl trivial
    · simp only [execCatalog, hd]
      obtain ⟨hp, hpasses⟩ := deleteEvent_passes hd
      exact .inr ⟨event, rfl, hp, hpasses⟩

end BoxOffice

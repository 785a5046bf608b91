import BoxOffice.Dashboard.PassProducts
import BoxOffice.Passes.Entitlement

namespace BoxOffice

open Relational Transition

/-!
# Passes — the coverage of a sold pass

A pass that covers no event covers all of them.  A deleted event leaves the covered set of every
pass by the cascade, so deleting the last covered one turns a restricted pass into an all-events
pass.

* `Outside` — the event is outside the pass's covered events, so every performance of it is
  rejected;
* `dropEvent_outside_iff` — a deletion keeps an event outside exactly when it is not the last
  covered one;
* `coverage_never_widens` — the run; `last_event_deleted` — the deletion that widens.
-/

/-- The pass is restricted to events, and this is not one of them. -/
def PassPurchase.Outside (p : PassPurchase) (event : Nat) : Prop :=
  p.coveredEvents ≠ [] ∧ event ∉ p.coveredEvents

/-- An event outside the covered ones is rejected, whatever its dates. -/
theorem PassPurchase.Outside.rejected {p : PassPurchase} {performance : Performance}
    (h : p.Outside performance.event) : passCoversPerformance p performance = false := by
  unfold passCoversPerformance
  have hne : (p.coveredEvents == []) = false := by simpa using h.1
  have hno : p.coveredEvents.contains performance.event = false := by simpa using h.2
  rw [hne, hno]
  rfl

/-- A deletion leaves the pass restricted. -/
def PassPurchase.StaysRestricted (p : PassPurchase) (event : Nat) : Prop :=
  p.coveredEvents ≠ [] → ∃ e ∈ p.coveredEvents, e ≠ event

/-- **One deletion.** A pass that has an event outside still has it outside exactly when another
    event stays covered. -/
theorem dropEvent_outside_iff {p : PassPurchase} {event e : Nat} (h : p.Outside e) :
    (p.dropEvent event).Outside e ↔ p.StaysRestricted event := by
  have hno : e ∉ (p.dropEvent event).coveredEvents :=
    fun hmem => h.2 (List.mem_filter.mp hmem).1
  have hne : (p.dropEvent event).coveredEvents ≠ [] ↔ ∃ x ∈ p.coveredEvents, x ≠ event := by
    unfold PassPurchase.dropEvent
    rw [Ne, List.filter_eq_nil_iff]
    simp
  constructor
  · exact fun hout _ => hne.mp hout.1
  · exact fun hstay => ⟨hne.mpr (hstay h.1), hno⟩

/-- The last event that the pass covers is not deleted. -/
def KeepsCoverage (passPurchase : Nat) (db : Db) : CatalogOp → Prop
  | .deleteEvent event => ∀ p ∈ db.passPurchases.rows, p.id = passPurchase → p.StaysRestricted event
  | _ => True

section Coverage

variable {db db' : Db} {passPurchase event : Nat}

/-- The stored pass has the event outside. -/
def StoredOutside (db : Db) (passPurchase event : Nat) : Prop :=
  ∃ p ∈ db.passPurchases.rows, p.id = passPurchase ∧ p.Outside event

/-- **The step.** -/
theorem execCatalog_outside {op : CatalogOp} (h : StoredOutside db passPurchase event)
    (hc : KeepsCoverage passPurchase db op) :
    StoredOutside (execCatalog op db) passPurchase event := by
  obtain ⟨p, hp, hid, hout⟩ := h
  rcases execCatalog_passes op db with hsame | ⟨gone, rfl, -, hdrop⟩
  · exact ⟨p, by rwa [hsame], hid, hout⟩
  · refine ⟨p.dropEvent gone, ?_, hid, (dropEvent_outside_iff hout).mpr (hc p hp hid)⟩
    rw [hdrop]
    exact Table.mem_update.mpr ⟨p, hp, rfl⟩

/-- **Coverage never widens.** A performance of an event outside the covered ones of a sold pass
    is rejected, and stays rejected over every run of catalogue changes that does not delete the
    last event the pass covers. -/
theorem coverage_never_widens {ops : List CatalogOp} {p : PassPurchase} {performance : Performance}
    (hp : p ∈ db.passPurchases.rows) (hout : p.Outside performance.event)
    (hrun : Run (catalog.restrict (KeepsCoverage p.id)) db ops db') :
    passCoversPerformance p performance = false ∧
    ∀ p' ∈ db'.passPurchases.rows, p'.id = p.id → ∀ performance' : Performance,
      performance'.event = performance.event → passCoversPerformance p' performance' = false := by
  refine ⟨hout.rejected, fun p' hp' hid performance' hevent => ?_⟩
  have hend : StoredOutside db' p.id performance.event := by
    refine hrun.invariant (I := fun db => StoredOutside db p.id performance.event)
      ⟨p, hp, rfl, hout⟩ ?_
    rintro u op v hu ⟨⟨-, rfl⟩, hc⟩
    exact execCatalog_outside hu hc
  obtain ⟨q, hq, hqid, hqout⟩ := hend
  obtain rfl : q = p' := Table.eq_of_key_eq hq hp' (hqid.trans hid.symm)
  exact PassPurchase.Outside.rejected (hevent ▸ hqout)

end Coverage

/-! ### A season of three events -/

/-- The sample theater with three events and a pass on sale for the first two. -/
def threeEvents : Db :=
  { sampleDb with
    events := (sampleDb.events.insert fun id => Event.mk id 1 "Macbeth").insert
      fun id => Event.mk id 1 "Othello"
    passProducts := Table.empty.insert fun id =>
      PassProduct.mk id 1 "Tragedies" .flex 6000 (some 4) none none [1, 2] true
        fourCredits }

/-- The pass is sold. -/
def tragediesSold : Db := (exec (.fulfillPassPurchase 1 1 sampleArgs) ⟨threeEvents, 0⟩).db

/-- A performance of the event that the pass does not cover. -/
def othello : Performance := ⟨2, 1, 3, 1, 6000, .ga, .published, none⟩

/-- Deleting one of the two covered events leaves the third one rejected. -/
theorem coverage_never_widens_tragedies : ∃ p ∈ tragediesSold.passPurchases.rows,
    p.coveredEvents = [1, 2] ∧
    ∀ p' ∈ (execCatalog (.deleteEvent 1) tragediesSold).passPurchases.rows, p'.id = p.id →
      passCoversPerformance p' othello = false := by
  obtain ⟨p, hp, hcovered⟩ : ∃ p ∈ tragediesSold.passPurchases.rows, p.coveredEvents = [1, 2] := by
    decide
  have hout : p.Outside othello.event := by
    unfold PassPurchase.Outside
    rw [hcovered]
    decide
  have hkeeps : KeepsCoverage p.id tragediesSold (.deleteEvent 1) := by
    intro q hq hid _
    rw [Table.eq_of_key_eq hq hp hid, hcovered]
    exact ⟨2, by decide, by decide⟩
  have hrun : Run (catalog.restrict (KeepsCoverage p.id)) tragediesSold [.deleteEvent 1]
      (execCatalog (.deleteEvent 1) tragediesSold) := .single ⟨catalog_step _ _, hkeeps⟩
  have hwide := (coverage_never_widens hp hout hrun).2
  exact ⟨p, hp, hcovered, fun p' hp' hid => hwide p' hp' hid othello rfl⟩

/-- With both covered events deleted, the pass admits to the third. -/
theorem last_event_deleted : ∃ db', Run catalog tragediesSold [.deleteEvent 1, .deleteEvent 2] db' ∧
    (∃ p ∈ tragediesSold.passPurchases.rows, p.Outside othello.event ∧
      passCoversPerformance p othello = false) ∧
    ∃ p ∈ db'.passPurchases.rows, passCoversPerformance p othello = true := by
  refine ⟨execCatalog (.deleteEvent 2) (execCatalog (.deleteEvent 1) tragediesSold),
    .cons (catalog_step _ _) (.single (catalog_step _ _)), ?_, by decide⟩
  obtain ⟨p, hp, hne, hno⟩ : ∃ p ∈ tragediesSold.passPurchases.rows,
      p.coveredEvents ≠ [] ∧ othello.event ∉ p.coveredEvents := by decide
  exact ⟨p, hp, ⟨hne, hno⟩, PassPurchase.Outside.rejected ⟨hne, hno⟩⟩

end BoxOffice

import BoxOffice.Passes.Entitlement
import BoxOffice.Transition.Interleaving

namespace BoxOffice

open Relational Transition

/-!
# Dashboard — interleaved undoing of one order

`refund_order` is one transaction.  `order_cancel` is a sequence of database statements of which
each commits by itself: the read of the order, `void_order`, the list of its redemptions, the
read of the passes they charged, their deletion, one save a pass, and the save of the status.

* `undoStep` is the next statement of a request, `undoing` the interleaving of any number of
  requests on one order;
* `cancel_uninterrupted` says that the statements in a row are `orderCancel`.
-/

/-- How far a cancellation has come, with the rows it has read. -/
inductive CancelStage
  | requested
  | read (order : Order)
  | voided
  | listed (redemptions : List PassRedemption)
  | locked (redemptions : List PassRedemption) (passes : List PassPurchase)
  | saving (redemptions : List PassRedemption) (passes : List PassPurchase)
  | done (cancelled : Bool)

/-- One request of the staff: a cancellation, or a refund with the gateway's answer and its
    result. -/
inductive Undo
  | cancel (stage : CancelStage)
  | refund (gateway : Except String String) (result : Option (Except ServiceError Bool))

/-- `purchase.save(update_fields=…)` on the row, with the values computed from the object `p`. -/
def saveRestored (redemptions : List PassRedemption) (p row : PassPurchase) : PassPurchase :=
  let restored := creditsByPass redemptions p.id
  let new := restoreCredits restored p
  { row with
    creditsRemaining :=
      if p.creditsRemaining.isSome ∧ restored ≠ 0 then new.creditsRemaining
      else row.creditsRemaining
    status :=
      if p.status = .exhausted ∧ 0 < new.creditsRemaining.getD 0 then .active else row.status }

/-- The passes after the object `p` is saved. -/
def savePass (passPurchases : Table PassPurchase) (redemptions : List PassRedemption)
    (p : PassPurchase) : Table PassPurchase :=
  passPurchases.update (fun row => row.id == p.id) (saveRestored redemptions p)

/-- The passes of a list of redemptions, in the order of `credits_by_pass`. -/
def lockedPasses (passPurchases : Table PassPurchase) (redemptions : List PassRedemption) :
    List PassPurchase :=
  (redemptions.map (·.passPurchase)).eraseDups.filterMap passPurchases.get?

/-- The next statement of a cancellation. -/
def cancelStep (order : Nat) (db : Db) : CancelStage → Db × CancelStage
  | .requested =>
    match db.orders.get? order with
    | some o => (db, .read o)
    | none => (db, .done false)
  | .read o =>
    if o.status = .cancelled ∨ o.status = .refunded then (db, .done false)
    else ((voidOrder db o).1, .voided)
  | .voided =>
    let redemptions := redemptionsOf db.passRedemptions order
    if redemptions = [] then (db, .saving [] []) else (db, .listed redemptions)
  | .listed redemptions => (db, .locked redemptions (lockedPasses db.passPurchases redemptions))
  | .locked redemptions passes =>
    ({ db with passRedemptions := db.passRedemptions.delete (fun r => r.order == order) },
      .saving redemptions passes)
  | .saving redemptions (p :: passes) =>
    ({ db with passPurchases := savePass db.passPurchases redemptions p },
      .saving redemptions passes)
  | .saving _ [] => ({ db with orders := setOrderStatus db.orders order .cancelled }, .done true)
  | .done cancelled => (db, .done cancelled)

/-- The next statement of a request. -/
def undoStep (order : Nat) (db : Db) : Undo → Db × Undo
  | .cancel stage => ((cancelStep order db stage).1, .cancel (cancelStep order db stage).2)
  | .refund gateway none =>
    match refundOrder db order gateway with
    | .ok (db', performed) => (db', .refund gateway (some (.ok performed)))
    | .error e => (db, .refund gateway (some (.error e)))
  | .refund gateway (some result) => (db, .refund gateway (some result))

/-- Any number of cancellations and refunds of one order, from the database `db₀`. -/
def undoing (db₀ : Db) (order : Nat) : Processes Db Undo Empty where
  init db := db = db₀
  start
    | .cancel stage => stage = .requested
    | .refund _ result => result = none
  step := undoStep order
  admits _ e := nomatch e
  env e := nomatch e

/-! ### One cancellation by itself -/

section Alone

variable {order : Nat} {redemptions : List PassRedemption} {t : Table PassPurchase}

/-- Saving the values of an up-to-date object restores the row. -/
theorem saveRestored_self (redemptions : List PassRedemption) (p : PassPurchase) :
    saveRestored redemptions p p = restoreCredits (creditsByPass redemptions p.id) p := by
  unfold saveRestored restoreCredits
  rcases p with ⟨id, org, product, guest, o, kind, count, left, vf, vu, covered, status⟩
  cases left with
  | none => cases status <;> simp
  | some c =>
    dsimp only
    by_cases hr : creditsByPass redemptions id = 0
    · simp only [hr, ne_eq, not_true_eq_false, and_false, if_false]
      cases status <;> simp only [Option.getD_some] <;> split_ifs <;> simp_all
    · simp only [hr, ne_eq, not_false_eq_true, Option.isSome_some, and_self, if_true]
      cases status <;> simp only [Option.getD_some] <;> split_ifs <;> simp_all

/-- The locked passes are those some redemption names. -/
theorem mem_lockedPasses {p : PassPurchase} :
    p ∈ lockedPasses t redemptions ↔
      p ∈ t.rows ∧ ∃ r ∈ redemptions, r.passPurchase = p.id := by
  unfold lockedPasses
  simp only [List.mem_filterMap, List.mem_eraseDups, List.mem_map]
  constructor
  · rintro ⟨i, ⟨r, hr, rfl⟩, hp⟩
    exact ⟨Table.get?_mem hp, r, hr, (Table.get?_key hp).symm⟩
  · rintro ⟨hp, r, hr, hrp⟩
    exact ⟨p.id, ⟨r, hr, hrp⟩, Table.get?_eq_some.mpr ⟨hp, rfl⟩⟩

/-- Erasing duplicates leaves none. -/
theorem nodup_eraseDups (l : List Nat) : l.eraseDups.Nodup := by
  induction hn : l.length using Nat.strong_induction_on generalizing l with
  | _ n ih =>
    cases l with
    | nil => exact List.nodup_nil
    | cons a l =>
      rw [List.eraseDups_cons]
      have hlt : (l.filter fun b => !b == a).length < n :=
        hn ▸ Nat.lt_succ_of_le (List.length_filter_le _ _)
      refine List.nodup_cons.mpr ⟨fun h => ?_, ih _ hlt _ rfl⟩
      simpa using (List.mem_filter.mp (List.mem_eraseDups.mp h)).2

/-- No pass is locked twice. -/
theorem lockedPasses_nodup (t : Table PassPurchase) (redemptions : List PassRedemption) :
    ((lockedPasses t redemptions).map (·.id)).Nodup := by
  have hsub : ∀ l : List Nat, ((l.filterMap t.get?).map (·.id)).Sublist l := by
    intro l
    induction l with
    | nil => exact .slnil
    | cons i l ih =>
      cases hp : t.get? i with
      | none =>
        rw [List.filterMap_cons_none hp]
        exact ih.cons i
      | some p =>
        have hid : p.id = i := Table.get?_key hp
        rw [List.filterMap_cons_some hp, List.map_cons, hid]
        exact ih.cons_cons i
  exact (nodup_eraseDups _).sublist (hsub _)

/-- The row after all the objects are saved. -/
def savedRow (redemptions : List PassRedemption) (passes : List PassPurchase)
    (row : PassPurchase) : PassPurchase :=
  match passes.find? (fun p => p.id == row.id) with
  | some p => saveRestored redemptions p row
  | none => row

/-- Saves of different objects touch different rows. -/
theorem foldl_savePass (redemptions : List PassRedemption) {passes : List PassPurchase}
    (hnd : (passes.map (·.id)).Nodup) (t : Table PassPurchase) :
    (passes.foldl (fun t p => savePass t redemptions p) t).rows
      = t.rows.map (savedRow redemptions passes) := by
  induction passes generalizing t with
  | nil => exact (List.map_id _).symm
  | cons p passes ih =>
    rw [List.map_cons, List.nodup_cons] at hnd
    rw [List.foldl_cons, ih hnd.2]
    refine List.map_map.trans (List.map_congr_left fun row _ => ?_)
    by_cases hid : p.id = row.id
    · have hnone : passes.find? (fun q => q.id == row.id) = none :=
        List.find?_eq_none.mpr fun q hq h =>
          hnd.1 (List.mem_map.mpr ⟨q, hq, (beq_iff_eq.mp h).trans hid.symm⟩)
      simp [savedRow, hid, hnone, saveRestored]
    · simp [savedRow, hid, Ne.symm hid]

/-- **All saves in a row** restore the passes of the listed redemptions. -/
theorem foldl_savePass_locked (t : Table PassPurchase) (redemptions : List PassRedemption) :
    (lockedPasses t redemptions).foldl (fun t p => savePass t redemptions p) t
      = t.update (fun p => redemptions.any fun r => r.passPurchase == p.id)
          (fun p => restoreCredits (creditsByPass redemptions p.id) p)
          (fun p => restoreCredits_id _ p) := by
  refine Table.ext ((foldl_savePass _ (lockedPasses_nodup _ _) _).trans ?_) ?_
  -- The saves write each locked pass once, so the order of the saves does not matter.
  · refine List.map_congr_left fun p hp => ?_
    unfold savedRow
    by_cases hany : (redemptions.any fun r => r.passPurchase == p.id) = true
    · obtain ⟨r, hr, hrp⟩ := List.any_eq_true.mp hany
      have hlocked : p ∈ lockedPasses t redemptions :=
        mem_lockedPasses.mpr ⟨hp, r, hr, beq_iff_eq.mp hrp⟩
      rw [if_pos hany]
      cases hfind : (lockedPasses t redemptions).find? (fun q => q.id == p.id) with
      | none => exact absurd (beq_self_eq_true p.id) (List.find?_eq_none.mp hfind p hlocked)
      | some q =>
        have hq := (mem_lockedPasses.mp (List.mem_of_find?_eq_some hfind)).1
        have hqp : q.id = p.id := by simpa using List.find?_some hfind
        obtain rfl := Table.eq_of_key_eq hq hp hqp
        exact saveRestored_self _ _
    · rw [if_neg hany]
      -- A pass without a redemption of the order was not locked.
      have hnone : (lockedPasses t redemptions).find? (fun q => q.id == p.id) = none := by
        refine List.find?_eq_none.mpr fun q hq h => hany ?_
        obtain ⟨-, r, hr, hrq⟩ := mem_lockedPasses.mp hq
        exact List.any_eq_true.mpr ⟨r, hr, beq_iff_eq.mpr (hrq.trans (beq_iff_eq.mp h))⟩
      rw [hnone]
  · have hnext : ∀ (l : List PassPurchase) (t : Table PassPurchase),
        (l.foldl (fun t p => savePass t redemptions p) t).nextId = t.nextId := by
      intro l
      induction l with
      | nil => exact fun _ => rfl
      | cons p l ih => exact fun t => (ih _).trans rfl
    exact hnext _ _

/-- The statements of a cancellation in a row. -/
def cancelRun (order : Nat) : Nat → Db × CancelStage → Db × CancelStage
  | 0, p => p
  | n + 1, p => cancelRun order n (cancelStep order p.1 p.2)

/-- The last statements of a cancellation save the passes one after another, and then the status. -/
theorem cancelRun_saving (order : Nat) (redemptions : List PassRedemption)
    (passes : List PassPurchase) (db : Db) :
    cancelRun order (passes.length + 1) (db, .saving redemptions passes)
      = ({ db with
            passPurchases := passes.foldl (fun t p => savePass t redemptions p) db.passPurchases
            orders := setOrderStatus db.orders order .cancelled }, .done true) := by
  induction passes generalizing db with
  | nil => rfl
  | cons p passes ih =>
    exact ih { db with passPurchases := savePass db.passPurchases redemptions p }

/-- **A cancellation by itself** is `orderCancel`. -/
theorem cancel_uninterrupted {db : Db} {o : Order} (ho : db.orders.get? order = some o) :
    ∃ n cancelled, cancelRun order n (db, .requested) = (orderCancel db o, .done cancelled) := by
  obtain rfl : o.id = order := Table.get?_key ho
  have hread : cancelStep o.id db .requested = (db, .read o) := by simp only [cancelStep, ho]
  by_cases hs : o.status = .cancelled ∨ o.status = .refunded
  -- Nothing to do: the status is read and answered.
  · refine ⟨2, false, ?_⟩
    simp only [cancelRun, hread]
    simp only [cancelStep, orderCancel, if_pos hs]
  · have hvoid : cancelStep o.id db (.read o) = ((voidOrder db o).1, .voided) := by
      simp only [cancelStep, if_neg hs]
    rw [orderCancel, if_neg hs, undoOrder_eq]
    rw [voidOrder_fst] at hvoid
    by_cases hnil : redemptionsOf db.passRedemptions o.id = []
    -- No passes: the two statements on redemptions find nothing.
    · refine ⟨4, true, ?_⟩
      simp only [cancelRun, hread, hvoid]
      simp only [cancelStep, if_pos hnil]
      have hnone : ∀ r ∈ db.passRedemptions.rows, (r.order == o.id) = false := fun r hr => by
        by_contra h
        rw [Bool.not_eq_false, beq_iff_eq] at h
        exact List.ne_nil_of_mem (mem_redemptionsOf.mpr ⟨hr, h⟩) hnil
      have hsame : restoredPasses db o.id = db.passPurchases :=
        Table.update_eq_self fun p _ => by rw [hnil]; rfl
      rw [Table.delete_eq_self hnone, hsame]
    · refine ⟨(lockedPasses db.passPurchases
        (redemptionsOf db.passRedemptions o.id)).length + 1 + 5, true, ?_⟩
      -- Five statements up to the saves, one for each pass, and one for the status.
      have hsaving : ∀ n, cancelRun o.id (n + 5) (db, .requested)
          = cancelRun o.id n ({ db with
                tickets := voidedTickets db.tickets o.id
                gaAllocations := voidedAllocations db o
                passRedemptions := db.passRedemptions.delete fun r => r.order == o.id },
              .saving (redemptionsOf db.passRedemptions o.id)
                (lockedPasses db.passPurchases (redemptionsOf db.passRedemptions o.id))) := by
        intro n
        simp only [cancelRun, hread, hvoid]
        simp only [cancelStep, if_neg hnil]
      rw [hsaving, cancelRun_saving, foldl_savePass_locked]
      rfl

end Alone

end BoxOffice

import BoxOffice.Schema

namespace BoxOffice

open Relational

/-!
# Passes — entitlement predicates and their reversal

The functions of `passes.services`.

* `passCoversPerformance`, `redeemableNow` — the two gates of a redemption;
* `restoreRedemptionsForOrder` — delete the redemptions of an order and give their credits
  back.  Its pieces (`redemptionsOf`, `creditsByPass`, `restoreCredits`) are named because the
  cancellation view runs them as separate database statements.
-/

/-- `pass_covers_performance`: the frozen event set and validity window admit the performance. -/
def passCoversPerformance (p : PassPurchase) (performance : Performance) : Bool :=
  (p.coveredEvents == [] || p.coveredEvents.contains performance.event) &&
    (match p.validFrom with
      | some t => decide (t ≤ performance.startsAt)
      | none => true) &&
    (match p.validUntil with
      | some t => decide (performance.startsAt ≤ t)
      | none => true)

/-- `redeemable_now`: active and not past the end of its window. -/
def redeemableNow (p : PassPurchase) (now : Time) : Bool :=
  p.status == .active &&
    (match p.validUntil with
      | some t => decide (now ≤ t)
      | none => true)

/-- `order.pass_redemptions`. -/
def redemptionsOf (redemptions : Table PassRedemption) (order : Nat) : List PassRedemption :=
  redemptions.rows.filter (fun r => r.order == order)

/-- `credits_by_pass`: the credits a list of redemptions took from one pass. -/
def creditsByPass (redemptions : List PassRedemption) (passPurchase : Nat) : Nat :=
  ((redemptions.filter fun r => r.passPurchase == passPurchase).map (·.creditsUsed)).sum

/-- Put `restored` credits back on a pass; an exhausted pass with credits is active again. -/
def restoreCredits (restored : Nat) (p : PassPurchase) : PassPurchase :=
  let p := match p.creditsRemaining with
    | some credits =>
      if restored ≠ 0 then { p with creditsRemaining := some (credits + restored) } else p
    | none => p
  if p.status = .exhausted ∧ 0 < p.creditsRemaining.getD 0 then { p with status := .active }
  else p

/-- A restore keeps the key of a pass. -/
theorem restoreCredits_id (restored : Nat) (p : PassPurchase) :
    (restoreCredits restored p).id = p.id := by
  unfold restoreCredits
  cases p.creditsRemaining with
  | none => dsimp only; split_ifs <;> rfl
  | some credits => dsimp only; split_ifs <;> rfl

/-- `restore_redemptions_for_order`: the next database and the number of rows reversed. -/
def restoreRedemptionsForOrder (db : Db) (order : Nat) : Db × Nat :=
  let redemptions := redemptionsOf db.passRedemptions order
  if redemptions = [] then (db, 0)
  else
    ({ db with
        passRedemptions := db.passRedemptions.delete (fun r => r.order == order)
        passPurchases := db.passPurchases.update
          (fun p => redemptions.any fun r => r.passPurchase == p.id)
          (fun p => restoreCredits (creditsByPass redemptions p.id) p)
          (fun p => restoreCredits_id _ p) }, redemptions.length)

/-- The passes after the redemptions of an order are reversed. -/
def restoredPasses (db : Db) (order : Nat) : Table PassPurchase :=
  db.passPurchases.update
    (fun p => (redemptionsOf db.passRedemptions order).any fun r => r.passPurchase == p.id)
    (fun p => restoreCredits (creditsByPass (redemptionsOf db.passRedemptions order) p.id) p)
    (fun p => restoreCredits_id _ p)

/-- The redemptions of an order. -/
theorem mem_redemptionsOf {redemptions : Table PassRedemption} {order : Nat}
    {r : PassRedemption} :
    r ∈ redemptionsOf redemptions order ↔ r ∈ redemptions.rows ∧ r.order = order := by
  simp [redemptionsOf]

/-- **`restore_redemptions_for_order`.** The redemptions of the order are gone and their
    credits are back on the passes; nothing else changes. -/
theorem restoreRedemptionsForOrder_fst (db : Db) (order : Nat) :
    (restoreRedemptionsForOrder db order).1 =
      { db with
          passRedemptions := db.passRedemptions.delete (fun r => r.order == order)
          passPurchases := restoredPasses db order } := by
  unfold restoreRedemptionsForOrder restoredPasses
  dsimp only
  by_cases hnil : redemptionsOf db.passRedemptions order = []
  · have hnone : ∀ r ∈ db.passRedemptions.rows, (r.order == order) = false := by
      intro r hr
      by_contra h
      rw [Bool.not_eq_false, beq_iff_eq] at h
      exact List.ne_nil_of_mem (mem_redemptionsOf.mpr ⟨hr, h⟩) hnil
    rw [if_pos hnil, Table.delete_eq_self hnone,
      Table.update_eq_self (fun p _ => by rw [hnil]; rfl)]
  · rw [if_neg hnil]

end BoxOffice

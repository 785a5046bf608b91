import BoxOffice.Dashboard.OrderActions
import BoxOffice.Transition.Apart

namespace BoxOffice

open Relational Transition

/-!
# Dashboard — what undoing an order writes

Any number of cancellations and refunds of one paid order run interleaved, from the database
`db₀`.

* `account` is what a pass was sold with and has left, `returned` the same after credits came
  back; `account_*` push every write through it;
* `Midway` is the invariant of the shared state and `Cancelling` what each request knows at its
  stage;
* `InTime` is the condition on a step, `RefundsApart` the condition on a schedule, and
  `undoingInTime` has the interleavings that meet both;
* `UndoWrite` lists what a step that meets the condition writes, and each lemma about the
  invariant goes through that list once.
-/

/-! ### Accounts -/

/-- What a pass was sold with and what is left of it. -/
def account (passPurchases : Table PassPurchase) (i : Nat) : Option (Option Nat × Option Nat) :=
  (passPurchases.get? i).map fun p => (p.creditCount, p.creditsRemaining)

/-- The account after `k` credits were given back. -/
def returned (k : Nat) (a : Option (Option Nat × Option Nat)) : Option (Option Nat × Option Nat) :=
  a.map fun a => (a.1, a.2.map (· + k))

section Accounts

variable {t : Table PassPurchase} {p : PassPurchase} {i k order : Nat}

/-- Returning no credits changes nothing. -/
@[simp] theorem returned_zero (a : Option (Option Nat × Option Nat)) : returned 0 a = a := by
  rcases a with _ | ⟨n, _ | c⟩ <;> rfl

/-- The account of a stored pass. -/
theorem account_of_mem (hp : p ∈ t.rows) :
    account t p.id = some (p.creditCount, p.creditsRemaining) := by
  have hget : t.get? p.id = some p := Table.get?_eq_some.mpr ⟨hp, rfl⟩
  unfold account
  rw [hget, Option.map_some]

/-- Credits come back to what is left of the pass, and to nothing else. -/
theorem restoreCredits_account (p : PassPurchase) :
    (restoreCredits k p).creditCount = p.creditCount ∧
      (restoreCredits k p).creditsRemaining = p.creditsRemaining.map (· + k) := by
  cases hc : p.creditsRemaining with
  | none =>
    rw [restoreCredits_season hc]
    exact ⟨rfl, hc⟩
  | some c => exact ⟨(restoreCredits_flex hc).2.1, (restoreCredits_flex hc).1⟩

/-- The credits of an order, of no pass outside its redemptions. -/
theorem creditsByPass_eq_zero {redemptions : List PassRedemption}
    (h : (redemptions.any fun r => r.passPurchase == i) = false) :
    creditsByPass redemptions i = 0 := by
  unfold creditsByPass
  rw [List.filter_eq_nil_iff.mpr fun r hr => by simpa using List.any_eq_false.mp h r hr]
  rfl

/-- **A restore, on the accounts.** -/
theorem account_restoredPasses (db : Db) (order i : Nat) :
    account (restoredPasses db order) i
      = returned (creditsByPass (redemptionsOf db.passRedemptions order) i)
          (account db.passPurchases i) := by
  unfold account restoredPasses
  rw [Table.get?_update]
  cases hp : db.passPurchases.get? i with
  | none => rfl
  | some p =>
    obtain rfl : p.id = i := Table.get?_key hp
    simp only [Option.map_some, returned]
    by_cases hany : ((redemptionsOf db.passRedemptions order).any
        fun r => r.passPurchase == p.id) = true
    · rw [if_pos hany, (restoreCredits_account p).1, (restoreCredits_account p).2]
    · rw [if_neg hany, creditsByPass_eq_zero (Bool.not_eq_true _ ▸ hany)]
      simp

/-- A refund of the pass order leaves the accounts alone. -/
theorem account_refundedPasses (t : Table PassPurchase) (order i : Nat) (sold : Bool) :
    account (refundedPasses t order sold) i = account t i := by
  unfold refundedPasses
  cases sold with
  | false => rfl
  | true =>
    unfold account
    rw [if_pos rfl, Table.get?_update]
    cases t.get? i with
    | none => rfl
    | some p =>
      simp only [Option.map_some]
      split_ifs <;> rfl

/-- A save leaves the accounts of the other passes alone. -/
theorem account_save_ne {redemptions : List PassRedemption} (hne : i ≠ p.id) :
    account (savePass t redemptions p) i = account t i := by
  unfold account savePass
  rw [Table.get?_update]
  cases hrow : t.get? i with
  | none => rfl
  | some row =>
    obtain rfl : row.id = i := Table.get?_key hrow
    simp [hne]

/-- A save from an object with the credits of `a` returns the credits of the redemptions to it,
    whether or not another request has done so before. -/
theorem account_save {redemptions : List PassRedemption} {a : Option (Option Nat × Option Nat)}
    (hp : a.map (·.2) = some p.creditsRemaining)
    (h : account t p.id = a ∨ account t p.id = returned (creditsByPass redemptions p.id) a) :
    account (savePass t redemptions p) p.id
      = returned (creditsByPass redemptions p.id) a := by
  obtain ⟨⟨n, c⟩, rfl, rfl⟩ := Option.map_eq_some_iff.mp hp
  unfold account savePass at *
  rw [Table.get?_update]
  cases hrow : t.get? p.id with
  | none => simp [hrow, returned] at h
  | some row =>
    obtain hid : row.id = p.id := Table.get?_key hrow
    simp only [hrow, Option.map_some, returned, Option.some.injEq, Prod.mk.injEq] at h
    simp only [Option.map_some, returned, hid, beq_self_eq_true, if_true, Option.some.injEq,
      Prod.mk.injEq, saveRestored, (restoreCredits_account p).2]
    cases hc : p.creditsRemaining with
    | none =>
      rw [hc] at h
      rcases h with ⟨hn, hl⟩ | ⟨hn, hl⟩ <;> exact ⟨hn, by simpa using hl⟩
    | some c =>
      rw [hc] at h
      by_cases hk : creditsByPass redemptions p.id = 0
      · rw [hk] at h ⊢
        rcases h with ⟨hn, hl⟩ | ⟨hn, hl⟩ <;> exact ⟨hn, by simpa using hl⟩
      · rcases h with ⟨hn, -⟩ | ⟨hn, -⟩ <;> exact ⟨hn, by simp [hk]⟩

end Accounts

/-! ### The invariant -/

/-- The credits that the redemptions of the order took from a pass. -/
def owedCredits (db₀ : Db) (order i : Nat) : Nat :=
  creditsByPass (redemptionsOf db₀.passRedemptions order) i

/-- The inventory of the order was given back, once. -/
def Voided (db₀ : Db) (o : Order) (db : Db) : Prop :=
  db.tickets = voidedTickets db₀.tickets o.id ∧ db.gaAllocations = voidedAllocations db₀ o

/-- The redemptions of the order are deleted. -/
def Withdrawn (db₀ : Db) (o : Order) (db : Db) : Prop :=
  db.passRedemptions = db₀.passRedemptions.delete fun r => r.order == o.id

/-- The shared state while the order is being undone. -/
structure Midway (db₀ : Db) (o : Order) (db : Db) : Prop where
  inventory : (db.tickets = db₀.tickets ∧ db.gaAllocations = db₀.gaAllocations) ∨
    Voided db₀ o db
  /-- No credits come back before the redemptions are deleted. -/
  credits :
    (db.passRedemptions = db₀.passRedemptions ∧
      ∀ i, account db.passPurchases i = account db₀.passPurchases i) ∨
    (Withdrawn db₀ o db ∧ ∀ i, account db.passPurchases i = account db₀.passPurchases i ∨
      account db.passPurchases i = returned (owedCredits db₀ o.id i) (account db₀.passPurchases i))
  /-- The order is paid, or everything it holds was given back. -/
  standing : ∃ o', db.orders.get? o.id = some o' ∧ o'.performance = o.performance ∧
    (o'.status = .paid ∨ Voided db₀ o db ∧ Withdrawn db₀ o db)

/-- The objects still carry the credits the passes had before any of them was given back. -/
def UpToDate (db₀ : Db) (passes : List PassPurchase) : Prop :=
  ∀ p ∈ passes, (account db₀.passPurchases p.id).map (·.2) = some p.creditsRemaining

/-- Every pass that is owed credits is among the objects. -/
def Complete (db₀ : Db) (o : Order) (passes : List PassPurchase) : Prop :=
  ∀ i, owedCredits db₀ o.id i ≠ 0 → account db₀.passPurchases i ≠ none → ∃ p ∈ passes, p.id = i

/-- What a request knows at each of its stages. -/
def Cancelling (db₀ : Db) (o : Order) (db : Db) : Undo → Prop
  | .cancel .requested => True
  | .cancel (.read o') => o'.id = o.id ∧ o'.performance = o.performance
  | .cancel .voided => Voided db₀ o db
  | .cancel (.listed redemptions) =>
    Voided db₀ o db ∧ redemptions = redemptionsOf db₀.passRedemptions o.id
  | .cancel (.locked redemptions passes) =>
    Voided db₀ o db ∧ redemptions = redemptionsOf db₀.passRedemptions o.id ∧
      UpToDate db₀ passes ∧ Complete db₀ o passes
  | .cancel (.saving redemptions passes) =>
    Voided db₀ o db ∧ Withdrawn db₀ o db ∧ UpToDate db₀ passes ∧
      (passes = [] ∨ redemptions = redemptionsOf db₀.passRedemptions o.id)
  | .cancel (.done cancelled) => cancelled = true → Voided db₀ o db ∧ Withdrawn db₀ o db
  | .refund _ result => result = some (.ok true) → Voided db₀ o db ∧ Withdrawn db₀ o db

/-- **The condition on a step.** A cancellation reads the passes while no credits of the order are
    back on them. -/
def InTime (db₀ db : Db) : Undo → Prop
  | .cancel (.listed redemptions) => ∀ p ∈ lockedPasses db.passPurchases redemptions,
    account db.passPurchases p.id = account db₀.passPurchases p.id
  | _ => True

instance (db₀ db : Db) : (l : Undo) → Decidable (InTime db₀ db l)
  | .cancel (.listed redemptions) =>
    inferInstanceAs (Decidable (∀ p ∈ lockedPasses db.passPurchases redemptions,
      account db.passPurchases p.id = account db₀.passPurchases p.id))
  | .cancel .requested | .cancel (.read _) | .cancel .voided | .cancel (.locked _ _)
  | .cancel (.saving _ _) | .cancel (.done _) | .refund _ _ => .isTrue trivial

/-- The cancellation has read the order as one to cancel, and has not saved its status yet. -/
def Undo.Cancels : Undo → Prop
  | .cancel (.read o) => o.status ≠ .cancelled ∧ o.status ≠ .refunded
  | .cancel .voided | .cancel (.listed _) | .cancel (.locked _ _) | .cancel (.saving _ _) => True
  | _ => False

/-- The next move commits a refund of the order. -/
def CommitsRefund (order : Nat) (c : Config Db Undo) (a : Move Undo Empty) : Prop :=
  ∃ i gateway db, a = .act i ∧ c.procs[i]? = some (.refund gateway none) ∧
    refundOrder c.shared order gateway = .ok (db, true)

/-- **The condition on the schedule.** No refund commits between the read of the order by a
    cancellation and the save of its status. -/
def RefundsApart (order : Nat) (c : Config Db Undo) (a : Move Undo Empty) : Prop :=
  Apart (CommitsRefund order) Undo.Cancels c a

/-- The interleavings that meet both conditions. -/
def undoingInTime (db₀ : Db) (order : Nat) : System (Config Db Undo) (Move Undo Empty) :=
  ((undoing db₀ order).systemWhen (InTime db₀)).restrict (RefundsApart order)

/-- What a step that meets the condition writes. -/
inductive UndoWrite (db₀ : Db) (o : Order) (db : Db) : Db → Prop
  | none : UndoWrite db₀ o db db
  | void (o' : Order) (hid : o'.id = o.id) (hperf : o'.performance = o.performance) :
    UndoWrite db₀ o db (voidOrder db o').1
  | withdraw (h : Voided db₀ o db) : UndoWrite db₀ o db
    { db with passRedemptions := db.passRedemptions.delete fun r => r.order == o.id }
  | save (redemptions : List PassRedemption) (p : PassPurchase) (hw : Withdrawn db₀ o db)
    (hr : redemptions = redemptionsOf db₀.passRedemptions o.id)
    (hp : (account db₀.passPurchases p.id).map (·.2) = some p.creditsRemaining) :
    UndoWrite db₀ o db { db with passPurchases := savePass db.passPurchases redemptions p }
  | cancel (hv : Voided db₀ o db) (hw : Withdrawn db₀ o db) :
    UndoWrite db₀ o db { db with orders := setOrderStatus db.orders o.id .cancelled }
  | refund (o' : Order) (ho : db.orders.get? o.id = some o') (provider : Provider)
    (refundRef : String) : UndoWrite db₀ o db (refundedDb db o' provider refundRef)

section Steps

variable {db₀ db db' : Db} {o : Order} {l : Undo}

/-! ### Voiding twice -/

/-- A voided order has no live tickets. -/
theorem liveTicketsOf_voided (hv : Voided db₀ o db) : liveTicketsOf db o.id = [] := by
  refine List.eq_nil_iff_forall_not_mem.mpr fun t ht => ?_
  obtain ⟨hmem, horder, hlive⟩ := mem_liveTicketsOf.mp ht
  rw [hv.1] at hmem
  obtain ⟨u, -, rfl⟩ := Table.mem_update.mp hmem
  by_cases hu : u.order = o.id
  · simp [hu, Ticket.Live] at hlive
  · simp [hu] at horder

/-- Voiding tickets twice is voiding them once. -/
theorem voidedTickets_twice (t : Table Ticket) (order : Nat) :
    voidedTickets (voidedTickets t order) order = voidedTickets t order := by
  refine Table.ext ?_ rfl
  refine List.map_map.trans (List.map_congr_left fun u _ => ?_)
  by_cases hu : u.order = order <;> simp [hu]

/-- The order row enters a void by its key and performance, the database by two tables. -/
theorem voidedAllocations_congr {o' : Order} (ht : db.tickets = db₀.tickets)
    (hg : db.gaAllocations = db₀.gaAllocations) (hid : o'.id = o.id)
    (hperf : o'.performance = o.performance) :
    voidedAllocations db o' = voidedAllocations db₀ o := by
  unfold voidedAllocations gaCount liveTicketsOf returnToAllocation allocationOf
  rw [hperf, hid, ht, hg]

/-- **Voiding.** Whether or not it happened before, the inventory is given back once. -/
theorem Midway.voided (hg : Midway db₀ o db) {o' : Order} (hid : o'.id = o.id)
    (hperf : o'.performance = o.performance) :
    voidedTickets db.tickets o'.id = voidedTickets db₀.tickets o.id ∧
      voidedAllocations db o' = voidedAllocations db₀ o := by
  rcases hg.inventory with ⟨ht, hga⟩ | hv
  · exact ⟨by rw [hid, ht], voidedAllocations_congr ht hga hid hperf⟩
  · refine ⟨by rw [hid, hv.1, voidedTickets_twice], ?_⟩
    rw [← hv.2]
    have hcount : gaCount db o'.id = 0 := by
      unfold gaCount
      rw [hid, liveTicketsOf_voided hv]
      rfl
    unfold voidedAllocations
    rw [hcount]
    cases o'.performance <;> rfl

/-! ### Withdrawing twice -/

/-- Once withdrawn, the order has no redemptions. -/
theorem redemptionsOf_withdrawn (hw : Withdrawn db₀ o db) :
    redemptionsOf db.passRedemptions o.id = [] := by
  refine List.eq_nil_iff_forall_not_mem.mpr fun r hr => ?_
  obtain ⟨hmem, horder⟩ := mem_redemptionsOf.mp hr
  rw [hw] at hmem
  have := (Table.mem_delete.mp hmem).2
  simp [horder] at this

/-- Without redemptions there are none to delete. -/
theorem delete_redemptions_nil {t : Table PassRedemption} {order : Nat}
    (h : redemptionsOf t order = []) : t.delete (fun r => r.order == order) = t :=
  Table.delete_eq_self fun r hr => by
    by_contra hne
    rw [Bool.not_eq_false, beq_iff_eq] at hne
    exact List.ne_nil_of_mem (mem_redemptionsOf.mpr ⟨hr, hne⟩) h

/-- At every moment, deleting the redemptions gives the same table. -/
theorem Midway.withdrawn (hg : Midway db₀ o db) :
    db.passRedemptions.delete (fun r => r.order == o.id)
      = db₀.passRedemptions.delete fun r => r.order == o.id := by
  rcases hg.credits with ⟨hr, -⟩ | ⟨hw, -⟩
  · rw [hr]
  · rw [delete_redemptions_nil (redemptionsOf_withdrawn hw), hw]

/-- The accounts after a restore, whether or not the redemptions were there. -/
theorem Midway.restored (hg : Midway db₀ o db) (i : Nat) :
    account (restoredPasses db o.id) i = account db₀.passPurchases i ∨
      account (restoredPasses db o.id) i
        = returned (owedCredits db₀ o.id i) (account db₀.passPurchases i) := by
  rw [account_restoredPasses]
  rcases hg.credits with ⟨hr, ha⟩ | ⟨hw, ha⟩
  · exact .inr (by rw [hr, ha]; rfl)
  · rw [redemptionsOf_withdrawn hw, show creditsByPass [] i = 0 from rfl, returned_zero]
    exact ha i

/-! ### One step -/

/-- The order keeps its key and its performance. -/
theorem Midway.order (hg : Midway db₀ o db) {o' : Order} (ho : db.orders.get? o.id = some o') :
    o'.id = o.id ∧ o'.performance = o.performance := by
  obtain ⟨o'', ho'', hperf, -⟩ := hg.standing
  obtain rfl : o' = o'' := Option.some.inj (ho.symm.trans ho'')
  exact ⟨Table.get?_key ho, hperf⟩

/-- An order after its status was set. -/
theorem get?_setOrderStatus (orders : Table Order) (order : Nat) (status : OrderStatus) :
    (setOrderStatus orders order status).get? order
      = (orders.get? order).map fun o => { o with status := status } := by
  unfold setOrderStatus
  rw [Table.get?_update]
  cases ho : orders.get? order with
  | none => rfl
  | some o =>
    obtain hid : o.id = order := Table.get?_key ho
    simp [hid]

/-- What was given back stays given back. -/
theorem UndoWrite.keepsVoided (hw : UndoWrite db₀ o db db') (hg : Midway db₀ o db)
    (hv : Voided db₀ o db) : Voided db₀ o db' := by
  cases hw with
  | none => exact hv
  | void o' hid hperf =>
    rw [voidOrder_fst]
    exact hg.voided hid hperf
  | withdraw => exact hv
  | save => exact hv
  | cancel => exact hv
  | refund o' ho =>
    rw [refundedDb_eq]
    exact hg.voided (hg.order ho).1 (hg.order ho).2

/-- A write keeps the redemptions withdrawn. -/
theorem UndoWrite.keepsWithdrawn (hw : UndoWrite db₀ o db db') (hg : Midway db₀ o db)
    (h : Withdrawn db₀ o db) : Withdrawn db₀ o db' := by
  cases hw with
  | none => exact h
  | void o' hid hperf =>
    rw [voidOrder_fst]
    exact h
  | withdraw => exact hg.withdrawn
  | save => exact h
  | cancel => exact h
  | refund o' ho =>
    rw [refundedDb_eq, (hg.order ho).1]
    exact hg.withdrawn

/-- A step that leaves the order rows alone leaves the order's standing alone. -/
theorem UndoWrite.standing (hw : UndoWrite db₀ o db db') (hg : Midway db₀ o db)
    (horders : db'.orders = db.orders) :
    ∃ o', db'.orders.get? o.id = some o' ∧ o'.performance = o.performance ∧
      (o'.status = .paid ∨ Voided db₀ o db' ∧ Withdrawn db₀ o db') := by
  obtain ⟨o', ho, hperf, hstatus⟩ := hg.standing
  refine ⟨o', by rw [horders, ho], hperf, ?_⟩
  exact hstatus.imp id fun h => ⟨hw.keepsVoided hg h.1, hw.keepsWithdrawn hg h.2⟩

/-- The account of each pass is as it was, or has the credits back. -/
theorem Midway.accounts (hg : Midway db₀ o db) (i : Nat) :
    account db.passPurchases i = account db₀.passPurchases i ∨ account db.passPurchases i
      = returned (owedCredits db₀ o.id i) (account db₀.passPurchases i) := by
  rcases hg.credits with ⟨-, ha⟩ | ⟨-, ha⟩
  · exact .inl (ha i)
  · exact ha i

/-- **The step.** -/
theorem UndoWrite.midway (hw : UndoWrite db₀ o db db') (hg : Midway db₀ o db) :
    Midway db₀ o db' := by
  cases hw with
  | none => exact hg
  | void o' hid hperf =>
    -- Voiding comes first, and is the same however often it happens.
    have hw : UndoWrite db₀ o db (voidOrder db o').1 := .void o' hid hperf
    have hstand := hw.standing hg (by rw [voidOrder_fst])
    rw [voidOrder_fst] at hstand ⊢
    exact ⟨.inr (hg.voided hid hperf), hg.credits, hstand⟩
  | withdraw hv =>
    have hw := UndoWrite.withdraw hv
    exact ⟨.inr hv, .inr ⟨hg.withdrawn, hg.accounts⟩, hw.standing hg rfl⟩
  | save redemptions p hwd hr hp =>
    have hw := UndoWrite.save redemptions p hwd hr hp
    refine ⟨hg.inventory, .inr ⟨hwd, fun i => ?_⟩, hw.standing hg rfl⟩
    -- The credits of this pass are returned; those of the others are as they were.
    by_cases hi : i = p.id
    · subst hi hr
      exact .inr (account_save hp (hg.accounts p.id))
    · show account (savePass _ _ _) i = _ ∨ account (savePass _ _ _) i = _
      rw [account_save_ne hi]
      exact hg.accounts i
  | cancel hv hwd =>
    -- The status is written when everything else is done.
    refine ⟨hg.inventory, hg.credits, ?_⟩
    obtain ⟨o', ho, hperf, -⟩ := hg.standing
    refine ⟨{ o' with status := .cancelled }, ?_, hperf, .inr ⟨hv, hwd⟩⟩
    show (setOrderStatus db.orders o.id .cancelled).get? o.id = _
    rw [get?_setOrderStatus, ho]
    rfl
  | refund o' ho provider refundRef =>
    -- A refund does all of it in one transaction.
    obtain ⟨hid, hperf⟩ := hg.order ho
    have hv := hg.voided hid hperf
    have hwd := hg.withdrawn
    rw [refundedDb_eq, hid]
    rw [hid] at hv
    refine ⟨.inr hv, .inr ⟨hwd, fun i => ?_⟩, ?_⟩
    · show account (refundedPasses _ _ _) i = _ ∨ account (refundedPasses _ _ _) i = _
      rw [account_refundedPasses]
      exact hg.restored i
    · refine ⟨{ o' with status := .refunded }, ?_, hperf, .inr ⟨hv, hwd⟩⟩
      show (setOrderStatus db.orders o.id .refunded).get? o.id = _
      rw [get?_setOrderStatus, ho]
      rfl

/-- A pass that is owed credits has a redemption and still exists, so it is locked. -/
theorem Midway.complete_lockedPasses {redemptions : List PassRedemption} (hg : Midway db₀ o db)
    (hr : redemptions = redemptionsOf db₀.passRedemptions o.id) :
    Complete db₀ o (lockedPasses db.passPurchases redemptions) := by
  intro i hk hi
  have hany : ((redemptionsOf db₀.passRedemptions o.id).any
      fun r => r.passPurchase == i) = true := by
    by_contra hno
    exact hk (creditsByPass_eq_zero (Bool.not_eq_true _ ▸ hno))
  obtain ⟨r, hmem, hri⟩ := List.any_eq_true.mp hany
  have hsome : account db.passPurchases i ≠ none := by
    rcases hg.accounts i with h | h
    · rwa [h]
    · rw [h]
      simpa [returned] using hi
  obtain ⟨p, hp⟩ : ∃ p, db.passPurchases.get? i = some p := by
    cases hget : db.passPurchases.get? i with
    | none => exact absurd (by rw [account, hget]; rfl) hsome
    | some p => exact ⟨p, rfl⟩
  have hpi : p.id = i := Table.get?_key hp
  refine ⟨p, mem_lockedPasses.mpr ⟨Table.get?_mem hp, r, hr ▸ hmem, ?_⟩, hpi⟩
  rw [hpi]
  exact beq_iff_eq.mp hri

/-- **The step, of one request.** It writes one of the six ways, and knows afterwards what its
    new stage says. -/
theorem cancelStep_spec {stage : CancelStage} (hg : Midway db₀ o db)
    (ha : Cancelling db₀ o db (.cancel stage)) (hc : InTime db₀ db (.cancel stage)) :
    UndoWrite db₀ o db (cancelStep o.id db stage).1 ∧
      Cancelling db₀ o (cancelStep o.id db stage).1 (.cancel (cancelStep o.id db stage).2) := by
  cases stage with
  | requested =>
    obtain ⟨o', ho, hperf, -⟩ := hg.standing
    simp only [cancelStep, ho]
    exact ⟨.none, Table.get?_key ho, hperf⟩
  | read o' =>
    obtain ⟨hid, hperf⟩ := ha
    by_cases hs : o'.status = .cancelled ∨ o'.status = .refunded
    · simp only [cancelStep, if_pos hs]
      exact ⟨.none, fun h => by cases h⟩
    · simp only [cancelStep, if_neg hs]
      refine ⟨.void o' hid hperf, ?_⟩
      rw [voidOrder_fst]
      exact hg.voided hid hperf
  | voided =>
    by_cases hnil : redemptionsOf db.passRedemptions o.id = []
    · simp only [cancelStep, if_pos hnil]
      refine ⟨.none, ha, ?_, (fun p hp => by cases hp), .inl rfl⟩
      -- Nothing is listed, so nothing is left to delete.
      rcases hg.credits with ⟨hr, -⟩ | ⟨hw, -⟩
      · show db.passRedemptions = _
        rw [hr] at hnil ⊢
        exact (delete_redemptions_nil hnil).symm
      · exact hw
    · simp only [cancelStep, if_neg hnil]
      refine ⟨.none, ha, ?_⟩
      rcases hg.credits with ⟨hr, -⟩ | ⟨hw, -⟩
      · rw [hr]
      · exact absurd (redemptionsOf_withdrawn hw) hnil
  | listed redemptions =>
    obtain ⟨hv, hr⟩ := ha
    refine ⟨.none, hv, hr, fun p hp => ?_, hg.complete_lockedPasses hr⟩
    rw [← hc p hp, account_of_mem (mem_lockedPasses.mp hp).1]
    rfl
  | locked redemptions passes =>
    obtain ⟨hv, hr, hu, -⟩ := ha
    exact ⟨.withdraw hv, hv, hg.withdrawn, hu, .inr hr⟩
  | saving redemptions passes =>
    obtain ⟨hv, hw, hu, hr⟩ := ha
    cases passes with
    | nil => exact ⟨.cancel hv hw, fun _ => ⟨hv, hw⟩⟩
    | cons p passes =>
      have hr : redemptions = redemptionsOf db₀.passRedemptions o.id :=
        hr.resolve_left (List.cons_ne_nil _ _)
      exact ⟨.save redemptions p hw hr (hu p (List.mem_cons_self ..)), hv, hw,
        fun q hq => hu q (List.mem_cons_of_mem _ hq), .inr hr⟩
  | done cancelled => exact ⟨.none, ha⟩

/-- **The step.** A request writes one of the listed changes and knows what its next stage needs. -/
theorem undoStep_spec (hg : Midway db₀ o db) (ha : Cancelling db₀ o db l)
    (hc : InTime db₀ db l) :
    UndoWrite db₀ o db (undoStep o.id db l).1 ∧
      Cancelling db₀ o (undoStep o.id db l).1 (undoStep o.id db l).2 := by
  cases l with
  | cancel stage => exact cancelStep_spec hg ha hc
  | refund gateway result =>
    cases result with
    | some result => exact ⟨.none, ha⟩
    | none =>
      rcases href : refundOrder db o.id gateway with e | ⟨db', performed⟩
      · simp only [undoStep, href]
        exact ⟨.none, fun h => by cases h⟩
      · simp only [undoStep, href]
        obtain ⟨o', ho, ⟨-, rfl, rfl⟩ | ⟨-, rfl, -, provider, refundRef, rfl⟩⟩ :=
          refundOrder_ok href
        · exact ⟨.none, fun h => by cases h⟩
        · refine ⟨.refund o' ho provider refundRef, fun _ => ?_⟩
          obtain ⟨hid, hperf⟩ := hg.order ho
          have hv := hg.voided hid hperf
          have hwd := hg.withdrawn
          rw [refundedDb_eq, hid]
          rw [hid] at hv
          exact ⟨hv, hwd⟩

/-- What a request knows, the writes of the others leave true. -/
theorem Cancelling.stable (hg : Midway db₀ o db) (hw : UndoWrite db₀ o db db')
    (ha : Cancelling db₀ o db l) : Cancelling db₀ o db' l := by
  have hv : Voided db₀ o db → Voided db₀ o db' := hw.keepsVoided hg
  have hwd : Withdrawn db₀ o db → Withdrawn db₀ o db' := hw.keepsWithdrawn hg
  cases l with
  | cancel stage =>
    cases stage with
    | requested => trivial
    | read o' => exact ha
    | voided => exact hv ha
    | listed redemptions => exact ⟨hv ha.1, ha.2⟩
    | locked redemptions passes => exact ⟨hv ha.1, ha.2⟩
    | saving redemptions passes => exact ⟨hv ha.1, hwd ha.2.1, ha.2.2⟩
    | done cancelled => exact fun h => ⟨hv (ha h).1, hwd (ha h).2⟩
  | refund gateway result => exact fun h => ⟨hv (ha h).1, hwd (ha h).2⟩

end Steps

end BoxOffice

import BoxOffice.Dashboard.Undoing

namespace BoxOffice

open Relational Transition

/-!
# Dashboard — undoing an order exactly once

Two schedules of cancellations and refunds of one order go wrong:

* a cancellation that listed the redemptions reads the passes after another request has put the
  credits back on them, and adds the credits a second time; `InTime` rules the read out;
* a refund commits between the read of the order by a cancellation and the save of its status,
  which overwrites `REFUNDED`; `RefundsApart` rules the refund out.

`undone_once` says that in every other schedule the undo happens once; `order_undone_twice` runs
the two.
-/

/-! ### Every schedule -/

section Schedules

variable {db₀ : Db} {o : Order} {c c' : Config Db Undo}

/-- The database before the first request. -/
theorem Midway.initial (ho : db₀.orders.get? o.id = some o) (hpaid : o.status = .paid) :
    Midway db₀ o db₀ :=
  ⟨.inl ⟨rfl, rfl⟩, .inl ⟨rfl, fun _ => rfl⟩, o, ho, rfl, .inl hpaid⟩

/-- No request invalidates what another one knows. -/
theorem undoing_interference (db₀ : Db) (o : Order) :
    Interference (undoing db₀ o.id) (InTime db₀) (Midway db₀ o) (Cancelling db₀ o) where
  start db l _ hl := by
    cases l with
    | cancel stage => cases hl; trivial
    | refund gateway result => cases hl; exact fun h => by cases h
  step db l hg ha hc :=
    have h := undoStep_spec hg ha hc
    ⟨h.1.midway hg, h.2⟩
  stable db l k hg ha hc hk := hk.stable hg (undoStep_spec hg ha hc).1
  env _ e := nomatch e
  envStable _ e := nomatch e

/-- **The run.** The invariant, and what each request knows, at every moment. -/
theorem undoing_asserted (ho : db₀.orders.get? o.id = some o) (hpaid : o.status = .paid)
    (h : Reachable ((undoing db₀ o.id).systemWhen (InTime db₀)) c) :
    Asserted (Midway db₀ o) (Cancelling db₀ o) c :=
  (undoing_interference db₀ o).reachable
    (fun _ hinit => hinit.symm ▸ Midway.initial ho hpaid) h

/-! ### No credits are forgotten -/

/-- The request still has to save the pass `i`. -/
def Undo.Owes (i : Nat) : Undo → Prop
  | .cancel (.saving _ passes) => ∃ p ∈ passes, p.id = i
  | _ => False

/-- The credits owed to the pass `i` are back on it, or a request is about to save them. -/
def PassSettled (db₀ : Db) (o : Order) (c : Config Db Undo) (i : Nat) : Prop :=
  account c.shared.passPurchases i
      = returned (owedCredits db₀ o.id i) (account db₀.passPurchases i) ∨
    ∃ l ∈ c.procs, l.Owes i

/-- Once the redemptions are deleted, every pass is settled. -/
def Covered (db₀ : Db) (o : Order) (c : Config Db Undo) : Prop :=
  c.shared.passRedemptions = db₀.passRedemptions ∨ ∀ i, PassSettled db₀ o c i

/-- A pass that nobody saves keeps its account. -/
theorem Midway.settled_of_zero {db : Db} (hg : Midway db₀ o db) {i : Nat}
    (h : owedCredits db₀ o.id i = 0 ∨ account db₀.passPurchases i = none) :
    account db.passPurchases i
      = returned (owedCredits db₀ o.id i) (account db₀.passPurchases i) := by
  rcases hg.accounts i with ha | ha
  · rw [ha]
    rcases h with h | h
    · rw [h, returned_zero]
    · rw [h]; rfl
  · exact ha

/-- A step of a request that owes nothing, and keeps the accounts, keeps the passes settled. -/
theorem PassSettled.act {i j : Nat} {l k : Undo} {db : Db} (h : PassSettled db₀ o c j)
    (hl : c.procs[i]? = some l) (ha : account db.passPurchases j = account c.shared.passPurchases j)
    (hk : l.Owes j → k.Owes j) : PassSettled db₀ o ⟨db, c.procs.set i k⟩ j := by
  rcases h with h | ⟨m, hm, hmj⟩
  · exact .inl (ha.trans h)
  · right
    obtain ⟨n, hn⟩ := List.mem_iff_getElem?.mp hm
    by_cases hni : n = i
    · subst hni
      obtain rfl : l = m := Option.some.inj (hl.symm.trans hn)
      exact ⟨k, List.mem_set (List.getElem?_eq_some_iff.mp hl).1 k, hk hmj⟩
    · refine ⟨m, List.mem_iff_getElem?.mpr ⟨n, ?_⟩, hmj⟩
      rw [List.getElem?_set_ne (Ne.symm hni)]
      exact hn

/-- A step that writes neither redemptions nor accounts, and forgets no save. -/
theorem Covered.act {i : Nat} {l k : Undo} {db : Db} (h : Covered db₀ o c)
    (hl : c.procs[i]? = some l) (hr : db.passRedemptions = c.shared.passRedemptions)
    (ha : ∀ j, account db.passPurchases j = account c.shared.passPurchases j)
    (hk : ∀ j, l.Owes j → k.Owes j) : Covered db₀ o ⟨db, c.procs.set i k⟩ :=
  h.imp (fun h => hr.trans h) fun h j => (h j).act hl (ha j) (hk j)

/-- The next statement of a cancellation leaves every pass settled. -/
theorem Covered.cancel {i : Nat} {stage : CancelStage} (h : Covered db₀ o c)
    (hg : Midway db₀ o c.shared) (hl : c.procs[i]? = some (.cancel stage))
    (ha : Cancelling db₀ o c.shared (.cancel stage)) :
    Covered db₀ o ⟨(cancelStep o.id c.shared stage).1,
      c.procs.set i (.cancel (cancelStep o.id c.shared stage).2)⟩ := by
  -- Until the passes are locked the cancellation owes nothing and pays nothing.
  cases stage with
  | requested =>
    refine h.act hl ?_ (fun j => ?_) fun j hj => hj.elim
    all_goals simp only [cancelStep]; split <;> rfl
  | read o' =>
    refine h.act hl ?_ (fun j => ?_) fun j hj => hj.elim
    all_goals
      simp only [cancelStep]
      split
      · rfl
      · rw [voidOrder_fst]
  | voided =>
    refine h.act hl ?_ (fun j => ?_) fun j hj => hj.elim
    all_goals simp only [cancelStep]; split <;> rfl
  | listed redemptions => exact h.act hl rfl (fun _ => rfl) fun j hj => hj.elim
  | locked redemptions passes =>
    obtain ⟨-, -, -, hcomplete⟩ := ha
    refine .inr fun j => ?_
    by_cases hzero : owedCredits db₀ o.id j = 0 ∨ account db₀.passPurchases j = none
    · exact .inl (hg.settled_of_zero hzero)
    · -- From here on the request owes the credits itself.
      rw [not_or] at hzero
      exact .inr ⟨_, List.mem_set (List.getElem?_eq_some_iff.mp hl).1 _,
        hcomplete j hzero.1 hzero.2⟩
  | saving redemptions passes =>
    obtain ⟨-, -, hu, hr⟩ := ha
    cases passes with
    | nil =>
      refine h.act hl rfl (fun _ => rfl) ?_
      rintro j ⟨p, hp, -⟩
      cases hp
    | cons p passes =>
      -- A save settles its own pass and is no business of the others.
      refine h.imp id fun h j => ?_
      by_cases hj : j = p.id
      · subst hj
        have hr := hr.resolve_left (List.cons_ne_nil _ _)
        subst hr
        exact .inl (account_save (hu p (List.mem_cons_self ..)) (hg.accounts p.id))
      · refine (h j).act hl (account_save_ne hj) ?_
        rintro ⟨q, hq, rfl⟩
        rcases List.mem_cons.mp hq with rfl | hq
        · exact absurd rfl hj
        · exact ⟨q, hq, rfl⟩
  | done cancelled => exact h.act hl rfl (fun _ => rfl) fun j hj => hj.elim

/-- A refund leaves every pass settled. -/
theorem Covered.refund {i : Nat} {gateway : Except String String}
    {result : Option (Except ServiceError Bool)} (h : Covered db₀ o c)
    (hg : Midway db₀ o c.shared) (hl : c.procs[i]? = some (.refund gateway result)) :
    Covered db₀ o ⟨(undoStep o.id c.shared (.refund gateway result)).1,
      c.procs.set i (undoStep o.id c.shared (.refund gateway result)).2⟩ := by
  cases result with
  | some result => exact h.act hl rfl (fun _ => rfl) fun j hj => hj.elim
  | none =>
    rcases href : refundOrder c.shared o.id gateway with e | ⟨db', performed⟩
    · simp only [undoStep, href]
      exact h.act hl rfl (fun _ => rfl) fun j hj => hj.elim
    · simp only [undoStep, href]
      obtain ⟨o', ho, ⟨-, rfl, -⟩ | ⟨-, -, -, provider, refundRef, rfl⟩⟩ := refundOrder_ok href
      · exact h.act hl rfl (fun _ => rfl) fun j hj => hj.elim
      · rw [refundedDb_eq, (hg.order ho).1]
        have hacc : ∀ j, account (refundedPasses (restoredPasses c.shared o.id) o.id
            (soldAPass c.shared o.id)) j
            = returned (creditsByPass (redemptionsOf c.shared.passRedemptions o.id) j)
                (account c.shared.passPurchases j) :=
          fun j => (account_refundedPasses _ _ _ _).trans (account_restoredPasses _ _ _)
        by_cases hnil : redemptionsOf c.shared.passRedemptions o.id = []
        · refine h.act hl (delete_redemptions_nil hnil) (fun j => ?_) fun j hj => hj.elim
          rw [hacc, hnil]
          exact returned_zero _
        · rcases hg.credits with ⟨hr, ha⟩ | ⟨hw, -⟩
          · exact .inr fun j => .inl ((hacc j).trans (by rw [hr, ha]; rfl))
          · exact absurd (redemptionsOf_withdrawn hw) hnil

/-- **The run.** The passes are settled at every moment after the redemptions are deleted. -/
theorem undoing_covered (ho : db₀.orders.get? o.id = some o) (hpaid : o.status = .paid)
    (h : Reachable ((undoing db₀ o.id).systemWhen (InTime db₀)) c) : Covered db₀ o c := by
  have hboth : Asserted (Midway db₀ o) (Cancelling db₀ o) c ∧ Covered db₀ o c := by
    refine h.invariant
      (I := fun c => Asserted (Midway db₀ o) (Cancelling db₀ o) c ∧ Covered db₀ o c) ?_ ?_
    · rintro c ⟨hinit, hprocs⟩
      refine ⟨⟨hinit.symm ▸ Midway.initial ho hpaid, by rw [hprocs]; simp⟩, .inl ?_⟩
      rw [show c.shared = db₀ from hinit]
    · rintro d a d' ⟨hd, hcov⟩ hs
      refine ⟨(undoing_interference db₀ o).preserves hs hd, ?_⟩
      rcases Processes.step_cases hs with ⟨l, -, -, rfl⟩ | ⟨i, l, hl, -, -, rfl⟩ | ⟨e, -⟩
      · refine hcov.imp id fun h j => (h j).imp id ?_
        rintro ⟨m, hm, hmj⟩
        exact ⟨m, List.mem_append_left _ hm, hmj⟩
      · have hal := hd.2 l (List.mem_of_getElem? hl)
        cases l with
        | cancel stage => exact hcov.cancel hd.1 hl hal
        | refund gateway result => exact hcov.refund hd.1 hl
      · exact nomatch e
  exact hboth.2

/-! ### A refund stands -/

/-- The stored status of the order is `REFUNDED`. -/
def Refunded (order : Nat) (db : Db) : Prop :=
  ∃ o, db.orders.get? order = some o ∧ o.status = .refunded

/-- Whether an order is refunded depends on the orders only. -/
theorem Refunded.congr {db db' : Db} {order : Nat} (h : db'.orders = db.orders) :
    Refunded order db' ↔ Refunded order db := by
  unfold Refunded
  rw [h]

/-- Only the save of the status, and a refund that commits, write to the order. -/
theorem undoStep_orders {db : Db} {order : Nat} {l : Undo}
    (hsave : ∀ redemptions, l ≠ .cancel (.saving redemptions []))
    (hrefund : ∀ gateway db', l = .refund gateway none →
      refundOrder db order gateway ≠ .ok (db', true)) :
    (undoStep order db l).1.orders = db.orders := by
  cases l with
  | refund gateway result =>
    cases result with
    | some result => rfl
    | none =>
      rcases href : refundOrder db order gateway with e | ⟨db', performed⟩
      · simp only [undoStep, href]
      · simp only [undoStep, href]
        -- It found the order not paid, or it commits, which is excluded.
        obtain ⟨o', -, ⟨-, rfl, -⟩ | ⟨-, rfl, -⟩⟩ := refundOrder_ok href
        · rfl
        · exact absurd href (hrefund gateway db' rfl)
  | cancel stage =>
    cases stage with
    | requested => simp only [undoStep, cancelStep]; split <;> rfl
    | read o' =>
      simp only [undoStep, cancelStep]
      split
      · rfl
      · rw [voidOrder_fst]
    | voided => simp only [undoStep, cancelStep]; split <;> rfl
    | listed redemptions => rfl
    | locked redemptions passes => rfl
    | saving redemptions passes =>
      cases passes with
      | nil => exact absurd rfl (hsave redemptions)
      | cons p passes => rfl
    | done cancelled => rfl

/-- The save of the status leaves no refunded order. -/
theorem not_refunded_cancelled (db : Db) (order : Nat) :
    ¬Refunded order { db with orders := setOrderStatus db.orders order .cancelled } := by
  rintro ⟨o, ho, hs⟩
  rw [get?_setOrderStatus] at ho
  obtain ⟨o', -, rfl⟩ := Option.map_eq_some_iff.mp ho
  cases hs

/-- **While a cancellation is under way, the order is not refunded.** The cancellation has read
    another status, and nobody refunds the order before it saves its own. -/
theorem undoing_relied (db₀ : Db) (order : Nat) :
    Relied (undoing db₀ order) (InTime db₀) (CommitsRefund order) Undo.Cancels
      fun db => ¬Refunded order db where
  start l hl := by
    cases l with
    | cancel stage => cases hl; exact id
    | refund gateway result => exact id
  enter db l _ hl hbusy := by
    cases l with
    | refund gateway result =>
      cases result with
      | some result => exact hbusy.elim
      | none =>
        simp only [undoing, undoStep] at hbusy
        split at hbusy <;> exact hbusy.elim
    | cancel stage =>
      cases stage with
      | requested =>
        rintro ⟨o, ho, hs⟩
        simp only [undoing, undoStep, cancelStep] at hbusy ho
        -- What it has read is what is stored.
        cases hget : db.orders.get? order with
        | none => rw [hget] at hbusy; exact hbusy
        | some o' =>
          rw [hget] at hbusy ho
          obtain rfl : o' = o := Option.some.inj (hget.symm.trans ho)
          exact hbusy.2 hs
      | read o' =>
        refine absurd ?_ hl
        by_contra hno
        have hstop : o'.status = .cancelled ∨ o'.status = .refunded := by
          by_contra hgo
          exact hno (not_or.mp hgo)
        simp only [undoing, undoStep, cancelStep, if_pos hstop] at hbusy
        exact hbusy
      | done cancelled => exact hbusy.elim
      | _ => exact absurd trivial hl
  keep c a c' _ hs hbreak hF := by
    rcases Processes.step_cases hs with ⟨l, -, -, rfl⟩ | ⟨i, l, hi, -, rfl, rfl⟩ | ⟨e, -⟩
    · exact hF
    · by_cases hsave : ∃ redemptions, l = .cancel (.saving redemptions [])
      · obtain ⟨redemptions, rfl⟩ := hsave
        exact not_refunded_cancelled _ _
      · have horders := undoStep_orders (not_exists.mp hsave) fun gateway db' hl href =>
          hbreak ⟨i, gateway, db', rfl, hl ▸ hi, href⟩
        exact fun hr => hF ((Refunded.congr horders).mp hr)
    · exact e.elim

/-- A refunded order stays refunded. -/
theorem Refunded.step {order : Nat} {a : Move Undo Empty}
    (hreach : Reachable (undoingInTime db₀ order) c)
    (hs : (undoingInTime db₀ order).step c a c') (h : Refunded order c.shared) :
    Refunded order c'.shared := by
  rcases Processes.step_cases hs.1 with ⟨l, -, -, rfl⟩ | ⟨i, l, hi, -, -, rfl⟩ | ⟨e, -⟩
  · exact h
  · refine (Refunded.congr (undoStep_orders ?_ ?_)).mpr h
    -- A cancellation that is about to save has kept the refund away.
    · rintro redemptions rfl
      exact (undoing_relied db₀ order).reachable (fun _ _ => id) hreach
        ⟨_, List.mem_of_getElem? hi, trivial⟩ h
    -- A refund that commits has found the order paid.
    · rintro gateway db' rfl href
      obtain ⟨o, ho, hstatus⟩ := h
      obtain ⟨o', ho', ⟨-, -, hno⟩ | ⟨hpaid, -⟩⟩ := refundOrder_ok href
      · cases hno
      · obtain rfl : o = o' := Option.some.inj (ho.symm.trans ho')
        rw [hstatus] at hpaid
        cases hpaid
  · exact nomatch e

/-- A refunded order stays refunded, over every run. -/
theorem Refunded.run {order : Nat} {as : List (Move Undo Empty)}
    (hreach : Reachable (undoingInTime db₀ order) c) (h : Refunded order c.shared)
    (hr : Run (undoingInTime db₀ order) c as c') : Refunded order c'.shared :=
  (hr.invariant (I := fun c => Reachable (undoingInTime db₀ order) c ∧ Refunded order c.shared)
    ⟨hreach, h⟩ fun _ _ _ hu hs => ⟨hu.1.step hs, hu.2.step hu.1 hs⟩).2

/-! ### The undo -/

/-- The request has returned. -/
def Undo.Finished : Undo → Prop
  | .cancel (.done _) => True
  | .refund _ (some _) => True
  | _ => False

/-- The request has undone the order. -/
def Undo.Performed : Undo → Prop
  | .cancel (.done cancelled) => cancelled = true
  | .refund _ result => result = some (.ok true)
  | _ => False

/-- A request that has returned owes nothing. -/
theorem Undo.Finished.not_owes {l : Undo} (h : l.Finished) (i : Nat) : ¬l.Owes i := by
  cases l with
  | refund gateway result => exact id
  | cancel stage => cases stage <;> first | exact id | cases h

/-- A request that has undone the order knows that everything was given back. -/
theorem Undo.Performed.known {db : Db} {l : Undo} (h : l.Performed)
    (ha : Cancelling db₀ o db l) : Voided db₀ o db ∧ Withdrawn db₀ o db := by
  cases l with
  | refund gateway result => exact ha h
  | cancel stage =>
    cases stage with
    | done cancelled => exact ha h
    | _ => cases h

/-- With the books in order, no pass gets more credits than it was sold with. -/
theorem Midway.bounded {db : Db} (hg : Midway db₀ o db) (hb : PassBooks db₀) {p : PassPurchase}
    (hp : p ∈ db.passPurchases.rows) {n m : Nat} (hn : p.creditCount = some n)
    (hm : p.creditsRemaining = some m) : m ≤ n := by
  have hacc := account_of_mem hp
  rw [hn, hm] at hacc
  -- Its credits now are those at the start, or these and what the order had used.
  obtain ⟨p₀, hp₀, hcount, hleft⟩ : ∃ p₀ ∈ db₀.passPurchases.rows, p₀.creditCount = some n ∧
      ∃ c, p₀.creditsRemaining = some c ∧ (m = c ∨ m = c + owedCredits db₀ o.id p₀.id) := by
    have hall := hg.accounts p.id
    rw [hacc] at hall
    unfold account returned at hall
    cases hget : db₀.passPurchases.get? p.id with
    | none => rw [hget] at hall; rcases hall with h | h <;> cases h
    | some p₀ =>
      have hid : p₀.id = p.id := Table.get?_key hget
      refine ⟨p₀, Table.get?_mem hget, ?_⟩
      rw [hget] at hall
      cases hc : p₀.creditsRemaining with
      | none => simp [hc] at hall
      | some c =>
        simp only [Option.map_some, Option.some.injEq, Prod.mk.injEq, hc, ← hid] at hall
        rcases hall with ⟨h₁, h₂⟩ | ⟨h₁, h₂⟩
        · exact ⟨h₁.symm, c, rfl, .inl h₂⟩
        · exact ⟨h₁.symm, c, rfl, .inr h₂⟩
  obtain ⟨c, hc, hm⟩ := hleft
  have hbal := hb.balanced p₀ hp₀
  unfold Balanced at hbal
  cases hk : p₀.kind with
  | season => rw [hk] at hbal; rw [hbal] at hc; cases hc
  | flex =>
    rw [hk] at hbal
    obtain ⟨n', c', hf⟩ := hbal
    obtain rfl : n' = n := Option.some.inj (hf.creditCount.symm.trans hcount)
    obtain rfl : c' = c := Option.some.inj (hf.creditsRemaining.symm.trans hc)
    have hsplit := (@usedCredits_split db₀
        { db₀ with passRedemptions := db₀.passRedemptions.delete fun r => r.order == o.id } o)
      rfl p₀.id
    have hbalance := hf.balance
    -- What the order had used is part of what the pass had used.
    have howed : owedCredits db₀ o.id p₀.id ≤ usedCredits db₀ p₀.id := by
      rw [← hsplit]
      exact Nat.le_add_left _ _
    omega

/-- **Undone once.** However cancellations and refunds of a paid order interleave, as long as no
    cancellation reads the passes after credits came back, and no refund commits between the read
    of the order by a cancellation and the save of its status:
    the general-admission count is untouched or was returned once, the account of every pass is
    untouched or got the credits of its redemptions back once, and no pass has more credits than
    it was sold with; a refunded order stays refunded; and when every request has returned and
    one of them undid the order, the count and the credits are back exactly once. -/
theorem undone_once (ho : db₀.orders.get? o.id = some o) (hpaid : o.status = .paid)
    (h : Reachable (undoingInTime db₀ o.id) c) :
    (c.shared.gaAllocations = db₀.gaAllocations ∨
      c.shared.gaAllocations = voidedAllocations db₀ o) ∧
    (∀ i, account c.shared.passPurchases i = account db₀.passPurchases i ∨
      account c.shared.passPurchases i
        = returned (owedCredits db₀ o.id i) (account db₀.passPurchases i)) ∧
    (PassBooks db₀ → ∀ p ∈ c.shared.passPurchases.rows, ∀ n m, p.creditCount = some n →
      p.creditsRemaining = some m → m ≤ n) ∧
    (∀ as c', Run (undoingInTime db₀ o.id) c as c' →
      Refunded o.id c.shared → Refunded o.id c'.shared) ∧
    ((∀ l ∈ c.procs, l.Finished) → (∃ l ∈ c.procs, l.Performed) →
      c.shared.gaAllocations = voidedAllocations db₀ o ∧
      ∀ i, account c.shared.passPurchases i
        = returned (owedCredits db₀ o.id i) (account db₀.passPurchases i)) := by
  obtain ⟨hg, ha⟩ := undoing_asserted ho hpaid h.of_restrict
  refine ⟨hg.inventory.imp (·.2) (·.2), hg.accounts, fun hb p hp n m => hg.bounded hb hp,
    fun as c' hr href => href.run h hr, ?_⟩
  rintro hfin ⟨l, hl, hperf⟩
  obtain ⟨hv, hw⟩ := hperf.known (ha l hl)
  refine ⟨hv.2, fun i => ?_⟩
  rcases undoing_covered ho hpaid h.of_restrict with hr | hset
  · -- The redemptions are both deleted and as they were: there were none.
    refine hg.settled_of_zero (.inl ?_)
    unfold owedCredits
    rw [← hr, redemptionsOf_withdrawn hw]
    rfl
  · rcases hset i with hi | ⟨k, hk, howes⟩
    · exact hi
    · exact absurd howes ((hfin k hk).not_owes i)

end Schedules

/-! ### Schedules of the sample theater -/

/-- The sample theater after the place was redeemed on the flex pass. -/
def redeemedPass : Db :=
  match passCart.db.holds.rows with
  | hold :: _ =>
    (exec (.fulfillHoldWithPass hold 1 "ada@example.com" "Ada" false) passCart).db
  | [] => passCart.db

/-- The books of the sample pass are in order. -/
theorem redeemedPass_books : PassBooks redeemedPass := by
  unfold redeemedPass
  have hhold : ∀ hold ∈ passCart.db.holds.rows,
      Reachable passOffice (exec (.fulfillHoldWithPass hold 1 "ada@example.com" "Ada" false)
        passCart) :=
    fun hold hmem => passOffice_step passCart_reachable _
      ⟨hold, hmem, rfl, rfl, rfl, rfl, rfl, rfl⟩ trivial
  split
  case h_1 hold _ hrows =>
    exact (passOffice_invariant (hhold hold (by rw [hrows]; exact List.mem_cons_self ..))).1
  case h_2 => exact (passOffice_invariant passCart_reachable).1

/-- The order that redeemed the pass. -/
def redeemingOrder : Order where
  id := 2
  organization := 1
  performance := some 1
  buyerEmail := "ada@example.com"
  buyerName := "Ada"
  guest := some 1
  promoCodeText := ""
  discountAmount := 0
  total := 0
  status := .paid
  stripeCheckoutSessionId := none

/-- The sample order is stored. -/
theorem redeemingOrder_stored :
    redeemedPass.orders.get? redeemingOrder.id = some redeemingOrder := by decide

/-- Two cancellations run in step; both have read the pass before the first one saves it.  A refund
    between their last statements finds the order cancelled. -/
def overlappingUndo : List (Move Undo Empty) :=
  [.spawn (.cancel .requested), .spawn (.cancel .requested), .act 0, .act 1, .act 0, .act 1,
    .act 0, .act 1, .act 0, .act 1, .act 0, .act 1, .act 0, .act 1, .act 0,
    .spawn (.refund (.ok "re_1") none), .act 2, .act 1]

/-- A refund commits after a cancellation was requested and before it reads the order. -/
def refundFirst : List (Move Undo Empty) :=
  [.spawn (.cancel .requested), .spawn (.refund (.ok "re_1") none), .act 1]

/-- A move of a cancellation commits no refund. -/
theorem refundsApart_cancel {order i : Nat} {c : Config Db Undo} {stage : CancelStage}
    (h : c.procs[i]? = some (.cancel stage)) : RefundsApart order c (.act i) := by
  rintro ⟨j, gateway, db, ha, hj, -⟩
  cases ha
  rw [h] at hj
  cases hj

/-- Nor does the start of a request. -/
theorem refundsApart_spawn {order : Nat} {c : Config Db Undo} {l : Undo} :
    RefundsApart order c (.spawn l) := by
  rintro ⟨j, gateway, db, ha, -⟩
  cases ha

/-- The overlapping requests meet both conditions. -/
theorem overlappingUndo_run :
    Run (undoingInTime redeemedPass 2) ⟨redeemedPass, []⟩ overlappingUndo
      ((undoing redeemedPass 2).perform overlappingUndo ⟨redeemedPass, []⟩) := by
  have go {i : Nat} {l : Undo} {c : Config Db Undo} (h : c.procs[i]? = some l)
      (hc : InTime redeemedPass c.shared l) :
      (undoing redeemedPass 2).Admits (InTime redeemedPass) c (.act i) := ⟨l, h, hc⟩
  refine Processes.run_perform_restrict ?_ ?_
  · exact ⟨rfl, rfl, go rfl trivial, go rfl trivial, go rfl trivial, go rfl trivial,
      go rfl trivial, go rfl trivial, ⟨_, rfl, by decide⟩, ⟨_, rfl, by decide⟩, go rfl trivial,
      go rfl trivial, go rfl trivial, go rfl trivial, go rfl trivial, rfl, go rfl trivial,
      go rfl trivial, trivial⟩
  · refine ⟨refundsApart_spawn, refundsApart_spawn, refundsApart_cancel rfl,
      refundsApart_cancel rfl, refundsApart_cancel rfl, refundsApart_cancel rfl,
      refundsApart_cancel rfl, refundsApart_cancel rfl, refundsApart_cancel rfl,
      refundsApart_cancel rfl, refundsApart_cancel rfl, refundsApart_cancel rfl,
      refundsApart_cancel rfl, refundsApart_cancel rfl, refundsApart_cancel rfl,
      refundsApart_spawn, ?_, refundsApart_cancel rfl, trivial⟩
    rintro ⟨j, gateway, db, ha, hj, href⟩
    cases ha
    cases hj
    cases href

/-- Two overlapping cancellations and a late refund give the credit back once, and the pass has its
    four credits again; a refund that commits before the cancellation reads the order stands. -/
theorem undone_once_overlapping :
    (∃ c, Reachable (undoingInTime redeemedPass 2) c ∧
      c.procs.length = 3 ∧ (∀ l ∈ c.procs, l.Finished) ∧
      (redeemedPass.gaAllocations.rows.map (·.sold), c.shared.gaAllocations.rows.map (·.sold))
        = ([1], [0]) ∧
      c.shared.gaAllocations = voidedAllocations redeemedPass redeemingOrder ∧
      account redeemedPass.passPurchases 1 = some (some 4, some 3) ∧
      (∀ i, account c.shared.passPurchases i
        = returned (owedCredits redeemedPass 2 i) (account redeemedPass.passPurchases i)) ∧
      account c.shared.passPurchases 1 = some (some 4, some 4)) ∧
    ∃ c c', Reachable (undoingInTime redeemedPass 2) c ∧ Refunded 2 c.shared ∧
      Run (undoingInTime redeemedPass 2) c [.act 0, .act 0] c' ∧
      (∀ l ∈ c'.procs, l.Finished) ∧ Refunded 2 c'.shared := by
  have hinit : (undoingInTime redeemedPass 2).init ⟨redeemedPass, []⟩ := ⟨rfl, rfl⟩
  have hreach := (Reachable.of_init hinit).run overlappingUndo_run
  have hfinished : ∀ l ∈ ((undoing redeemedPass 2).perform overlappingUndo
      ⟨redeemedPass, []⟩).procs, l.Finished := by
    have hprocs : ((undoing redeemedPass 2).perform overlappingUndo ⟨redeemedPass, []⟩).procs
        = [.cancel (.done true), .cancel (.done true),
          .refund (.ok "re_1") (some (.ok false))] := rfl
    rw [hprocs]
    simp [Undo.Finished]
  obtain ⟨-, -, -, -, hundone⟩ := undone_once redeemingOrder_stored rfl hreach
  obtain ⟨hga, hcredits⟩ := hundone hfinished ⟨.cancel (.done true), List.mem_cons_self .., rfl⟩
  refine ⟨⟨_, hreach, rfl, hfinished, by decide, hga, by decide, hcredits, by decide⟩, ?_⟩
  -- The refund comes first.
  have hfirst : Run (undoingInTime redeemedPass 2) ⟨redeemedPass, []⟩ refundFirst
      ((undoing redeemedPass 2).perform refundFirst ⟨redeemedPass, []⟩) := by
    refine Processes.run_perform_restrict
      ⟨rfl, rfl, ⟨_, rfl, trivial⟩, trivial⟩ ⟨refundsApart_spawn, refundsApart_spawn, ?_, trivial⟩
    intro _ l hl
    have hprocs : l ∈ [Undo.cancel .requested, .refund (.ok "re_1") none] := hl
    rcases List.mem_pair.mp hprocs with rfl | rfl <;> exact id
  have hreach' := (Reachable.of_init hinit).run hfirst
  have hthen : Run (undoingInTime redeemedPass 2)
      ((undoing redeemedPass 2).perform refundFirst ⟨redeemedPass, []⟩) [.act 0, .act 0]
      ((undoing redeemedPass 2).perform [.act 0, .act 0]
        ((undoing redeemedPass 2).perform refundFirst ⟨redeemedPass, []⟩)) :=
    Processes.run_perform_restrict ⟨⟨_, rfl, trivial⟩, ⟨_, rfl, trivial⟩, trivial⟩
      ⟨refundsApart_cancel rfl, refundsApart_cancel rfl, trivial⟩
  obtain ⟨-, -, -, hstays, -⟩ := undone_once redeemingOrder_stored rfl hreach'
  have hrefunded : Refunded 2
      ((undoing redeemedPass 2).perform refundFirst ⟨redeemedPass, []⟩).shared := by
    obtain ⟨o, ho, hs⟩ : ∃ o ∈ ((undoing redeemedPass 2).perform refundFirst
        ⟨redeemedPass, []⟩).shared.orders.get? 2, o.status = .refunded := by decide
    exact ⟨o, ho, hs⟩
  refine ⟨_, _, hreach', hrefunded, hthen, ?_, hstays _ _ hthen hrefunded⟩
  have hprocs : ((undoing redeemedPass 2).perform [.act 0, .act 0]
      ((undoing redeemedPass 2).perform refundFirst ⟨redeemedPass, []⟩)).procs
      = [.cancel (.done false), .refund (.ok "re_1") (some (.ok true))] := rfl
  rw [hprocs]
  simp [Undo.Finished]

/-- Two cancellations, the second of which reads the pass after the first has saved it. -/
def lateRestore : Config Db Undo :=
  (undoing redeemedPass 2).perform
    [.spawn (.cancel .requested), .spawn (.cancel .requested), .act 0, .act 1, .act 0, .act 1,
      .act 0, .act 1, .act 0, .act 0, .act 0, .act 1, .act 1, .act 1] ⟨redeemedPass, []⟩

/-- A cancellation has read the paid order; then the order is refunded. -/
def refundedMeanwhile : Config Db Undo :=
  (undoing redeemedPass 2).perform
    [.spawn (.cancel .requested), .spawn (.refund (.ok "re_1") none), .act 0, .act 1]
    ⟨redeemedPass, []⟩

/-- The cancellation goes on. -/
def cancelledAfter : Config Db Undo :=
  (undoing redeemedPass 2).perform ([0, 0, 0].map .act) refundedMeanwhile

/-- The pass that was sold with four credits has five, and a refunded order is cancelled. -/
theorem order_undone_twice :
    redeemedPass.orders.get? 2 = some redeemingOrder ∧ redeemingOrder.status = .paid ∧
    (Reachable (undoing redeemedPass 2).system lateRestore ∧
      account lateRestore.shared.passPurchases 1 = some (some 4, some 5)) ∧
    Reachable (undoing redeemedPass 2).system refundedMeanwhile ∧
      Refunded 2 refundedMeanwhile.shared ∧
      (∃ as, Run (undoing redeemedPass 2).system refundedMeanwhile as cancelledAfter) ∧
      (cancelledAfter.shared.orders.get? 2).map (·.status) = some .cancelled := by
  have hreach : ∀ as : List (Move Undo Empty), (∀ l, .spawn l ∈ as →
      (undoing redeemedPass 2).start l) → Reachable (undoing redeemedPass 2).system
        ((undoing redeemedPass 2).perform as ⟨redeemedPass, []⟩) := fun as hstart =>
    Processes.reachable_perform (.of_init ⟨(rfl : redeemedPass = redeemedPass), rfl⟩) hstart
      fun _ e => nomatch e
  have hmeanwhile : Refunded 2 refundedMeanwhile.shared := by
    obtain ⟨o, ho, hs⟩ : ∃ o ∈ refundedMeanwhile.shared.orders.get? 2, o.status = .refunded := by
      decide
    exact ⟨o, ho, hs⟩
  have hcancels : Run (undoing redeemedPass 2).system refundedMeanwhile ([0, 0, 0].map .act)
      cancelledAfter :=
    Processes.run_perform ⟨⟨_, rfl, trivial⟩, ⟨_, rfl, trivial⟩, ⟨_, rfl, trivial⟩, trivial⟩
  refine ⟨by decide, rfl, ⟨hreach _ (by simp [undoing]), by decide⟩, hreach _ (by simp [undoing]),
    hmeanwhile, ⟨_, hcancels⟩, by decide⟩

end BoxOffice

import BoxOffice.Money
import BoxOffice.Tenants.Provisioning

namespace BoxOffice

open Relational Transition

/-!
# Tenants — one run at a time

The claim is conditional, so two ticks never hold a row at once, as long as nobody else moves the
row.  The admin action may: it queues a row from any state, a row that a tick is still working on
included.

* `Calm` — the action that is about to write hits no row a tick is working on;
* `provisioned_once` — where every step is calm, no two runs for one organization are in progress,
  and no completion is written over a queued row;
* `requeued_while_running` — otherwise both happen.
-/

/-- The update of the admin action that comes next hits no organization that a tick has claimed and
    not yet written back. -/
def Calm (c : Config (Table Tenant) InfraTask) : Move InfraTask Empty → Prop
  | .act i => ∀ q pks already, c.procs[i]? = some (.admin q) → q.stage = .updating pks already →
      ∀ o ∈ c.shared.rows, requeues pks o = true → ∀ t ∈ c.procs, t.working ≠ some o.id
  | _ => True

/-- The row of a task at work is being provisioned. -/
def InfraTask.Claimed (db : Table Tenant) (t : InfraTask) : Prop :=
  ∀ pk, t.working = some pk → ∀ o ∈ db.rows, o.id = pk → o.infraStatus = .provisioning

section Steps

variable {P : Provisioner} {db : Table Tenant} {t : ProvisionTick} {k : InfraTask} {pk : Nat}
  {status : InfraStatus} {message : String} {pks : List Nat}

/-! ### One statement -/

/-- **A statement of a tick** reads, claims a queued row, or writes back the row of the tick. -/
theorem provisionStep_cases (P : Provisioner) (db : Table Tenant) (t : ProvisionTick) :
    ((provisionStep P db t).1 = db ∧
      ∀ pk, (provisionStep P db t).2.working = some pk → t.working = some pk) ∨
    (∃ o ∈ db.rows, o.infraStatus = .pending ∧ (provisionStep P db t).1 = claimTenant db o.id ∧
      t.working = none ∧ (provisionStep P db t).2.working = some o.id) ∨
    ∃ pk status message, t.working = some pk ∧
      (provisionStep P db t).1 = finishTenant db pk status message ∧
      (provisionStep P db t).2.working = none := by
  obtain ⟨root, executable, run, stage, stdout, stderr⟩ := t
  cases stage with
  | reading =>
    left
    -- A read of the queue, or the refusal to touch it.
    unfold provisionStep
    dsimp only
    split_ifs <;> exact ⟨rfl, fun _ h => by cases h⟩
  | scanning pending =>
    cases pending with
    | nil => exact .inl ⟨rfl, fun _ h => by cases h⟩
    | cons org pending =>
      unfold provisionStep
      dsimp only
      split_ifs with hzero hreserved
      · exact .inl ⟨rfl, fun _ h => by cases h⟩
      all_goals
        -- The claim hits a row, and the row was queued.
        obtain ⟨o, ho⟩ := List.exists_mem_of_length_pos (Nat.pos_of_ne_zero hzero)
        obtain ⟨hmem, hclaim⟩ := List.mem_filter.mp ho
        obtain ⟨hid, hpending⟩ := Bool.and_eq_true_iff.mp hclaim
        rw [beq_iff_eq] at hid hpending
        exact .inr (.inl ⟨o, hmem, hpending, by rw [hid], rfl, by rw [hid]; rfl⟩)
  -- Both ends of a run write back the row it had.
  | rejecting org pending => exact .inr (.inr ⟨org.id, _, _, rfl, rfl, rfl⟩)
  | running org =>
    left
    unfold provisionStep
    dsimp only
    split
    · exact ⟨rfl, fun _ h => by cases h⟩
    · exact ⟨rfl, fun _ h => h⟩
  | finishing org status message => exact .inr (.inr ⟨org.id, _, _, rfl, rfl, rfl⟩)
  | finished => exact .inl ⟨rfl, fun _ h => h⟩

/-- **A statement of the admin** reads, or it is the update. -/
theorem queueStep_cases (db : Table Tenant) (q : QueueTask) :
    (queueStep db q).1 = db ∨ ∃ pks already, q.stage = .updating pks already ∧
      (queueStep db q).1 = requeueTenants db pks := by
  unfold queueStep
  split
  · split
    · exact .inl rfl
    · split
      · exact .inl rfl
      · split_ifs <;> exact .inl rfl
  · exact .inl rfl
  · exact .inr ⟨_, _, ‹_›, rfl⟩
  · exact .inl rfl

/-! ### The rows at work -/

/-- A claim makes the claimed rows those of a run, and leaves the others. -/
theorem claimTenant_status {o : Tenant} (ho : o ∈ (claimTenant db pk).rows) :
    (o.id = pk ∧ o.infraStatus = .provisioning) ∨ (o ∈ db.rows ∧ claimable pk o = false) := by
  obtain ⟨x, hx, rfl⟩ := Table.mem_update.mp ho
  by_cases hclaim : claimable pk x = true
  · rw [if_pos hclaim]
    exact .inl ⟨beq_iff_eq.mp (Bool.and_eq_true_iff.mp hclaim).1, rfl⟩
  · rw [if_neg hclaim]
    exact .inr ⟨hx, Bool.not_eq_true _ ▸ hclaim⟩

/-- A row that no predicate of an update hits stays. -/
theorem mem_of_update_status {p : Tenant → Bool} {hf} {o : Tenant}
    (ho : o ∈ (db.update p (Tenant.setOutcome status message) hf).rows)
    (hp : ∀ x ∈ db.rows, x.id = o.id → p x = false) : o ∈ db.rows := by
  obtain ⟨x, hx, rfl⟩ := Table.mem_update.mp ho
  by_cases hpx : p x = true
  · rw [if_pos hpx] at hp
    rw [hp x hx rfl] at hpx
    cases hpx
  · rwa [if_neg hpx]

/-- A claim leaves the rows of the others claimed. -/
theorem InfraTask.Claimed.claim (h : k.Claimed db) (hne : k.working ≠ some pk) :
    k.Claimed (claimTenant db pk) := by
  intro pk' hpk' o ho hid
  -- A claim hits one row, and it is not the one this task has.
  rcases claimTenant_status ho with ⟨hclaimed, -⟩ | ⟨hmem, -⟩
  · exact absurd (hpk'.trans (congrArg some (hid.symm.trans hclaimed))) hne
  · exact h pk' hpk' o hmem hid

/-- So does a completion. -/
theorem InfraTask.Claimed.finish (h : k.Claimed db) (hne : k.working ≠ some pk) :
    k.Claimed (finishTenant db pk status message) := by
  intro pk' hpk' o ho hid
  refine h pk' hpk' o (mem_of_update_status ho fun x _ hx => ?_) hid
  rw [beq_eq_false_iff_ne]
  rintro rfl
  exact hne (hpk'.trans (congrArg some (hid.symm.trans hx.symm)))

/-- So does a queueing that is calm. -/
theorem InfraTask.Claimed.requeue (h : k.Claimed db)
    (hcalm : ∀ o ∈ db.rows, requeues pks o = true → k.working ≠ some o.id) :
    k.Claimed (requeueTenants db pks) := by
  intro pk' hpk' o ho hid
  refine h pk' hpk' o (mem_of_update_status ho fun x hx hxid => ?_) hid
  rw [← Bool.not_eq_true]
  exact fun hrequeued =>
    hcalm x hx hrequeued (hpk'.trans (congrArg some (hid.symm.trans hxid.symm)))

/-- The rows of a tick that has just claimed one. -/
theorem claimTenant_claimed {o : Tenant} (ho : o ∈ db.rows) (hpending : o.infraStatus = .pending)
    (hk : k.working = some o.id) : k.Claimed (claimTenant db o.id) := by
  intro pk' hpk' x hx hid
  obtain rfl : o.id = pk' := Option.some.inj (hk.symm.trans hpk')
  rcases claimTenant_status hx with ⟨-, hstatus⟩ | ⟨hmem, hnot⟩
  · exact hstatus
  -- The claim cannot have missed the row: it was pending.
  · obtain rfl : x = o := Table.eq_of_key_eq hmem ho hid
    rw [claimable, beq_self_eq_true, hpending] at hnot
    cases hnot

/-- A task at work on nothing claims nothing. -/
theorem InfraTask.Claimed.of_none (h : k.working = none) : k.Claimed db := by
  intro pk hpk
  rw [h] at hpk
  cases hpk

/-! ### Every run -/

variable {c c' : Config (Table Tenant) InfraTask}

/-- Every task at work has its row, and no two have the same. -/
def AtWork (c : Config (Table Tenant) InfraTask) : Prop :=
  Owned (fun _ => True) InfraTask.Claimed InfraTask.working c

/-- A task that arrives is at work on nothing. -/
theorem working_of_start {l : InfraTask} (hl : (provisioning P).start l) : l.working = none := by
  cases l with
  | tick t =>
    show t.working = none
    unfold ProvisionTick.working
    rw [show t.stage = .reading from hl]
  | admin q => rfl

/-- A statement of a tick, whatever else is in progress. -/
theorem AtWork.tick {i : Nat} (hc : AtWork c) (hi : c.procs[i]? = some (.tick t)) :
    AtWork ⟨(provisionStep P c.shared t).1,
      c.procs.set i (.tick (provisionStep P c.shared t).2)⟩ := by
  have hclaimed := hc.1.2
  rcases provisionStep_cases P c.shared t with
    ⟨hdb, hsame⟩ | ⟨o, ho, hpending, hdb, hidle, hwork⟩ | ⟨pk, status, message, hwork, hdb, hidle⟩
  · -- It reads, and keeps at most the row it has.
    rw [hdb]
    refine Owned.act hc hi trivial ?_ (fun k _ hk _ => hk) fun r hr => .inl (hsame r hr)
    exact fun pk hpk => hclaimed _ (List.mem_of_getElem? hi) pk (hsame pk hpk)
  · -- It claims.  Nobody is at work on a row that is queued.
    have hfree : ∀ k ∈ c.procs, k.working ≠ some o.id := fun k hk hko => by
      have hstatus := hclaimed k hk o.id hko o ho rfl
      rw [hpending] at hstatus
      cases hstatus
    rw [hdb]
    refine Owned.act hc hi trivial (claimTenant_claimed ho hpending hwork)
      (fun k hk hown _ => hown.claim (hfree k hk)) fun r hr => .inr fun k hk => ?_
    obtain rfl : o.id = r := Option.some.inj (hwork.symm.trans hr)
    exact hfree k hk
  · -- It writes back its own row, which nobody else has.
    rw [hdb]
    refine Owned.act hc hi trivial (.of_none hidle)
      (fun k _ hown hother => hown.finish (hother pk hwork)) fun r hr => ?_
    cases hidle.symm.trans hr

/-- A statement of the admin, when an update hits no row at work. -/
theorem AtWork.admin {i : Nat} {q : QueueTask} (hc : AtWork c)
    (hi : c.procs[i]? = some (.admin q)) (hcalm : Calm c (.act i)) :
    AtWork ⟨(queueStep c.shared q).1, c.procs.set i (.admin (queueStep c.shared q).2)⟩ := by
  refine Owned.act hc hi trivial (.of_none rfl) (fun k hk hown _ => ?_) fun r hr => by cases hr
  rcases queueStep_cases c.shared q with hdb | ⟨pks, already, hstage, hdb⟩ <;> rw [hdb]
  · exact hown
  · exact hown.requeue fun o ho hrequeued => hcalm q pks already hi hstage o ho hrequeued k hk

/-- **The step.** A calm move keeps every task at work on its own row. -/
theorem AtWork.step {a : Move InfraTask Empty} (hs : (provisioning P).system.step c a c')
    (hcalm : Calm c a) (hc : AtWork c) : AtWork c' := by
  rcases Processes.step_cases hs with ⟨l, hl, rfl, rfl⟩ | ⟨i, l, hi, -, rfl, rfl⟩ | ⟨e, -⟩
  · have hidle := working_of_start hl
    exact Owned.spawn hc (.of_none hidle) hidle
  · cases l with
    | tick t => exact hc.tick hi
    | admin q => exact hc.admin hi hcalm
  · exact e.elim

/-- In every calm run, at every moment. -/
theorem atWork_reachable (h : Reachable ((provisioning P).system.restrict Calm) c) : AtWork c :=
  h.invariant
    (fun c hc => ⟨⟨trivial, by rw [hc.2]; simp⟩, by rw [hc.2]; exact .nil _⟩)
    fun _ _ _ hu hs => AtWork.step hs.1 hs.2 hu

/-- A running task is at work on its row. -/
theorem InfraTask.working_of_running (h : k.running = some pk) : k.working = some pk := by
  cases k with
  | tick t =>
    obtain ⟨root, executable, run, stage, stdout, stderr⟩ := t
    cases stage <;> first | exact h | cases h
  | admin q => cases h

/-- So is one that is about to complete. -/
theorem InfraTask.working_of_completes (h : k.completes = some pk) : k.working = some pk := by
  cases k with
  | tick t =>
    obtain ⟨root, executable, run, stage, stdout, stderr⟩ := t
    cases stage <;> first | exact h | cases h
  | admin q => cases h

/-- **One run at a time.** In every interleaving of ticks and admin actions in which the action
    hits no organization a tick is working on, no two runs for one organization are in progress,
    and no completion is written over a queued row. -/
theorem provisioned_once (h : Reachable ((provisioning P).system.restrict Calm) c) :
    Exclusive InfraTask.running c.procs ∧
      ∀ t ∈ c.procs, ∀ pk, t.completes = some pk →
        ∀ o ∈ c.shared.rows, o.id = pk → o.infraStatus ≠ .pending := by
  obtain ⟨⟨-, hclaimed⟩, hexclusive⟩ := atWork_reachable h
  constructor
  -- Who runs is at work, and nobody else is at work on the same row.
  · intro i j t u pk ht hu htpk hupk
    exact hexclusive i j t u pk ht hu (InfraTask.working_of_running htpk)
      (InfraTask.working_of_running hupk)
  · intro t ht pk hpk o ho hid hpending
    -- The row that is written is still the one that was claimed.
    have hstatus := hclaimed t ht pk (InfraTask.working_of_completes hpk) o ho hid
    rw [hpending] at hstatus
    cases hstatus

end Steps

/-! ### A long run -/

/-- The worker of the sample. -/
def sampleProvisioner : Provisioner where
  reservedSubdomains := ["www", "app", "admin", "beta"]
  boxoffice := "/var/www/boxoffice/bin/boxoffice"
  strip := strip

/-- One queued tenant. -/
def roxyQueued : Table Tenant := Table.empty.insert fun i => ⟨i, "roxy", .pending, ""⟩

/-- A tick as root, whose run ends so. -/
def rootTick (run : AddTenant) : InfraTask := .tick ⟨true, true, run, .reading, [], []⟩

/-- The admin queues the tenant. -/
def queueRoxy : InfraTask := .admin ⟨.selected [1], .arrived⟩

/-- The first worker crashes during its run; the admin queues the row again, and the next worker
    runs to the end. -/
def recovery : List (Move InfraTask Empty) :=
  [.spawn (rootTick .crashed), .act 0, .act 0, .act 0, .spawn queueRoxy, .act 1, .act 1,
    .spawn (rootTick (.exited 0 "ok" "")), .act 2, .act 2, .act 2]

/-- A crashed run is queued again and completed. -/
theorem provisioned_once_recovery :
    ((provisioning sampleProvisioner).perform recovery ⟨roxyQueued, []⟩).procs.map
      InfraTask.completes = [none, none, some 1] ∧
    ∀ o ∈ ((provisioning sampleProvisioner).perform recovery ⟨roxyQueued, []⟩).shared.rows,
      o.id = 1 → o.infraStatus ≠ .pending := by
  have hrun : Run ((provisioning sampleProvisioner).system.restrict Calm) ⟨roxyQueued, []⟩ recovery
      ((provisioning sampleProvisioner).perform recovery ⟨roxyQueued, []⟩) := by
    refine Processes.run_perform_restrict ?_ ?_
    · exact ⟨rfl, ⟨_, rfl, trivial⟩, ⟨_, rfl, trivial⟩, ⟨_, rfl, trivial⟩, rfl, ⟨_, rfl, trivial⟩,
        ⟨_, rfl, trivial⟩, rfl, ⟨_, rfl, trivial⟩, ⟨_, rfl, trivial⟩, ⟨_, rfl, trivial⟩, trivial⟩
    · refine ⟨trivial, ?_, ?_, ?_, trivial, ?_, ?_, trivial, ?_, ?_, ?_, trivial⟩
      · intro q pks already h; cases h
      · intro q pks already h; cases h
      · intro q pks already h; cases h
      · rintro q pks already ⟨⟩ ⟨⟩
      · -- The crashed worker holds nothing any more.
        rintro q pks already ⟨⟩ ⟨⟩
        decide
      · intro q pks already h; cases h
      · intro q pks already h; cases h
      · intro q pks already h; cases h
  exact ⟨rfl, fun o ho hid => (provisioned_once ⟨_, _, ⟨trivial, rfl⟩, hrun⟩).2 _
    (List.mem_of_getElem? (show _[2]? = some _ from rfl)) 1 rfl o ho hid⟩

/-- The row is queued again while the first run is in progress, and a second tick claims it. -/
def secondRun : List (Move InfraTask Empty) :=
  [.spawn (rootTick (.exited 0 "ok" "")), .act 0, .act 0, .spawn queueRoxy, .act 1, .act 1,
    .spawn (rootTick (.exited 0 "ok" "")), .act 2, .act 2]

/-- The row is queued again while the first run is in progress, and the run comes to its end. -/
def lostRequest : List (Move InfraTask Empty) :=
  [.spawn (rootTick (.exited 0 "ok" "")), .act 0, .act 0, .spawn queueRoxy, .act 1, .act 1, .act 0]

/-- Moves of the sample task and the sample request are reachable. -/
theorem sampleMoves_reachable {as : List (Move InfraTask Empty)}
    (h : ∀ l, .spawn l ∈ as → l = rootTick (.exited 0 "ok" "") ∨ l = queueRoxy) :
    Reachable (provisioning sampleProvisioner).system
      ((provisioning sampleProvisioner).perform as ⟨roxyQueued, []⟩) := by
  refine Processes.reachable_perform (.of_init ⟨trivial, rfl⟩) (fun l hl => ?_) fun _ e => e.elim
  rcases h l hl with rfl | rfl <;> rfl

/-- **Queued during a run.** Two runs for one tenant are in progress at once; and a completion is
    written over a request that was queued after the claim, which nobody serves any more. -/
theorem requeued_while_running :
    (∃ c, Reachable (provisioning sampleProvisioner).system c ∧
      c.procs.map InfraTask.running = [some 1, none, some 1]) ∧
    ∃ c d, Reachable (provisioning sampleProvisioner).system c ∧
      (provisioning sampleProvisioner).system.step c (.act 0) d ∧
      c.procs.map InfraTask.completes = [some 1, none] ∧
      c.shared.rows.map (fun o => (o.infraStatus, o.infraMessage))
        = [(.pending, "Queued from admin.")] ∧
      d.shared.rows.map Tenant.infraStatus = [.provisioned] := by
  refine ⟨⟨_, @sampleMoves_reachable secondRun fun l hl => ?_, rfl⟩,
    _, _, @sampleMoves_reachable lostRequest fun l hl => ?_, ⟨⟨_, rfl, trivial⟩, rfl⟩,
    rfl, rfl, rfl⟩
  · have htask : l = rootTick (.exited 0 "ok" "") ∨ l = queueRoxy ∨
        l = rootTick (.exited 0 "ok" "") := by simpa [secondRun] using hl
    rcases htask with rfl | rfl | rfl
    exacts [.inl rfl, .inr rfl, .inl rfl]
  · simpa [lostRequest] using hl

end BoxOffice

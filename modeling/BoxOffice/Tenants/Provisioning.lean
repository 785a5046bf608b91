import BoxOffice.Relational.Sorted
import BoxOffice.Relational.Table
import BoxOffice.Transition.Ownership

namespace BoxOffice

open Relational Transition

/-!
# Tenants — provisioning

`provision_pending_tenants` and the admin action that queues tenants for it, as the statements
they issue.  A tick claims a row with a conditional update, lets `add-tenant` run outside the
database, and writes the outcome back with an update that has no condition; the action moves a row
back to `pending` from any state.  Any number of both interleave (`provisioning`).

* `provisionStep_cases`, `queueStep_cases` say once what a statement does to the table;
* `InfraTask.working` is the organization a tick has claimed and not yet written back.
-/

/-- `Organization.InfraStatus`. -/
inductive InfraStatus
  | none | pending | provisioning | provisioned | failed
deriving Repr, DecidableEq

/-- The value of a status, as it is printed. -/
def InfraStatus.value : InfraStatus → String
  | .none => "none"
  | .pending => "pending"
  | .provisioning => "provisioning"
  | .provisioned => "provisioned"
  | .failed => "failed"

/-- The columns of an organization that provisioning reads and writes. -/
structure Tenant where
  id : Nat
  subdomain : String
  infraStatus : InfraStatus
  infraMessage : String
deriving Repr, DecidableEq

instance : Keyed Tenant := ⟨Tenant.id⟩

/-- What the worker is set up with: the reserved subdomains, the path of the operate CLI, and
    `str.strip`. -/
structure Provisioner where
  reservedSubdomains : List String
  boxoffice : String
  strip : String → String

/-! ### Writes -/

/-- The row with another status. -/
def Tenant.setStatus (status : InfraStatus) (o : Tenant) : Tenant :=
  { o with infraStatus := status }

/-- The row with another status and message. -/
def Tenant.setOutcome (status : InfraStatus) (message : String) (o : Tenant) : Tenant :=
  { o with infraStatus := status, infraMessage := message }

/-- A new status keeps the primary key. -/
theorem Tenant.setStatus_id (status : InfraStatus) (o : Tenant) : (o.setStatus status).id = o.id :=
  rfl

/-- So does an outcome. -/
theorem Tenant.setOutcome_id (status : InfraStatus) (message : String) (o : Tenant) :
    (o.setOutcome status message).id = o.id := rfl

/-- The rows a claim hits. -/
def claimable (pk : Nat) (o : Tenant) : Bool := o.id == pk && o.infraStatus == .pending

/-- The claim: `PENDING` to `PROVISIONING`. -/
def claimTenant (db : Table Tenant) (pk : Nat) : Table Tenant :=
  db.update (claimable pk) (Tenant.setStatus .provisioning) (Tenant.setStatus_id .provisioning)

/-- `_finish`: the completion write, whatever the row says by now. -/
def finishTenant (db : Table Tenant) (pk : Nat) (status : InfraStatus) (message : String) :
    Table Tenant :=
  db.update (fun o => o.id == pk) (Tenant.setOutcome status message)
    (Tenant.setOutcome_id status message)

/-- The rows the admin action hits: the selected ones that are not queued. -/
def requeues (selected : List Nat) (o : Tenant) : Bool :=
  selected.contains o.id && o.infraStatus != .pending

/-- The update of the admin action. -/
def requeueTenants (db : Table Tenant) (selected : List Nat) : Table Tenant :=
  db.update (requeues selected) (Tenant.setOutcome .pending "Queued from admin.")
    (Tenant.setOutcome_id .pending "Queued from admin.")

/-! ### The worker -/

/-- How `bin/boxoffice add-tenant` ends.  The last case takes the worker down with it. -/
inductive AddTenant
  | exited (returncode : Int) (stdout stderr : String)
  | timedOut
  | notRun (exc : String)
  | crashed
deriving Repr, DecidableEq

/-- `_tail`, at the limit of 4000 characters. -/
def Provisioner.tail (P : Provisioner) (text : String) : String :=
  let chars := (P.strip text).toList
  if 4000 < chars.length then String.ofList (chars.drop (chars.length - 4000)) else P.strip text

/-- The status and the message a run is recorded with. -/
def Provisioner.report (P : Provisioner) : AddTenant → Option (InfraStatus × String)
  | .exited returncode stdout stderr =>
    let output := P.tail s!"{stdout}\n{stderr}"
    if returncode = 0 then
      some (.provisioned, if output = "" then "Provisioned." else output)
    else
      some (.failed, if output = "" then s!"add-tenant exited {returncode}." else output)
  | .timedOut =>
    some (.failed, "add-tenant timed out after 600s (DNS still propagating?). Re-queue to retry.")
  | .notRun exc => some (.failed, s!"failed to run add-tenant: {exc}")
  | .crashed => none

/-- Where a tick is. -/
inductive ProvisionStage
  | reading
  | scanning (pending : List Tenant)
  | rejecting (org : Tenant) (pending : List Tenant)
  | running (org : Tenant)
  | finishing (org : Tenant) (status : InfraStatus) (message : String)
  | finished
deriving Repr, DecidableEq

/-- A tick of the cron worker: the rights it has, how the run it starts will end, where it is, and
    what it has printed to its two streams. -/
structure ProvisionTick where
  root : Bool
  executable : Bool
  run : AddTenant
  stage : ProvisionStage
  stdout : List String
  stderr : List String
deriving Repr, DecidableEq

/-- The tick at another stage. -/
def ProvisionTick.goTo (stage : ProvisionStage) (t : ProvisionTick) : ProvisionTick :=
  { t with stage := stage }

/-- `self.stdout.write`. -/
def ProvisionTick.print (line : String) (t : ProvisionTick) : ProvisionTick :=
  { t with stdout := t.stdout ++ [line] }

/-- `self.stderr.write`. -/
def ProvisionTick.warn (line : String) (t : ProvisionTick) : ProvisionTick :=
  { t with stderr := t.stderr ++ [line] }

/-- The queue, oldest first. -/
def pendingTenants (db : Table Tenant) : List Tenant :=
  sortBy Tenant.id (db.rows.filter fun o => o.infraStatus == .pending)

/-- The next statement of a tick. -/
def provisionStep (P : Provisioner) (db : Table Tenant) (t : ProvisionTick) :
    Table Tenant × ProvisionTick :=
  match t.stage with
  | .reading =>
    let pending := pendingTenants db
    if pending = [] then (db, t.goTo .finished)
    else if t.root = false then
      let line := "provision_pending_tenants must run as root (certbot/nginx/doctl " ++
        s!"need it); leaving {pending.length} tenant(s) queued."
      (db, (t.warn line).goTo .finished)
    else if t.executable = false then
      (db, (t.warn s!"operate CLI not executable at {P.boxoffice}; leaving queued.").goTo .finished)
    else (db, t.goTo (.scanning pending))
  | .scanning [] => (db, t.goTo .finished)
  | .scanning (org :: pending) =>
    if (db.rows.filter (claimable org.id)).length = 0 then (db, t.goTo (.scanning pending))
    else if org.subdomain ∈ P.reservedSubdomains then
      (claimTenant db org.id, t.goTo (.rejecting org pending))
    else
      (claimTenant db org.id, (t.print s!"provisioning {org.subdomain} ...").goTo (.running org))
  | .rejecting org pending =>
    -- No run is started, so the scan goes on.
    (finishTenant db org.id .failed
        s!"'{org.subdomain}' is a reserved subdomain; refusing to provision.",
      (t.print s!"  {org.subdomain}: {InfraStatus.failed.value}").goTo (.scanning pending))
  | .running org =>
    match P.report t.run with
    | none => (db, t.goTo .finished)
    | some (status, message) => (db, t.goTo (.finishing org status message))
  | .finishing org status message =>
    -- One run a tick: the rest of the queue waits for the next one.
    (finishTenant db org.id status message,
      (t.print s!"  {org.subdomain}: {status.value}").goTo .finished)
  | .finished => (db, t)

/-- The organization a tick has claimed and not yet written back. -/
def ProvisionTick.working (t : ProvisionTick) : Option Nat :=
  match t.stage with
  | .rejecting org _ | .running org | .finishing org _ _ => some org.id
  | .reading | .scanning _ | .finished => none

/-! ### The admin action -/

/-- A message of the admin. -/
inductive AdminMessage
  | success (text : String)
  | warning (text : String)
  | error (text : String)
deriving Repr, DecidableEq

/-- The bulk action on the selected rows, or the button of one organization. -/
inductive QueueRequest
  | selected (pks : List Nat)
  | one (pk : Nat) (canChange post : Bool)
deriving Repr, DecidableEq

/-- Where a request is. -/
inductive QueueStage
  | arrived
  | counting (pks : List Nat)
  | updating (pks : List Nat) (alreadyQueued : Nat)
  | answered (messages : List AdminMessage)
deriving Repr, DecidableEq

/-- A request to queue organizations. -/
structure QueueTask where
  request : QueueRequest
  stage : QueueStage
deriving Repr, DecidableEq

/-- The request at another stage. -/
def QueueTask.goTo (stage : QueueStage) (q : QueueTask) : QueueTask := { q with stage := stage }

/-- How many of the rows are queued already. -/
def alreadyQueued (db : Table Tenant) (pks : List Nat) : Nat :=
  (db.rows.filter fun o => pks.contains o.id && o.infraStatus == .pending).length

/-- What the admin is told. -/
def queueMessages (queued alreadyQueued : Nat) : List AdminMessage :=
  (if queued = 0 then []
    else [.success (s!"Queued {queued} tenant(s) for provisioning — the worker runs " ++
      "every minute; watch the Infra status column.")]) ++
  (if alreadyQueued = 0 then [] else [.warning s!"Skipped {alreadyQueued} already queued."])

/-- The next statement of `provision_one_view` or `provision_infrastructure`. -/
def queueStep (db : Table Tenant) (q : QueueTask) : Table Tenant × QueueTask :=
  match q.stage with
  | .arrived =>
    match q.request with
    | .selected pks => (db, q.goTo (.updating pks (alreadyQueued db pks)))
    | .one pk canChange post =>
      match db.get? pk with
      | none => (db, q.goTo (.answered [.error "Organization not found."]))
      | some org =>
        if canChange = false then (db, q.goTo (.answered [.error "Organization not found."]))
        else if post then (db, q.goTo (.counting [org.id]))
        else (db, q.goTo (.answered []))
  | .counting pks => (db, q.goTo (.updating pks (alreadyQueued db pks)))
  | .updating pks already =>
    (requeueTenants db pks,
      q.goTo (.answered (queueMessages (db.rows.filter (requeues pks)).length already)))
  | .answered _ => (db, q)

/-! ### Together -/

/-- A tick or a request of the admin. -/
inductive InfraTask
  | tick (t : ProvisionTick)
  | admin (q : QueueTask)
deriving Repr, DecidableEq

/-- The organization whose row a task will still write the outcome of. -/
def InfraTask.working : InfraTask → Option Nat
  | .tick t => t.working
  | .admin _ => none

/-- The organization for which the task has `add-tenant` running. -/
def InfraTask.running : InfraTask → Option Nat
  | .tick t =>
    match t.stage with
    | .running org => some org.id
    | _ => none
  | .admin _ => none

/-- The organization whose completion the task writes next. -/
def InfraTask.completes : InfraTask → Option Nat
  | .tick t =>
    match t.stage with
    | .rejecting org _ | .finishing org _ _ => some org.id
    | _ => none
  | .admin _ => none

/-- The next statement of a task. -/
def infraStep (P : Provisioner) (db : Table Tenant) : InfraTask → Table Tenant × InfraTask
  | .tick t => ((provisionStep P db t).1, .tick (provisionStep P db t).2)
  | .admin q => ((queueStep db q).1, .admin (queueStep db q).2)

/-- Any number of ticks and requests, over any organizations. -/
def provisioning (P : Provisioner) : Processes (Table Tenant) InfraTask Empty where
  init _ := True
  start
    | .tick t => t.stage = .reading
    | .admin q => q.stage = .arrived
  step := infraStep P
  admits _ _ := True
  env e := e.elim

end BoxOffice

import BoxOffice.Campaigns.Trigger
import BoxOffice.Relational.Sorted
import BoxOffice.Transition.Ownership

namespace BoxOffice

open Relational Transition

/-!
# Campaigns — the batch sender

`Tick` is one run of `send_campaign_emails`, `tickStep` its next database statement or its next
call of the mail transport.  Ticks overlap freely, so between two steps of one anything may
happen that `Outside` lists.

* the batch and the rows of it still to come are the objects the first query read;
* what `send_campaign_send` raises, if anything, and the order in which Python walks through the
  set of touched campaigns are parameters of the tick.
-/

/-- The settings a tick reads. -/
structure Settings where
  emailBackend : String
  emailHost : String
  campaignBatchSize : Nat
deriving Repr, DecidableEq

/-- `email_delivery_configured`. -/
def emailDeliveryConfigured (settings : Settings) : Bool :=
  if "smtp.EmailBackend".toList.isSuffixOf settings.emailBackend.toList
    then settings.emailHost != ""
  else true

/-- How a claimed row ends; `failed` carries `str(exc)`. -/
inductive Outcome
  | sent | failed (exc : String) | skipped
deriving Repr, DecidableEq

/-- The columns each outcome writes. -/
def Outcome.record (now : Time) (r : CampaignSend) : Outcome → CampaignSend
  | sent => { r with status := .sent, sentAt := some now }
  | failed exc => { r with status := .failed, error := String.ofList (exc.toList.take 2000) }
  | skipped => { r with status := .skipped }

/-- Where a tick stands, with the objects it has loaded. -/
inductive TickStage
  /-- Before the query for the batch. -/
  | start
  /-- At the head of the loop over the batch. -/
  | claim (pending : List CampaignSend)
  | recheck (send : CampaignSend) (pending : List CampaignSend)
  | mail (send : CampaignSend) (guest : GuestAccount) (pending : List CampaignSend)
  | record (send : CampaignSend) (outcome : Outcome) (pending : List CampaignSend)
  /-- At the head of the loop over the touched campaigns. -/
  | check (campaigns : List Nat)
  | finish (campaign : Nat) (campaigns : List Nat)
  | done

/-- One run of the command. -/
structure Tick where
  settings : Settings
  /-- What the transport raises on a row. -/
  transport : CampaignSend → Option String
  /-- The order in which a set is walked through. -/
  order : List Nat → List Nat
  order_perm : ∀ l, (order l).Perm l
  /-- `touched_campaign_ids`. -/
  touched : List Nat
  now : Time
  stage : TickStage

/-- The status of a campaign, `NULL` when there is none. -/
def Marketing.statusOf (m : Marketing) (campaign : Nat) : Option CampaignStatus :=
  (m.campaigns.get? campaign).map (·.status)

/-- The pending rows of the campaigns being sent, oldest first, as many as fit a batch. -/
def pendingBatch (m : Marketing) (batchSize : Nat) : List CampaignSend :=
  (sortBy (·.id) (m.sends.rows.filter fun r =>
    r.status == .pending && m.statusOf r.campaign == some .sending)).take batchSize

/-- `CampaignSend.objects.filter(p).update(f)`. -/
def Marketing.updateSends (m : Marketing) (p : CampaignSend → Bool)
    (f : CampaignSend → CampaignSend)
    (hf : ∀ r, (f r).id = r.id := by intro _; exact id rfl) : Marketing :=
  { m with sends := m.sends.update p f hf }

/-- The rows that a claim flips. -/
def claims (send : CampaignSend) (r : CampaignSend) : Bool :=
  r.id == send.id && r.status == .pending

/-- The column a claim writes. -/
def claimedRow (r : CampaignSend) : CampaignSend := { r with status := .sending }

/-- `remaining`: a row of the campaign is still pending or being sent. -/
def remaining (m : Marketing) (campaign : Nat) : Bool :=
  m.sends.rows.any fun r =>
    r.campaign == campaign && (r.status == .pending || r.status == .sending)

/-- The columns of a campaign that is finished. -/
def finished (now : Time) (c : EmailCampaign) : EmailCampaign :=
  { c with status := .sent, sentAt := some now }

/-- `filter(pk=campaign_id, status=SENDING).update(status=SENT, sent_at=now)`. -/
def Marketing.finishCampaign (m : Marketing) (campaign : Nat) (now : Time) : Marketing :=
  { m with
    campaigns := m.campaigns.update (fun c => c.id == campaign && c.status == .sending)
      (finished now) }

/-- The sends after some of them were updated. -/
theorem mem_updateSends {m : Marketing} {p : CampaignSend → Bool} {f : CampaignSend → CampaignSend}
    {hf : ∀ r, (f r).id = r.id} {r' : CampaignSend} :
    r' ∈ (m.updateSends p f hf).sends.rows ↔ ∃ r ∈ m.sends.rows, (if p r then f r else r) = r' :=
  Table.mem_update (k := hf)

/-- The campaigns after one was finished. -/
theorem mem_finishCampaign {m : Marketing} {campaign : Nat} {now : Time} {c' : EmailCampaign} :
    c' ∈ (m.finishCampaign campaign now).campaigns.rows ↔ ∃ c ∈ m.campaigns.rows,
      (if c.id == campaign && c.status == .sending then finished now c else c) = c' :=
  Table.mem_update (f := finished now) (k := fun _ => rfl)

/-- The next statement of a tick. -/
def tickStep (m : Marketing) (t : Tick) : Marketing × Tick :=
  match t.stage with
  | .start =>
    if !emailDeliveryConfigured t.settings then (m, { t with stage := .done })
    else
      match pendingBatch m t.settings.campaignBatchSize with
      | [] => (m, { t with stage := .done })
      | pending => (m, { t with stage := .claim pending })
  | .claim [] => (m, { t with now := m.now, stage := .check (t.order t.touched) })
  | .claim (send :: pending) =>
    let t := { t with touched := t.touched.insert send.campaign }
    let claimed := (m.sends.rows.filter (claims send)).length
    let m := m.updateSends (claims send) claimedRow
    if claimed = 0 then (m, { t with stage := .claim pending })
    else (m, { t with stage := .recheck send pending })
  | .recheck send pending =>
    match m.db.guests.get? send.guest with
    | none => (m, { t with stage := .record send .skipped pending })
    | some guest =>
      if !guest.marketingOptIn then (m, { t with stage := .record send .skipped pending })
      else (m, { t with stage := .mail send guest pending })
  | .mail send guest pending =>
    let mail : Mail := ⟨send.id, send.campaign, send.guest, send.email, guest⟩
    let m := { m with mails := m.mails ++ [mail] }
    match t.transport send with
    | some exc => (m, { t with stage := .record send (.failed exc) pending })
    | none => (m, { t with stage := .record send .sent pending })
  | .record send outcome pending =>
    (m.updateSends (fun r => r.id == send.id) (fun r => outcome.record m.now r)
      (fun r => by cases outcome <;> rfl), { t with stage := .claim pending })
  | .check [] => (m, { t with stage := .done })
  | .check (campaign :: campaigns) =>
    if remaining m campaign then (m, { t with stage := .check campaigns })
    else (m, { t with stage := .finish campaign campaigns })
  | .finish campaign campaigns =>
    (m.finishCampaign campaign t.now, { t with stage := .check campaigns })
  | .done => (m, t)

/-! ### Everything else -/

/-- What happens beside the ticks.  `elsewhere` is any change of the other tables. -/
inductive Outside
  | startCampaign (campaign : Nat)
  | setMarketingOptIn (guest : Option GuestAccount) (optedIn : Bool)
  | compose (organization : Nat) (form : EmailCampaignForm)
  | elsewhere (change : Db → Db)
  | clock (now : Time)

/-- Carry it out.  A trigger that raises is rolled back. -/
def outside : Outside → Marketing → Marketing
  | .startCampaign campaign, m =>
    match startCampaign m campaign with
    | .ok (m', count) => { m' with started := m'.started ++ [(campaign, count)] }
    | .error _ => m
  | .setMarketingOptIn guest optedIn, m =>
    { m with db := { m.db with guests := setMarketingOptIn m.db.guests guest optedIn m.now } }
  | .compose organization form, m =>
    { m with campaigns := m.campaigns.insert fun i =>
        { id := i, organization := organization, name := form.name, subject := form.subject,
          body := form.body, segmentKind := form.segmentKind, segmentEvent := form.segmentEvent,
          segmentMinSpend := form.segmentMinSpend, status := .draft, recipientCount := 0,
          sentAt := none } }
  | .elsewhere change, m => { m with db := change m.db }
  | .clock now, m => { m with now := now }

/-- Nothing was triggered yet: every campaign is a draft, and the queue is empty. -/
def Marketing.Fresh (m : Marketing) : Prop :=
  (∀ c ∈ m.campaigns.rows, c.status = .draft ∧ c.recipientCount = 0) ∧ m.sends.rows = [] ∧
    m.mails = [] ∧ m.started = []

/-- Ticks, triggers and consent changes, interleaved in any order. -/
def campaignMail : Processes Marketing Tick Outside where
  init := Marketing.Fresh
  start t := t.stage = .start ∧ t.touched = []
  step := tickStep
  admits _ _ := True
  env := outside

/-- The row a tick has claimed and not yet settled. -/
def Tick.owns (t : Tick) : Option Nat :=
  match t.stage with
  | .recheck send _ | .mail send _ _ | .record send _ _ => some send.id
  | _ => none

/-- The tick will still test whether the campaign is finished. -/
def Tick.Covers (t : Tick) (campaign : Nat) : Prop :=
  match t.stage with
  | .claim _ | .recheck _ _ | .mail _ _ _ | .record _ _ _ => campaign ∈ t.touched
  | .check campaigns => campaign ∈ campaigns
  | .finish c campaigns => campaign = c ∨ campaign ∈ campaigns
  | .start | .done => False

end BoxOffice

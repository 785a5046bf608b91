import BoxOffice.Campaigns.BatchSend

namespace BoxOffice

open Relational Transition

/-!
# Campaigns — the edit form

* `EmailCampaignForm.errors` — what the form refuses, `EmailCampaign.edited` — the object it fills
  in;
* `CampaignEdit` is one submission of `EmailCampaignUpdateView` and `editStep` its next database
  statement: it loads the draft, checks the form, and saves the whole row it has loaded;
* `campaignDesk` interleaves submissions with the ticks and the triggers.
-/

namespace EmailCampaignForm

/-- A required text of at most `max` characters. -/
def textErrors (field value : String) (max : Option Nat) : List (String × String) :=
  let length := (strip value).toList.length
  if length = 0 then [(field, "This field is required.")]
  else if max.any (· < length) then
    [(field, s!"Ensure this value has at most {max.getD 0} characters (it has {length}).")]
  else []

/-- The event, when it is one of the organization's. -/
def cleanedEvent (db : Db) (organization : Nat) (form : EmailCampaignForm) : Option Event :=
  form.segmentEvent.bind fun e => (db.events.get? e).filter (·.organization == organization)

/-- The checks of the single fields. -/
def fieldErrors (db : Db) (organization : Nat) (form : EmailCampaignForm) :
    List (String × String) :=
  textErrors "name" form.name (some 255) ++ textErrors "subject" form.subject (some 255) ++
  textErrors "body" form.body none ++
  (match form.segmentKind with
    | .other text =>
      [("segment_kind", s!"Select a valid choice. {text} is not one of the available choices.")]
    | _ => []) ++
  if form.segmentEvent ≠ none ∧ cleanedEvent db organization form = none then
    [("segment_event",
      "Select a valid choice. That choice is not one of the available choices.")]
  else []

/-- `EmailCampaignForm.clean`. -/
def cleanErrors (db : Db) (organization : Nat) (form : EmailCampaignForm) :
    List (String × String) :=
  match form.segmentKind with
  | .event =>
    if cleanedEvent db organization form = none then
      [("segment_event", "Choose the event this campaign targets.")]
    else []
  | .minSpend =>
    -- A minimum of zero is as good as none.
    if form.segmentMinSpend.getD 0 = 0 then
      [("segment_min_spend", "Enter a minimum lifetime spend amount.")]
    else []
  | _ => []

/-- `form.errors`. -/
def errors (db : Db) (organization : Nat) (form : EmailCampaignForm) : List (String × String) :=
  form.fieldErrors db organization ++ form.cleanErrors db organization

end EmailCampaignForm

/-- The bound object, with the fields of the form filled in.  The other columns are as loaded. -/
def EmailCampaign.edited (campaign : EmailCampaign) (form : EmailCampaignForm) : EmailCampaign :=
  { campaign with
    name := strip form.name
    subject := strip form.subject
    body := strip form.body
    segmentKind := form.segmentKind
    segmentEvent := form.segmentEvent
    segmentMinSpend := form.segmentMinSpend }

/-! ### One submission -/

/-- Where a submission stands, with the object it has loaded. -/
inductive EditStage
  | load
  | validate (campaign : EmailCampaign)
  | save (campaign : EmailCampaign)
  | notFound
  | invalid (errors : List (String × String))
  | saved

/-- A `POST` to `EmailCampaignUpdateView`. -/
structure CampaignEdit where
  organization : Nat
  pk : Nat
  form : EmailCampaignForm
  stage : EditStage

/-- The columns of a row that the object is written to: all but the key. -/
def EmailCampaign.writtenTo (campaign c : EmailCampaign) : EmailCampaign :=
  { campaign with id := c.id }

/-- `instance.save()`: every column of the row is written. -/
def Marketing.saveCampaign (m : Marketing) (campaign : EmailCampaign) : Marketing :=
  { m with
    campaigns := m.campaigns.update (fun c => c.id == campaign.id) campaign.writtenTo }

/-- The campaigns after one was saved. -/
theorem mem_saveCampaign {m : Marketing} {campaign c' : EmailCampaign} :
    c' ∈ (m.saveCampaign campaign).campaigns.rows ↔ ∃ c ∈ m.campaigns.rows,
      (if c.id == campaign.id then campaign.writtenTo c else c) = c' :=
  Table.mem_update (f := campaign.writtenTo) (k := fun _ => rfl)

/-- The next statement of a submission. -/
def editStep (m : Marketing) (e : CampaignEdit) : Marketing × CampaignEdit :=
  match e.stage with
  | .load =>
    -- `get_queryset`: the drafts of the organization.
    match (m.campaigns.get? e.pk).filter
        fun c => c.organization == e.organization && c.status == .draft with
    | none => (m, { e with stage := .notFound })
    | some campaign => (m, { e with stage := .validate campaign })
  | .validate campaign =>
    match e.form.errors m.db e.organization with
    | [] => (m, { e with stage := .save (campaign.edited e.form) })
    | errors => (m, { e with stage := .invalid errors })
  | .save campaign => (m.saveCampaign campaign, { e with stage := .saved })
  | .notFound | .invalid _ | .saved => (m, e)

/-! ### Submissions, ticks and triggers -/

/-- What works on the campaigns. -/
inductive CampaignTask
  | tick (t : Tick)
  | edit (e : CampaignEdit)

/-- The next statement of a task. -/
def CampaignTask.step (m : Marketing) : CampaignTask → Marketing × CampaignTask
  | tick t => ((tickStep m t).1, .tick (tickStep m t).2)
  | edit e => ((editStep m e).1, .edit (editStep m e).2)

/-- A task that has not begun. -/
def CampaignTask.Fresh : CampaignTask → Prop
  | tick t => t.stage = .start ∧ t.touched = []
  | edit e => e.stage = .load

/-- Submissions and ticks, interleaved with triggers and everything else, from any queue.  Only
    the triggers of the run itself are recorded. -/
def campaignDesk : Processes Marketing CampaignTask Outside where
  init m := m.started = []
  start := CampaignTask.Fresh
  step := CampaignTask.step
  admits _ _ := True
  env := outside

end BoxOffice

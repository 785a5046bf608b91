import BoxOffice.Guests

namespace BoxOffice

open Relational

/-!
# Campaigns — the tables of the email marketing

* `EmailCampaign` — what staff composed, with its segment and its lifecycle; `EmailCampaignForm`
  is the part of it that staff fill in;
* `CampaignSend` — one recipient's row in the queue of a campaign;
* `Marketing` — both tables beside the rest of the database.  It also keeps the mail that left
  and the triggers that went through, which no query reads.
-/

inductive CampaignStatus
  | draft | sending | sent | cancelled
deriving Repr, DecidableEq

/-- `get_status_display`. -/
def CampaignStatus.display : CampaignStatus → String
  | draft => "Draft"
  | sending => "Sending"
  | sent => "Sent"
  | cancelled => "Cancelled"

/-- The kind of a segment; `other` is a text outside the choices. -/
inductive SegmentKind
  | all | event | minSpend | other (text : String)
deriving Repr, DecidableEq

structure EmailCampaign where
  id : Nat
  organization : Nat
  name : String
  subject : String
  body : String
  segmentKind : SegmentKind
  segmentEvent : Option Nat
  segmentMinSpend : Option Cents
  status : CampaignStatus
  recipientCount : Nat
  sentAt : Option Time
deriving Repr, DecidableEq

/-- The fields of `EmailCampaignForm`, as submitted. -/
structure EmailCampaignForm where
  name : String
  subject : String
  body : String
  segmentKind : SegmentKind
  segmentEvent : Option Nat
  segmentMinSpend : Option Cents
deriving Repr, DecidableEq

inductive SendStatus
  | pending | sending | sent | failed | skipped
deriving Repr, DecidableEq

/-- The outcomes: nothing more happens to such a row. -/
def SendStatus.terminal : SendStatus → Bool
  | sent | failed | skipped => true
  | pending | sending => false

structure CampaignSend where
  id : Nat
  organization : Nat
  campaign : Nat
  guest : Nat
  email : String
  status : SendStatus
  error : String
  sentAt : Option Time
deriving Repr, DecidableEq

instance : Keyed EmailCampaign := ⟨EmailCampaign.id⟩
instance : Keyed CampaignSend := ⟨CampaignSend.id⟩

/-- One call of `send_campaign_send`: the row it is for, the address, and the guest as re-read,
    whose unsubscribe link it carries. -/
structure Mail where
  send : Nat
  campaign : Nat
  guest : Nat
  toEmail : String
  recheck : GuestAccount
deriving Repr, DecidableEq

/-- The marketing tables, the rest of the database, the clock, the mail handed to the transport
    and what each successful `start_campaign` returned. -/
structure Marketing where
  db : Db
  campaigns : Table EmailCampaign
  sends : Table CampaignSend
  now : Time
  mails : List Mail
  started : List (Nat × Nat)

/-- The rows of a campaign. -/
def Marketing.sendsOf (m : Marketing) (campaign : Nat) : List CampaignSend :=
  m.sends.rows.filter fun r => r.campaign == campaign

/-- A row leaves a state only for a later one: it is queued, claimed and settled, in this order. -/
def SendStatus.Follows (before after : SendStatus) : Prop :=
  after = before ∨ before = .pending ∨ (before = .sending ∧ after ≠ .pending)

namespace SendStatus

variable {a b c : SendStatus}

/-- A status follows itself. -/
theorem Follows.refl (a : SendStatus) : a.Follows a := .inl rfl

/-- Following is transitive. -/
theorem Follows.trans (hab : a.Follows b) (hbc : b.Follows c) : a.Follows c := by
  revert hab hbc
  unfold Follows
  cases a <;> cases b <;> cases c <;> decide

/-- A settled row stays as it is. -/
theorem Follows.of_terminal (h : a.Follows b) (ha : a.terminal = true) : b = a := by
  rcases h with rfl | rfl | ⟨rfl, -⟩
  · rfl
  · cases ha
  · cases ha

/-- A row is queued only once. -/
theorem Follows.ne_pending (h : a.Follows b) (ha : a ≠ .pending) : b ≠ .pending := by
  rcases h with rfl | h | ⟨-, hb⟩
  · exact ha
  · exact absurd h ha
  · exact hb

end SendStatus

end BoxOffice

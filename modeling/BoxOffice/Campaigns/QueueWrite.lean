import BoxOffice.Campaigns.BatchSend

namespace BoxOffice

open Relational Transition

/-!
# Campaigns — what is written to the queue

* `QueueWrite m owner` lists what one step may write to the tables, on behalf of a process that
  has claimed the row `owner`; `RowMove` is what may become of a row;
* `QueueWrite.row`, `QueueWrite.row_back` and `QueueWrite.launched` follow rows and campaigns
  through a write, and the lemmas about single facts go through them.
-/

/-! ### Facts about a queue -/

/-- The row `i` is queued for the guest and the campaign, with a status that meets `p`. -/
def HasRow (m : Marketing) (i campaign guest : Nat) (p : SendStatus → Prop) : Prop :=
  ∃ r ∈ m.sends.rows, r.id = i ∧ r.campaign = campaign ∧ r.guest = guest ∧ p r.status

/-- The campaign was triggered. -/
def Launched (m : Marketing) (campaign : Nat) : Prop :=
  ∃ c ∈ m.campaigns.rows, c.id = campaign ∧ c.status ≠ .draft

/-- Every row of the campaign is settled. -/
def Drained (m : Marketing) (campaign : Nat) : Prop :=
  ∀ r ∈ m.sends.rows, r.campaign = campaign → r.status.terminal = true

/-! ### Writes -/

/-- A row keeps its guest and its campaign, moves on in its life cycle, and stays claimed unless
    its owner settles it. -/
structure RowMove (owner : Option Nat) (r r' : CampaignSend) : Prop where
  id : r'.id = r.id
  campaign : r'.campaign = r.campaign
  guest : r'.guest = r.guest
  follows : r.status.Follows r'.status
  kept : r.status = .sending → owner ≠ some r.id → r'.status = .sending

/-- A row that stays has moved nowhere. -/
theorem RowMove.refl (owner : Option Nat) (r : CampaignSend) : RowMove owner r r :=
  ⟨rfl, rfl, rfl, .refl _, fun hs _ => hs⟩

/-- What a step writes.  Only the process that claimed a row may settle it or mail its guest. -/
inductive QueueWrite (m : Marketing) (owner : Option Nat) : Marketing → Prop
  | idle : QueueWrite m owner m
  | elsewhere (db : Db) (now : Time) : QueueWrite m owner { m with db := db, now := now }
  | compose (mk : Nat → EmailCampaign) (hk : ∀ i, (mk i).id = i)
      (draft : ∀ i, (mk i).status = .draft ∧ (mk i).recipientCount = 0) :
      QueueWrite m owner { m with campaigns := m.campaigns.insert mk hk }
  | start (locked : EmailCampaign) (guests : List GuestAccount) (stored : locked ∈ m.campaigns.rows)
      (draft : locked.status = .draft) (nodup : (guests.map (·.id)).Nodup) :
      QueueWrite m owner { startedWith m locked guests with
        started := m.started ++ [(locked.id, guests.length)] }
  | move (p : CampaignSend → Bool) (f : CampaignSend → CampaignSend) (hf : ∀ r, (f r).id = r.id)
      (moves : ∀ r ∈ m.sends.rows, p r = true → RowMove owner r (f r)) :
      QueueWrite m owner (m.updateSends p f hf)
  | mail (x : Mail) (owned : owner = some x.send)
      (row : HasRow m x.send x.campaign x.guest (· = .sending))
      (first : x.send ∉ m.mails.map (·.send))
      (consent : x.recheck.id = x.guest ∧ x.recheck.marketingOptIn = true) :
      QueueWrite m owner { m with mails := m.mails ++ [x] }
  | finish (campaign : Nat) (now : Time) (drained : Drained m campaign) :
      QueueWrite m owner (m.finishCampaign campaign now)

section Writes

variable {m m' : Marketing} {owner : Option Nat} {campaign : Nat} {r : CampaignSend}

/-- Each row of an update comes from a row that moved. -/
theorem RowMove.ite {p : CampaignSend → Bool} {f : CampaignSend → CampaignSend}
    (h : p r = true → RowMove owner r (f r)) : RowMove owner r (if p r then f r else r) := by
  by_cases hp : p r = true
  · rw [if_pos hp]
    exact h hp
  · rw [if_neg hp]
    exact .refl owner r

/-- **The rows, forward.** -/
theorem QueueWrite.row (h : QueueWrite m owner m') (hr : r ∈ m.sends.rows) :
    ∃ r' ∈ m'.sends.rows, RowMove owner r r' := by
  cases h with
  | idle => exact ⟨r, hr, .refl owner r⟩
  | elsewhere => exact ⟨r, hr, .refl owner r⟩
  | compose => exact ⟨r, hr, .refl owner r⟩
  | mail => exact ⟨r, hr, .refl owner r⟩
  | finish => exact ⟨r, hr, .refl owner r⟩
  | start => exact ⟨r, Table.mem_insertMany_of_mem hr, .refl owner r⟩
  | move p f hf moves =>
    exact ⟨_, mem_updateSends.mpr ⟨r, hr, rfl⟩, RowMove.ite (moves r hr)⟩

/-- The campaign of a trigger is triggered. -/
theorem launched_startedWith {locked : EmailCampaign} {guests : List GuestAccount}
    (h : locked ∈ m.campaigns.rows) : Launched (startedWith m locked guests) locked.id := by
  refine ⟨_, mem_startedWith.mpr ⟨locked, h, if_pos (beq_self_eq_true _)⟩, triggered_id _ _ _, ?_⟩
  rw [(triggered_status _ _ _).1]
  split_ifs <;> simp

/-- **The rows, backward.** A row was there before, or has just been queued for a draft. -/
theorem QueueWrite.row_back (h : QueueWrite m owner m') {r' : CampaignSend}
    (hr' : r' ∈ m'.sends.rows) :
    (∃ r ∈ m.sends.rows, RowMove owner r r') ∨
      r'.status = .pending ∧ Launched m' r'.campaign ∧
        ∃ c ∈ m.campaigns.rows, c.id = r'.campaign ∧ c.status = .draft := by
  cases h with
  | idle => exact .inl ⟨r', hr', .refl owner r'⟩
  | elsewhere => exact .inl ⟨r', hr', .refl owner r'⟩
  | compose => exact .inl ⟨r', hr', .refl owner r'⟩
  | mail => exact .inl ⟨r', hr', .refl owner r'⟩
  | finish => exact .inl ⟨r', hr', .refl owner r'⟩
  | start locked guests stored draft =>
    rcases Table.mem_insertMany hr' with hr | ⟨g, -, i, -, rfl⟩
    · exact .inl ⟨r', hr, .refl owner r'⟩
    · exact .inr ⟨rfl, launched_startedWith stored, locked, stored, rfl, draft⟩
  | move p f hf moves =>
    obtain ⟨r, hr, rfl⟩ := mem_updateSends.mp hr'
    exact .inl ⟨r, hr, RowMove.ite (moves r hr)⟩

/-- A triggered campaign is none of the drafts. -/
theorem Launched.ne_draft (h : Launched m campaign) {c : EmailCampaign}
    (hc : c ∈ m.campaigns.rows) (hdraft : c.status = .draft) : campaign ≠ c.id := by
  obtain ⟨d, hd, rfl, hstatus⟩ := h
  intro hid
  obtain rfl : d = c := Table.eq_of_key_eq hd hc hid
  exact hstatus hdraft

/-- **The campaigns, forward.** A triggered campaign never becomes a draft again. -/
theorem QueueWrite.launched (h : QueueWrite m owner m') (hl : Launched m campaign) :
    Launched m' campaign := by
  obtain ⟨c, hc, rfl, hstatus⟩ := hl
  cases h with
  | idle => exact ⟨c, hc, rfl, hstatus⟩
  | elsewhere => exact ⟨c, hc, rfl, hstatus⟩
  | mail => exact ⟨c, hc, rfl, hstatus⟩
  | move => exact ⟨c, hc, rfl, hstatus⟩
  | compose mk hk => exact ⟨c, Table.mem_insert_of_mem (k := hk) hc, rfl, hstatus⟩
  | start locked guests stored draft =>
    have hne : (c.id == locked.id) = false :=
      beq_false_of_ne (Launched.ne_draft ⟨c, hc, rfl, hstatus⟩ stored draft)
    exact ⟨c, mem_startedWith.mpr ⟨c, hc, by rw [hne]; rfl⟩, rfl, hstatus⟩
  | finish i now =>
    by_cases hp : (c.id == i && c.status == .sending) = true
    · exact ⟨_, mem_finishCampaign.mpr ⟨c, hc, if_pos hp⟩, rfl, by simp [finished]⟩
    · exact ⟨c, mem_finishCampaign.mpr ⟨c, hc, if_neg hp⟩, rfl, hstatus⟩

/-! ### Single facts through a write -/

/-- A send has its row after a write, in a status that follows. -/
theorem HasRow.write (hw : QueueWrite m owner m') {i guest : Nat} {p : SendStatus → Prop}
    (h : HasRow m i campaign guest p) (hp : ∀ a b : SendStatus, a.Follows b → p a → p b) :
    HasRow m' i campaign guest p := by
  obtain ⟨r, hr, rfl, rfl, rfl, hst⟩ := h
  obtain ⟨r', hr', hmove⟩ := hw.row hr
  exact ⟨r', hr', hmove.id, hmove.campaign, hmove.guest, hp _ _ hmove.follows hst⟩

/-- A row that somebody else has claimed stays claimed. -/
theorem HasRow.claimed (hw : QueueWrite m owner m') {i guest : Nat}
    (h : HasRow m i campaign guest (· = .sending)) (hne : owner ≠ some i) :
    HasRow m' i campaign guest (· = .sending) := by
  obtain ⟨r, hr, rfl, rfl, rfl, hst⟩ := h
  obtain ⟨r', hr', hmove⟩ := hw.row hr
  exact ⟨r', hr', hmove.id, hmove.campaign, hmove.guest, hmove.kept hst hne⟩

/-- A key names one row. -/
theorem HasRow.both {i guest campaign' guest' : Nat} {p q : SendStatus → Prop}
    (h : HasRow m i campaign guest p) (h' : HasRow m i campaign' guest' q) :
    campaign = campaign' ∧ guest = guest' ∧ ∃ s, p s ∧ q s := by
  obtain ⟨r, hr, hid, hcampaign, hguest, hp⟩ := h
  obtain ⟨r', hr', hid', hcampaign', hguest', hq⟩ := h'
  obtain rfl : r = r' := Table.eq_of_key_eq hr hr' (hid.trans hid'.symm)
  exact ⟨hcampaign.symm.trans hcampaign', hguest.symm.trans hguest', r.status, hp, hq⟩

/-- A guest whose row somebody else has claimed is not mailed. -/
theorem QueueWrite.not_mailed (hw : QueueWrite m owner m') {i : Nat}
    (h : i ∉ m.mails.map (·.send)) (hne : owner ≠ some i) : i ∉ m'.mails.map (·.send) := by
  cases hw with
  | idle => exact h
  | elsewhere => exact h
  | compose => exact h
  | start => exact h
  | move => exact h
  | finish => exact h
  | mail x owned =>
    show i ∉ (m.mails ++ [x]).map (·.send)
    rw [List.map_append, List.mem_append, not_or]
    refine ⟨h, fun hi => hne ?_⟩
    rw [List.mem_singleton.mp hi, owned]

/-- A campaign whose rows are settled gets no others. -/
theorem Drained.write (hw : QueueWrite m owner m') (hl : Launched m campaign)
    (h : Drained m campaign) : Drained m' campaign := by
  intro r' hr' hcampaign
  rcases hw.row_back hr' with ⟨r, hr, hmove⟩ | ⟨-, -, c, hc, hid, hdraft⟩
  · have hterminal := h r hr (hmove.campaign.symm.trans hcampaign)
    rw [hmove.follows.of_terminal hterminal]
    exact hterminal
  · exact absurd (hcampaign.symm.trans hid.symm) (hl.ne_draft hc hdraft)

/-- Rows that move stay with their campaign. -/
theorem length_sendsOf_updateSends {p : CampaignSend → Bool} {f : CampaignSend → CampaignSend}
    {hf : ∀ r, (f r).id = r.id} (moves : ∀ r ∈ m.sends.rows, p r = true → RowMove owner r (f r)) :
    ((m.updateSends p f hf).sendsOf campaign).length = (m.sendsOf campaign).length := by
  show ((m.sends.rows.map _).filter _).length = _
  rw [List.filter_map, List.length_map]
  refine congrArg List.length (List.filter_congr fun r hr => ?_)
  show ((if p r then f r else r).campaign == campaign) = _
  rw [(RowMove.ite (moves r hr)).campaign]

/-- A triggered campaign keeps the number of its rows. -/
theorem QueueWrite.length_sendsOf (hw : QueueWrite m owner m') (hl : Launched m campaign) :
    (m'.sendsOf campaign).length = (m.sendsOf campaign).length := by
  cases hw with
  | idle => rfl
  | elsewhere => rfl
  | compose => rfl
  | mail => rfl
  | finish => rfl
  | start locked guests stored draft =>
    exact congrArg List.length (sendsOf_startedWith (hl.ne_draft stored draft))
  | move p f hf moves => exact length_sendsOf_updateSends moves

end Writes

end BoxOffice

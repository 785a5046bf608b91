import BoxOffice.Campaigns.EditForm
import BoxOffice.Campaigns.OneEmail
import BoxOffice.Transition.Apart

namespace BoxOffice

open Relational Transition

/-!
# Campaigns — the lifecycle is one-way

* `Marketing.KeepsLaunched` — no triggered campaign goes back to a draft or changes what it says;
* `TriggersApart` — the condition on a schedule: no trigger of a campaign goes through between the
  load and the save of a submission of it;
* `savesDraft_reachable` — in such a schedule every submission that is about to save finds its
  campaign still a draft, because the view has loaded a draft;
* `desk_step` — every step then keeps what is triggered; `campaign_one_way` is the statement over
  runs;
* `edit_reverts` — a submission that saves a campaign triggered meanwhile turns it back into a
  draft, so it can be triggered once more: `campaign_triggered_twice`.
-/

/-- What no longer changes once the campaign is triggered. -/
structure EmailCampaign.Fixed (c c' : EmailCampaign) : Prop where
  id : c'.id = c.id
  launched : c'.status ≠ .draft
  subject : c'.subject = c.subject
  body : c'.body = c.body
  segmentKind : c'.segmentKind = c.segmentKind
  segmentEvent : c'.segmentEvent = c.segmentEvent
  segmentMinSpend : c'.segmentMinSpend = c.segmentMinSpend
  recipientCount : c'.recipientCount = c.recipientCount

/-- Every triggered campaign stays triggered, with the same content. -/
def Marketing.KeepsLaunched (m m' : Marketing) : Prop :=
  ∀ c ∈ m.campaigns.rows, c.status ≠ .draft → ∃ c' ∈ m'.campaigns.rows, c.Fixed c'

/-- The submission has loaded the campaign and has not saved it yet. -/
def CampaignTask.Edits (campaign : Nat) : CampaignTask → Prop
  | .edit e =>
    match e.stage with
    | .validate c | .save c => c.id = campaign
    | _ => False
  | .tick _ => False

/-- The next move triggers the campaign, and the trigger goes through. -/
def Triggers (campaign : Nat) (c : Config Marketing CampaignTask)
    (a : Move CampaignTask Outside) : Prop :=
  a = .env (.startCampaign campaign) ∧ ∃ m count, startCampaign c.shared campaign = .ok (m, count)

/-- **The condition on the schedule.** No trigger of a campaign goes through between the load and
    the save of a submission of it. -/
def TriggersApart (c : Config Marketing CampaignTask) (a : Move CampaignTask Outside) : Prop :=
  ∀ campaign, Apart (Triggers campaign) (CampaignTask.Edits campaign) c a

/-- The schedules that meet it. -/
def deskApart : System (Config Marketing CampaignTask) (Move CampaignTask Outside) :=
  campaignDesk.system.restrict TriggersApart

/-- The campaign is a draft, as far as it is stored. -/
def StoredDraft (campaign : Nat) (m : Marketing) : Prop :=
  ∀ c ∈ m.campaigns.rows, c.id = campaign → c.status = .draft

/-- A submission that is about to save finds its campaign still a draft. -/
def SavesDraft (m : Marketing) : CampaignTask → Prop
  | .edit e =>
    match e.stage with
    | .save campaign => StoredDraft campaign.id m
    | _ => True
  | .tick _ => True

section Steps

variable {m m' m'' : Marketing} {c : EmailCampaign}

/-- A launched campaign is fixed in itself. -/
theorem EmailCampaign.Fixed.refl (h : c.status ≠ .draft) : c.Fixed c :=
  ⟨rfl, h, rfl, rfl, rfl, rfl, rfl, rfl⟩

/-- What is fixed twice is fixed. -/
theorem EmailCampaign.Fixed.trans {c' c'' : EmailCampaign} (h : c.Fixed c') (h' : c'.Fixed c'') :
    c.Fixed c'' where
  id := h'.id.trans h.id
  launched := h'.launched
  subject := h'.subject.trans h.subject
  body := h'.body.trans h.body
  segmentKind := h'.segmentKind.trans h.segmentKind
  segmentEvent := h'.segmentEvent.trans h.segmentEvent
  segmentMinSpend := h'.segmentMinSpend.trans h.segmentMinSpend
  recipientCount := h'.recipientCount.trans h.recipientCount

namespace Marketing.KeepsLaunched

/-- Campaigns that stay where they are. -/
theorem of_subset (h : ∀ c ∈ m.campaigns.rows, c ∈ m'.campaigns.rows) : m.KeepsLaunched m' :=
  fun c hc hstatus => ⟨c, h c hc, .refl hstatus⟩

/-- Nothing was launched back. -/
theorem refl (m : Marketing) : m.KeepsLaunched m := of_subset fun _ hc => hc

/-- What keeps launched campaigns twice keeps them. -/
theorem trans (h : m.KeepsLaunched m') (h' : m'.KeepsLaunched m'') : m.KeepsLaunched m'' := by
  intro c hc hstatus
  obtain ⟨d, hd, hcd⟩ := h c hc hstatus
  obtain ⟨e, he, hde⟩ := h' d hd hcd.launched
  exact ⟨e, he, hcd.trans hde⟩

/-- An update that leaves what is triggered as it is. -/
theorem update {p : EmailCampaign → Bool} {f : EmailCampaign → EmailCampaign} {k}
    (hm' : m'.campaigns = m.campaigns.update p f k)
    (hf : ∀ c ∈ m.campaigns.rows, c.status ≠ .draft → p c = true → c.Fixed (f c)) :
    m.KeepsLaunched m' := by
  intro c hc hstatus
  -- Its row afterwards is the updated one, or the same row.
  refine ⟨if p c then f c else c, ?_, ?_⟩
  · rw [hm']
    exact (Table.mem_update (k := k)).mpr ⟨c, hc, rfl⟩
  · split_ifs with hp
    · exact hf c hc hstatus hp
    · exact .refl hstatus

/-- A launched campaign stays launched. -/
theorem launched (h : m.KeepsLaunched m') {campaign : Nat} (hl : Launched m campaign) :
    Launched m' campaign := by
  obtain ⟨c, hc, rfl, hstatus⟩ := hl
  obtain ⟨c', hc', hfixed⟩ := h c hc hstatus
  exact ⟨c', hc', hfixed.id, hfixed.launched⟩

end Marketing.KeepsLaunched

/-! ### The steps -/

/-- The campaigns after a trigger that goes through. -/
theorem startCampaign_campaigns {campaign count : Nat}
    (h : startCampaign m campaign = .ok (m', count)) :
    ∃ locked ∈ m.campaigns.rows, locked.id = campaign ∧ locked.status = .draft ∧
      m'.started = m.started ∧
      m'.campaigns = m.campaigns.update (fun c => c.id == locked.id) (triggered count m.now)
        (triggered_id count m.now) := by
  unfold startCampaign at h
  split at h
  · cases h
  case h_2 locked hget =>
    split_ifs at h with hstatus
    split at h
    · cases h
    · obtain ⟨rfl, rfl⟩ := Prod.mk.inj (Except.ok.inj h)
      exact ⟨locked, Table.get?_mem hget, Table.get?_key hget, not_not.mp hstatus, rfl, rfl⟩

/-- A trigger leaves the other campaigns alone, and launches its own. -/
theorem startCampaign_keeps {campaign count : Nat}
    (h : startCampaign m campaign = .ok (m', count)) :
    m.KeepsLaunched m' ∧ Launched m' campaign := by
  obtain ⟨locked, hlocked, rfl, hdraft, -, hcampaigns⟩ := startCampaign_campaigns h
  constructor
  · refine .update hcampaigns fun c hc hstatus hp => ?_
    -- The campaign it triggers was a draft.
    obtain rfl : c = locked := Table.eq_of_key_eq hc hlocked (beq_iff_eq.mp hp)
    exact absurd hdraft hstatus
  · refine ⟨triggered count m.now locked, ?_, triggered_id _ _ _, ?_⟩
    · rw [hcampaigns]
      exact (Table.mem_update (k := triggered_id count m.now)).mpr
        ⟨locked, hlocked, if_pos (beq_self_eq_true _)⟩
    · rw [(triggered_status _ _ _).1]
      split_ifs <;> simp

/-- A tick writes to the campaigns only when it finishes one. -/
theorem tickStep_campaigns (m : Marketing) (t : Tick) :
    (tickStep m t).1.started = m.started ∧
      ((tickStep m t).1.campaigns = m.campaigns ∨
        ∃ campaign now, (tickStep m t).1.campaigns
          = (m.finishCampaign campaign now).campaigns) := by
  have hmove := tickStep_move m t
  generalize tickStep m t = next at hmove ⊢
  cases hmove with
  | finish campaign campaigns hs => exact ⟨rfl, .inr ⟨campaign, t.now, rfl⟩⟩
  | _ => exact ⟨rfl, .inl rfl⟩

/-- A tick keeps the launched campaigns. -/
theorem tickStep_keeps (m : Marketing) (t : Tick) : m.KeepsLaunched (tickStep m t).1 := by
  rcases (tickStep_campaigns m t).2 with hsame | ⟨campaign, now, hfinish⟩
  · exact .of_subset fun c hc => hsame ▸ hc
  · refine .update (f := finished now) (k := fun _ => rfl) hfinish fun c hc hstatus hp => ?_
    exact ⟨rfl, by simp [finished], rfl, rfl, rfl, rfl, rfl, rfl⟩

/-- A submission leaves what is triggered alone when it saves a draft. -/
theorem editStep_keeps {e : CampaignEdit} (h : SavesDraft m (.edit e)) :
    (editStep m e).1.started = m.started ∧ m.KeepsLaunched (editStep m e).1 := by
  obtain ⟨organization, pk, form, stage⟩ := e
  cases stage with
  | load =>
    simp only [editStep]
    split <;> exact ⟨rfl, .refl m⟩
  | validate campaign =>
    simp only [editStep]
    split <;> exact ⟨rfl, .refl m⟩
  | save campaign =>
    refine ⟨rfl, fun c hc hstatus => ⟨c, mem_saveCampaign.mpr ⟨c, hc, ?_⟩, .refl hstatus⟩⟩
    -- The row that is overwritten is a draft, so it is another one.
    have hne : (c.id == campaign.id) = false := beq_false_of_ne fun hid => hstatus (h c hc hid)
    rw [hne]
    rfl
  | notFound => exact ⟨rfl, .refl m⟩
  | invalid errors => exact ⟨rfl, .refl m⟩
  | saved => exact ⟨rfl, .refl m⟩

/-- **One step.** What is triggered stays so, and only a draft is triggered. -/
theorem desk_step {c c' : Config Marketing CampaignTask} {a : Move CampaignTask Outside}
    (hsaves : ∀ l ∈ c.procs, SavesDraft c.shared l) (hs : campaignDesk.system.step c a c') :
    c.shared.KeepsLaunched c'.shared ∧
      (c'.shared.started = c.shared.started ∨
        ∃ campaign count, c'.shared.started = c.shared.started ++ [(campaign, count)] ∧
          ¬Launched c.shared campaign ∧ Launched c'.shared campaign) := by
  -- Only a tick, a submission or a trigger writes to the campaigns.
  rcases Processes.step_cases hs with ⟨l, -, -, rfl⟩ | ⟨i, l, hi, -, -, rfl⟩ | ⟨e, -, -, rfl⟩
  · exact ⟨.refl _, .inl rfl⟩
  · cases l with
    | tick t => exact ⟨tickStep_keeps _ t, .inl (tickStep_campaigns _ t).1⟩
    | edit e =>
      have hkeeps := editStep_keeps (hsaves _ (List.mem_of_getElem? hi))
      exact ⟨hkeeps.2, .inl hkeeps.1⟩
  · cases e with
    | startCampaign campaign =>
      show c.shared.KeepsLaunched (outside (.startCampaign campaign) c.shared) ∧ _
      rcases hstart : startCampaign c.shared campaign with e | ⟨m', count⟩
      · have hsame : campaignDesk.env (.startCampaign campaign) c.shared = c.shared := by
          simp only [campaignDesk, outside, hstart]
        rw [show outside (.startCampaign campaign) c.shared = c.shared from hsame, hsame]
        exact ⟨.refl _, .inl rfl⟩
      · have hnext : campaignDesk.env (.startCampaign campaign) c.shared
            = { m' with started := m'.started ++ [(campaign, count)] } := by
          simp only [campaignDesk, outside, hstart]
        obtain ⟨hkeeps, hlaunched⟩ := startCampaign_keeps hstart
        obtain ⟨locked, hlocked, hid, hdraft, hstarted, -⟩ := startCampaign_campaigns hstart
        rw [show outside (.startCampaign campaign) c.shared = _ from hnext, hnext]
        refine ⟨hkeeps, .inr ⟨campaign, count, by rw [← hstarted], fun hl => ?_, hlaunched⟩⟩
        exact hl.ne_draft hlocked hdraft hid.symm
    | setMarketingOptIn guest optedIn => exact ⟨.of_subset fun _ hd => hd, .inl rfl⟩
    | compose organization form =>
      exact ⟨.of_subset fun _ hd => Table.mem_insert_of_mem hd, .inl rfl⟩
    | elsewhere change => exact ⟨.of_subset fun _ hd => hd, .inl rfl⟩
    | clock now => exact ⟨.of_subset fun _ hd => hd, .inl rfl⟩

end Steps

section Runs

variable {c c' : Config Marketing CampaignTask} {as : List (Move CampaignTask Outside)}

/-! ### What a submission carries -/

/-- A submission carries a draft, whatever became of the campaign since. -/
def CarriesDraft : CampaignTask → Prop
  | .edit e =>
    match e.stage with
    | .validate campaign | .save campaign => campaign.status = .draft
    | _ => True
  | .tick _ => True

/-- **The step.** A submission carries a draft. -/
theorem carriesDraft_step {m : Marketing} {l : CampaignTask} (h : CarriesDraft l) :
    CarriesDraft (l.step m).2 := by
  cases l with
  | tick t => trivial
  | edit e =>
    obtain ⟨organization, pk, form, stage⟩ := e
    cases stage with
    | load =>
      simp only [CampaignTask.step, editStep]
      split
      · trivial
      · rename_i campaign hload
        -- The query of the view loads drafts only.
        have hfilter := (Option.filter_eq_some_iff.mp hload).2
        rw [Bool.and_eq_true, beq_iff_eq, beq_iff_eq] at hfilter
        exact hfilter.2
    | validate campaign =>
      simp only [CampaignTask.step, editStep]
      split
      · exact h
      · trivial
    | save campaign => trivial
    | notFound => trivial
    | invalid errors => trivial
    | saved => trivial

/-- At every moment, every submission carries a draft. -/
theorem carriesDraft_reachable (h : Reachable campaignDesk.system c) :
    ∀ l ∈ c.procs, CarriesDraft l := by
  have hproof : Interference campaignDesk (fun _ _ => True) (fun _ => True)
      fun _ l => CarriesDraft l := by
    refine ⟨fun _ l _ hl => ?_, fun _ l _ hl _ => ⟨trivial, carriesDraft_step hl⟩,
      fun _ _ _ _ _ _ hk => hk, fun _ _ _ _ => trivial, fun _ _ _ _ _ hl => hl⟩
    cases l with
    | tick t => trivial
    | edit e =>
      have hload : e.stage = .load := hl
      unfold CarriesDraft
      simp only [hload]
  exact (hproof.reachable (fun _ _ => trivial) h).2

/-! ### No trigger meanwhile -/

/-- The rows that a tick finishes were sending, so the drafts stay. -/
theorem StoredDraft.tick {m : Marketing} {campaign : Nat} (h : StoredDraft campaign m) (t : Tick) :
    StoredDraft campaign (tickStep m t).1 := by
  intro r hr hid
  rcases (tickStep_campaigns m t).2 with hsame | ⟨finished, now, hfinish⟩
  · exact h r (hsame ▸ hr) hid
  · rw [hfinish] at hr
    obtain ⟨r', hr', rfl⟩ := mem_finishCampaign.mp hr
    split_ifs at hid ⊢ with hp
    · have hdraft := h r' hr' hid
      rw [hdraft] at hp
      simp at hp
    · exact h r' hr' hid

/-- A submission writes the draft it carries. -/
theorem StoredDraft.edit {m : Marketing} {campaign : Nat} (h : StoredDraft campaign m)
    {e : CampaignEdit} (hcarries : CarriesDraft (.edit e)) :
    StoredDraft campaign (editStep m e).1 := by
  obtain ⟨organization, pk, form, stage⟩ := e
  cases stage with
  | save loaded =>
    intro r hr hid
    obtain ⟨r', hr', rfl⟩ := mem_saveCampaign.mp hr
    split_ifs at hid ⊢ with hp
    · exact hcarries
    · exact h r' hr' hid
  | load => simp only [editStep]; split <;> exact h
  | validate loaded => simp only [editStep]; split <;> exact h
  | _ => exact h

/-- A trigger of another campaign, or one that does not go through, leaves the draft. -/
theorem StoredDraft.outside {m : Marketing} {campaign : Nat} (h : StoredDraft campaign m)
    {e : Outside} (hno : e = .startCampaign campaign → ∀ m' n, startCampaign m campaign ≠ .ok (m', n)) :
    StoredDraft campaign (outside e m) := by
  cases e with
  | startCampaign other =>
    rcases hstart : startCampaign m other with err | ⟨m', count⟩
    · simpa only [BoxOffice.outside, hstart] using h
    · obtain ⟨locked, -, hlocked, -, -, hcampaigns⟩ := startCampaign_campaigns hstart
      have hne : other ≠ campaign := fun heq => hno (heq ▸ rfl) m' count (heq ▸ hstart)
      intro r hr hid
      simp only [BoxOffice.outside, hstart] at hr
      rw [hcampaigns] at hr
      obtain ⟨r', hr', rfl⟩ :=
        (Table.mem_update (k := triggered_id count m.now)).mp hr
      split_ifs at hid ⊢ with hp
      · rw [triggered_id] at hid
        exact absurd (hlocked.symm.trans ((beq_iff_eq.mp hp).symm.trans hid)) hne
      · exact h r' hr' hid
  | compose organization form =>
    intro r hr hid
    rcases Table.mem_insert.mp hr with hr | rfl
    · exact h r hr hid
    · rfl
  | setMarketingOptIn guest optedIn => exact h
  | elsewhere change => exact h
  | clock now => exact h

/-- The submissions of a campaign rely on it being a draft. -/
theorem desk_relied (campaign : Nat) :
    Relied campaignDesk (fun _ _ => True) (Triggers campaign) (CampaignTask.Edits campaign)
      (StoredDraft campaign) where
  start l hl := by
    cases l with
    | tick t => exact id
    | edit e =>
      have hload : e.stage = .load := hl
      unfold CampaignTask.Edits
      simp only [hload]
      exact id
  enter m l _ hl hbusy := by
    cases l with
    | tick t => exact hbusy.elim
    | edit e =>
      obtain ⟨organization, pk, form, stage⟩ := e
      cases stage with
      | load =>
        simp only [campaignDesk, CampaignTask.step, editStep] at hbusy ⊢
        split at hbusy
        · exact hbusy.elim
        · rename_i loaded hload
          -- The query of the view loads drafts only.
          obtain ⟨hget, hfilter⟩ := Option.filter_eq_some_iff.mp hload
          rw [Bool.and_eq_true, beq_iff_eq, beq_iff_eq] at hfilter
          intro r hr hid
          obtain rfl : r = loaded :=
            Table.eq_of_key_eq hr (Table.get?_mem hget) (hid.trans (Eq.symm hbusy))
          exact hfilter.2
      | validate loaded =>
        simp only [campaignDesk, CampaignTask.step, editStep] at hbusy
        split at hbusy
        · exact absurd hbusy hl
        · exact hbusy.elim
      | _ => exact hbusy.elim
  keep c a c' hr hs hbreak hF := by
    rcases Processes.step_cases hs with ⟨l, -, -, rfl⟩ | ⟨i, l, hi, -, -, rfl⟩ | ⟨e, -, rfl, rfl⟩
    · exact hF
    · cases l with
      | tick t => exact hF.tick t
      | edit e => exact hF.edit (carriesDraft_reachable hr _ (List.mem_of_getElem? hi))
    · refine hF.outside ?_
      rintro rfl m' n hstart
      exact hbreak ⟨rfl, m', n, hstart⟩

/-- **No trigger meanwhile.** A submission that is about to save finds its campaign a draft. -/
theorem savesDraft_reachable (h : Reachable deskApart c) :
    ∀ l ∈ c.procs, SavesDraft c.shared l := by
  intro l hl
  cases l with
  | tick t => trivial
  | edit e =>
    obtain ⟨organization, pk, form, stage⟩ := e
    cases stage with
    | save campaign =>
      exact (desk_relied campaign.id).reachable (fun _ _ h => h campaign.id) h ⟨_, hl, rfl⟩
    | _ => trivial

/-! ### Every schedule -/

/-- What was triggered, was triggered once and is no draft. -/
def StartedOnce (m : Marketing) : Prop :=
  (m.started.map Prod.fst).Nodup ∧ ∀ s ∈ m.started, Launched m s.1

/-- **The step.** No campaign is started a second time. -/
theorem StartedOnce.step {a : Move CampaignTask Outside} (h : StartedOnce c.shared)
    (hreach : Reachable deskApart c) (hs : deskApart.step c a c') : StartedOnce c'.shared := by
  obtain ⟨hnodup, hlaunched⟩ := h
  obtain ⟨hkeeps, hstarted⟩ := desk_step (savesDraft_reachable hreach) hs.1
  have hold : ∀ s ∈ c.shared.started, Launched c'.shared s.1 :=
    fun s hs => hkeeps.launched (hlaunched s hs)
  rcases hstarted with hsame | ⟨campaign, count, hnew, hnot, hyes⟩
  · unfold StartedOnce
    rw [hsame]
    exact ⟨hnodup, hold⟩
  · unfold StartedOnce
    rw [hnew, List.map_append, List.nodup_append]
    refine ⟨⟨hnodup, by simp, fun x hx y hy hxy => ?_⟩, fun s hs => ?_⟩
    -- The campaign was a draft until now, so no earlier trigger of it went through.
    · obtain ⟨s, hs, rfl⟩ := List.mem_map.mp hx
      have hcampaign : s.1 = campaign := hxy.trans (List.mem_singleton.mp hy)
      exact hnot (hcampaign ▸ hlaunched s hs)
    · rcases List.mem_append.mp hs with hs | hs
      · exact hold s hs
      · rw [List.mem_singleton.mp hs]
        exact hyes

/-- Every reachable state has started each campaign once. -/
theorem startedOnce_reachable (h : Reachable deskApart c) : StartedOnce c.shared := by
  have hboth : Reachable deskApart c ∧ StartedOnce c.shared := by
    refine h.invariant (I := fun c => Reachable deskApart c ∧ StartedOnce c.shared) ?_
      fun _ _ _ hu hs => ⟨hu.1.step hs, hu.2.step hu.1 hs⟩
    intro d hinit
    have hnil : d.shared.started = [] := hinit.1
    refine ⟨.of_init hinit, ?_⟩
    unfold StartedOnce
    rw [hnil]
    exact ⟨.nil, fun s hs => absurd hs List.not_mem_nil⟩
  exact hboth.2

/-- **The run.** What is triggered stays so. -/
theorem keepsLaunched_run (h : Reachable deskApart c) (hr : Run deskApart c as c') :
    c.shared.KeepsLaunched c'.shared :=
  (hr.invariant (I := fun d => Reachable deskApart d ∧ c.shared.KeepsLaunched d.shared)
    ⟨h, .refl _⟩ fun _ _ _ hu hs =>
      ⟨hu.1.step hs, hu.2.trans (desk_step (savesDraft_reachable hu.1) hs.1).1⟩).2

/-- **The lifecycle is one-way.** As long as no trigger of a campaign goes through between the load
    and the save of a submission of its edit form, whatever was triggered stays as it was
    triggered: along every further run it is no draft, its subject, body, segment and recipient
    count stay the same, and no other trigger of it goes through. -/
theorem campaign_one_way (h : Reachable deskApart c) (hr : Run deskApart c as c') :
    (∀ s ∈ c.shared.started, ∃ r ∈ c.shared.campaigns.rows, r.id = s.1 ∧ r.status ≠ .draft ∧
      ∃ r' ∈ c'.shared.campaigns.rows, r.Fixed r') ∧
    (c'.shared.started.map Prod.fst).Nodup ∧
    ∀ s ∈ c.shared.started, ∀ m n, startCampaign c'.shared s.1 ≠ .ok (m, n) := by
  have hkeeps := keepsLaunched_run h hr
  refine ⟨fun s hs => ?_, (startedOnce_reachable (h.run hr)).1, fun s hs m n hstart => ?_⟩
  · obtain ⟨r, hmem, hid, hstatus⟩ := (startedOnce_reachable h).2 s hs
    exact ⟨r, hmem, hid, hstatus, hkeeps r hmem hstatus⟩
  -- A trigger that goes through has locked a draft, and this campaign is none.
  · obtain ⟨locked, hlocked, hid, hdraft, -⟩ := startCampaign_campaigns hstart
    exact (hkeeps.launched ((startedOnce_reachable h).2 s hs)).ne_draft hlocked hdraft hid.symm

/-! ### Submissions that straddle a trigger -/

/-- **The condition is needed.** A submission that saves a campaign triggered since it was loaded
    makes it a draft again. -/
theorem edit_reverts {i : Nat} {e : CampaignEdit} (h : Reachable campaignDesk.system c)
    (hi : c.procs[i]? = some (.edit e)) (hbad : ¬SavesDraft c.shared (.edit e)) :
    ¬c.shared.KeepsLaunched (campaignDesk.exec (.act i) c).shared := by
  have hdraft := carriesDraft_reachable h _ (List.mem_of_getElem? hi)
  rw [Processes.exec_act hi]
  obtain ⟨organization, pk, form, stage⟩ := e
  cases stage with
  | save campaign =>
    have hlate : ¬StoredDraft campaign.id c.shared := hbad
    unfold StoredDraft at hlate
    push Not at hlate
    obtain ⟨r, hr, hid, hstatus⟩ := hlate
    intro hkeeps
    obtain ⟨r', hr', hfixed⟩ := hkeeps r hr hstatus
    obtain ⟨x, hx, rfl⟩ := mem_saveCampaign.mp hr'
    -- The row with the key of the campaign is the draft that was loaded.
    have hxid : x.id = campaign.id := by
      have hkey := hfixed.id
      split_ifs at hkey with hp
      · exact beq_iff_eq.mp hp
      · exact hkey.trans hid
    have hlaunched := hfixed.launched
    rw [if_pos (beq_iff_eq.mpr hxid)] at hlaunched
    exact hlaunched hdraft
  | _ => exact absurd trivial hbad

end Runs

/-! ### Two schedules -/

/-- The manager changes the subject of the only draft. -/
def subjectEdit : CampaignEdit where
  organization := 1
  pk := 1
  form := ⟨"Spring", "Last seats", "On sale.", .all, none, none⟩
  stage := .load

/-- The submission has loaded the draft and checked the form when the campaign is triggered. -/
def straddled : Config Marketing CampaignTask :=
  campaignDesk.perform [.spawn (.edit subjectEdit), .act 0, .act 0, .env (.startCampaign 1)]
    ⟨mailingList, []⟩

/-- The edit that straddles a start is reachable. -/
theorem straddled_reachable : Reachable campaignDesk.system straddled := by
  refine Processes.reachable_perform (.of_init ⟨rfl, rfl⟩) ?_ fun _ _ _ => trivial
  intro l hl
  obtain rfl : l = .edit subjectEdit := by simpa using hl
  rfl

/-- **The counterexample.** The submission then saves: the campaign is a draft again, with another
    subject and without its recipient count, and a second trigger goes through. -/
theorem campaign_triggered_twice :
    Reachable campaignDesk.system straddled ∧
    straddled.shared.started = [(1, 1)] ∧
    straddled.shared.campaigns.rows.map (fun r => (r.status, r.subject, r.recipientCount))
      = [(.sending, "Spring season", 1)] ∧
    (campaignDesk.exec (.act 0) straddled).shared.campaigns.rows.map
      (fun r => (r.status, r.subject, r.recipientCount)) = [(.draft, "Last seats", 0)] ∧
    Reachable campaignDesk.system
      (campaignDesk.perform [.act 0, .env (.startCampaign 1)] straddled) ∧
    (campaignDesk.perform [.act 0, .env (.startCampaign 1)] straddled).shared.started
      = [(1, 1), (1, 1)] := by
  refine ⟨straddled_reachable, rfl, rfl, rfl, ?_, rfl⟩
  exact Processes.reachable_perform straddled_reachable (by simp) fun _ _ _ => trivial

/-- Another submission of the same draft. -/
def audienceEdit : CampaignEdit where
  organization := 1
  pk := 1
  form := ⟨"Spring", "Spring season", "On sale now.", .all, none, none⟩
  stage := .load

/-- Two submissions overlap and save in time; the campaign is triggered afterwards. -/
def editMoves : List (Move CampaignTask Outside) :=
  [.spawn (.edit subjectEdit), .spawn (.edit audienceEdit), .act 0, .act 1, .act 0, .act 1, .act 0,
    .act 1, .env (.startCampaign 1)]

def editedInTime : Config Marketing CampaignTask := campaignDesk.perform editMoves ⟨mailingList, []⟩

/-- A third submission comes while a tick sends the campaign and finishes it. -/
def sendMoves : List (Move CampaignTask Outside) :=
  [.spawn (.tick cronTick), .spawn (.edit subjectEdit), .act 2, .act 2, .act 3, .act 2, .act 2,
    .act 2, .act 2, .act 2, .act 2]

/-- A move that is no trigger meets the condition. -/
theorem triggersApart_of_ne {c : Config Marketing CampaignTask} {a : Move CampaignTask Outside}
    (h : ∀ campaign, a ≠ .env (.startCampaign campaign)) : TriggersApart c a :=
  fun campaign htriggers => absurd htriggers.1 (h campaign)

/-- What the two submissions left is sent as it was when it was triggered, and the third
    submission finds no draft. -/
theorem campaign_one_way_in_time :
    editedInTime.shared.campaigns.rows.map (fun r => (r.status, r.subject, r.body))
      = [(.sending, "Spring season", "On sale now.")] ∧
    (campaignDesk.perform sendMoves editedInTime).shared.campaigns.rows.map (·.status) = [.sent] ∧
    ∃ r ∈ editedInTime.shared.campaigns.rows, r.status ≠ .draft ∧
      ∃ r' ∈ (campaignDesk.perform sendMoves editedInTime).shared.campaigns.rows, r.Fixed r' := by
  have act {c : Config Marketing CampaignTask} {i : Nat} : TriggersApart c (.act i) :=
    triggersApart_of_ne fun _ h => by cases h
  have spawn {c : Config Marketing CampaignTask} {l : CampaignTask} : TriggersApart c (.spawn l) :=
    triggersApart_of_ne fun _ h => by cases h
  have hrun : Run deskApart ⟨mailingList, []⟩ editMoves editedInTime := by
    refine Processes.run_perform_restrict
      ⟨rfl, rfl, ⟨_, rfl, trivial⟩, ⟨_, rfl, trivial⟩, ⟨_, rfl, trivial⟩, ⟨_, rfl, trivial⟩,
        ⟨_, rfl, trivial⟩, ⟨_, rfl, trivial⟩, trivial, trivial⟩
      ⟨spawn, spawn, act, act, act, act, act, act, ?_, trivial⟩
    -- Both submissions have saved when the campaign is triggered.
    intro campaign _ k hk
    have hprocs : k ∈ [CampaignTask.edit { subjectEdit with stage := .saved },
        .edit { audienceEdit with stage := .saved }] := hk
    rcases List.mem_pair.mp hprocs with rfl | rfl <;> exact id
  have hsent : Run deskApart editedInTime sendMoves (campaignDesk.perform sendMoves editedInTime) :=
    Processes.run_perform_restrict
      ⟨⟨rfl, rfl⟩, rfl, ⟨_, rfl, trivial⟩, ⟨_, rfl, trivial⟩, ⟨_, rfl, trivial⟩, ⟨_, rfl, trivial⟩,
        ⟨_, rfl, trivial⟩, ⟨_, rfl, trivial⟩, ⟨_, rfl, trivial⟩, ⟨_, rfl, trivial⟩,
        ⟨_, rfl, trivial⟩, trivial⟩
      ⟨spawn, spawn, act, act, act, act, act, act, act, act, act, trivial⟩
  have hinit : deskApart.init ⟨mailingList, []⟩ := ⟨rfl, rfl⟩
  obtain ⟨hfixed, -, -⟩ := campaign_one_way ((Reachable.of_init hinit).run hrun) hsent
  obtain ⟨r, hr, -, hstatus, hkept⟩ := hfixed (1, 1) (List.mem_singleton_self _)
  exact ⟨rfl, rfl, r, hr, hstatus, hkept⟩

end BoxOffice

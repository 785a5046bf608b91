import BoxOffice.Campaigns.Overlap

namespace BoxOffice

open Relational Transition

/-!
# Campaigns — one email per guest per campaign

However the ticks, the triggers and the guests' consent changes interleave, a guest gets at most
one email of a campaign, after a re-check of the consent, no outcome is overwritten, and no
campaign gets stuck: `one_email_per_guest`.
-/

section Runs

variable {c c' : Config Marketing Tick} {a : Move Tick Outside}

/-! ### Every schedule -/

/-- **The run.** The invariant, what each tick knows, and that nothing is left behind. -/
theorem overlap_reachable (h : Reachable campaignMail.system c) :
    Owned Queue (fun m t => t.Knows m) Tick.owns c ∧
      Attended BeingSent (fun t i => t.owns = some i) c ∧ Attended Stalled Tick.Covers c := by
  refine h.invariant (I := fun c => Owned Queue (fun m t => t.Knows m) Tick.owns c ∧
    Attended BeingSent (fun t i => t.owns = some i) c ∧ Attended Stalled Tick.Covers c) ?_ ?_
  · rintro d ⟨hfresh, hprocs⟩
    have hdraft : ∀ e ∈ d.shared.campaigns.rows, e.status = .draft := fun e he => (hfresh.1 e he).1
    have hsends : d.shared.sends.rows = [] := hfresh.2.1
    refine ⟨⟨⟨hfresh.queue, by simp [hprocs]⟩, by rw [hprocs]; exact .nil _⟩, ?_, ?_⟩
    · rintro i ⟨r, hr, -⟩
      rw [hsends] at hr
      cases hr
    · rintro i ⟨⟨e, he, -, hsending⟩, -⟩
      rw [hdraft e he] at hsending
      cases hsending
  · rintro d a d' ⟨hown, hrows, hcampaigns⟩ hs
    exact ⟨ticks_ownership.preserves hs hown, rows_attended.preserves hs hown.1 hrows,
      campaigns_attended.preserves hs hown.1 hcampaigns⟩

/-- Every step is a write to the queue, or none. -/
theorem step_queueWrite (hc : Asserted Queue (fun m t => t.Knows m) c)
    (hs : campaignMail.system.step c a c') : ∃ owner, QueueWrite c.shared owner c'.shared := by
  obtain ⟨hq, hknows⟩ := hc
  rcases Processes.step_cases hs with ⟨t, -, -, rfl⟩ | ⟨i, t, ht, -, -, rfl⟩ | ⟨e, -, -, rfl⟩
  · exact ⟨none, .idle⟩
  · exact ⟨_, tickStep_write (hknows t (List.mem_of_getElem? ht))⟩
  · exact ⟨none, outside_write hq none e⟩

/-! ### Outcomes stand -/

/-- **The rows over a run.** Every row stays, and goes through its life cycle. -/
theorem rows_run {as : List (Move Tick Outside)} (h : Reachable campaignMail.system c)
    (hr : Run campaignMail.system c as c') {r : CampaignSend} (hmem : r ∈ c.shared.sends.rows) :
    HasRow c'.shared r.id r.campaign r.guest r.status.Follows := by
  have hboth : Reachable campaignMail.system c' ∧
      HasRow c'.shared r.id r.campaign r.guest r.status.Follows := by
    refine hr.invariant (I := fun d => Reachable campaignMail.system d ∧
      HasRow d.shared r.id r.campaign r.guest r.status.Follows) ?_ ?_
    · exact ⟨h, r, hmem, rfl, rfl, rfl, .refl _⟩
    · rintro d a d' ⟨hd, hrow⟩ hs
      obtain ⟨owner, hw⟩ := step_queueWrite (overlap_reachable hd).1.1 hs
      exact ⟨hd.step hs, hrow.write hw fun x y hxy hrx => hrx.trans hxy⟩
  exact hboth.2

/-! ### Consent -/

/-- A tick is about to re-check the consent of the guest of the row `i`, and the guest is stored
    as `g`, opted in. -/
def Rechecked (i guest : Nat) (g : GuestAccount) (c : Config Marketing Tick) : Prop :=
  (∃ t ∈ c.procs, ∃ send pending, t.stage = .recheck send pending ∧ send.id = i ∧
    send.guest = guest) ∧
  c.shared.db.guests.get? guest = some g ∧ g.marketingOptIn = true

/-- Every mail, and every mail about to leave, follows such a re-check. -/
def Consented (c : Config Marketing Tick) : Prop :=
  (∀ x ∈ c.shared.mails, Once campaignMail.system (Rechecked x.send x.guest x.recheck) c) ∧
  ∀ t ∈ c.procs, ∀ send g pending, t.stage = .mail send g pending →
    Once campaignMail.system (Rechecked send.id send.guest g) c

/-- The mail that leaves with a step of a tick is the one it was about to send. -/
theorem tickStep_mails {m : Marketing} {t : Tick} {x : Mail} (hx : x ∈ (tickStep m t).1.mails) :
    x ∈ m.mails ∨ ∃ send g pending, t.stage = .mail send g pending ∧
      x = ⟨send.id, send.campaign, send.guest, send.email, g⟩ := by
  have hmove := tickStep_move m t
  generalize tickStep m t = next at hmove hx
  cases hmove with
  | mail send g outcome pending hs =>
    rcases List.mem_append.mp hx with hx | hx
    · exact .inl hx
    · exact .inr ⟨send, g, pending, hs, List.mem_singleton.mp hx⟩
  | _ => exact .inl hx

/-- A tick decides to send a mail only in its re-check. -/
theorem tickStep_consents {m : Marketing} {t : Tick} {send : CampaignSend} {g : GuestAccount}
    {pending : List CampaignSend} (h : (tickStep m t).2.stage = .mail send g pending) :
    t.stage = .recheck send pending ∧ m.db.guests.get? send.guest = some g ∧
      g.marketingOptIn = true := by
  have hmove := tickStep_move m t
  generalize tickStep m t = next at hmove h
  cases hmove with
  | consent send' guest pending' hs hguest hopt =>
    cases h
    exact ⟨hs, hguest, hopt⟩
  | _ => cases h

/-- Nothing but a tick sends a mail. -/
theorem outside_mails {m : Marketing} (hq : Queue m) (e : Outside) :
    (outside e m).mails = m.mails := by
  cases e with
  | startCampaign campaign =>
    rcases outside_startCampaign hq campaign with h | ⟨locked, -, guests, -, -, h⟩ <;> rw [h]
    rfl
  | _ => rfl

/-- **Consent, over every run.** -/
theorem consented_reachable (h : Reachable campaignMail.system c) : Consented c := by
  -- The invariant has to carry reachability along: `Once` speaks of a state that was reached.
  have hboth : Reachable campaignMail.system c ∧ Consented c := by
    refine h.invariant (I := fun c => Reachable campaignMail.system c ∧ Consented c) ?_ ?_
    · rintro d hd
      refine ⟨.of_init hd, ?_, ?_⟩
      · rw [hd.1.2.2.1]
        exact fun x hx => absurd hx List.not_mem_nil
      · rw [hd.2]
        exact fun t ht => absurd ht List.not_mem_nil
    · rintro d a d' ⟨hd, hmails, hticks⟩ hs
      have hq : Queue d.shared := (overlap_reachable hd).1.1.1
      refine ⟨hd.step hs, ?_⟩
      have hold : ∀ x ∈ d.shared.mails,
          Once campaignMail.system (Rechecked x.send x.guest x.recheck) d' :=
        fun x hx => (hmails x hx).step hs
      have hwaiting : ∀ t ∈ d.procs, ∀ send g pending, t.stage = .mail send g pending →
          Once campaignMail.system (Rechecked send.id send.guest g) d' :=
        fun t ht send g pending hstage => (hticks t ht send g pending hstage).step hs
      -- A tick starts, takes a step, or something happens outside.
      rcases Processes.step_cases hs with ⟨t, ht, -, rfl⟩ | ⟨i, t, ht, -, -, rfl⟩ | ⟨e, -, -, rfl⟩
      · refine ⟨hold, fun k hk send g pending hstage => ?_⟩
        rcases List.mem_append.mp hk with hk | hk
        · exact hwaiting k hk send g pending hstage
        · rw [List.mem_singleton.mp hk, ht.1] at hstage
          cases hstage
      · have hmem := List.mem_of_getElem? ht
        refine ⟨fun x hx => ?_, fun k hk send g pending hstage => ?_⟩
        · rcases tickStep_mails hx with hx | ⟨send, g, pending, hstage, rfl⟩
          · exact hold x hx
          · exact hwaiting t hmem send g pending hstage
        · rcases List.mem_or_eq_of_mem_set hk with hk | rfl
          · exact hwaiting k hk send g pending hstage
          · -- The tick has just re-checked the consent.
            obtain ⟨hrecheck, hguest, hopt⟩ := tickStep_consents hstage
            exact (Once.now hd ⟨⟨t, hmem, send, pending, hrecheck, rfl, rfl⟩, hguest, hopt⟩).step hs
      · refine ⟨fun x hx => hold x ?_, hwaiting⟩
        rwa [show (campaignMail.env e d.shared).mails = d.shared.mails from
          outside_mails hq e] at hx
  exact hboth.2

/-! ### One email -/

/-- Two mails to one guest about one campaign are the same mail. -/
theorem Queue.mails_once {m : Marketing} (h : Queue m) :
    (m.mails.map fun x => (x.campaign, x.guest)).Nodup := by
  refine List.Nodup.map_on (fun x hx y hy hxy => ?_) (List.Nodup.of_map _ h.mailed)
  obtain ⟨hcampaign, hguest⟩ := Prod.mk.inj hxy
  obtain ⟨r, hr, hrid, hrc, hrg, -⟩ := (h.mails x hx).1
  obtain ⟨s, hs, hsid, hsc, hsg, -⟩ := (h.mails y hy).1
  -- The rows of both agree on the columns of the unique constraint.
  have hpair : (r.campaign, r.guest) = (s.campaign, s.guest) := by
    rw [hrc, hrg, hsc, hsg, hcampaign, hguest]
  obtain rfl : r = s := List.inj_on_of_nodup_map h.unique hr hs hpair
  exact List.inj_on_of_nodup_map h.mailed hx hy (hrid.symm.trans hsid)

/-- With no tick in flight nothing is half sent, and a campaign being sent has a pending row. -/
theorem pending_of_quiet (h : Reachable campaignMail.system c)
    (hquiet : ∀ t ∈ c.procs, t.stage = .done) {e : EmailCampaign}
    (he : e ∈ c.shared.campaigns.rows) (hsending : e.status = .sending) :
    ∃ r ∈ c.shared.sends.rows, r.campaign = e.id ∧ r.status = .pending := by
  obtain ⟨-, hrows, hcampaigns⟩ := overlap_reachable h
  have hidle : ∀ t ∈ c.procs, ∀ i, t.owns ≠ some i := by
    intro t ht i
    unfold Tick.owns
    rw [hquiet t ht]
    exact (Option.some_ne_none i).symm
  have huncovered : ∀ t ∈ c.procs, ∀ i, ¬t.Covers i := by
    intro t ht i
    unfold Tick.Covers
    rw [hquiet t ht]
    exact id
  have hnot : ¬Drained c.shared e.id := fun hd =>
    hcampaigns.quiet huncovered e.id ⟨⟨e, he, rfl, hsending⟩, hd⟩
  unfold Drained at hnot
  push Not at hnot
  obtain ⟨r, hr, hcampaign, hopen⟩ := hnot
  refine ⟨r, hr, hcampaign, ?_⟩
  cases hs : r.status with
  | pending => rfl
  | sending => exact absurd ⟨r, hr, rfl, hs⟩ (hrows.quiet hidle r.id)
  | _ => rw [hs] at hopen; exact absurd rfl hopen

/-- **One email per guest per campaign.** In every schedule of overlapping ticks, triggers and
    consent changes:
    no guest is mailed about a campaign twice, and only after the tick re-checked the consent and
    found the guest opted in; a settled row keeps its outcome for good; a campaign is triggered at
    most once, and its recipient count is the number of its rows; and when no tick is in flight, a
    campaign being sent has a pending row and a finished one has none. -/
theorem one_email_per_guest (h : Reachable campaignMail.system c) :
    (c.shared.mails.map fun x => (x.campaign, x.guest)).Nodup ∧
    (∀ x ∈ c.shared.mails, Once campaignMail.system (Rechecked x.send x.guest x.recheck) c) ∧
    (∀ as c', Run campaignMail.system c as c' → ∀ r ∈ c.shared.sends.rows,
      r.status.terminal = true → HasRow c'.shared r.id r.campaign r.guest (· = r.status)) ∧
    (c.shared.started.map Prod.fst).Nodup ∧
    (∀ s ∈ c.shared.started, s.2 = (c.shared.sendsOf s.1).length) ∧
    (∀ e ∈ c.shared.campaigns.rows, e.recipientCount = (c.shared.sendsOf e.id).length) ∧
    ((∀ t ∈ c.procs, t.stage = .done) → ∀ e ∈ c.shared.campaigns.rows,
      (e.status = .sending →
        ∃ r ∈ c.shared.sends.rows, r.campaign = e.id ∧ r.status = .pending) ∧
      (e.status = .sent →
        ∀ r ∈ c.shared.sends.rows, r.campaign = e.id → r.status ≠ .pending)) := by
  have hq : Queue c.shared := (overlap_reachable h).1.1.1
  refine ⟨hq.mails_once, (consented_reachable h).1, fun as c' hr r hmem hterminal => ?_,
    hq.started, fun s hs => (hq.starts s hs).2, hq.counted, fun hquiet e he => ⟨?_, ?_⟩⟩
  · obtain ⟨r', hr', hid, hcampaign, hguest, hfollows⟩ := rows_run h hr hmem
    exact ⟨r', hr', hid, hcampaign, hguest, hfollows.of_terminal hterminal⟩
  · exact pending_of_quiet h hquiet he
  · intro hsent r hr hcampaign hpending
    have hterminal := hq.finished e he hsent r hr hcampaign
    rw [hpending] at hterminal
    cases hterminal

end Runs

/-! ### Two ticks at once -/

/-- A theater with one opted-in guest and one draft. -/
def mailingList : Marketing where
  db := { Db.empty with
    guests := Db.empty.guests.insert fun i =>
      { id := i, organization := 1, email := "ada@example.com", name := "Ada",
        marketingOptIn := true, marketingOptInAt := some 0 } }
  campaigns := Table.empty.insert fun i =>
    { id := i, organization := 1, name := "Spring", subject := "Spring season", body := "On sale.",
      segmentKind := .all, segmentEvent := none, segmentMinSpend := none, status := .draft,
      recipientCount := 0, sentAt := none }
  sends := .empty
  now := 0
  mails := []
  started := []

/-- A tick over a transport that delivers everything. -/
def cronTick : Tick where
  settings := ⟨"django.core.mail.backends.locmem.EmailBackend", "", 50⟩
  transport _ := none
  order := id
  order_perm _ := .refl _
  touched := []
  now := 0
  stage := .start

/-- Two ticks load the same batch; the first one claims the row and both run to their end. -/
def twoTicks : Config Marketing Tick :=
  campaignMail.perform
    [.env (.startCampaign 1), .spawn cronTick, .spawn cronTick, .act 0, .act 1, .act 0, .act 1,
      .act 1, .act 1, .act 1, .act 0, .act 0, .act 0, .act 0, .act 0, .act 0, .act 0]
    ⟨mailingList, []⟩

/-- The sample mailing list is fresh. -/
theorem mailingList_fresh : mailingList.Fresh := by
  refine ⟨fun c hc => ?_, rfl, rfl, rfl⟩
  rw [List.mem_singleton.mp hc]
  exact ⟨rfl, rfl⟩

/-- Two ticks overlap, and the guest gets one email. -/
theorem one_email_per_guest_overlapping :
    twoTicks.shared.mails.map (·.toEmail) = ["ada@example.com"] ∧
    twoTicks.shared.campaigns.rows.map (·.status) = [.sent] ∧
    (∀ t ∈ twoTicks.procs, t.stage = .done) ∧
    (twoTicks.shared.mails.map fun x => (x.campaign, x.guest)).Nodup ∧
    ∀ e ∈ twoTicks.shared.campaigns.rows, e.status = .sent →
      ∀ r ∈ twoTicks.shared.sends.rows, r.campaign = e.id → r.status ≠ .pending := by
  have hreach : Reachable campaignMail.system twoTicks := by
    refine Processes.reachable_perform (.of_init ⟨mailingList_fresh, rfl⟩) ?_ fun _ _ _ => trivial
    intro t ht
    obtain rfl : t = cronTick := by simpa using ht
    exact ⟨rfl, rfl⟩
  have hone := one_email_per_guest hreach
  have hquiet : ∀ t ∈ twoTicks.procs, t.stage = .done := by
    have hstages : twoTicks.procs.map (·.stage) = [.done, .done] := rfl
    intro t ht
    have hmem := List.mem_map_of_mem (f := (·.stage)) ht
    rw [hstages] at hmem
    simpa using hmem
  exact ⟨rfl, rfl, hquiet, hone.1, fun e he => (hone.2.2.2.2.2.2 hquiet e he).2⟩

end BoxOffice

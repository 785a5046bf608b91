import BoxOffice.Campaigns.Ticks

namespace BoxOffice

open Relational Transition

/-!
# Campaigns — overlapping ticks

* `ticks_ownership` — a row that is being sent is owned by one tick;
* `rows_attended`, `campaigns_attended` — no row and no campaign is left behind: each row being
  sent has its owner, and a campaign whose rows are settled has a tick that will finish it;
* `overlap_reachable` puts the three together over every run.
-/

section Environment

variable {m : Marketing}

/-- **A trigger** is refused or rolled back, or it launches a draft. -/
theorem outside_startCampaign (hq : Queue m) (campaign : Nat) :
    outside (.startCampaign campaign) m = m ∨
      ∃ locked ∈ m.campaigns.rows, ∃ guests : List GuestAccount, locked.status = .draft ∧
        (guests.map (·.id)).Nodup ∧ outside (.startCampaign campaign) m
          = { startedWith m locked guests with
              started := m.started ++ [(locked.id, guests.length)] } := by
  rcases hs : startCampaign m campaign with e | ⟨m', count⟩
  · left
    simp only [outside, hs]
  · right
    obtain ⟨locked, hlocked, guests, rfl, hdraft, -, hnodup, rfl, rfl⟩ :=
      startCampaign_ok hs fun r hr c hc => (hq.launched r hr).ne_draft hc
    refine ⟨locked, hlocked, guests, hdraft, hnodup, ?_⟩
    simp only [outside, hs]
    rfl

/-- **Everything else** writes to the queue only what a trigger writes. -/
theorem outside_write (hq : Queue m) (owner : Option Nat) (e : Outside) :
    QueueWrite m owner (outside e m) := by
  cases e with
  | setMarketingOptIn guest optedIn => exact .elsewhere _ m.now
  | elsewhere change => exact .elsewhere _ m.now
  | clock now => exact .elsewhere m.db now
  | compose organization form =>
    exact .compose _ (fun _ => rfl) fun _ => ⟨rfl, rfl⟩
  | startCampaign campaign =>
    rcases outside_startCampaign hq campaign with h | ⟨locked, hlocked, guests, hdraft, hnodup, h⟩ <;>
      rw [h]
    · exact .idle
    · exact .start locked guests hlocked hdraft hnodup

/-- Beside the ticks, the rows of the queue stay as they are, new rows are pending, and a campaign
    that is being sent was so before or has got a new row. -/
theorem outside_frame (hq : Queue m) (e : Outside) :
    (∀ r ∈ m.sends.rows, r ∈ (outside e m).sends.rows) ∧
    (∀ r ∈ (outside e m).sends.rows, r ∈ m.sends.rows ∨ r.status = .pending) ∧
    ∀ c ∈ (outside e m).campaigns.rows, c.status = .sending → c ∈ m.campaigns.rows ∨
      ∃ r ∈ (outside e m).sends.rows, r.campaign = c.id ∧ r.status = .pending := by
  cases e with
  | setMarketingOptIn => exact ⟨fun _ => id, fun _ => .inl, fun _ hc _ => .inl hc⟩
  | elsewhere => exact ⟨fun _ => id, fun _ => .inl, fun _ hc _ => .inl hc⟩
  | clock => exact ⟨fun _ => id, fun _ => .inl, fun _ hc _ => .inl hc⟩
  | compose =>
    refine ⟨fun _ => id, fun _ => .inl, fun c hc hsending => ?_⟩
    rcases (Table.mem_insert (k := fun _ => rfl)).mp hc with hc | rfl
    · exact .inl hc
    · cases hsending
  | startCampaign campaign =>
    rcases outside_startCampaign hq campaign with h | ⟨locked, -, guests, -, -, h⟩ <;> rw [h]
    · exact ⟨fun _ => id, fun _ => .inl, fun _ hc _ => .inl hc⟩
    · refine ⟨fun r hr => Table.mem_insertMany_of_mem hr, fun r hr => ?_, fun c' hc' hsending => ?_⟩
      · rcases Table.mem_insertMany hr with hr | ⟨g, -, i, -, rfl⟩
        · exact .inl hr
        · exact .inr rfl
      · obtain ⟨c, hc, rfl⟩ := mem_startedWith.mp hc'
        by_cases hid : c.id = locked.id
        · rw [if_pos (beq_iff_eq.mpr hid)] at hsending ⊢
          rw [(triggered_status _ _ _).1] at hsending
          split_ifs at hsending with hnil
          -- With somebody to send to, there is a new row.
          obtain ⟨g, hg⟩ := List.exists_mem_of_length_pos (Nat.pos_of_ne_zero hnil)
          obtain ⟨i, -, hrow⟩ := Table.exists_mem_insertMany (t := m.sends)
            (queuedSend locked) (fun _ _ => rfl) hg
          exact .inr ⟨_, hrow, by rw [triggered_id, hid]; rfl, rfl⟩
        · rw [if_neg (by simpa using hid)]
          exact .inl hc

/-- **Ownership.** A tick claims only rows that are pending, and only the tick that has claimed a
    row settles it. -/
theorem ticks_ownership :
    Ownership campaignMail (fun _ _ => True) Queue (fun m t => t.Knows m) Tick.owns where
  start m t _ ht := by
    obtain ⟨settings, transport, order, order_perm, touched, now, stage⟩ := t
    obtain ⟨rfl, rfl⟩ := ht
    exact ⟨⟨fun c hc => absurd hc List.not_mem_nil, trivial⟩, rfl⟩
  step m t hq ht _ := ⟨hq.write (tickStep_write ht), tickStep_knows hq ht⟩
  stable m t k _ ht _ hk hne := hk.write (tickStep_write ht) hne
  claim m t i hq ht _ hi := by
    refine (tickStep_owns hi).imp id fun ⟨r, hr, hid, hpending⟩ k hk hki => ?_
    -- The claim hit a pending row, which nobody owned.
    obtain ⟨campaign, guest, hrow⟩ := hk.owns hki
    have hrow' : HasRow m i r.campaign r.guest (· = .pending) := ⟨r, hr, hid, rfl, rfl, hpending⟩
    obtain ⟨-, -, s, hsending, hspending⟩ := hrow.both hrow'
    rw [hsending] at hspending
    cases hspending
  env m e hq _ := hq.write (outside_write hq none e)
  envStable m e t hq _ ht := ht.write (outside_write hq none e) fun i hi => by cases hi

end Environment

/-! ### No row is left behind -/

/-- The row is being sent. -/
def BeingSent (m : Marketing) (i : Nat) : Prop :=
  ∃ r ∈ m.sends.rows, r.id = i ∧ r.status = .sending

section Rows

variable {m : Marketing} {send : CampaignSend} {i : Nat}

/-- A claim puts its own send in progress. -/
theorem BeingSent.of_claim (h : BeingSent (m.updateSends (claims send) claimedRow) i) :
    BeingSent m i ∨ i = send.id ∧ (m.sends.rows.filter (claims send)).length ≠ 0 := by
  obtain ⟨r', hr', rfl, hsending⟩ := h
  obtain ⟨r, hr, rfl⟩ := mem_updateSends.mp hr'
  by_cases hp : claims send r = true
  · refine .inr ⟨?_, ?_⟩
    · rw [if_pos hp]
      exact (claims_iff.mp hp).1
    · exact List.length_pos_of_mem (List.mem_filter.mpr ⟨hr, hp⟩) |>.ne'
  · rw [if_neg hp] at hsending ⊢
    exact .inl ⟨r, hr, rfl, hsending⟩

/-- A record takes its own send out of progress. -/
theorem BeingSent.of_record {outcome : Outcome} {now : Time} {hf}
    (h : BeingSent
      (m.updateSends (fun r => r.id == send.id) (fun r => outcome.record now r) hf) i) :
    BeingSent m i ∧ i ≠ send.id := by
  obtain ⟨r', hr', rfl, hsending⟩ := h
  obtain ⟨r, hr, rfl⟩ := mem_updateSends.mp hr'
  by_cases hp : (r.id == send.id) = true
  · rw [if_pos hp] at hsending
    have hterminal := (outcome.record_fields now r).2.2.2
    rw [hsending] at hterminal
    cases hterminal
  · rw [if_neg hp] at hsending ⊢
    exact ⟨⟨r, hr, rfl, hsending⟩, by simpa using hp⟩

/-- A tick with a row being sent owns it after its next statement, or the row was being sent before
    and the tick did not own it. -/
theorem tickStep_attends (m : Marketing) (t : Tick) (i : Nat)
    (hneed : BeingSent (tickStep m t).1 i) :
    (tickStep m t).2.owns = some i ∨ BeingSent m i ∧ t.owns ≠ some i := by
  have hmove := tickStep_move m t
  generalize tickStep m t = next at hmove hneed ⊢
  unfold Tick.owns
  cases hmove with
  | stop hs =>
    refine .inr ⟨hneed, ?_⟩
    rcases hs with hs | hs | hs <;> rw [hs] <;> exact (Option.some_ne_none i).symm
  | load hs | drain hs | remain campaign campaigns hs | settle campaign campaigns hs
  | finish campaign campaigns hs =>
    rw [hs]
    exact .inr ⟨hneed, (Option.some_ne_none i).symm⟩
  | miss send pending hs hmiss =>
    rw [hs]
    rcases hneed.of_claim with hneed | ⟨-, hne⟩
    · exact .inr ⟨hneed, (Option.some_ne_none i).symm⟩
    · exact absurd hmiss hne
  | hit send pending hs =>
    rw [hs]
    rcases hneed.of_claim with hneed | ⟨rfl, -⟩
    · exact .inr ⟨hneed, (Option.some_ne_none i).symm⟩
    · exact .inl rfl
  | skip send pending hs | consent send guest pending hs | mail send guest outcome pending hs =>
    -- The row in hand stays in hand.
    rw [hs]
    by_cases hi : send.id = i
    · exact .inl (congrArg some hi)
    · exact .inr ⟨hneed, fun h => hi (Option.some.inj h)⟩
  | record send outcome pending hs =>
    rw [hs]
    obtain ⟨hneed, hne⟩ := hneed.of_record
    exact .inr ⟨hneed, fun h => hne (Option.some.inj h).symm⟩

/-- **Every row being sent has its owner.** -/
theorem rows_attended :
    Attendance campaignMail (fun _ _ => True) Queue (fun m t => t.Knows m) BeingSent
      (fun t i => t.owns = some i) where
  step m t i _ _ _ hneed := tickStep_attends m t i hneed
  env m e i hq _ hneed := by
    obtain ⟨r, hr, hid, hsending⟩ := hneed
    rcases (outside_frame hq e).2.1 r hr with hr | hpending
    · exact ⟨r, hr, hid, hsending⟩
    · rw [hpending] at hsending
      cases hsending

end Rows

/-! ### No campaign is left behind -/

/-- The campaign is still being sent, but all of its rows are settled. -/
def Stalled (m : Marketing) (campaign : Nat) : Prop :=
  (∃ c ∈ m.campaigns.rows, c.id = campaign ∧ c.status = .sending) ∧ Drained m campaign

section Campaigns

variable {m : Marketing} {send : CampaignSend} {campaign : Nat}

/-- The row of a loaded send is a row of its campaign. -/
theorem HasRow.campaign_eq {p : SendStatus → Prop}
    (h : HasRow m send.id send.campaign send.guest p) {r : CampaignSend}
    (hr : r ∈ m.sends.rows) (hid : r.id = send.id) : r.campaign = send.campaign := by
  obtain ⟨s, hs, hsid, hcampaign, -⟩ := h
  obtain rfl : r = s := Table.eq_of_key_eq hr hs (hid.trans hsid.symm)
  exact hcampaign

/-- An update of the row of another campaign does not stall this one. -/
theorem Stalled.of_updateSends {p : CampaignSend → Bool} {f : CampaignSend → CampaignSend} {hf}
    {q : SendStatus → Prop} (hrow : HasRow m send.id send.campaign send.guest q)
    (hp : ∀ r, p r = true → r.id = send.id) (hne : campaign ≠ send.campaign)
    (h : Stalled (m.updateSends p f hf) campaign) : Stalled m campaign := by
  refine ⟨h.1, fun r hr hcampaign => ?_⟩
  have hpr : p r ≠ true := fun hpr =>
    hne (hcampaign.symm.trans (hrow.campaign_eq hr (hp r hpr)))
  exact h.2 r (mem_updateSends.mpr ⟨r, hr, if_neg hpr⟩) hcampaign

/-- A campaign that a finish leaves stalled is another one. -/
theorem Stalled.of_finishCampaign {other : Nat} {now : Time}
    (h : Stalled (m.finishCampaign other now) campaign) :
    Stalled m campaign ∧ campaign ≠ other := by
  obtain ⟨⟨c', hc', hid, hsending⟩, hdrained⟩ := h
  obtain ⟨c, hc, rfl⟩ := mem_finishCampaign.mp hc'
  by_cases hp : (c.id == other && c.status == .sending) = true
  · rw [if_pos hp] at hsending
    cases hsending
  · rw [if_neg hp] at hid hsending
    refine ⟨⟨⟨c, hc, hid, hsending⟩, hdrained⟩, ?_⟩
    rintro rfl
    exact hp (by simp [hid, hsending])

/-- A tick covers a stalled campaign after its next statement, or the campaign was stalled before
    and the tick did not cover it. -/
theorem tickStep_covers {t : Tick} (ht : t.Knows m) (hneed : Stalled (tickStep m t).1 campaign) :
    (tickStep m t).2.Covers campaign ∨ Stalled m campaign ∧ ¬t.Covers campaign := by
  obtain ⟨-, hstage⟩ := ht
  have hmove := tickStep_move m t
  generalize tickStep m t = next at hmove hneed ⊢
  unfold Tick.Covers
  cases hmove with
  | stop hs =>
    refine .inr ⟨hneed, ?_⟩
    rcases hs with hs | hs | hs <;> rw [hs]
    · exact id
    · exact List.not_mem_nil
    · exact id
  | load hs =>
    rw [hs]
    exact .inr ⟨hneed, id⟩
  | drain hs =>
    -- What was touched stays so until the tests begin.
    rw [hs]
    by_cases htouched : campaign ∈ t.touched
    · exact .inl ((t.order_perm t.touched).mem_iff.mpr htouched)
    · exact .inr ⟨hneed, htouched⟩
  | miss send pending hs | hit send pending hs =>
    rw [hs] at hstage ⊢
    by_cases htouched : campaign ∈ t.touched
    · exact .inl (List.mem_insert_of_mem htouched)
    · by_cases hsend : campaign = send.campaign
      · exact .inl (hsend ▸ List.mem_insert_self)
      · exact .inr ⟨hneed.of_updateSends (hstage send (List.mem_cons_self ..))
          (fun r hp => (claims_iff.mp hp).1) hsend, htouched⟩
  | skip send pending hs | consent send guest pending hs | mail send guest outcome pending hs =>
    rw [hs]
    by_cases htouched : campaign ∈ t.touched
    · exact .inl htouched
    · exact .inr ⟨hneed, htouched⟩
  | record send outcome pending hs =>
    rw [hs] at hstage ⊢
    by_cases htouched : campaign ∈ t.touched
    · exact .inl htouched
    · have hne : campaign ≠ send.campaign := fun h => htouched (h ▸ hstage.1.2)
      exact .inr ⟨hneed.of_updateSends hstage.1.1 (fun r hp => beq_iff_eq.mp hp) hne, htouched⟩
  | remain other campaigns hs hremaining =>
    rw [hs]
    by_cases hcovers : campaign ∈ other :: campaigns
    · rcases List.mem_cons.mp hcovers with rfl | hmem
      · exact absurd hneed.2 (not_drained_of_remaining hremaining)
      · exact .inl hmem
    · exact .inr ⟨hneed, hcovers⟩
  | settle other campaigns hs =>
    rw [hs]
    by_cases hcovers : campaign ∈ other :: campaigns
    · exact .inl (List.mem_cons.mp hcovers)
    · exact .inr ⟨hneed, hcovers⟩
  | finish other campaigns hs =>
    rw [hs]
    obtain ⟨hneed, hne⟩ := hneed.of_finishCampaign
    by_cases hmem : campaign ∈ campaigns
    · exact .inl hmem
    · exact .inr ⟨hneed, fun h => h.elim hne hmem⟩

/-- **Every campaign whose rows are settled has a tick that will finish it.** -/
theorem campaigns_attended :
    Attendance campaignMail (fun _ _ => True) Queue (fun m t => t.Knows m) Stalled Tick.Covers where
  step m t campaign _ ht _ hneed := tickStep_covers ht hneed
  env m e campaign hq _ hneed := by
    obtain ⟨⟨c, hc, rfl, hsending⟩, hdrained⟩ := hneed
    obtain ⟨hrows, -, hcampaigns⟩ := outside_frame hq e
    rcases hcampaigns c hc hsending with hc | ⟨r, hr, hcampaign, hpending⟩
    · exact ⟨⟨c, hc, rfl, hsending⟩, fun r hr => hdrained r (hrows r hr)⟩
    · have hterminal := hdrained r hr hcampaign
      rw [hpending] at hterminal
      cases hterminal

end Campaigns

end BoxOffice

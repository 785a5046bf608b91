import BoxOffice.Campaigns.Queue

namespace BoxOffice

open Relational Transition

/-!
# Campaigns — what a tick knows

`Tick.Knows` is the assertion about a tick at each stage.

* `Tick.Knows.write` — it survives the writes of everybody else;
* `tickStep_move` — the twelve things the next statement of a tick can do;
* `tickStep_write`, `tickStep_knows`, `tickStep_owns` — what the next statement of the tick writes,
  what the tick knows afterwards, and which row it owns.
-/

/-- The rows still to come were loaded from the queue. -/
def Loaded (m : Marketing) (pending : List CampaignSend) : Prop :=
  ∀ send ∈ pending, HasRow m send.id send.campaign send.guest fun _ => True

/-- The row is being sent by this tick. -/
def Claimed (m : Marketing) (touched : List Nat) (send : CampaignSend) : Prop :=
  HasRow m send.id send.campaign send.guest (· = .sending) ∧ send.campaign ∈ touched

/-- What a tick relies on at each stage. -/
def Tick.Knows (m : Marketing) (t : Tick) : Prop :=
  (∀ c ∈ t.touched, Launched m c) ∧
  match t.stage with
  | .start | .done => True
  | .claim pending => Loaded m pending
  | .recheck send pending =>
    Claimed m t.touched send ∧ send.id ∉ m.mails.map (·.send) ∧ Loaded m pending
  | .mail send guest pending =>
    Claimed m t.touched send ∧ send.id ∉ m.mails.map (·.send) ∧
      (guest.id = send.guest ∧ guest.marketingOptIn = true) ∧ Loaded m pending
  | .record send _ pending => Claimed m t.touched send ∧ Loaded m pending
  | .check campaigns => ∀ c ∈ campaigns, Launched m c
  | .finish campaign campaigns =>
    Launched m campaign ∧ Drained m campaign ∧ ∀ c ∈ campaigns, Launched m c

section Facts

variable {m m' : Marketing} {t : Tick} {owner : Option Nat} {send : CampaignSend}

/-- What a tick has loaded stays through a write. -/
theorem Loaded.write {pending : List CampaignSend} (h : Loaded m pending)
    (hw : QueueWrite m owner m') : Loaded m' pending :=
  fun send hsend => (h send hsend).write hw fun _ _ _ _ => trivial

/-- What it has claimed stays through the writes of others. -/
theorem Claimed.write {touched : List Nat} (h : Claimed m touched send)
    (hw : QueueWrite m owner m') (hne : owner ≠ some send.id) : Claimed m' touched send :=
  ⟨h.1.claimed hw hne, h.2⟩

/-- A row that is pending was never mailed. -/
theorem Queue.not_mailed (h : Queue m) {r : CampaignSend} (hr : r ∈ m.sends.rows)
    (hpending : r.status = .pending) : r.id ∉ m.mails.map (·.send) := by
  intro hmem
  obtain ⟨x, hx, hid⟩ := List.mem_map.mp hmem
  obtain ⟨r', hr', hid', -, -, hne⟩ := (h.mails x hx).1
  obtain rfl : r' = r := Table.eq_of_key_eq hr' hr (hid'.trans hid)
  exact hne hpending

/-- What a tick owns is being sent. -/
theorem Tick.Knows.owns (h : t.Knows m) {i : Nat} (hi : t.owns = some i) :
    ∃ campaign guest, HasRow m i campaign guest (· = .sending) := by
  obtain ⟨-, hstage⟩ := h
  unfold Tick.owns at hi
  split at hi
  case h_1 send pending hs => rw [hs] at hstage; cases hi; exact ⟨_, _, hstage.1.1⟩
  case h_2 send guest pending hs => rw [hs] at hstage; cases hi; exact ⟨_, _, hstage.1.1⟩
  case h_3 send outcome pending hs => rw [hs] at hstage; cases hi; exact ⟨_, _, hstage.1.1⟩
  case h_4 => cases hi

/-- **Stability.** What a tick knows survives the writes of everybody else. -/
theorem Tick.Knows.write (h : t.Knows m) (hw : QueueWrite m owner m')
    (hne : ∀ i, owner = some i → t.owns ≠ some i) : t.Knows m' := by
  obtain ⟨settings, transport, order, order_perm, touched, now, stage⟩ := t
  obtain ⟨htouched, hstage⟩ := h
  refine ⟨fun c hc => hw.launched (htouched c hc), ?_⟩
  cases stage with
  | start => trivial
  | done => trivial
  | claim pending => exact Loaded.write hstage hw
  | recheck send pending =>
    obtain ⟨hclaimed, hfirst, hloaded⟩ := hstage
    have hother : owner ≠ some send.id := fun ho => hne _ ho rfl
    exact ⟨hclaimed.write hw hother, hw.not_mailed hfirst hother, hloaded.write hw⟩
  | mail send guest pending =>
    obtain ⟨hclaimed, hfirst, hconsent, hloaded⟩ := hstage
    have hother : owner ≠ some send.id := fun ho => hne _ ho rfl
    exact ⟨hclaimed.write hw hother, hw.not_mailed hfirst hother, hconsent, hloaded.write hw⟩
  | record send outcome pending =>
    obtain ⟨hclaimed, hloaded⟩ := hstage
    exact ⟨hclaimed.write hw fun ho => hne _ ho rfl, hloaded.write hw⟩
  | check campaigns => exact fun c hc => hw.launched (hstage c hc)
  | finish campaign campaigns =>
    obtain ⟨hlaunched, hdrained, hrest⟩ := hstage
    exact ⟨hw.launched hlaunched, hdrained.write hw hlaunched, fun c hc => hw.launched (hrest c hc)⟩

end Facts

/-! ### The steps of a tick -/

/-- What the next statement of a tick can do, one constructor for each way out of a stage. -/
inductive TickMove (m : Marketing) (t : Tick) : Marketing × Tick → Prop
  /-- There is no mail host or no row to send, the last campaign was tested, or it is over. -/
  | stop (hs : t.stage = .start ∨ t.stage = .check [] ∨ t.stage = .done) :
    TickMove m t (m, { t with stage := .done })
  | load (hs : t.stage = .start) :
    TickMove m t (m, { t with stage := .claim (pendingBatch m t.settings.campaignBatchSize) })
  | drain (hs : t.stage = .claim []) :
    TickMove m t (m, { t with now := m.now, stage := .check (t.order t.touched) })
  | miss (send : CampaignSend) (pending : List CampaignSend)
    (hs : t.stage = .claim (send :: pending))
    (hmiss : (m.sends.rows.filter (claims send)).length = 0) :
    TickMove m t (m.updateSends (claims send) claimedRow,
      { t with touched := t.touched.insert send.campaign, stage := .claim pending })
  | hit (send : CampaignSend) (pending : List CampaignSend)
    (hs : t.stage = .claim (send :: pending))
    (hhit : (m.sends.rows.filter (claims send)).length ≠ 0) :
    TickMove m t (m.updateSends (claims send) claimedRow,
      { t with touched := t.touched.insert send.campaign, stage := .recheck send pending })
  | skip (send : CampaignSend) (pending : List CampaignSend)
    (hs : t.stage = .recheck send pending) :
    TickMove m t (m, { t with stage := .record send .skipped pending })
  | consent (send : CampaignSend) (guest : GuestAccount) (pending : List CampaignSend)
    (hs : t.stage = .recheck send pending) (hguest : m.db.guests.get? send.guest = some guest)
    (hopt : guest.marketingOptIn = true) :
    TickMove m t (m, { t with stage := .mail send guest pending })
  | mail (send : CampaignSend) (guest : GuestAccount) (outcome : Outcome)
    (pending : List CampaignSend) (hs : t.stage = .mail send guest pending) :
    TickMove m t
      ({ m with mails := m.mails ++ [⟨send.id, send.campaign, send.guest, send.email, guest⟩] },
        { t with stage := .record send outcome pending })
  | record (send : CampaignSend) (outcome : Outcome) (pending : List CampaignSend)
    (hs : t.stage = .record send outcome pending)
    (hf : ∀ r, (outcome.record m.now r).id = r.id) :
    TickMove m t
      (m.updateSends (fun r => r.id == send.id) (fun r => outcome.record m.now r) hf,
        { t with stage := .claim pending })
  | remain (campaign : Nat) (campaigns : List Nat) (hs : t.stage = .check (campaign :: campaigns))
    (hremaining : remaining m campaign = true) :
    TickMove m t (m, { t with stage := .check campaigns })
  | settle (campaign : Nat) (campaigns : List Nat) (hs : t.stage = .check (campaign :: campaigns))
    (hremaining : remaining m campaign = false) :
    TickMove m t (m, { t with stage := .finish campaign campaigns })
  | finish (campaign : Nat) (campaigns : List Nat) (hs : t.stage = .finish campaign campaigns) :
    TickMove m t (m.finishCampaign campaign t.now, { t with stage := .check campaigns })

/-- **The next statement of a tick** is one of these. -/
theorem tickStep_move (m : Marketing) (t : Tick) : TickMove m t (tickStep m t) := by
  obtain ⟨settings, transport, order, order_perm, touched, now, stage⟩ := t
  cases stage with
  | start =>
    simp only [tickStep]
    split
    · exact .stop (.inl rfl)
    · split
      · exact .stop (.inl rfl)
      · exact .load rfl
  | claim pending =>
    cases pending with
    | nil => exact .drain rfl
    | cons send pending =>
      simp only [tickStep]
      -- The claim is conditional: another tick may have been faster.
      split
      · exact .miss send pending rfl ‹_›
      · exact .hit send pending rfl ‹_›
  | recheck send pending =>
    simp only [tickStep]
    split
    · exact .skip send pending rfl
    · rename_i guest hguest
      -- The consent is read again after the claim.
      split
      · exact .skip send pending rfl
      · rename_i hopt
        exact .consent send guest pending rfl hguest (by simpa using hopt)
  | mail send guest pending =>
    simp only [tickStep]
    split
    · exact .mail send guest _ pending rfl
    · exact .mail send guest _ pending rfl
  | record send outcome pending => exact .record send outcome pending rfl _
  | check campaigns =>
    cases campaigns with
    | nil => exact .stop (.inr (.inl rfl))
    | cons campaign campaigns =>
      simp only [tickStep]
      split
      · exact .remain campaign campaigns rfl ‹_›
      · rename_i hremaining
        exact .settle campaign campaigns rfl (eq_false_of_ne_true hremaining)
  | finish campaign campaigns => exact .finish campaign campaigns rfl
  | done => exact .stop (.inr (.inr rfl))

section Steps

variable {m : Marketing} {t : Tick} {send : CampaignSend}

/-- A claim takes the pending row with the key. -/
theorem claims_iff {r : CampaignSend} :
    claims send r = true ↔ r.id = send.id ∧ r.status = .pending := by
  unfold claims
  simp

/-- The claim of a row. -/
theorem claim_write (m : Marketing) (owner : Option Nat) (send : CampaignSend) :
    QueueWrite m owner (m.updateSends (claims send) claimedRow) := by
  refine .move (claims send) claimedRow _ fun r _ hp => ?_
  have hpending := (claims_iff.mp hp).2
  exact ⟨rfl, rfl, rfl, .inr (.inl hpending), fun _ _ => rfl⟩

/-- Recording an outcome keeps the row in its place. -/
theorem Outcome.record_fields (outcome : Outcome) (now : Time) (r : CampaignSend) :
    (outcome.record now r).id = r.id ∧ (outcome.record now r).campaign = r.campaign ∧
      (outcome.record now r).guest = r.guest ∧ (outcome.record now r).status.terminal = true := by
  cases outcome <;> exact ⟨rfl, rfl, rfl, rfl⟩

/-- The outcome of a row, by the tick that has claimed it. -/
theorem record_write {touched : List Nat} (h : Claimed m touched send) (outcome : Outcome)
    (now : Time) (hf) :
    QueueWrite m (some send.id)
      (m.updateSends (fun r => r.id == send.id) (fun r => outcome.record now r) hf) := by
  refine .move _ _ hf fun r hr hp => ?_
  obtain ⟨s, hs, hid, -, -, hsending⟩ := h.1
  obtain rfl : r = s := Table.eq_of_key_eq hr hs ((beq_iff_eq.mp hp).trans hid.symm)
  obtain ⟨hid', hcampaign, hguest, hterminal⟩ := outcome.record_fields now r
  -- From `sending` to a terminal status, on the row that this tick owns.
  refine ⟨hid', hcampaign, hguest, .inr (.inr ⟨hsending, fun hp => ?_⟩), fun _ hne => ?_⟩
  · rw [hp] at hterminal
    cases hterminal
  · exact absurd (congrArg some hid.symm) hne

/-- A campaign without remaining rows has settled them all. -/
theorem drained_of_not_remaining {campaign : Nat} (h : remaining m campaign = false) :
    Drained m campaign := by
  intro r hr hcampaign
  have hrow := List.any_eq_false.mp h r hr
  cases hs : r.status <;> simp_all [SendStatus.terminal]

/-- A campaign with sends left is not drained. -/
theorem not_drained_of_remaining {campaign : Nat} (h : remaining m campaign = true) :
    ¬Drained m campaign := by
  obtain ⟨r, hr, hhit⟩ := List.any_eq_true.mp h
  intro hdrained
  rw [Bool.and_eq_true, beq_iff_eq] at hhit
  have hterminal := hdrained r hr hhit.1
  cases hs : r.status <;> simp_all [SendStatus.terminal]

/-- **The next statement of a tick** writes on behalf of the row it owns. -/
theorem tickStep_write (h : t.Knows m) : QueueWrite m t.owns (tickStep m t).1 := by
  obtain ⟨-, hstage⟩ := h
  unfold Tick.owns
  have hmove := tickStep_move m t
  generalize tickStep m t = next at hmove ⊢
  cases hmove with
  | stop | load | drain | skip | consent | remain | settle => exact .idle
  | miss send pending hs => exact claim_write m _ send
  | hit send pending hs => exact claim_write m _ send
  | mail send guest outcome pending hs =>
    rw [hs] at hstage ⊢
    obtain ⟨hclaimed, hfirst, hconsent, -⟩ := hstage
    exact .mail ⟨send.id, send.campaign, send.guest, send.email, guest⟩ rfl hclaimed.1 hfirst
      hconsent
  | record send outcome pending hs =>
    rw [hs] at hstage ⊢
    exact record_write hstage.1 outcome m.now _
  | finish campaign campaigns hs =>
    rw [hs] at hstage ⊢
    exact .finish campaign t.now hstage.2.1

/-- The batch that the query of a tick loads. -/
theorem pendingBatch_loaded (m : Marketing) (batchSize : Nat) :
    Loaded m (pendingBatch m batchSize) := by
  intro send hsend
  have hrow := (List.mem_filter.mp (mem_sortBy.mp (List.mem_of_mem_take hsend))).1
  exact ⟨send, hrow, rfl, rfl, rfl, trivial⟩

/-- The campaign of a row in the queue was triggered. -/
theorem HasRow.launched_insert {m' : Marketing} {owner : Option Nat} {touched : List Nat}
    (hrow : HasRow m send.id send.campaign send.guest fun _ => True) (hq : Queue m)
    (hw : QueueWrite m owner m') (htouched : ∀ c ∈ touched, Launched m' c) :
    ∀ c ∈ touched.insert send.campaign, Launched m' c := by
  intro c hc
  rcases List.mem_insert_iff.mp hc with rfl | hc
  · obtain ⟨r, hr, -, hcampaign, -⟩ := hrow
    rw [← hcampaign]
    exact hw.launched (hq.launched r hr)
  · exact htouched c hc

/-- **A claim that hits** its row has claimed it. -/
theorem claim_hits (hq : Queue m) (touched : List Nat)
    (hrow : HasRow m send.id send.campaign send.guest fun _ => True) (hclaimed : (m.sends.rows.filter (claims send)).length ≠ 0) :
    Claimed (m.updateSends (claims send) claimedRow)
      (touched.insert send.campaign) send ∧ send.id ∉ m.mails.map (·.send) := by
  -- The row that the claim hit is the one that was loaded.
  obtain ⟨r, hr⟩ := List.exists_mem_of_length_pos (Nat.pos_of_ne_zero hclaimed)
  obtain ⟨hmem, hhit⟩ := List.mem_filter.mp hr
  obtain ⟨hid, hpending⟩ := claims_iff.mp hhit
  obtain ⟨s, hs, hsid, hcampaign, hguest, -⟩ := hrow
  obtain rfl : r = s := Table.eq_of_key_eq hmem hs (hid.trans hsid.symm)
  refine ⟨⟨⟨_, mem_updateSends.mpr ⟨r, hmem, if_pos hhit⟩, hid, hcampaign, hguest, rfl⟩,
    List.mem_insert_self⟩, ?_⟩
  rw [← hid]
  exact hq.not_mailed hmem hpending

/-- **The next statement of a tick** leaves it with what it needs to know. -/
theorem tickStep_knows (hq : Queue m) (h : t.Knows m) :
    (tickStep m t).2.Knows (tickStep m t).1 := by
  have hw := tickStep_write h
  obtain ⟨htouched, hstage⟩ := h
  have hmove := tickStep_move m t
  generalize tickStep m t = next at hmove hw ⊢
  have hkeep : ∀ c ∈ t.touched, Launched next.1 c := fun c hc => hw.launched (htouched c hc)
  cases hmove with
  | stop => exact ⟨htouched, trivial⟩
  | load => exact ⟨htouched, pendingBatch_loaded m _⟩
  | drain => exact ⟨htouched, fun c hc => htouched c ((t.order_perm t.touched).mem_iff.mp hc)⟩
  | miss send pending hs =>
    -- The send at the head is claimed or missed; the rest is still as it was loaded.
    rw [hs] at hstage
    obtain ⟨hrow, hloaded⟩ := List.forall_mem_cons.mp hstage
    exact ⟨hrow.launched_insert hq hw hkeep, Loaded.write hloaded hw⟩
  | hit send pending hs hhit =>
    rw [hs] at hstage
    obtain ⟨hrow, hloaded⟩ := List.forall_mem_cons.mp hstage
    obtain ⟨hclaim, hfirst⟩ := claim_hits hq t.touched hrow hhit
    exact ⟨hrow.launched_insert hq hw hkeep, hclaim, hfirst, Loaded.write hloaded hw⟩
  | skip send pending hs =>
    rw [hs] at hstage
    exact ⟨htouched, hstage.1, hstage.2.2⟩
  -- The guest was read in this statement, and had agreed.
  | consent send guest pending hs hguest hopt =>
    rw [hs] at hstage
    obtain ⟨hclaimed, hfirst, hloaded⟩ := hstage
    exact ⟨htouched, hclaimed, hfirst, ⟨Table.get?_key hguest, hopt⟩, hloaded⟩
  | mail send guest outcome pending hs =>
    rw [hs] at hstage
    exact ⟨hkeep, hstage.1, hstage.2.2.2⟩
  | record send outcome pending hs =>
    rw [hs] at hstage
    exact ⟨hkeep, hstage.2.write hw⟩
  | remain campaign campaigns hs =>
    rw [hs] at hstage
    exact ⟨htouched, (List.forall_mem_cons.mp hstage).2⟩
  -- None of its sends was pending, which is kept until it is finished.
  | settle campaign campaigns hs hremaining =>
    rw [hs] at hstage
    obtain ⟨hlaunched, hrest⟩ := List.forall_mem_cons.mp hstage
    exact ⟨htouched, hlaunched, drained_of_not_remaining hremaining, hrest⟩
  | finish campaign campaigns hs =>
    rw [hs] at hstage
    exact ⟨hkeep, fun c hc => hw.launched (hstage.2.2 c hc)⟩

/-- A tick comes to own a row only by claiming it. -/
theorem tickStep_owns {i : Nat} (hi : (tickStep m t).2.owns = some i) :
    t.owns = some i ∨ ∃ r ∈ m.sends.rows, r.id = i ∧ r.status = .pending := by
  have hmove := tickStep_move m t
  generalize tickStep m t = next at hmove hi
  unfold Tick.owns
  cases hmove with
  | stop | load | drain | miss | record | remain | settle | finish => cases hi
  | hit send pending hs hhit =>
    obtain rfl : send.id = i := Option.some.inj hi
    obtain ⟨r, hr⟩ := List.exists_mem_of_length_pos (Nat.pos_of_ne_zero hhit)
    obtain ⟨hmem, hclaims⟩ := List.mem_filter.mp hr
    exact .inr ⟨r, hmem, claims_iff.mp hclaims⟩
  | skip send pending hs | consent send guest pending hs | mail send guest outcome pending hs =>
    rw [hs]
    exact .inl hi

end Steps

end BoxOffice

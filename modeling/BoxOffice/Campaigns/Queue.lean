import BoxOffice.Campaigns.QueueWrite

namespace BoxOffice

open Relational Transition

/-!
# Campaigns — the invariant of the queue

`Queue` is what holds of the marketing tables at every moment, whatever the ticks are doing, and
`Queue.write` its preservation, one lemma a field.  That only settled rows are left of a finished
campaign is part of it; that a campaign does not get stuck is not, for it depends on the ticks in
flight.
-/

/-- **The invariant.** -/
structure Queue (m : Marketing) : Prop where
  unique : (m.sends.rows.map fun r => (r.campaign, r.guest)).Nodup
  launched : ∀ r ∈ m.sends.rows, Launched m r.campaign
  counted : ∀ c ∈ m.campaigns.rows, c.recipientCount = (m.sendsOf c.id).length
  finished : ∀ c ∈ m.campaigns.rows, c.status = .sent → Drained m c.id
  started : (m.started.map Prod.fst).Nodup
  starts : ∀ s ∈ m.started, Launched m s.1 ∧ s.2 = (m.sendsOf s.1).length
  mailed : (m.mails.map (·.send)).Nodup
  mails : ∀ x ∈ m.mails, HasRow m x.send x.campaign x.guest (· ≠ .pending) ∧
    x.recheck.id = x.guest ∧ x.recheck.marketingOptIn = true

/-! ### The invariant through a write -/

section Preservation

variable {m m' : Marketing} {owner : Option Nat}

/-- A draft has no rows. -/
theorem Queue.sendsOf_draft (h : Queue m) {c : EmailCampaign} (hc : c ∈ m.campaigns.rows)
    (hdraft : c.status = .draft) : m.sendsOf c.id = [] := by
  refine List.filter_eq_nil_iff.mpr fun r hr hcampaign => ?_
  exact (h.launched r hr).ne_draft hc hdraft (beq_iff_eq.mp hcampaign)

/-- A write leaves one send for each guest. -/
theorem Queue.unique_write (h : Queue m) (hw : QueueWrite m owner m') :
    (m'.sends.rows.map fun r => (r.campaign, r.guest)).Nodup := by
  cases hw with
  | idle => exact h.unique
  | elsewhere => exact h.unique
  | compose => exact h.unique
  | mail => exact h.unique
  | finish => exact h.unique
  | start locked guests stored draft nodup =>
    have hrows : (startedWith m locked guests).sends.rows.map (fun r => (r.campaign, r.guest))
        = m.sends.rows.map (fun r => (r.campaign, r.guest))
          ++ guests.map (fun g => (locked.id, g.id)) :=
      Table.map_insertMany fun _ _ => rfl
    show ((startedWith m locked guests).sends.rows.map fun r => (r.campaign, r.guest)).Nodup
    rw [hrows, List.nodup_append]
    -- The guests of one campaign are told apart by themselves, and no send of it was there while
    -- it was a draft.
    refine ⟨h.unique, List.Nodup.of_map Prod.snd ?_, fun a ha b hb hab => ?_⟩
    · rwa [List.map_map]
    · obtain ⟨r, hr, rfl⟩ := List.mem_map.mp ha
      obtain ⟨g, -, rfl⟩ := List.mem_map.mp hb
      exact (h.launched r hr).ne_draft stored draft (congrArg Prod.fst hab)
  | move p f hf moves =>
    show ((m.sends.rows.map _).map _).Nodup
    rw [List.map_map]
    -- Moving a send keeps its campaign and its guest.
    have hsame : ∀ r ∈ m.sends.rows, ((fun r : CampaignSend => (r.campaign, r.guest)) ∘
        fun r => if p r then f r else r) r = (r.campaign, r.guest) := by
      intro r hr
      have hmove := RowMove.ite (moves r hr)
      exact Prod.ext hmove.campaign hmove.guest
    rw [List.map_congr_left hsame]
    exact h.unique

/-- A write leaves sends of launched campaigns only. -/
theorem Queue.launched_write (h : Queue m) (hw : QueueWrite m owner m') :
    ∀ r' ∈ m'.sends.rows, Launched m' r'.campaign := by
  intro r' hr'
  -- A row was there before, or a trigger has just queued it.
  rcases hw.row_back hr' with ⟨r, hr, hmove⟩ | ⟨-, hlaunched, -⟩
  · rw [hmove.campaign]
    exact hw.launched (h.launched r hr)
  · exact hlaunched

/-- A write leaves the recipients counted. -/
theorem Queue.counted_write (h : Queue m) (hw : QueueWrite m owner m') :
    ∀ c ∈ m'.campaigns.rows, c.recipientCount = (m'.sendsOf c.id).length := by
  intro c' hc'
  cases hw with
  | idle => exact h.counted c' hc'
  | elsewhere => exact h.counted c' hc'
  | mail => exact h.counted c' hc'
  | move p f hf moves =>
    rw [length_sendsOf_updateSends moves]
    exact h.counted c' hc'
  | compose mk hk draft =>
    rcases (Table.mem_insert (k := hk)).mp hc' with hc | rfl
    · exact h.counted c' hc
    · -- Nothing is queued for a campaign that does not exist yet.
      have hnil : m.sendsOf (mk m.campaigns.nextId).id = [] := by
        refine List.filter_eq_nil_iff.mpr fun r hr hcampaign => ?_
        obtain ⟨c, hc, hid, -⟩ := h.launched r hr
        have hnext : c.id = m.campaigns.nextId :=
          hid.trans ((beq_iff_eq.mp hcampaign).trans (hk _))
        exact Table.key_ne_nextId hc hnext
      show (mk m.campaigns.nextId).recipientCount = (m.sendsOf (mk m.campaigns.nextId).id).length
      rw [hnil, (draft _).2]
      rfl
  | start locked guests stored draft =>
    obtain ⟨c, hc, rfl⟩ := mem_startedWith.mp hc'
    show _ = ((startedWith m locked guests).sendsOf _).length
    by_cases hid : c.id = locked.id
    -- The draft had no rows, and gets one for each recipient it counts.
    · rw [if_pos (beq_iff_eq.mpr hid), (triggered_status _ _ _).2, triggered_id, hid,
        length_sendsOf_startedWith, h.sendsOf_draft stored draft, List.length_nil, Nat.zero_add]
    · rw [if_neg (by simpa using hid), sendsOf_startedWith hid]
      exact h.counted c hc
  | finish campaign now =>
    obtain ⟨c, hc, rfl⟩ := mem_finishCampaign.mp hc'
    show _ = (m.sendsOf _).length
    split_ifs
    · exact h.counted c hc
    · exact h.counted c hc

/-- A write leaves finished campaigns without pending sends. -/
theorem Queue.finished_write (h : Queue m) (hw : QueueWrite m owner m') :
    ∀ c ∈ m'.campaigns.rows, c.status = .sent → Drained m' c.id := by
  -- What was finished before stays finished.
  have hold : ∀ c ∈ m.campaigns.rows, c.status = .sent → Drained m' c.id := fun c hc hsent =>
    (h.finished c hc hsent).write hw ⟨c, hc, rfl, by rw [hsent]; simp⟩
  intro c' hc' hsent
  cases hw with
  | idle => exact hold c' hc' hsent
  | elsewhere => exact hold c' hc' hsent
  | mail => exact hold c' hc' hsent
  | move => exact hold c' hc' hsent
  | compose mk hk draft =>
    rcases (Table.mem_insert (k := hk)).mp hc' with hc | rfl
    · exact hold c' hc hsent
    · rw [(draft _).1] at hsent
      cases hsent
  | start locked guests stored draft =>
    obtain ⟨c, hc, rfl⟩ := mem_startedWith.mp hc'
    by_cases hid : c.id = locked.id
    · -- Only an empty segment finishes the campaign on the spot.
      rw [if_pos (beq_iff_eq.mpr hid), (triggered_status _ _ _).1] at hsent
      rw [if_pos (beq_iff_eq.mpr hid), triggered_id, hid]
      split_ifs at hsent with hnil
      obtain rfl : guests = [] := List.length_eq_zero_iff.mp hnil
      exact fun r hr hcampaign => absurd hcampaign ((h.launched r hr).ne_draft stored draft)
    · rw [if_neg (by simpa using hid)] at hsent ⊢
      exact hold c hc hsent
  | finish campaign now drained =>
    obtain ⟨c, hc, rfl⟩ := mem_finishCampaign.mp hc'
    by_cases hp : (c.id == campaign && c.status == .sending) = true
    · rw [if_pos hp]
      obtain rfl : c.id = campaign := by
        rw [Bool.and_eq_true, beq_iff_eq] at hp
        exact hp.1
      exact drained
    · rw [if_neg hp] at hsent ⊢
      exact hold c hc hsent

/-- A write leaves each start once, and counted. -/
theorem Queue.starts_write (h : Queue m) (hw : QueueWrite m owner m') :
    (m'.started.map Prod.fst).Nodup ∧
      ∀ s ∈ m'.started, Launched m' s.1 ∧ s.2 = (m'.sendsOf s.1).length := by
  have hold : ∀ s ∈ m.started, Launched m' s.1 ∧ s.2 = (m'.sendsOf s.1).length := by
    intro s hs
    obtain ⟨hlaunched, hlength⟩ := h.starts s hs
    exact ⟨hw.launched hlaunched, hlength.trans (hw.length_sendsOf hlaunched).symm⟩
  cases hw with
  | idle => exact ⟨h.started, hold⟩
  | elsewhere => exact ⟨h.started, hold⟩
  | compose => exact ⟨h.started, hold⟩
  | move => exact ⟨h.started, hold⟩
  | mail => exact ⟨h.started, hold⟩
  | finish => exact ⟨h.started, hold⟩
  | start locked guests stored draft =>
    constructor
    · show ((m.started ++ [(locked.id, guests.length)]).map Prod.fst).Nodup
      rw [List.map_append, List.nodup_append]
      -- What was triggered earlier is launched, and `locked` was a draft.
      refine ⟨h.started, by simp, fun a ha b hb hab => ?_⟩
      obtain ⟨s, hs, rfl⟩ := List.mem_map.mp ha
      exact (h.starts s hs).1.ne_draft stored draft (hab.trans (List.mem_singleton.mp hb))
    · intro s hs
      rcases List.mem_append.mp hs with hs | hs
      · exact hold s hs
      · rw [List.mem_singleton.mp hs]
        refine ⟨launched_startedWith stored, ?_⟩
        show guests.length = ((startedWith m locked guests).sendsOf locked.id).length
        rw [length_sendsOf_startedWith, h.sendsOf_draft stored draft, List.length_nil, Nat.zero_add]

/-- A write leaves one mail for each send. -/
theorem Queue.mails_write (h : Queue m) (hw : QueueWrite m owner m') :
    (m'.mails.map (·.send)).Nodup ∧
      ∀ x ∈ m'.mails, HasRow m' x.send x.campaign x.guest (· ≠ .pending) ∧
        x.recheck.id = x.guest ∧ x.recheck.marketingOptIn = true := by
  have hold : ∀ x ∈ m.mails, HasRow m' x.send x.campaign x.guest (· ≠ .pending) ∧
      x.recheck.id = x.guest ∧ x.recheck.marketingOptIn = true := by
    intro x hx
    obtain ⟨hrow, hconsent⟩ := h.mails x hx
    exact ⟨hrow.write hw fun a b => SendStatus.Follows.ne_pending, hconsent⟩
  cases hw with
  | idle => exact ⟨h.mailed, hold⟩
  | elsewhere => exact ⟨h.mailed, hold⟩
  | compose => exact ⟨h.mailed, hold⟩
  | start => exact ⟨h.mailed, hold⟩
  | move => exact ⟨h.mailed, hold⟩
  | finish => exact ⟨h.mailed, hold⟩
  | mail x owned row first consent =>
    constructor
    · show ((m.mails ++ [x]).map (·.send)).Nodup
      rw [List.map_append, List.nodup_append]
      -- The row of the new mail was never mailed before.
      refine ⟨h.mailed, by simp, fun a ha b hb hab => first ?_⟩
      have hxa : a = x.send := hab.trans (List.mem_singleton.mp hb)
      rwa [← hxa]
    · intro y hy
      rcases List.mem_append.mp hy with hy | hy
      · exact hold y hy
      · rw [List.mem_singleton.mp hy]
        obtain ⟨r, hr, hid, hcampaign, hguest, hsending⟩ := row
        exact ⟨⟨r, hr, hid, hcampaign, hguest, by rw [hsending]; simp⟩, consent⟩

/-- **The invariant survives every write.** -/
theorem Queue.write (h : Queue m) (hw : QueueWrite m owner m') : Queue m' where
  unique := h.unique_write hw
  launched := h.launched_write hw
  counted := h.counted_write hw
  finished := h.finished_write hw
  started := (h.starts_write hw).1
  starts := (h.starts_write hw).2
  mailed := (h.mails_write hw).1
  mails := (h.mails_write hw).2

/-- Before the first trigger. -/
theorem Marketing.Fresh.queue (h : m.Fresh) : Queue m := by
  obtain ⟨hdraft, hsends, hmails, hstarted⟩ := h
  refine ⟨by simp [hsends], by simp [hsends], fun c hc => ?_, fun c hc hsent => ?_,
    by simp [hstarted], by simp [hstarted], by simp [hmails], by simp [hmails]⟩
  · rw [(hdraft c hc).2]
    unfold Marketing.sendsOf
    rw [hsends]
    rfl
  · rw [(hdraft c hc).1] at hsent
    cases hsent

end Preservation

end BoxOffice

import BoxOffice.HelpCenter.Slugs
import BoxOffice.Transition.Progress
import Mathlib.Data.List.Perm.Subperm

namespace BoxOffice

open Relational Transition

/-!
# Help center — the search for an address

`_unique_slug` asks for one address after the other until one is free, while other requests may take
what it is about to ask for.  `save_answered` bounds the search by what stands in its way: the
articles that were there, and the statements of the others.  Left alone it takes the first address
of the list that is free, and there is one among the first few (`create_undisturbed`).
-/

section Search

variable {H : HelpSettings} {db db' : Table HelpArticle} {t k : HelpTask} {article : HelpArticle}
  {pk : Option Nat} {organization n m rows : Nat} {seen : List String}

/-- The slugs of an organization. -/
def slugsOf (db : Table HelpArticle) (organization : Nat) : List String :=
  (db.rows.filter fun a => a.organization == organization).map HelpArticle.slug

/-- The slugs of a theater. -/
theorem mem_slugsOf {slug : String} :
    slug ∈ slugsOf db organization ↔
      ∃ a ∈ db.rows, a.organization = organization ∧ a.slug = slug := by
  simp only [slugsOf, List.mem_map, List.mem_filter, beq_iff_eq, and_assoc]

/-- An address that is taken is one of them. -/
theorem mem_slugsOf_of_clashes {slug : String} (h : clashes db organization pk slug = true) :
    slug ∈ slugsOf db organization := by
  obtain ⟨a, ha, hp⟩ := List.any_eq_true.mp h
  simp only [Bool.and_eq_true, beq_iff_eq, HelpArticle.address, Prod.mk.injEq] at hp
  exact mem_slugsOf.mpr ⟨a, ha, hp.1.1, hp.1.2⟩

/-! ### The list of addresses -/

/-- The candidates for a title are all different. -/
theorem candidate_injective (H : HelpSettings) (title : String) {m n : Nat}
    (h : H.candidate title m = H.candidate title n) : m = n := by
  cases m with
  | zero =>
    cases n with
    | zero => rfl
    | succ n => exact absurd h.symm (Python.numbered_ne _ _)
  | succ m =>
    cases n with
    | zero => exact absurd h (Python.numbered_ne _ _)
    | succ n => rw [Nat.add_right_cancel (Python.numbered_injective _ h)]

/-- As many addresses as are all taken, so many slugs there are. -/
theorem candidates_le (title : String) (h : ∀ j < n, H.candidate title j ∈ seen) :
    n ≤ seen.length := by
  have hnodup : ((List.range n).map (H.candidate title)).Nodup :=
    List.Nodup.map (fun _ _ h => candidate_injective H title h) List.nodup_range
  have hsub : (List.range n).map (H.candidate title) ⊆ seen := fun slug hslug => by
    obtain ⟨j, hj, rfl⟩ := List.mem_map.mp hslug
    exact h j (List.mem_range.mp hj)
  calc n = ((List.range n).map (H.candidate title)).length := by simp
    _ ≤ seen.length := (hnodup.subperm hsub).length_le

/-! ### What a search has spent -/

/-- How far a request is after `n` statements, where `seen` has all the slugs that ever stood in its
    way. -/
def HelpStage.Spent (H : HelpSettings) (organization : Nat) (seen : List String) (n : Nat) :
    HelpStage → Prop
  | .arrived => n = 0
  | .checking .. => n ≤ 1
  | .probing _ article j => article.organization = organization ∧ n ≤ j + 2 ∧
      ∀ i < j, H.candidate article.title i ∈ seen
  | .writing _ _ => n ≤ seen.length + 3
  | .reinserting _ _ => n ≤ seen.length + 4
  | .deleting _ => n ≤ 1
  | .answered _ => False

/-- A request that has spent `n` statements while the others took `m`. -/
structure Searching (H : HelpSettings) (organization rows : Nat) (db : Table HelpArticle)
    (t : HelpTask) (n m : Nat) : Prop where
  here : t.organization = organization
  spent : ∃ seen : List String, seen.length ≤ rows + m ∧ slugsOf db organization ⊆ seen ∧
    t.stage.Spent H organization seen n

/-- The request is answered. -/
def HelpTask.Answered (t : HelpTask) : Prop := ∃ answer, t.stage = .answered answer

/-- What was spent on a search stays spent when more is seen. -/
theorem HelpStage.Spent.mono {stage : HelpStage} {seen' : List String}
    (h : stage.Spent H organization seen n) (hsub : seen ⊆ seen')
    (hlen : seen.length ≤ seen'.length) : stage.Spent H organization seen' n := by
  cases stage with
  | arrived => exact h
  | checking pk loaded form => exact h
  | probing pk article j => exact ⟨h.1, h.2.1, fun i hi => hsub (h.2.2 i hi)⟩
  | writing pk article => exact h.trans (by omega)
  | reinserting pk article => exact h.trans (by omega)
  | deleting article => exact h
  | answered answer => exact h

/-- A statement adds at most one slug. -/
theorem HelpWrites.slugsOf (h : HelpWrites H db t db') (organization : Nat) :
    ∃ new : String, slugsOf db' organization ⊆ new :: slugsOf db organization := by
  cases h with
  | fewer hrows =>
    refine ⟨"", fun slug hslug => List.mem_cons_of_mem _ ?_⟩
    obtain ⟨a, ha, hrest⟩ := mem_slugsOf.mp hslug
    exact mem_slugsOf.mpr ⟨a, hrows a ha, hrest⟩
  | @put pk article k created _ _ _ hput =>
    refine ⟨article.slug, fun slug hslug => ?_⟩
    obtain ⟨a, ha, horg, rfl⟩ := mem_slugsOf.mp hslug
    rcases hput.rows a ha with ⟨ha, -⟩ | rfl
    · exact List.mem_cons_of_mem _ (mem_slugsOf.mpr ⟨a, ha, horg, rfl⟩)
    · exact List.mem_cons_self

/-- The statement of another request. -/
theorem Searching.other (h : Searching H organization rows db t n m) (k : HelpTask) :
    Searching H organization rows (helpStep H db k).1 t n (m + 1) := by
  obtain ⟨seen, hlen, hseen, hspent⟩ := h.spent
  obtain ⟨new, hnew⟩ := (helpStep_writes H db k).slugsOf organization
  refine ⟨h.here, new :: seen, by simpa [← Nat.add_assoc] using hlen, fun slug hslug => ?_,
    hspent.mono (List.subset_cons_self _ _) (by simp)⟩
  rcases List.mem_cons.mp (hnew hslug) with rfl | hslug
  · exact List.mem_cons_self
  · exact List.mem_cons_of_mem _ (hseen hslug)

/-! ### Its own statement -/

/-- A load answers, or leads to a form or to a deletion. -/
theorem HelpTask.load_cases (db : Table HelpArticle) (t : HelpTask) :
    (∃ answer, t.load db = .answered answer) ∨ (∃ pk a form, t.load db = .checking pk a form) ∨
      ∃ a, t.load db = .deleting a := by
  unfold HelpTask.load
  split
  · exact .inl ⟨_, rfl⟩
  · split
    · exact .inr (.inl ⟨_, _, _, rfl⟩)
    · split
      · exact .inl ⟨_, rfl⟩
      · exact .inr (.inl ⟨_, _, _, rfl⟩)
    · split
      · exact .inl ⟨_, rfl⟩
      · exact .inr (.inr ⟨_, rfl⟩)

/-- A check answers, or leads to a search or to a write. -/
theorem HelpTask.check_cases (H : HelpSettings) (db : Table HelpArticle) (t : HelpTask)
    (pk : Option Nat) (a : HelpArticle) (form : HelpArticleForm) :
    (∃ answer, t.check H db pk a form = .answered answer) ∨
      t.check H db pk a form = .probing pk (form.filled H t.organization a) 0 ∨
      t.check H db pk a form = .writing pk (form.filled H t.organization a) := by
  by_cases herrors : form.errors H db t.organization pk = []
  · by_cases hslug : form.cleanSlug H = ""
    · exact .inr (.inl (HelpTask.check_blank herrors hslug))
    · exact .inr (.inr (HelpTask.check_typed herrors hslug))
  · exact .inl ⟨_, HelpTask.check_errors herrors⟩

/-- A taken address leads to the next candidate. -/
theorem helpStep_taken (hstage : t.stage = .probing pk article n)
    (h : clashes db article.organization pk (H.candidate article.title n) = true) :
    helpStep H db t = (db, t.goTo (.probing pk article (n + 1))) := by
  simp only [helpStep, hstage, h, if_true]

/-- A free address leads to its write. -/
theorem helpStep_free (hstage : t.stage = .probing pk article n)
    (h : clashes db article.organization pk (H.candidate article.title n) = false) :
    helpStep H db t
      = (db, t.goTo (.writing pk { article with slug := H.candidate article.title n })) := by
  simp only [helpStep, hstage, h, Bool.false_eq_true, if_false]

/-- The request goes on without a write. -/
theorem Searching.goTo {stage : HelpStage} (h : Searching H organization rows db t n m)
    (hstep : helpStep H db t = (db, t.goTo stage))
    (hspent : ∀ seen : List String, seen.length ≤ rows + m → slugsOf db organization ⊆ seen →
      t.stage.Spent H organization seen n → stage.Spent H organization seen (n + 1)) :
    Searching H organization rows (helpStep H db t).1 (helpStep H db t).2 (n + 1) m := by
  obtain ⟨seen, hlen, hseen, hs⟩ := h.spent
  rw [hstep]
  exact ⟨h.here, seen, hlen, hseen, hspent seen hlen hseen hs⟩

/-- **One statement** of the request. -/
theorem Searching.own (h : Searching H organization rows db t n m) :
    (helpStep H db t).2.Answered ∨
      Searching H organization rows (helpStep H db t).1 (helpStep H db t).2 (n + 1) m := by
  cases hstage : t.stage with
  | arrived =>
    have hstep : helpStep H db t = (db, t.goTo (t.load db)) := by simp only [helpStep, hstage]
    rcases t.load_cases db with ⟨answer, hload⟩ | ⟨pk, a, form, hload⟩ | ⟨a, hload⟩
    all_goals rw [hload] at hstep
    · exact .inl ⟨answer, by rw [hstep]; rfl⟩
    · refine .inr (h.goTo hstep fun seen _ _ hs => ?_)
      rw [hstage] at hs
      exact (congrArg (· + 1) hs).le
    · refine .inr (h.goTo hstep fun seen _ _ hs => ?_)
      rw [hstage] at hs
      exact (congrArg (· + 1) hs).le
  | checking pk loaded form =>
    have hstep : helpStep H db t = (db, t.goTo (t.check H db pk loaded form)) := by
      simp only [helpStep, hstage]
    rcases t.check_cases H db pk loaded form with ⟨answer, hcheck⟩ | hcheck | hcheck
    all_goals rw [hcheck] at hstep
    · exact .inl ⟨answer, by rw [hstep]; rfl⟩
    · refine .inr (h.goTo hstep fun seen _ _ hs => ?_)
      rw [hstage] at hs
      exact ⟨h.here, Nat.succ_le_succ hs, fun i hi => absurd hi (Nat.not_lt_zero i)⟩
    · refine .inr (h.goTo hstep fun seen _ _ hs => ?_)
      rw [hstage] at hs
      exact (Nat.succ_le_succ hs).trans (by omega)
  | probing pk article j =>
    by_cases hclash : clashes db article.organization pk (H.candidate article.title j) = true
    · refine .inr (h.goTo (helpStep_taken hstage hclash) fun seen _ hseen hs => ?_)
      rw [hstage] at hs
      obtain ⟨horg, hle, htaken⟩ := hs
      -- The address is the slug of an article of the organization.
      have hmem : H.candidate article.title j ∈ slugsOf db organization :=
        horg ▸ mem_slugsOf_of_clashes hclash
      refine ⟨horg, Nat.succ_le_succ hle, fun i hi => ?_⟩
      rcases Nat.lt_succ_iff_lt_or_eq.mp hi with hi | rfl
      · exact htaken i hi
      · exact hseen hmem
    · refine .inr (h.goTo (helpStep_free hstage (by simpa using hclash)) fun seen _ _ hs => ?_)
      rw [hstage] at hs
      obtain ⟨-, hle, htaken⟩ := hs
      have hj := candidates_le article.title htaken
      show n + 1 ≤ seen.length + 3
      omega
  | writing pk article =>
    cases pk with
    | none =>
      left
      simp only [helpStep, hstage]
      split_ifs <;> exact ⟨_, rfl⟩
    | some pk =>
      by_cases hnone : (db.get? pk).isNone = true
      · have hstep : helpStep H db t = (db, t.goTo (.reinserting pk article)) := by
          simp only [helpStep, hstage, hnone, if_true]
        refine .inr (h.goTo hstep fun seen _ _ hs => ?_)
        rw [hstage] at hs
        exact Nat.succ_le_succ hs
      · left
        simp only [helpStep, hstage, hnone, Bool.false_eq_true, if_false]
        split_ifs <;> exact ⟨_, rfl⟩
  | reinserting pk article =>
    left
    simp only [helpStep, hstage]
    split_ifs <;> exact ⟨_, rfl⟩
  | deleting article =>
    left
    simp only [helpStep, hstage]
    exact ⟨_, rfl⟩
  | answered answer =>
    left
    simp only [helpStep, hstage]
    exact ⟨answer, hstage⟩

/-- An answered request stays answered. -/
theorem Answered.step (h : t.Answered) : (helpStep H db t).2.Answered := by
  obtain ⟨answer, hstage⟩ := h
  simp only [helpStep, hstage]
  exact ⟨answer, hstage⟩

/-- Searches take as many steps as there are addresses, and one for each step of others. -/
theorem helpDesk_count (H : HelpSettings) (opening : Table HelpArticle → Prop)
    (organization rows : Nat) :
    StepCount (helpDesk H opening) HelpTask.Answered (Searching H organization rows) where
  own _ _ _ _ h _ := h.own
  done _ _ h := Answered.step h
  other _ _ k _ _ h := h.other k
  env _ e := e.elim

/-- **Saves are answered.** However its statements interleave with those of others, a request has
    been answered once it has had five turns, one for each article its theater had, and one for each
    statement of the others. -/
theorem save_answered {opening : Table HelpArticle → Prop}
    {c c' : Config (Table HelpArticle) HelpTask} {as : List (Move HelpTask Empty)} {i : Nat}
    (hr : Run (helpDesk H opening).system c as c') (ht : c.procs[i]? = some t)
    (harrived : t.stage = .arrived)
    (hturns : (slugsOf c.shared t.organization).length + otherSteps i as + 5 ≤ ownSteps i as) :
    ∃ t', c'.procs[i]? = some t' ∧ t'.Answered := by
  have hstart : Searching H t.organization (slugsOf c.shared t.organization).length c.shared t 0 0 :=
    ⟨rfl, slugsOf c.shared t.organization, le_rfl, List.Subset.refl _, by rw [harrived]; rfl⟩
  obtain ⟨t', ht', hcount⟩ := (helpDesk_count H opening _ _).run hr ht hstart
  refine ⟨t', ht', hcount.resolve_right fun hsearch => ?_⟩
  obtain ⟨seen, hlen, -, hspent⟩ := hsearch.spent
  -- By stage: each one has used up fewer turns than there were.
  cases hstage : t'.stage with
  | arrived =>
    rw [hstage] at hspent
    have : ownSteps i as = 0 := hspent
    omega
  | checking pk loaded form =>
    rw [hstage] at hspent
    have : ownSteps i as ≤ 1 := hspent
    omega
  | probing pk article j =>
    rw [hstage] at hspent
    have hj := candidates_le article.title hspent.2.2
    have hle := hspent.2.1
    omega
  | writing pk article =>
    rw [hstage] at hspent
    have : ownSteps i as ≤ seen.length + 3 := hspent
    omega
  | reinserting pk article =>
    rw [hstage] at hspent
    have : ownSteps i as ≤ seen.length + 4 := hspent
    omega
  | deleting article =>
    rw [hstage] at hspent
    have : ownSteps i as ≤ 1 := hspent
    omega
  | answered answer =>
    rw [hstage] at hspent
    exact hspent

/-! ### Left alone -/

/-- The first free address. -/
theorem exists_free (H : HelpSettings) (db : Table HelpArticle) (organization : Nat)
    (pk : Option Nat) (title : String) :
    ∃ k ≤ (slugsOf db organization).length,
      clashes db organization pk (H.candidate title k) = false ∧
        ∀ j < k, clashes db organization pk (H.candidate title j) = true := by
  have hfree : ∃ k, clashes db organization pk (H.candidate title k) = false := by
    by_contra hall
    push Not at hall
    -- One address more than there are slugs cannot be taken.
    have htaken : ∀ j < (slugsOf db organization).length + 1,
        H.candidate title j ∈ slugsOf db organization := fun j _ =>
      mem_slugsOf_of_clashes (by simpa using hall j)
    have hle := candidates_le title htaken
    omega
  refine ⟨Nat.find hfree, ?_, Nat.find_spec hfree, fun j hj => ?_⟩
  · exact candidates_le (H := H) title fun j hj =>
      mem_slugsOf_of_clashes (by simpa using Nat.find_min hfree hj)
  · simpa using Nat.find_min hfree hj

/-- The search from some address on. -/
theorem undisturbed_probing {d : Nat} (t : HelpTask) (pk : Option Nat) (article : HelpArticle)
    (n : Nat)
    (htaken : ∀ j < d, clashes db article.organization pk
      (H.candidate article.title (n + j)) = true)
    (hfree : clashes db article.organization pk (H.candidate article.title (n + d)) = false) :
    undisturbed H (d + 1) (db, t.goTo (.probing pk article n))
      = (db, t.goTo (.writing pk { article with slug := H.candidate article.title (n + d) })) := by
  induction d generalizing n with
  | zero => exact helpStep_free (t := t.goTo (.probing pk article n)) rfl hfree
  | succ d ih =>
    have hnext (j : Nat) : n + 1 + j = n + (j + 1) := by omega
    have hstep : helpStep H db (t.goTo (.probing pk article n))
        = (db, t.goTo (.probing pk article (n + 1))) :=
      helpStep_taken rfl (htaken 0 (Nat.succ_pos d))
    rw [undisturbed, hstep, ih (n + 1) (fun j hj => by rw [hnext]; exact htaken _ (by omega))
      (by rw [hnext]; exact hfree), hnext]

/-- Steps, some after others. -/
theorem undisturbed_add (a b : Nat) (p : Table HelpArticle × HelpTask) :
    undisturbed H (a + b) p = undisturbed H b (undisturbed H a p) := by
  induction a generalizing p with
  | zero => rw [Nat.zero_add, undisturbed]
  | succ a ih => rw [Nat.succ_add, undisturbed, undisturbed, ih]

/-- A manager posts the form of a new article. -/
def creation (m : Membership) (organization : Nat) (now : Time) (form : HelpArticleForm) :
    HelpTask where
  user := m.user
  organization := organization
  membership := some m
  now := now
  request := .create form
  stage := .arrived

/-- The article that is written at an address. -/
def HelpArticleForm.written (H : HelpSettings) (m : Membership) (organization : Nat)
    (form : HelpArticleForm) (slug : String) : HelpArticle :=
  { form.filled H organization (.unsaved m.user) with slug := slug }

/-- A manager's new form is checked. -/
theorem creation_load {m : Membership} {now : Time} {form : HelpArticleForm}
    (hm : m.canManageEvents = true) :
    (creation m organization now form).load db = .checking none (.unsaved m.user) form := by
  have hgate : managerGate (creation m organization now form).membership = none := if_pos hm
  have hrequest : (creation m organization now form).request = .create form := rfl
  unfold HelpTask.load
  simp only [hgate, hrequest]
  rfl

/-- **Left alone**, a new article without a slug takes the first address of the list that no other
    article of the theater has; the request fails only where the column is too short for it. -/
theorem create_undisturbed {m : Membership} {form : HelpArticleForm} (now : Time)
    (hm : m.canManageEvents = true) (hvalid : form.errors H db organization none = [])
    (hblank : form.cleanSlug H = "") :
    ∃ k ≤ (slugsOf db organization).length,
      clashes db organization none (H.candidate (strip form.title) k) = false ∧
      (∀ j < k, clashes db organization none (H.candidate (strip form.title) j) = true) ∧
      undisturbed H (k + 4) (db, creation m organization now form) =
        if H.slugFits (H.candidate (strip form.title) k) then
          (insertArticle db now (form.written H m organization (H.candidate (strip form.title) k)),
            (creation m organization now form).goTo
              (.answered (.success s!"Created “{strip form.title}”.")))
        else (db, (creation m organization now form).goTo (.answered .serverError)) := by
  obtain ⟨k, hk, hfree, htaken⟩ := exists_free H db organization none (strip form.title)
  refine ⟨k, hk, hfree, htaken, ?_⟩
  -- Loading and checking take two statements, the search one for each address, and the insert the
  -- last.
  have hchecked : undisturbed H 2 (db, creation m organization now form)
      = (db, (creation m organization now form).goTo
          (.probing none (form.filled H organization (.unsaved m.user)) 0)) := by
    have hload : helpStep H db (creation m organization now form)
        = (db, (creation m organization now form).goTo (.checking none (.unsaved m.user) form)) :=
      congrArg (fun stage => (db, (creation m organization now form).goTo stage)) (creation_load hm)
    have hcheck : (creation m organization now form).check H db none (.unsaved m.user) form
        = .probing none (form.filled H organization (.unsaved m.user)) 0 :=
      HelpTask.check_blank (t := creation m organization now form) hvalid hblank
    rw [← hcheck]
    simp only [undisturbed, hload]
    rfl
  have hsearched := undisturbed_probing (creation m organization now form) none
    (form.filled H organization (.unsaved m.user)) 0
    (fun j hj => by rw [Nat.zero_add]; exact htaken j hj) (by rw [Nat.zero_add]; exact hfree)
  have hwritten : helpStep H db ((creation m organization now form).goTo
      (.writing none (form.written H m organization (H.candidate (strip form.title) k))))
      = if H.slugFits (H.candidate (strip form.title) k) then
          (insertArticle db now (form.written H m organization (H.candidate (strip form.title) k)),
            (creation m organization now form).goTo
              (.answered (.success s!"Created “{strip form.title}”.")))
        else (db, (creation m organization now form).goTo (.answered .serverError)) := by
    have hrefuses : refuses H db none
        (form.written H m organization (H.candidate (strip form.title) k))
          = !H.slugFits (H.candidate (strip form.title) k) := by
      show (clashes db organization none (H.candidate (strip form.title) k) || _) = _
      rw [hfree, Bool.false_or]
      rfl
    simp only [helpStep, HelpTask.goTo, hrefuses]
    cases H.slugFits (H.candidate (strip form.title) k) <;> rfl
  rw [show k + 4 = 2 + ((k + 1) + 1) by omega, undisturbed_add, hchecked, undisturbed_add,
    hsearched, Nat.zero_add]
  exact hwritten

end Search

/-! ### Two searches at once -/

/-- Two requests for one address, which arrive together. -/
def twoSearches : Config (Table HelpArticle) HelpTask :=
  ⟨.empty, [writesPolicies 3 "No refunds.", writesPolicies 4 "No exchanges."]⟩

/-- The first is done before the second gets to its search. -/
def firstWins : List (Move HelpTask Empty) :=
  [.act 0, .act 1, .act 0, .act 1, .act 0, .act 0, .act 1, .act 1, .act 1, .act 1, .act 1, .act 1,
    .act 1]

/-- The search of the second request ends, although the first takes its address. -/
theorem save_answered_firstWins :
    ∃ t', ((helpDesk plainHelp fun _ => True).perform firstWins twoSearches).procs[1]? = some t' ∧
      t'.Answered := by
  have hrun : Run (helpDesk plainHelp fun _ => True).system twoSearches firstWins
      ((helpDesk plainHelp fun _ => True).perform firstWins twoSearches) :=
    Processes.run_perform
      ⟨⟨_, rfl, trivial⟩, ⟨_, rfl, trivial⟩, ⟨_, rfl, trivial⟩, ⟨_, rfl, trivial⟩,
        ⟨_, rfl, trivial⟩, ⟨_, rfl, trivial⟩, ⟨_, rfl, trivial⟩, ⟨_, rfl, trivial⟩,
        ⟨_, rfl, trivial⟩, ⟨_, rfl, trivial⟩, ⟨_, rfl, trivial⟩, ⟨_, rfl, trivial⟩,
        ⟨_, rfl, trivial⟩, trivial⟩
  have ht : twoSearches.procs[1]? = some (writesPolicies 4 "No exchanges.") := rfl
  exact save_answered hrun ht rfl (by decide)

/-- One more article of the same title. -/
def dogPolicies : HelpArticleForm :=
  ⟨" Policies ", "", "", .ok .policies, .ok .staff, "No dogs.", .ok 0, true⟩

/-- The third article with a title gets the third address. -/
theorem create_undisturbed_dogs :
    undisturbed plainHelp 6 (policiesWritten.shared, creation ⟨2, 12, 1, .manager⟩ 1 20 dogPolicies)
      = (insertArticle policiesWritten.shared 20
          ⟨0, 1, "Policies", "policies-3", "", "No dogs.", .policies, .staff, true, 0, some 12, 0, 0⟩,
        (creation ⟨2, 12, 1, .manager⟩ 1 20 dogPolicies).goTo
          (.answered (.success "Created “Policies”."))) := by
  have hmanager : Membership.canManageEvents ⟨2, 12, 1, .manager⟩ = true := rfl
  have hvalid : dogPolicies.errors plainHelp policiesWritten.shared 1 none = [] := by
    decide +kernel
  obtain ⟨k, hk, hfree, -, hrun⟩ := create_undisturbed 20 hmanager hvalid (by decide +kernel)
  have htwo : (slugsOf policiesWritten.shared 1).length = 2 := by decide +kernel
  rw [htwo] at hk
  interval_cases k
  · exact absurd hfree (by decide +kernel)
  · exact absurd hfree (by decide +kernel)
  · rw [hrun, if_pos (by rfl)]
    have hslug : plainHelp.candidate (strip dogPolicies.title) 2 = "policies-3" := by
      decide +kernel
    have htitle : strip dogPolicies.title = "Policies" := by decide +kernel
    have hwritten : dogPolicies.written plainHelp ⟨2, 12, 1, .manager⟩ 1 "policies-3"
        = ⟨0, 1, "Policies", "policies-3", "", "No dogs.", .policies, .staff, true, 0,
          some 12, 0, 0⟩ := by decide +kernel
    rw [hslug, htitle, hwritten]
    rfl

end BoxOffice

import BoxOffice.HelpCenter.Articles

namespace BoxOffice

open Relational Transition

/-!
# Help center — what is stored

Whatever requests interleave, no two articles of a theater share an address, and every stored
article is as its own form would have it (`articles_sound`).  So whoever opens an article and saves
it as it stands changes nothing but `updated_at` (`resubmit_unchanged`): neither does its own slug
count as a clash, nor is the slug, or any text, written differently than before.
-/

/-- A text is as its field cleans it. -/
structure CleanText (required : Bool) (max : Option Nat) (value : String) : Prop where
  strip : strip value = value
  some : required = true → value.toList.length ≠ 0
  length : ∀ n ∈ max, value.toList.length ≤ n
  null : Char.ofNat 0 ∉ value.toList

/-- The texts are as the form cleans them. -/
structure HelpArticle.Cleaned (a : HelpArticle) : Prop where
  title : CleanText true (some 200) a.title
  summary : CleanText false (some 280) a.summary
  body : CleanText true none a.body

/-- The slug is one. -/
structure IsAddress (slug : String) : Prop where
  text : Python.SlugText slug.toList
  some : slug ≠ ""

/-- No two articles of an organization share a slug, and every article is in order. -/
structure ArticlesSound (H : HelpSettings) (db : Table HelpArticle) : Prop where
  unique : IsUnique HelpArticle.address db
  cleaned : ∀ a ∈ db.rows, a.Cleaned
  addressed : ∀ a ∈ db.rows, IsAddress a.slug
  fits : ∀ a ∈ db.rows, H.slugFits a.slug = true

/-- The article a request has cleaned. -/
def HelpStage.draft : HelpStage → Option HelpArticle
  | .probing _ article _ => some article
  | .writing _ article => some article
  | .reinserting _ article => some article
  | _ => none

/-- The article as a request is about to write it. -/
def HelpStage.final : HelpStage → Option HelpArticle
  | .writing _ article => some article
  | .reinserting _ article => some article
  | _ => none

/-- What a request carries is in order. -/
structure HelpStage.Carries (stage : HelpStage) : Prop where
  cleaned : ∀ a, stage.draft = some a → a.Cleaned
  address : ∀ a, stage.final = some a → IsAddress a.slug

section Sound

variable {H : HelpSettings} {db db' : Table HelpArticle} {t : HelpTask} {a article : HelpArticle}
  {form : HelpArticleForm} {pk : Option Nat} {organization n : Nat} {field value slug : String}

/-! ### Addresses -/

/-- The default slug is one. -/
theorem article_slugText : Python.SlugText "article".toList := by
  have hself : Python.slugChars "article".toList = "article".toList := by decide
  rw [← hself]
  exact Python.slugChars_slugText _

/-- The base of the candidates is a slug. -/
theorem base_slugText (H : HelpSettings) (title : String) :
    Python.SlugText (H.base title).toList := by
  unfold HelpSettings.base
  split_ifs
  · exact article_slugText
  · exact Python.slugify_slugText H.toNormalization title

/-- The base is not empty. -/
theorem base_ne (H : HelpSettings) (title : String) : H.base title ≠ "" := by
  unfold HelpSettings.base
  split_ifs with h
  · decide
  · exact h

/-- A slug has characters. -/
theorem toList_ne_nil (h : slug ≠ "") : slug.toList ≠ [] :=
  fun hnil => h (String.toList_eq_nil_iff.mp hnil)

/-- Every address that is tried is one. -/
theorem candidate_isAddress (H : HelpSettings) (title : String) (n : Nat) :
    IsAddress (H.candidate title n) := by
  cases n with
  | zero => exact ⟨base_slugText H title, base_ne H title⟩
  | succ n =>
    exact ⟨(base_slugText H title).numbered (toList_ne_nil (base_ne H title)) (n + 2),
      Python.numbered_ne_empty _ _⟩

/-! ### The form -/

namespace HelpArticleForm

/-- A text field without errors cleans its text. -/
theorem textErrors_clean {required : Bool} {max : Option Nat}
    (h : textErrors field value required max = []) : CleanText required max (strip value) := by
  unfold textErrors at h
  dsimp only at h
  refine ⟨Python.strip_strip value, fun hrequired hnone => ?_, fun n hn => ?_, fun hnull => ?_⟩
  · rw [if_pos hnone, if_pos hrequired] at h
    cases h
  · by_contra hlong
    have hany : max.any (· < (strip value).toList.length) = true := by
      rw [Option.mem_def.mp hn]
      simpa using hlong
    rw [if_neg (by omega), List.append_eq_nil_iff, if_pos hany] at h
    cases h.1
  · rw [if_neg (List.length_pos_iff_exists_mem.mpr ⟨_, hnull⟩).ne', List.append_eq_nil_iff,
      if_pos hnull] at h
    cases h.2

/-- A form without errors fills an article in order. -/
theorem filled_cleaned (h : form.errors H db organization pk = []) (instance_ : HelpArticle) :
    (form.filled H organization instance_).Cleaned := by
  simp only [errors, List.append_eq_nil_iff] at h
  obtain ⟨⟨⟨⟨⟨⟨⟨htitle, -⟩, -⟩, hsummary⟩, -⟩, -⟩, hbody⟩, -⟩ := h
  exact ⟨textErrors_clean htitle, textErrors_clean hsummary, textErrors_clean hbody⟩

/-- A slug that is left of what was typed. -/
theorem cleanSlug_isAddress (h : form.cleanSlug H ≠ "") : IsAddress (form.cleanSlug H) := by
  refine ⟨?_, h⟩
  unfold cleanSlug at h ⊢
  split_ifs at h ⊢ with hblank
  · exact absurd rfl h
  · exact Python.slugify_slugText H.toNormalization _

end HelpArticleForm

/-! ### One statement -/

namespace HelpStage

/-- A stage that writes nothing carries nothing. -/
theorem Carries.nothing {stage : HelpStage} (hdraft : stage.draft = none)
    (hfinal : stage.final = none) : stage.Carries :=
  ⟨fun _ h => absurd (hdraft.symm.trans h) (by simp),
    fun _ h => absurd (hfinal.symm.trans h) (by simp)⟩

/-- A search carries a clean article. -/
theorem Carries.probing (h : article.Cleaned) : (HelpStage.probing pk article n).Carries :=
  ⟨fun _ ha => Option.some.inj ha ▸ h, fun _ ha => absurd ha (by simp [HelpStage.final])⟩

/-- A write carries a clean article with an address. -/
theorem Carries.writing (h : article.Cleaned) (haddress : IsAddress article.slug) :
    (HelpStage.writing pk article).Carries :=
  ⟨fun _ ha => Option.some.inj ha ▸ h, fun _ ha => Option.some.inj ha ▸ haddress⟩

/-- So does inserting a deleted one again. -/
theorem Carries.reinserting {k : Nat} (h : article.Cleaned) (haddress : IsAddress article.slug) :
    (HelpStage.reinserting k article).Carries :=
  ⟨fun _ ha => Option.some.inj ha ▸ h, fun _ ha => Option.some.inj ha ▸ haddress⟩

end HelpStage

/-- An article that is not refused fits, and its address is free. -/
theorem refuses_eq_false (h : refuses H db pk article = false) :
    clashes db article.organization pk article.slug = false ∧ H.slugFits article.slug = true := by
  simpa [refuses] using h

/-- What a request puts is clean, and has an address. -/
theorem HelpTask.puts_carries (hputs : t.puts = some (pk, article)) (ht : t.stage.Carries) :
    article.Cleaned ∧ IsAddress article.slug := by
  unfold HelpTask.puts at hputs
  split at hputs
  · rename_i hstage
    cases hputs
    exact ⟨ht.cleaned _ (by rw [hstage]; rfl), ht.address _ (by rw [hstage]; rfl)⟩
  · rename_i hstage
    cases hputs
    exact ⟨ht.cleaned _ (by rw [hstage]; rfl), ht.address _ (by rw [hstage]; rfl)⟩
  · cases hputs

/-- **A statement** of a request that carries what is in order leaves the table in order. -/
theorem HelpWrites.sound (h : HelpWrites H db t db') (hdb : ArticlesSound H db)
    (ht : t.stage.Carries) : ArticlesSound H db' := by
  cases h with
  | fewer hrows =>
    exact ⟨hdb.unique.mono hrows, fun a ha => hdb.cleaned a (hrows a ha),
      fun a ha => hdb.addressed a (hrows a ha), fun a ha => hdb.fits a (hrows a ha)⟩
  | put hputs hrefuses hpk hput =>
    obtain ⟨hclash, hfits⟩ := refuses_eq_false hrefuses
    obtain ⟨hcleaned, haddress⟩ := HelpTask.puts_carries hputs ht
    exact ⟨hdb.unique.puts hput hclash hpk,
      hput.forall hdb.cleaned ⟨hcleaned.title, hcleaned.summary, hcleaned.body⟩,
      hput.forall hdb.addressed haddress, hput.forall hdb.fits hfits⟩

/-- A load carries what it has read. -/
theorem HelpTask.load_carries (db : Table HelpArticle) (t : HelpTask) : (t.load db).Carries := by
  unfold HelpTask.load
  split
  · exact .nothing rfl rfl
  · split
    · exact .nothing rfl rfl
    · split <;> exact .nothing rfl rfl
    · split <;> exact .nothing rfl rfl

/-! What becomes of a form. -/

/-- A form with errors is answered with them. -/
theorem HelpTask.check_errors (h : form.errors H db t.organization pk ≠ []) :
    t.check H db pk a form = .answered (.formErrors (form.errors H db t.organization pk)) := by
  unfold HelpTask.check
  rw [if_pos h]

/-- A valid form without a slug leads to a search. -/
theorem HelpTask.check_blank (h : form.errors H db t.organization pk = [])
    (hslug : form.cleanSlug H = "") :
    t.check H db pk a form = .probing pk (form.filled H t.organization a) 0 := by
  unfold HelpTask.check
  rw [if_neg (not_not.mpr h)]
  exact if_pos hslug

/-- A valid form with a slug leads to its write. -/
theorem HelpTask.check_typed (h : form.errors H db t.organization pk = [])
    (hslug : form.cleanSlug H ≠ "") :
    t.check H db pk a form = .writing pk (form.filled H t.organization a) := by
  unfold HelpTask.check
  rw [if_neg (not_not.mpr h)]
  exact if_neg hslug

/-- A check carries what it has cleaned. -/
theorem HelpTask.check_carries (H : HelpSettings) (db : Table HelpArticle) (t : HelpTask)
    (pk : Option Nat) (a : HelpArticle) (form : HelpArticleForm) :
    (t.check H db pk a form).Carries := by
  by_cases herrors : form.errors H db t.organization pk = []
  · have hcleaned := HelpArticleForm.filled_cleaned herrors a
    by_cases hslug : form.cleanSlug H = ""
    · rw [HelpTask.check_blank herrors hslug]
      exact .probing hcleaned
    · rw [HelpTask.check_typed herrors hslug]
      exact .writing hcleaned (HelpArticleForm.cleanSlug_isAddress hslug)
  · rw [HelpTask.check_errors herrors]
    exact .nothing rfl rfl

/-- What a request carries stays in order. -/
theorem helpStep_carries (H : HelpSettings) (db : Table HelpArticle) (ht : t.stage.Carries) :
    (helpStep H db t).2.stage.Carries := by
  unfold helpStep
  split
  · exact t.load_carries db
  · dsimp only [HelpTask.goTo]
    exact t.check_carries H db _ _ _
  · rename_i pk article n hstage
    have hcleaned := ht.cleaned article (by rw [hstage]; rfl)
    dsimp only
    split_ifs
    · exact .probing hcleaned
    · exact .writing ⟨hcleaned.title, hcleaned.summary, hcleaned.body⟩ (candidate_isAddress H _ n)
  · split_ifs <;> exact .nothing rfl rfl
  · rename_i pk article hstage
    split_ifs
    · exact .reinserting (ht.cleaned article (by rw [hstage]; rfl))
        (ht.address article (by rw [hstage]; rfl))
    · exact .nothing rfl rfl
    · exact .nothing rfl rfl
  · split_ifs <;> exact .nothing rfl rfl
  · exact .nothing rfl rfl
  · exact ht

/-- No request invalidates what another one carries. -/
theorem helpDesk_sound (H : HelpSettings) :
    Interference (helpDesk H (ArticlesSound H)) (fun _ _ => True) (ArticlesSound H)
      fun _ t => t.stage.Carries where
  start _ t _ ht := by
    have hstage : t.stage = .arrived := ht
    rw [hstage]
    exact .nothing rfl rfl
  step db t hdb ht _ := ⟨(helpStep_writes H db t).sound hdb ht, helpStep_carries H db ht⟩
  stable _ _ _ _ _ _ hk := hk
  env _ e := e.elim
  envStable _ e := e.elim

/-- **What is stored.** Whatever requests interleave, no two articles of an organization share a
    slug, every slug is one, and every text is as the form cleans it. -/
theorem articles_sound {c : Config (Table HelpArticle) HelpTask}
    (h : Reachable (helpDesk H (ArticlesSound H)).system c) : ArticlesSound H c.shared :=
  ((helpDesk_sound H).reachable (fun _ h => h) h).1

/-- The one article with its address is the article itself. -/
theorem ArticlesSound.not_clashes (hdb : ArticlesSound H db) (ha : a ∈ db.rows) :
    clashes db a.organization (some a.id) a.slug = false :=
  taken_eq_false.mpr fun b hb hsame => by
    rw [hdb.unique b hb a ha hsame]
    rfl

/-! ### Saved as it stands -/

/-- The form of an article as it is shown. -/
def HelpArticle.asForm (a : HelpArticle) : HelpArticleForm where
  title := a.title
  slug := a.slug
  summary := a.summary
  category := .ok a.category
  visibility := .ok a.visibility
  body := a.body
  position := .ok a.position
  isPublished := a.isPublished

/-- A slug is neither stripped nor refused. -/
theorem strip_slug (h : Python.SlugText slug.toList) : strip slug = slug :=
  Python.strip_eq_self fun c hc => Python.isSlugChar_noSpace (h.chars c hc)

/-- A slug passes the field of the form. -/
theorem isSlugField_slug (h : Python.SlugText slug.toList) :
    HelpArticleForm.isSlugField slug = true := by
  refine List.all_eq_true.mpr fun c hc => ?_
  have hslug := h.chars c hc
  simp only [Python.isSlugChar, Char.isAlphanum, Char.isAlpha, Bool.or_eq_true] at hslug ⊢
  tauto

namespace HelpArticleForm

/-- A clean text passes its field. -/
theorem textErrors_eq_nil {required : Bool} {max : Option Nat} (h : CleanText required max value) :
    textErrors field value required max = [] := by
  have hlong : ¬max.any (· < value.toList.length) = true := by
    cases max with
    | none => exact Bool.false_ne_true
    | some n => simpa using h.length n rfl
  unfold textErrors
  dsimp only
  rw [h.strip, if_neg hlong, if_neg h.null]
  split_ifs with hnone hrequired
  · exact absurd hnone (h.some hrequired)
  · rfl
  · rfl

/-- What the slug field says to a slug. -/
theorem slugErrors_slug (h : Python.SlugText slug.toList) :
    slugErrors slug =
      if slug.toList.length ≤ 200 then []
      else [("slug",
        s!"Ensure this value has at most 200 characters (it has {slug.toList.length}).")] := by
  unfold slugErrors
  rw [strip_slug h, if_pos (isSlugField_slug h), List.nil_append]
  have hnull : Char.ofNat 0 ∉ slug.toList := fun hc => by
    have hslug := h.chars _ hc
    revert hslug
    decide
  by_cases hlen : slug.toList.length ≤ 200
  · rw [if_pos hlen]
    refine textErrors_eq_nil ⟨strip_slug h, fun h => absurd h Bool.false_ne_true, fun n hn => ?_,
      hnull⟩
    obtain rfl := Option.some.inj hn
    exact hlen
  · rw [if_neg hlen]
    unfold textErrors
    dsimp only
    rw [strip_slug h, if_neg (by omega), if_pos (by simpa using hlen), if_neg hnull]
    rfl

/-- An address comes back from the form as it was shown. -/
theorem asForm_cleanSlug (h : IsAddress a.slug) : a.asForm.cleanSlug H = a.slug := by
  show (if strip a.slug = "" then "" else H.slugify (strip a.slug)) = a.slug
  rw [strip_slug h.text, if_neg h.some, Python.slugify_eq_self H.toNormalization h.text]

/-- What the form says to an article as it stands. -/
theorem asForm_errors (hdb : ArticlesSound H db) (ha : a ∈ db.rows) :
    a.asForm.errors H db a.organization (some a.id) = slugErrors a.slug := by
  have hcleaned := hdb.cleaned a ha
  have htitle : textErrors "title" a.title true (some 200) = [] :=
    textErrors_eq_nil hcleaned.title
  have hsummary : textErrors "summary" a.summary false (some 280) = [] :=
    textErrors_eq_nil hcleaned.summary
  have hbody : textErrors "body" a.body true none = [] := textErrors_eq_nil hcleaned.body
  have hclash : clashes db a.organization (some a.id) a.slug = false := hdb.not_clashes ha
  have hnone : a.asForm.clashErrors H db a.organization (some a.id) = [] := by
    unfold clashErrors
    rw [asForm_cleanSlug (hdb.addressed a ha), hclash]
    exact if_neg fun h => absurd h.2.2 Bool.false_ne_true
  show textErrors "title" a.title true (some 200) ++ slugErrors a.slug ++
    a.asForm.clashErrors H db a.organization (some a.id) ++
    textErrors "summary" a.summary false (some 280) ++ [] ++ [] ++
    textErrors "body" a.body true none ++ [] = _
  rw [htitle, hsummary, hbody, hnone]
  simp only [List.append_nil, List.nil_append]

/-- The whole article comes back from the form as it was shown. -/
theorem asForm_filled (hdb : ArticlesSound H db) (ha : a ∈ db.rows) :
    a.asForm.filled H a.organization a = a := by
  have hcleaned := hdb.cleaned a ha
  unfold filled
  rw [asForm_cleanSlug (hdb.addressed a ha)]
  show ({ a with title := strip a.title, summary := strip a.summary, body := strip a.body } :
    HelpArticle) = a
  rw [hcleaned.title.strip, hcleaned.summary.strip, hcleaned.body.strip]

end HelpArticleForm

/-- The next statements of a request that nothing comes between. -/
def undisturbed (H : HelpSettings) : Nat → Table HelpArticle × HelpTask →
    Table HelpArticle × HelpTask
  | 0, p => p
  | k + 1, p => undisturbed H k (helpStep H p.1 p.2)

/-- A manager saves the form of an article as it is shown. -/
def resubmission (m : Membership) (now : Time) (a : HelpArticle) : HelpTask where
  user := m.user
  organization := a.organization
  membership := some m
  now := now
  request := .update a.id a.asForm
  stage := .arrived

/-- The table with another time in `updated_at` of one article. -/
def touchArticle (db : Table HelpArticle) (now : Time) (pk : Nat) : Table HelpArticle :=
  db.update (fun a => a.id == pk) fun a => { a with updatedAt := now }

/-- A manager's unaltered form is checked. -/
theorem resubmission_load {m : Membership} {now : Time} (hm : m.canManageEvents = true)
    (ha : a ∈ db.rows) : (resubmission m now a).load db = .checking (some a.id) a a.asForm := by
  have hgate : managerGate (resubmission m now a).membership = none := if_pos hm
  have hrequest : (resubmission m now a).request = .update a.id a.asForm := rfl
  have hget : db.get? a.id = some a := Table.get?_eq_some.mpr ⟨ha, rfl⟩
  have hload : loadArticle db (resubmission m now a).organization a.id = some a := by
    simp [loadArticle, resubmission, hget]
  unfold HelpTask.load
  simp only [hgate, hrequest, hload]

/-- Writing an article as it is. -/
theorem saveArticle_self (ha : a ∈ db.rows) (now : Time) :
    saveArticle db now a.id a = touchArticle db now a.id := by
  refine Table.update_congr fun b hb => ?_
  by_cases hid : (b.id == a.id) = true
  · rw [if_pos hid, if_pos hid, Table.eq_of_key_eq hb ha (beq_iff_eq.mp hid)]
  · rw [if_neg hid, if_neg hid]

/-- The write of an article as it is. -/
theorem write_self (hdb : ArticlesSound H db) (ha : a ∈ db.rows) (t : HelpTask) :
    helpStep H db (t.goTo (.writing (some a.id) a))
      = (touchArticle db t.now a.id, t.goTo (.answered (.success s!"Updated “{a.title}”."))) := by
  have hget : db.get? a.id = some a := Table.get?_eq_some.mpr ⟨ha, rfl⟩
  have hrefuses : refuses H db (some a.id) a = false := by
    rw [refuses, hdb.not_clashes ha, hdb.fits a ha]
    rfl
  have hsaved : savedMessage (some a.id) a.title = s!"Updated “{a.title}”." := if_neg (by simp)
  simp only [helpStep, HelpTask.goTo, hget, hrefuses, hsaved, saveArticle_self ha,
    Option.isNone_some, Bool.false_eq_true, if_false]

/-- **Saved as it stands.** A manager who saves an article as it is shown changes nothing but the
    time of its last change; where the slug is longer than the form takes, which only a derived one
    can be, the form is refused and nothing is changed at all. -/
theorem resubmit_unchanged {c : Config (Table HelpArticle) HelpTask}
    (h : Reachable (helpDesk H (ArticlesSound H)).system c) (ha : a ∈ c.shared.rows)
    {m : Membership} (hm : m.canManageEvents = true) (now : Time) :
    undisturbed H 3 (c.shared, resubmission m now a)
      = if a.slug.toList.length ≤ 200 then
          (touchArticle c.shared now a.id,
            (resubmission m now a).goTo (.answered (.success s!"Updated “{a.title}”.")))
        else
          (c.shared, (resubmission m now a).goTo (.answered (.formErrors
            [("slug", s!"Ensure this value has at most 200 characters (it has {
              a.slug.toList.length}).")]))) := by
  have hdb := ((helpDesk_sound H).reachable (fun _ h => h) h).1
  have herrors : a.asForm.errors H c.shared (resubmission m now a).organization (some a.id) = _ :=
    (HelpArticleForm.asForm_errors hdb ha).trans
      (HelpArticleForm.slugErrors_slug (hdb.addressed a ha).text)
  -- The form is loaded and checked before anything is written; there are the two outcomes of the
  -- check.
  have hfirst : helpStep H c.shared (resubmission m now a)
      = (c.shared, (resubmission m now a).goTo (.checking (some a.id) a a.asForm)) := by
    rw [← resubmission_load hm ha]
    rfl
  have hsecond (stage : HelpStage)
      (hcheck : (resubmission m now a).check H c.shared (some a.id) a a.asForm = stage) :
      helpStep H c.shared ((resubmission m now a).goTo (.checking (some a.id) a a.asForm))
        = (c.shared, (resubmission m now a).goTo stage) := by
    rw [← hcheck]
    rfl
  simp only [undisturbed, hfirst]
  split_ifs with hlen
  · rw [if_pos hlen] at herrors
    have hslug : a.asForm.cleanSlug H ≠ "" := by
      rw [HelpArticleForm.asForm_cleanSlug (hdb.addressed a ha)]
      exact (hdb.addressed a ha).some
    have hfilled : a.asForm.filled H (resubmission m now a).organization a = a :=
      HelpArticleForm.asForm_filled hdb ha
    have hcheck : (resubmission m now a).check H c.shared (some a.id) a a.asForm
        = .writing (some a.id) a := by
      rw [HelpTask.check_typed (t := resubmission m now a) herrors hslug, hfilled]
    rw [hsecond _ hcheck]
    exact write_self hdb ha _
  · rw [if_neg hlen] at herrors
    have hne : a.asForm.errors H c.shared (resubmission m now a).organization (some a.id) ≠ [] := by
      rw [herrors]
      exact List.cons_ne_nil _ _
    have hcheck := HelpTask.check_errors (t := resubmission m now a) (a := a) hne
    rw [herrors] at hcheck
    rw [hsecond _ hcheck]
    rfl

end Sound

/-! ### Two articles of one title -/

/-- No text needs to be normalized, and no column has a limit. -/
def plainHelp : HelpSettings where
  nfkd text := text
  ascii _ _ := rfl
  slugColumn := none

/-- Mia, who manages the theater, writes up its policies. -/
def writesPolicies (now : Time) (body : String) : HelpTask where
  user := 12
  organization := 1
  membership := some ⟨2, 12, 1, .manager⟩
  now := now
  request := .create ⟨"Policies", "", "", .ok .policies, .ok .public_, body, .ok 0, true⟩
  stage := .arrived

/-- Two requests overlap, so that the second finds its address taken when it writes; a third comes
    later. -/
def policiesWritten : Config (Table HelpArticle) HelpTask :=
  (helpDesk plainHelp (ArticlesSound plainHelp)).perform
    [.spawn (writesPolicies 3 "No refunds."), .spawn (writesPolicies 4 "No exchanges."),
      .act 0, .act 1, .act 0, .act 1, .act 0, .act 1, .act 0, .act 1,
      .spawn (writesPolicies 9 "No latecomers."), .act 2, .act 2, .act 2, .act 2, .act 2]
    ⟨.empty, []⟩

/-- The empty table is in order. -/
theorem articlesSound_empty (H : HelpSettings) : ArticlesSound H .empty :=
  ⟨by simp [IsUnique], by simp, by simp, by simp⟩

/-- The two policies are reachable. -/
theorem policiesWritten_reachable :
    Reachable (helpDesk plainHelp (ArticlesSound plainHelp)).system policiesWritten := by
  have hstart : Reachable (helpDesk plainHelp (ArticlesSound plainHelp)).system ⟨.empty, []⟩ :=
    .of_init ⟨articlesSound_empty plainHelp, rfl⟩
  refine Processes.reachable_perform hstart (fun t ht => ?_) fun _ e => e.elim
  have htask : ∃ now body, t = writesPolicies now body := by
    simp only [List.mem_cons, Move.spawn.injEq, reduceCtorEq, List.not_mem_nil, or_false,
      false_or] at ht
    rcases ht with rfl | rfl | rfl <;> exact ⟨_, _, rfl⟩
  obtain ⟨now, body, rfl⟩ := htask
  rfl

/-- Two articles with one title have different addresses. -/
theorem articles_sound_policies :
    policiesWritten.shared.rows.map (fun a => (a.id, a.slug))
      = [(1, "policies"), (2, "policies-2")] ∧ ArticlesSound plainHelp policiesWritten.shared :=
  ⟨by decide +kernel, articles_sound policiesWritten_reachable⟩

/-- The article that came second. -/
def latecomers : HelpArticle :=
  ⟨2, 1, "Policies", "policies-2", "", "No latecomers.", .policies, .public_, true, 0, some 12, 9, 9⟩

/-- The second of them is saved as it is shown. -/
theorem resubmit_unchanged_latecomers :
    undisturbed plainHelp 3
        (policiesWritten.shared, resubmission ⟨2, 12, 1, .manager⟩ 20 latecomers)
      = (touchArticle policiesWritten.shared 20 2,
          (resubmission ⟨2, 12, 1, .manager⟩ 20 latecomers).goTo
            (.answered (.success "Updated “Policies”."))) := by
  have hmem : latecomers ∈ policiesWritten.shared.rows := by decide +kernel
  exact resubmit_unchanged policiesWritten_reachable hmem rfl 20

end BoxOffice

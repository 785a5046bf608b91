import BoxOffice.Tenants.Served
import BoxOffice.Transition.Once

namespace BoxOffice

open Relational Transition

/-!
# Tenants — onboarded once

While organizations are only added, by any number of commands and forms at once (`onboarding`), of
the commands for one subdomain at most one creates it, the others find it, and a command fails only
over what no command can repair: columns that are too short, or a slug that another organization
has (`onboarded_once`).
-/

/-- Requests that add organizations. -/
def OnboardRequest.adds : OnboardRequest → Bool
  | .provision _ _ _ => true
  | .add _ => true
  | .change _ _ => false
  | .delete _ => false

/-- Organizations are added, and neither changed nor deleted. -/
def onboarding (S : RegistrySettings) (opening : Table Theater → Prop) :
    Processes (Table Theater) OnboardTask Empty :=
  { registry S opening with start := fun t => t.stage = .arrived ∧ t.request.adds = true }

/-- The row a command wants. -/
def wantedRow (S : RegistrySettings) (subdomain : String) (name contactEmail : Option String) :
    Theater :=
  provisionedRow S (Python.lower (strip subdomain)) name contactEmail

/-- A row has the subdomain. -/
def Taken (db : Table Theater) (subdomain : String) : Prop :=
  ∃ o ∈ db.rows, o.subdomain = subdomain

/-- Another organization has the slug. -/
def SlugElsewhere (db : Table Theater) (subdomain : String) : Prop :=
  ∃ o ∈ db.rows, o.slug = subdomain ∧ o.subdomain ≠ subdomain

/-- How far a command that wants a row has got. -/
inductive Commanded (S : RegistrySettings) (db : Table Theater) (row : Theater) :
    OnboardStage → Prop
  | arrived : Commanded S db row .arrived
  | creating : Commanded S db row (.creating row)
  | retrying : Taken db row.subdomain ∨ SlugElsewhere db row.subdomain →
      Commanded S db row (.retrying row)
  | created : Taken db row.subdomain → Commanded S db row (.answered (.created row.subdomain))
  | existing : Taken db row.subdomain → Commanded S db row (.answered (.existing row.subdomain))
  | refused {answer : OnboardAnswer} : ¬IsOnboarded S row.subdomain → answer.reports = none →
      Commanded S db row (.answered answer)
  | failed : S.fits row = false ∨ SlugElsewhere db row.subdomain →
      Commanded S db row (.answered .serverError)

/-- How far a form that adds an organization has got. -/
inductive Adding : OnboardStage → Prop
  | arrived : Adding .arrived
  | checking (loaded : Theater) (form : TheaterForm) : Adding (.checking none loaded form)
  | writing (row : Theater) : Adding (.writing none row)
  | answered {answer : OnboardAnswer} : answer.reports = none → Adding (.answered answer)

/-- Where a request that adds is. -/
structure Onboards (S : RegistrySettings) (db : Table Theater) (t : OnboardTask) : Prop where
  adds : t.request.adds = true
  command : ∀ subdomain name contactEmail, t.request = .provision subdomain name contactEmail →
    Commanded S db (wantedRow S subdomain name contactEmail) t.stage
  form : ∀ form, t.request = .add form → Adding t.stage

section Once

variable {S : RegistrySettings} {db db' : Table Theater} {t : OnboardTask} {row : Theater}
  {stage : OnboardStage} {subdomain : String}

/-! ### Rows stay -/

/-- A command is where it was when rows are added. -/
theorem Commanded.mono (h : Commanded S db row stage) (hrows : ∀ o ∈ db.rows, o ∈ db'.rows) :
    Commanded S db' row stage := by
  have htaken : Taken db row.subdomain → Taken db' row.subdomain :=
    fun ⟨o, ho, hsubdomain⟩ => ⟨o, hrows o ho, hsubdomain⟩
  have hslug : SlugElsewhere db row.subdomain → SlugElsewhere db' row.subdomain :=
    fun ⟨o, ho, hother⟩ => ⟨o, hrows o ho, hother⟩
  cases h with
  | arrived => exact .arrived
  | creating => exact .creating
  | retrying h => exact .retrying (h.imp htaken hslug)
  | created h => exact .created (htaken h)
  | existing h => exact .existing (htaken h)
  | refused h hnone => exact .refused h hnone
  | failed h => exact .failed (h.imp_right hslug)

/-- So is every request that adds. -/
theorem Onboards.mono (h : Onboards S db t) (hrows : ∀ o ∈ db.rows, o ∈ db'.rows) :
    Onboards S db' t :=
  ⟨h.adds, fun s n e hrequest => (h.command s n e hrequest).mono hrows, h.form⟩

/-- An insertion loses no organization. -/
theorem mem_insertTheater {o : Theater} (h : o ∈ db.rows) : o ∈ (insertTheater db row).rows :=
  Table.mem_insert_of_mem h

/-! ### Steps -/

/-- A conflict, for a row whose slug is its subdomain. -/
theorem taken_of_conflicts (hslug : row.slug = row.subdomain)
    (h : conflicts db none row = true) :
    Taken db row.subdomain ∨ SlugElsewhere db row.subdomain := by
  by_contra hfree
  rw [not_or] at hfree
  refine absurd h (Bool.eq_false_iff.mp (Bool.or_eq_false_iff.mpr ⟨?_, ?_⟩))
  · refine taken_eq_false.mpr fun o ho heq => absurd ?_ hfree.2
    exact ⟨o, ho, heq.trans hslug, fun hsame => hfree.1 ⟨o, ho, hsame⟩⟩
  · exact taken_eq_false.mpr fun o ho heq => absurd ⟨o, ho, heq⟩ hfree.1

/-- Looking for the subdomain again. -/
theorem found_commanded (hunique : IsUnique Theater.subdomain db) {missing : OnboardStage}
    (hmissing : ¬Taken db row.subdomain → Commanded S db row missing) :
    Commanded S db row (found (theatersAt db row.subdomain) missing) := by
  by_cases htaken : Taken db row.subdomain
  · obtain ⟨o, ho, hsubdomain⟩ := htaken
    have hone : theatersAt db row.subdomain = [o] := by
      rw [← hsubdomain]
      exact hunique.filter_eq ho
    rw [hone]
    show Commanded S db row (.answered (.existing o.subdomain))
    rw [hsubdomain]
    exact .existing ⟨o, ho, hsubdomain⟩
  · have hnone : theatersAt db row.subdomain = [] :=
      List.eq_nil_iff_forall_not_mem.mpr fun o ho => htaken ⟨o, mem_theatersAt.mp ho⟩
    rw [hnone]
    exact hmissing htaken

/-- The first statement of a command. -/
theorem beginProvision_commanded (hunique : IsUnique Theater.subdomain db)
    (name contactEmail : Option String) :
    Commanded S db (wantedRow S subdomain name contactEmail)
      (beginProvision S db subdomain name contactEmail) := by
  unfold beginProvision
  dsimp only
  split_ifs with hinvalid hreserved
  · exact .refused (fun h => hinvalid.elim h.some fun hne => hne h.slug.symm) rfl
  · exact .refused (fun h => h.free hreserved) rfl
  · have hfound : Commanded S db (wantedRow S subdomain name contactEmail)
        (found (theatersAt db (wantedRow S subdomain name contactEmail).subdomain)
          (.creating (wantedRow S subdomain name contactEmail))) :=
      found_commanded hunique fun _ => .creating
    exact hfound

/-- **A command** goes on, and keeps the rows. -/
theorem Commanded.step (h : Commanded S db row t.stage) (hdb : Registered db)
    (hslug : row.slug = row.subdomain)
    (hbegin : Commanded S db row (beginOnboard S db t.request)) :
    (∀ o ∈ db.rows, o ∈ (onboardStep S db t).1.rows) ∧
      Commanded S (onboardStep S db t).1 row (onboardStep S db t).2.stage := by
  generalize hstage : t.stage = stage at h
  cases h with
  | arrived =>
    simp only [onboardStep, hstage, OnboardTask.goTo]
    exact ⟨fun _ ho => ho, hbegin⟩
  | creating =>
    simp only [onboardStep, hstage, OnboardTask.goTo]
    split_ifs with hfits hconflicts
    · exact ⟨fun _ ho => ho, .failed (.inl hfits)⟩
    -- The insert was refused, so the subdomain stands in some row.
    · exact ⟨fun _ ho => ho, .retrying (taken_of_conflicts hslug hconflicts)⟩
    · exact ⟨fun _ ho => mem_insertTheater ho, .created ⟨_, (insertTheater_puts db row).mem, rfl⟩⟩
  | retrying hstood =>
    simp only [onboardStep, hstage, OnboardTask.goTo]
    -- It still does, as rows are kept: the second lookup finds it.
    exact ⟨fun _ ho => ho, found_commanded hdb.subdomains fun hfree =>
      .failed (.inr (hstood.resolve_left hfree))⟩
  | created h =>
    simp only [onboardStep, hstage]
    exact ⟨fun _ ho => ho, .created h⟩
  | existing h =>
    simp only [onboardStep, hstage]
    exact ⟨fun _ ho => ho, .existing h⟩
  | refused h hnone =>
    simp only [onboardStep, hstage]
    exact ⟨fun _ ho => ho, .refused h hnone⟩
  | failed h =>
    simp only [onboardStep, hstage]
    exact ⟨fun _ ho => ho, .failed h⟩

/-- **A form** goes on, and keeps the rows. -/
theorem Adding.step (S : RegistrySettings) (db : Table Theater) {form : TheaterForm}
    (h : Adding t.stage) (hrequest : t.request = .add form) :
    (∀ o ∈ db.rows, o ∈ (onboardStep S db t).1.rows) ∧ Adding (onboardStep S db t).2.stage := by
  generalize hstage : t.stage = stage at h
  cases h with
  | arrived =>
    simp only [onboardStep, hstage, OnboardTask.goTo, hrequest]
    exact ⟨fun _ ho => ho, .checking _ _⟩
  | checking loaded form =>
    simp only [onboardStep, hstage, OnboardTask.goTo]
    split_ifs
    · exact ⟨fun _ ho => ho, .writing _⟩
    · exact ⟨fun _ ho => ho, .answered rfl⟩
  | writing row =>
    simp only [onboardStep, hstage, OnboardTask.goTo]
    split_ifs
    · exact ⟨fun _ ho => ho, .answered rfl⟩
    · exact ⟨fun _ ho => mem_insertTheater ho, .answered rfl⟩
  | answered hnone =>
    simp only [onboardStep, hstage]
    exact ⟨fun _ ho => ho, .answered hnone⟩

/-- A step keeps the request. -/
theorem onboardStep_request (S : RegistrySettings) (db : Table Theater) (t : OnboardTask) :
    (onboardStep S db t).2.request = t.request := by
  unfold onboardStep
  split
  · rfl
  · split_ifs <;> rfl
  · rfl
  · split_ifs <;> rfl
  · split_ifs <;> rfl
  · split_ifs <;> rfl
  · split_ifs <;> rfl
  · rfl
  · rfl

/-- **A request that adds** goes on, and keeps the rows. -/
theorem Onboards.step (h : Onboards S db t) (hdb : Registered db) :
    (∀ o ∈ db.rows, o ∈ (onboardStep S db t).1.rows) ∧
      Onboards S (onboardStep S db t).1 (onboardStep S db t).2 := by
  have hsame := onboardStep_request S db t
  cases hrequest : t.request with
  | provision subdomain name contactEmail =>
    obtain ⟨hrows, hnext⟩ := (h.command _ _ _ hrequest).step hdb rfl (by
      rw [hrequest]
      exact beginProvision_commanded hdb.subdomains name contactEmail)
    refine ⟨hrows, ⟨hsame ▸ h.adds, fun s n e heq => ?_, fun form heq => ?_⟩⟩
    · rw [hsame, hrequest] at heq
      cases heq
      exact hnext
    · rw [hsame, hrequest] at heq
      cases heq
  | add form =>
    obtain ⟨hrows, hnext⟩ := (h.form form hrequest).step S db hrequest
    refine ⟨hrows, ⟨hsame ▸ h.adds, fun s n e heq => ?_, fun _ _ => hnext⟩⟩
    rw [hsame, hrequest] at heq
    cases heq
  | change pk form => exact absurd h.adds (by rw [hrequest]; exact Bool.false_ne_true)
  | delete pk => exact absurd h.adds (by rw [hrequest]; exact Bool.false_ne_true)

/-! ### Created once -/

/-- An answered request does nothing more. -/
theorem onboardStep_answered {answer : OnboardAnswer} (h : t.stage = .answered answer) :
    onboardStep S db t = (db, t) := by
  simp only [onboardStep, h]

/-- No request invalidates what another one relies on. -/
theorem onboarding_sound (S : RegistrySettings) :
    Interference (onboarding S Registered) (fun _ _ => True) Registered
      fun db t => t.stage.Carries S ∧ Onboards S db t where
  start _ t _ ht := by
    obtain ⟨hstage, hadds⟩ := ht
    refine ⟨by rw [hstage]; exact .nothing rfl rfl, hadds, fun _ _ _ _ => ?_, fun _ _ => ?_⟩
    · rw [hstage]
      exact .arrived
    · rw [hstage]
      exact .arrived
  step db t hdb ht _ :=
    ⟨(onboardStep_writes S db t).registered hdb ht.1, onboardStep_carries db ht.1,
      (ht.2.step hdb).2⟩
  stable _ _ _ hdb ht _ hk := ⟨hk.1, hk.2.mono (ht.2.step hdb).1⟩
  env _ e := e.elim
  envStable _ e := e.elim

/-- What was created is there. -/
theorem Onboards.taken (h : Onboards S db t) (hstage : t.stage = .answered (.created subdomain)) :
    Taken db subdomain := by
  cases hrequest : t.request with
  | provision sub name contactEmail =>
    have hran := h.command _ _ _ hrequest
    generalize wantedRow S sub name contactEmail = row at hran
    rw [hstage] at hran
    cases hran with
    | created h => exact h
    | refused h hnone => cases hnone
  | add form =>
    have hran := h.form form hrequest
    rw [hstage] at hran
    cases hran with
    | answered hnone => cases hnone
  | change pk form => exact absurd h.adds (by rw [hrequest]; exact Bool.false_ne_true)
  | delete pk => exact absurd h.adds (by rw [hrequest]; exact Bool.false_ne_true)

/-- No two requests have created one subdomain. -/
def CreatedOnce (c : Config (Table Theater) OnboardTask) : Prop :=
  ∀ (i j : Nat) (t u : OnboardTask) (subdomain : String),
    c.procs[i]? = some t → c.procs[j]? = some u →
    t.stage = .answered (.created subdomain) → u.stage = .answered (.created subdomain) → i = j

/-- What a request has created. -/
def OnboardTask.created (t : OnboardTask) : Option String :=
  match t.stage with
  | .answered (.created subdomain) => some subdomain
  | _ => none

/-- What a request has created. -/
theorem OnboardTask.created_eq_some :
    t.created = some subdomain ↔ t.stage = .answered (.created subdomain) := by
  unfold OnboardTask.created
  constructor
  · intro h
    split at h
    · rename_i hstage
      cases h
      exact hstage
    · cases h
  · intro h
    rw [h]

/-- **One step** creates nothing for the second time. -/
theorem onboardStep_created {u : OnboardTask} (ht : t.stage.Carries S) (hu : Onboards S db u)
    (hcreated : (onboardStep S db t).2.stage = .answered (.created subdomain))
    (hother : u.stage = .answered (.created subdomain)) :
    t.stage = .answered (.created subdomain) := by
  by_cases hdone : ∃ a, t.stage = .answered a
  · obtain ⟨a, ha⟩ := hdone
    rwa [onboardStep_answered ha] at hcreated
  · obtain ⟨-, _, -, -, hnew⟩ :=
      onboardStep_reports ht (fun a ha => hdone ⟨a, ha⟩) hcreated rfl
    obtain ⟨x, hx, hsame⟩ := hu.taken hother
    exact absurd hsame ((hnew rfl).2 x hx)

/-- **The invariant.** No two requests have created one subdomain. -/
theorem createdOnce {c : Config (Table Theater) OnboardTask}
    (h : Reachable (onboarding S Registered).system c) : CreatedOnce c := by
  have hmarked : MarkedOnce OnboardTask.created c := by
    refine (onboarding_sound S).markedOnce (fun _ h => h) (fun t ht => ?_) ?_ h
    · rw [OnboardTask.created, ht.1]
    · intro db t u subdomain _ ht hu hcreated hother
      rw [OnboardTask.created_eq_some] at hcreated hother ⊢
      exact onboardStep_created ht.1 hu.2 hcreated hother
  intro i j t u subdomain hi hj ht hu
  exact hmarked i j t u subdomain hi hj (OnboardTask.created_eq_some.mpr ht)
    (OnboardTask.created_eq_some.mpr hu)

/-- **Onboarded once.** While organizations are only added, at most one command creates a
    subdomain; and a command for a valid one that has been answered has created or found it, unless
    its row does not fit into the columns or its slug belongs to another organization. -/
theorem onboarded_once {c : Config (Table Theater) OnboardTask}
    (h : Reachable (onboarding S Registered).system c) :
    CreatedOnce c ∧
      ∀ t ∈ c.procs, ∀ subdomain name contactEmail answer,
        t.request = .provision subdomain name contactEmail →
        IsOnboarded S (Python.lower (strip subdomain)) → t.stage = .answered answer →
        answer.reports = some (Python.lower (strip subdomain)) ∧
            Taken c.shared (Python.lower (strip subdomain)) ∨
          answer = .serverError ∧ (S.fits (wantedRow S subdomain name contactEmail) = false ∨
            SlugElsewhere c.shared (Python.lower (strip subdomain))) := by
  refine ⟨createdOnce h, fun t ht subdomain name contactEmail answer hrequest hvalid hstage => ?_⟩
  obtain ⟨-, hprocs⟩ := (onboarding_sound S).reachable (fun _ h => h) h
  have hran := (hprocs t ht).2.command subdomain name contactEmail hrequest
  have hsubdomain : (wantedRow S subdomain name contactEmail).subdomain = Python.lower (strip subdomain) :=
    rfl
  rw [hstage] at hran
  rw [← hsubdomain] at hvalid ⊢
  generalize wantedRow S subdomain name contactEmail = row at hran hvalid
  cases hran with
  | created h => exact .inl ⟨rfl, h⟩
  | existing h => exact .inl ⟨rfl, h⟩
  | refused h hnone => exact absurd hvalid h
  | failed h => exact .inr ⟨rfl, h⟩

end Once

/-! ### One command, twice -/

/-- Two commands for one subdomain overlap, until both are answered. -/
def roxyRace : Config (Table Theater) OnboardTask :=
  (onboarding boxoShow Registered).perform
    [.spawn provisionRoxy, .spawn provisionRoxy, .act 0, .act 1, .act 1, .act 0, .act 0]
    ⟨.empty, []⟩

/-- The race for the subdomain is reachable. -/
theorem roxyRace_reachable : Reachable (onboarding boxoShow Registered).system roxyRace := by
  have hstart : Reachable (onboarding boxoShow Registered).system ⟨.empty, []⟩ :=
    .of_init ⟨registered_empty, rfl⟩
  refine Processes.reachable_perform hstart (fun t ht => ?_) fun _ e => e.elim
  simp only [List.mem_cons, Move.spawn.injEq, reduceCtorEq, List.not_mem_nil, or_false] at ht
  rcases ht with rfl | rfl <;> exact ⟨rfl, rfl⟩

/-- Two commands race for one subdomain, and one creates it. -/
theorem onboarded_once_race : CreatedOnce roxyRace ∧ Taken roxyRace.shared "roxy" := by
  obtain ⟨honce, hanswers⟩ := onboarded_once roxyRace_reachable
  have hlabel : Python.lower (strip " Roxy") = "roxy" := by decide +kernel
  have hvalid : IsOnboarded boxoShow (Python.lower (strip " Roxy")) := by
    rw [hlabel]
    exact ⟨by decide, by decide +kernel, by decide⟩
  have hmem : provisionRoxy.goTo (.answered (.existing "roxy")) ∈ roxyRace.procs := by
    decide +kernel
  have hanswer := hanswers _ hmem " Roxy" none none (.existing "roxy") rfl hvalid rfl
  rw [hlabel] at hanswer
  rcases hanswer with ⟨-, htaken⟩ | ⟨hfailed, -⟩
  · exact ⟨honce, htaken⟩
  · cases hfailed

end BoxOffice

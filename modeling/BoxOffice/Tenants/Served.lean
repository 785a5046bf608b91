import BoxOffice.Tenants.Onboarding

namespace BoxOffice

open Relational Transition

/-!
# Tenants — who is served

Whatever commands and forms interleave, slugs and subdomains are unique and subdomains are labels
(`theaters_registered`).  So a host belongs to one organization at most (`hosts_exact`), and what
`provision_tenant` reports is served there (`onboarded_served`) if its host is let through.  The
admin form takes capital letters, which no host has: links to such an organization lead to another
one, or to none (`links_exact`).  Both take underscores, with which no host is let through.
-/

/-- The unique constraints hold, and each subdomain is a label. -/
structure Registered (db : Table Theater) : Prop where
  slugs : IsUnique Theater.slug db
  subdomains : IsUnique Theater.subdomain db
  labels : ∀ o ∈ db.rows, IsLabel o.subdomain

/-- A subdomain as `provision_tenant` lets it through. -/
structure IsOnboarded (S : RegistrySettings) (subdomain : String) : Prop where
  some : subdomain ≠ ""
  slug : S.slugify subdomain = subdomain
  free : subdomain ∉ S.reservedSubdomains

/-- The row a request is about to write, and the key it was loaded under. -/
def OnboardStage.puts : OnboardStage → Option (Option Nat × Theater)
  | .creating row => some (none, row)
  | .writing pk row => some (pk, row)
  | .reinserting pk row => some (some pk, row)
  | _ => none

/-- The row the command wants. -/
def OnboardStage.wanted : OnboardStage → Option Theater
  | .creating row => some row
  | .retrying row => some row
  | _ => none

/-- What a request carries is in order. -/
structure OnboardStage.Carries (S : RegistrySettings) (stage : OnboardStage) : Prop where
  label : ∀ pk row, stage.puts = some (pk, row) → IsLabel row.subdomain
  wanted : ∀ row, stage.wanted = some row → IsOnboarded S row.subdomain ∧ row.isActive = true

section Served

variable {S : RegistrySettings} {db db' : Table Theater} {t : OnboardTask} {o row : Theater}
  {form : TheaterForm} {pk : Option Nat} {subdomain value : String}

/-! ### Subdomains -/

namespace IsOnboarded

/-- An onboarded subdomain is a slug. -/
theorem slugText (h : IsOnboarded S subdomain) : Python.SlugText subdomain.toList := by
  have hslug := Python.slugify_slugText S.toNormalization subdomain
  rwa [h.slug] at hslug

/-- It is in lower case. -/
theorem lower (h : IsOnboarded S subdomain) : BoxOffice.lower subdomain = subdomain := by
  rw [← String.toList_inj, lower_toList]
  exact (List.map_congr_left fun c hc => Python.isSlugChar_toLower (h.slugText.chars c hc)).trans
    (List.map_id _)

/-- It is a label. -/
theorem label (h : IsOnboarded S subdomain) : IsLabel subdomain where
  some := h.some
  chars c hc := by
    have hslug := h.slugText.chars c hc
    simp only [Python.isSlugChar, isLabelChar, Char.isAlphanum, Char.isAlpha,
      Bool.or_eq_true] at hslug ⊢
    tauto

end IsOnboarded

/-- A slug field without errors. -/
theorem label_of_errors {field : String} {limit : Nat} (h : labelErrors field value limit = []) :
    IsLabel (strip value) := by
  unfold labelErrors at h
  dsimp only at h
  by_cases hnone : (strip value).toList.length = 0
  · rw [if_pos hnone] at h
    cases h
  · rw [if_neg hnone, List.append_eq_nil_iff, List.append_eq_nil_iff] at h
    refine ⟨fun hempty => hnone (by rw [hempty]; rfl), List.all_eq_true.mp ?_⟩
    by_contra hchars
    have hrefused := h.1.1
    rw [if_neg hchars] at hrefused
    cases hrefused

/-- The admin form lets only labels through. -/
theorem TheaterForm.filled_label (h : form.errors db pk = []) (o : Theater) :
    IsLabel (form.filled o).subdomain := by
  have hfield := (List.append_eq_nil_iff.mp h).2
  unfold uniqueErrors at hfield
  split_ifs at hfield with herrors
  · exact absurd hfield herrors
  · exact label_of_errors (not_not.mp herrors)

/-! ### What a request carries -/

namespace OnboardStage

/-- A stage that puts and wants nothing carries nothing. -/
theorem Carries.nothing {stage : OnboardStage} (hputs : stage.puts = none)
    (hwanted : stage.wanted = none) : stage.Carries S :=
  ⟨fun _ _ h => absurd (hputs.symm.trans h) (by simp),
    fun _ h => absurd (hwanted.symm.trans h) (by simp)⟩

/-- A command that creates its row carries it. -/
theorem Carries.creating (h : IsOnboarded S row.subdomain) (hactive : row.isActive = true) :
    (OnboardStage.creating row).Carries S := by
  refine ⟨fun pk r hr => ?_, fun r hr => ?_⟩
  · cases hr
    exact h.label
  · cases hr
    exact ⟨h, hactive⟩

/-- So does one that tries again. -/
theorem Carries.retrying (h : IsOnboarded S row.subdomain) (hactive : row.isActive = true) :
    (OnboardStage.retrying row).Carries S := by
  refine ⟨fun _ _ hr => (by cases hr), fun r hr => ?_⟩
  cases hr
  exact ⟨h, hactive⟩

/-- A form that writes carries a label. -/
theorem Carries.writing (h : IsLabel row.subdomain) : (OnboardStage.writing pk row).Carries S := by
  refine ⟨fun _ r hr => ?_, fun _ hr => by cases hr⟩
  cases hr
  exact h

/-- So does one that inserts a deleted row again. -/
theorem Carries.reinserting {k : Nat} (h : IsLabel row.subdomain) :
    (OnboardStage.reinserting k row).Carries S := by
  refine ⟨fun _ r hr => ?_, fun _ hr => by cases hr⟩
  cases hr
  exact h

end OnboardStage

/-- A lookup carries what it leads to. -/
theorem found_carries {rows : List Theater} {missing : OnboardStage} (h : missing.Carries S) :
    (found rows missing).Carries S := by
  unfold found
  split
  · exact h
  · exact .nothing rfl rfl
  · exact .nothing rfl rfl

/-- The first statement carries what it has checked. -/
theorem beginOnboard_carries (S : RegistrySettings) (db : Table Theater)
    (request : OnboardRequest) : (beginOnboard S db request).Carries S := by
  unfold beginOnboard
  split
  · unfold beginProvision
    dsimp only
    split_ifs with hinvalid hreserved
    · exact .nothing rfl rfl
    · exact .nothing rfl rfl
    · rw [not_or, not_not] at hinvalid
      exact found_carries (.creating ⟨hinvalid.1, hinvalid.2.symm, hreserved⟩ rfl)
  · exact .nothing rfl rfl
  · split <;> exact .nothing rfl rfl
  · split <;> exact .nothing rfl rfl

/-- What a request carries stays in order. -/
theorem onboardStep_carries (db : Table Theater) (ht : t.stage.Carries S) :
    (onboardStep S db t).2.stage.Carries S := by
  unfold onboardStep
  split
  · exact beginOnboard_carries S db t.request
  · rename_i row hstage
    obtain ⟨honboarded, hactive⟩ := ht.wanted row (by rw [hstage]; rfl)
    split_ifs
    · exact .nothing rfl rfl
    · exact .retrying honboarded hactive
    · exact .nothing rfl rfl
  · exact found_carries (.nothing rfl rfl)
  · split_ifs with herrors
    · exact .writing (TheaterForm.filled_label herrors _)
    · exact .nothing rfl rfl
  · split_ifs <;> exact .nothing rfl rfl
  · rename_i pk row hstage
    split_ifs
    · exact .reinserting (ht.label _ row (by rw [hstage]; rfl))
    · exact .nothing rfl rfl
    · exact .nothing rfl rfl
  · split_ifs <;> exact .nothing rfl rfl
  · exact .nothing rfl rfl
  · exact ht

/-! ### Writes -/

/-- What one statement of a request can write. -/
inductive OnboardWrites (db : Table Theater) (t : OnboardTask) : Table Theater → Prop
  | fewer {db' : Table Theater} : (∀ o ∈ db'.rows, o ∈ db.rows) → OnboardWrites db t db'
  | put {db' : Table Theater} {pk : Option Nat} {row : Theater} {k : Nat} :
      t.stage.puts = some (pk, row) → conflicts db pk row = false → (∀ j ∈ pk, j = k) →
      Puts db { row with id := k } db' → OnboardWrites db t db'

/-- An insertion puts its row. -/
theorem insertTheater_puts (db : Table Theater) (row : Theater) :
    Puts db { row with id := db.nextId } (insertTheater db row) :=
  @puts_insert _ _ db (fun id => { row with id := id }) fun _ => rfl

/-- So does a save of a row that is there. -/
theorem saveTheater_puts {k : Nat} (h : (db.get? k).isNone = false) (row : Theater) :
    Puts db { row with id := k } (saveTheater db k row) := by
  obtain ⟨o, ho⟩ := Option.isSome_iff_exists.mp (Option.isNone_eq_false_iff.mp h)
  refine puts_update (fun a => beq_iff_eq) (fun a hkey => ?_)
    ⟨o, Table.get?_mem ho, Table.get?_key ho⟩
  have hid : a.id = k := hkey
  rw [hid]

/-- **A statement** removes rows, or puts one that nothing conflicts with. -/
theorem onboardStep_writes (S : RegistrySettings) (db : Table Theater) (t : OnboardTask) :
    OnboardWrites db t (onboardStep S db t).1 := by
  unfold onboardStep
  split
  · exact .fewer fun _ h => h
  · rename_i row hstage
    split_ifs with hfits hconflicts
    · exact .fewer fun _ h => h
    · exact .fewer fun _ h => h
    -- A row is put where the check for conflicts has found none.
    · exact .put (by rw [hstage]; rfl) (by simpa using hconflicts) (by simp)
        (insertTheater_puts db row)
  · exact .fewer fun _ h => h
  · split_ifs <;> exact .fewer fun _ h => h
  · rename_i row hstage
    split_ifs with hrefused
    · exact .fewer fun _ h => h
    · exact .put (by rw [hstage]; rfl) (by simpa using (not_or.mp hrefused).2) (by simp)
        (insertTheater_puts db row)
  · rename_i pk row hstage
    split_ifs with hgone hrefused
    · exact .fewer fun _ h => h
    · exact .fewer fun _ h => h
    · exact .put (by rw [hstage]; rfl) (by simpa using (not_or.mp hrefused).2)
        (fun j hj => (Option.some.inj hj).symm) (saveTheater_puts (Bool.eq_false_iff.mpr hgone) row)
  · rename_i pk row hstage
    split_ifs with hfree hrefused
    · exact .fewer fun _ h => h
    · exact .put (by rw [hstage]; rfl) (by simpa using (not_or.mp hrefused).2)
        (fun j hj => (Option.some.inj hj).symm) (puts_insertUnder (h := hfree))
    · exact .fewer fun _ h => h
  · exact .fewer fun o h => (Table.mem_delete.mp h).1
  · exact .fewer fun _ h => h

/-- **A statement** of a request that carries what is in order keeps the table in order. -/
theorem OnboardWrites.registered (h : OnboardWrites db t db') (hdb : Registered db)
    (ht : t.stage.Carries S) : Registered db' := by
  cases h with
  | fewer hrows =>
    exact ⟨hdb.slugs.mono hrows, hdb.subdomains.mono hrows, fun o ho => hdb.labels o (hrows o ho)⟩
  | @put pk row k hputs hconflicts hpk hput =>
    obtain ⟨hslug, hsubdomain⟩ := Bool.or_eq_false_iff.mp hconflicts
    exact ⟨hdb.slugs.puts hput hslug hpk, hdb.subdomains.puts hput hsubdomain hpk,
      hput.forall hdb.labels (ht.label pk row hputs)⟩

/-- No request invalidates what another one carries. -/
theorem registry_sound (S : RegistrySettings) :
    Interference (registry S Registered) (fun _ _ => True) Registered
      fun _ t => t.stage.Carries S where
  start _ t _ ht := by
    have hstage : t.stage = .arrived := ht
    rw [hstage]
    exact .nothing rfl rfl
  step db t hdb ht _ :=
    ⟨(onboardStep_writes S db t).registered hdb ht, onboardStep_carries db ht⟩
  stable _ _ _ _ _ _ hk := hk
  env _ e := e.elim
  envStable _ e := e.elim

/-- Whatever requests interleave, the table and what the requests carry are in order. -/
theorem theaters_registered {c : Config (Table Theater) OnboardTask}
    (h : Reachable (registry S Registered).system c) :
    Asserted Registered (fun _ t => t.stage.Carries S) c :=
  (registry_sound S).reachable (fun _ h => h) h

/-! ### Hosts -/

/-- **Hosts.** In every reachable state each host that is let through is answered by exactly the one
    organization that is active and whose subdomain, no reserved one, stands in front of the base
    domain. -/
theorem hosts_exact {c : Config (Table Theater) OnboardTask}
    (h : Reachable (registry S Registered).system c) (hlive : S.debug = false)
    (request : HostRequest) :
    resolve S.toHostSettings c.shared request ≠ .serverError ∧
      ∀ o, resolve S.toHostSettings c.shared request = .tenant o ↔
        S.admits request.host = true ∧
          o ∈ c.shared.rows ∧ o.isActive = true ∧ o.subdomain ∉ S.reservedSubdomains ∧
            hostName request.host = o.subdomain ++ "." ++ lower S.baseDomain := by
  obtain ⟨hdb, -⟩ := theaters_registered h
  exact ⟨resolve_ne_serverError hdb.subdomains request,
    fun o => resolve_eq_tenant hlive hdb.subdomains hdb.labels request⟩

/-- **Links.** In every reachable state a link to an organization, if its host is let through, is
    answered by the active one whose subdomain, no reserved one, is that of the first in lower case;
    with an underscore in the subdomain it is a bad request. -/
theorem links_exact {c : Config (Table Theater) OnboardTask}
    (h : Reachable (registry S Registered).system c) (hlive : S.debug = false)
    (hbase : ':' ∉ S.baseDomain.toList) {o : Theater} (ho : o ∈ c.shared.rows) {port : String}
    (hport : IsPort port) :
    (∀ o', resolve S.toHostSettings c.shared (.to (o.address S.toHostSettings ++ port)) = .tenant o' ↔
      S.admits (o.address S.toHostSettings ++ port) = true ∧
        o' ∈ c.shared.rows ∧ o'.isActive = true ∧ o'.subdomain ∉ S.reservedSubdomains ∧
          o'.subdomain = lower o.subdomain) ∧
      ('_' ∈ o.subdomain.toList →
        resolve S.toHostSettings c.shared (.to (o.address S.toHostSettings ++ port))
          = .badRequest) := by
  obtain ⟨hdb, -⟩ := theaters_registered h
  exact ⟨fun o' => resolve_address hlive hdb.subdomains hdb.labels hbase ho hport,
    resolve_underscore hlive⟩

/-! ### Onboarding -/

/-- The subdomain the command reports to be there. -/
def OnboardAnswer.reports : OnboardAnswer → Option String
  | .created subdomain => some subdomain
  | .existing subdomain => some subdomain
  | _ => none

/-- A lookup reports only what it has found. -/
theorem found_reports {missing : OnboardStage} {answer : OnboardAnswer}
    (h : found (theatersAt db value) missing = .answered answer)
    (hreports : answer.reports = some subdomain)
    (hmissing : ∀ a, missing = .answered a → a.reports = none) :
    subdomain = value ∧ (∃ o ∈ db.rows, o.subdomain = value) ∧ answer = .existing subdomain := by
  unfold found at h
  split at h
  · rw [hmissing answer h] at hreports
    cases hreports
  · rename_i o hrows
    obtain ⟨hmem, hsubdomain⟩ := mem_theatersAt.mp (hrows ▸ List.mem_singleton_self o)
    cases h
    cases hreports
    exact ⟨hsubdomain, ⟨o, hmem, hsubdomain⟩, rfl⟩
  · cases h
    cases hreports

/-- What the command finds at once. -/
theorem beginOnboard_reports {request : OnboardRequest} {answer : OnboardAnswer}
    (h : beginOnboard S db request = .answered answer)
    (hreports : answer.reports = some subdomain) :
    IsOnboarded S subdomain ∧ (∃ o ∈ db.rows, o.subdomain = subdomain) ∧
      answer = .existing subdomain := by
  unfold beginOnboard at h
  split at h
  · unfold beginProvision at h
    dsimp only at h
    split_ifs at h with hinvalid hreserved
    · cases h
      cases hreports
    · cases h
      cases hreports
    · rw [not_or, not_not] at hinvalid
      obtain ⟨rfl, hthere, hanswer⟩ := found_reports h hreports fun a ha => by cases ha
      exact ⟨⟨hinvalid.1, hinvalid.2.symm, hreserved⟩, hthere, hanswer⟩
  · cases h
  · split at h
    · cases h
      cases hreports
    · cases h
  · split at h
    · cases h
      cases hreports
    · cases h

/-- **What the command reports**, it has found, or created where there was none. -/
theorem onboardStep_reports {answer : OnboardAnswer} (ht : t.stage.Carries S)
    (hopen : ∀ a, t.stage ≠ .answered a) (hanswer : (onboardStep S db t).2.stage = .answered answer)
    (hreports : answer.reports = some subdomain) :
    IsOnboarded S subdomain ∧ ∃ o ∈ (onboardStep S db t).1.rows, o.subdomain = subdomain ∧
      (answer = .created subdomain →
        o.isActive = true ∧ ∀ x ∈ db.rows, x.subdomain ≠ subdomain) := by
  cases hstage : t.stage with
  | arrived =>
    simp only [onboardStep, hstage, OnboardTask.goTo] at hanswer ⊢
    obtain ⟨honboarded, ⟨o, ho, hsubdomain⟩, rfl⟩ := beginOnboard_reports hanswer hreports
    exact ⟨honboarded, o, ho, hsubdomain, fun h => by cases h⟩
  | creating row =>
    obtain ⟨honboarded, hactive⟩ := ht.wanted row (by rw [hstage]; rfl)
    simp only [onboardStep, hstage, OnboardTask.goTo] at hanswer ⊢
    split_ifs at hanswer ⊢ with hfits hconflicts
    · cases hanswer
      cases hreports
    · cases hanswer
      cases hreports
      -- It was inserted, so no row had that subdomain.
      have hfree := (Bool.or_eq_false_iff.mp (Bool.eq_false_iff.mpr hconflicts)).2
      refine ⟨honboarded, _, (insertTheater_puts db row).mem, rfl, fun _ => ⟨hactive, ?_⟩⟩
      intro x hx hsame
      cases taken_eq_false.mp hfree x hx hsame
  | retrying row =>
    obtain ⟨honboarded, -⟩ := ht.wanted row (by rw [hstage]; rfl)
    simp only [onboardStep, hstage, OnboardTask.goTo] at hanswer ⊢
    obtain ⟨rfl, ⟨o, ho, hsubdomain⟩, rfl⟩ :=
      found_reports hanswer hreports fun a ha => by cases ha; rfl
    exact ⟨honboarded, o, ho, hsubdomain, fun h => by cases h⟩
  -- The form of the back office reports nothing.
  | checking pk loaded form =>
    simp only [onboardStep, hstage, OnboardTask.goTo] at hanswer
    split_ifs at hanswer
    cases hanswer
    cases hreports
  | writing pk row =>
    cases pk with
    | none =>
      simp only [onboardStep, hstage, OnboardTask.goTo] at hanswer
      split_ifs at hanswer <;> cases hanswer <;> cases hreports
    | some pk =>
      simp only [onboardStep, hstage, OnboardTask.goTo] at hanswer
      split_ifs at hanswer <;> cases hanswer <;> cases hreports
  | reinserting pk row =>
    simp only [onboardStep, hstage, OnboardTask.goTo] at hanswer
    split_ifs at hanswer <;> cases hanswer <;> cases hreports
  | deleting row =>
    simp only [onboardStep, hstage, OnboardTask.goTo] at hanswer
    cases hanswer
    cases hreports
  | answered a => exact absurd hstage (hopen a)

/-- **Onboarding.** In every interleaving, at the moment `provision_tenant` reports a subdomain to
    be created or to exist, the organization with that subdomain answers at its address, on any
    port, if that is let through and the organization is active, which one just created is.  With
    an underscore in the subdomain the address is a bad request. -/
theorem onboarded_served {c : Config (Table Theater) OnboardTask}
    (h : Reachable (registry S Registered).system c) (hlive : S.debug = false)
    (hbase : ':' ∉ S.baseDomain.toList) {i : Nat} (hi : c.procs[i]? = some t)
    (hopen : ∀ a, t.stage ≠ .answered a) {answer : OnboardAnswer}
    (hanswer : (onboardStep S c.shared t).2.stage = .answered answer)
    (hreports : answer.reports = some subdomain) :
    ∃ o ∈ (onboardStep S c.shared t).1.rows, o.subdomain = subdomain ∧
      (answer = .created subdomain → o.isActive = true) ∧
      ∀ port, IsPort port →
        (resolve S.toHostSettings (onboardStep S c.shared t).1
          (.to (o.address S.toHostSettings ++ port)) = .tenant o ↔
            S.admits (o.address S.toHostSettings ++ port) = true ∧ o.isActive = true) ∧
        ('_' ∈ subdomain.toList →
          resolve S.toHostSettings (onboardStep S c.shared t).1
            (.to (o.address S.toHostSettings ++ port)) = .badRequest) := by
  obtain ⟨hdb, hprocs⟩ := theaters_registered h
  have hcarries := hprocs t (List.mem_of_getElem? hi)
  have hdb' := (onboardStep_writes S c.shared t).registered hdb hcarries
  obtain ⟨honboarded, o, ho, rfl, hactive⟩ := onboardStep_reports hcarries hopen hanswer hreports
  refine ⟨o, ho, rfl, fun hcreated => (hactive hcreated).1, fun port hport =>
    ⟨?_, resolve_underscore hlive⟩⟩
  rw [resolve_address hlive hdb'.subdomains hdb'.labels hbase ho hport]
  exact ⟨fun hserved => ⟨hserved.1, hserved.2.2.1⟩,
    fun ⟨hadmits, hon⟩ => ⟨hadmits, ho, hon, honboarded.free, honboarded.lower.symm⟩⟩

end Served

/-! ### Two theaters of one name -/

/-- What `get_host` lets through where `ALLOWED_HOSTS` is `.boxo.show`. -/
def boxoShowHost (host : String) : Bool :=
  host.toList.all (fun c => c.isAlphanum || c == '.' || c == '-' || c == ':') &&
    (hostName host == "boxo.show" || ".boxo.show".toList.isSuffixOf (hostName host).toList)

/-- The sample hosts have no underscore. -/
theorem boxoShowHost_plain (host : String) (h : boxoShowHost host = true) :
    '_' ∉ host.toList := by
  intro hmem
  have hchar := List.all_eq_true.mp (Bool.and_eq_true_iff.mp h).1 _ hmem
  revert hchar
  decide

/-- A live site, and a database without limits on its columns. -/
def boxoShow : RegistrySettings where
  debug := false
  baseDomain := "boxo.show"
  reservedSubdomains := ["www", "app", "admin", "beta"]
  admits := boxoShowHost
  plain := boxoShowHost_plain
  nfkd text := text
  ascii _ _ := rfl
  fits _ := true

/-- `provision_tenant Roxy`. -/
def provisionRoxy : OnboardTask := ⟨.provision " Roxy" none none, .arrived⟩

/-- A bar is added in the admin, in capital letters. -/
def addBar : OnboardTask :=
  ⟨.add ⟨"The Roxy Bar", "roxy-bar", "ROXY", "bar@boxo.show", "UTC", true⟩, .arrived⟩

/-- `provision_tenant my_roxy`. -/
def provisionMyRoxy : OnboardTask := ⟨.provision "my_roxy" none none, .arrived⟩

/-- The command runs twice at once, and the second one finds the subdomain taken when it writes.  A
    third one is about to create another theater. -/
def roxyTwice : Config (Table Theater) OnboardTask :=
  (registry boxoShow Registered).perform
    [.spawn provisionRoxy, .spawn provisionRoxy, .spawn addBar, .spawn provisionMyRoxy, .act 0,
      .act 1, .act 0, .act 1, .act 2, .act 2, .act 2, .act 3]
    ⟨.empty, []⟩

/-- The theater. -/
def roxy : Theater :=
  ⟨1, "Roxy", "roxy", "roxy", "boxoffice@roxy.boxo.show", "UTC", true⟩

/-- The bar. -/
def roxyBar : Theater := ⟨2, "The Roxy Bar", "roxy-bar", "ROXY", "bar@boxo.show", "UTC", true⟩

/-- The second command, which looks again. -/
def roxyRetrying : OnboardTask :=
  provisionRoxy.goTo (.retrying (provisionedRow boxoShow "roxy" none none))

/-- The third command, which has found nothing. -/
def myRoxyCreating : OnboardTask :=
  provisionMyRoxy.goTo (.creating (provisionedRow boxoShow "my_roxy" none none))

/-- The empty table is in order. -/
theorem registered_empty : Registered .empty := ⟨by simp [IsUnique], by simp [IsUnique], by simp⟩

/-- The two commands for one subdomain are reachable. -/
theorem roxyTwice_reachable : Reachable (registry boxoShow Registered).system roxyTwice := by
  have hstart : Reachable (registry boxoShow Registered).system ⟨.empty, []⟩ :=
    .of_init ⟨registered_empty, rfl⟩
  refine Processes.reachable_perform hstart (fun t ht => ?_) fun _ e => e.elim
  simp only [List.mem_cons, Move.spawn.injEq, reduceCtorEq, List.not_mem_nil, or_false] at ht
  rcases ht with rfl | rfl | rfl | rfl <;> rfl

/-- A host in any case, with a port. -/
theorem hosts_exact_roxy :
    resolve boxoShow.toHostSettings roxyTwice.shared (.to "Roxy.Boxo.Show:8000")
      = .tenant roxy := by
  have hmem : roxy ∈ roxyTwice.shared.rows := by decide +kernel
  have hname : hostName "Roxy.Boxo.Show:8000" = "roxy" ++ "." ++ lower "boxo.show" := by
    decide +kernel
  exact ((hosts_exact roxyTwice_reachable rfl _).2 roxy).mpr
    ⟨by decide +kernel, hmem, rfl, by decide, hname⟩

/-- Links to the bar lead to the theater. -/
theorem links_exact_bar :
    resolve boxoShow.toHostSettings roxyTwice.shared
      (.to (roxyBar.address boxoShow.toHostSettings ++ "")) = .tenant roxy := by
  have hbar : roxyBar ∈ roxyTwice.shared.rows := by decide +kernel
  have hmem : roxy ∈ roxyTwice.shared.rows := by decide +kernel
  exact ((links_exact roxyTwice_reachable rfl (by decide +kernel) hbar (by simp [IsPort])).1
    roxy).mpr ⟨by decide +kernel, hmem, rfl, by decide, by decide +kernel⟩

/-- The second command reports what the first one has created, and is right about it.  The third one
    reports a theater that nobody reaches. -/
theorem onboarded_served_twice :
    (∃ o ∈ roxyTwice.shared.rows, o.subdomain = "roxy" ∧
      resolve boxoShow.toHostSettings roxyTwice.shared
        (.to (o.address boxoShow.toHostSettings ++ ":8000")) = .tenant o) ∧
    ∃ o ∈ (onboardStep boxoShow roxyTwice.shared myRoxyCreating).1.rows,
      o.subdomain = "my_roxy" ∧ o.isActive = true ∧
        resolve boxoShow.toHostSettings (onboardStep boxoShow roxyTwice.shared myRoxyCreating).1
          (.to (o.address boxoShow.toHostSettings ++ "")) = .badRequest := by
  constructor
  · have ht : roxyTwice.procs[1]? = some roxyRetrying := by decide +kernel
    have hanswer : (onboardStep boxoShow roxyTwice.shared roxyRetrying).2.stage
        = .answered (.existing "roxy") := by decide +kernel
    obtain ⟨o, ho, hsubdomain, -, hserved⟩ := onboarded_served roxyTwice_reachable rfl
      (by decide +kernel) ht (fun a h => by cases h) hanswer rfl
    have hone : ∀ x ∈ roxyTwice.shared.rows, x.subdomain = "roxy" → x = roxy := by decide +kernel
    obtain rfl := hone o ho hsubdomain
    exact ⟨roxy, ho, rfl, (hserved ":8000" (by simp [IsPort])).1.mpr ⟨by decide +kernel, rfl⟩⟩
  · have ht : roxyTwice.procs[3]? = some myRoxyCreating := by decide +kernel
    have hanswer : (onboardStep boxoShow roxyTwice.shared myRoxyCreating).2.stage
        = .answered (.created "my_roxy") := by decide +kernel
    obtain ⟨o, ho, hsubdomain, hactive, hserved⟩ := onboarded_served roxyTwice_reachable rfl
      (by decide +kernel) ht (fun a h => by cases h) hanswer rfl
    exact ⟨o, ho, hsubdomain, hactive rfl, (hserved "" (by simp [IsPort])).2 (by decide)⟩

end BoxOffice

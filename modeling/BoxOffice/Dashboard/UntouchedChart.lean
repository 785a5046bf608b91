import BoxOffice.Dashboard.UntouchedSave

namespace BoxOffice

open Relational Numeric

/-!
# Dashboard — saving an untouched chart

The loop over the payload: one turn changes one section at most (`saveEntries_cons`), so a section
is what its own turn makes of it.

* `saveEntries_generated` — every section that the request reports as saved is generated;
* `saveEntries_untouched` — an untouched section that is editable and generated is kept, whatever
  happens to the others.
-/

/-- What the response reports. -/
def SaveResponse.errors : SaveResponse → List (String × String)
  | .json _ errors => errors
  | .serverError _ => []

/-! ### One turn -/

section Loop

variable {trig : Trig} {db : Db} {sections : List Section} {saved : List Nat}
  {errors : List (String × String)} {s : Section}

/-- What one turn does to the database, the objects in memory and the answer so far. -/
structure EntryStep (trig : Trig) (db : Db) (sections : List Section) (saved : List Nat)
    (errors : List (String × String)) (e : String × Nat × SectionEntry) (db₁ : Db)
    (sections₁ : List Section) (saved₁ : List Nat) (errors₁ : List (String × String)) : Prop where
  rows : ∀ t, t ≠ e.2.1 → db₁.sections.get? t = db.sections.get? t
  seats : ∀ t, t ≠ e.2.1 → seatsOf db₁ t = seatsOf db t
  memory : ∀ t, t ≠ e.2.1 → sections₁.find? (·.id == t) = sections.find? (·.id == t)
  errors : ∀ x ∈ errors₁, x ∈ errors ∨ x.1 = e.1
  saved : (saved₁ = saved ∧ db₁ = db) ∨ (saved₁ = saved ++ [e.2.1] ∧
    ∃ s, db₁.sections.get? e.2.1 = some s ∧ Generated trig db₁ s)

/-- Setting the parameters of one object leaves the others alone. -/
theorem find?_setParams {f : SectionParams → SectionParams} {i t : Nat} (ht : t ≠ i) :
    (setParams sections i f).find? (·.id == t) = sections.find? (·.id == t) := by
  unfold setParams
  rw [List.find?_map]
  have hid : ((fun x : Section => x.id == t) ∘
      fun s => if s.id = i then { s with params := f s.params } else s) = (·.id == t) := by
    funext x
    dsimp only [Function.comp]
    split_ifs <;> rfl
  rw [hid]
  cases hx : sections.find? (·.id == t) with
  | none => rfl
  | some x =>
    have hxt : x.id = t := by simpa using List.find?_some hx
    rw [Option.map_some, if_neg (hxt.trans_ne ht)]

/-- **One turn** ends the request with a server error, or changes one section at most. -/
theorem saveEntries_cons (e : String × Nat × SectionEntry)
    (rest : List (String × Nat × SectionEntry)) :
    (∃ err, saveEntries trig db sections saved errors (e :: rest) = (db, .serverError err)) ∨
      ∃ db₁ sections₁ saved₁ errors₁,
        saveEntries trig db sections saved errors (e :: rest)
          = saveEntries trig db₁ sections₁ saved₁ errors₁ rest ∧
        EntryStep trig db sections saved errors e db₁ sections₁ saved₁ errors₁ := by
  obtain ⟨key, i, entry⟩ := e
  have hskip : EntryStep trig db sections saved errors (key, i, entry) db sections saved errors :=
    ⟨fun _ _ => rfl, fun _ _ => rfl, fun _ _ => rfl, fun _ hx => .inl hx, .inl ⟨rfl, rfl⟩⟩
  -- A refused entry changes the sections in memory, and none in the database.
  have hrefused : ∀ (f : SectionParams → SectionParams) (m : String),
      EntryStep trig db sections saved errors (key, i, entry) db (setParams sections i f) saved
        (errors ++ [(key, m)]) := fun f m =>
    ⟨fun _ _ => rfl, fun _ _ => rfl, fun _ ht => find?_setParams ht, fun x hx => by
      rcases List.mem_append.mp hx with hx | hx
      · exact .inl hx
      · exact .inr (congrArg Prod.fst (List.mem_singleton.mp hx)), .inl ⟨rfl, rfl⟩⟩
  cases hfind : sections.find? (·.id == i) with
  | none =>
    refine .inr ⟨_, _, _, _, ?_, hskip⟩
    simp only [saveEntries, hfind]
  | some s =>
    have hid : s.id = i := by simpa using List.find?_some hfind
    cases entry with
    | notAnObject =>
      refine .inr ⟨_, _, _, _, ?_, hskip⟩
      simp only [saveEntries, hfind]
    | invalid before =>
      refine .inr ⟨_, _, _, _, ?_, hrefused before.apply "Invalid layout parameter value."⟩
      simp only [saveEntries, hfind]
    | layout input removed accessible =>
      cases hsave : saveSection trig db { s with params := input.apply s.params } removed
          accessible with
      | ok db₁ =>
        refine .inr ⟨db₁, setParams sections i input.apply, saved ++ [i], errors, ?_, ?_⟩
        · simp only [saveEntries, hfind, hsave]
        · have hframe : ∀ t, t ≠ i → _ := fun t ht => saveSection_frame hsave (hid ▸ ht)
          refine ⟨fun t ht => (hframe t ht).1, fun t ht => (hframe t ht).2,
            fun _ ht => find?_setParams ht, fun _ hx => .inl hx, .inr ⟨rfl, ?_⟩⟩
          obtain ⟨s', hs', hgenerated⟩ := saveSection_generated hsave
          exact ⟨s', hid ▸ hs', hgenerated⟩
      | error err =>
        -- Only an error that the view expects lets the loop go on.
        by_cases hgen : err.isSeatGenerationError
        · refine .inr ⟨_, _, _, _, ?_, hrefused input.apply err.message⟩
          simp only [saveEntries, hfind, hsave, if_pos hgen]
        · refine .inl ⟨err, ?_⟩
          simp only [saveEntries, hfind, hsave, hgen]
          rfl

/-! ### The loop -/

/-- **Frame.** A section that the payload does not name keeps its row and its seats, and no error
    has its key. -/
theorem saveEntries_frame {t : Nat} (es : List (String × Nat × SectionEntry))
    (hkeys : ∀ e ∈ es, e.1 = toString e.2.1) (ht : ∀ e ∈ es, t ≠ e.2.1)
    (herrors : ∀ x ∈ errors, x.1 ≠ toString t) :
    (saveEntries trig db sections saved errors es).1.sections.get? t = db.sections.get? t ∧
      seatsOf (saveEntries trig db sections saved errors es).1 t = seatsOf db t ∧
      ∀ x ∈ (saveEntries trig db sections saved errors es).2.errors, x.1 ≠ toString t := by
  induction es generalizing db sections saved errors with
  | nil => exact ⟨rfl, rfl, herrors⟩
  | cons e rest ih =>
    have hte := ht e (List.mem_cons_self ..)
    rcases (@saveEntries_cons trig db sections saved errors) e rest
      with ⟨err, h⟩ | ⟨db₁, sections₁, saved₁, errors₁, h, hstep⟩
    · rw [h]
      exact ⟨rfl, rfl, fun x hx => by cases hx⟩
    · rw [h, ← hstep.rows t hte, ← hstep.seats t hte]
      refine ih (fun x hx => hkeys x (List.mem_cons_of_mem _ hx))
        (fun x hx => ht x (List.mem_cons_of_mem _ hx)) fun x hx => ?_
      rcases hstep.errors x hx with hx | hx
      · exact herrors x hx
      · rw [hx, hkeys e (List.mem_cons_self ..)]
        exact fun h => hte (toString_injective h).symm

/-- What the loop reports as saved is generated. -/
theorem saveEntries_generated (es : List (String × Nat × SectionEntry)) {db' : Db}
    {saved' : List Nat} {errors' : List (String × String)}
    (hsaved : ∀ t ∈ saved, ∃ s, db.sections.get? t = some s ∧ Generated trig db s)
    (h : saveEntries trig db sections saved errors es = (db', .json saved' errors')) :
    ∀ t ∈ saved', ∃ s, db'.sections.get? t = some s ∧ Generated trig db' s := by
  induction es generalizing db sections saved errors with
  | nil =>
    rw [saveEntries] at h
    cases h
    exact hsaved
  | cons e rest ih =>
    rcases (@saveEntries_cons trig db sections saved errors) e rest
      with ⟨err, h'⟩ | ⟨db₁, sections₁, saved₁, errors₁, h', hstep⟩
    · rw [h'] at h
      cases h
    · refine ih (fun t ht => ?_) (h'.symm.trans h)
      rcases hstep.saved with ⟨rfl, rfl⟩ | ⟨rfl, hnew⟩
      · exact hsaved t ht
      · by_cases hte : t = e.2.1
        · rw [hte]
          exact hnew
        · rcases List.mem_append.mp ht with ht | ht
          · obtain ⟨s, hs, hgenerated⟩ := hsaved t ht
            refine ⟨s, (hstep.rows t hte).trans hs, ?_⟩
            have hid : s.id = t := Table.get?_key hs
            unfold Generated StoredAs at hgenerated ⊢
            rw [hid] at hgenerated ⊢
            rwa [hstep.seats t hte]
          · exact absurd (List.mem_singleton.mp ht) hte

/-- The turn of an untouched section that is editable and generated. -/
theorem saveEntries_untouched_head (hs : db.sections.get? s.id = some s)
    (hmemory : sections.find? (·.id == s.id) = some s)
    (hgood : s.params.Editable ∧ Generated trig db s) (rest : List (String × Nat × SectionEntry)) :
    ∃ db₁ sections₁, Kept db db₁ s ∧
      saveEntries trig db sections saved errors ((makeSection s).entry :: rest)
        = saveEntries trig db₁ sections₁ (saved ++ [s.id]) errors rest := by
  obtain ⟨db₁, hsave, hkept⟩ := (saveSection_untouched hs).mpr hgood
  refine ⟨db₁, setParams sections s.id (makeSection s).layout.apply, hkept, ?_⟩
  unfold saveUntouched at hsave
  rw [← editorEntry_apply] at hsave
  unfold EditorSection.entry
  have hsave' : saveSection trig db { s with params := (makeSection s).layout.apply s.params }
      (cleanIdentityPairs ((makeSection s).removedIds.map splitKey))
      (cleanIdentityPairs ((makeSection s).accessibleIds.map splitKey)) = .ok db₁ := hsave
  have hid : (makeSection s).id = s.id := rfl
  simp only [saveEntries, hid, hmemory, hsave']

/-- A section whose row and seats are the same is kept. -/
theorem kept_of_eq {db' : Db} (hrow : db'.sections.get? s.id = some s)
    (hseats : seatsOf db' s.id = seatsOf db s.id) : Kept db db' s :=
  ⟨⟨s, hrow, rfl, fun _ => Iff.rfl, fun _ => Iff.rfl⟩, by rw [hseats]⟩

/-- **The page.** Whatever the other sections of the payload do, an untouched section that is
    editable and generated is kept, and no error names it. -/
theorem saveEntries_untouched (es : List (String × Nat × SectionEntry))
    (hkeys : ∀ e ∈ es, e.1 = toString e.2.1) (hnodup : (es.map (·.2.1)).Nodup)
    (hown : ∀ e ∈ es, e.2.1 = s.id → e = (makeSection s).entry)
    (hs : db.sections.get? s.id = some s) (hmemory : sections.find? (·.id == s.id) = some s)
    (hgood : s.params.Editable ∧ Generated trig db s)
    (herrors : ∀ x ∈ errors, x.1 ≠ toString s.id) :
    Kept db (saveEntries trig db sections saved errors es).1 s ∧
      ∀ x ∈ (saveEntries trig db sections saved errors es).2.errors, x.1 ≠ toString s.id := by
  induction es generalizing db sections saved errors with
  | nil => exact ⟨kept_of_eq hs rfl, herrors⟩
  | cons e rest ih =>
    obtain ⟨hnot, hrest⟩ := List.nodup_cons.mp hnodup
    have hkeys' : ∀ x ∈ rest, x.1 = toString x.2.1 := fun x hx =>
      hkeys x (List.mem_cons_of_mem _ hx)
    by_cases hid : e.2.1 = s.id
    · -- Its own turn; the rest of the payload does not name it.
      rw [hown e (List.mem_cons_self ..) hid]
      obtain ⟨db₁, sections₁, hkept, hrun⟩ :=
        (@saveEntries_untouched_head _ _ _ saved errors) hs hmemory hgood rest
      rw [hrun]
      obtain ⟨hrow, hseats, hx⟩ := (@saveEntries_frame trig db₁ sections₁ (saved ++ [s.id]) _ s.id)
        rest hkeys' (fun x hx hsx =>
          hnot (List.mem_map.mpr ⟨x, hx, hsx.symm.trans hid.symm⟩)) herrors
      obtain ⟨⟨s', hs', hsame⟩, hperm⟩ := hkept
      exact ⟨⟨⟨s', hrow.trans hs', hsame⟩, by rwa [hseats]⟩, hx⟩
    -- Another entry leaves its row, its seats and its object in memory.
    · have hne : s.id ≠ e.2.1 := Ne.symm hid
      rcases (@saveEntries_cons trig db sections saved errors) e rest
        with ⟨err, h⟩ | ⟨db₁, sections₁, saved₁, errors₁, h, hstep⟩
      · rw [h]
        exact ⟨kept_of_eq hs rfl, fun x hx => by cases hx⟩
      · have hseats := hstep.seats s.id hne
        have hgood' : s.params.Editable ∧ Generated trig db₁ s := by
          refine ⟨hgood.1, ?_⟩
          have := hgood.2
          unfold Generated StoredAs at this ⊢
          rwa [hseats]
        rw [h]
        have hrun := @ih _ _ saved₁ errors₁ hkeys' hrest
          (fun x hx => hown x (List.mem_cons_of_mem _ hx)) ((hstep.rows s.id hne).trans hs)
          ((hstep.memory s.id hne).trans hmemory) hgood' (fun x hx => by
            rcases hstep.errors x hx with hx | hx
            · exact herrors x hx
            · rw [hx, hkeys e (List.mem_cons_self ..)]
              exact fun h => hid (toString_injective h))
        obtain ⟨⟨hrow, hperm⟩, hx⟩ := hrun
        rw [hseats] at hperm
        exact ⟨⟨hrow, hperm⟩, hx⟩

end Loop

end BoxOffice

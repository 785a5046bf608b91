import BoxOffice.Dashboard.SectionSaves
import BoxOffice.Loops.Turns

namespace BoxOffice

open Relational Python

/-!
# Dashboard — one turn of the editor's save

An entry as the loop meets it, with the section that is in memory, against the same entry in a
request of its own, which reads the section from the database.

* `entryOutcome` — what an entry does to a section; `saveTurn_eq` — a turn is that;
* `EntryFree` — the entry comes to the same on two versions of its section, and raises on neither;
  `entryOutcome_alike_iff`;
* `Mirrored` — the sections in memory are those stored, but for their parameters.
-/

namespace OnFloats

section Entry

variable {F : Type} {py : Builtins F}

/-! ### Parameters -/

/-- What fails to convert does so whatever the section was. -/
theorem setFields_error (raw : List (String × Json F)) (fields : List (EditorField F))
    (p q : SectionParams F) : (setFields raw fields p).2 = (setFields raw fields q).2 := by
  induction fields generalizing p q with
  | nil => rfl
  | cons field rest ih =>
    unfold setFields
    cases raw.lookup field.name with
    | none => exact ih p q
    | some v =>
      dsimp only
      cases field.read v with
      | error e => rfl
      | ok set => exact ih (set p) (set q)

variable {cols : Columns py} {db db' : Db} {row : Section} {p q : SectionParams F}
  {removed accessible : List SeatIdentity}

/-- A section is saved from the parameters that are stored. -/
theorem saveSection_savedParams :
    saveSection cols db ⟨row, savedParams p removed accessible⟩ removed accessible
      = saveSection cols db ⟨row, p⟩ removed accessible := rfl

/-- A save depends only on the parameters it saves. -/
theorem saveSection_congr (h : savedParams p removed accessible = savedParams q removed accessible) :
    saveSection cols db ⟨row, p⟩ removed accessible
      = saveSection cols db ⟨row, q⟩ removed accessible := by
  rw [← saveSection_savedParams, h, saveSection_savedParams]

/-! ### One entry -/

/-- The overrides of an entry. -/
def removedIn (py : Builtins F) (raw : List (String × Json F)) : List SeatIdentity :=
  cleanIdentityPairs py (getKey raw "removed")

def accessibleIn (py : Builtins F) (raw : List (String × Json F)) : List SeatIdentity :=
  cleanIdentityPairs py (getKey raw "accessible")

/-- What an entry comes to: the parameters in memory, the database, and what it adds to the
    answer. -/
structure EntryResult (F : Type) where
  params : SectionParams F
  db : Db
  saved : List Nat
  errors : List (String × String)

variable (cols)

/-- An entry of the payload, on a section. -/
def entryOutcome (db : Db) (section_ : SectionObject F) (key : String)
    (raw : List (String × Json F)) : Except Failure (EntryResult F) :=
  match setFields raw (sectionParamFields py) section_.params with
  | (p, some error) =>
    if error.Conversion then .ok ⟨p, db, [], [(key, "Invalid layout parameter value.")]⟩
    else .error (.raised error)
  | (p, none) =>
    match saveSection cols db ⟨section_.row, p⟩ (removedIn py raw) (accessibleIn py raw) with
    | .ok db =>
      .ok ⟨savedParams p (removedIn py raw) (accessibleIn py raw), db, [section_.row.id], []⟩
    | .error (.service error) =>
      if error.isSeatGenerationError then .ok ⟨p, db, [], [(key, error.message)]⟩
      else .error (.service error)
    | .error (.raised error) => .error (.raised error)

/-- What comes of an entry does not depend on the parameters stored with the row. -/
theorem entryOutcome_row {row : Section} (stored : SectionParams) {q : SectionParams F}
    {key : String} {raw : List (String × Json F)} :
    entryOutcome cols db ⟨{ row with params := stored }, q⟩ key raw
      = entryOutcome cols db ⟨row, q⟩ key raw := rfl

/-- The state after an entry. -/
def EditorSave.take (s : EditorSave F) (section_ : Nat) (r : EntryResult F) : EditorSave F :=
  { s.setParams section_ r.params with
    db := r.db
    saved := s.saved ++ r.saved
    errors := s.errors ++ r.errors }

variable {cols} {s : EditorSave F} {e : EditorEntry F} {o : SectionObject F} {key : String}
  {raw : List (String × Json F)}

/-- **A turn** is the outcome of its entry on the section in memory. -/
theorem saveTurn_eq (hfind : s.find e = some o) (hraw : e.raw = .object raw) :
    saveTurn cols s e = (entryOutcome cols s.db o e.key raw).map (s.take o.row.id) := by
  unfold saveTurn entryOutcome removedIn accessibleIn
  rw [hfind, hraw]
  dsimp only
  rcases setFields raw (sectionParamFields py) o.params with ⟨p, _ | error⟩
  · dsimp only
    rcases saveSection cols s.db ⟨o.row, p⟩ _ _ with (error | error) | db
    · rfl
    · dsimp only
      split_ifs
      · simp [Except.map, EditorSave.take, EditorSave.setParams]
      · rfl
    · simp [Except.map, EditorSave.take, EditorSave.setParams]
  · dsimp only
    split_ifs
    · simp [Except.map, EditorSave.take, EditorSave.setParams]
    · rfl

/-- The turns that do nothing. -/
theorem saveTurn_skips (h : ∀ o raw, s.find e = some o → e.raw ≠ .object raw) :
    saveTurn cols s e = .ok s := by
  unfold saveTurn
  split
  · rename_i o raw hfind hraw
    exact absurd hraw (h o raw hfind)
  · rfl

/-- What an entry whose values convert comes to, if nothing is raised. -/
theorem entryOutcome_cases {r : EntryResult F} {p' : SectionParams F}
    (hset : setFields raw (sectionParamFields py) p = (p', none))
    (h : entryOutcome cols db ⟨row, p⟩ key raw = .ok r) :
    (∃ db', saveSection cols db ⟨row, p'⟩ (removedIn py raw) (accessibleIn py raw) = .ok db' ∧
      r = ⟨savedParams p' (removedIn py raw) (accessibleIn py raw), db', [row.id], []⟩) ∨
    (SaveRefused py.toFloats db row.id p' (removedIn py raw) ∧
      r = ⟨p', db, [], [(key, (liveRefusal db row).message)]⟩) := by
  unfold entryOutcome at h
  rw [hset] at h
  dsimp only at h
  cases hsave : saveSection cols db ⟨row, p'⟩ (removedIn py raw) (accessibleIn py raw) with
  | ok db' =>
    rw [hsave] at h
    cases h
    exact .inl ⟨db', rfl, rfl⟩
  | error failure =>
    rw [hsave] at h
    cases failure with
    | raised error => cases h
    | service error =>
      dsimp only at h
      split_ifs at h with hkind
      obtain ⟨hrefused, rfl⟩ := (saveSection_refused_iff hkind).mp hsave
      cases h
      exact .inr ⟨hrefused, rfl⟩

/-- An entry that converts and saves answers with its section. -/
theorem entryOutcome_goes {p' : SectionParams F}
    (hset : setFields raw (sectionParamFields py) p = (p', none))
    (hsave : saveSection cols db ⟨row, p'⟩ (removedIn py raw) (accessibleIn py raw) = .ok db') :
    entryOutcome cols db ⟨row, p⟩ key raw
      = .ok ⟨savedParams p' (removedIn py raw) (accessibleIn py raw), db', [row.id], []⟩ := by
  unfold entryOutcome
  rw [hset]
  dsimp only
  rw [hsave]

/-- An entry whose save is refused for live tickets answers with the refusal. -/
theorem entryOutcome_refused {p' : SectionParams F}
    (hset : setFields raw (sectionParamFields py) p = (p', none))
    (hrefused : SaveRefused py.toFloats db row.id p' (removedIn py raw)) :
    entryOutcome cols db ⟨row, p⟩ key raw
      = .ok ⟨p', db, [], [(key, (liveRefusal db row).message)]⟩ := by
  have hsave : saveSection cols db ⟨row, p'⟩ (removedIn py raw) (accessibleIn py raw)
      = .error (.service (liveRefusal db row)) :=
    (saveSection_refused_iff rfl).mpr ⟨hrefused, rfl⟩
  unfold entryOutcome
  rw [hset]
  dsimp only
  rw [hsave]
  exact if_pos rfl

/-- An entry that does not convert answers with an error, or raises. -/
theorem entryOutcome_unread {p' : SectionParams F} {error : PyError}
    (hset : setFields raw (sectionParamFields py) p = (p', some error)) :
    entryOutcome cols db ⟨row, p⟩ key raw =
      if error.Conversion then .ok ⟨p', db, [], [(key, "Invalid layout parameter value.")]⟩
      else .error (.raised error) := by
  unfold entryOutcome
  rw [hset]

/-- The same parameters are stored by saves that write the same rows. -/
theorem savedParams_eq_of_rows {db₁ db₂ : Db} (hrow : (db.sections.get? row.id).isSome)
    (hp : saveSection cols db ⟨row, p⟩ removed accessible = .ok db₁)
    (hq : saveSection cols db ⟨row, q⟩ removed accessible = .ok db₂)
    (hrows : db₁.sections.get? row.id = db₂.sections.get? row.id) :
    savedParams p removed accessible = savedParams q removed accessible := by
  obtain ⟨⟨storedP, hstoredP, hdbP⟩, -⟩ := saveSection_effect hrow hp
  obtain ⟨⟨storedQ, hstoredQ, hdbQ⟩, -⟩ := saveSection_effect hrow hq
  obtain ⟨s, hs⟩ := Option.isSome_iff_exists.mp hrow
  have hid : (s.id == row.id) = true := beq_iff_eq.mpr (Table.get?_key hs)
  rw [hdbP, hdbQ, Table.get?_update, Table.get?_update, hs, Option.map_some, Option.map_some,
    if_pos hid, if_pos hid] at hrows
  have hparams : storedP = storedQ := congrArg Section.params (Option.some.inj hrows)
  rw [← Columns.loadParams_storeParams hstoredP, hparams, Columns.loadParams_storeParams hstoredQ]

/-- The entry does the same to a section whose parameters are `p` and to one whose parameters are
    `q`, and raises on neither: its values fail to convert, or the save goes through from the same
    parameters, or is refused from either. -/
def EntryFree (cols : Columns py) (db : Db) (section_ : Nat) (raw : List (String × Json F))
    (p q : SectionParams F) : Prop :=
  match setFields raw (sectionParamFields py) p with
  | (_, some error) => error.Conversion
  | (p', none) =>
    let q' := (setFields raw (sectionParamFields py) q).1
    (SaveGoes cols db section_ p' (removedIn py raw) (accessibleIn py raw) ∧
      savedParams p' (removedIn py raw) (accessibleIn py raw)
        = savedParams q' (removedIn py raw) (accessibleIn py raw)) ∨
    (SaveRefused py.toFloats db section_ p' (removedIn py raw) ∧
      SaveRefused py.toFloats db section_ q' (removedIn py raw))

/-- **An entry on two versions of its section** writes the same and answers the same exactly so. -/
theorem entryOutcome_alike_iff (hrow : (db.sections.get? row.id).isSome) :
    (∃ r r', entryOutcome cols db ⟨row, p⟩ key raw = .ok r ∧
      entryOutcome cols db ⟨row, q⟩ key raw = .ok r' ∧
      r'.db = r.db ∧ r'.saved = r.saved ∧ r'.errors = r.errors) ↔
    EntryFree cols db row.id raw p q := by
  have hsame := setFields_error raw (sectionParamFields py) p q
  unfold EntryFree
  rcases hp : setFields raw (sectionParamFields py) p with ⟨p', _ | error⟩ <;>
    rcases hq : setFields raw (sectionParamFields py) q with ⟨q', _ | error'⟩ <;>
    rw [hp, hq] at hsame <;> cases hsame
  -- Both could be read: each is saved or refused, and they have to agree on which.
  · dsimp only
    constructor
    · rintro ⟨r, r', hr, hr', hdb, hsaved, -⟩
      rcases entryOutcome_cases hp hr with ⟨db₁, hsave, rfl⟩ | ⟨hrefused, rfl⟩ <;>
        rcases entryOutcome_cases hq hr' with ⟨db₂, hsave', rfl⟩ | ⟨hrefused', rfl⟩
      · cases hdb
        exact .inl ⟨(saveSection_ok_iff hrow).mp ⟨_, hsave⟩,
          savedParams_eq_of_rows hrow hsave hsave' rfl⟩
      · cases hsaved
      · cases hsaved
      · exact .inr ⟨hrefused, hrefused'⟩
    · rintro (⟨hgoes, hparams⟩ | ⟨hrefused, hrefused'⟩)
      · obtain ⟨db₁, hsave⟩ := (saveSection_ok_iff hrow).mpr hgoes
        have hsave' := (saveSection_congr hparams).symm.trans hsave
        exact ⟨_, _, entryOutcome_goes hp hsave, entryOutcome_goes hq hsave', rfl, rfl, rfl⟩
      · exact ⟨_, _, entryOutcome_refused hp hrefused, entryOutcome_refused hq hrefused', rfl, rfl,
          rfl⟩
  -- Neither could be read: a conversion is answered, any other error is not.
  · dsimp only
    rw [entryOutcome_unread hp, entryOutcome_unread hq]
    by_cases hconversion : error.Conversion
    · rw [if_pos hconversion, if_pos hconversion]
      exact iff_of_true ⟨_, _, rfl, rfl, rfl, rfl, rfl⟩ hconversion
    · rw [if_neg hconversion]
      exact iff_of_false (fun ⟨_, _, h, _⟩ => by cases h) hconversion

/-! ### What an entry writes -/

/-- What an entry may write: the parameters and the seats of one section, and no seat that carries
    a live ticket. -/
structure SectionWrite (db db' : Db) (section_ : Nat) : Prop where
  rows : ∃ params : Section → SectionParams, ∀ t,
    db'.sections.get? t = (db.sections.get? t).map fun row => { row with params := params row }
  others : ∀ t, t ≠ section_ → SectionUntouched db db' t
  live : LiveSeatsKept db db'

/-- Nothing was written. -/
theorem SectionWrite.refl (db : Db) (section_ : Nat) : SectionWrite db db section_ where
  rows := ⟨Section.params, fun t => by
    cases db.sections.get? t with
    | none => rfl
    | some row => rfl⟩
  others t _ := .refl db t
  live := .refl db

/-- A save writes its own section only. -/
theorem saveSection_write (hrow : (db.sections.get? row.id).isSome)
    (h : saveSection cols db ⟨row, p⟩ removed accessible = .ok db') :
    SectionWrite db db' row.id := by
  obtain ⟨⟨stored, -, hsections⟩, hothers, hlive⟩ := saveSection_effect hrow h
  refine ⟨⟨fun s => if s.id == row.id then stored else s.params, fun t => ?_⟩, hothers, hlive⟩
  rw [hsections, Table.get?_update]
  refine congrArg (fun f => Option.map f (db.sections.get? t)) (funext fun s => ?_)
  dsimp only
  split_ifs <;> rfl

/-- **An entry** saves nothing and writes nothing, or saves its section. -/
theorem entryOutcome_effect {r : EntryResult F} (hrow : (db.sections.get? row.id).isSome)
    (h : entryOutcome cols db ⟨row, p⟩ key raw = .ok r) :
    (r.saved = [] ∧ r.db = db) ∨ (r.saved = [row.id] ∧ SectionWrite db r.db row.id) := by
  rcases hset : setFields raw (sectionParamFields py) p with ⟨p', _ | error⟩
  · rcases entryOutcome_cases hset h with ⟨db', hsave, rfl⟩ | ⟨-, rfl⟩
    · exact .inr ⟨rfl, saveSection_write hrow hsave⟩
    · exact .inl ⟨rfl, rfl⟩
  · rw [entryOutcome_unread hset] at h
    split_ifs at h
    cases h
    exact .inl ⟨rfl, rfl⟩

/-- An entry writes its own section only. -/
theorem entryOutcome_write {r : EntryResult F} (hrow : (db.sections.get? row.id).isSome)
    (h : entryOutcome cols db ⟨row, p⟩ key raw = .ok r) : SectionWrite db r.db row.id := by
  rcases entryOutcome_effect hrow h with ⟨-, hdb⟩ | ⟨-, hwrite⟩
  · rw [hdb]
    exact .refl db row.id
  · exact hwrite

end Entry

section Memory

variable {F : Type} {py : Builtins F} {cols : Columns py} {db : Db} {organization chart : Nat}
  {entries : List (EditorEntry F)} {e : EditorEntry F} {o : SectionObject F} {s s' : EditorSave F}

/-! ### The sections in memory -/

/-- The sections that a request loads are those of the chart that its entries name. -/
theorem mem_loadSections : o ∈ loadSections cols db organization chart entries ↔
    ∃ row ∈ db.sections.rows, row.organization = organization ∧ row.chart = chart ∧
      (∃ e ∈ entries, e.id = row.id) ∧ o = ⟨row, cols.loadParams row.params⟩ := by
  unfold loadSections
  simp only [List.mem_map, List.mem_filter, Bool.and_eq_true, beq_iff_eq, List.any_eq_true,
    and_assoc, eq_comm (a := o)]

/-- The section found for an entry is loaded, and has its key. -/
theorem EditorSave.find_spec (h : s.find e = some o) :
    o ∈ s.sections ∧ (o.row.id : Int) = e.id := by
  unfold EditorSave.find at h
  exact ⟨List.mem_of_find?_eq_some h, by simpa using List.find?_some h⟩

/-- The section that the request reads for an entry. -/
theorem find_beginSave_iff (he : e ∈ entries) :
    (beginSave cols db organization chart entries).find e = some o ↔
      ∃ row ∈ db.sections.rows, row.organization = organization ∧ row.chart = chart ∧
        e.id = row.id ∧ o = ⟨row, cols.loadParams row.params⟩ := by
  constructor
  · intro h
    obtain ⟨hmem, hid⟩ := EditorSave.find_spec h
    obtain ⟨row, hrow, horganization, hchart, -, rfl⟩ := mem_loadSections.mp hmem
    exact ⟨row, hrow, horganization, hchart, hid.symm, rfl⟩
  · rintro ⟨row, hrow, horganization, hchart, hid, rfl⟩
    have hmem : ⟨row, cols.loadParams row.params⟩ ∈ loadSections cols db organization chart entries :=
      mem_loadSections.mpr ⟨row, hrow, horganization, hchart, ⟨e, he, hid⟩, rfl⟩
    cases hfind : (beginSave cols db organization chart entries).find e with
    | none => exact absurd (beq_iff_eq.mpr hid.symm) (List.find?_eq_none.mp hfind _ hmem)
    | some o =>
      obtain ⟨hmem', hid'⟩ := EditorSave.find_spec hfind
      obtain ⟨row', hrow', -, -, -, rfl⟩ := mem_loadSections.mp hmem'
      have hkey : row'.id = row.id := Int.ofNat_inj.mp (hid'.trans hid)
      rw [Table.eq_of_key_eq hrow' hrow hkey]

/-- The sections in memory are those stored, but for their parameters: each is a row of the chart,
    and each row of the chart that the payload lists is there. -/
structure Mirrored (organization chart : Nat) (entries : List (EditorEntry F)) (s : EditorSave F) :
    Prop where
  stored : ∀ o ∈ s.sections, o.row.organization = organization ∧ o.row.chart = chart ∧
    (∃ e ∈ entries, e.id = o.row.id) ∧
    ∃ stored, s.db.sections.get? o.row.id = some { o.row with params := stored }
  listed : ∀ row ∈ s.db.sections.rows, row.organization = organization → row.chart = chart →
    (∃ e ∈ entries, e.id = row.id) → ∃ o ∈ s.sections, o.row.id = row.id

/-- The first turn starts from what is stored. -/
theorem mirrored_beginSave : Mirrored organization chart entries
    (beginSave cols db organization chart entries) where
  stored o ho := by
    obtain ⟨row, hrow, horganization, hchart, hlisted, rfl⟩ := mem_loadSections.mp ho
    exact ⟨horganization, hchart, hlisted, row.params, Table.get?_eq_some.mpr ⟨hrow, rfl⟩⟩
  listed row hrow horganization hchart hlisted :=
    ⟨_, mem_loadSections.mpr ⟨row, hrow, horganization, hchart, hlisted, rfl⟩, rfl⟩

/-- An entry of the payload meets a section in memory, and a request of its own the row that is
    stored; or neither meets any. -/
theorem Mirrored.find (hm : Mirrored organization chart entries s) (he : e ∈ entries) :
    (s.find e = none ∧ (beginSave cols s.db organization chart [e]).find e = none) ∨
    ∃ o stored, s.find e = some o ∧ o.row.id = e.id ∧
      s.db.sections.get? o.row.id = some { o.row with params := stored } ∧
      (beginSave cols s.db organization chart [e]).find e
        = some ⟨{ o.row with params := stored }, cols.loadParams stored⟩ := by
  cases hfind : s.find e with
  | some o =>
    obtain ⟨hmem, hid⟩ := EditorSave.find_spec hfind
    obtain ⟨horganization, hchart, -, stored, hget⟩ := hm.stored o hmem
    refine .inr ⟨o, stored, rfl, hid, hget, ?_⟩
    exact (find_beginSave_iff (List.mem_singleton_self e)).mpr
      ⟨_, Table.get?_mem hget, horganization, hchart, hid.symm, rfl⟩
  | none =>
    refine .inl ⟨rfl, ?_⟩
    cases halone : (beginSave cols s.db organization chart [e]).find e with
    | none => rfl
    | some o =>
      obtain ⟨row, hrow, horganization, hchart, hid, -⟩ :=
        (find_beginSave_iff (List.mem_singleton_self e)).mp halone
      obtain ⟨o', ho', hid'⟩ := hm.listed row hrow horganization hchart ⟨e, he, hid⟩
      refine absurd (beq_iff_eq.mpr ?_) (List.find?_eq_none.mp hfind o' ho')
      rw [hid', hid]

/-- A turn that meets a section. -/
theorem saveTurn_ok (h : saveTurn cols s e = .ok s') : s' = s ∨
    ∃ o raw r, s.find e = some o ∧ e.raw = .object raw ∧
      entryOutcome cols s.db o e.key raw = .ok r ∧ s' = s.take o.row.id r := by
  by_cases hmeets : ∃ o raw, s.find e = some o ∧ e.raw = .object raw
  · obtain ⟨o, raw, hfind, hraw⟩ := hmeets
    rw [saveTurn_eq hfind hraw] at h
    cases hr : entryOutcome cols s.db o e.key raw with
    | error failure =>
      rw [hr] at h
      cases h
    | ok r =>
      rw [hr] at h
      cases h
      exact .inr ⟨o, raw, r, hfind, hraw, hr, rfl⟩
  · rw [saveTurn_skips fun o raw hfind hraw => hmeets ⟨o, raw, hfind, hraw⟩] at h
    cases h
    exact .inl rfl

/-- **The invariant** is kept by every turn. -/
theorem Mirrored.saveTurn (hm : Mirrored organization chart entries s)
    (h : saveTurn cols s e = .ok s') : Mirrored organization chart entries s' := by
  rcases saveTurn_ok h with rfl | ⟨o, raw, r, hfind, hraw, hr, rfl⟩
  · exact hm
  · obtain ⟨-, -, -, stored, hget⟩ := hm.stored o (EditorSave.find_spec hfind).1
    obtain ⟨⟨params, hrows⟩, -, -⟩ :=
      entryOutcome_write (Option.isSome_iff_exists.mpr ⟨_, hget⟩) hr
    -- A turn rewrites the parameters of objects, and never their rows.
    have hrow (o' : SectionObject F) (ho' : o' ∈ (s.take o.row.id r).sections) :
        ∃ o'' ∈ s.sections, o''.row = o'.row := by
      obtain ⟨o'', ho'', rfl⟩ := List.mem_map.mp ho'
      refine ⟨o'', ho'', ?_⟩
      split_ifs <;> rfl
    constructor
    · intro o' ho'
      obtain ⟨o'', ho'', hrow⟩ := hrow o' ho'
      obtain ⟨horganization, hchart, hlisted, stored', hget'⟩ := hm.stored o'' ho''
      rw [hrow] at horganization hchart hlisted hget'
      exact ⟨horganization, hchart, hlisted, _, (hrows _).trans (congrArg _ hget')⟩
    · intro row hmem horganization hchart hlisted
      -- The stored row was rewritten within its section.
      have hget' : r.db.sections.get? row.id = some row := Table.get?_eq_some.mpr ⟨hmem, rfl⟩
      rw [hrows] at hget'
      obtain ⟨row', hget', hrow'⟩ := Option.map_eq_some_iff.mp hget'
      rw [← hrow'] at horganization hchart
      have hkey : row'.id = row.id := Table.get?_key hget'
      obtain ⟨o', ho', hid⟩ := hm.listed row' (Table.get?_mem hget') horganization hchart
        (by rwa [hkey])
      refine ⟨_, List.mem_map_of_mem ho', ?_⟩
      rw [← hkey]
      split_ifs <;> exact hid

end Memory

end OnFloats

end BoxOffice

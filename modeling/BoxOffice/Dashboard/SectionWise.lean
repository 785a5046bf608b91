import BoxOffice.Dashboard.SectionTurns

namespace BoxOffice

open Relational Python

/-!
# Dashboard — the editor's save, section by section

A batch of entries against the same entries saved one by one, each in a request of its own.

* `alone` — an entry in a request of its own;
* `TurnSound`, `TurnFree` — a turn of the loop is such a request, and when it is; `turn_sound_iff`;
* `SectionwiseSave` — every turn is, and nothing aborts the batch;
* `editor_save_sectionwise_iff` — a payload is saved section by section exactly if every integer
  can be asked for and every turn is free.
-/

namespace OnFloats

section Alone

variable {F : Type} {py : Builtins F} (cols : Columns py) (takes : Int → Bool)

/-! ### Requests of one entry -/

/-- The entry in a request of its own. -/
def alone (organization chart : Nat) (db : Db) (e : EditorEntry F) : Db × EditorAnswer :=
  chartEditorSave cols takes db organization chart
    (.object [("sections", .object [(e.key, e.raw)])])

/-- The turn of an entry is its own request, on the database as it is: it returns, it writes and
    answers the same, and if it saves nothing it writes nothing. -/
def TurnSound (organization chart : Nat) (s : EditorSave F) (e : EditorEntry F) : Prop :=
  ∃ s' saved errors, saveTurn cols s e = .ok s' ∧
    alone cols takes organization chart s.db e = (s'.db, .json saved errors) ∧
    s'.saved = s.saved ++ saved ∧ s'.errors = s.errors ++ errors ∧ (saved = [] → s'.db = s.db)

/-- The entry does the same to the section in memory as to the one that is stored. -/
def TurnFree (s : EditorSave F) (e : EditorEntry F) : Prop :=
  ∀ o raw row, s.find e = some o → e.raw = .object raw →
    s.db.sections.get? o.row.id = some row →
      EntryFree cols s.db o.row.id raw o.params (cols.loadParams row.params)

variable {cols} {takes} {organization chart : Nat} {db : Db} {entries : List (EditorEntry F)}
  {e : EditorEntry F} {s s' : EditorSave F}

/-- An entry whose key stands for an integer is read as it is. -/
theorem parseEntry_of_int {key : String} {raw : Json F} {id : Int}
    (h : intOfText py.chars key = some id) : parseEntry py (key, raw) = some ⟨key, id, raw⟩ := by
  unfold parseEntry
  rw [h]
  rfl

/-- A request of one entry is a run of one turn. -/
theorem alone_eq (hkey : parseEntry py (e.key, e.raw) = some e) (htakes : takes e.id = true) :
    alone cols takes organization chart db e
      = saveEntries cols (beginSave cols db organization chart [e]) [e] := by
  have hparse : [(e.key, e.raw)].mapM (parseEntry py) = some [e] := by
    rw [List.mapM_cons, hkey]
    rfl
  unfold alone chartEditorSave
  dsimp only
  have hsections : getKey [("sections", Json.object [(e.key, e.raw)])] "sections"
      = .object [(e.key, e.raw)] := rfl
  rw [hsections]
  dsimp only
  rw [hparse]
  dsimp only
  rw [List.all_cons, htakes]
  rfl

/-- The run goes on after a turn that succeeds. -/
theorem saveEntries_cons_ok {l : List (EditorEntry F)} (h : saveTurn cols s e = .ok s') :
    saveEntries cols s (e :: l) = saveEntries cols s' l := by
  rw [saveEntries, h]

/-- The run ends with a turn that fails. -/
theorem saveEntries_cons_error {l : List (EditorEntry F)} {failure : Failure}
    (h : saveTurn cols s e = .error failure) :
    saveEntries cols s (e :: l) = (s.db, .serverError failure) := by
  rw [saveEntries, h]

/-- A skipped entry, in a request of its own, changes nothing. -/
theorem alone_of_skipped (hkey : parseEntry py (e.key, e.raw) = some e) (htakes : takes e.id = true)
    (h : saveTurn cols (beginSave cols db organization chart [e]) e
      = .ok (beginSave cols db organization chart [e])) :
    alone cols takes organization chart db e = (db, .json [] []) := by
  rw [alone_eq hkey htakes, saveEntries_cons_ok h]
  rfl

/-- An entry that finds its section, in a request of its own, is its turn. -/
theorem alone_of_met {o : SectionObject F} {raw : List (String × Json F)}
    (hkey : parseEntry py (e.key, e.raw) = some e) (htakes : takes e.id = true)
    (hfind : (beginSave cols db organization chart [e]).find e = some o)
    (hraw : e.raw = .object raw) :
    alone cols takes organization chart db e = match entryOutcome cols db o e.key raw with
      | .ok r => (r.db, .json r.saved r.errors)
      | .error failure => (db, .serverError failure) := by
  have hturn := @saveTurn_eq _ _ cols _ _ _ _ hfind hraw
  rw [alone_eq hkey htakes]
  cases hr : entryOutcome cols db o e.key raw with
  | ok r => rw [saveEntries_cons_ok (hturn.trans (congrArg _ hr))]; rfl
  | error failure => rw [saveEntries_cons_error (hturn.trans (congrArg _ hr))]; rfl

/-- A turn that meets a section. -/
theorem turn_sound_iff_of_met {o : SectionObject F} {stored : SectionParams}
    {raw : List (String × Json F)} (hkey : parseEntry py (e.key, e.raw) = some e)
    (htakes : takes e.id = true) (hfind : s.find e = some o) (hraw : e.raw = .object raw)
    (hget : s.db.sections.get? o.row.id = some { o.row with params := stored })
    (halone : (beginSave cols s.db organization chart [e]).find e
      = some ⟨{ o.row with params := stored }, cols.loadParams stored⟩) :
    TurnSound cols takes organization chart s e ↔
      EntryFree cols s.db o.row.id raw o.params (cols.loadParams stored) := by
  -- Both the turn and the section alone come down to the outcome of one entry.
  have hrow : (s.db.sections.get? o.row.id).isSome := Option.isSome_iff_exists.mpr ⟨_, hget⟩
  have hturn := @saveTurn_eq _ _ cols s e o raw hfind hraw
  have hown := @alone_of_met _ _ cols takes organization chart s.db e _ raw hkey htakes halone hraw
  rw [entryOutcome_row] at hown
  rw [← @entryOutcome_alike_iff _ _ cols s.db o.row o.params (cols.loadParams stored) e.key raw hrow]
  constructor
  -- The two outcomes agree, so neither is an error.
  · rintro ⟨s', saved, errors, hs', halone', hsaved, herrors, -⟩
    cases hr : entryOutcome cols s.db o e.key raw with
    | error failure =>
      rw [hr] at hturn
      cases hturn.symm.trans hs'
    | ok r =>
      rw [hr] at hturn
      obtain rfl : s' = s.take o.row.id r := Except.ok.inj (hs'.symm.trans hturn)
      cases hr' : entryOutcome cols s.db ⟨o.row, cols.loadParams stored⟩ e.key raw with
      | error failure =>
        rw [hr'] at hown
        exact absurd (congrArg Prod.snd (hown.symm.trans halone')) fun h => by cases h
      | ok r' =>
        rw [hr'] at hown
        have hsame := hown.symm.trans halone'
        injection hsame with hdb hanswer
        injection hanswer with hsaved' herrors'
        refine ⟨r, r', rfl, rfl, hdb, ?_, ?_⟩
        · exact hsaved'.trans (List.append_cancel_left hsaved).symm
        · exact herrors'.trans (List.append_cancel_left herrors).symm
  · rintro ⟨r, r', hr, hr', hdb, hsaved, herrors⟩
    rw [hr] at hturn
    rw [hr'] at hown
    refine ⟨s.take o.row.id r, r.saved, r.errors, hturn, ?_, rfl, rfl, fun hnone => ?_⟩
    · rw [hown]
      dsimp only
      rw [hdb, hsaved, herrors]
      rfl
    · rcases entryOutcome_effect hrow hr with ⟨-, hsame⟩ | ⟨hone, -⟩
      · exact hsame
      · cases hone.symm.trans hnone

/-- A turn that passes over its entry. -/
theorem turn_sound_of_skipped (hkey : parseEntry py (e.key, e.raw) = some e)
    (htakes : takes e.id = true) (h : ∀ o raw, s.find e = some o → e.raw ≠ .object raw)
    (halone : ∀ o raw, (beginSave cols s.db organization chart [e]).find e = some o →
      e.raw ≠ .object raw) : TurnSound cols takes organization chart s e :=
  ⟨s, [], [], saveTurn_skips h, alone_of_skipped hkey htakes (saveTurn_skips halone),
    (List.append_nil _).symm, (List.append_nil _).symm, fun _ => rfl⟩

/-- **A turn** is its entry's own request exactly if it is free. -/
theorem turn_sound_iff (hm : Mirrored organization chart entries s) (he : e ∈ entries)
    (hkey : parseEntry py (e.key, e.raw) = some e) (htakes : takes e.id = true) :
    TurnSound cols takes organization chart s e ↔ TurnFree cols s e := by
  rcases hm.find he with ⟨hnone, halone⟩ | ⟨o, stored, hfind, -, hget, halone⟩
  · -- No section of the chart: both pass over the entry.
    refine iff_of_true (turn_sound_of_skipped hkey htakes ?_ ?_) fun o raw row hfind => ?_
    · exact fun o _ hfind => by rw [hnone] at hfind; cases hfind
    · exact fun o _ hfind => by rw [halone] at hfind; cases hfind
    · rw [hnone] at hfind
      cases hfind
  · by_cases hraw : ∃ raw, e.raw = .object raw
    · obtain ⟨raw, hraw⟩ := hraw
      rw [turn_sound_iff_of_met hkey htakes hfind hraw hget halone]
      constructor
      · intro h o' raw' row' hfind' hraw' hget'
        cases hfind.symm.trans hfind'
        cases hraw.symm.trans hraw'
        cases hget.symm.trans hget'
        exact h
      · exact fun h => h o raw { o.row with params := stored } hfind hraw hget
    · exact iff_of_true (turn_sound_of_skipped hkey htakes (fun _ raw _ h => hraw ⟨raw, h⟩)
        fun _ raw _ h => hraw ⟨raw, h⟩) fun o raw row _ h => absurd ⟨raw, h⟩ hraw

/-! ### One section -/

/-- Databases that agree on a section, but for the keys of its seats. -/
def SameSection (db₁ db₂ : Db) (section_ : Nat) : Prop :=
  db₁.sections.get? section_ = db₂.sections.get? section_ ∧
    (seatsOf db₁ section_).map Seat.draft = (seatsOf db₂ section_).map Seat.draft

/-- What a request of one entry writes. -/
theorem alone_write (hkey : parseEntry py (e.key, e.raw) = some e) (htakes : takes e.id = true) :
    (alone cols takes organization chart db e).1 = db ∨
    ∃ row ∈ db.sections.rows, row.organization = organization ∧ row.chart = chart ∧
      e.id = row.id ∧ SectionWrite db (alone cols takes organization chart db e).1 row.id := by
  cases hfind : (beginSave cols db organization chart [e]).find e with
  | none =>
    have hown := @alone_of_skipped _ _ cols takes organization chart db e hkey htakes
      (saveTurn_skips fun o _ h => by rw [hfind] at h; cases h)
    exact .inl (congrArg Prod.fst hown)
  | some o =>
    by_cases hraw : ∃ raw, e.raw = .object raw
    · obtain ⟨raw, hraw⟩ := hraw
      obtain ⟨row, hrow, horganization, hchart, hid, rfl⟩ :=
        (find_beginSave_iff (List.mem_singleton_self e)).mp hfind
      rw [alone_of_met hkey htakes hfind hraw]
      cases hr : entryOutcome cols db ⟨row, cols.loadParams row.params⟩ e.key raw with
      | error failure => exact .inl rfl
      | ok r =>
        have hget : db.sections.get? row.id = some row := Table.get?_eq_some.mpr ⟨hrow, rfl⟩
        exact .inr ⟨row, hrow, horganization, hchart, hid,
          entryOutcome_write (Option.isSome_iff_exists.mpr ⟨_, hget⟩) hr⟩
    · have hown := @alone_of_skipped _ _ cols takes organization chart db e hkey htakes
        (saveTurn_skips fun _ raw _ h => hraw ⟨raw, h⟩)
      exact .inl (congrArg Prod.fst hown)

/-- Other sections are left alone. -/
theorem alone_untouched (hkey : parseEntry py (e.key, e.raw) = some e) (htakes : takes e.id = true)
    {section_ : Nat} (hother : e.id ≠ section_) :
    SectionUntouched db (alone cols takes organization chart db e).1 section_ := by
  rcases @alone_write _ _ cols takes organization chart db e hkey htakes with
    hsame | ⟨row, -, -, -, hid, hwrite⟩
  · rw [hsame]
    exact .refl db section_
  · exact hwrite.others section_ fun h => hother (by rw [hid, h])

section Met

variable {row : Section} {p : SectionParams F} {raw : List (String × Json F)}
  (hkey : parseEntry py (e.key, e.raw) = some e) (htakes : takes e.id = true)
  (hfind : (beginSave cols db organization chart [e]).find e = some ⟨row, cols.loadParams row.params⟩)
  (hraw : e.raw = .object raw)

include hkey htakes hfind hraw

/-- A request that saves its section writes just that. -/
theorem alone_saved {db' : Db}
    (hset : setFields raw (sectionParamFields py) (cols.loadParams row.params) = (p, none))
    (hsave : saveSection cols db ⟨row, p⟩ (removedIn py raw) (accessibleIn py raw) = .ok db') :
    (alone cols takes organization chart db e).1 = db' := by
  rw [alone_of_met hkey htakes hfind hraw, entryOutcome_goes hset hsave]

/-- A request that does not writes nothing. -/
theorem alone_unsaved (h : ∀ p db',
      setFields raw (sectionParamFields py) (cols.loadParams row.params) = (p, none) →
        saveSection cols db ⟨row, p⟩ (removedIn py raw) (accessibleIn py raw) ≠ .ok db') :
    (alone cols takes organization chart db e).1 = db := by
  rw [alone_of_met hkey htakes hfind hraw]
  cases hr : entryOutcome cols db ⟨row, cols.loadParams row.params⟩ e.key raw with
  | error failure => rfl
  | ok r =>
    rcases hset : setFields raw (sectionParamFields py) (cols.loadParams row.params)
      with ⟨p, _ | error⟩
    · rcases entryOutcome_cases hset hr with ⟨db', hsave, -⟩ | ⟨-, rfl⟩
      · exact absurd hsave (h p db' hset)
      · rfl
    · rw [entryOutcome_unread hset] at hr
      split_ifs at hr
      cases hr
      rfl

end Met

/-- The request reads the same section from databases that agree on it. -/
theorem find_beginSave_congr {db₁ db₂ : Db} {section_ : Nat} (hid : e.id = section_)
    (h : db₁.sections.get? section_ = db₂.sections.get? section_) :
    (beginSave cols db₁ organization chart [e]).find e
      = (beginSave cols db₂ organization chart [e]).find e := by
  have hmem (db : Db) (row : Section) (hrow : e.id = row.id) :
      row ∈ db.sections.rows ↔ db.sections.get? section_ = some row := by
    rw [Table.get?_eq_some]
    exact (and_iff_left (Int.ofNat_inj.mp (hrow.symm.trans hid))).symm
  refine Option.ext fun o => ?_
  rw [find_beginSave_iff (List.mem_singleton_self e), find_beginSave_iff (List.mem_singleton_self e)]
  refine exists_congr fun row => ?_
  constructor
  · rintro ⟨hrow, horganization, hchart, hkey, rfl⟩
    rw [hmem db₁ row hkey, h, ← hmem db₂ row hkey] at hrow
    exact ⟨hrow, horganization, hchart, hkey, rfl⟩
  · rintro ⟨hrow, horganization, hchart, hkey, rfl⟩
    rw [hmem db₂ row hkey, ← h, ← hmem db₁ row hkey] at hrow
    exact ⟨hrow, horganization, hchart, hkey, rfl⟩

/-- **The entry's section** is left the same from databases that agree on it. -/
theorem alone_alike {db₁ db₂ : Db} {section_ : Nat}
    (hkey : parseEntry py (e.key, e.raw) = some e) (htakes : takes e.id = true)
    (hid : e.id = section_) (h : SectionAlike db₁ db₂ section_) :
    SameSection (alone cols takes organization chart db₁ e).1
      (alone cols takes organization chart db₂ e).1 section_ := by
  have hfinds := @find_beginSave_congr _ _ cols organization chart e db₁ db₂ section_ hid h.row
  by_cases hmeets : ∃ o raw, (beginSave cols db₁ organization chart [e]).find e = some o ∧
      e.raw = .object raw
  -- The entry meets its section: both databases have the same row of it.
  · obtain ⟨o, raw, hfind₁, hraw⟩ := hmeets
    have hfind₂ := hfinds.symm.trans hfind₁
    obtain ⟨row, hrow, -, -, hid', rfl⟩ :=
      (find_beginSave_iff (List.mem_singleton_self e)).mp hfind₁
    obtain rfl : row.id = section_ := Int.ofNat_inj.mp (hid'.symm.trans hid)
    have hrow₁ : (db₁.sections.get? row.id).isSome :=
      Option.isSome_iff_exists.mpr ⟨row, Table.get?_eq_some.mpr ⟨hrow, rfl⟩⟩
    have hrow₂ : (db₂.sections.get? row.id).isSome := by rwa [← h.row]
    by_cases hsaves : ∃ p, setFields raw (sectionParamFields py) (cols.loadParams row.params)
        = (p, none) ∧ SaveGoes cols db₁ row.id p (removedIn py raw) (accessibleIn py raw)
    -- It is saved in both, with the same parameters.
    · obtain ⟨p, hset, hgoes⟩ := hsaves
      obtain ⟨db₁', hsave₁⟩ := (saveSection_ok_iff hrow₁).mpr hgoes
      obtain ⟨db₂', hsave₂⟩ := (saveSection_ok_iff hrow₂).mpr (hgoes.congr h)
      rw [alone_saved hkey htakes hfind₁ hraw hset hsave₁,
        alone_saved hkey htakes hfind₂ hraw hset hsave₂]
      exact saveSection_alike h hrow₁ hsave₁ hsave₂
    · have hlive : SectionAlike db₂ db₁ row.id :=
        ⟨h.row.symm, h.seats.symm, h.live.symm, h.sold.symm⟩
      rw [alone_unsaved hkey htakes hfind₁ hraw fun p db' hset hsave =>
          hsaves ⟨p, hset, (saveSection_ok_iff hrow₁).mp ⟨db', hsave⟩⟩,
        alone_unsaved hkey htakes hfind₂ hraw fun p db' hset hsave =>
          hsaves ⟨p, hset, ((saveSection_ok_iff hrow₂).mp ⟨db', hsave⟩).congr hlive⟩]
      exact ⟨h.row, h.seats⟩
  -- The entry meets nothing, in either.
  · have hskips (db : Db) (hfind : (beginSave cols db organization chart [e]).find e
        = (beginSave cols db₁ organization chart [e]).find e) :
        (alone cols takes organization chart db e).1 = db :=
      congrArg Prod.fst (alone_of_skipped hkey htakes
        (saveTurn_skips fun o raw ho hraw => hmeets ⟨o, raw, hfind.symm.trans ho, hraw⟩))
    rw [hskips db₁ rfl, hskips db₂ hfinds.symm]
    exact ⟨h.row, h.seats⟩

end Alone

section Run

variable {F : Type} {py : Builtins F} (cols : Columns py) (takes : Int → Bool)
  (organization chart : Nat)

/-! ### The batch -/

/-- The entries one after another, each in a request of its own. -/
def aloneInTurn (db : Db) (entries : List (EditorEntry F)) : Db :=
  entries.foldl (fun db e => (alone cols takes organization chart db e).1) db

/-- The batch is the entries one by one: no exception aborts it, every turn is its entry's own
    request, the database is the one that these requests leave, and a section that one entry names
    is as if that had been saved alone. -/
structure SectionwiseSave (db : Db) (payload : Json F) (entries : List (EditorEntry F)) : Prop where
  answered : ∀ failure,
    (chartEditorSave cols takes db organization chart payload).2 ≠ .serverError failure
  turns : ∀ t ∈ Loops.turns (saveTurn cols) (beginSave cols db organization chart entries) entries,
    TurnSound cols takes organization chart t.1 t.2
  inTurn : (chartEditorSave cols takes db organization chart payload).1
    = aloneInTurn cols takes organization chart db entries
  apart : ∀ section_ : Nat, ∀ e, (entries.filter fun e' => e'.id == (section_ : Int)) = [e] →
    SameSection (chartEditorSave cols takes db organization chart payload).1
      (alone cols takes organization chart db e).1 section_

/-- Whatever happens: sections that are not of the chart, are not listed or are not answered as
    saved stay as they are, with the keys of their seats; and no seat with a live ticket is lost. -/
structure ListedOnly (db : Db) (entries : List (EditorEntry F)) (after : Db × EditorAnswer) :
    Prop where
  others : ∀ section_, (∀ row, db.sections.get? section_ = some row →
    row.organization = organization → row.chart = chart → ∀ e ∈ entries, e.id ≠ section_) →
      SectionUntouched db after.1 section_
  unsaved : ∀ saved errors, after.2 = .json saved errors → ∀ section_ ∉ saved,
    SectionUntouched db after.1 section_
  live : LiveSeatsKept db after.1

variable {cols takes organization chart} {db : Db} {entries l : List (EditorEntry F)}
  {e : EditorEntry F} {s : EditorSave F} {section_ : Nat}

/-- Requests of one entry each, one after another. -/
theorem aloneInTurn_cons : aloneInTurn cols takes organization chart db (e :: l)
    = aloneInTurn cols takes organization chart (alone cols takes organization chart db e).1 l := by
  unfold aloneInTurn
  rw [List.foldl_cons]

/-- Lists of such requests run one after another. -/
theorem aloneInTurn_append {l' : List (EditorEntry F)} :
    aloneInTurn cols takes organization chart db (l ++ l') = aloneInTurn cols takes organization chart
      (aloneInTurn cols takes organization chart db l) l' := by
  unfold aloneInTurn
  rw [List.foldl_append]

/-- Requests that name other sections leave a section alone. -/
theorem aloneInTurn_untouched (hkeys : ∀ e ∈ l, parseEntry py (e.key, e.raw) = some e)
    (htakes : ∀ e ∈ l, takes e.id = true) (hothers : ∀ e ∈ l, e.id ≠ section_) :
    SectionUntouched db (aloneInTurn cols takes organization chart db l) section_ := by
  induction l generalizing db with
  | nil => exact .refl db section_
  | cons e rest ih =>
    rw [List.forall_mem_cons] at hkeys htakes hothers
    rw [aloneInTurn_cons]
    exact (alone_untouched hkeys.1 htakes.1 hothers.1).trans (ih hkeys.2 htakes.2 hothers.2)

/-- **A section that one entry names** ends as if that had been saved alone. -/
theorem aloneInTurn_apart (hkeys : ∀ e ∈ l, parseEntry py (e.key, e.raw) = some e)
    (htakes : ∀ e ∈ l, takes e.id = true)
    (h : (l.filter fun e' => e'.id == (section_ : Int)) = [e]) :
    SameSection (aloneInTurn cols takes organization chart db l)
      (alone cols takes organization chart db e).1 section_ := by
  obtain ⟨before, after, rfl, hbefore, hid, hafter⟩ := List.filter_eq_cons_iff.mp h
  rw [List.forall_mem_append, List.forall_mem_cons] at hkeys htakes
  have hbefore' (e : EditorEntry F) (he : e ∈ before) : e.id ≠ section_ := fun h =>
    hbefore e he (beq_iff_eq.mpr h)
  have hafter' (e : EditorEntry F) (he : e ∈ after) : e.id ≠ section_ := fun h =>
    List.filter_eq_nil_iff.mp hafter e he (beq_iff_eq.mpr h)
  have hfirst := @aloneInTurn_untouched _ _ cols takes organization chart db before section_
    hkeys.1 htakes.1 hbefore'
  obtain ⟨hrow, hseats⟩ := @alone_alike _ _ cols takes organization chart e _ _ section_
    hkeys.2.1 htakes.2.1 (beq_iff_eq.mp hid) hfirst.alike
  rw [aloneInTurn_append, aloneInTurn_cons]
  have hlast := @aloneInTurn_untouched _ _ cols takes organization chart
    (alone cols takes organization chart (aloneInTurn cols takes organization chart db before) e).1
    after section_ hkeys.2.2 htakes.2.2 hafter'
  exact ⟨hlast.row.trans hrow.symm, (congrArg _ hlast.seats).trans hseats.symm⟩

/-- Turns that are their entries' own requests. -/
theorem saveEntries_sound
    (h : ∀ t ∈ Loops.turns (saveTurn cols) s l, TurnSound cols takes organization chart t.1 t.2) :
    (∃ saved errors, (saveEntries cols s l).2 = .json saved errors) ∧
      (saveEntries cols s l).1 = aloneInTurn cols takes organization chart s.db l := by
  induction l generalizing s with
  | nil => exact ⟨⟨s.saved, s.errors, rfl⟩, rfl⟩
  | cons e rest ih =>
    cases hturn : saveTurn cols s e with
    | error failure =>
      rw [Loops.turns_cons_error hturn] at h
      obtain ⟨s', _, _, hs', -⟩ := h (s, e) List.mem_cons_self
      cases hturn.symm.trans hs'
    | ok s' =>
      rw [Loops.turns_cons_ok hturn, List.forall_mem_cons] at h
      obtain ⟨s'', _, _, hs'', halone, -⟩ := h.1
      obtain rfl : s'' = s' := Except.ok.inj (hs''.symm.trans hturn)
      rw [saveEntries_cons_ok hturn, aloneInTurn_cons, halone]
      exact ih h.2

/-- **The frame**, whatever the turns do. -/
theorem saveEntries_frame (hm : Mirrored organization chart entries s) :
    (∀ t, (∀ o ∈ s.sections, o.row.id ≠ t) →
      SectionUntouched s.db (saveEntries cols s l).1 t) ∧
    (∀ saved errors, (saveEntries cols s l).2 = .json saved errors → ∃ more,
      saved = s.saved ++ more ∧ ∀ t ∉ more, SectionUntouched s.db (saveEntries cols s l).1 t) ∧
    LiveSeatsKept s.db (saveEntries cols s l).1 := by
  induction l generalizing s with
  | nil =>
    refine ⟨fun t _ => .refl s.db t, fun saved errors h => ?_, .refl s.db⟩
    cases h
    exact ⟨[], (List.append_nil s.saved).symm, fun t _ => .refl s.db t⟩
  | cons e rest ih =>
    cases hturn : saveTurn cols s e with
    | error failure =>
      rw [saveEntries_cons_error hturn]
      exact ⟨fun t _ => .refl s.db t, fun _ _ h => (by cases h), .refl s.db⟩
    | ok s' =>
      rw [saveEntries_cons_ok hturn]
      have hrest := ih (hm.saveTurn hturn)
      -- A turn without effect, or the save of one section; the others are the frame of both.
      rcases saveTurn_ok hturn with rfl | ⟨o, raw, r, hfind, -, hr, rfl⟩
      · exact hrest
      · obtain ⟨hothers, hunsaved, hlive⟩ := hrest
        obtain ⟨-, -, -, stored, hget⟩ := hm.stored o (EditorSave.find_spec hfind).1
        have hrow : (s.db.sections.get? o.row.id).isSome := Option.isSome_iff_exists.mpr ⟨_, hget⟩
        have hwrite : SectionWrite s.db r.db o.row.id := entryOutcome_write hrow hr
        refine ⟨fun t ht => ?_, fun saved errors h => ?_, hwrite.live.trans hlive⟩
        · refine (hwrite.others t ?_).trans (hothers t fun o' ho' => ?_)
          · exact Ne.symm (ht o (EditorSave.find_spec hfind).1)
          · obtain ⟨o'', ho'', rfl⟩ := List.mem_map.mp ho'
            have hid := ht o'' ho''
            split_ifs <;> exact hid
        · obtain ⟨more, hmore, huntouched⟩ := hunsaved saved errors h
          refine ⟨r.saved ++ more, by rw [hmore, ← List.append_assoc]; rfl, fun t ht => ?_⟩
          rw [List.mem_append, not_or] at ht
          refine SectionUntouched.trans ?_ (huntouched t ht.2)
          rcases entryOutcome_effect hrow hr with ⟨-, hsame⟩ | ⟨hone, -⟩
          · show SectionUntouched s.db r.db t
            rw [hsame]
            exact .refl s.db t
          · rw [hone, List.mem_singleton] at ht
            exact hwrite.others t ht.1

/-- The keys of a payload stand for what they were read as. -/
theorem parsed_entries {fields : List (String × Json F)}
    (h : fields.mapM (parseEntry py) = some entries) :
    ∀ e ∈ entries, parseEntry py (e.key, e.raw) = some e := by
  intro e he
  obtain ⟨⟨key, raw⟩, -, hfield⟩ := exists_of_mapM_some h he
  obtain ⟨i, hi, rfl⟩ := Option.map_eq_some_iff.mp hfield
  exact Option.map_eq_some_iff.mpr ⟨i, hi, rfl⟩

/-- What a payload of sections comes to. -/
theorem chartEditorSave_cases {payload fields : List (String × Json F)}
    (hsections : getKey payload "sections" = .object fields)
    (hparse : fields.mapM (parseEntry py) = some entries) :
    (entries = [] ∧ chartEditorSave cols takes db organization chart (.object payload)
      = (db, .badRequest "No sections given.")) ∨
    chartEditorSave cols takes db organization chart (.object payload) =
      if entries.all fun e => takes e.id then
        saveEntries cols (beginSave cols db organization chart entries) entries
      else (db, .serverError (.raised .overflowError)) := by
  unfold chartEditorSave
  dsimp only
  rw [hsections]
  cases fields with
  | nil =>
    cases hparse
    exact .inl ⟨rfl, rfl⟩
  | cons first rest =>
    dsimp only
    rw [hparse]
    exact .inr rfl

/-- A request that changed nothing wrote to listed sections only. -/
theorem listedOnly_of_eq {answer : EditorAnswer} :
    ListedOnly organization chart db entries (db, answer) where
  others section_ _ := .refl db section_
  unsaved _ _ _ section_ _ := .refl db section_
  live := .refl db

/-- **The frame** of a request. -/
theorem listedOnly_saveEntries : ListedOnly organization chart db entries
    (saveEntries cols (beginSave cols db organization chart entries) entries) := by
  obtain ⟨hothers, hunsaved, hlive⟩ := @saveEntries_frame _ _ cols organization chart entries entries
    (beginSave cols db organization chart entries) mirrored_beginSave
  refine ⟨fun section_ h => hothers section_ fun o ho hid => ?_, fun saved errors h => ?_, hlive⟩
  · obtain ⟨row, hrow, horganization, hchart, ⟨e, he, hlisted⟩, rfl⟩ := mem_loadSections.mp ho
    have hget : db.sections.get? section_ = some row := Table.get?_eq_some.mpr ⟨hrow, hid⟩
    exact h row hget horganization hchart e he (hlisted.trans (congrArg Nat.cast hid))
  · obtain ⟨more, rfl, huntouched⟩ := hunsaved saved errors h
    exact huntouched

/-- **The editor's save** goes section by section exactly if the database takes every integer that
    a key stands for and every turn is free; and it writes nothing else in any case. -/
theorem editor_save_sectionwise_iff {payload fields : List (String × Json F)}
    (hsections : getKey payload "sections" = .object fields)
    (hparse : fields.mapM (parseEntry py) = some entries) :
    (SectionwiseSave cols takes organization chart db (.object payload) entries ↔
      (∀ e ∈ entries, takes e.id = true) ∧
      ∀ t ∈ Loops.turns (saveTurn cols) (beginSave cols db organization chart entries) entries,
        TurnFree cols t.1 t.2) ∧
    ListedOnly organization chart db entries
      (chartEditorSave cols takes db organization chart (.object payload)) := by
  have hkeys := parsed_entries hparse
  rcases @chartEditorSave_cases _ _ cols takes organization chart db entries _ _ hsections hparse
    with ⟨rfl, hnone⟩ | hsome
  · -- Nothing is listed, and nothing is saved.
    refine ⟨iff_of_true ⟨fun failure h => ?_, List.forall_mem_nil _, congrArg Prod.fst hnone,
      fun _ _ h => (by cases h)⟩ ⟨List.forall_mem_nil _, List.forall_mem_nil _⟩, ?_⟩
    · rw [hnone] at h
      cases h
    · rw [hnone]
      exact listedOnly_of_eq
  · by_cases htakes : ∀ e ∈ entries, takes e.id = true
    · rw [if_pos (List.all_eq_true.mpr htakes)] at hsome
      -- The sections in memory mirror the stored ones before every turn.
      have hturns : ∀ t ∈ Loops.turns (saveTurn cols)
          (beginSave cols db organization chart entries) entries,
          Mirrored organization chart entries t.1 ∧ t.2 ∈ entries :=
        Loops.turns_invariant (fun _ _ _ _ hm h => hm.saveTurn h) mirrored_beginSave
      have hsound (t) (ht : t ∈ Loops.turns (saveTurn cols)
          (beginSave cols db organization chart entries) entries) :
          TurnSound cols takes organization chart t.1 t.2 ↔ TurnFree cols t.1 t.2 :=
        have ⟨hm, he⟩ := hturns t ht
        turn_sound_iff hm he (hkeys _ he) (htakes _ he)
      refine ⟨⟨fun h => ⟨htakes, fun t ht => (hsound t ht).mp (h.turns t ht)⟩, fun h => ?_⟩, ?_⟩
      · have hall (t) (ht) := (hsound t ht).mpr (h.2 t ht)
        obtain ⟨⟨saved, errors, hanswer⟩, hdb⟩ := saveEntries_sound hall
        rw [← hsome] at hanswer hdb
        refine ⟨fun failure hfailure => ?_, hall, hdb, fun section_ e hone => ?_⟩
        · rw [hanswer] at hfailure
          cases hfailure
        · rw [hdb]
          exact aloneInTurn_apart hkeys htakes hone
      · rw [hsome]
        exact listedOnly_saveEntries
    · rw [if_neg (mt List.all_eq_true.mp htakes)] at hsome
      refine ⟨iff_of_false (fun h => ?_) fun h => htakes h.1, ?_⟩
      · exact h.answered _ (congrArg Prod.snd hsome)
      · rw [hsome]
        exact listedOnly_of_eq

end Run

/-! ### A chart of two sections -/

/-- A section of one seat, which has not been generated. -/
def stalls : Section where
  id := 1
  organization := 1
  chart := 1
  name := "Stalls"
  ordering := 0
  tier := ""
  params := { sectionDefaults with rows := 1, seatsPerRow := 1 }

def stallsDb : Db :=
  { Db.empty with
    sections := Db.empty.sections.insert fun i => { stalls with id := i } }

/-- The section behind it. -/
def circle : Section := { stalls with id := 2, name := "Circle", ordering := 1 }

/-- The seat of the stalls. -/
def stallsA1 (id : Nat) : Seat := ⟨id, 1, 1, "A", "1", 0, 0, false⟩

/-- Both sections; the seat of the stalls is sold. -/
def hallDb : Db :=
  { stallsDb with
    sections := stallsDb.sections.insert fun i => { circle with id := i }
    seats := Db.empty.seats.insert stallsA1 fun _ => rfl
    orderItems := Db.empty.orderItems.insert fun i =>
      OrderItem.mk i 1 1 .ticket (some 1) none none none (some 1) 1 2500
    tickets := Db.empty.tickets.insert fun i =>
      Ticket.mk i 1 1 1 (some 1) "Ada" "stalls-a1" .valid none none }

/-- The body that lists these entries. -/
def bodyOf (entries : List (EditorEntry Extended)) : List (String × Json Extended) :=
  [("sections", .object (entries.map fun e => (e.key, e.raw)))]

/-- An entry that moves the stalls and asks for a second row. -/
def stallsEntry : EditorEntry Extended :=
  ⟨"1", 1, .object [("origin_x", .int 5), ("rows", .int 2)]⟩

/-- An entry that moves the circle. -/
def circleEntry : EditorEntry Extended := ⟨"2", 2, .object [("origin_x", .int 7)]⟩

def hallEntries : List (EditorEntry Extended) := [stallsEntry, circleEntry]

/-- The stalls as their entry asks for them. -/
def grownParams : SectionParams Extended :=
  { exactColumns.loadParams stalls.params with originX := .finite 5, rows := 2 }

/-- The circle as its entry asks for it. -/
def movedParams : SectionParams Extended :=
  { exactColumns.loadParams circle.params with originX := .finite 7 }

/-- A second row changes the roster of the stalls, whose seat is sold. -/
theorem stalls_refused : SaveRefused Extended.builtins.toFloats hallDb 1 grownParams [] := by
  have hplaces : askedPlaces grownParams [] = [⟨0, "A", 1, 0, 1⟩, ⟨1, "B", 1, 0, 1⟩] := by
    decide +kernel
  refine ⟨?_, by decide +kernel, ?_⟩
  · unfold Placed
    rw [hplaces]
    refine List.forall_mem_cons.mpr ⟨⟨(.finite 5, .finite 0), by decide +kernel⟩,
      List.forall_mem_singleton.mpr ⟨(.finite 5, .finite 1), by decide +kernel⟩⟩
  · exact ⟨_, List.mem_singleton_self _, by decide, _, List.mem_singleton_self _,
      List.mem_singleton_self _, rfl⟩

/-- The circle has no seats yet, so its entry goes through. -/
theorem circle_goes : SaveGoes exactColumns hallDb 2 movedParams [] [] := by
  have hplaces : askedPlaces movedParams [] = [⟨0, "A", 1, 0, 1⟩] := by decide +kernel
  have hxy : seatXy Extended.builtins.toFloats movedParams 0 0 1 = .ok (.finite 7, .finite 0) := by
    decide +kernel
  have hroster : rosterKept hallDb 2 movedParams [] = false := by decide +kernel
  -- The only seat there is belongs to the stalls.
  have hnone : ∀ x ∈ hallDb.seats.rows, x.section_ ∉ [2] := by decide
  refine ⟨?_, fun hkept => ?_, fun _ => ⟨?_, ?_, ?_⟩, by decide +kernel⟩
  · unfold Placed
    rw [hplaces]
    exact List.forall_mem_singleton.mpr ⟨_, hxy⟩
  · rw [hroster] at hkept
    cases hkept
  · rintro ⟨t, -, -, x, hx, hsection, -⟩
    exact hnone x hx hsection
  · rintro ⟨i, -, x, hx, hsection, -⟩
    exact hnone x hx hsection
  · rw [hplaces]
    exact List.forall_mem_singleton.mpr
      ⟨by decide +kernel, by decide +kernel, (.finite 7, .finite 0), hxy, rfl, rfl⟩

/-- The request after its first entry. -/
def stallsAnswered : EditorSave Extended where
  db := hallDb
  sections := [⟨stalls, grownParams⟩, ⟨circle, exactColumns.loadParams circle.params⟩]
  saved := []
  errors := [("1", (liveRefusal hallDb stalls).message)]

/-- The sold stalls refuse their entry, with the parameter set before the refusal, and the circle
    is saved as if alone. -/
theorem editor_save_refuses_stalls_saves_circle :
    SectionwiseSave exactColumns (fun _ => true) 1 1 hallDb (.object (bodyOf hallEntries))
        hallEntries ∧
      ListedOnly 1 1 hallDb hallEntries (chartEditorSave exactColumns (fun _ => true) hallDb 1 1
        (.object (bodyOf hallEntries))) ∧
      (chartEditorSave exactColumns (fun _ => true) hallDb 1 1
        (.object (bodyOf hallEntries))).1.sections.rows.map (fun s => (s.id, s.params.originX))
          = [(1, 0), (2, 7)] ∧
      (chartEditorSave exactColumns (fun _ => true) hallDb 1 1
        (.object (bodyOf hallEntries))).1.seats.rows.map (fun x => (x.id, x.section_, x.x))
          = [(1, 1, 0), (2, 2, 7)] := by
  have hsave := @editor_save_sectionwise_iff _ _ exactColumns (fun _ => true) 1 1 hallDb
    hallEntries (bodyOf hallEntries) _ rfl (by rfl)
  refine ⟨hsave.1.mpr ⟨fun _ _ => rfl, ?_⟩, hsave.2, by decide +kernel, by decide +kernel⟩
  have hgrown : setFields [("origin_x", Json.int 5), ("rows", .int 2)]
      (sectionParamFields Extended.builtins) (exactColumns.loadParams stalls.params)
        = (grownParams, none) := by decide +kernel
  have hmoved : setFields [("origin_x", Json.int 7)] (sectionParamFields Extended.builtins)
      (exactColumns.loadParams circle.params) = (movedParams, none) := by decide +kernel
  -- The first turn is refused and stores nothing; the second starts from what it has left.
  have hfirst : saveTurn exactColumns (beginSave exactColumns hallDb 1 1 hallEntries) stallsEntry
      = .ok stallsAnswered :=
    (saveTurn_eq rfl rfl).trans (congrArg _ (entryOutcome_refused hgrown stalls_refused))
  have hturns : Loops.turns (saveTurn exactColumns)
      (beginSave exactColumns hallDb 1 1 hallEntries) hallEntries
        = [(_, stallsEntry), (stallsAnswered, circleEntry)] :=
    (Loops.turns_cons_ok hfirst).trans (congrArg _ Loops.turns_singleton)
  rw [hturns]
  refine List.forall_mem_cons.mpr ⟨fun o raw row hfind hraw hget => ?_,
    List.forall_mem_singleton.mpr fun o raw row hfind hraw hget => ?_⟩
  · cases hfind
    cases hraw
    cases hget
    unfold EntryFree
    rw [hgrown]
    exact .inr ⟨stalls_refused, stalls_refused⟩
  · cases hfind
    cases hraw
    obtain rfl : circle = row := Option.some.inj hget
    unfold EntryFree
    rw [hmoved]
    exact .inl ⟨circle_goes, rfl⟩

/-- An entry that sets a parameter and is then refused, and one that sets nothing, for the same
    section. -/
def leakingEntries : List (EditorEntry Extended) :=
  [⟨"1", 1, .object [("origin_x", .int 7), ("rotation", .str "?")]⟩, ⟨"01", 1, .object []⟩]

/-- An entry with `Infinity` for the rows. -/
def endlessEntry : EditorEntry Extended := ⟨"1", 1, .object [("rows", .float (.infinity false))]⟩

/-- **The counterexample.** What a refused entry has set is saved by the next one for the section,
    and infinitely many rows end the request with an exception. -/
theorem refused_entry_leaks_and_endless_rows_abort :
    ((leakingEntries.map fun e => (e.key, e.raw)).mapM (parseEntry Extended.builtins)
        = some leakingEntries ∧
      ¬SectionwiseSave exactColumns (fun _ => true) 1 1 stallsDb (.object (bodyOf leakingEntries))
        leakingEntries) ∧
    ¬SectionwiseSave exactColumns (fun _ => true) 1 1 stallsDb (.object (bodyOf [endlessEntry]))
      [endlessEntry] := by
  have hone : intOfText Extended.builtins.chars "1" = some 1 := by decide +kernel
  have hzeroOne : intOfText Extended.builtins.chars "01" = some 1 := by decide +kernel
  have hparsed : (leakingEntries.map fun e => (e.key, e.raw)).mapM (parseEntry Extended.builtins)
      = some leakingEntries := by
    unfold leakingEntries
    simp only [List.map_cons, List.map_nil, List.mapM_cons, List.mapM_nil, parseEntry_of_int hone,
      parseEntry_of_int hzeroOne]
    rfl
  refine ⟨⟨hparsed, fun h => ?_⟩, fun h => ?_⟩
  -- The first entry is refused, and yet its origin is stored by the second.
  · have hbatch : ((chartEditorSave exactColumns (fun _ => true) stallsDb 1 1
        (.object (bodyOf leakingEntries))).1.sections.get? 1).map (·.params.originX) = some 7 := by
      decide +kernel
    have hturn : ((aloneInTurn exactColumns (fun _ => true) 1 1 stallsDb
        leakingEntries).sections.get? 1).map (·.params.originX) = some 0 := by
      decide +kernel
    rw [h.inTurn, hturn] at hbatch
    exact absurd hbatch (by decide +kernel)
  -- The number of rows is infinite, and its conversion is not caught.
  · have hset : setFields [("rows", Json.float (Extended.infinity false))]
        (sectionParamFields Extended.builtins) (exactColumns.loadParams stalls.params)
          = (exactColumns.loadParams stalls.params, some .overflowError) := by decide +kernel
    have hturn : saveTurn exactColumns (beginSave exactColumns stallsDb 1 1 [endlessEntry])
        endlessEntry = .error (.raised .overflowError) :=
      (saveTurn_eq rfl rfl).trans (congrArg _ (entryOutcome_unread hset))
    have hkey : parseEntry Extended.builtins (endlessEntry.key, endlessEntry.raw)
        = some endlessEntry := parseEntry_of_int hone
    have hanswer : chartEditorSave exactColumns (fun _ => true) stallsDb 1 1
        (.object (bodyOf [endlessEntry])) = (stallsDb, .serverError (.raised .overflowError)) :=
      (alone_eq hkey rfl).trans (saveEntries_cons_error hturn)
    exact h.answered _ (congrArg Prod.snd hanswer)

end OnFloats

end BoxOffice

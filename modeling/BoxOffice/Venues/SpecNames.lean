import BoxOffice.Venues.SpecNormal

namespace BoxOffice

open Numeric Python

/-!
# Venues — the names of a chart spec

The validation loop names the sections first and normalises them one by one.

* `readSpec` — the objects that the loop reads, with the names it gives them;
* `validateSections_eq`, `validateChartSpec_cases` — the validation from these;
* `readSections_lower` — no two names are alike in lower case;
* `NamesKept` — they stay so, and stripped, when they are cut to their column;
  `namesKept_of_short` when none is too long;
* `validateChartSpec_json` — then the validated spec is left as it is.
-/

section Names

variable {F : Type} (py : Builtins F)

/-! ### What the loop reads -/

/-- The objects among the entries, with the names that the loop gives them. -/
def readSections : Nat → List String → List (Json F) → List (List (String × Json F) × String)
  | _, _, [] => []
  | index, seen, .object raw :: rest =>
    let name := nextName py raw index seen
    (raw, name) :: readSections (index + 1) (py.lower name :: seen) rest
  | index, seen, _ :: rest => readSections (index + 1) seen rest

/-- The entries of `sections` that are read. -/
def rawSections : Json F → List (Json F)
  | .object spec =>
    match getKey spec "sections" with
    | .list items => items.take maxSections
    | _ => []
  | _ => []

def readSpec (spec : Json F) : List (List (String × Json F) × String) :=
  readSections py 0 [] (rawSections spec)

/-- The name that the spec gives its chart. -/
def readChartName : Json F → String
  | .object spec => givenChartName py spec
  | _ => ""

/-- **The loop** normalises what it reads. -/
theorem validateSections_eq (index : Nat) (seen : List String) (items : List (Json F)) :
    OnFloats.validateSections py index seen items
      = (readSections py index seen items).mapM fun r => normalizeSection py r.1 r.2 := by
  induction items generalizing index seen with
  | nil => rfl
  | cons item rest ih =>
    cases item with
    | object raw =>
      unfold OnFloats.validateSections readSections
      rw [List.mapM_cons, ← ih]
    | _ =>
      unfold OnFloats.validateSections readSections
      exact ih _ _

/-- **The validation** refuses a spec without an object to read, or normalises what it reads. -/
theorem validateChartSpec_cases (spec : Json F) :
    (readSpec py spec = [] ∧ ∃ message,
      OnFloats.validateChartSpec py spec = .error (.service (.chartParsing message))) ∨
    (readSpec py spec ≠ [] ∧ OnFloats.validateChartSpec py spec =
      match (readSpec py spec).mapM fun r => normalizeSection py r.1 r.2 with
      | .error e => .error (.raised e)
      | .ok sections => .ok ⟨takeChars 255 (readChartName py spec), sections⟩) := by
  unfold OnFloats.validateChartSpec readSpec rawSections
  cases spec with
  | object entries =>
    dsimp only
    cases getKey entries "sections" with
    | list items =>
      dsimp only
      rw [validateSections_eq]
      by_cases hnone : readSections py 0 [] (items.take maxSections) = []
      · exact .inl ⟨hnone, _, by rw [hnone]; rfl⟩
      · refine .inr ⟨hnone, ?_⟩
        cases hread : (readSections py 0 [] (items.take maxSections)).mapM
            fun r => normalizeSection py r.1 r.2 with
        | error e => rfl
        | ok sections =>
          cases sections with
          | nil =>
            have hlength := (mapM_eq_ok.mp hread).length_eq
            exact absurd (List.eq_nil_of_length_eq_zero hlength) hnone
          | cons s rest => rfl
    | _ => exact .inl ⟨rfl, _, rfl⟩
  | _ => exact .inl ⟨rfl, _, rfl⟩

/-! ### Fresh names -/

/-- `f"{base_name} ({suffix})"`. -/
def numbered (base : String) (k : Nat) : String := s!"{base} ({k})"

/-- The loop ends at a new name, or has found every name that it tried. -/
theorem freshName_cases (text : Text) (seen : List String) (base : String) (fuel suffix : Nat)
    (name : String) :
    text.lower (freshName text seen base fuel suffix name) ∉ seen ∨
      ((0 < fuel → text.lower name ∈ seen) ∧
        (∀ k, suffix ≤ k → k + 1 < suffix + fuel → text.lower (numbered base k) ∈ seen) ∧
        (0 < fuel → freshName text seen base fuel suffix name
          = numbered base (suffix + fuel - 1))) := by
  induction fuel generalizing suffix name with
  | zero =>
    exact .inr ⟨fun h => absurd h (lt_irrefl _), fun k hlow hhigh => by omega,
      fun h => absurd h (lt_irrefl _)⟩
  | succ fuel ih =>
    unfold freshName
    split_ifs with hseen
    · rw [List.contains_iff_mem] at hseen
      rcases ih (suffix + 1) (numbered base suffix) with hnew | ⟨hname, htried, hlast⟩
      · exact .inl hnew
      · refine .inr ⟨fun _ => hseen, fun k hlow hhigh => ?_, fun _ => ?_⟩
        · rcases hlow.eq_or_lt with rfl | hlow
          · exact hname (by omega)
          · exact htried k hlow (by omega)
        · rcases Nat.eq_zero_or_pos fuel with rfl | hpos
          · rfl
          · rw [show suffix + (fuel + 1) - 1 = suffix + 1 + fuel - 1 by omega]
            exact hlast hpos
    · exact .inl fun hmem => hseen (List.contains_iff_mem.mpr hmem)

/-- **A name that was not seen.**  More names are tried than were seen. -/
theorem freshName_fresh (seen : List String) (base : String) :
    py.lower (freshName (builtinText py) seen base (seen.length + 1) 2 base) ∉ seen := by
  rcases freshName_cases (builtinText py) seen base (seen.length + 1) 2 base with
    hnew | ⟨-, htried, hlast⟩
  · exact hnew
  · rw [hlast (Nat.succ_pos _)]
    intro hmem
    -- As many different names were found as were seen, so these are all.
    have hnodup : ((List.range' 2 seen.length).map fun k => py.lower (numbered base k)).Nodup :=
      List.Nodup.map_on (fun a _ b _ h => py.lower_numbered h) List.nodup_range'
    have hsubset : (List.range' 2 seen.length).map (fun k => py.lower (numbered base k)) ⊆ seen := by
      intro name hname
      obtain ⟨k, hk, rfl⟩ := List.mem_map.mp hname
      obtain ⟨hlow, hhigh⟩ := List.mem_range'_1.mp hk
      exact htried k hlow (by omega)
    have hperm := (List.subperm_of_subset hnodup hsubset).perm_of_length_le (by simp)
    obtain ⟨k, hk, hsame⟩ := List.mem_map.mp (hperm.mem_iff.mpr hmem)
    obtain ⟨-, hhigh⟩ := List.mem_range'_1.mp hk
    have := py.lower_numbered hsame
    omega

/-- The names that are read differ in lower case, from each other and from those seen. -/
theorem readSections_lower (index : Nat) (seen : List String) (items : List (Json F)) :
    ((readSections py index seen items).map fun r => py.lower r.2).Nodup ∧
      ∀ r ∈ readSections py index seen items, py.lower r.2 ∉ seen := by
  induction items generalizing index seen with
  | nil => exact ⟨List.nodup_nil, fun r hr => absurd hr List.not_mem_nil⟩
  | cons item rest ih =>
    cases item with
    | object raw =>
      obtain ⟨hnodup, hnew⟩ := ih (index + 1) (py.lower (nextName py raw index seen) :: seen)
      unfold readSections
      refine ⟨List.nodup_cons.mpr ⟨fun hmem => ?_, hnodup⟩, fun r hr => ?_⟩
      · obtain ⟨r, hr, hsame⟩ := List.mem_map.mp hmem
        exact hnew r hr (hsame ▸ List.mem_cons_self)
      · rcases List.mem_cons.mp hr with rfl | hr
        · exact freshName_fresh py seen _
        · exact fun hmem => hnew r hr (List.mem_cons_of_mem _ hmem)
    | _ =>
      unfold readSections
      exact ih _ _

/-! ### Stripped names -/

variable {py}

/-- A text is stripped if neither its first nor its last character is a blank. -/
theorem strip_eq_self {chars : CharTable} {text : String} {first last : Char} {front back : List Char}
    (hfront : text.toList = first :: back) (hfirst : chars.isSpace first = false)
    (hback : text.toList = front ++ [last]) (hlast : chars.isSpace last = false) :
    chars.strip text = text := by
  unfold CharTable.strip
  have hdrop : text.toList.dropWhile chars.isSpace = text.toList := by
    rw [hfront, List.dropWhile_cons_of_neg (by simp [hfirst])]
  rw [hdrop, hback, List.rdropWhile_concat_neg _ _ _ (by simp [hlast]), ← hback,
    String.ofList_toList]

/-- The first character of a stripped text. -/
theorem strip_first {chars : CharTable} {text : String} (h : chars.strip text = text)
    (hne : text ≠ "") : ∃ first rest, text.toList = first :: rest ∧ chars.isSpace first = false := by
  cases hlist : text.toList with
  | nil => exact absurd (String.toList_eq_nil_iff.mp hlist) hne
  | cons first rest =>
    refine ⟨first, rest, rfl, ?_⟩
    by_contra hblank
    rw [Bool.not_eq_false] at hblank
    have hstripped := congrArg String.toList h
    unfold CharTable.strip at hstripped
    rw [String.toList_ofList, hlist, List.dropWhile_cons_of_pos hblank] at hstripped
    have hshort := (List.rdropWhile_prefix chars.isSpace (rest.dropWhile chars.isSpace)).length_le
    have hrest := (List.dropWhile_suffix (l := rest) chars.isSpace).length_le
    rw [hstripped] at hshort
    simp only [List.length_cons] at hshort
    omega

/-- A numbered name is not empty. -/
theorem numbered_ne_empty (base : String) (k : Nat) : numbered base k ≠ "" := by
  intro h
  have := congrArg String.toList h
  unfold numbered at this
  rw [Extended.toList_numbered] at this
  simp at this

/-- A numbered name has no blanks at its ends. -/
theorem numbered_stripped {base : String} (k : Nat) (h : py.chars.strip base = base)
    (hne : base ≠ "") : py.chars.strip (numbered base k) = numbered base k := by
  obtain ⟨first, rest, hbase, hfirst⟩ := strip_first h hne
  have hlist : (numbered base k).toList
      = base.toList ++ ' ' :: '(' :: ((toString k).toList ++ [')']) := Extended.toList_numbered base k
  refine strip_eq_self (hlist.trans (by rw [hbase]; rfl)) hfirst
    (hlist.trans (by simp : _ = (base.toList ++ ' ' :: '(' :: (toString k).toList) ++ [')'])) ?_
  exact py.isSpace_printable _ (by decide) (by decide)

/-- A section without a name gets one that is stripped. -/
theorem unnamed_stripped (index : Nat) :
    py.chars.strip s!"Section {index + 1}" = s!"Section {index + 1}" := by
  have hlist : s!"Section {index + 1}".toList
      = "Section ".toList ++ (toString (index + 1)).toList := by
    show ("Section " ++ toString (index + 1)).toList = _
    rw [String.toList_append]
  have hdigits : (toString (index + 1)).toList ≠ [] := by
    rw [toString_toList]
    exact Nat.toDigits_ne_nil
  have hlast := List.dropLast_append_getLast hdigits
  refine strip_eq_self (hlist.trans rfl) (py.isSpace_printable 'S' (by decide) (by decide))
    (hlist.trans (by rw [← hlast, ← List.append_assoc])) ?_
  obtain ⟨hlow, hhigh⟩ := Char.isDigit_iff_toNat.mp
    (isDigit_of_mem_toString (List.getLast_mem hdigits))
  exact py.isSpace_printable _ (lt_of_lt_of_le (by decide) hlow) (lt_of_le_of_lt hhigh (by decide))

/-- The name of a section has no blanks at its ends, and is not empty. -/
theorem sectionNameJson_stripped (raw : List (String × Json F)) (index : Nat) :
    py.chars.strip (sectionNameJson py raw index) = sectionNameJson py raw index ∧
      sectionNameJson py raw index ≠ "" := by
  unfold sectionNameJson
  dsimp only
  split_ifs with hempty
  · refine ⟨unnamed_stripped index, fun h => ?_⟩
    have hlist := congrArg String.toList h
    change ("Section " ++ toString (index + 1)).toList = _ at hlist
    rw [String.toList_append] at hlist
    cases hlist
  · exact ⟨py.chars.strip_strip _, hempty⟩

/-- A fresh name is the one that was tried first, or a numbered one. -/
theorem freshName_form (text : Text) (seen : List String) (base : String) (fuel suffix : Nat)
    (name : String) : freshName text seen base fuel suffix name = name ∨
      ∃ k, freshName text seen base fuel suffix name = numbered base k := by
  induction fuel generalizing suffix name with
  | zero => exact .inl rfl
  | succ fuel ih =>
    unfold freshName
    split_ifs with hseen
    · rcases ih (suffix + 1) (numbered base suffix) with h | h
      · exact .inr ⟨suffix, h⟩
      · exact .inr h
    · exact .inl rfl

/-- The name made distinct has no blanks at its ends, and is not empty. -/
theorem nextName_stripped (raw : List (String × Json F)) (index : Nat) (seen : List String) :
    py.chars.strip (nextName py raw index seen) = nextName py raw index seen ∧
      nextName py raw index seen ≠ "" := by
  obtain ⟨hstripped, hne⟩ := @sectionNameJson_stripped _ py raw index
  unfold nextName
  dsimp only
  rcases freshName_form (builtinText py) seen (sectionNameJson py raw index) (seen.length + 1) 2
    (sectionNameJson py raw index) with h | ⟨k, h⟩ <;> rw [h]
  · exact ⟨hstripped, hne⟩
  · exact ⟨numbered_stripped k hstripped hne, numbered_ne_empty _ k⟩

/-- So every name that is read is stripped and not empty. -/
theorem readSections_stripped {index : Nat} {seen : List String} {items : List (Json F)}
    {r : List (String × Json F) × String} (h : r ∈ readSections py index seen items) :
    py.chars.strip r.2 = r.2 ∧ r.2 ≠ "" := by
  induction items generalizing index seen with
  | nil => cases h
  | cons item rest ih =>
    cases item with
    | object raw =>
      unfold readSections at h
      rcases List.mem_cons.mp h with rfl | h
      · exact nextName_stripped raw index seen
      · exact ih h
    | _ =>
      unfold readSections at h
      exact ih h

/-! ### Names that are kept -/

/-- Cut to the length of their column, the names are still stripped, and still differ in lower
    case. -/
structure NamesKept (py : Builtins F) (spec : Json F) : Prop where
  stripped : ∀ r ∈ readSpec py spec, py.chars.strip (takeChars 255 r.2) = takeChars 255 r.2
  distinct : ((readSpec py spec).map fun r => py.lower (takeChars 255 r.2)).Nodup

/-- So it is if no name has to be cut. -/
theorem namesKept_of_short {spec : Json F} (h : ∀ r ∈ readSpec py spec, r.2.length ≤ 255) :
    NamesKept py spec where
  stripped r hr := by
    rw [takeChars_eq_self (h r hr)]
    exact (readSections_stripped hr).1
  distinct := by
    rw [List.map_congr_left fun r hr => congrArg py.lower (takeChars_eq_self (h r hr))]
    exact (readSections_lower py 0 [] (rawSections spec)).1

/-! ### The validated spec -/

/-- The entries of validated sections are read under their own names. -/
theorem readSections_entries {sections : List (SectionSpecJson F)} {index : Nat}
    {seen : List String} (hstripped : ∀ s ∈ sections, py.chars.strip s.name = s.name ∧ s.name ≠ "")
    (hlower : (sections.map fun s => py.lower s.name).Nodup)
    (hnew : ∀ s ∈ sections, py.lower s.name ∉ seen) :
    readSections py index seen (sections.map fun s => .object s.entries)
      = sections.map fun s => (s.entries, s.name) := by
  induction sections generalizing index seen with
  | nil => rfl
  | cons s rest ih =>
    obtain ⟨hs, hrest⟩ := List.nodup_cons.mp hlower
    obtain ⟨hstrip, hne⟩ := hstripped s List.mem_cons_self
    have hname : sectionNameJson py s.entries index = s.name := by
      have hget : getKey s.entries "name" = .str s.name := rfl
      unfold sectionNameJson
      rw [hget, Json.textOrEmpty_str, hstrip]
      exact if_neg hne
    -- The name has not been seen, so no number is put behind it.
    have hfresh : nextName py s.entries index seen = s.name := by
      have hnot : ¬seen.contains (py.lower s.name) = true :=
        fun hmem => hnew s List.mem_cons_self (List.contains_iff_mem.mp hmem)
      unfold nextName
      dsimp only
      rw [hname]
      unfold freshName
      exact if_neg hnot
    rw [List.map_cons, List.map_cons]
    unfold readSections
    rw [hfresh]
    refine congrArg (_ :: ·) (ih (fun t ht => hstripped t (List.mem_cons_of_mem _ ht)) hrest
      fun t ht hmem => ?_)
    rcases List.mem_cons.mp hmem with hsame | hmem
    · exact hs (List.mem_map.mpr ⟨t, ht, hsame⟩)
    · exact hnew t (List.mem_cons_of_mem _ ht) hmem

/-- **Idempotence.** A normal spec whose names are stripped and differ in lower case is left as it
    is. -/
theorem validateChartSpec_json {spec : ChartSpecJson F} (hsome : spec.sections ≠ [])
    (hcount : spec.sections.length ≤ maxSections)
    (hchart : py.chars.strip spec.chartName = spec.chartName ∧ spec.chartName ≠ "" ∧
      spec.chartName.length ≤ 255)
    (hnormal : ∀ s ∈ spec.sections, s.Normal py)
    (hstripped : ∀ s ∈ spec.sections, py.chars.strip s.name = s.name ∧ s.name ≠ "")
    (hlower : (spec.sections.map fun s => py.lower s.name).Nodup) :
    OnFloats.validateChartSpec py spec.json = .ok spec := by
  -- The sections, their names, the name of the chart and the conversions, one after the other.
  have hraw : rawSections spec.json = spec.sections.map fun s => .object s.entries := by
    have htake : (spec.sections.map fun s => Json.object s.entries).take maxSections
        = spec.sections.map fun s => .object s.entries :=
      List.take_of_length_le (by rwa [List.length_map])
    exact htake
  have hread : readSpec py spec.json = spec.sections.map fun s => (s.entries, s.name) := by
    unfold readSpec
    rw [hraw]
    exact readSections_entries hstripped hlower fun _ _ => List.not_mem_nil
  have hname : readChartName py spec.json = spec.chartName := by
    have hget : getKey [("chart_name", Json.str spec.chartName),
        ("sections", .list (spec.sections.map fun s => .object s.entries))] "chart_name"
          = .str spec.chartName := rfl
    unfold ChartSpecJson.json readChartName givenChartName
    dsimp only
    rw [hget, Json.textOrEmpty_str, hchart.1, if_neg hchart.2.1]
  have hsections : (spec.sections.map fun s => (s.entries, s.name)).mapM
      (fun r => normalizeSection py r.1 r.2) = .ok spec.sections := by
    rw [mapM_eq_ok, List.forall₂_map_left_iff, List.forall₂_same]
    intro s hs
    rw [normalizeSection_entries (hnormal s hs), takeChars_eq_self (hnormal s hs).name]
  rcases validateChartSpec_cases py spec.json with ⟨hnone, -⟩ | ⟨-, hvalid⟩
  · rw [hread] at hnone
    exact absurd (List.map_eq_nil_iff.mp hnone) hsome
  · rw [hvalid, hread, hsections, hname, takeChars_eq_self hchart.2.2]

end Names

end BoxOffice

import BoxOffice.Numeric.Digits
import BoxOffice.Python.Text
import Mathlib

namespace Python

/-!
# Python library — slugs

`slugify` turns a text into the part of an address: it drops what is neither a word character, a
space nor a dash, writes one dash for each run of dashes and spaces, and strips dashes and
underscores.

* `SlugText` says what comes out (`slugify_slugText`), and that it stays as it is
  (`slugify_eq_self`);
* a number may be put behind a dash (`SlugText.numbered`), and no two texts with different numbers
  are alike (`numbered_injective`).
-/

/-- `unicodedata.normalize("NFKD", text)`, which leaves ASCII text alone. -/
structure Normalization where
  nfkd : String → String
  ascii : ∀ text : String, (∀ c ∈ text.toList, c.toNat < 128) → nfkd text = text

/-- `\w`, in ASCII. -/
def isWord (c : Char) : Bool := c.isAlphanum || c == '_'

/-- `\s`, in ASCII. -/
def isBlank (c : Char) : Bool :=
  c == ' ' || (9 ≤ c.toNat && c.toNat ≤ 13) || (28 ≤ c.toNat && c.toNat ≤ 31)

/-- `[-\s]`. -/
def isGap (c : Char) : Bool := c == '-' || isBlank c

/-- `[-_]`. -/
def isEdge (c : Char) : Bool := c == '-' || c == '_'

/-- `re.sub(r"[-\s]+", "-", text)`, where the text comes after a gap or not. -/
def dashed : Bool → List Char → List Char
  | _, [] => []
  | inGap, c :: rest =>
    if isGap c then
      if inGap then dashed true rest else '-' :: dashed true rest
    else c :: dashed false rest

/-- `slugify` after the text was made ASCII. -/
def slugChars (text : List Char) : List Char :=
  trimEnds isEdge (dashed false ((text.map Char.toLower).filter fun c => isWord c || isGap c))

/-- `slugify`. -/
def Normalization.slugify (N : Normalization) (text : String) : String :=
  String.ofList (slugChars ((N.nfkd text).toList.filter fun c => c.toNat < 128))

/-! ### What comes out -/

/-- A lower-case letter, a digit, an underscore or a dash. -/
def isSlugChar (c : Char) : Bool := c.isLower || c.isDigit || c == '_' || c == '-'

/-- Slug characters without two dashes in a row, and with neither a dash nor an underscore at
    either end. -/
structure SlugText (text : List Char) : Prop where
  chars : ∀ c ∈ text, isSlugChar c = true
  dashes : text.IsChain fun a b => ¬(a = '-' ∧ b = '-')
  first : ∀ c ∈ text.head?, isEdge c = false
  last : ∀ c ∈ text.getLast?, isEdge c = false

section Slug

variable {text : List Char} {c : Char} {inGap : Bool}

/-! ### Characters -/

/-- The characters of a slug, by their numbers. -/
theorem isSlugChar_toNat (h : isSlugChar c = true) :
    (97 ≤ c.toNat ∧ c.toNat ≤ 122) ∨ (48 ≤ c.toNat ∧ c.toNat ≤ 57) ∨ c = '_' ∨ c = '-' := by
  simp only [isSlugChar, Char.isLower, Char.isDigit, Bool.or_eq_true, Bool.and_eq_true,
    decide_eq_true_eq, beq_iff_eq, ge_iff_le] at h
  rcases h with ((h | h) | h) | h
  · exact .inl h
  · exact .inr (.inl h)
  · exact .inr (.inr (.inl h))
  · exact .inr (.inr (.inr h))

/-- They are in ASCII. -/
theorem isSlugChar_ascii (h : isSlugChar c = true) : c.toNat < 128 := by
  rcases isSlugChar_toNat h with h | h | rfl | rfl
  · omega
  · omega
  · decide
  · decide

/-- They are no blanks. -/
theorem isSlugChar_noSpace (h : isSlugChar c = true) : isSpace c = false := by
  have hcode := isSlugChar_toNat h
  unfold isSpace
  rcases hcode with h | h | rfl | rfl
  · simp only [List.mem_cons, List.not_mem_nil, or_false, Bool.or_eq_false_iff,
      Bool.and_eq_false_iff, decide_eq_false_iff_not]
    omega
  · simp only [List.mem_cons, List.not_mem_nil, or_false, Bool.or_eq_false_iff,
      Bool.and_eq_false_iff, decide_eq_false_iff_not]
    omega
  · decide
  · decide

/-- They have no lower case but themselves. -/
theorem isSlugChar_toLower (h : isSlugChar c = true) : c.toLower = c := by
  refine Char.toLower_eq_of_not_isUpper fun hupper => ?_
  have hcap : 65 ≤ c.toNat ∧ c.toNat ≤ 90 := by
    simp only [Char.isUpper, decide_eq_true_eq] at hupper
    exact hupper
  rcases isSlugChar_toNat h with h | h | rfl | rfl
  · omega
  · omega
  · exact absurd hupper (by decide)
  · exact absurd hupper (by decide)

/-- A lower-case word character. -/
theorem isSlugChar_of_isWord (h : isWord c.toLower = true) : isSlugChar c.toLower = true := by
  simp only [isWord, isSlugChar, Char.isAlphanum, Char.isAlpha, Bool.or_eq_true,
    Char.isUpper_toLower_eq_false, Bool.false_eq_true, false_or] at h ⊢
  tauto

/-- A slug character is kept. -/
theorem isSlugChar_kept (h : isSlugChar c = true) : (isWord c || isGap c) = true := by
  simp only [isWord, isSlugChar, isGap, Char.isAlphanum, Char.isAlpha, Bool.or_eq_true] at h ⊢
  tauto

/-- Of the slug characters only the dash is a gap. -/
theorem isSlugChar_gap (h : isSlugChar c = true) : isGap c = true ↔ c = '-' := by
  constructor
  · intro hgap
    simp only [isGap, isBlank, Bool.or_eq_true, Bool.and_eq_true, decide_eq_true_eq,
      beq_iff_eq] at hgap
    rcases isSlugChar_toNat h with h | h | rfl | rfl
    · rcases hgap with rfl | (rfl | hgap) | hgap <;> first | rfl | omega | (revert h; decide)
    · rcases hgap with rfl | (rfl | hgap) | hgap <;> first | rfl | omega | (revert h; decide)
    · revert hgap
      decide
    · rfl
  · rintro rfl
    rfl

/-! ### Dashes -/

/-- Each character is a dash or one of the text that is no gap. -/
theorem mem_dashed (h : c ∈ dashed inGap text) : c = '-' ∨ c ∈ text ∧ isGap c = false := by
  induction text generalizing inGap with
  | nil => exact absurd h (by cases inGap <;> simp [dashed])
  | cons b rest ih =>
    rw [dashed] at h
    split_ifs at h with hgap hin
    · exact (ih h).imp_right fun h => ⟨List.mem_cons_of_mem _ h.1, h.2⟩
    · rcases List.mem_cons.mp h with rfl | h
      · exact .inl rfl
      · exact (ih h).imp_right fun h => ⟨List.mem_cons_of_mem _ h.1, h.2⟩
    · rcases List.mem_cons.mp h with rfl | h
      · exact .inr ⟨List.mem_cons_self, by simpa using hgap⟩
      · exact (ih h).imp_right fun h => ⟨List.mem_cons_of_mem _ h.1, h.2⟩

/-- After a gap there is no dash. -/
theorem dashed_head (h : c ∈ (dashed true text).head?) : c ≠ '-' := by
  induction text with
  | nil => simp [dashed] at h
  | cons b rest ih =>
    simp only [dashed, if_true] at h
    by_cases hgap : isGap b = true
    · rw [if_pos hgap] at h
      exact ih h
    · rw [if_neg hgap] at h
      obtain rfl : b = c := by simpa using h
      rintro rfl
      exact hgap rfl

/-- Two dashes never meet. -/
theorem dashed_dashes (inGap : Bool) (text : List Char) :
    (dashed inGap text).IsChain fun a b => ¬(a = '-' ∧ b = '-') := by
  induction text generalizing inGap with
  | nil => cases inGap <;> simp [dashed]
  | cons b rest ih =>
    rw [dashed]
    split_ifs with hgap hin
    · exact ih true
    · exact List.isChain_cons.mpr ⟨fun c hc h => dashed_head hc h.2, ih true⟩
    · refine List.isChain_cons.mpr ⟨fun c _ h => hgap ?_, ih false⟩
      rw [h.1]
      rfl

/-- Single dashes stay. -/
theorem dashed_eq_self (hchars : ∀ c ∈ text, isGap c = true → c = '-')
    (hdashes : text.IsChain fun a b => ¬(a = '-' ∧ b = '-'))
    (hhead : inGap = true → ∀ c ∈ text.head?, c ≠ '-') : dashed inGap text = text := by
  induction text generalizing inGap with
  | nil => cases inGap <;> rfl
  | cons b rest ih =>
    obtain ⟨hnext, hrest⟩ := List.isChain_cons.mp hdashes
    have hin := fun c hc => hchars c (List.mem_cons_of_mem _ hc)
    rw [dashed]
    split_ifs with hgap hin'
    · exact absurd (hchars b List.mem_cons_self hgap) (hhead hin' b rfl)
    · have hb := hchars b List.mem_cons_self hgap
      rw [ih hin hrest fun _ c hc hdash => hnext c hc ⟨hb, hdash⟩, hb]
    · rw [ih hin hrest fun h => absurd h Bool.false_ne_true]

/-! ### Slugs -/

/-- What is made of a text is a slug. -/
theorem slugChars_slugText (text : List Char) : SlugText (slugChars text) := by
  obtain ⟨front, back, hpart⟩ := trimEnds_isInfix isEdge
    (dashed false ((text.map Char.toLower).filter fun c => isWord c || isGap c))
  refine ⟨fun c hc => ?_, ?_, fun c hc => trimEnds_first hc, fun c hc => trimEnds_last hc⟩
  · have hmem := List.mem_append_left back (List.mem_append_right front hc)
    rw [show front ++ slugChars text ++ back = _ from hpart] at hmem
    rcases mem_dashed hmem with rfl | ⟨hmem, hgap⟩
    · rfl
    · obtain ⟨hlower, hkept⟩ := List.mem_filter.mp hmem
      obtain ⟨d, -, rfl⟩ := List.mem_map.mp hlower
      rw [hgap, Bool.or_false] at hkept
      exact isSlugChar_of_isWord hkept
  · have hdashes := dashed_dashes false
      ((text.map Char.toLower).filter fun c => isWord c || isGap c)
    rw [← hpart] at hdashes
    exact (List.isChain_append.mp (List.isChain_append.mp hdashes).1).2.1

/-- **What `slugify` returns**, be it empty. -/
theorem slugify_slugText (N : Normalization) (text : String) :
    SlugText (N.slugify text).toList := by
  rw [Normalization.slugify, String.toList_ofList]
  exact slugChars_slugText _

/-- A slug stays as it is. -/
theorem slugChars_eq_self (h : SlugText text) : slugChars text = text := by
  have hlower : text.map Char.toLower = text :=
    (List.map_congr_left fun c hc => isSlugChar_toLower (h.chars c hc)).trans (List.map_id _)
  have hkept : (text.filter fun c => isWord c || isGap c) = text :=
    List.filter_eq_self.mpr fun c hc => isSlugChar_kept (h.chars c hc)
  have hdashed : dashed false text = text :=
    dashed_eq_self (fun c hc => (isSlugChar_gap (h.chars c hc)).mp) h.dashes
      fun h => absurd h Bool.false_ne_true
  rw [slugChars, hlower, hkept, hdashed]
  exact trimEnds_eq_self h.first h.last

/-- **A slug** is the slug of itself. -/
theorem slugify_eq_self (N : Normalization) {slug : String} (h : SlugText slug.toList) :
    N.slugify slug = slug := by
  have hascii : ∀ c ∈ slug.toList, c.toNat < 128 := fun c hc => isSlugChar_ascii (h.chars c hc)
  rw [Normalization.slugify, N.ascii slug hascii,
    List.filter_eq_self.mpr fun c hc => decide_eq_true (hascii c hc), slugChars_eq_self h,
    String.ofList_toList]

/-- The empty text is a slug. -/
theorem SlugText.nil : SlugText [] := ⟨by simp, by simp, by simp, by simp⟩

/-! ### Numbers behind a dash -/

/-- `f"{base}-{n}"`. -/
def numbered (base : String) (n : Nat) : String := s!"{base}-{n}"

/-- The characters of a numbered slug. -/
theorem numbered_toList (base : String) (n : Nat) :
    (numbered base n).toList = base.toList ++ '-' :: (toString n).toList := by
  show (base ++ "-" ++ toString n).toList = _
  simp [String.toList_append]

/-- Numbered slugs tell their numbers. -/
theorem numbered_injective (base : String) {m n : Nat} (h : numbered base m = numbered base n) :
    m = n := by
  have hlist := congrArg String.toList h
  rw [numbered_toList, numbered_toList, List.append_cancel_left_eq, List.cons.injEq] at hlist
  exact Numeric.toString_injective (String.toList_inj.mp hlist.2)

/-- The text itself has no number. -/
theorem numbered_ne (base : String) (n : Nat) : numbered base n ≠ base := by
  intro h
  have hlist := congrArg (fun s => s.toList.length) h
  simp only [numbered_toList, List.length_append, List.length_cons] at hlist
  omega

/-- A numbered slug is not empty. -/
theorem numbered_ne_empty (base : String) (n : Nat) : numbered base n ≠ "" := by
  intro h
  have hlist := congrArg String.toList h
  rw [numbered_toList, String.toList_empty] at hlist
  exact absurd hlist (by simp)

/-- A number has digits. -/
theorem toString_ne_nil (n : Nat) : (toString n).toList ≠ [] := by
  rw [Numeric.toString_toList]
  exact Nat.toDigits_ne_nil

/-- A slug with a number is one. -/
theorem SlugText.numbered {base : String} (h : SlugText base.toList) (hne : base.toList ≠ [])
    (n : Nat) : SlugText (numbered base n).toList := by
  have hdigit {c : Char} (hc : c ∈ (toString n).toList) : c.isDigit = true :=
    Numeric.isDigit_of_mem_toString hc
  have hslug {c : Char} (hc : c.isDigit = true) : isSlugChar c = true := by
    simp [isSlugChar, hc]
  have hedge {c : Char} (hc : c.isDigit = true) : isEdge c = false := by
    rw [Bool.eq_false_iff]
    intro he
    simp only [isEdge, Bool.or_eq_true, beq_iff_eq] at he
    rcases he with rfl | rfl <;> revert hc <;> decide
  rw [numbered_toList]
  refine ⟨fun c hc => ?_, ?_, fun c hc => ?_, fun c hc => ?_⟩
  -- The characters are those of the base, a dash, and digits.
  · rcases List.mem_append.mp hc with hc | hc
    · exact h.chars c hc
    · rcases List.mem_cons.mp hc with rfl | hc
      · rfl
      · exact hslug (hdigit hc)
  · -- The dash stands between two characters that are none.
    refine List.isChain_append.mpr ⟨h.dashes, List.isChain_cons.mpr ⟨fun c hc hdash => ?_, ?_⟩,
      fun a ha b _ hdash => ?_⟩
    · have hd := hdigit (List.mem_of_mem_head? hc)
      rw [hdash.2] at hd
      revert hd
      decide
    · refine (List.pairwise_of_forall_mem_list fun a ha b _ hdash => ?_).isChain
      have hd := hdigit ha
      rw [hdash.1] at hd
      revert hd
      decide
    · have he := h.last a ha
      rw [hdash.1] at he
      revert he
      decide
  -- It begins as the base does and ends in a digit.
  · rw [List.head?_append] at hc
    cases hb : base.toList with
    | nil => exact absurd hb hne
    | cons b rest =>
      rw [hb] at hc
      exact h.first c (by rw [hb]; exact hc)
  · rw [List.getLast?_append, List.getLast?_cons_of_ne_nil (toString_ne_nil n)] at hc
    cases hlast : (toString n).toList.getLast? with
    | none => exact absurd (List.getLast?_eq_none_iff.mp hlast) (toString_ne_nil n)
    | some d =>
      rw [hlast, Option.some_or, Option.mem_some_iff] at hc
      subst hc
      exact hedge (hdigit (List.mem_of_getLast? hlast))

end Slug

end Python

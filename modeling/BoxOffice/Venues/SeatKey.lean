import BoxOffice.Schema
import Mathlib.Data.List.Dedup
import Mathlib.Data.String.Basic

namespace BoxOffice

/-!
# Venues — the keys of the browser

The chart editor holds the removed and the accessible seats of a section as sets of strings
`row|number`, and splits them again for the server.

* `splitKey_seatKey` — splitting a key splits both parts;
* `splitKey_eq_pair` — a key that splits into two parts splits into its own, and neither holds a bar.
-/

/-- `seatKey` of the editor. -/
def seatKey (i : SeatIdentity) : String := i.1 ++ "|" ++ i.2

/-- `k.split("|")`. -/
def splitKey (k : String) : List String := (k.toList.splitOn '|').map String.ofList

/-- A part that splitting leaves alone. -/
def NoBar (s : String) : Prop := '|' ∉ s.toList

instance (s : String) : Decidable (NoBar s) := inferInstanceAs (Decidable (_ ∉ _))

/-- The characters of a seat's key. -/
theorem seatKey_toList (i : SeatIdentity) :
    (seatKey i).toList = i.1.toList ++ '|' :: i.2.toList := by
  simp [seatKey, String.toList_append]

/-- **Splitting** a key splits the label and the number. -/
theorem splitKey_seatKey (i : SeatIdentity) :
    splitKey (seatKey i) = splitKey i.1 ++ splitKey i.2 := by
  unfold splitKey
  rw [seatKey_toList, List.splitOn_append_cons_self, List.map_append]

/-- Splitting a key gives one part at least. -/
theorem splitKey_ne_nil (s : String) : splitKey s ≠ [] := by
  simp [splitKey]

/-- A text without a bar is one part. -/
theorem splitKey_of_noBar {s : String} (h : NoBar s) : splitKey s = [s] := by
  unfold splitKey
  rw [List.splitOn_eq_singleton h, List.map_singleton, String.ofList_toList]

/-- One part has no bar, and is the whole text. -/
theorem splitKey_eq_singleton {s t : String} (h : splitKey s = [t]) : NoBar s ∧ s = t := by
  have hbar : NoBar s := by
    intro hmem
    obtain ⟨as, bs, hs⟩ := List.append_of_mem hmem
    unfold splitKey at h
    rw [hs, List.splitOn_append_cons_self, List.map_append] at h
    have hlen := congrArg List.length h
    rw [List.length_append, List.length_map, List.length_map, List.length_singleton] at hlen
    have ha := List.length_pos_of_ne_nil (List.splitOn_ne_nil '|' as)
    have hb := List.length_pos_of_ne_nil (List.splitOn_ne_nil '|' bs)
    omega
  rw [splitKey_of_noBar hbar] at h
  exact ⟨hbar, List.cons.inj h |>.1⟩

/-- **Two parts** are the label and the number. -/
theorem splitKey_eq_pair {i : SeatIdentity} {row number : String}
    (h : splitKey (seatKey i) = [row, number]) : NoBar i.1 ∧ NoBar i.2 ∧ i = (row, number) := by
  rw [splitKey_seatKey] at h
  obtain ⟨a, as, ha⟩ := List.exists_cons_of_ne_nil (splitKey_ne_nil i.1)
  obtain ⟨b, bs, hb⟩ := List.exists_cons_of_ne_nil (splitKey_ne_nil i.2)
  have has : as = [] := by
    rw [ha, hb] at h
    have hlen := congrArg List.length h
    simp only [List.cons_append, List.length_cons, List.length_append, List.length_nil] at hlen
    exact List.eq_nil_of_length_eq_zero (by omega)
  subst has
  rw [ha, List.singleton_append] at h
  obtain ⟨rfl, htail⟩ := List.cons.inj h
  obtain ⟨hrow, hi⟩ := splitKey_eq_singleton ha
  obtain ⟨hnumber, hj⟩ := splitKey_eq_singleton htail
  exact ⟨hrow, hnumber, Prod.ext hi hj⟩

/-- A key without a second bar is the key of one identity. -/
theorem seatKey_inj {i j : SeatIdentity} (hrow : NoBar i.1) (hnumber : NoBar i.2)
    (h : seatKey j = seatKey i) : j = i := by
  have hi : splitKey (seatKey i) = [i.1, i.2] := by
    rw [splitKey_seatKey, splitKey_of_noBar hrow, splitKey_of_noBar hnumber]
    rfl
  exact (splitKey_eq_pair (h ▸ hi)).2.2

/-! ### What comes back -/

/-- An identity that the server accepts from the editor as it was. -/
structure PlainIdentity (i : SeatIdentity) : Prop where
  label : i.1 ≠ ""
  row : NoBar i.1
  number : NoBar i.2

instance (i : SeatIdentity) : Decidable (PlainIdentity i) :=
  decidable_of_iff (i.1 ≠ "" ∧ NoBar i.1 ∧ NoBar i.2)
    ⟨fun ⟨h1, h2, h3⟩ => ⟨h1, h2, h3⟩, fun h => ⟨h.label, h.row, h.number⟩⟩

/-- `_clean_identity_pairs`, on lists of strings; the set it returns is a list whose order and
    multiplicity nothing reads. -/
def cleanIdentityPairs (raw : List (List String)) : List SeatIdentity :=
  raw.filterMap fun item =>
    match item with
    | [row, number] => if row = "" then none else some (row, number)
    | _ => none

/-- The keys of a list of identities, as a set. -/
def keySet (ids : List SeatIdentity) : List String := (ids.map seatKey).dedup

/-- The keys of a set of seats. -/
theorem mem_keySet {ids : List SeatIdentity} {k : String} :
    k ∈ keySet ids ↔ ∃ i ∈ ids, seatKey i = k := by
  unfold keySet
  rw [List.mem_dedup, List.mem_map]

/-- **The way through the browser** keeps the plain identities and drops the others. -/
theorem mem_cleanIdentityPairs {ids : List SeatIdentity} {i : SeatIdentity} :
    i ∈ cleanIdentityPairs ((keySet ids).map splitKey) ↔ i ∈ ids ∧ PlainIdentity i := by
  unfold cleanIdentityPairs
  rw [List.mem_filterMap]
  constructor
  · rintro ⟨item, hitem, hclean⟩
    obtain ⟨k, hk, rfl⟩ := List.mem_map.mp hitem
    obtain ⟨j, hj, rfl⟩ := mem_keySet.mp hk
    split at hclean
    · rename_i row number hsplit
      obtain ⟨hrow, hnumber, rfl⟩ := splitKey_eq_pair hsplit
      split_ifs at hclean with hempty
      cases hclean
      exact ⟨hj, hempty, hrow, hnumber⟩
    · cases hclean
  · rintro ⟨hi, hplain⟩
    have hsplit : splitKey (seatKey i) = [i.1, i.2] := by
      rw [splitKey_seatKey, splitKey_of_noBar hplain.row, splitKey_of_noBar hplain.number]
      rfl
    refine ⟨[i.1, i.2], List.mem_map.mpr ⟨_, mem_keySet.mpr ⟨i, hi, rfl⟩, hsplit⟩, ?_⟩
    exact if_neg hplain.label

end BoxOffice

import Mathlib.Algebra.Order.Floor.Ring
import Mathlib.Algebra.Order.Round
import Mathlib.Data.List.DropRight
import Mathlib.Data.Nat.Log
import Mathlib.Data.Rat.Floor
import Mathlib.Order.Compare
import Mathlib.Tactic.FieldSimp
import Mathlib.Tactic.Linarith

namespace Numeric

/-!
# Numeric library — decimal numbers as they are typed

The numbers of a decimal floating-point library whose constructor reads text.

* `Decimal` — a sign, a coefficient and an exponent; or an infinity; or a NaN, quiet or
  signaling;
* `decimalOfText` — the grammar of the constructor: blanks around the number and underscores in
  it are dropped, digits of any script count;
* `Decimal.quantize` rounds to a number of places, half to even, within the precision of the
  context; `Decimal.compare?` is the order.  Both signal `InvalidOperation` as `none`.
-/

/-! ### Rounding -/

/-- The nearest integer, ties to even. -/
def halfEven (q : ℚ) : Int :=
  if q - ⌊q⌋ < 1 / 2 then ⌊q⌋
  else if 1 / 2 < q - ⌊q⌋ then ⌊q⌋ + 1
  else if ⌊q⌋ % 2 = 0 then ⌊q⌋ else ⌊q⌋ + 1

/-- A whole number is rounded to itself. -/
theorem halfEven_intCast (n : Int) : halfEven n = n := by
  unfold halfEven
  rw [Int.floor_intCast, sub_self, if_pos (by norm_num)]

/-- Rounding keeps nonnegative numbers so. -/
theorem halfEven_nonneg {q : ℚ} (h : 0 ≤ q) : 0 ≤ halfEven q := by
  have hfloor : 0 ≤ ⌊q⌋ := Int.floor_nonneg.mpr h
  unfold halfEven
  split_ifs <;> omega

/-- And nonpositive ones. -/
theorem halfEven_nonpos {q : ℚ} (h : q ≤ 0) : halfEven q ≤ 0 := by
  rcases h.eq_or_lt with rfl | hneg
  · exact (halfEven_intCast 0).le
  · have hfloor : ⌊q⌋ < 0 := Int.floor_lt.mpr (by simpa using hneg)
    unfold halfEven
    split_ifs <;> omega

/-- Below an even number, a tie is rounded to it and no longer below. -/
theorem halfEven_lt_iff {q : ℚ} {n : Int} (hn : n % 2 = 0) : halfEven q < n ↔ q < n - 1 / 2 := by
  have hle : (⌊q⌋ : ℚ) ≤ q := Int.floor_le q
  have hlt : q < ⌊q⌋ + 1 := Int.lt_floor_add_one q
  have hcast (a b : Int) : (a : ℚ) < b ↔ a < b := Int.cast_lt
  unfold halfEven
  split_ifs with hless hmore heven
  -- Below the tie, rounded down.
  · rw [← hcast]
    constructor <;> intro h
    · have hstep : (⌊q⌋ : ℚ) + 1 ≤ n := by exact_mod_cast h
      linarith
    · linarith
  -- Above it, rounded up.
  · rw [← hcast]
    push_cast
    constructor <;> intro h
    · have hint : ⌊q⌋ + 1 < n := by exact_mod_cast h
      have hstep : (⌊q⌋ : ℚ) + 1 + 1 ≤ n := by exact_mod_cast (by omega : ⌊q⌋ + 1 + 1 ≤ n)
      linarith
    · have hstep : (⌊q⌋ : ℚ) < ((n - 1 : Int) : ℚ) := by push_cast; linarith
      have hint : ⌊q⌋ < n - 1 := by exact_mod_cast hstep
      have hnext : ⌊q⌋ + 1 < n := by omega
      exact_mod_cast hnext
  -- At the tie the parity decides; it is even on one side, and `n` is even.
  · have htie : q = ⌊q⌋ + 1 / 2 := by linarith
    have hgap : q < n - 1 / 2 ↔ ((⌊q⌋ + 1 : Int) : ℚ) < (n : ℚ) := by
      push_cast
      constructor <;> intro h <;> linarith
    rw [hgap, hcast]
    omega
  · have htie : q = ⌊q⌋ + 1 / 2 := by linarith
    have hgap : q < n - 1 / 2 ↔ ((⌊q⌋ + 1 : Int) : ℚ) < (n : ℚ) := by
      push_cast
      constructor <;> intro h <;> linarith
    rw [hgap, hcast]

/-- Rounding half to even goes the same way below zero. -/
theorem halfEven_neg (q : ℚ) : halfEven (-q) = -halfEven q := by
  have hle : (⌊q⌋ : ℚ) ≤ q := Int.floor_le q
  have hlt : q < ⌊q⌋ + 1 := Int.lt_floor_add_one q
  rcases hle.eq_or_lt with heq | hfrac
  · rw [← heq, ← Int.cast_neg, halfEven_intCast, halfEven_intCast]
  · -- No integer lies between, so the floor of `-q` is the one below `-⌊q⌋`.
    have hfloor : ⌊-q⌋ = -⌊q⌋ - 1 := by
      rw [Int.floor_eq_iff]
      push_cast
      constructor <;> linarith
    unfold halfEven
    rw [hfloor]
    push_cast
    split_ifs <;> first | omega | (exfalso; linarith)

/-- **The rounded number has few digits** exactly when the number is half a unit below the bound. -/
theorem natAbs_halfEven_lt_iff {q : ℚ} {n : Nat} (hn : n % 2 = 0) :
    (halfEven q).natAbs < n ↔ |q| < n - 1 / 2 := by
  have hpos : halfEven q < n ↔ q < n - 1 / 2 := by
    have h := halfEven_lt_iff (q := q) (n := n) (by omega)
    exact_mod_cast h
  have hneg : -halfEven q < n ↔ -q < n - 1 / 2 := by
    have h := halfEven_lt_iff (q := -q) (n := n) (by omega)
    rw [halfEven_neg] at h
    exact_mod_cast h
  rw [abs_eq_max_neg, max_lt_iff, ← hpos, ← hneg]
  omega

/-! ### Numbers -/

/-- A decimal number: `finite negative coefficient exponent` is `± coefficient * 10 ^ exponent`. -/
inductive Decimal
  | finite (negative : Bool) (coefficient : Nat) (exponent : Int)
  | infinity (negative : Bool)
  | nan (signaling : Bool)
deriving Repr, DecidableEq

namespace Decimal

/-- The value of a finite number. -/
def scaled (negative : Bool) (coefficient : Nat) (exponent : Int) : ℚ :=
  (if negative then -(coefficient : ℚ) else coefficient) * 10 ^ exponent

/-- The digits that an operation of the context may return. -/
def precision : Nat := 28

/-- `d.quantize(Decimal("0.0…1"))` with that many places. -/
def quantize (places : Nat) : Decimal → Option Decimal
  | finite negative coefficient exponent =>
    let n := halfEven (scaled negative coefficient exponent * 10 ^ places)
    if n.natAbs < 10 ^ precision then some (finite negative n.natAbs (-places)) else none
  | infinity _ => none
  | nan true => none
  | nan false => some (nan false)

/-- `d < q`, `d == q` or `d > q`. -/
def compare? (q : ℚ) : Decimal → Option Ordering
  | finite negative coefficient exponent => some (cmp (scaled negative coefficient exponent) q)
  | infinity true => some .lt
  | infinity false => some .gt
  | nan _ => none

variable {negative : Bool} {coefficient : Nat} {exponent : Int}

/-- A number without a sign is nonnegative. -/
theorem scaled_nonneg : 0 ≤ scaled false coefficient exponent :=
  mul_nonneg (Nat.cast_nonneg _) (zpow_nonneg (by norm_num) _)

/-- One with a sign is nonpositive. -/
theorem scaled_nonpos : scaled true coefficient exponent ≤ 0 :=
  mul_nonpos_of_nonpos_of_nonneg (neg_nonpos.mpr (Nat.cast_nonneg _)) (zpow_nonneg (by norm_num) _)

/-- **Rounding keeps the sign**: a quantized number is worth the rounded value. -/
theorem scaled_quantized (places : Nat) :
    scaled negative (halfEven (scaled negative coefficient exponent * 10 ^ places)).natAbs (-places)
      = halfEven (scaled negative coefficient exponent * 10 ^ places) / 10 ^ places := by
  have hten : (0 : ℚ) ≤ 10 ^ places := pow_nonneg (by norm_num) _
  rw [scaled, zpow_neg, zpow_natCast, ← div_eq_mul_inv]
  refine congrArg (· / _) ?_
  cases negative with
  | false =>
    have hround : 0 ≤ halfEven (scaled false coefficient exponent * 10 ^ places) :=
      halfEven_nonneg (mul_nonneg scaled_nonneg hten)
    rw [if_neg Bool.false_ne_true, Nat.cast_natAbs, abs_of_nonneg hround]
  | true =>
    have hround : halfEven (scaled true coefficient exponent * 10 ^ places) ≤ 0 :=
      halfEven_nonpos (mul_nonpos_of_nonpos_of_nonneg scaled_nonpos hten)
    rw [if_pos rfl, Nat.cast_natAbs, abs_of_nonpos hround]
    push_cast
    ring

end Decimal

/-! ### Text -/

/-- What the characters of a text mean: blanks, and the digits of other scripts. -/
structure CharTable where
  isSpace : Char → Bool
  digit : Char → Option Nat

/-- The characters of ASCII, where only space, tab, CR and LF count as blanks. -/
def asciiTable : CharTable where
  isSpace := Char.isWhitespace
  digit := fun _ => none

/-- One character of a number in ASCII, if it can be one. -/
def CharTable.ascii (chars : CharTable) (c : Char) : Option Char :=
  if 0 < c.toNat ∧ c.toNat ≤ 127 then some c
  else if chars.isSpace c then some ' '
  else (chars.digit c).map fun d => Char.ofNat ('0'.toNat + d)

/-- `text.strip()`. -/
def CharTable.strip (chars : CharTable) (text : String) : String :=
  String.ofList ((text.toList.dropWhile chars.isSpace).rdropWhile chars.isSpace)

/-- A text without the blanks around it and without its underscores, in ASCII. -/
def CharTable.numeric (chars : CharTable) (text : String) : Option (List Char) :=
  ((chars.strip text).toList.filter (· != '_')).mapM chars.ascii

/-- The number that digits write. -/
def natOfDigits (l : List Char) : Option Nat :=
  if l.all Char.isDigit then some (l.foldl (fun n c => 10 * n + (c.toNat - '0'.toNat)) 0) else none

/-- The characters before a marker and, where there is one, those after it. -/
def cut (marker : Char → Bool) (l : List Char) : List Char × Option (List Char) :=
  match l.span fun c => !marker c with
  | (before, []) => (before, none)
  | (before, _ :: after) => (before, some after)

/-- An optional sign. -/
def takeSign : List Char → Bool × List Char
  | '-' :: l => (true, l)
  | '+' :: l => (false, l)
  | l => (false, l)

/-- The digits of an exponent, with its sign. -/
def scanExponent (l : List Char) : Option Int :=
  let (negative, digits) := takeSign l
  if digits = [] then none
  else (natOfDigits digits).map fun n => if negative then -(n : Int) else n

/-- The largest adjusted exponent, and the smallest exponent, of a number that is kept exactly. -/
def maxExponent : Int := 999999999999999999
def minExponent : Int := -1999999999999999997

/-- Digits with at most one point, and an exponent. -/
def scanFinite (negative : Bool) (l : List Char) : Option Decimal :=
  let (mantissa, exponent) := cut (fun c => c == 'e' || c == 'E') l
  let (whole, fraction) := cut (· == '.') mantissa
  let places := fraction.getD []
  if whole ++ places = [] then none
  else
    match natOfDigits (whole ++ places), (exponent.map scanExponent).getD (some 0) with
    | some coefficient, some e =>
      if e - places.length + Nat.log 10 coefficient ≤ maxExponent
          ∧ minExponent ≤ e - places.length then
        some (.finite negative coefficient (e - places.length))
      else none
    | _, _ => none

/-- An infinity, a NaN with its payload, or a finite number. -/
def scanUnsigned (negative : Bool) (l : List Char) : Option Decimal :=
  let small := l.map Char.toLower
  if small = "inf".toList ∨ small = "infinity".toList then some (.infinity negative)
  else if "nan".toList.isPrefixOf small then (natOfDigits (l.drop 3)).map fun _ => .nan false
  else if "snan".toList.isPrefixOf small then (natOfDigits (l.drop 4)).map fun _ => .nan true
  else scanFinite negative l

/-- **`Decimal(text)`**; `none` is `InvalidOperation`. -/
def decimalOfText (chars : CharTable) (text : String) : Option Decimal :=
  (chars.numeric text).bind fun l => scanUnsigned (takeSign l).1 (takeSign l).2

/-- What is stripped begins with no blank. -/
theorem dropWhile_rdropWhile_dropWhile {α : Type*} (p : α → Bool) (l : List α) :
    ((l.dropWhile p).rdropWhile p).dropWhile p = (l.dropWhile p).rdropWhile p := by
  cases h : (l.dropWhile p).rdropWhile p with
  | nil => rfl
  | cons c rest =>
    -- The first character is the one that `l.dropWhile p` begins with.
    obtain ⟨tail, htail⟩ : c :: rest <+: l.dropWhile p := h ▸ List.rdropWhile_prefix p _
    have hhead : (l.dropWhile p).head? = some c := by rw [← htail]; rfl
    have hc : p c = false := by
      have := List.head?_dropWhile_not p l
      rw [hhead] at this
      exact this
    rw [List.dropWhile_cons_of_neg (by simp [hc])]

/-- Stripping twice is stripping. -/
theorem CharTable.strip_strip (chars : CharTable) (text : String) :
    chars.strip (chars.strip text) = chars.strip text := by
  unfold CharTable.strip
  rw [String.toList_ofList, dropWhile_rdropWhile_dropWhile, List.rdropWhile_idempotent]

/-- The constructor strips its text itself. -/
theorem decimalOfText_strip (chars : CharTable) (text : String) :
    decimalOfText chars (chars.strip text) = decimalOfText chars text := by
  unfold decimalOfText CharTable.numeric
  rw [chars.strip_strip]

example : (["45.50", " -1_000 ", "1e3", "-Infinity", "sNaN12", "1.2.3", ""].map
    (decimalOfText asciiTable))
    = [some (.finite false 4550 (-2)), some (.finite true 1000 0), some (.finite false 1 3),
      some (.infinity true), some (.nan true), none, none] := by
  decide +kernel

end Numeric

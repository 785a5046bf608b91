import BoxOffice.Numeric.Decimal
import BoxOffice.Orders.HoldCalls
import BoxOffice.System

namespace BoxOffice

open Relational Numeric

/-!
# Typed amounts — the four parsers of money

What a typed text becomes in `orders.services.set_hold_donation`, `donations.views._parse_amount`,
`dashboard.views._parse_price` and `dashboard.views.performance_zone_apply`.

* `Typed` — an amount, no amount, a message of the parser's own, or the `InvalidOperation` that a
  comparison or a rounding signals outside the parser's `try`;
* `Typed.Sound` — what each of them should make of every text;
* `typed_amounts_iff` — on which texts each of them does, and that the two donation parsers accept
  the same texts with the same amounts.
-/

/-- What a parser makes of a text. -/
inductive Typed
  | amount (value : Decimal)
  | blank
  | refused (message : String)
  | invalidOperation
deriving Repr, DecidableEq

/-! ### The parsers -/

/-- The two comparisons of a donation, whose cap is 10000. -/
def boundedDonation (capped : String) (amount : Decimal) : Typed :=
  match amount.compare? 0 with
  | none => .invalidOperation
  | some .gt =>
    match amount.compare? 10000 with
    | none => .invalidOperation
    | some .gt => .refused capped
    | some _ => .amount amount
  | some _ => .refused "Please enter a donation amount greater than zero."

/-- The amount of `set_hold_donation`: converted and rounded in one `try`. -/
def holdDonationAmount (chars : CharTable) (text : String) : Typed :=
  match (decimalOfText chars text).bind (Decimal.quantize 2) with
  | none => .refused "Please enter a valid donation amount."
  | some amount => boundedDonation
      "Donations through checkout are capped at 10000; please contact the box office for a larger gift."
      amount

/-- `_parse_amount`: only the conversion is in the `try`. -/
def parseAmountText (chars : CharTable) (raw : String) : Typed :=
  match decimalOfText chars (chars.strip raw) with
  | none => .refused "Please enter a valid donation amount."
  | some amount =>
    match amount.quantize 2 with
    | none => .invalidOperation
    | some amount => boundedDonation
        "Donations here are capped at 10000; please contact the box office for a larger gift."
        amount

/-- `_parse_price`. -/
def parsePriceText (chars : CharTable) (raw : String) : Typed :=
  if chars.strip raw = "" then .blank
  else
    match decimalOfText chars (chars.strip raw) with
    | none => .refused "Enter a number, e.g. 45 or 45.00."
    | some amount =>
      match amount.compare? 0 with
      | none => .invalidOperation
      | some .lt => .refused "Price can't be negative."
      | some _ =>
        match amount.quantize 2 with
        | none => .invalidOperation
        | some amount => .amount amount

/-- The amount of `performance_zone_apply`, which is not rounded. -/
def zoneAmount (chars : CharTable) (raw : String) : Typed :=
  match decimalOfText chars (chars.strip raw) with
  | none => .refused "Enter a valid price."
  | some amount =>
    match amount.compare? 0 with
    | none => .invalidOperation
    | some .lt => .refused "Price can't be negative."
    | some _ => .amount amount

/-! ### What they should do -/

/-- A finite amount of at most two decimals and ten digits, worth `cents`. -/
def IsMoney (amount : Decimal) (cents : Cents) : Prop :=
  cents.natAbs < 10 ^ 10 ∧ ∃ negative coefficient exponent,
    amount = .finite negative coefficient exponent ∧
      Decimal.scaled negative coefficient exponent = cents / 100

/-- No exception escapes, and an amount is money of the right sign. -/
inductive Typed.Sound (sign : Cents → Prop) : Typed → Prop
  | amount {value : Decimal} {cents : Cents} :
      IsMoney value cents → sign cents → Sound sign (.amount value)
  | blank : Sound sign .blank
  | refused {message : String} : Sound sign (.refused message)

/-- The cents that the column of a donation is given. -/
def storedCents : Decimal → Cents
  | .finite negative coefficient exponent =>
    halfEven (Decimal.scaled negative coefficient exponent * 100)
  | _ => 0

/-- What leaves a function that reads an amount: one of its own errors, or the exception. -/
inductive TypedError
  | own (e : ServiceError)
  | invalidOperation

/-- `set_hold_donation`, from the posted text on. -/
def setHoldDonationTyped (chars : CharTable) (now : Time) (organization : Nat)
    (sessionKey : String) (holdId : PostedId) (text : String) (campaign : Nat) :
    Service Db TypedError Unit :=
  Service.atomic do
    let db ← Service.read
    match findActiveHold db now organization sessionKey holdId.toOption with
    | none =>
      Service.raise
        (.own (.holdError "Your selection has expired. Please make your selection again."))
    | some hold =>
      match holdDonationAmount chars text with
      | .amount amount =>
        Service.write (saveDonation hold.id (some (storedCents amount)) (some campaign))
      | .refused message => Service.raise (.own (.holdError message))
      | .blank => pure ()
      | .invalidOperation => Service.raise .invalidOperation

/-- A call ends with its own error and nothing stored, or with a positive gift of money stored on
    the session's hold. -/
inductive DonationStored (db : Db) (now : Time) (organization : Nat) (sessionKey : String)
    (holdId : PostedId) (campaign : Nat) : Except TypedError Unit × Db → Prop
  | refused (message : String) :
      DonationStored db now organization sessionKey holdId campaign
        (.error (.own (.holdError message)), db)
  | stored (hold : Hold) (cents : Cents) :
      findActiveHold db now organization sessionKey holdId.toOption = some hold →
      0 < cents → cents ≤ maxHoldDonation →
      DonationStored db now organization sessionKey holdId campaign
        (.ok (), saveDonation hold.id (some cents) (some campaign) db)

/-- Whatever the call and the database are, the text is treated so. -/
def HoldDonationSound (chars : CharTable) (text : String) : Prop :=
  ∀ db now organization sessionKey holdId campaign,
    DonationStored db now organization sessionKey holdId campaign
      (setHoldDonationTyped chars now organization sessionKey holdId text campaign db)

/-! ### On which texts they do -/

/-- A finite number that is, in cents, more than half a cent below `10 ^ digits`, either side of
    zero. -/
def RoundsWithin (digits : Nat) (amount : Decimal) : Prop :=
  ∃ negative coefficient exponent, amount = .finite negative coefficient exponent ∧
    |Decimal.scaled negative coefficient exponent * 100| < (10 ^ digits : Nat) - 1 / 2

/-- A number below zero. -/
def IsNegative (amount : Decimal) : Prop := amount.compare? 0 = some .lt

section Parsers

variable {chars : CharTable} {text capped : String} {amount : Decimal} {negative : Bool}
  {coefficient : Nat} {exponent : Int} {cents : Cents}

/-- What holds of every parsed amount holds of the one that was parsed. -/
theorem forall_parsed {p : Decimal → Prop} : (∀ d, some amount = some d → p d) ↔ p amount :=
  ⟨fun h => h _ rfl, fun h _ hd => Option.some_inj.mp hd ▸ h⟩

/-- The number that rounding to cents gives. -/
def rounded (negative : Bool) (coefficient : Nat) (exponent : Int) : Decimal :=
  .finite negative (storedCents (.finite negative coefficient exponent)).natAbs (-2)

/-- The amount that is stored, in cents. -/
theorem scaled_rounded (negative : Bool) (coefficient : Nat) (exponent : Int) :
    Decimal.scaled negative (storedCents (.finite negative coefficient exponent)).natAbs (-2)
      = (storedCents (.finite negative coefficient exponent) : ℚ) / 100 := by
  have hten : (100 : ℚ) = 10 ^ 2 := by norm_num
  unfold storedCents
  dsimp only
  rw [hten]
  exact Decimal.scaled_quantized 2

/-- A finite number is rounded, unless it has more digits than the context. -/
theorem quantize_finite :
    Decimal.quantize 2 (.finite negative coefficient exponent)
      = if (storedCents (.finite negative coefficient exponent)).natAbs < 10 ^ 28 then
          some (rounded negative coefficient exponent)
        else none := by
  have hten : (10 : ℚ) ^ 2 = 100 := by norm_num
  unfold Decimal.quantize rounded storedCents
  dsimp only
  rw [hten]
  rfl

/-- An amount rounds within so many digits if its cents have no more. -/
theorem roundsWithin_iff {digits : Nat} (hdigits : digits ≠ 0) :
    RoundsWithin digits (.finite negative coefficient exponent) ↔
      (storedCents (.finite negative coefficient exponent)).natAbs < 10 ^ digits := by
  have heven : 10 ^ digits % 2 = 0 :=
    Nat.mod_eq_zero_of_dvd ((by norm_num : 2 ∣ 10).trans (dvd_pow_self 10 hdigits))
  unfold storedCents
  dsimp only
  rw [natAbs_halfEven_lt_iff heven]
  constructor
  · rintro ⟨negative', coefficient', exponent', heq, hlt⟩
    injection heq with hn hc he
    subst hn hc he
    exact hlt
  · exact fun hlt => ⟨negative, coefficient, exponent, rfl, hlt⟩

/-- Only finite amounts round at all. -/
theorem not_roundsWithin {digits : Nat}
    (h : ∀ negative coefficient exponent, amount ≠ .finite negative coefficient exponent) :
    ¬ RoundsWithin digits amount :=
  fun ⟨_, _, _, heq, _⟩ => h _ _ _ heq

/-- The comparison of a number worth whole cents is that of its cents. -/
theorem compare_cents {k : Cents} (bound : Int)
    (h : Decimal.scaled negative coefficient exponent = (k : ℚ) / 100) :
    (Decimal.finite negative coefficient exponent).compare? bound
      = some (cmp k (bound * 100)) := by
  have hmono : StrictMono fun n : Int => (n : ℚ) / 100 := by
    intro a b hab
    have hcast : (a : ℚ) < b := by exact_mod_cast hab
    show (a : ℚ) / 100 < b / 100
    linarith
  have hbound : (bound : ℚ) = ((bound * 100 : Int) : ℚ) / 100 := by push_cast; ring
  have hcmp := hmono.cmp_map_eq k (bound * 100)
  unfold Decimal.compare?
  dsimp only at hcmp ⊢
  rw [h, hbound, hcmp]

/-- A number worth `k` cents is money of `k` cents alone. -/
theorem isMoney_iff {k : Cents} (h : Decimal.scaled negative coefficient exponent = (k : ℚ) / 100) :
    IsMoney (.finite negative coefficient exponent) cents ↔
      cents = k ∧ k.natAbs < 10 ^ 10 := by
  constructor
  · rintro ⟨hfew, negative', coefficient', exponent', heq, hworth⟩
    injection heq with hn hc he
    subst hn hc he
    have hsame : (cents : ℚ) = k := by linarith
    have hcents : cents = k := by exact_mod_cast hsame
    subst hcents
    exact ⟨rfl, hfew⟩
  · rintro ⟨rfl, hfew⟩
    exact ⟨hfew, _, _, _, rfl, h⟩

/-- An infinite amount is no money. -/
theorem not_isMoney_infinity : ¬ IsMoney (.infinity negative) cents := by
  rintro ⟨-, _, _, _, heq, -⟩
  cases heq

/-- Nor is one that is no number. -/
theorem not_isMoney_nan {signaling : Bool} : ¬ IsMoney (.nan signaling) cents := by
  rintro ⟨-, _, _, _, heq, -⟩
  cases heq

/-- Money of a number that is not negative is not negative. -/
theorem exists_money_nonneg (h : 0 ≤ Decimal.scaled negative coefficient exponent) :
    (Typed.amount (.finite negative coefficient exponent)).Sound (0 ≤ ·) ↔
      ∃ cents, IsMoney (.finite negative coefficient exponent) cents := by
  constructor
  · rintro ⟨hmoney, -⟩
    exact ⟨_, hmoney⟩
  · rintro ⟨cents, hmoney⟩
    refine .amount hmoney ?_
    obtain ⟨-, negative', coefficient', exponent', heq, hworth⟩ := hmoney
    injection heq with hn hc he
    subst hn hc he
    have hcents : (0 : ℚ) ≤ cents := by linarith
    exact_mod_cast hcents

/-- A bound on an amount, without its sign. -/
theorem natAbs_lt_of_bounds {k : Int} {bound : Nat} (hpos : 0 ≤ k) (hlt : k ≤ bound - 1) :
    k.natAbs < bound := by
  omega

/-! ### The two parsers of donations -/

/-- A rounded number is accepted between zero and the cap. -/
theorem boundedDonation_rounded :
    boundedDonation capped (rounded negative coefficient exponent)
      = (let cents := storedCents (.finite negative coefficient exponent)
         if cents ≤ 0 then .refused "Please enter a donation amount greater than zero."
         else if maxHoldDonation < cents then .refused capped
         else .amount (rounded negative coefficient exponent)) := by
  have hworth := scaled_rounded negative coefficient exponent
  have hzero := compare_cents 0 hworth
  have hcap := compare_cents 10000 hworth
  rw [Int.cast_zero, zero_mul] at hzero
  rw [Int.cast_ofNat, show (10000 : Int) * 100 = maxHoldDonation from rfl] at hcap
  unfold boundedDonation rounded
  dsimp only
  rw [hzero, hcap]
  rcases lt_trichotomy (storedCents (.finite negative coefficient exponent)) 0 with h | h | h
  · rw [(cmp_eq_lt_iff _ _).mpr h, if_pos h.le]
  · rw [h, cmp_self_eq_eq, if_pos le_rfl]
  · rw [(cmp_eq_gt_iff _ _).mpr h, if_neg h.not_ge]
    rcases lt_trichotomy (storedCents (.finite negative coefficient exponent)) maxHoldDonation
      with h' | h' | h'
    · rw [(cmp_eq_lt_iff _ _).mpr h', if_neg h'.not_gt]
    · rw [h', cmp_self_eq_eq, if_neg (lt_irrefl _)]
    · rw [(cmp_eq_gt_iff _ _).mpr h', if_pos h']

/-- Only a price may be left blank. -/
theorem boundedDonation_ne_blank : boundedDonation capped amount ≠ .blank := by
  unfold boundedDonation
  split
  · nofun
  · split <;> nofun
  · nofun

/-- The caps differ in their text alone. -/
theorem boundedDonation_same_amount {capped' : String} {value : Decimal} :
    boundedDonation capped value = .amount amount ↔
      boundedDonation capped' value = .amount amount := by
  unfold boundedDonation
  rcases value.compare? 0 with _ | _ | _ | _
  · exact Iff.rfl
  · exact Iff.rfl
  · exact Iff.rfl
  · rcases value.compare? 10000 with _ | _ | _ | _
    · exact Iff.rfl
    · exact Iff.rfl
    · exact Iff.rfl
    · exact iff_of_false nofun nofun

/-- What a donation that is accepted is worth. -/
theorem boundedDonation_amount
    (h : boundedDonation capped (rounded negative coefficient exponent) = .amount amount) :
    amount = rounded negative coefficient exponent
      ∧ 0 < storedCents (.finite negative coefficient exponent)
      ∧ storedCents (.finite negative coefficient exponent) ≤ maxHoldDonation := by
  rw [boundedDonation_rounded] at h
  dsimp only at h
  split_ifs at h with hpos hcap
  injection h with h
  exact ⟨h.symm, not_le.mp hpos, not_lt.mp hcap⟩

/-- A finite number is refused or accepted, never blank and never an exception. -/
theorem boundedDonation_sound :
    (boundedDonation capped (rounded negative coefficient exponent)).Sound (0 < ·) := by
  cases h : boundedDonation capped (rounded negative coefficient exponent) with
  | amount value =>
    obtain ⟨rfl, hpos, hcap⟩ := boundedDonation_amount h
    refine .amount ((isMoney_iff (scaled_rounded negative coefficient exponent)).mpr ⟨rfl, ?_⟩) hpos
    exact natAbs_lt_of_bounds hpos.le (hcap.trans (by decide))
  | blank => exact .blank
  | refused message => exact .refused
  | invalidOperation =>
    rw [boundedDonation_rounded] at h
    dsimp only at h
    split_ifs at h

/-- The checkout parser raises its own errors, except on a quiet NaN. -/
theorem holdDonationAmount_sound (h : decimalOfText chars text ≠ some (.nan false)) :
    (holdDonationAmount chars text).Sound (0 < ·) := by
  unfold holdDonationAmount
  cases hd : decimalOfText chars text with
  | none => exact .refused
  | some d =>
    cases d with
    | infinity negative => exact .refused
    | nan signaling =>
      cases signaling with
      | true => exact .refused
      | false => exact absurd hd h
    | finite negative coefficient exponent =>
      rw [Option.bind_some, quantize_finite]
      by_cases hfew : (storedCents (.finite negative coefficient exponent)).natAbs < 10 ^ 28
      · rw [if_pos hfew]
        exact boundedDonation_sound
      · rw [if_neg hfew]
        exact .refused

/-- An accepted gift is a rounded one, between zero and the cap. -/
theorem holdDonationAmount_amount (h : holdDonationAmount chars text = .amount amount) :
    ∃ negative coefficient exponent,
      decimalOfText chars text = some (.finite negative coefficient exponent)
      ∧ amount = rounded negative coefficient exponent
      ∧ 0 < storedCents (.finite negative coefficient exponent)
      ∧ storedCents (.finite negative coefficient exponent) ≤ maxHoldDonation := by
  unfold holdDonationAmount at h
  cases hd : decimalOfText chars text with
  | none => rw [hd] at h; cases h
  | some d =>
    rw [hd, Option.bind_some] at h
    cases d with
    | infinity negative => cases h
    | nan signaling => cases signaling <;> cases h
    | finite negative coefficient exponent =>
      rw [quantize_finite] at h
      split_ifs at h with hfew
      exact ⟨negative, coefficient, exponent, rfl, boundedDonation_amount h⟩

/-- The amount of a gift is never blank. -/
theorem holdDonationAmount_ne_blank : holdDonationAmount chars text ≠ .blank := by
  unfold holdDonationAmount
  split
  · nofun
  · exact boundedDonation_ne_blank

/-- Rounding an amount that is stored keeps it. -/
theorem storedCents_rounded :
    storedCents (rounded negative coefficient exponent)
      = storedCents (.finite negative coefficient exponent) := by
  have hworth := scaled_rounded negative coefficient exponent
  have hcents : Decimal.scaled negative
      (storedCents (.finite negative coefficient exponent)).natAbs (-2) * 100
        = storedCents (.finite negative coefficient exponent) := by
    rw [hworth]
    ring
  rw [rounded, storedCents, hcents]
  exact halfEven_intCast _

section Call

variable {db : Db} {now : Time} {organization campaign : Nat} {sessionKey : String}
  {holdId : PostedId}

/-- Without a cart nothing is typed in. -/
theorem setHoldDonationTyped_none
    (hfind : findActiveHold db now organization sessionKey holdId.toOption = none) :
    setHoldDonationTyped chars now organization sessionKey holdId text campaign db
      = (.error (.own (.holdError
          "Your selection has expired. Please make your selection again.")), db) := by
  simp only [setHoldDonationTyped, Service.atomic, Service.read_bind, hfind, Service.raise_apply]

/-- On a hold that is there, the parser decides. -/
theorem setHoldDonationTyped_some {hold : Hold}
    (hfind : findActiveHold db now organization sessionKey holdId.toOption = some hold) :
    setHoldDonationTyped chars now organization sessionKey holdId text campaign db
      = match holdDonationAmount chars text with
        | .amount amount =>
          (.ok (), saveDonation hold.id (some (storedCents amount)) (some campaign) db)
        | .refused message => (.error (.own (.holdError message)), db)
        | .blank => (.ok (), db)
        | .invalidOperation => (.error .invalidOperation, db) := by
  cases hparsed : holdDonationAmount chars text with
  | amount value =>
    simp only [setHoldDonationTyped, Service.atomic, Service.read_bind, hfind, hparsed,
      Service.write_apply]
  | refused message =>
    simp only [setHoldDonationTyped, Service.atomic, Service.read_bind, hfind, hparsed,
      Service.raise_apply]
  | blank =>
    simp only [setHoldDonationTyped, Service.atomic, Service.read_bind, hfind, hparsed,
      Service.pure_apply]
  | invalidOperation =>
    simp only [setHoldDonationTyped, Service.atomic, Service.read_bind, hfind, hparsed,
      Service.raise_apply]

end Call

/-- A buyer's cart for the exception to be raised on. -/
theorem sampleCarts_holds :
    (findActiveHold sampleCarts.db 0 1 "a" (Except.ok 1 : PostedId).toOption).isSome := by
  decide +kernel

/-- **`set_hold_donation`** stores a positive gift or raises its own error with nothing stored, on
    every text but a quiet NaN. -/
theorem holdDonationSound_iff :
    HoldDonationSound chars text ↔ decimalOfText chars text ≠ some (.nan false) := by
  constructor
  · intro h hnan
    -- A quiet NaN is rounded without complaint, and raises when it is compared.
    have hparsed : holdDonationAmount chars text = .invalidOperation := by
      unfold holdDonationAmount
      rw [hnan]
      rfl
    obtain ⟨hold, hfind⟩ := Option.isSome_iff_exists.mp sampleCarts_holds
    have hstored := h sampleCarts.db 0 1 "a" (.ok 1) 1
    rw [setHoldDonationTyped_some hfind, hparsed] at hstored
    cases hstored
  · intro h db now organization sessionKey holdId campaign
    have hsound := holdDonationAmount_sound h
    cases hfind : findActiveHold db now organization sessionKey holdId.toOption with
    | none =>
      rw [setHoldDonationTyped_none hfind]
      exact .refused _
    | some hold =>
      rw [setHoldDonationTyped_some hfind]
      cases hparsed : holdDonationAmount chars text with
      -- What is stored is the parsed amount, rounded to cents.
      | amount value =>
        obtain ⟨negative, coefficient, exponent, -, rfl, hpos, hcap⟩ :=
          holdDonationAmount_amount hparsed
        dsimp only
        rw [storedCents_rounded]
        exact .stored hold _ hfind hpos hcap
      | refused message => exact .refused _
      | blank => exact absurd hparsed holdDonationAmount_ne_blank
      | invalidOperation =>
        rw [hparsed] at hsound
        cases hsound

/-- `_parse_amount` strips a text that the constructor strips again. -/
theorem parseAmountText_eq :
    parseAmountText chars text
      = match decimalOfText chars text with
        | none => .refused "Please enter a valid donation amount."
        | some amount =>
          match amount.quantize 2 with
          | none => .invalidOperation
          | some amount => boundedDonation
              "Donations here are capped at 10000; please contact the box office for a larger gift."
              amount := by
  unfold parseAmountText
  rw [decimalOfText_strip]

/-- **`_parse_amount`** lets the exception of its rounding or of its comparison escape. -/
theorem parseAmountText_sound_iff :
    (parseAmountText chars text).Sound (0 < ·) ↔
      ∀ d, decimalOfText chars text = some d → RoundsWithin 28 d := by
  rw [parseAmountText_eq]
  cases hd : decimalOfText chars text with
  | none => exact ⟨fun _ => nofun, fun _ => .refused⟩
  | some d =>
    rw [forall_parsed]
    cases d with
    | infinity negative => exact iff_of_false nofun (not_roundsWithin nofun)
    | nan signaling =>
      refine iff_of_false (fun h => ?_) (not_roundsWithin nofun)
      cases signaling <;> cases h
    | finite negative coefficient exponent =>
      dsimp only
      rw [quantize_finite, roundsWithin_iff (by decide)]
      split_ifs with hfew
      · exact iff_of_true boundedDonation_sound hfew
      · exact iff_of_false nofun hfew

/-- The two donation parsers accept the same texts, with the same amounts. -/
theorem same_donations :
    holdDonationAmount chars text = .amount amount ↔ parseAmountText chars text = .amount amount := by
  rw [parseAmountText_eq]
  unfold holdDonationAmount
  cases hd : decimalOfText chars text with
  | none => exact iff_of_false nofun nofun
  | some d =>
    rw [Option.bind_some]
    dsimp only
    cases hq : d.quantize 2 with
    | none => exact iff_of_false nofun nofun
    | some value =>
      dsimp only
      exact boundedDonation_same_amount

/-! ### The two parsers of prices -/

/-- The comparison with zero tells the sign. -/
theorem compare_zero_finite :
    (Decimal.finite negative coefficient exponent).compare? 0
      = some (cmp (Decimal.scaled negative coefficient exponent) 0) := rfl

/-- An amount is negative if it is less than zero. -/
theorem isNegative_iff :
    IsNegative (.finite negative coefficient exponent) ↔
      Decimal.scaled negative coefficient exponent < 0 := by
  unfold IsNegative
  rw [compare_zero_finite, Option.some_inj, cmp_eq_lt_iff]

/-- A blank text is no number. -/
theorem decimalOfText_of_blank (h : chars.strip text = "") : decimalOfText chars text = none := by
  rw [← decimalOfText_strip, h]
  have hstrip : chars.strip "" = "" := by
    rw [← h, chars.strip_strip, h]
  unfold decimalOfText CharTable.numeric
  rw [hstrip]
  rfl

/-- A price that is not negative, once rounded, is money when its column holds it. -/
theorem quantized_price_sound (hnonneg : 0 ≤ Decimal.scaled negative coefficient exponent) :
    (match Decimal.quantize 2 (.finite negative coefficient exponent) with
      | none => Typed.invalidOperation
      | some amount => Typed.amount amount).Sound (0 ≤ ·) ↔
      (storedCents (.finite negative coefficient exponent)).natAbs < 10 ^ 10 := by
  have hcents : 0 ≤ storedCents (.finite negative coefficient exponent) :=
    halfEven_nonneg (mul_nonneg hnonneg (by norm_num))
  rw [quantize_finite]
  split_ifs with hfew
  · constructor
    · rintro ⟨hmoney, -⟩
      exact ((isMoney_iff (scaled_rounded negative coefficient exponent)).mp hmoney).2
    · intro h
      exact .amount ((isMoney_iff (scaled_rounded negative coefficient exponent)).mpr ⟨rfl, h⟩) hcents
  · exact iff_of_false nofun fun h => hfew (h.trans (by norm_num))

/-- **`_parse_price`** of a number that is not negative lets the exception of its rounding escape,
    or keeps an amount that its column does not hold. -/
theorem parsePriceText_sound_iff :
    (parsePriceText chars text).Sound (0 ≤ ·) ↔
      ∀ d, decimalOfText chars text = some d → IsNegative d ∨ RoundsWithin 10 d := by
  unfold parsePriceText
  by_cases hblank : chars.strip text = ""
  · rw [if_pos hblank, decimalOfText_of_blank hblank]
    exact ⟨fun _ => nofun, fun _ => .blank⟩
  rw [if_neg hblank, decimalOfText_strip]
  cases hd : decimalOfText chars text with
  | none => exact ⟨fun _ => nofun, fun _ => .refused⟩
  | some d =>
    rw [forall_parsed]
    cases d with
    -- Infinity cannot be rounded: the exception is not caught.
    | infinity negative =>
      cases negative with
      | true => exact iff_of_true .refused (.inl rfl)
      | false => exact iff_of_false nofun (not_or.mpr ⟨nofun, not_roundsWithin nofun⟩)
    | nan signaling => exact iff_of_false nofun (not_or.mpr ⟨nofun, not_roundsWithin nofun⟩)
    | finite negative coefficient exponent =>
      rw [isNegative_iff, roundsWithin_iff (by decide)]
      dsimp only
      rw [compare_zero_finite]
      rcases lt_trichotomy (Decimal.scaled negative coefficient exponent) 0 with hneg | hzero | hpos
      · rw [(cmp_eq_lt_iff _ _).mpr hneg]
        exact iff_of_true .refused (.inl hneg)
      · rw [(cmp_eq_eq_iff _ _).mpr hzero, or_iff_right hzero.not_lt]
        exact quantized_price_sound hzero.ge
      · rw [(cmp_eq_gt_iff _ _).mpr hpos, or_iff_right hpos.not_gt]
        exact quantized_price_sound hpos.le

/-- **`performance_zone_apply`** takes a number that is not negative as it is. -/
theorem zoneAmount_sound_iff :
    (zoneAmount chars text).Sound (0 ≤ ·) ↔
      ∀ d, decimalOfText chars text = some d → IsNegative d ∨ ∃ cents, IsMoney d cents := by
  unfold zoneAmount
  rw [decimalOfText_strip]
  cases hd : decimalOfText chars text with
  | none => exact ⟨fun _ => nofun, fun _ => .refused⟩
  | some d =>
    rw [forall_parsed]
    cases d with
    | infinity negative =>
      cases negative with
      | true => exact iff_of_true .refused (.inl rfl)
      -- Infinity is a number that is not negative, and no amount.
      | false =>
        refine iff_of_false ?_ (not_or.mpr ⟨nofun, fun ⟨_, h⟩ => not_isMoney_infinity h⟩)
        rintro ⟨h, -⟩
        exact not_isMoney_infinity h
    | nan signaling =>
      exact iff_of_false nofun (not_or.mpr ⟨nofun, fun ⟨_, h⟩ => not_isMoney_nan h⟩)
    | finite negative coefficient exponent =>
      rw [isNegative_iff]
      dsimp only
      rw [compare_zero_finite]
      -- A finite number is refused below zero, and taken as it is from zero on.
      rcases lt_trichotomy (Decimal.scaled negative coefficient exponent) 0 with hneg | hzero | hpos
      · rw [(cmp_eq_lt_iff _ _).mpr hneg]
        exact iff_of_true .refused (.inl hneg)
      · rw [(cmp_eq_eq_iff _ _).mpr hzero, or_iff_right hzero.not_lt]
        exact exists_money_nonneg hzero.ge
      · rw [(cmp_eq_gt_iff _ _).mpr hpos, or_iff_right hpos.not_gt]
        exact exists_money_nonneg hpos.le

/-- **On which texts each parser of money does what it should**, whatever blanks and digits the
    characters are: it reports its own error and stores nothing, or gives money of two decimals,
    ten digits and the right sign.  The two parsers of donations accept the same texts, with the
    same amounts. -/
theorem typed_amounts_iff (chars : CharTable) (text : String) :
    (HoldDonationSound chars text ↔ decimalOfText chars text ≠ some (.nan false))
    ∧ ((parseAmountText chars text).Sound (0 < ·) ↔
        ∀ d, decimalOfText chars text = some d → RoundsWithin 28 d)
    ∧ ((parsePriceText chars text).Sound (0 ≤ ·) ↔
        ∀ d, decimalOfText chars text = some d → IsNegative d ∨ RoundsWithin 10 d)
    ∧ ((zoneAmount chars text).Sound (0 ≤ ·) ↔
        ∀ d, decimalOfText chars text = some d → IsNegative d ∨ ∃ cents, IsMoney d cents)
    ∧ ∀ amount, holdDonationAmount chars text = .amount amount ↔
        parseAmountText chars text = .amount amount :=
  ⟨holdDonationSound_iff, parseAmountText_sound_iff, parsePriceText_sound_iff,
    zoneAmount_sound_iff, fun _ => same_donations⟩

end Parsers

/-- A hundred million is no money of ten digits. -/
theorem parsePriceText_large : ¬ (parsePriceText asciiTable "100000000").Sound (0 ≤ ·) := by
  intro h
  have hparsed : decimalOfText asciiTable "100000000" = some (.finite false 100000000 0) := by
    decide +kernel
  have hfits := (@parsePriceText_sound_iff asciiTable "100000000").mp h
  rcases hfits _ hparsed with hneg | hfits
  · exact absurd (isNegative_iff.mp hneg) Decimal.scaled_nonneg.not_gt
  · have hfew := (roundsWithin_iff (by decide)).mp hfits
    have hcents : storedCents (.finite false 100000000 0) = 10000000000 := by decide +kernel
    rw [hcents] at hfew
    omega

/-- Three decimals are no cents. -/
theorem zoneAmount_long : ¬ (zoneAmount asciiTable "45.123").Sound (0 ≤ ·) := by
  intro h
  have hparsed : decimalOfText asciiTable "45.123" = some (.finite false 45123 (-3)) := by
    decide +kernel
  have hfits := (@zoneAmount_sound_iff asciiTable "45.123").mp h
  rcases hfits _ hparsed with hneg | ⟨cents, -, _, _, _, heq, hworth⟩
  · exact absurd (isNegative_iff.mp hneg) Decimal.scaled_nonneg.not_gt
  · injection heq with hn hc he
    subst hn hc he
    have hcents : (45123 : ℚ) = 10 * cents := by
      unfold Decimal.scaled at hworth
      norm_num at hworth
      linarith
    have hint : (45123 : Int) = 10 * cents := by exact_mod_cast hcents
    omega

/-- `NaN` makes an exception escape from all four, `Infinity` from two, and the two parsers of
    prices take an amount that no column holds. -/
theorem typed_amounts_unsound :
    ¬ HoldDonationSound asciiTable "NaN"
    ∧ parseAmountText asciiTable "NaN" = .invalidOperation
    ∧ parsePriceText asciiTable "NaN" = .invalidOperation
    ∧ zoneAmount asciiTable "NaN" = .invalidOperation
    ∧ parseAmountText asciiTable "Infinity" = .invalidOperation
    ∧ parsePriceText asciiTable "Infinity" = .invalidOperation
    ∧ ¬ (parsePriceText asciiTable "100000000").Sound (0 ≤ ·)
    ∧ ¬ (zoneAmount asciiTable "45.123").Sound (0 ≤ ·) := by
  have hnan : ¬ HoldDonationSound asciiTable "NaN" := by
    rw [holdDonationSound_iff]
    decide +kernel
  refine ⟨hnan, ?_, ?_, ?_, ?_, ?_, parsePriceText_large, zoneAmount_long⟩ <;> decide +kernel

end BoxOffice

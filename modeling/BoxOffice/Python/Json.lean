import BoxOffice.Numeric.Decimal
import BoxOffice.Numeric.Digits

namespace Python

open Numeric

/-!
# Python library — JSON values and the built-ins that convert them

What `json.loads` returns, and what `str`, `int`, `float` and `bool` make of it.

* `Floats` — the floating-point numbers as a parameter: their operations, the integers too large
  for them, the infinite ones;
* `Builtins` — these with the built-ins on text;
* `Json` — a value; an object keeps its keys in order;
* `Json.toInt`, `Json.toFloat` raise the exception that the built-in raises;
* `Extended` — exact numbers with infinities and a NaN, as an instance to evaluate with.
-/

/-- An exception of a built-in operation. -/
inductive PyError
  | typeError | valueError | overflowError | keyError | attributeError
deriving Repr, DecidableEq

/-- Is the exception caught by `except (TypeError, ValueError)`? -/
def PyError.Conversion (e : PyError) : Prop := e = .typeError ∨ e = .valueError

instance (e : PyError) : Decidable e.Conversion :=
  inferInstanceAs (Decidable (_ ∨ _))

/-! ### Numbers and text -/

/-- Floating-point numbers.  `sin` and `cos` are those of a number that is not infinite. -/
structure Floats (F : Type) where
  /-- The number that a literal denotes. -/
  lit : ℚ → F
  /-- `float(n)`, where it does not overflow. -/
  ofInt : Int → F
  overflows : Int → Bool
  /-- `int(x)`. -/
  toInt : F → Except PyError Int
  add : F → F → F
  sub : F → F → F
  mul : F → F → F
  div : F → F → F
  neg : F → F
  abs : F → F
  radians : F → F
  sin : F → F
  cos : F → F
  lt : F → F → Bool
  le : F → F → Bool
  isZero : F → Bool
  isInfinite : F → Bool
  isZero_one : isZero (lit 1) = false

section Floats

variable {F : Type} (py : Floats F)

/-- `math.sin`, which raises on an infinity. -/
def Floats.sin? (x : F) : Except PyError F :=
  if py.isInfinite x then .error .valueError else .ok (py.sin x)

/-- `math.cos`. -/
def Floats.cos? (x : F) : Except PyError F :=
  if py.isInfinite x then .error .valueError else .ok (py.cos x)

/-- `max(a, b)`. -/
def Floats.max (a b : F) : F := if py.lt a b then b else a

/-- `min(a, b)`. -/
def Floats.min (a b : F) : F := if py.lt b a then b else a

end Floats

/-- The numbers and the built-ins on text. -/
structure Builtins (F : Type) extends Floats F where
  chars : CharTable
  isSpace_printable : ∀ c : Char, 32 < c.toNat → c.toNat < 127 → chars.isSpace c = false
  /-- `text.lower()`. -/
  lower : String → String
  /-- Digits have no case. -/
  lower_numbered : ∀ {text : String} {m n : Nat},
    lower s!"{text} ({m})" = lower s!"{text} ({n})" → m = n
  /-- `repr(text)`. -/
  quote : String → String
  /-- `float(text)`; `none` is a `ValueError`. -/
  floatOfText : String → Option F
  floatRepr : F → String

/-- A digit of any script. -/
def digitOf (chars : CharTable) (c : Char) : Option Nat :=
  if c.isDigit then some (c.toNat - '0'.toNat) else chars.digit c

/-- The digits of a text, with single underscores between them. -/
def digitsOf (chars : CharTable) (afterDigit : Bool) : List Char → Option (List Nat)
  | [] => if afterDigit then some [] else none
  | c :: l =>
    if c = '_' then if afterDigit then digitsOf chars false l else none
    else
      match digitOf chars c with
      | none => none
      | some d => (digitsOf chars true l).map (d :: ·)

/-- `int(text)`; `none` is a `ValueError`. -/
def intOfText (chars : CharTable) (text : String) : Option Int :=
  let (negative, l) := takeSign (chars.strip text).toList
  match digitsOf chars false l with
  | none => none
  | some digits =>
    -- The interpreter converts no more digits than this.
    if 4300 < digits.length then none
    else
      let n : Nat := digits.foldl (fun n d => 10 * n + d) 0
      some (if negative then -n else n)

example : ["1", " -01 ", "1_0", "_1", "1__0", "1.0", "Infinity", ""].map (intOfText asciiTable)
    = [some 1, some (-1), some 10, none, none, none, none, none] := by
  decide +kernel

/-! ### Values -/

/-- What `json.loads` returns. -/
inductive Json (F : Type)
  | null
  | bool (b : Bool)
  | int (n : Int)
  | float (x : F)
  | str (s : String)
  | list (items : List (Json F))
  | object (entries : List (String × Json F))

section Json

variable {F : Type} (py : Builtins F)

mutual

/-- `repr(value)`. -/
def Json.repr : Json F → String
  | .null => "None"
  | .bool true => "True"
  | .bool false => "False"
  | .int n => toString n
  | .float x => py.floatRepr x
  | .str s => py.quote s
  | .list items => "[" ++ ", ".intercalate (reprItems items) ++ "]"
  | .object entries => "\x7b" ++ ", ".intercalate (reprEntries entries) ++ "\x7d"

def reprItems : List (Json F) → List String
  | [] => []
  | v :: rest => v.repr :: reprItems rest

def reprEntries : List (String × Json F) → List String
  | [] => []
  | (k, v) :: rest => (py.quote k ++ ": " ++ v.repr) :: reprEntries rest

end

/-- `str(value)`. -/
def Json.text : Json F → String
  | .str s => s
  | v => v.repr py

/-- `bool(value)`. -/
def Json.truthy : Json F → Bool
  | .null => false
  | .bool b => b
  | .int n => n != 0
  | .float x => !py.isZero x
  | .str s => s != ""
  | .list items => !items.isEmpty
  | .object entries => !entries.isEmpty

/-- `str(value or "")`. -/
def Json.textOrEmpty (v : Json F) : String := if v.truthy py then v.text py else ""

/-- `int(value)`. -/
def Json.toInt : Json F → Except PyError Int
  | .bool b => .ok (if b then 1 else 0)
  | .int n => .ok n
  | .float x => py.toInt x
  | .str s => match intOfText py.chars s with
    | some n => .ok n
    | none => .error .valueError
  | .null | .list _ | .object _ => .error .typeError

/-- `float(value)`. -/
def Json.toFloat : Json F → Except PyError F
  | .bool b => .ok (py.ofInt (if b then 1 else 0))
  | .int n => if py.overflows n then .error .overflowError else .ok (py.ofInt n)
  | .float x => .ok x
  | .str s => match py.floatOfText s with
    | some x => .ok x
    | none => .error .valueError
  | .null | .list _ | .object _ => .error .typeError

/-- Is the value a `list` or a `dict`, which cannot be looked up in a set? -/
def Json.unhashable : Json F → Bool
  | .list _ | .object _ => true
  | _ => false

/-- `entries.get(key, default)`. -/
def getKey (entries : List (String × Json F)) (key : String) (default : Json F := .null) :
    Json F :=
  (entries.lookup key).getD default

/-- `value.get`, which only an object has. -/
def Json.entries : Json F → Except PyError (List (String × Json F))
  | .object entries => .ok entries
  | _ => .error .attributeError

/-- `value[key]`. -/
def Json.index (key : String) : Json F → Except PyError (Json F)
  | .object entries => match entries.lookup key with
    | some v => .ok v
    | none => .error .keyError
  | _ => .error .typeError

/-- `for item in value`. -/
def Json.items : Json F → Except PyError (List (Json F))
  | .list items => .ok items
  | .object entries => .ok (entries.map fun e => .str e.1)
  | .str s => .ok (s.toList.map fun c => .str (String.singleton c))
  | _ => .error .typeError

/-- The text of a string. -/
@[simp] theorem Json.text_str (s : String) : (Json.str s : Json F).text py = s := rfl

/-- A string, as text. -/
@[simp] theorem Json.textOrEmpty_str (s : String) :
    (Json.str s : Json F).textOrEmpty py = s := by
  unfold Json.textOrEmpty Json.truthy
  by_cases h : s = "" <;> simp [h]

/-- A whole number, as such. -/
@[simp] theorem Json.toInt_int (n : Int) : (Json.int n : Json F).toInt py = .ok n := rfl

/-- A float, as such. -/
@[simp] theorem Json.toFloat_float (x : F) : (Json.float x).toFloat py = .ok x := rfl

end Json

/-! ### Exact numbers -/

/-- A rational number, an infinity or a NaN. -/
inductive Extended
  | finite (q : ℚ)
  | infinity (negative : Bool)
  | nan
deriving Repr, DecidableEq

namespace Extended

def neg : Extended → Extended
  | finite q => finite (-q)
  | infinity n => infinity !n
  | nan => nan

def add : Extended → Extended → Extended
  | finite a, finite b => finite (a + b)
  | finite _, infinity n | infinity n, finite _ => infinity n
  | infinity m, infinity n => if m = n then infinity m else nan
  | _, _ => nan

/-- A product with an infinity. -/
def signed (negative : Bool) : Extended → Extended
  | finite q => if q = 0 then nan else infinity (negative != decide (q < 0))
  | infinity n => infinity (negative != n)
  | nan => nan

def mul : Extended → Extended → Extended
  | finite a, finite b => finite (a * b)
  | infinity n, x | x, infinity n => signed n x
  | _, _ => nan

def div : Extended → Extended → Extended
  | finite a, finite b => if b = 0 then nan else finite (a / b)
  | finite _, infinity _ => finite 0
  | infinity n, finite q => infinity (n != decide (q < 0))
  | _, _ => nan

def abs : Extended → Extended
  | finite q => finite |q|
  | infinity _ => infinity false
  | nan => nan

def lt : Extended → Extended → Bool
  | finite a, finite b => a < b
  | finite _, infinity n => !n
  | infinity n, finite _ => n
  | infinity m, infinity n => m && !n
  | _, _ => false

def isNumber : Extended → Bool
  | nan => false
  | _ => true

/-- Exact at zero and where it is not finite. -/
def radians : Extended → Extended
  | finite _ => finite 0
  | x => x

def toInt : Extended → Except PyError Int
  | finite q => .ok (q.num.tdiv q.den)
  | infinity _ => .error .overflowError
  | nan => .error .valueError

def ofDecimal : Decimal → Extended
  | .finite negative coefficient exponent => finite (Decimal.scaled negative coefficient exponent)
  | .infinity negative => infinity negative
  | .nan _ => nan

def repr : Extended → String
  | finite q => if q.den = 1 then s!"{q.num}.0" else s!"{q}"
  | infinity n => if n then "-inf" else "inf"
  | nan => "nan"

/-- Exact arithmetic, with trigonometry that is exact at angle zero. -/
def floats : Floats Extended where
  lit := finite
  ofInt n := finite n
  overflows n := decide (2 ^ 1024 - 2 ^ 970 ≤ n.natAbs)
  toInt := toInt
  add := add
  sub a b := add a (neg b)
  mul := mul
  div := div
  neg := neg
  abs := abs
  radians := radians
  sin _ := finite 0
  cos _ := finite 1
  lt := lt
  le a b := isNumber a && isNumber b && !lt b a
  isZero x := x == finite 0
  isInfinite x := x == infinity false || x == infinity true
  isZero_one := by decide +kernel

/-- `text.lower()` in ASCII. -/
def lower (text : String) : String := String.ofList (text.toList.map Char.toLower)

/-- A printable character is no blank. -/
theorem isWhitespace_printable (c : Char) (hlow : 32 < c.toNat) (hhigh : c.toNat < 127) :
    c.isWhitespace = false := by
  rw [Bool.eq_false_iff]
  intro h
  simp only [Char.isWhitespace, Bool.or_eq_true, decide_eq_true_eq] at h
  rcases h with ((rfl | rfl) | rfl) | rfl <;> revert hlow <;> decide

/-- A digit has no lower case. -/
theorem toLower_digit {c : Char} (h : c.isDigit = true) : c.toLower = c := by
  have hnine : c.val ≤ '9'.val := of_decide_eq_true (Bool.and_eq_true_iff.mp h).2
  unfold Char.toLower
  refine dif_neg fun hupper => ?_
  have hgap : 'A'.val ≤ '9'.val := UInt32.le_trans hupper.1 hnine
  revert hgap
  decide

/-- The characters of a numbered text. -/
theorem toList_numbered (text : String) (k : Nat) :
    s!"{text} ({k})".toList = text.toList ++ ' ' :: '(' :: ((toString k).toList ++ [')']) := by
  show (text ++ " (" ++ toString k ++ ")").toList = _
  simp [String.toList_append]

/-- Numbered texts tell their numbers, also in lower case. -/
theorem lower_numbered {text : String} {m n : Nat}
    (h : lower s!"{text} ({m})" = lower s!"{text} ({n})") : m = n := by
  have hdigits (k : Nat) : (toString k).toList.map Char.toLower = (toString k).toList :=
    (List.map_congr_left fun c hc => toLower_digit (isDigit_of_mem_toString hc)).trans
      (List.map_id _)
  have hlist := String.ofList_injective h
  rw [toList_numbered, toList_numbered] at hlist
  simp only [List.map_append, List.map_cons, hdigits, List.append_cancel_left_eq,
    List.cons.injEq, true_and, List.append_cancel_right_eq] at hlist
  exact toString_injective (String.toList_inj.mp hlist)

/-- The built-ins on ASCII text. -/
def builtins : Builtins Extended where
  toFloats := floats
  chars := asciiTable
  isSpace_printable := isWhitespace_printable
  lower := lower
  lower_numbered := lower_numbered
  quote text := s!"'{text}'"
  floatOfText text := (decimalOfText asciiTable text).map ofDecimal
  floatRepr := repr

end Extended

end Python

import Mathlib.Order.Lattice
import Mathlib.Logic.Function.Basic

namespace Transition

/-!
# Expiring entries

A store whose entries are there up to and including their last moment, over any keys, values and
linear order of moments.

* `live` — the entry of a key that is there at a moment; what is there later was there before
  (`live_of_le`);
* `write`, `erase`, `dropAll` change the entries of their own keys only.
-/

/-- A value, and the last moment at which it is there. -/
structure Entry (V T : Type*) where
  value : V
  last : T
deriving DecidableEq

/-- A store of such entries. -/
abbrev ExpiringStore (K V T : Type*) := K → Option (Entry V T)

namespace ExpiringStore

variable {K V T : Type*} [DecidableEq K] [LinearOrder T]

/-- The entry of a key, if it is there at that moment. -/
def live (s : ExpiringStore K V T) (k : K) (now : T) : Option (Entry V T) :=
  (s k).filter fun e => now ≤ e.last

def write (s : ExpiringStore K V T) (k : K) (e : Entry V T) : ExpiringStore K V T :=
  Function.update s k (some e)

def erase (s : ExpiringStore K V T) (k : K) : ExpiringStore K V T := Function.update s k none

def dropAll (s : ExpiringStore K V T) (ks : List K) : ExpiringStore K V T :=
  fun k => if k ∈ ks then none else s k

variable {s : ExpiringStore K V T} {k k' : K} {e : Entry V T} {now later : T}

omit [DecidableEq K] in
/-- An entry is live if it is stored and has not expired. -/
theorem live_eq_some : s.live k now = some e ↔ s k = some e ∧ now ≤ e.last := by
  simp [live, Option.filter_eq_some_iff]

omit [DecidableEq K] in
/-- What is there later is what is there now and lasts. -/
theorem live_of_le (h : now ≤ later) :
    s.live k later = (s.live k now).filter fun e => later ≤ e.last := by
  unfold live
  cases s k with
  | none => rfl
  | some e =>
    by_cases hlater : later ≤ e.last
    · simp [Option.filter_some, hlater, h.trans hlater]
    · by_cases hnow : now ≤ e.last <;> simp [Option.filter_some, hlater, hnow]

/-- What was written is live until it expires. -/
theorem live_write (h : now ≤ e.last) : (s.write k e).live k now = some e := by
  simp [live, write, Option.filter_some, h]

/-- A write leaves the other keys. -/
@[simp]
theorem live_write_of_ne (h : k' ≠ k) : (s.write k e).live k' now = s.live k' now := by
  simp [live, write, h]

/-- What was erased is not live. -/
@[simp]
theorem live_erase : (s.erase k).live k now = none := by
  simp [live, erase]

/-- An erasure leaves the other keys. -/
@[simp]
theorem live_erase_of_ne (h : k' ≠ k) : (s.erase k).live k' now = s.live k' now := by
  simp [live, erase, h]

/-- What was dropped is not live, the rest is as it was. -/
theorem live_dropAll (ks : List K) :
    (s.dropAll ks).live k now = if k ∈ ks then none else s.live k now := by
  unfold live dropAll
  split_ifs <;> rfl

end ExpiringStore

end Transition

import BoxOffice.Transition.Run

namespace Transition

/-!
# Transition library — reservation ledgers

The abstract purpose of a reservation system.  Every resource `r` has a capacity; some of it
is sold, some is held for a while.  A ledger may

* `release` — give back what was sold or held,
* `reserve` — hold more of a resource, as long as it fits beside what is sold,
* `sell` — turn at most what stops being held into sold.

`Ledger.Fits` (nothing is promised twice) is preserved by every move, hence holds along every
run: `Ledger.run_fits`.
-/

/-- What is promised of each resource. -/
structure Ledger (R : Type*) where
  cap : R → Nat
  sold : R → Nat
  held : R → Nat

namespace Ledger

variable {R : Type*}

/-- Sold and held together never exceed the capacity. -/
def Fits (l : Ledger R) : Prop := ∀ r, l.sold r + l.held r ≤ l.cap r

/-- The kinds of moves. -/
inductive Action
  | release | reserve | sell

/-- The moves of a reservation ledger.  None changes a capacity. -/
inductive Move : Ledger R → Action → Ledger R → Prop
  | release {l l'} : l'.cap = l.cap → l'.sold ≤ l.sold → l'.held ≤ l.held → Move l .release l'
  | reserve {l l'} : l'.cap = l.cap → l'.sold = l.sold →
      (∀ r, l'.held r ≤ l.held r ∨ l.sold r + l'.held r ≤ l.cap r) → Move l .reserve l'
  | sell {l l'} (demand : R → Nat) : l'.cap = l.cap →
      (∀ r, l'.held r + demand r ≤ l.held r) → (∀ r, l'.sold r ≤ l.sold r + demand r) →
      Move l .sell l'

/-- No move oversells. -/
theorem Move.fits {l l' : Ledger R} {a : Action} (h : Move l a l') (hf : l.Fits) : l'.Fits := by
  intro r
  have hr := hf r
  cases h with
  | release hcap hsold hheld =>
    have hs : l'.sold r ≤ l.sold r := hsold r
    have hh : l'.held r ≤ l.held r := hheld r
    rw [hcap]
    omega
  | reserve hcap hsold hheld =>
    rw [hcap, hsold]
    rcases hheld r with hle | hfit
    · omega
    · exact hfit
  | sell demand hcap hheld hsold =>
    have hh := hheld r
    have hs := hsold r
    rw [hcap]
    omega

/-- No move changes the capacities. -/
theorem Move.cap_eq {l l' : Ledger R} {a : Action} (h : Move l a l') : l'.cap = l.cap := by
  cases h <;> assumption

/-- The reservation system: it starts from any ledger that fits. -/
def system (R : Type*) : System (Ledger R) Action where
  init := Fits
  step := Move

/-- **No overselling.** Along every run of the reservation system the ledger fits and the
    capacities stay what they were. -/
theorem run_fits {l l' : Ledger R} {as : List Action} (h : Run (system R) l as l')
    (hf : l.Fits) : l'.Fits ∧ l'.cap = l.cap :=
  h.invariant (I := fun k => k.Fits ∧ k.cap = l.cap) ⟨hf, rfl⟩
    fun _ _ _ hu hs => ⟨hs.fits hu.1, hs.cap_eq.trans hu.2⟩

end Ledger

end Transition

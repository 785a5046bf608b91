import Mathlib.Logic.Basic

namespace Relational

/-!
# Relational — programs that write and raise

A service function reads a database, writes it, and may raise.  A `Service` keeps what was
written before the raise, so that "it raised and wrote nothing" is a fact about the program and
not a convention of its type.

* `read`, `write`, `raise` and the monad are what such a function is written with;
* `atomic` is the transaction around it: it rolls back when the body raises;
* `ofExcept` runs a function that returns the next state or an error and no state;
* a program is `Clean` when it raises only with the state untouched: then it needs no
  transaction (`atomic_of_clean`).
-/

/-- A program over the states `σ` that raises `ε` or returns `α`. -/
def Service (σ ε α : Type) : Type := σ → Except ε α × σ

namespace Service

variable {σ ε α β : Type}

instance : Monad (Service σ ε) where
  pure a := fun s => (.ok a, s)
  bind m k := fun s =>
    match m s with
    | (.ok a, t) => k a t
    | (.error e, t) => (.error e, t)

/-- The state as it is now. -/
def read : Service σ ε σ := fun s => (.ok s, s)

/-- Change the state. -/
def write (f : σ → σ) : Service σ ε Unit := fun s => (.ok (), f s)

def raise (e : ε) : Service σ ε α := fun s => (.error e, s)

/-- Roll back what a body wrote before it raised. -/
def atomic (m : Service σ ε α) : Service σ ε α := fun s =>
  match m s with
  | (.ok a, t) => (.ok a, t)
  | (.error e, _) => (.error e, s)

/-- A function that returns the next state, or an error and no state. -/
def ofExcept (f : σ → Except ε (σ × α)) : Service σ ε α := fun s =>
  match f s with
  | .ok (t, a) => (.ok a, t)
  | .error e => (.error e, s)

/-- The program raises only with the state untouched. -/
def Clean (m : Service σ ε α) : Prop := ∀ s e, (m s).1 = .error e → (m s).2 = s

/-! ### Running -/

variable {m : Service σ ε α} {s t : σ} {e : ε} {a : α}

/-- A value, without effect. -/
@[simp] theorem pure_apply : (pure a : Service σ ε α) s = (.ok a, s) := rfl

/-- Reading gives the state. -/
@[simp] theorem read_apply : (read : Service σ ε σ) s = (.ok s, s) := rfl

/-- Writing changes the state. -/
@[simp] theorem write_apply (f : σ → σ) : (write f : Service σ ε Unit) s = (.ok (), f s) := rfl

/-- Raising leaves the state. -/
@[simp] theorem raise_apply : (raise e : Service σ ε α) s = (.error e, s) := rfl

/-- After a statement that succeeds the rest goes on. -/
theorem bind_ok {k : α → Service σ ε β} (h : m s = (.ok a, t)) : (m >>= k) s = k a t := by
  show (match m s with | (.ok a, t) => k a t | (.error e, t) => (.error e, t)) = _
  rw [h]

/-- After a statement that raises nothing more happens. -/
theorem bind_error {k : α → Service σ ε β} (h : m s = (.error e, t)) :
    (m >>= k) s = (.error e, t) := by
  show (match m s with | (.ok a, t) => k a t | (.error e, t) => (.error e, t)) = _
  rw [h]

/-- The rest goes on with the state that was read. -/
@[simp] theorem read_bind {k : σ → Service σ ε β} : (read >>= k) s = k s s := rfl

/-- The rest goes on with the state that was written. -/
@[simp] theorem write_bind {f : σ → σ} {k : Unit → Service σ ε β} :
    (write f >>= k) s = k () (f s) := rfl

/-- A transaction that succeeds is committed. -/
theorem ofExcept_ok {f : σ → Except ε (σ × α)} (h : f s = .ok (t, a)) :
    ofExcept f s = (.ok a, t) := by
  unfold ofExcept
  rw [h]

/-- A transaction that fails is rolled back. -/
theorem ofExcept_error {f : σ → Except ε (σ × α)} (h : f s = .error e) :
    ofExcept f s = (.error e, s) := by
  unfold ofExcept
  rw [h]

/-! ### Raising with the state untouched -/

/-- Where there is no state beside an error, none was changed. -/
theorem clean_ofExcept (f : σ → Except ε (σ × α)) : Clean (ofExcept f) := by
  intro s e h
  cases hf : f s with
  | error e' => rw [ofExcept_error hf]
  | ok r => rw [ofExcept_ok (t := r.1) (a := r.2) hf] at h; cases h

/-- A clean program needs no transaction. -/
theorem atomic_of_clean (h : Clean m) : atomic m = m := by
  funext s
  unfold atomic
  have hs := h s
  rcases hm : m s with ⟨e | a, t⟩
  · rw [hm] at hs
    have ht : t = s := hs e rfl
    rw [ht]
  · rfl

/-- The transaction around a body that an error-or-state function describes. -/
theorem atomic_eq_ofExcept {f : σ → Except ε (σ × α)} (h : m = ofExcept f) :
    atomic m = ofExcept f := by
  subst h
  exact atomic_of_clean (clean_ofExcept f)

/-- A run raises with the state untouched, or does what the function says. -/
theorem ofExcept_cases (f : σ → Except ε (σ × α)) (s : σ) :
    (∃ e, ofExcept f s = (.error e, s)) ∨ ∃ t a, f s = .ok (t, a) ∧ ofExcept f s = (.ok a, t) := by
  cases hf : f s with
  | error e => exact .inl ⟨e, ofExcept_error hf⟩
  | ok r => exact .inr ⟨r.1, r.2, rfl, ofExcept_ok hf⟩

end Service

end Relational

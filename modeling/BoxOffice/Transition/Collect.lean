import BoxOffice.Transition.Run
import Mathlib.Data.List.Induction
import Mathlib.Tactic.SplitIfs

namespace Transition

/-!
# Transition — collecting garbage

A label that only throws away what nothing looks at may run at any time.

* `execAll` runs a list of labels and `outputs` lists the answers of those that are observed;
* `Collector` — a clean-up that commutes with every other label and changes no answer, and the
  labels that run it;
* `Collector.drop`, `Collector.insert` — clean-ups are taken out of a run, and put into it;
* `Collector.invisible` — two runs that differ in their clean-ups give the same answers and end
  in the same state, cleaned up.
-/

variable {σ ι ο : Type*}

/-- The state after a list of labels. -/
def execAll (exec : ι → σ → σ) (is : List ι) (s : σ) : σ := is.foldl (fun t i => exec i t) s

/-- The answers of the labels that are observed, in order. -/
def outputs (exec : ι → σ → σ) (out : ι → σ → ο) (observed : ι → Bool) : List ι → σ → List ο
  | [], _ => []
  | i :: is, s =>
    if observed i then out i s :: outputs exec out observed is (exec i s)
    else outputs exec out observed is (exec i s)

/-- A clean-up, and the labels that do something else. -/
structure Collector (guard : σ → ι → Prop) (exec : ι → σ → σ) (out : ι → σ → ο) where
  collect : σ → σ
  live : ι → Bool
  idem : ∀ s, collect (collect s) = collect s
  label : ∀ s i, live i = false → exec i s = collect s
  guard_collect : ∀ s i, live i = true → (guard (collect s) i ↔ guard s i)
  out_collect : ∀ s i, live i = true → guard s i → out i (collect s) = out i s
  step_collect : ∀ s i, live i = true → guard s i →
    collect (exec i (collect s)) = collect (exec i s)

section Lists

variable {exec : ι → σ → σ} {out : ι → σ → ο} {observed : ι → Bool} {s : σ} {i : ι} {is : List ι}

/-- A run with one more step. -/
theorem execAll_snoc : execAll exec (is ++ [i]) s = exec i (execAll exec is s) := by
  unfold execAll
  rw [List.foldl_append]
  rfl

/-- The outputs with one more step. -/
theorem outputs_snoc : outputs exec out observed (is ++ [i]) s
    = outputs exec out observed is s ++
      if observed i then [out i (execAll exec is s)] else [] := by
  induction is generalizing s with
  | nil => rfl
  | cons j is ih =>
    rw [List.cons_append, outputs, outputs, ih]
    split_ifs <;> rfl

/-- The last step of a run. -/
theorem Run.snoc_inv {S : System σ ι} {t : σ} (h : Run S s (is ++ [i]) t) :
    ∃ u, Run S s is u ∧ S.step u i t := by
  generalize hjs : is ++ [i] = js at h
  cases h with
  | nil => exact absurd hjs (List.append_ne_nil_of_right_ne_nil _ (List.cons_ne_nil _ _))
  | snoc hr hs =>
    obtain ⟨rfl, hi⟩ := List.append_inj' hjs rfl
    obtain rfl := List.head_eq_of_cons_eq hi
    exact ⟨_, hr, hs⟩

/-- The end of a run of a system that executes a function. -/
theorem Run.eq_execAll {init : σ → Prop} {guard : σ → ι → Prop} {t : σ}
    (h : Run (System.ofFun init guard exec) s is t) : t = execAll exec is s := by
  induction h with
  | nil => rfl
  | snoc _ hs ih =>
    rw [execAll_snoc, ← ih]
    exact hs.2

/-- A run under a guard is one under a weaker guard. -/
theorem Run.weaken {init : σ → Prop} {guard guard' : σ → ι → Prop} {t : σ}
    (hguard : ∀ s i, guard s i → guard' s i) (h : Run (System.ofFun init guard exec) s is t) :
    Run (System.ofFun init guard' exec) s is t := by
  induction h with
  | nil => exact .nil
  | snoc _ hs ih => exact ih.snoc ⟨hguard _ _ hs.1, hs.2⟩

/-- Labels that may always run make a run. -/
theorem Run.of_execAll {init : σ → Prop} {guard : σ → ι → Prop}
    (h : ∀ i ∈ is, ∀ t, guard t i) : Run (System.ofFun init guard exec) s is (execAll exec is s) := by
  induction is using List.reverseRecOn with
  | nil => exact .nil
  | append_singleton is i ih =>
    rw [execAll_snoc]
    exact (ih fun j hj => h j (List.mem_append_left _ hj)).snoc
      ⟨h i (List.mem_append_right _ (List.mem_singleton.mpr rfl)) _, rfl⟩

end Lists

namespace Collector

variable {init : σ → Prop} {guard : σ → ι → Prop} {exec : ι → σ → σ} {out : ι → σ → ο}
  (C : Collector guard exec out) {s t : σ} {i : ι} {is js : List ι}

/-- States that are the same cleaned up go on alike. -/
theorem alike (hi : C.live i = true) (hg : guard s i) (h : C.collect t = C.collect s) :
    guard t i ∧ out i t = out i s ∧ C.collect (exec i t) = C.collect (exec i s) := by
  have ht : guard t i := by
    rw [← C.guard_collect t i hi, h, C.guard_collect s i hi]
    exact hg
  refine ⟨ht, ?_, ?_⟩
  · rw [← C.out_collect t i hi ht, h, C.out_collect s i hi hg]
  · rw [← C.step_collect t i hi ht, h, C.step_collect s i hi hg]

/-- A clean-up in one of them does not tell them apart. -/
theorem collect_label (hi : C.live i = false) (h : C.collect t = C.collect s) :
    C.collect (exec i t) = C.collect s := by
  rw [C.label t i hi, C.idem, h]

/-- **Taking clean-ups out.** What is left of a run is a run, with the same answers. -/
theorem drop (h : Run (System.ofFun init guard exec) s is t) :
    Run (System.ofFun init guard exec) s (is.filter C.live)
      (execAll exec (is.filter C.live) s) ∧
    C.collect (execAll exec (is.filter C.live) s) = C.collect t ∧
    outputs exec out C.live (is.filter C.live) s = outputs exec out C.live is s := by
  induction h with
  | nil => exact ⟨.nil, rfl, rfl⟩
  | @snoc is t i u hr hs ih =>
    obtain ⟨hrun, hcollect, hout⟩ := ih
    obtain ⟨hg, rfl⟩ := hs
    cases hi : C.live i with
    | false =>
      rw [List.filter_append, List.filter_cons_of_neg (by rw [hi]; decide), List.filter_nil,
        List.append_nil, outputs_snoc, if_neg (by rw [hi]; decide), List.append_nil]
      exact ⟨hrun, by rw [C.label t i hi, C.idem, hcollect], hout⟩
    | true =>
      obtain ⟨hg', hsame, hstep⟩ := C.alike hi hg hcollect
      rw [List.filter_append, List.filter_cons_of_pos hi, List.filter_nil, execAll_snoc,
        outputs_snoc, outputs_snoc, if_pos hi, if_pos hi, hout, hsame, ← hr.eq_execAll]
      exact ⟨hrun.snoc ⟨hg', rfl⟩, hstep, rfl⟩

/-- **Putting clean-ups in.** A list of labels of which the others are a run gives its answers and
    ends where it does, cleaned up. -/
theorem insert (h : Run (System.ofFun init guard exec) s (js.filter C.live) t) :
    C.collect (execAll exec js s) = C.collect t ∧
    outputs exec out C.live js s = outputs exec out C.live (js.filter C.live) s := by
  induction js using List.reverseRecOn generalizing t with
  | nil => exact ⟨by rw [h.eq_execAll]; rfl, rfl⟩
  | append_singleton js i ih =>
    cases hi : C.live i with
    | false =>
      rw [List.filter_append, List.filter_cons_of_neg (by rw [hi]; decide), List.filter_nil,
        List.append_nil] at h ⊢
      obtain ⟨hcollect, hout⟩ := ih h
      rw [execAll_snoc, outputs_snoc, if_neg (by rw [hi]; decide), List.append_nil]
      exact ⟨C.collect_label hi hcollect, hout⟩
    | true =>
      rw [List.filter_append, List.filter_cons_of_pos hi, List.filter_nil] at h ⊢
      obtain ⟨u, hr, hs⟩ := h.snoc_inv
      obtain ⟨hg, rfl⟩ := hs
      obtain ⟨hcollect, hout⟩ := ih hr
      obtain ⟨-, hsame, hstep⟩ := C.alike hi hg hcollect
      rw [execAll_snoc, outputs_snoc, outputs_snoc, if_pos hi, if_pos hi, hout, hsame,
        ← hr.eq_execAll]
      exact ⟨hstep, rfl⟩

/-- **Clean-ups are invisible.** A list of labels that differs from a run in its clean-ups gives
    the same answers and ends in the same state, cleaned up. -/
theorem invisible (h : Run (System.ofFun init guard exec) s is t)
    (hsame : js.filter C.live = is.filter C.live) :
    C.collect (execAll exec js s) = C.collect t ∧
    outputs exec out C.live js s = outputs exec out C.live is s := by
  obtain ⟨hrun, hcollect, hout⟩ := C.drop h
  rw [← hsame] at hrun hcollect hout
  obtain ⟨hcollect', hout'⟩ := C.insert hrun
  exact ⟨hcollect'.trans hcollect, hout'.trans hout⟩

end Collector

end Transition

import BoxOffice.Editor.History

namespace BoxOffice

open Transition

/-!
# Editor — what undo and redo do

* `EditorState.shaping` — what there is to undo, in its own terms: parameters, overrides as sets,
  and order; `shaping_of_materialKey` says that a change of it changes the key;
* `UndoLaws` — what undo and redo do in a state, and which gestures are recorded;
* `editor_undo_redo` — the laws, in every state that the page can reach.

Values of parameters are any type that `JSON.stringify` tells apart.
-/

section Laws

variable {V : Type}

/-! ### What there is to undo -/

/-- What the editor shapes of a section, its seat overrides as sets. -/
structure SectionShape (V : Type) where
  params : ParamField → V
  arcRadius : V
  arcAmount : V
  removed : Set String
  accessible : Set String

def ShapedSection.shape (s : ShapedSection V) : SectionShape V where
  params := s.params
  arcRadius := s.arcRadius
  arcAmount := s.arcAmount
  removed := {key | key ∈ s.removedIds.items}
  accessible := {key | key ∈ s.accessibleIds.items}

/-- **The material state.** The shapes of the sections the editor lists, and their order. -/
def EditorState.shaping (s : EditorState V) : (ℕ → Option (SectionShape V)) × List ℕ :=
  (fun id => if id ∈ s.sectionOrder then (s.sections id).map ShapedSection.shape else none,
    s.sectionOrder)

def SectionSnapshot.shape (p : SectionSnapshot V) : SectionShape V where
  params := p.params
  arcRadius := p.arcRadius
  arcAmount := p.arcAmount
  removed := {key | key ∈ p.removedIds}
  accessible := {key | key ∈ p.accessibleIds}

/-- The material state that a snapshot has kept. -/
def EditorSnapshot.shaping (snap : EditorSnapshot V) : (ℕ → Option (SectionShape V)) × List ℕ :=
  (fun id => (snap.sections id).map SectionSnapshot.shape, snap.sectionOrder)

/-- A snapshot keeps the material state. -/
theorem shaping_snapshotState (s : EditorState V) : (snapshotState s).shaping = s.shaping := by
  refine Prod.ext (funext fun id => ?_) rfl
  simp only [EditorSnapshot.shaping, snapshotState, EditorState.shaping]
  split
  · rw [Option.map_map]
    rfl
  · rfl

/-- The material state of a snapshot tells its shape. -/
theorem shaping_of_material {a b : EditorSnapshot V} (h : a.material = b.material) :
    a.shaping = b.shaping := by
  obtain ⟨hsections, horder⟩ := Prod.ext_iff.mp h
  simp only [EditorSnapshot.material] at hsections horder
  simp only [EditorSnapshot.shaping, hsections, horder]

/-- That of an editor state does too. -/
theorem EditorState.shaping_of_material {s t : EditorState V} (h : s.material = t.material) :
    s.shaping = t.shaping := by
  rw [← shaping_snapshotState, ← shaping_snapshotState]
  exact BoxOffice.shaping_of_material h

/-- A section's text tells its parameters and overrides. -/
theorem text_injective {stringify : V → Option String} (hjson : Function.Injective stringify) :
    Function.Injective (SectionSnapshot.text stringify) := by
  rintro ⟨params, arcRadius, arcAmount, removed, accessible⟩
    ⟨params', arcRadius', arcAmount', removed', accessible'⟩ h
  simp only [SectionSnapshot.text, Prod.mk.injEq] at h
  obtain ⟨hvalues, rfl, rfl⟩ := h
  obtain ⟨hparams, harc⟩ := List.append_inj hvalues (by simp)
  simp only [List.cons.injEq, and_true] at harc
  obtain rfl := hjson harc.1
  obtain rfl := hjson harc.2
  -- Every field is among those that are written.
  have hfield : ∀ f, f ∈ paramFields := fun f => by cases f <;> decide
  obtain rfl : params = params' :=
    funext fun f => hjson (List.map_inj_left.mp hparams f (hfield f))
  rfl

/-- **The key tells the material state.** States with the same key are shaped alike. -/
theorem shaping_of_materialKey {stringify : V → Option String}
    (hjson : Function.Injective stringify) {s t : EditorState V}
    (h : materialKey stringify (snapshotState s) = materialKey stringify (snapshotState t)) :
    s.shaping = t.shaping := by
  simp only [materialKey, Prod.mk.injEq] at h
  obtain ⟨horder, htexts⟩ := h
  refine EditorState.shaping_of_material (Prod.ext (funext fun id => ?_) horder)
  rw [← show (snapshotState s).sectionOrder = _ from horder] at htexts
  by_cases hid : id ∈ (snapshotState s).sectionOrder
  · exact Option.map_injective (text_injective hjson) (List.map_inj_left.mp htexts id hid)
  · have hid' : id ∉ (snapshotState t).sectionOrder := horder ▸ hid
    rw [show s.material.1 id = none from (restorable_snapshotState s).listed id hid,
      show t.material.1 id = none from (restorable_snapshotState t).listed id hid']

/-! ### The result -/

/-- What a gesture may do between its two ends. -/
inductive InGesture : EditorEvent V → Prop
  | edit (id : ℕ) (written : ShapedSection V) : InGesture (.edit id written)
  | selectSection (id : ℕ) : InGesture (.selectSection id)

/-- The gesture has put one step on the stack, and what had been undone is gone. -/
structure Recorded (stringify : V → Option String) (s t : EditorState V) : Prop where
  undoStack : (endCoalesce stringify t).undoStack
    = (snapshotState s :: (endCoalesce stringify s).undoStack).take historyLimit
  redoStack : (endCoalesce stringify t).redoStack = []
  undone : (undo stringify t).shaping = s.shaping

/-- The gesture has left the stacks as they were. -/
structure Unrecorded (stringify : V → Option String) (s t : EditorState V) : Prop where
  undoStack : (endCoalesce stringify t).undoStack = (endCoalesce stringify s).undoStack
  redoStack : (endCoalesce stringify t).redoStack = (endCoalesce stringify s).redoStack

/-- What undo and redo do in a state of the editor. -/
structure UndoLaws (stringify : V → Option String) (s : EditorState V) : Prop where
  /-- As many redos as undos give the material state back. -/
  inverse : ∀ k ≤ (endCoalesce stringify s).undoStack.length,
    ((redo stringify)^[k] ((undo stringify)^[k] s)).shaping = s.shaping
  /-- Each undo gives back the latest recorded state that is left. -/
  steps : ∀ k (h : k < (endCoalesce stringify s).undoStack.length),
    ((undo stringify)^[k + 1] s).shaping = (endCoalesce stringify s).undoStack[k].shaping
  /-- A gesture that changes a parameter, an override or the order is one step. -/
  recorded : ∀ changes, (∀ e ∈ changes, InGesture e) →
    let t := (beginCoalesce stringify s).run stringify changes
    s.shaping ≠ t.shaping → Recorded stringify s t
  /-- A gesture that leaves every section as it was leaves no trace. -/
  unrecorded : ∀ changes, (∀ e ∈ changes, InGesture e) →
    let t := (beginCoalesce stringify s).run stringify changes
    t.sections = s.sections → Unrecorded stringify s t
  /-- Nor does one that only selects. -/
  selection : ∀ ids : List ℕ,
    Unrecorded stringify s ((beginCoalesce stringify s).run stringify (ids.map .selectSection))
  /-- Begin, undo and redo finalize an open gesture first. -/
  finalized : beginCoalesce stringify (endCoalesce stringify s) = beginCoalesce stringify s ∧
    undo stringify (endCoalesce stringify s) = undo stringify s ∧
    redo stringify (endCoalesce stringify s) = redo stringify s
  bounded : s.undoStack.length ≤ historyLimit

section Proofs

variable {stringify : V → Option String} {s : EditorState V}

/-- Finalizing leaves the material state. -/
theorem material_endCoalesce : (endCoalesce stringify s).material = s.material :=
  congrArg EditorSnapshot.material endCoalesce_sections.2

/-- A gesture leaves the stacks and its baseline alone until it ends. -/
theorem run_inGesture {changes : List (EditorEvent V)} (h : ∀ e ∈ changes, InGesture e) :
    (s.run stringify changes).undoStack = s.undoStack ∧
      (s.run stringify changes).redoStack = s.redoStack ∧
      (s.run stringify changes).pendingBaseline = s.pendingBaseline := by
  induction changes generalizing s with
  | nil => exact ⟨rfl, rfl, rfl⟩
  | cons e changes ih =>
    have hrest := ih (s := s.handle stringify e) fun d hd => h d (List.mem_cons_of_mem _ hd)
    have hstep : (s.handle stringify e).undoStack = s.undoStack ∧
        (s.handle stringify e).redoStack = s.redoStack ∧
        (s.handle stringify e).pendingBaseline = s.pendingBaseline := by
      cases h e (by simp) with
      | edit id written =>
        simp only [EditorState.handle]
        split <;> exact ⟨rfl, rfl, rfl⟩
      | selectSection id => exact ⟨rfl, rfl, rfl⟩
    exact ⟨hrest.1.trans hstep.1, hrest.2.1.trans hstep.2.1, hrest.2.2.trans hstep.2.2⟩

/-- Selecting leaves the sections alone. -/
theorem run_selectSection (ids : List ℕ) :
    (s.run stringify (ids.map .selectSection)).sections = s.sections := by
  induction ids generalizing s with
  | nil => rfl
  | cons id ids ih => exact ih (s := s.handle stringify (.selectSection id))

/-- No gesture moves a section. -/
theorem run_sectionOrder {changes : List (EditorEvent V)} (h : ∀ e ∈ changes, InGesture e) :
    (s.run stringify changes).sectionOrder = s.sectionOrder := by
  induction changes generalizing s with
  | nil => rfl
  | cons e changes ih =>
    refine (ih (s := s.handle stringify e) fun d hd => h d (List.mem_cons_of_mem _ hd)).trans ?_
    cases h e (by simp) with
    | edit id written =>
      simp only [EditorState.handle]
      split <;> rfl
    | selectSection id => rfl

/-- What a snapshot holds apart from the selection comes from the sections and their order. -/
theorem material_congr {t : EditorState V} (hsections : t.sections = s.sections)
    (horder : t.sectionOrder = s.sectionOrder) : t.material = s.material := by
  simp only [EditorState.material, EditorSnapshot.material, snapshotState, hsections, horder]

/-- The key depends on the material state only. -/
theorem materialKey_of_material {a b : EditorSnapshot V} (h : a.material = b.material) :
    materialKey stringify a = materialKey stringify b := by
  obtain ⟨hsections, horder⟩ := Prod.ext_iff.mp h
  simp only [EditorSnapshot.material] at hsections horder
  simp only [materialKey, hsections, horder]

/-- What a gesture that began in `s` ends with. -/
theorem gesture_open {changes : List (EditorEvent V)} (h : ∀ e ∈ changes, InGesture e) :
    let t := (beginCoalesce stringify s).run stringify changes
    t.pendingBaseline = some (snapshotState s) ∧
      t.undoStack = (endCoalesce stringify s).undoStack ∧
      t.redoStack = (endCoalesce stringify s).redoStack := by
  intro t
  obtain ⟨hundo, hredo, hpending⟩ := @run_inGesture V stringify
    (BoxOffice.beginCoalesce stringify s) changes h
  refine ⟨?_, ?_, ?_⟩
  · rw [show t.pendingBaseline = _ from hpending, beginCoalesce_eq]
  · rw [show t.undoStack = _ from hundo, beginCoalesce_eq]
  · rw [show t.redoStack = _ from hredo, beginCoalesce_eq]

/-- A gesture that changes the key is recorded. -/
theorem SoundHistory.recorded (h : SoundHistory s) {changes : List (EditorEvent V)}
    (hchanges : ∀ e ∈ changes, InGesture e)
    (hkey : materialKey stringify (snapshotState s) ≠ materialKey stringify
      (snapshotState ((BoxOffice.beginCoalesce stringify s).run stringify changes))) :
    Recorded stringify s ((BoxOffice.beginCoalesce stringify s).run stringify changes) := by
  obtain ⟨hbase, hstack, -⟩ := @gesture_open V stringify s _ hchanges
  have ht : SoundHistory ((BoxOffice.beginCoalesce stringify s).run stringify changes) :=
    h.beginCoalesce.run changes
  revert hbase hstack ht hkey
  generalize (BoxOffice.beginCoalesce stringify s).run stringify changes = t
  intro hkey hbase hstack ht
  have hend := endCoalesce_of_changed ht.length_le hbase hkey
  refine ⟨by rw [hend, hstack], by rw [hend], ?_⟩
  have hnow : (BoxOffice.undo stringify t).timeline.now
      = (BoxOffice.endCoalesce stringify t).timeline.back.now :=
    congrArg Timeline.now (timeline_undo ht)
  have hpast : (BoxOffice.endCoalesce stringify t).timeline.past
      = s.material :: (t.undoStack.map EditorSnapshot.material).take (historyLimit - 1) := by
    rw [hend]
    simp [EditorState.timeline, historyLimit, EditorState.material, List.map_take]
  exact EditorState.shaping_of_material (hnow.trans (Timeline.now_back hpast))

/-- A gesture that leaves the key leaves no trace. -/
theorem unrecorded_of_key {changes : List (EditorEvent V)} (hchanges : ∀ e ∈ changes, InGesture e)
    (hkey : materialKey stringify (snapshotState s) = materialKey stringify
      (snapshotState ((beginCoalesce stringify s).run stringify changes))) :
    Unrecorded stringify s ((beginCoalesce stringify s).run stringify changes) := by
  obtain ⟨hbase, hundo, hredo⟩ := @gesture_open V stringify s _ hchanges
  have hend := endCoalesce_of_same hbase hkey
  exact ⟨by rw [hend, ← hundo], by rw [hend, ← hredo]⟩

/-- A gesture that leaves the sections leaves no trace. -/
theorem unrecorded_of_sections {changes : List (EditorEvent V)}
    (hchanges : ∀ e ∈ changes, InGesture e)
    (hsections : ((beginCoalesce stringify s).run stringify changes).sections = s.sections) :
    Unrecorded stringify s ((beginCoalesce stringify s).run stringify changes) := by
  have horder : ((beginCoalesce stringify s).run stringify changes).sectionOrder
      = s.sectionOrder := by
    rw [run_sectionOrder hchanges, beginCoalesce_eq]
    exact congrArg EditorSnapshot.sectionOrder endCoalesce_sections.2
  exact unrecorded_of_key hchanges (materialKey_of_material (material_congr hsections horder)).symm

/-- The laws hold of a sound history. -/
theorem SoundHistory.laws (hjson : Function.Injective stringify) (h : SoundHistory s) :
    UndoLaws stringify s where
  inverse k hk := by
    rcases k with _ | k
    · rfl
    -- Undo ends a gesture first, so the laws are shown from there on.
    have hf : SoundHistory (BoxOffice.endCoalesce stringify s) := h.endCoalesce
    obtain ⟨hundo, hnone, hback⟩ := @timeline_undo_iterate V stringify _ hf
      endCoalesce_pendingBaseline (k + 1)
    obtain ⟨-, -, hforward⟩ := @timeline_redo_iterate V stringify _ hundo hnone (k + 1)
    rw [hback, Timeline.forward_back_iterate (by simpa [EditorState.timeline] using hk)]
      at hforward
    rw [undo_iterate_endCoalesce]
    exact EditorState.shaping_of_material
      ((congrArg Timeline.now hforward).trans material_endCoalesce)
  steps k hk := by
    -- The same for each of the steps back.
    have hf : SoundHistory (BoxOffice.endCoalesce stringify s) := h.endCoalesce
    obtain ⟨-, -, hback⟩ := @timeline_undo_iterate V stringify _ hf
      endCoalesce_pendingBaseline (k + 1)
    rw [undo_iterate_endCoalesce, ← shaping_snapshotState]
    have hlen : k < (BoxOffice.endCoalesce stringify s).timeline.past.length := by
      simpa [EditorState.timeline] using hk
    refine BoxOffice.shaping_of_material ?_
    calc _ = (Timeline.back^[k + 1] (BoxOffice.endCoalesce stringify s).timeline).now :=
          congrArg Timeline.now hback
      _ = (BoxOffice.endCoalesce stringify s).timeline.past[k] := Timeline.now_back_iterate hlen
      _ = _ := by simp [EditorState.timeline]
  recorded changes hchanges := by
    intro t hshaping
    exact h.recorded hchanges fun hkey => hshaping (shaping_of_materialKey hjson hkey)
  unrecorded changes hchanges := by
    intro t hsections
    exact unrecorded_of_sections hchanges hsections
  selection ids := by
    refine unrecorded_of_sections (fun e he => ?_) ?_
    · obtain ⟨id, -, rfl⟩ := List.mem_map.mp he
      exact .selectSection id
    · rw [run_selectSection, beginCoalesce_eq]
      exact endCoalesce_sections.1
  finalized := by
    refine ⟨?_, undo_endCoalesce, redo_endCoalesce⟩
    rw [beginCoalesce_eq, beginCoalesce_eq, endCoalesce_endCoalesce, endCoalesce_sections.2]
  bounded := h.length_le

end Proofs

/-- **Undo and redo are inverse**, over every sequence of events from an editor that has no
    history, for values that `JSON.stringify` tells apart. -/
theorem editor_undo_redo {stringify : V → Option String} (hjson : Function.Injective stringify)
    (sections : ℕ → Option (ShapedSection V)) (sectionOrder : List ℕ) (selectedId : Option ℕ)
    (es : List (EditorEvent V)) :
    UndoLaws stringify
      (EditorState.run stringify ⟨sections, sectionOrder, selectedId, [], [], none⟩ es) := by
  have hloaded : SoundHistory (⟨sections, sectionOrder, selectedId, [], [], none⟩ :
      EditorState V) := soundHistory_clearHistory ⟨sections, sectionOrder, selectedId, [], [], none⟩
  exact (hloaded.run es).laws hjson

end Laws

/-! ### Two gestures -/

/-- `JSON.stringify` of a number of one digit. -/
def jsonDigit (n : Fin 10) : Option String := some n.val.repr

/-- Digits have different texts. -/
theorem jsonDigit_injective : Function.Injective jsonDigit := by
  have htexts : ∀ m n, jsonDigit m = jsonDigit n → m = n := by decide +kernel
  exact fun m n => htexts m n

/-- A section at the origin, without overrides. -/
def plainSection : ShapedSection (Fin 10) where
  params _ := 0
  arcRadius := 0
  arcAmount := 0
  removedIds := ⟨[], List.nodup_nil⟩
  accessibleIds := ⟨[], List.nodup_nil⟩

/-- The section, dragged. -/
def draggedSection : ShapedSection (Fin 10) :=
  { plainSection with params := Function.update plainSection.params .originX 5 }

/-- The dragged section without one of its seats. -/
def sparseSection : ShapedSection (Fin 10) :=
  { draggedSection with removedIds := ⟨["A|1"], by simp⟩ }

/-- A drag, a seat taken out, and a selection that is not finished. -/
def twoGestures : List (EditorEvent (Fin 10)) :=
  [.beginCoalesce, .edit 1 draggedSection, .endCoalesce, .beginCoalesce, .edit 1 sparseSection,
    .endCoalesce, .beginCoalesce, .selectSection 2]

/-- The page with two sections after the events. -/
def afterGestures : EditorState (Fin 10) :=
  EditorState.run jsonDigit ⟨fun _ => some plainSection, [2, 1], some 1, [], [], none⟩ twoGestures

/-- Both gestures are on the stack, two undos and two redos give the sparse section back, and the
    drag of the other section after one undo is recorded and empties the redo stack. -/
theorem editor_undo_redo_gestures :
    (endCoalesce jsonDigit afterGestures).undoStack.length = 2 ∧
    ((redo jsonDigit)^[2] ((undo jsonDigit)^[2] afterGestures)).shaping = afterGestures.shaping ∧
    (undo jsonDigit afterGestures).redoStack.length = 1 ∧
    Recorded jsonDigit (undo jsonDigit afterGestures)
      ((beginCoalesce jsonDigit (undo jsonDigit afterGestures)).run jsonDigit
        [.edit 2 draggedSection]) := by
  have hlaws : UndoLaws jsonDigit afterGestures := editor_undo_redo jsonDigit_injective _ _ _ _
  have hundone : UndoLaws jsonDigit (undo jsonDigit afterGestures) := by
    have hrun : undo jsonDigit afterGestures = EditorState.run jsonDigit
        ⟨fun _ => some plainSection, [2, 1], some 1, [], [], none⟩ (twoGestures ++ [.undo]) := by
      unfold afterGestures EditorState.run
      rw [List.foldl_append]
      rfl
    rw [hrun]
    exact editor_undo_redo jsonDigit_injective _ _ _ _
  have hlen : (endCoalesce jsonDigit afterGestures).undoStack.length = 2 := by decide +kernel
  refine ⟨hlen, hlaws.inverse 2 (Nat.le_of_eq hlen.symm), by decide +kernel,
    hundone.recorded _ (by simpa using .edit 2 draggedSection) fun hsame => ?_⟩
  -- The origin of the other section tells the two states apart.
  have horigin := congrArg (fun m => (m.1 2).map fun p => p.params .originX) hsame
  revert horigin
  decide +kernel

end BoxOffice

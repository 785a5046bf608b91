import BoxOffice.Transition.Timeline
import Mathlib.Logic.Function.Basic
import Mathlib.Tactic.Common

namespace BoxOffice

open Transition

/-!
# Editor — undo and redo

The history of the chart editor (`static/js/chart_editor.js`), over any events of the page.

* `snapshotState` and `restoreState` copy the shaping parameters and the seat overrides;
* `Restorable` — the sections a snapshot lists are the editor's — makes restoring exact;
* `timeline` — the two stacks are a `Timeline` of materials, and `undo` and `redo` its steps;
* `SoundHistory` — the invariant of every run, and how many undos and redos move the timeline.

Values of parameters are any type, with the text that `JSON.stringify` gives them.
-/

/-! ### Sections and snapshots -/

/-- A `Set` of seat keys, in insertion order. -/
structure JsSet where
  items : List String
  nodup : items.Nodup
deriving DecidableEq

namespace JsSet

/-- A new key keeps the set without duplicates. -/
theorem nodup_append {s : JsSet} {key : String} (h : key ∉ s.items) :
    (s.items ++ [key]).Nodup := by
  rw [List.nodup_append]
  refine ⟨s.nodup, by simp, ?_⟩
  rintro a ha b hb rfl
  exact h (List.mem_singleton.mp hb ▸ ha)

/-- `add`. -/
def add (s : JsSet) (key : String) : JsSet :=
  if h : key ∈ s.items then s else ⟨s.items ++ [key], nodup_append h⟩

/-- `new Set(array)`. -/
def ofArray (array : List String) : JsSet := array.foldl add ⟨[], List.nodup_nil⟩

/-- New keys are added to the end, one after another. -/
theorem foldl_add (s : JsSet) (array : List String) (h : (s.items ++ array).Nodup) :
    (array.foldl add s).items = s.items ++ array := by
  induction array generalizing s with
  | nil => simp
  | cons key array ih =>
    have hkey : key ∉ s.items := fun hmem =>
      (List.nodup_append.mp h).2.2 key hmem key (by simp) rfl
    have hadd : (s.add key).items = s.items ++ [key] := by simp [add, hkey]
    rw [List.foldl_cons, ih _ (by rw [hadd]; simpa using h), hadd]
    simp

/-- An array without repetition is the set's own. -/
theorem ofArray_items {array : List String} (h : array.Nodup) :
    (ofArray array).items = array := by
  rw [ofArray, foldl_add _ _ (by simpa using h), List.nil_append]

end JsSet

/-- `PARAM_FIELDS`. -/
inductive ParamField
  | originX | originY | rotation | seatPitch | rowPitch | rowXOffset | offsetMode
  | altRowSeatDelta | rows | seatsPerRow | numberingScheme | rowLabelScheme | pivotMode
  | pivotX | pivotY
deriving Repr, DecidableEq

/-- Every field, in the order of the source. -/
def paramFields : List ParamField :=
  [.originX, .originY, .rotation, .seatPitch, .rowPitch, .rowXOffset, .offsetMode,
    .altRowSeatDelta, .rows, .seatsPerRow, .numberingScheme, .rowLabelScheme, .pivotMode,
    .pivotX, .pivotY]

/-- What the editor shapes of a section. -/
structure ShapedSection (V : Type) where
  params : ParamField → V
  arcRadius : V
  arcAmount : V
  removedIds : JsSet
  accessibleIds : JsSet

/-- A section in a snapshot, its sets as arrays. -/
structure SectionSnapshot (V : Type) where
  params : ParamField → V
  arcRadius : V
  arcAmount : V
  removedIds : List String
  accessibleIds : List String

/-- The parts of a snapshot; the sections are an object keyed by their ids. -/
structure EditorSnapshot (V : Type) where
  sections : ℕ → Option (SectionSnapshot V)
  sectionOrder : List ℕ
  selectedId : Option ℕ

/-- The editor's state, as far as its history reads it; each stack its last entry first. -/
structure EditorState (V : Type) where
  sections : ℕ → Option (ShapedSection V)
  sectionOrder : List ℕ
  selectedId : Option ℕ
  undoStack : List (EditorSnapshot V)
  redoStack : List (EditorSnapshot V)
  pendingBaseline : Option (EditorSnapshot V)

/-- What a handler of the page does. -/
inductive EditorEvent (V : Type)
  | beginCoalesce
  | endCoalesce
  | undo
  | redo
  /-- The fields of a section are written, as a slider, a drag or a seat's popover does. -/
  | edit (id : ℕ) (written : ShapedSection V)
  | selectSection (id : ℕ)
  /-- `reorderSection` adopts the server's order. -/
  | adoptOrder (order : List ℕ)
  /-- `submitNewSection` adds the server's section. -/
  | addSection (id : ℕ) (added : ShapedSection V)

section History

variable {V : Type}

/-- A section as a snapshot holds it. -/
def ShapedSection.snapshot (s : ShapedSection V) : SectionSnapshot V :=
  ⟨s.params, s.arcRadius, s.arcAmount, s.removedIds.items, s.accessibleIds.items⟩

/-- A section written back from a snapshot. -/
def SectionSnapshot.restored (p : SectionSnapshot V) : ShapedSection V :=
  ⟨p.params, p.arcRadius, p.arcAmount, .ofArray p.removedIds, .ofArray p.accessibleIds⟩

/-- `snapshotState`. -/
def snapshotState (s : EditorState V) : EditorSnapshot V where
  sections id := if id ∈ s.sectionOrder then (s.sections id).map ShapedSection.snapshot else none
  sectionOrder := s.sectionOrder
  selectedId := s.selectedId

/-- The JSON text of a section in a snapshot, value by value. -/
def SectionSnapshot.text (stringify : V → Option String) (p : SectionSnapshot V) :
    List (Option String) × List String × List String :=
  (paramFields.map (fun f => stringify (p.params f))
      ++ [stringify p.arcRadius, stringify p.arcAmount],
    p.removedIds, p.accessibleIds)

/-- `materialKey`, in parts. The selection is not among them. -/
def materialKey (stringify : V → Option String) (snap : EditorSnapshot V) :
    List ℕ × List (Option (List (Option String) × List String × List String)) :=
  (snap.sectionOrder, snap.sectionOrder.map fun id =>
    (snap.sections id).map (SectionSnapshot.text stringify))

/-- The loop of `restoreState` over a snapshot's sections. -/
def restoreSections (snap : EditorSnapshot V) (sections : ℕ → Option (ShapedSection V)) :
    List ℕ → ℕ → Option (ShapedSection V)
  | [] => sections
  | id :: ids =>
    match sections id, snap.sections id with
    | some _, some p => restoreSections snap (Function.update sections id (some p.restored)) ids
    | _, _ => restoreSections snap sections ids

/-- `restoreState`. -/
def restoreState (snap : EditorSnapshot V) (s : EditorState V) : EditorState V :=
  let sections := restoreSections snap s.sections snap.sectionOrder
  let known (id : Option ℕ) : Bool := (id.bind sections).isSome
  { s with
    sections := sections
    sectionOrder := snap.sectionOrder
    selectedId :=
      if known snap.selectedId then snap.selectedId
      else if known s.selectedId then s.selectedId
      else snap.sectionOrder.head? }

/-- `_historyLimit`. -/
def historyLimit : ℕ := 100

/-- `endCoalesce`. -/
def endCoalesce (stringify : V → Option String) (s : EditorState V) : EditorState V :=
  match s.pendingBaseline with
  | none => s
  | some baseline =>
    if materialKey stringify baseline = materialKey stringify (snapshotState s) then
      { s with pendingBaseline := none }
    else
      let undoStack := baseline :: s.undoStack
      { s with
        pendingBaseline := none
        undoStack :=
          if historyLimit < undoStack.length then undoStack.dropLast else undoStack
        redoStack := [] }

/-- `beginCoalesce`. -/
def beginCoalesce (stringify : V → Option String) (s : EditorState V) : EditorState V :=
  let s := if s.pendingBaseline.isSome then endCoalesce stringify s else s
  { s with pendingBaseline := some (snapshotState s) }

/-- `undo`. -/
def undo (stringify : V → Option String) (s : EditorState V) : EditorState V :=
  let s := endCoalesce stringify s
  match s.undoStack with
  | [] => s
  | prev :: rest =>
    restoreState prev { s with undoStack := rest, redoStack := snapshotState s :: s.redoStack }

/-- `redo`. -/
def redo (stringify : V → Option String) (s : EditorState V) : EditorState V :=
  let s := endCoalesce stringify s
  match s.redoStack with
  | [] => s
  | next :: rest =>
    restoreState next { s with undoStack := snapshotState s :: s.undoStack, redoStack := rest }

/-- `clearHistory`. -/
def clearHistory (s : EditorState V) : EditorState V :=
  { s with undoStack := [], redoStack := [], pendingBaseline := none }

/-- One handler. -/
def EditorState.handle (stringify : V → Option String) (s : EditorState V) :
    EditorEvent V → EditorState V
  | .beginCoalesce => BoxOffice.beginCoalesce stringify s
  | .endCoalesce => BoxOffice.endCoalesce stringify s
  | .undo => BoxOffice.undo stringify s
  | .redo => BoxOffice.redo stringify s
  | .edit id written =>
    if (s.sections id).isSome then
      { s with sections := Function.update s.sections id (some written) } else s
  | .selectSection id => { s with selectedId := some id }
  | .adoptOrder order => clearHistory { s with sectionOrder := order }
  | .addSection id added =>
    clearHistory { s with
      sections := Function.update s.sections id (some added)
      sectionOrder := s.sectionOrder ++ [id] }

/-- Handlers in turn. -/
def EditorState.run (stringify : V → Option String) (s : EditorState V)
    (es : List (EditorEvent V)) : EditorState V := es.foldl (EditorState.handle stringify) s

/-! ### Restoring -/

/-- Section parameters, seat overrides and section order. -/
def EditorSnapshot.material (snap : EditorSnapshot V) :
    (ℕ → Option (SectionSnapshot V)) × List ℕ := (snap.sections, snap.sectionOrder)

/-- The material state of the editor. -/
def EditorState.material (s : EditorState V) : (ℕ → Option (SectionSnapshot V)) × List ℕ :=
  (snapshotState s).material

/-- The sections that a snapshot lists are the editor's, and its arrays came from sets. -/
structure Restorable (sections : ℕ → Option (ShapedSection V)) (snap : EditorSnapshot V) :
    Prop where
  known : ∀ id ∈ snap.sectionOrder, (sections id).isSome = (snap.sections id).isSome
  listed : ∀ id ∉ snap.sectionOrder, snap.sections id = none
  sets : ∀ id p, snap.sections id = some p → p.removedIds.Nodup ∧ p.accessibleIds.Nodup

/-- A snapshot of the state can be restored into it. -/
theorem restorable_snapshotState (s : EditorState V) :
    Restorable s.sections (snapshotState s) := by
  refine ⟨fun id hid => ?_, fun id hid => ?_, fun id p hp => ?_⟩
  · have hid' : id ∈ s.sectionOrder := hid
    simp [snapshotState, hid']
  · have hid' : id ∉ s.sectionOrder := hid
    simp [snapshotState, hid']
  · simp only [snapshotState] at hp
    split at hp
    · obtain ⟨sec, -, rfl⟩ := Option.map_eq_some_iff.mp hp
      exact ⟨sec.removedIds.nodup, sec.accessibleIds.nodup⟩
    · cases hp

/-- Which sections there are is all that counts. -/
theorem Restorable.of_isSome {sections sections' : ℕ → Option (ShapedSection V)}
    {snap : EditorSnapshot V} (h : Restorable sections snap)
    (hsome : ∀ id, (sections' id).isSome = (sections id).isSome) : Restorable sections' snap :=
  ⟨fun id hid => (hsome id).trans (h.known id hid), h.listed, h.sets⟩

/-- A section after the loop of `restoreState`. -/
theorem restoreSections_apply (snap : EditorSnapshot V)
    (sections : ℕ → Option (ShapedSection V)) (ids : List ℕ) (id : ℕ) :
    restoreSections snap sections ids id =
      if id ∈ ids ∧ (sections id).isSome ∧ (snap.sections id).isSome then
        (snap.sections id).map SectionSnapshot.restored
      else sections id := by
  induction ids generalizing sections with
  | nil => simp [restoreSections]
  | cons head ids ih =>
    rcases hold : sections head with _ | old
    · simp only [restoreSections, hold]
      rw [ih]
      by_cases hid : id = head
      · subst hid
        simp [hold]
      · simp [hid]
    · rcases hp : snap.sections head with _ | p
      · simp only [restoreSections, hold, hp]
        rw [ih]
        by_cases hid : id = head
        · subst hid
          simp [hp]
        · simp [hid]
      · simp only [restoreSections, hold, hp]
        rw [ih]
        by_cases hid : id = head
        · subst hid
          simp [hold, hp]
        · simp [hid]

/-- Restoring keeps which sections there are. -/
theorem isSome_restoreSections (snap : EditorSnapshot V)
    (sections : ℕ → Option (ShapedSection V)) (ids : List ℕ) (id : ℕ) :
    (restoreSections snap sections ids id).isSome = (sections id).isSome := by
  rw [restoreSections_apply]
  split
  next h => simp [h.2.1, h.2.2]
  next => rfl

/-- **Restoring is exact.** The order in which the sets were filled included. -/
theorem restoreState_material {snap : EditorSnapshot V} {s : EditorState V}
    (h : Restorable s.sections snap) : (restoreState snap s).material = snap.material := by
  refine Prod.ext (funext fun id => ?_) rfl
  simp only [EditorState.material, EditorSnapshot.material, snapshotState, restoreState,
    restoreSections_apply]
  by_cases hid : id ∈ snap.sectionOrder
  · have hknown := h.known id hid
    rcases hp : snap.sections id with _ | p
    · rw [hp] at hknown
      have hnone : s.sections id = none := by simpa using hknown
      simp [hid, hnone]
    · rw [hp] at hknown
      obtain ⟨hremoved, haccessible⟩ := h.sets id p hp
      simp [hid, hknown, ShapedSection.snapshot, SectionSnapshot.restored,
        JsSet.ofArray_items hremoved, JsSet.ofArray_items haccessible]
  · simp [hid, h.listed id hid]

/-! ### The stacks as a timeline -/

/-- The materials of the two stacks, around that of the editor. -/
def EditorState.timeline (s : EditorState V) :
    Timeline ((ℕ → Option (SectionSnapshot V)) × List ℕ) where
  past := s.undoStack.map EditorSnapshot.material
  now := s.material
  future := s.redoStack.map EditorSnapshot.material

/-- A snapshot that the editor may restore. -/
inductive Held (s : EditorState V) (snap : EditorSnapshot V) : Prop
  | undoStack (h : snap ∈ s.undoStack)
  | redoStack (h : snap ∈ s.redoStack)
  | pendingBaseline (h : s.pendingBaseline = some snap)

/-- The invariant of every run. -/
structure SoundHistory (s : EditorState V) : Prop where
  restorable : ∀ snap, Held s snap → Restorable s.sections snap
  within : s.timeline.Within historyLimit

/-- A sound history is bounded. -/
theorem SoundHistory.length_le {s : EditorState V} (h : SoundHistory s) :
    s.undoStack.length ≤ historyLimit := by
  have := h.within
  simp only [Timeline.Within, EditorState.timeline, List.length_map] at this
  omega

section Handlers

variable {stringify : V → Option String} {s : EditorState V}

/-- Without an open gesture there is nothing to finalize. -/
theorem endCoalesce_of_none (h : s.pendingBaseline = none) : endCoalesce stringify s = s := by
  simp [endCoalesce, h]

/-- A gesture that has changed nothing is dropped. -/
theorem endCoalesce_of_same {baseline : EditorSnapshot V}
    (h : s.pendingBaseline = some baseline)
    (hkey : materialKey stringify baseline = materialKey stringify (snapshotState s)) :
    endCoalesce stringify s = { s with pendingBaseline := none } := by
  simp [endCoalesce, h, hkey]

/-- Dropping the oldest step is keeping the latest ones. -/
theorem take_historyLimit {l : List (EditorSnapshot V)} (h : l.length ≤ historyLimit + 1) :
    (if historyLimit < l.length then l.dropLast else l) = l.take historyLimit := by
  split
  · rw [List.dropLast_eq_take, show l.length - 1 = historyLimit by omega]
  · rw [List.take_of_length_le (by omega)]

/-- A gesture that changed something is recorded, and the oldest step may go. -/
theorem endCoalesce_of_changed (hlen : s.undoStack.length ≤ historyLimit)
    {baseline : EditorSnapshot V} (h : s.pendingBaseline = some baseline)
    (hkey : materialKey stringify baseline ≠ materialKey stringify (snapshotState s)) :
    endCoalesce stringify s =
      { s with
        pendingBaseline := none
        undoStack := (baseline :: s.undoStack).take historyLimit
        redoStack := [] } := by
  rw [← take_historyLimit (by simpa using hlen)]
  simp only [endCoalesce, h, hkey, if_false]

/-- After finalizing no gesture is open. -/
theorem endCoalesce_pendingBaseline :
    (endCoalesce stringify s).pendingBaseline = none := by
  unfold endCoalesce
  split
  · assumption
  · split <;> rfl

/-- Finalizing leaves the sections and what a snapshot shows. -/
theorem endCoalesce_sections : (endCoalesce stringify s).sections = s.sections ∧
    snapshotState (endCoalesce stringify s) = snapshotState s := by
  unfold endCoalesce
  split
  · exact ⟨rfl, rfl⟩
  · split <;> exact ⟨rfl, rfl⟩

/-- Finalizing twice is finalizing once. -/
theorem endCoalesce_endCoalesce :
    endCoalesce stringify (endCoalesce stringify s) = endCoalesce stringify s :=
  endCoalesce_of_none endCoalesce_pendingBaseline

/-- An undo finalizes first. -/
theorem undo_endCoalesce : undo stringify (endCoalesce stringify s) = undo stringify s := by
  simp only [undo, endCoalesce_endCoalesce]

/-- So does a redo. -/
theorem redo_endCoalesce : redo stringify (endCoalesce stringify s) = redo stringify s := by
  simp only [redo, endCoalesce_endCoalesce]

/-- A gesture begins with a snapshot, after the last one is finalized. -/
theorem beginCoalesce_eq : beginCoalesce stringify s =
    { endCoalesce stringify s with pendingBaseline := some (snapshotState s) } := by
  rcases h : s.pendingBaseline with _ | baseline
  · simp [beginCoalesce, h, endCoalesce_of_none h]
  · simp [beginCoalesce, h, (@endCoalesce_sections V stringify s).2]

/-- The step of a recorded gesture, on the timeline. -/
theorem timeline_endCoalesce (h : SoundHistory s) :
    (endCoalesce stringify s).timeline = s.timeline ∨
      ∃ baseline, s.pendingBaseline = some baseline ∧
        (endCoalesce stringify s).timeline
          = s.timeline.record historyLimit baseline.material := by
  rcases hp : s.pendingBaseline with _ | baseline
  · exact .inl (by rw [endCoalesce_of_none hp])
  by_cases hkey : materialKey stringify baseline = materialKey stringify (snapshotState s)
  · exact .inl (by rw [endCoalesce_of_same hp hkey]; rfl)
  · refine .inr ⟨baseline, rfl, ?_⟩
    rw [endCoalesce_of_changed h.length_le hp hkey]
    simp only [EditorState.timeline, Timeline.record, List.map_take, List.map_cons, List.map_nil]
    rfl

/-- Finalizing keeps a history sound. -/
theorem SoundHistory.endCoalesce (h : SoundHistory s) :
    SoundHistory (endCoalesce stringify s) := by
  refine ⟨fun snap hheld => ?_, ?_⟩
  · rw [endCoalesce_sections.1]
    apply h.restorable
    rcases hp : s.pendingBaseline with _ | baseline
    · rwa [endCoalesce_of_none hp] at hheld
    by_cases hkey : materialKey stringify baseline = materialKey stringify (snapshotState s)
    · rw [endCoalesce_of_same hp hkey] at hheld
      cases hheld with
      | undoStack hmem => exact .undoStack hmem
      | redoStack hmem => exact .redoStack hmem
      | pendingBaseline hsome => cases hsome
    · rw [endCoalesce_of_changed h.length_le hp hkey] at hheld
      cases hheld with
      | undoStack hmem =>
        rcases List.mem_cons.mp (List.mem_of_mem_take hmem) with rfl | hmem
        · exact .pendingBaseline hp
        · exact .undoStack hmem
      | redoStack hmem => cases hmem
      | pendingBaseline hsome => cases hsome
  · rcases @timeline_endCoalesce V stringify s h with heq | ⟨baseline, -, heq⟩
    · rw [heq]
      exact h.within
    · rw [heq]
      exact Timeline.within_record _ _ _

/-- A snapshot taken back from one of the stacks, and one put on the other. -/
theorem SoundHistory.restoreState (h : SoundHistory s) {snap : EditorSnapshot V}
    {undoStack redoStack : List (EditorSnapshot V)}
    (hundo : ∀ q ∈ undoStack, Held s q ∨ q = snapshotState s)
    (hredo : ∀ q ∈ redoStack, Held s q ∨ q = snapshotState s)
    (hpending : s.pendingBaseline = none)
    (hwithin : (restoreState snap
      { s with undoStack := undoStack, redoStack := redoStack }).timeline.Within historyLimit) :
    SoundHistory (restoreState snap
      { s with undoStack := undoStack, redoStack := redoStack }) := by
  have restorable : ∀ q, Held s q ∨ q = snapshotState s →
      Restorable (restoreSections snap s.sections snap.sectionOrder) q := by
    rintro q (hq | rfl)
    · exact (h.restorable q hq).of_isSome (isSome_restoreSections _ _ _)
    · exact (restorable_snapshotState s).of_isSome (isSome_restoreSections _ _ _)
  refine ⟨fun q hq => ?_, hwithin⟩
  cases hq with
  | undoStack hmem => exact restorable q (hundo q hmem)
  | redoStack hmem => exact restorable q (hredo q hmem)
  | pendingBaseline hsome =>
    have : s.pendingBaseline = some q := hsome
    rw [hpending] at this
    cases this

/-- **Undo** is one step back on the timeline. -/
theorem timeline_undo (h : SoundHistory s) :
    (undo stringify s).timeline = (endCoalesce stringify s).timeline.back := by
  have hf : SoundHistory (BoxOffice.endCoalesce stringify s) := h.endCoalesce
  unfold undo
  generalize BoxOffice.endCoalesce stringify s = f at hf ⊢
  rcases hstack : f.undoStack with _ | ⟨prev, rest⟩
  · simp [EditorState.timeline, hstack, Timeline.back]
  · have hprev : Restorable f.sections prev := hf.restorable prev (.undoStack (by simp [hstack]))
    have hmaterial := restoreState_material (s :=
      { f with undoStack := rest, redoStack := snapshotState f :: f.redoStack }) hprev
    simp only [EditorState.timeline, Timeline.back, hstack, List.map_cons, hmaterial]
    rfl

/-- **Redo** is one step forward. -/
theorem timeline_redo (h : SoundHistory s) :
    (redo stringify s).timeline = (endCoalesce stringify s).timeline.forward := by
  have hf : SoundHistory (BoxOffice.endCoalesce stringify s) := h.endCoalesce
  unfold redo
  generalize BoxOffice.endCoalesce stringify s = f at hf ⊢
  rcases hstack : f.redoStack with _ | ⟨next, rest⟩
  · simp [EditorState.timeline, hstack, Timeline.forward]
  · have hnext : Restorable f.sections next := hf.restorable next (.redoStack (by simp [hstack]))
    have hmaterial := restoreState_material (s :=
      { f with undoStack := snapshotState f :: f.undoStack, redoStack := rest }) hnext
    simp only [EditorState.timeline, Timeline.forward, hstack, List.map_cons, hmaterial]
    rfl

/-- After an undo no gesture is open. -/
theorem undo_pendingBaseline : (undo stringify s).pendingBaseline = none := by
  have hnone : (endCoalesce stringify s).pendingBaseline = none := endCoalesce_pendingBaseline
  rcases hstack : (endCoalesce stringify s).undoStack with _ | ⟨snap, rest⟩
  · simpa only [undo, hstack] using hnone
  · simp only [undo, hstack]
    exact hnone

/-- Nor after a redo. -/
theorem redo_pendingBaseline : (redo stringify s).pendingBaseline = none := by
  have hnone : (endCoalesce stringify s).pendingBaseline = none := endCoalesce_pendingBaseline
  rcases hstack : (endCoalesce stringify s).redoStack with _ | ⟨snap, rest⟩
  · simpa only [redo, hstack] using hnone
  · simp only [redo, hstack]
    exact hnone

/-- An undo keeps a history sound. -/
theorem SoundHistory.undo (h : SoundHistory s) : SoundHistory (undo stringify s) := by
  have hf : SoundHistory (BoxOffice.endCoalesce stringify s) := h.endCoalesce
  have hnone : (BoxOffice.endCoalesce stringify s).pendingBaseline = none :=
    endCoalesce_pendingBaseline
  have hwithin : (BoxOffice.undo stringify s).timeline.Within historyLimit := by
    rw [timeline_undo h]
    exact hf.within.back
  unfold BoxOffice.undo at hwithin ⊢
  generalize BoxOffice.endCoalesce stringify s = f at hf hnone hwithin ⊢
  rcases hstack : f.undoStack with _ | ⟨prev, rest⟩
  · simpa only [hstack] using hf
  · simp only [hstack] at hwithin ⊢
    refine hf.restoreState ?_ ?_ hnone hwithin
    · exact fun q hq => .inl (.undoStack (by simp [hstack, hq]))
    · intro q hq
      rcases List.mem_cons.mp hq with rfl | hq
      · exact .inr rfl
      · exact .inl (.redoStack hq)

/-- So does a redo. -/
theorem SoundHistory.redo (h : SoundHistory s) : SoundHistory (redo stringify s) := by
  have hf : SoundHistory (BoxOffice.endCoalesce stringify s) := h.endCoalesce
  have hnone : (BoxOffice.endCoalesce stringify s).pendingBaseline = none :=
    endCoalesce_pendingBaseline
  have hwithin : (BoxOffice.redo stringify s).timeline.Within historyLimit := by
    rw [timeline_redo h]
    exact hf.within.forward
  unfold BoxOffice.redo at hwithin ⊢
  generalize BoxOffice.endCoalesce stringify s = f at hf hnone hwithin ⊢
  rcases hstack : f.redoStack with _ | ⟨next, rest⟩
  · simpa only [hstack] using hf
  · simp only [hstack] at hwithin ⊢
    refine hf.restoreState ?_ ?_ hnone hwithin
    · intro q hq
      rcases List.mem_cons.mp hq with rfl | hq
      · exact .inr rfl
      · exact .inl (.undoStack hq)
    · exact fun q hq => .inl (.redoStack (by simp [hstack, hq]))

/-- So does the begin of a gesture. -/
theorem SoundHistory.beginCoalesce (h : SoundHistory s) :
    SoundHistory (beginCoalesce stringify s) := by
  have hf : SoundHistory (BoxOffice.endCoalesce stringify s) := h.endCoalesce
  rw [beginCoalesce_eq]
  refine ⟨fun snap hheld => ?_, hf.within⟩
  cases hheld with
  | undoStack hmem => exact hf.restorable snap (.undoStack hmem)
  | redoStack hmem => exact hf.restorable snap (.redoStack hmem)
  | pendingBaseline hsome =>
    obtain rfl : snapshotState s = snap := Option.some.inj hsome
    refine (restorable_snapshotState s).of_isSome fun id => ?_
    show ((BoxOffice.endCoalesce stringify s).sections id).isSome = _
    rw [endCoalesce_sections.1]

/-- A history that was wiped. -/
theorem soundHistory_clearHistory (s : EditorState V) : SoundHistory (clearHistory s) := by
  refine ⟨fun snap hheld => ?_, by simp [Timeline.Within, EditorState.timeline, clearHistory]⟩
  rcases hheld with hmem | hmem | hsome
  · cases hmem
  · cases hmem
  · cases hsome

/-- Every handler keeps the invariant. -/
theorem SoundHistory.handle (h : SoundHistory s) (e : EditorEvent V) :
    SoundHistory (s.handle stringify e) := by
  cases e with
  | beginCoalesce => exact h.beginCoalesce
  | endCoalesce => exact h.endCoalesce
  | undo => exact h.undo
  | redo => exact h.redo
  | edit id written =>
    -- An edit writes one section that is there, so what is held can still be restored.
    simp only [EditorState.handle]
    split
    next hid =>
      refine ⟨fun snap hheld => ?_, h.within⟩
      refine Restorable.of_isSome (h.restorable snap ?_) fun id' => ?_
      · rcases hheld with hmem | hmem | hsome
        · exact .undoStack hmem
        · exact .redoStack hmem
        · exact .pendingBaseline hsome
      · by_cases heq : id' = id
        · subst heq
          simp [hid]
        · simp [heq]
    next => exact h
  | selectSection id =>
    refine ⟨fun snap hheld => h.restorable snap ?_, h.within⟩
    -- A selection holds nothing more than before.
    rcases hheld with hmem | hmem | hsome
    · exact .undoStack hmem
    · exact .redoStack hmem
    · exact .pendingBaseline hsome
  | adoptOrder order => exact soundHistory_clearHistory _
  | addSection id added => exact soundHistory_clearHistory _

/-- **The run.** Every history the page can reach is sound. -/
theorem SoundHistory.run (h : SoundHistory s) (es : List (EditorEvent V)) :
    SoundHistory (s.run stringify es) := by
  induction es generalizing s with
  | nil => exact h
  | cons e es ih => exact ih (h.handle e)

/-! ### Many undos, and redos -/

/-- Undos from a state with no gesture open, on the timeline. -/
theorem timeline_undo_iterate (h : SoundHistory s) (hnone : s.pendingBaseline = none) (k : ℕ) :
    SoundHistory ((BoxOffice.undo stringify)^[k] s) ∧
      ((BoxOffice.undo stringify)^[k] s).pendingBaseline = none ∧
      ((BoxOffice.undo stringify)^[k] s).timeline = Timeline.back^[k] s.timeline := by
  induction k with
  | zero => exact ⟨h, hnone, rfl⟩
  | succ k ih =>
    obtain ⟨hk, hknone, htime⟩ := ih
    rw [Function.iterate_succ_apply', Function.iterate_succ_apply']
    exact ⟨hk.undo, undo_pendingBaseline,
      by rw [timeline_undo hk, endCoalesce_of_none hknone, htime]⟩

/-- Redos move along one timeline. -/
theorem timeline_redo_iterate (h : SoundHistory s) (hnone : s.pendingBaseline = none) (k : ℕ) :
    SoundHistory ((BoxOffice.redo stringify)^[k] s) ∧
      ((BoxOffice.redo stringify)^[k] s).pendingBaseline = none ∧
      ((BoxOffice.redo stringify)^[k] s).timeline = Timeline.forward^[k] s.timeline := by
  induction k with
  | zero => exact ⟨h, hnone, rfl⟩
  | succ k ih =>
    obtain ⟨hk, hknone, htime⟩ := ih
    rw [Function.iterate_succ_apply', Function.iterate_succ_apply']
    exact ⟨hk.redo, redo_pendingBaseline,
      by rw [timeline_redo hk, endCoalesce_of_none hknone, htime]⟩

/-- The first undo finalizes the gesture that is open. -/
theorem undo_iterate_endCoalesce (k : ℕ) :
    (BoxOffice.undo stringify)^[k + 1] s
      = (BoxOffice.undo stringify)^[k + 1] (BoxOffice.endCoalesce stringify s) := by
  rw [Function.iterate_succ_apply, Function.iterate_succ_apply, undo_endCoalesce]

end Handlers

end History

end BoxOffice

import Mathlib.Analysis.SpecialFunctions.Exp
import Mathlib.Analysis.SpecialFunctions.Sqrt
import Mathlib.Tactic.FieldSimp
import Mathlib.Tactic.Linarith
import Mathlib.Tactic.Ring

namespace BoxOffice

/-!
# Editor — the viewport

The viewport of the chart editor (`static/js/editor_viewport.js`) with the canvas's pointer
handlers (`static/js/chart_editor.js`), over an ordered field.

* `contentBox` is the letterboxed rectangle of the drawing, and depends on the aspect only;
* `Framed` — the aspect and the width's range — holds after any events at all;
* `viewport_tracks` — after any completed gestures, the next one keeps its point of the
  drawing under the pointer.
-/

/-- A point, on the screen or in the drawing. -/
@[ext] structure Point (K : Type) where
  x : K
  y : K
deriving Repr, DecidableEq

/-- The `viewBox` of the drawing. -/
structure ViewBox (K : Type) where
  x : K
  y : K
  w : K
  h : K
deriving Repr, DecidableEq

/-- The element's `getBoundingClientRect()`. -/
structure ClientRect (K : Type) where
  left : K
  top : K
  width : K
  height : K
deriving Repr, DecidableEq

/-- The drawing's rectangle on the screen, with the scale of each axis. -/
structure ContentBox (K : Type) where
  left : K
  top : K
  width : K
  height : K
  scaleX : K
  scaleY : K
deriving Repr, DecidableEq

/-- `_panState`. -/
structure PanState (K : Type) where
  startClientX : K
  startClientY : K
  startX : K
  startY : K
deriving Repr, DecidableEq

/-- `_pinch`; its `box` is kept without scales. -/
structure Pinch (K : Type) where
  startDist : K
  startW : K
  startH : K
  box : ClientRect K
  anchorX : K
  anchorY : K
deriving Repr, DecidableEq

/-- The fields of the component that its gestures read; the pointers are a `Map`, in the
    order of their first touch. -/
structure Viewport (K : Type) where
  viewBox : ViewBox K
  fitW : K
  fitH : K
  panState : Option (PanState K)
  activePointers : List (ℕ × Point K)
  pinch : Option (Pinch K)
deriving Repr, DecidableEq

/-- `Math.exp` and `Math.hypot`. -/
structure CanvasMath (K : Type) where
  exp : K → K
  hypot : K → K → K

/-- What reaches the canvas. -/
inductive CanvasEvent (K : Type)
  | wheel (client : Point K) (deltaY : K)
  | pointerDown (pointerId : ℕ) (client : Point K)
  | pointerMove (pointerId : ℕ) (client : Point K)
  | pointerUp (pointerId : ℕ)
deriving Repr, DecidableEq

section Viewport

variable {K : Type} [Field K] [LinearOrder K]

def clamp (value lo hi : K) : K := min (max value lo) hi

/-- `x || 1`. -/
def orOne (x : K) : K := if x = 0 then 1 else x

/-- `contentBox`. -/
def contentBox (rect : ClientRect K) (vb : ViewBox K) : ContentBox K :=
  if rect.width = 0 ∨ rect.height = 0 ∨ vb.w = 0 ∨ vb.h = 0 then
    ⟨rect.left, rect.top, orOne rect.width, orOne rect.height, 1, 1⟩
  else
    let vbAspect := vb.w / vb.h
    let rectAspect := rect.width / rect.height
    if vbAspect < rectAspect then
      let height := rect.height
      let width := height * vbAspect
      ⟨rect.left + (rect.width - width) / 2, rect.top, width, height, vb.w / width,
        vb.h / height⟩
    else
      let width := rect.width
      let height := width / vbAspect
      ⟨rect.left, rect.top + (rect.height - height) / 2, width, height, vb.w / width,
        vb.h / height⟩

/-- `clientToViewBox`. -/
def clientToViewBox (rect : ClientRect K) (vb : ViewBox K) (client : Point K) : Point K :=
  let box := contentBox rect vb
  ⟨vb.x + (client.x - box.left) * box.scaleX, vb.y + (client.y - box.top) * box.scaleY⟩

/-- `fitTo`, of finite sizes. -/
def fitTo (minX minY w h padRatio : K) (s : Viewport K) : Viewport K :=
  let (minX, minY, w, h) := if w = 0 ∨ h = 0 then (-1, -1, 12, 12) else (minX, minY, w, h)
  let padX := w * padRatio + 3 / 4
  let padY := h * padRatio + 3 / 4
  { s with
    viewBox := ⟨minX - padX, minY - padY, w + padX * 2, h + padY * 2⟩
    fitW := w + padX * 2
    fitH := h + padY * 2 }

/-- `onWheel`. -/
def onWheel (math : CanvasMath K) (rect : ClientRect K) (client : Point K) (deltaY : K)
    (s : Viewport K) : Viewport K :=
  let cursor := clientToViewBox rect s.viewBox client
  let vb := s.viewBox
  let factor := math.exp (deltaY * (15 / 10000))
  let newW := clamp (vb.w * factor) (s.fitW * (5 / 100)) (s.fitW * 20)
  let newH := newW * (vb.h / vb.w)
  let relX := (cursor.x - vb.x) / vb.w
  let relY := (cursor.y - vb.y) / vb.h
  { s with viewBox := ⟨cursor.x - relX * newW, cursor.y - relY * newH, newW, newH⟩ }

/-- `startPan`. -/
def startPan (client : Point K) (s : Viewport K) : Viewport K :=
  { s with panState := some ⟨client.x, client.y, s.viewBox.x, s.viewBox.y⟩ }

/-- `onPanMove`. -/
def onPanMove (rect : ClientRect K) (client : Point K) (s : Viewport K) : Viewport K :=
  match s.panState with
  | none => s
  | some pan =>
    let box := contentBox rect s.viewBox
    let dxClient := client.x - pan.startClientX
    let dyClient := client.y - pan.startClientY
    { s with
      viewBox.x := pan.startX - dxClient * box.scaleX
      viewBox.y := pan.startY - dyClient * box.scaleY }

/-- `endPan`. -/
def endPan (s : Viewport K) : Viewport K := { s with panState := none }

def midpoint (a b : Point K) : Point K := ⟨(a.x + b.x) / 2, (a.y + b.y) / 2⟩

/-- `beginPinch`. -/
def beginPinch (math : CanvasMath K) (rect : ClientRect K) (s : Viewport K) : Viewport K :=
  match s.activePointers with
  | (_, a) :: (_, b) :: _ =>
    let box := contentBox rect s.viewBox
    let mid := midpoint a b
    { s with
      pinch := some
        { startDist := orOne (math.hypot (a.x - b.x) (a.y - b.y))
          startW := s.viewBox.w
          startH := s.viewBox.h
          box := ⟨box.left, box.top, orOne box.width, orOne box.height⟩
          anchorX := s.viewBox.x + (mid.x - box.left) * box.scaleX
          anchorY := s.viewBox.y + (mid.y - box.top) * box.scaleY } }
  | _ => s

/-- The drawing's frame while two fingers are held there. -/
def pinchedBox (math : CanvasMath K) (fitW : K) (p : Pinch K) (a b : Point K) : ViewBox K :=
  let dist := orOne (math.hypot (a.x - b.x) (a.y - b.y))
  let mid := midpoint a b
  let w := clamp (p.startW * p.startDist / dist) (fitW * (5 / 100)) (fitW * 20)
  let h := w * (p.startH / p.startW)
  let scaleX := w / p.box.width
  let scaleY := h / p.box.height
  ⟨p.anchorX - (mid.x - p.box.left) * scaleX, p.anchorY - (mid.y - p.box.top) * scaleY, w, h⟩

/-- `onPinchMove`. -/
def onPinchMove (math : CanvasMath K) (s : Viewport K) : Viewport K :=
  match s.pinch, s.activePointers with
  | some p, (_, a) :: (_, b) :: _ => { s with viewBox := pinchedBox math s.fitW p a b }
  | _, _ => s

/-- `Map.set`. -/
def setPointer (pointerId : ℕ) (client : Point K) (pointers : List (ℕ × Point K)) :
    List (ℕ × Point K) :=
  if pointerId ∈ pointers.map Prod.fst then
    pointers.map fun q => if q.1 = pointerId then (pointerId, client) else q
  else pointers ++ [(pointerId, client)]

/-- `onCanvasPointerDown`. -/
def onCanvasPointerDown (math : CanvasMath K) (rect : ClientRect K) (pointerId : ℕ)
    (client : Point K) (s : Viewport K) : Viewport K :=
  let s := { s with activePointers := setPointer pointerId client s.activePointers }
  if 2 ≤ s.activePointers.length then beginPinch math rect (endPan s) else startPan client s

/-- `onCanvasPointerMove`, with no handle dragged. -/
def onCanvasPointerMove (math : CanvasMath K) (rect : ClientRect K) (pointerId : ℕ)
    (client : Point K) (s : Viewport K) : Viewport K :=
  let s := if pointerId ∈ s.activePointers.map Prod.fst then
    { s with activePointers := setPointer pointerId client s.activePointers } else s
  if s.pinch.isSome ∧ 2 ≤ s.activePointers.length then onPinchMove math s
  else if s.panState.isSome then onPanMove rect client s
  else s

/-- `onCanvasPointerUp`, with no handle dragged. -/
def onCanvasPointerUp (pointerId : ℕ) (s : Viewport K) : Viewport K :=
  let s := { s with activePointers := s.activePointers.filter (·.1 ≠ pointerId) }
  let s := if s.activePointers.length < 2 then { s with pinch := none } else s
  if 0 < s.activePointers.length then s else endPan s

/-- One event on the canvas. -/
def Viewport.handle (math : CanvasMath K) (rect : ClientRect K) (s : Viewport K) :
    CanvasEvent K → Viewport K
  | .wheel client deltaY => onWheel math rect client deltaY s
  | .pointerDown pointerId client => onCanvasPointerDown math rect pointerId client s
  | .pointerMove pointerId client => onCanvasPointerMove math rect pointerId client s
  | .pointerUp pointerId => onCanvasPointerUp pointerId s

/-- Events in turn. -/
def Viewport.run (math : CanvasMath K) (rect : ClientRect K) (s : Viewport K)
    (es : List (CanvasEvent K)) : Viewport K := es.foldl (Viewport.handle math rect) s

/-- A run begins with its first event. -/
theorem run_cons (math : CanvasMath K) (rect : ClientRect K) (s : Viewport K) (e : CanvasEvent K)
    (es : List (CanvasEvent K)) :
    s.run math rect (e :: es) = (s.handle math rect e).run math rect es := rfl

/-- Runs follow one another. -/
theorem run_append (math : CanvasMath K) (rect : ClientRect K) (s : Viewport K)
    (es es' : List (CanvasEvent K)) :
    s.run math rect (es ++ es') = (s.run math rect es).run math rect es' :=
  List.foldl_append

/-! ### The drawing on the screen -/

section Ordered

variable [IsStrictOrderedRing K]

structure ClientRect.Positive (rect : ClientRect K) : Prop where
  width : 0 < rect.width
  height : 0 < rect.height

/-- A box of the aspect of the fit, of a width in the range of zooming. -/
structure Sized (fitW fitH : K) (vb : ViewBox K) : Prop where
  fitW_pos : 0 < fitW
  fitH_pos : 0 < fitH
  lo : fitW * (5 / 100) ≤ vb.w
  hi : vb.w ≤ fitW * 20
  aspect : vb.w * fitH = vb.h * fitW

variable {fitW fitH : K} {rect : ClientRect K} {vb : ViewBox K}

/-- A sized box has a width. -/
theorem Sized.w_pos (h : Sized fitW fitH vb) : 0 < vb.w :=
  lt_of_lt_of_le (mul_pos h.fitW_pos (by norm_num)) h.lo

/-- And a height. -/
theorem Sized.h_pos (h : Sized fitW fitH vb) : 0 < vb.h := by
  have : 0 < vb.h * fitW := h.aspect ▸ mul_pos h.w_pos h.fitH_pos
  exact pos_of_mul_pos_left this h.fitW_pos.le

/-- And the aspect of the fitted box. -/
theorem Sized.div_eq (h : Sized fitW fitH vb) : vb.w / vb.h = fitW / fitH := by
  rw [div_eq_div_iff h.h_pos.ne' h.fitH_pos.ne', h.aspect, mul_comm]

/-- The rectangle on the screen of every drawing with the aspect of the fit. -/
def drawnRect (rect : ClientRect K) (fitW fitH : K) : ClientRect K :=
  let box := contentBox rect ⟨0, 0, fitW, fitH⟩
  ⟨box.left, box.top, box.width, box.height⟩

/-- What is drawn has a positive size. -/
theorem drawnRect_positive (hrect : rect.Positive) (hW : 0 < fitW) (hH : 0 < fitH) :
    (drawnRect rect fitW fitH).Positive := by
  have hr := hrect.width
  have hr' := hrect.height
  simp only [drawnRect, contentBox, hr.ne', hr'.ne', hW.ne', hH.ne', or_self, if_false]
  split
  · exact ⟨by positivity, hr'⟩
  · exact ⟨hr, by positivity⟩

omit [IsStrictOrderedRing K] in
/-- What is drawn has the aspect of the fitted box. -/
theorem drawnRect_aspect (hrect : rect.Positive) (hW : 0 < fitW) (hH : 0 < fitH) :
    (drawnRect rect fitW fitH).width * fitH = (drawnRect rect fitW fitH).height * fitW := by
  have hr := hrect.width
  have hr' := hrect.height
  simp only [drawnRect, contentBox, hr.ne', hr'.ne', hW.ne', hH.ne', or_self, if_false]
  split <;> field_simp

/-- **The letterbox.** It depends on the aspect only, and both axes have one scale. -/
theorem contentBox_of_sized (hrect : rect.Positive) (h : Sized fitW fitH vb) :
    contentBox rect vb =
      let drawn := drawnRect rect fitW fitH
      ⟨drawn.left, drawn.top, drawn.width, drawn.height, vb.w / drawn.width,
        vb.w / drawn.width⟩ := by
  have hr := hrect.width
  have hr' := hrect.height
  have hW := h.fitW_pos
  have hH := h.fitH_pos
  have hh : vb.h = vb.w * fitH / fitW := by rw [h.aspect]; field_simp
  have hw := h.w_pos
  simp only [drawnRect, contentBox, hr.ne', hr'.ne', hW.ne', hH.ne', hw.ne', h.h_pos.ne',
    or_self, if_false, h.div_eq]
  split
  · simp only [ContentBox.mk.injEq, true_and]
    rw [hh]
    field_simp
  · simp only [ContentBox.mk.injEq, true_and]
    rw [hh]
    field_simp

/-- Where a client point is in a sized box. -/
theorem clientToViewBox_of_sized (hrect : rect.Positive) (h : Sized fitW fitH vb)
    (client : Point K) :
    clientToViewBox rect vb client =
      let drawn := drawnRect rect fitW fitH
      ⟨vb.x + (client.x - drawn.left) * (vb.w / drawn.width),
        vb.y + (client.y - drawn.top) * (vb.w / drawn.width)⟩ := by
  simp only [clientToViewBox, contentBox_of_sized hrect h]

/-- A box placed so that it pins a point of the drawing under a point of the screen. -/
theorem clientToViewBox_pinned (hrect : rect.Positive) (hs : Sized fitW fitH vb)
    {anchor client : Point K}
    (hx : vb.x = anchor.x - (client.x - (drawnRect rect fitW fitH).left)
      * (vb.w / (drawnRect rect fitW fitH).width))
    (hy : vb.y = anchor.y - (client.y - (drawnRect rect fitW fitH).top)
      * (vb.w / (drawnRect rect fitW fitH).width)) :
    clientToViewBox rect vb client = anchor := by
  rw [clientToViewBox_of_sized hrect hs]
  ext <;> simp [hx, hy]

/-! ### What every event keeps -/

/-- The invariant: the box is sized, and so was the one that a pinch began at. -/
structure FrameKept (fitW fitH : K) (s : Viewport K) : Prop where
  fit : s.fitW = fitW
  sized : Sized fitW fitH s.viewBox
  pinch : ∀ p, s.pinch = some p → 0 < p.startW ∧ p.startW * fitH = p.startH * fitW

/-- A clamped size is a size within the bounds. -/
theorem sized_clamp (hW : 0 < fitW) (hH : 0 < fitH) (value : K) {startW startH : K}
    (hstart : 0 < startW) (haspect : startW * fitH = startH * fitW) (x y : K) :
    Sized fitW fitH ⟨x, y, clamp value (fitW * (5 / 100)) (fitW * 20),
      clamp value (fitW * (5 / 100)) (fitW * 20) * (startH / startW)⟩ := by
  have hle : fitW * (5 / 100) ≤ fitW * 20 := mul_le_mul_of_nonneg_left (by norm_num) hW.le
  refine ⟨hW, hH, le_min (le_max_right _ _) hle, min_le_right _ _, ?_⟩
  have hratio : startH / startW * fitW = fitH := by
    rw [div_mul_eq_mul_div, ← haspect, mul_div_cancel_left₀ _ hstart.ne']
  rw [mul_assoc, hratio]

omit [IsStrictOrderedRing K] in
/-- Only the place of a box may differ. -/
theorem Sized.moved {vb' : ViewBox K} (h : Sized fitW fitH vb) (hw : vb'.w = vb.w)
    (hh : vb'.h = vb.h) : Sized fitW fitH vb' :=
  ⟨h.fitW_pos, h.fitH_pos, hw ▸ h.lo, hw ▸ h.hi, by rw [hw, hh]; exact h.aspect⟩

/-- The wheel keeps the frame. -/
theorem FrameKept.wheel {s : Viewport K} (h : FrameKept fitW fitH s) (math : CanvasMath K)
    (rect : ClientRect K) (client : Point K) (deltaY : K) :
    FrameKept fitW fitH (onWheel math rect client deltaY s) := by
  refine ⟨h.fit, ?_, h.pinch⟩
  simp only [onWheel, h.fit]
  exact sized_clamp h.sized.fitW_pos h.sized.fitH_pos _ h.sized.w_pos h.sized.aspect _ _

/-- A pinch gives a sized box. -/
theorem FrameKept.pinched {s : Viewport K} (h : FrameKept fitW fitH s) (math : CanvasMath K)
    {p : Pinch K} (hp : s.pinch = some p) (a b : Point K) :
    Sized fitW fitH (pinchedBox math s.fitW p a b) := by
  obtain ⟨hstart, haspect⟩ := h.pinch p hp
  simp only [pinchedBox, h.fit]
  exact sized_clamp h.sized.fitW_pos h.sized.fitH_pos _ hstart haspect _ _

/-- A move of a pinch keeps the frame. -/
theorem FrameKept.pinchMove {s : Viewport K} (h : FrameKept fitW fitH s) (math : CanvasMath K) :
    FrameKept fitW fitH (onPinchMove math s) := by
  unfold onPinchMove
  split
  next p a b _ hp _ => exact ⟨h.fit, h.pinched math hp _ _, h.pinch⟩
  next => exact h

omit [IsStrictOrderedRing K] in
/-- So does a move of a pan. -/
theorem FrameKept.panMove {s : Viewport K} (h : FrameKept fitW fitH s) (rect : ClientRect K)
    (client : Point K) : FrameKept fitW fitH (onPanMove rect client s) := by
  unfold onPanMove
  split
  · exact h
  · exact ⟨h.fit, h.sized.moved rfl rfl, h.pinch⟩

/-- So does the begin of a pinch. -/
theorem FrameKept.beginPinch {s : Viewport K} (h : FrameKept fitW fitH s) (math : CanvasMath K)
    (rect : ClientRect K) : FrameKept fitW fitH (beginPinch math rect s) := by
  unfold BoxOffice.beginPinch
  split
  · refine ⟨h.fit, h.sized, ?_⟩
    rintro p hp
    cases hp
    exact ⟨h.sized.w_pos, h.sized.aspect⟩
  · exact h

/-- Every event keeps the invariant, whatever is held. -/
theorem FrameKept.handle {s : Viewport K} (h : FrameKept fitW fitH s) (math : CanvasMath K)
    (rect : ClientRect K) (e : CanvasEvent K) : FrameKept fitW fitH (s.handle math rect e) := by
  cases e with
  | wheel client deltaY => exact h.wheel math rect client deltaY
  | pointerDown pointerId client =>
    simp only [Viewport.handle, onCanvasPointerDown]
    split
    -- A second finger ends the pan and begins a pinch.
    · have hend : FrameKept fitW fitH (endPan
          { s with activePointers := setPointer pointerId client s.activePointers }) :=
        ⟨h.fit, h.sized, h.pinch⟩
      exact hend.beginPinch math rect
    · exact ⟨h.fit, h.sized, h.pinch⟩
  | pointerMove pointerId client =>
    simp only [Viewport.handle, onCanvasPointerMove]
    generalize hs' : (if pointerId ∈ s.activePointers.map Prod.fst then
      { s with activePointers := setPointer pointerId client s.activePointers } else s) = s'
    -- Moving a pointer that is down rewrites its place only.
    have h' : FrameKept fitW fitH s' := by
      rw [← hs']
      split
      · exact ⟨h.fit, h.sized, h.pinch⟩
      · exact h
    split
    · exact h'.pinchMove math
    · split
      · exact h'.panMove rect client
      · exact h'
  | pointerUp pointerId =>
    simp only [Viewport.handle, onCanvasPointerUp]
    generalize s.activePointers.filter (·.1 ≠ pointerId) = pointers
    -- By how many fingers are left: a pinch needs two.
    by_cases hlt : pointers.length < 2 <;> by_cases hpos : 0 < pointers.length <;>
      simp only [hlt, hpos, if_true, if_false]
    · exact ⟨h.fit, h.sized, nofun⟩
    · exact ⟨h.fit, h.sized, nofun⟩
    · exact ⟨h.fit, h.sized, h.pinch⟩
    · exact ⟨h.fit, h.sized, h.pinch⟩

/-- **The run.** Every sequence of events keeps the frame. -/
theorem FrameKept.run {s : Viewport K} (h : FrameKept fitW fitH s) (math : CanvasMath K)
    (rect : ClientRect K) (es : List (CanvasEvent K)) :
    FrameKept fitW fitH (s.run math rect es) := by
  induction es generalizing s with
  | nil => exact h
  | cons e es ih => exact ih (h.handle math rect e)

/-! ### Gestures -/

/-- A move of the first finger, or of the second. -/
def pinchMoveOf (first second : ℕ) (move : Bool × Point K) : CanvasEvent K :=
  .pointerMove (if move.1 then second else first) move.2

/-- Where two fingers are after one of them moves. -/
def movedFingers (fingers : Point K × Point K) (move : Bool × Point K) : Point K × Point K :=
  if move.1 then (fingers.1, move.2) else (move.2, fingers.2)

/-- A gesture, from its first touch to its last lift. -/
inductive Gesture (K : Type)
  | wheel (client : Point K) (deltaY : K)
  | pan (finger : ℕ) (start : Point K) (moves : List (Point K))
  /-- A finger that may pan first, then a second one; `rest` is what the one lifted last does. -/
  | pinch (first second : ℕ) (distinct : first ≠ second) (start : Point K)
      (panned : List (Point K)) (start' : Point K) (moves : List (Bool × Point K))
      (secondLiftsFirst : Bool) (rest : List (Point K))

/-- The events of a pan up to its last move. -/
def panEvents (finger : ℕ) (start : Point K) (moves : List (Point K)) : List (CanvasEvent K) :=
  .pointerDown finger start :: moves.map (.pointerMove finger)

/-- The events of a gesture. -/
def Gesture.events : Gesture K → List (CanvasEvent K)
  | .wheel client deltaY => [.wheel client deltaY]
  | .pan finger start moves => panEvents finger start moves ++ [.pointerUp finger]
  | .pinch first second _ start panned start' moves secondLiftsFirst rest =>
    let lifted := if secondLiftsFirst then second else first
    let left := if secondLiftsFirst then first else second
    panEvents first start panned ++ [.pointerDown second start']
      ++ moves.map (pinchMoveOf first second)
      ++ [.pointerUp lifted] ++ rest.map (.pointerMove left) ++ [.pointerUp left]

/-- No finger is down. -/
structure Idle (s : Viewport K) : Prop where
  panState : s.panState = none
  activePointers : s.activePointers = []
  pinch : s.pinch = none

/-- One finger pans since the state `s`. -/
structure Panning (s : Viewport K) (finger : ℕ) (start at' : Point K) (t : Viewport K) :
    Prop where
  activePointers : t.activePointers = [(finger, at')]
  panState : t.panState = some ⟨start.x, start.y, s.viewBox.x, s.viewBox.y⟩
  pinch : t.pinch = none
  w : t.viewBox.w = s.viewBox.w
  h : t.viewBox.h = s.viewBox.h

/-- Two fingers are down, at these places. -/
structure Pinching (first second : ℕ) (p : Pinch K) (fingers : Point K × Point K)
    (t : Viewport K) : Prop where
  activePointers : t.activePointers = [(first, fingers.1), (second, fingers.2)]
  panState : t.panState = none
  pinch : t.pinch = some p

section Steps

variable {s t : Viewport K} {finger first second : ℕ} {start at' : Point K}
  {p : Pinch K} {fingers : Point K × Point K}

omit [IsStrictOrderedRing K] in
/-- The first finger down starts a pan. -/
theorem Idle.down (h : Idle s) (math : CanvasMath K) (rect : ClientRect K) (finger : ℕ)
    (start : Point K) :
    Panning s finger start start (s.handle math rect (.pointerDown finger start)) := by
  simp only [Viewport.handle, onCanvasPointerDown, h.activePointers, setPointer]
  exact ⟨by simp [startPan], by simp [startPan], by simp [startPan, h.pinch],
    by simp [startPan], by simp [startPan]⟩

omit [IsStrictOrderedRing K] in
/-- A move of the finger that pans, as the box that it leads to. -/
theorem Panning.handle_move (h : Panning s finger start at' t) (math : CanvasMath K)
    (rect : ClientRect K)
    (client : Point K) : t.handle math rect (.pointerMove finger client) =
      { t with
        activePointers := [(finger, client)]
        viewBox.x := s.viewBox.x
          - (client.x - start.x) * (contentBox rect t.viewBox).scaleX
        viewBox.y := s.viewBox.y
          - (client.y - start.y) * (contentBox rect t.viewBox).scaleY } := by
  simp [Viewport.handle, onCanvasPointerMove, h.activePointers, setPointer, h.pinch,
    h.panState, onPanMove]

omit [IsStrictOrderedRing K] in
/-- A move goes on panning. -/
theorem Panning.move (h : Panning s finger start at' t) (math : CanvasMath K)
    (rect : ClientRect K)
    (client : Point K) :
    Panning s finger start client (t.handle math rect (.pointerMove finger client)) := by
  rw [h.handle_move math rect client]
  exact ⟨rfl, h.panState, h.pinch, h.w, h.h⟩

omit [IsStrictOrderedRing K] in
/-- So do all moves. -/
theorem Panning.moves (h : Panning s finger start at' t) (math : CanvasMath K)
    (rect : ClientRect K)
    (moves : List (Point K)) :
    Panning s finger start (moves.getLast?.getD at')
      (t.run math rect (moves.map (.pointerMove finger))) := by
  induction moves generalizing t at' with
  | nil => exact h
  | cons client moves ih =>
    have hrest := ih (h.move math rect client)
    rw [List.map_cons, run_cons]
    simpa [List.getLast?_cons] using hrest

omit [IsStrictOrderedRing K] in
/-- A finger down and its moves are a pan. -/
theorem Idle.panning (h : Idle s) (math : CanvasMath K) (rect : ClientRect K) (finger : ℕ)
    (start : Point K) (moves : List (Point K)) :
    Panning s finger start (moves.getLast?.getD start)
      (s.run math rect (panEvents finger start moves)) :=
  (h.down math rect finger start).moves math rect moves

/-- **Pan.** After a move the point first touched is under the finger. -/
theorem Panning.pinned (math : CanvasMath K) (hrect : rect.Positive)
    (hs : FrameKept fitW fitH s)
    (h : Panning s finger start at' t) (client : Point K) :
    clientToViewBox rect (t.handle math rect (.pointerMove finger client)).viewBox client
      = clientToViewBox rect s.viewBox start := by
  have ht : Sized fitW fitH t.viewBox := hs.sized.moved h.w h.h
  rw [h.handle_move math rect client, contentBox_of_sized hrect ht,
    clientToViewBox_of_sized hrect hs.sized]
  apply clientToViewBox_pinned hrect
  · exact ht.moved rfl rfl
  · simp only [h.w]
    ring
  · simp only [h.w]
    ring

/-- A pinch that began with this point of the drawing under its midpoint. -/
structure PinchAt (rect : ClientRect K) (fitW fitH : K) (anchor : Point K) (p : Pinch K) :
    Prop where
  box : p.box = drawnRect rect fitW fitH
  anchor : (⟨p.anchorX, p.anchorY⟩ : Point K) = anchor
  startW_pos : 0 < p.startW
  aspect : p.startW * fitH = p.startH * fitW

/-- The second finger begins a pinch, and leaves the box. -/
theorem Panning.begins (h : Panning s first start at' t) (math : CanvasMath K)
    (hrect : rect.Positive) (ht : FrameKept fitW fitH t) (hne : first ≠ second)
    (start' : Point K) :
    (∃ p, Pinching first second p (at', start')
        (t.handle math rect (.pointerDown second start')) ∧
      PinchAt rect fitW fitH (clientToViewBox rect t.viewBox (midpoint at' start')) p) ∧
    (t.handle math rect (.pointerDown second start')).viewBox = t.viewBox := by
  have hset : setPointer second start' t.activePointers = [(first, at'), (second, start')] := by
    simp [h.activePointers, setPointer, hne.symm]
  have hdrawn := drawnRect_positive hrect ht.sized.fitW_pos ht.sized.fitH_pos
  simp only [Viewport.handle, onCanvasPointerDown, hset]
  refine ⟨⟨_, ⟨rfl, rfl, rfl⟩, ?_, rfl, ht.sized.w_pos, ht.sized.aspect⟩, rfl⟩
  show (⟨_, _, _, _⟩ : ClientRect K) = _
  simp only [endPan, contentBox_of_sized hrect ht.sized, orOne, hdrawn.width.ne',
    hdrawn.height.ne', if_false]

omit [IsStrictOrderedRing K] in
/-- A move of either finger, as the box that it leads to. -/
theorem Pinching.handle_move (h : Pinching first second p fingers t) (math : CanvasMath K)
    (rect : ClientRect K) (hne : first ≠ second) (move : Bool × Point K) :
    t.handle math rect (pinchMoveOf first second move) =
      { t with
        activePointers := [(first, (movedFingers fingers move).1),
          (second, (movedFingers fingers move).2)]
        viewBox := pinchedBox math t.fitW p (movedFingers fingers move).1
          (movedFingers fingers move).2 } := by
  obtain ⟨isSecond, client⟩ := move
  cases isSecond <;>
    simp [Viewport.handle, onCanvasPointerMove, pinchMoveOf, h.activePointers, setPointer,
      h.pinch, onPinchMove, movedFingers, hne, hne.symm]

omit [IsStrictOrderedRing K] in
/-- A move goes on pinching. -/
theorem Pinching.move (h : Pinching first second p fingers t) (math : CanvasMath K)
    (rect : ClientRect K) (hne : first ≠ second) (move : Bool × Point K) :
    Pinching first second p (movedFingers fingers move)
      (t.handle math rect (pinchMoveOf first second move)) := by
  rw [h.handle_move math rect hne move]
  exact ⟨rfl, h.panState, h.pinch⟩

omit [IsStrictOrderedRing K] in
/-- So do all moves. -/
theorem Pinching.moves (h : Pinching first second p fingers t) (math : CanvasMath K)
    (rect : ClientRect K) (hne : first ≠ second) (moves : List (Bool × Point K)) :
    Pinching first second p (moves.foldl movedFingers fingers)
      (t.run math rect (moves.map (pinchMoveOf first second))) := by
  induction moves generalizing t fingers with
  | nil => exact h
  | cons move moves ih => exact ih (h.move math rect hne move)

/-- **Pinch.** After a move the anchor is under the midpoint of the fingers. -/
theorem Pinching.pinned (h : Pinching first second p fingers t) (math : CanvasMath K)
    (hrect : rect.Positive) (ht : FrameKept fitW fitH t) (hne : first ≠ second)
    {anchor : Point K} (hp : PinchAt rect fitW fitH anchor p) (move : Bool × Point K) :
    clientToViewBox rect (t.handle math rect (pinchMoveOf first second move)).viewBox
      (midpoint (movedFingers fingers move).1 (movedFingers fingers move).2) = anchor := by
  have hW := ht.sized.fitW_pos
  have hH := ht.sized.fitH_pos
  have hdrawn := drawnRect_positive hrect hW hH
  have hscale : p.startH / p.startW / (drawnRect rect fitW fitH).height
      = 1 / (drawnRect rect fitW fitH).width := by
    have hratio : p.startH / p.startW = fitH / fitW := by
      rw [div_eq_div_iff hp.startW_pos.ne' hW.ne', ← hp.aspect, mul_comm]
    have := hdrawn.width.ne'
    have := hdrawn.height.ne'
    rw [hratio, div_div, div_eq_div_iff (by positivity) (by positivity), one_mul, mul_comm,
      drawnRect_aspect hrect hW hH, mul_comm]
  have hsized := ht.pinched math h.pinch (movedFingers fingers move).1
    (movedFingers fingers move).2
  rw [h.handle_move math rect hne move]
  apply clientToViewBox_pinned hrect hsized
  · simp only [pinchedBox, hp.box, ← hp.anchor]
  · simp only [pinchedBox, hp.box, ← hp.anchor]
    rw [mul_div_assoc, hscale, mul_one_div]

/-- **Wheel.** The point under the cursor stays there. -/
theorem FrameKept.wheel_pinned (hs : FrameKept fitW fitH s) (math : CanvasMath K)
    (hrect : rect.Positive) (client : Point K) (deltaY : K) :
    clientToViewBox rect (onWheel math rect client deltaY s).viewBox client
      = clientToViewBox rect s.viewBox client := by
  have hw := hs.sized.w_pos.ne'
  have hh := hs.sized.h_pos.ne'
  have hcursor := clientToViewBox_of_sized hrect hs.sized client
  apply clientToViewBox_pinned hrect (hs.wheel math rect client deltaY).sized
  · simp only [onWheel, hcursor]
    field_simp
    ring
  · simp only [onWheel, hcursor]
    field_simp
    ring

/-! ### Between gestures -/

omit [IsStrictOrderedRing K] in
/-- Lifting the finger ends a pan. -/
theorem Panning.up (h : Panning s finger start at' t) (math : CanvasMath K) (rect : ClientRect K) :
    Idle (t.handle math rect (.pointerUp finger)) := by
  have hnone : t.activePointers.filter (·.1 ≠ finger) = [] := by simp [h.activePointers]
  simp only [Viewport.handle, onCanvasPointerUp, hnone]
  exact ⟨rfl, rfl, rfl⟩

/-- One finger is left of two. -/
structure Lifting (left : ℕ) (t : Viewport K) : Prop where
  activePointers : ∃ at', t.activePointers = [(left, at')]
  panState : t.panState = none
  pinch : t.pinch = none

omit [IsStrictOrderedRing K] in
/-- Moves of the finger that is left change nothing about it. -/
theorem Lifting.moves {left : ℕ} (h : Lifting left t) (math : CanvasMath K) (rect : ClientRect K)
    (rest : List (Point K)) :
    Lifting left (t.run math rect (rest.map (.pointerMove left))) := by
  induction rest generalizing t with
  | nil => exact h
  | cons client rest ih =>
    obtain ⟨at', hat⟩ := h.activePointers
    refine ih ?_
    simp only [Viewport.handle, onCanvasPointerMove, hat, setPointer, h.pinch, h.panState]
    exact ⟨⟨client, by simp⟩, by simp, by simp⟩

omit [IsStrictOrderedRing K] in
/-- Lifting it ends the gesture. -/
theorem Lifting.up {left : ℕ} (h : Lifting left t) (math : CanvasMath K) (rect : ClientRect K) :
    Idle (t.handle math rect (.pointerUp left)) := by
  obtain ⟨at', hat⟩ := h.activePointers
  have hnone : t.activePointers.filter (·.1 ≠ left) = [] := by simp [hat]
  simp only [Viewport.handle, onCanvasPointerUp, hnone]
  exact ⟨rfl, rfl, rfl⟩

omit [IsStrictOrderedRing K] in
/-- Lifting one of two fingers leaves the other. -/
theorem Pinching.up (h : Pinching first second p fingers t) (math : CanvasMath K)
    (rect : ClientRect K) (hne : first ≠ second) (secondLiftsFirst : Bool) :
    Lifting (if secondLiftsFirst then first else second)
      (t.handle math rect (.pointerUp (if secondLiftsFirst then second else first))) := by
  cases secondLiftsFirst
  · have hleft : t.activePointers.filter (·.1 ≠ first) = [(second, fingers.2)] := by
      simp [h.activePointers, hne.symm]
    simp only [Viewport.handle, onCanvasPointerUp, Bool.false_eq_true, if_false, hleft]
    exact ⟨⟨_, rfl⟩, h.panState, rfl⟩
  · have hleft : t.activePointers.filter (·.1 ≠ second) = [(first, fingers.1)] := by
      simp [h.activePointers, hne]
    simp only [Viewport.handle, onCanvasPointerUp, if_true, hleft]
    exact ⟨⟨_, rfl⟩, h.panState, rfl⟩

/-- A completed gesture leaves no finger down. -/
theorem Idle.gesture (h : Idle s) (hs : FrameKept fitW fitH s) (math : CanvasMath K)
    (hrect : rect.Positive) (g : Gesture K) : Idle (s.run math rect g.events) := by
  cases g with
  | wheel client deltaY => exact ⟨h.panState, h.activePointers, h.pinch⟩
  | pan finger start moves =>
    rw [Gesture.events, run_append]
    exact (h.panning math rect finger start moves).up math rect
  | pinch first second distinct start panned start' moves secondLiftsFirst rest =>
    simp only [Gesture.events, run_append]
    have hpan := h.panning math rect first start panned
    obtain ⟨⟨p, hpinch, -⟩, -⟩ :=
      hpan.begins math hrect (hs.run math rect _) distinct start'
    have hheld := hpinch.moves math rect distinct moves
    exact ((hheld.up math rect distinct secondLiftsFirst).moves math rect rest).up math rect

/-- After any gestures no finger is down. -/
theorem Idle.gestures (h : Idle s) (hs : FrameKept fitW fitH s) (math : CanvasMath K)
    (hrect : rect.Positive) (gs : List (Gesture K)) :
    Idle (s.run math rect (gs.flatMap Gesture.events)) := by
  induction gs generalizing s with
  | nil => exact h
  | cons g gs ih =>
    rw [List.flatMap_cons, run_append]
    exact ih (h.gesture hs math hrect g) (hs.run math rect _)

end Steps

/-! ### The result -/

/-- A viewport fitted to positive sizes. -/
structure Fitted (s : Viewport K) : Prop where
  w : s.viewBox.w = s.fitW
  h : s.viewBox.h = s.fitH
  fitW_pos : 0 < s.fitW
  fitH_pos : 0 < s.fitH

/-- Every call of `fitTo` gives one: the sizes of a bounding box are not negative. -/
theorem fitTo_fitted (s : Viewport K) (minX minY : K) {w h padRatio : K} (hw : 0 ≤ w)
    (hh : 0 ≤ h) (hpad : 0 ≤ padRatio) : Fitted (fitTo minX minY w h padRatio s) := by
  by_cases hzero : w = 0 ∨ h = 0
  · simp only [fitTo, hzero, if_true]
    exact ⟨rfl, rfl, by dsimp only; positivity, by dsimp only; positivity⟩
  · simp only [fitTo, hzero, if_false]
    exact ⟨rfl, rfl, by dsimp only; positivity, by dsimp only; positivity⟩

/-- A fitted viewport keeps its frame. -/
theorem Fitted.kept {s : Viewport K} (h : Fitted s) (hidle : Idle s) :
    FrameKept s.fitW s.fitH s := by
  have hW := h.fitW_pos
  refine ⟨rfl, ⟨hW, h.fitH_pos, ?_, ?_, by rw [h.w, h.h, mul_comm]⟩, ?_⟩
  · rw [h.w]
    exact mul_le_of_le_one_right hW.le (by norm_num)
  · rw [h.w]
    exact le_mul_of_one_le_right hW.le (by norm_num)
  · simp [hidle.pinch]

/-- The aspect of the fit, one scale, and a width in the range of zooming. -/
structure Framed (rect : ClientRect K) (s₀ s : Viewport K) : Prop where
  aspect : s.viewBox.w / s.viewBox.h = s₀.viewBox.w / s₀.viewBox.h
  scale : (contentBox rect s.viewBox).scaleX = (contentBox rect s.viewBox).scaleY
  lo : s₀.viewBox.w * (5 / 100) ≤ s.viewBox.w
  hi : s.viewBox.w ≤ s₀.viewBox.w * 20

/-- From this state, every step of a gesture keeps its point of the drawing. -/
structure TracksPointer (math : CanvasMath K) (rect : ClientRect K) (s : Viewport K) : Prop where
  wheel : ∀ client deltaY,
    clientToViewBox rect (s.handle math rect (.wheel client deltaY)).viewBox client
      = clientToViewBox rect s.viewBox client
  pan : ∀ finger start moves client,
    let panned := s.run math rect (panEvents finger start moves)
    clientToViewBox rect (panned.handle math rect (.pointerMove finger client)).viewBox client
      = clientToViewBox rect s.viewBox start
  pinch : ∀ first second, first ≠ second → ∀ start panned start'
      (moves : List (Bool × Point K)) move,
    let begun := (s.run math rect (panEvents first start panned)).handle math rect
      (.pointerDown second start')
    let fingers := (panned.getLast?.getD start, start')
    let held := begun.run math rect (moves.map (pinchMoveOf first second))
    let fingers' := movedFingers (moves.foldl movedFingers fingers) move
    clientToViewBox rect (held.handle math rect (pinchMoveOf first second move)).viewBox
        (midpoint fingers'.1 fingers'.2)
      = clientToViewBox rect begun.viewBox (midpoint fingers.1 fingers.2)

/-- **The editor viewport tracks the pointer.** The frame after any events; the pointer in any
    gesture that follows completed ones. -/
theorem viewport_tracks (math : CanvasMath K) {rect : ClientRect K} (hrect : rect.Positive)
    {s₀ : Viewport K} (hfit : Fitted s₀) (hidle : Idle s₀) :
    (∀ es, Framed rect s₀ (s₀.run math rect es)) ∧
      ∀ gs : List (Gesture K),
        TracksPointer math rect (s₀.run math rect (gs.flatMap Gesture.events)) := by
  have kept := hfit.kept hidle
  refine ⟨fun es => ?_, fun gs => ?_⟩
  · have hes := (kept.run math rect es).sized
    refine ⟨by rw [hes.div_eq, hfit.w, hfit.h], ?_, hfit.w ▸ hes.lo, hfit.w ▸ hes.hi⟩
    rw [contentBox_of_sized hrect hes]
  · have hkept := kept.run math rect (gs.flatMap Gesture.events)
    have hidle' := hidle.gestures kept math hrect gs
    refine ⟨fun client deltaY => hkept.wheel_pinned math hrect client deltaY,
      fun finger start moves client => ?_,
      fun first second hne start panned start' moves move => ?_⟩
    · exact (hidle'.panning math rect finger start moves).pinned math hrect hkept client
    · have hpan := hidle'.panning math rect first start panned
      have hpanned := hkept.run math rect (panEvents first start panned)
      obtain ⟨⟨p, hpinch, hp⟩, hbox⟩ := hpan.begins math hrect hpanned hne start'
      have hheld := hpinch.moves math rect hne moves
      have hkept' := (hpanned.handle math rect (.pointerDown second start')).run math rect
        (moves.map (pinchMoveOf first second))
      dsimp only
      rw [hbox]
      exact hheld.pinned math hrect hkept' hne hp move

end Ordered

end Viewport

/-! ### The numbers of the browser, exactly -/

/-- `Math.exp` and `Math.hypot` of the real numbers. -/
noncomputable def realMath : CanvasMath ℝ where
  exp := Real.exp
  hypot x y := Real.sqrt (x ^ 2 + y ^ 2)

/-- A wide fit in a tall element, with real exponentials and distances. -/
theorem viewport_tracks_tall :
    ∃ (rect : ClientRect ℝ) (s₀ : Viewport ℝ), rect.height = 300 ∧ s₀.viewBox.h = 10 ∧
      (∀ es, Framed rect s₀ (s₀.run realMath rect es)) ∧
      ∀ gs : List (Gesture ℝ),
        TracksPointer realMath rect (s₀.run realMath rect (gs.flatMap Gesture.events)) := by
  refine ⟨⟨5, 7, 200, 300⟩, ⟨⟨0, 0, 20, 10⟩, 20, 10, none, [], none⟩, rfl, rfl, ?_⟩
  exact viewport_tracks realMath ⟨by norm_num, by norm_num⟩
    ⟨rfl, rfl, by norm_num, by norm_num⟩ ⟨rfl, rfl, rfl⟩

end BoxOffice

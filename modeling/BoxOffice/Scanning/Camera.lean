import Mathlib.Algebra.Order.Field.Basic
import Mathlib.Data.List.Induction
import Mathlib.Tactic.Linarith

namespace BoxOffice

/-!
# Scanning — the camera

The debouncer of `static/js/scanner.js`: what `considerCodes` does with the codes of a frame.

* `considerCodes` refuses a frame with several codes, and for a guard time after it every frame;
* `handleCode` drops a code while a request is in flight, and a repeat within four seconds;
* `camera_submits` — a code is submitted exactly on the frames that isolate it, over every
  sequence of frames and of requests that end.

Times are milliseconds in an ordered field.
-/

/-- What the decoder returned for one frame. -/
structure Frame (K : Type) where
  now : K
  codes : List String
  multiple : Bool
deriving Repr, DecidableEq

/-- A frame that shows more than one code, or is flagged so. -/
def Frame.Ambiguous {K : Type} (f : Frame K) : Prop := f.multiple = true ∨ 2 ≤ f.codes.length

instance {K : Type} (f : Frame K) : Decidable f.Ambiguous := inferInstanceAs (Decidable (_ ∨ _))

/-- A frame that shows exactly this code, and is not flagged. -/
def Frame.Shows {K : Type} (f : Frame K) (code : String) : Prop :=
  f.codes = [code] ∧ f.multiple = false

/-- The fields of `qrScanner` that decide about a submission. -/
structure QrScanner (K : Type) where
  busy : Bool
  lastCode : Option String
  lastCodeAt : K
  multiple : Bool
  lastMultipleAt : K
deriving Repr, DecidableEq

/-- A frame is considered, a code is typed in, or the request in flight ends. -/
inductive CameraEvent (K : Type)
  | frame (f : Frame K)
  | manual
  | done
deriving Repr, DecidableEq

section Camera

variable {K : Type} [Field K] [LinearOrder K]

/-- `MULTI_CLEAR_MS`. -/
def multiClearMs : K := 600

/-- The component before its first frame. -/
def qrScanner : QrScanner K := ⟨false, none, 0, false, 0⟩

/-- `handleCode`, with the code that it submits. -/
def handleCode (now : K) (text : String) (s : QrScanner K) : QrScanner K × Option String :=
  if s.busy then (s, none)
  else if s.lastCode = some text ∧ now - s.lastCodeAt < 4000 then (s, none)
  else ({ s with lastCode := some text, lastCodeAt := now, busy := true }, some text)

/-- `considerCodes`. -/
def considerCodes (s : QrScanner K) (result : Frame K) : QrScanner K × Option String :=
  if result.Ambiguous then ({ s with multiple := true, lastMultipleAt := result.now }, none)
  else
    match result.codes with
    | [] =>
      (if multiClearMs ≤ result.now - s.lastMultipleAt then { s with multiple := false } else s,
        none)
    | code :: _ =>
      -- The flicker of a frame that is still crowded.
      if result.now - s.lastMultipleAt < multiClearMs then ({ s with multiple := true }, none)
      else handleCode result.now code { s with multiple := false }

/-- What an event does to the component, with the code that it submits. -/
def CameraEvent.handle (s : QrScanner K) : CameraEvent K → QrScanner K × Option String
  | .frame f => considerCodes s f
  -- `submitManual` returns when a request is in flight, which leaves `busy` as it is.
  | .manual => ({ s with busy := true }, none)
  | .done => ({ s with busy := false }, none)

/-- The component after some events. -/
def scannerAfter (es : List (CameraEvent K)) : QrScanner K :=
  es.foldl (fun s e => (e.handle s).1) qrScanner

/-- The code that a frame submits, after some events. -/
def submission (es : List (CameraEvent K)) (f : Frame K) : Option String :=
  (considerCodes (scannerAfter es) f).2

/-! ### What happened -/

/-- A code submitted, a code typed in, or a request that ended. -/
inductive ScanLog (K : Type)
  | submitted (now : K) (code : String)
  | typed
  | ended
deriving Repr, DecidableEq

/-- What an event adds to the log. -/
def CameraEvent.logged (s : QrScanner K) : CameraEvent K → List (ScanLog K)
  | .frame f => ((considerCodes s f).2.map (ScanLog.submitted f.now)).toList
  | .manual => [.typed]
  | .done => [.ended]

/-- What happened from a state on. -/
def logFrom (s : QrScanner K) : List (CameraEvent K) → List (ScanLog K)
  | [] => []
  | e :: es => e.logged s ++ logFrom (e.handle s).1 es

/-- What happened over some events. -/
def scanLog (es : List (CameraEvent K)) : List (ScanLog K) := logFrom qrScanner es

/-- A request started that has not ended. -/
def InFlight (log : List (ScanLog K)) : Prop :=
  ∃ before start after, log = before ++ start :: after ∧ start ≠ .ended ∧ .ended ∉ after

/-- The codes submitted over some events, with their times, the last one last. -/
def submissions (es : List (CameraEvent K)) : List (K × String) :=
  (scanLog es).filterMap fun
    | .submitted now code => some (now, code)
    | _ => none

/-- The times of the frames among some events. -/
def frameTimes (es : List (CameraEvent K)) : List K := es.filterMap fun
  | .frame f => some f.now
  | _ => none

/-- Frame times do not decrease, and start a guard window after the initial timestamp. -/
structure Paced (es : List (CameraEvent K)) : Prop where
  ordered : (frameTimes es).Pairwise (· ≤ ·)
  started : ∀ now ∈ frameTimes es, 600 ≤ now

/-! ### One event -/

/-- The scanner after one more event. -/
theorem scannerAfter_append (es : List (CameraEvent K)) (e : CameraEvent K) :
    scannerAfter (es ++ [e]) = (e.handle (scannerAfter es)).1 := by
  simp [scannerAfter]

/-- The log grows by what one more event logs. -/
theorem logFrom_append (s : QrScanner K) (es : List (CameraEvent K)) (e : CameraEvent K) :
    logFrom s (es ++ [e])
      = logFrom s es ++ e.logged (es.foldl (fun s e => (e.handle s).1) s) := by
  induction es generalizing s with
  | nil => simp [logFrom]
  | cons d es ih => simp [logFrom, ih]

/-- The log of the page grows by what one more event logs. -/
theorem scanLog_append (es : List (CameraEvent K)) (e : CameraEvent K) :
    scanLog (es ++ [e]) = scanLog es ++ e.logged (scannerAfter es) :=
  logFrom_append _ es e

omit [Field K] [LinearOrder K] in
/-- After an answer no request is in flight. -/
theorem inFlight_append_ended (log : List (ScanLog K)) : ¬ InFlight (log ++ [.ended]) := by
  rintro ⟨before, start, after, h, hstart, hafter⟩
  rcases List.eq_nil_or_concat after with rfl | ⟨after, last, rfl⟩
  · exact hstart (by simpa using (List.append_inj_right' h rfl).symm)
  · have hlast : ScanLog.ended = last := by
      have h' : log ++ [.ended] = (before ++ start :: after) ++ [last] := by simpa using h
      simpa using List.append_inj_right' h' rfl
    exact hafter (by simp [hlast])

omit [Field K] [LinearOrder K] in
/-- After a start a request is in flight. -/
theorem inFlight_append_start (log : List (ScanLog K)) {start : ScanLog K}
    (h : start ≠ .ended) : InFlight (log ++ [start]) :=
  ⟨log, start, [], rfl, h, by simp⟩

/-- What considering a frame can do: mark it crowded, drop it, or submit its code. -/
theorem considerCodes_cases (s : QrScanner K) (f : Frame K) :
    (f.Ambiguous ∧
      considerCodes s f = ({ s with multiple := true, lastMultipleAt := f.now }, none)) ∨
    (¬ f.Ambiguous ∧
      (∃ multiple, considerCodes s f = ({ s with multiple := multiple }, none)) ∧
      ∀ code, f.Shows code → f.now - s.lastMultipleAt < 600 ∨ s.busy = true ∨
        s.lastCode = some code ∧ f.now - s.lastCodeAt < 4000) ∨
    ∃ code, f.Shows code ∧ 600 ≤ f.now - s.lastMultipleAt ∧ s.busy = false ∧
      (s.lastCode = some code → 4000 ≤ f.now - s.lastCodeAt) ∧
      considerCodes s f
        = (⟨true, some code, f.now, false, s.lastMultipleAt⟩, some code) := by
  by_cases hf : f.Ambiguous
  · exact .inl ⟨hf, by simp [considerCodes, hf]⟩
  -- No code: all that can change is the warning about several codes.
  rcases hcodes : f.codes with _ | ⟨code, rest⟩
  · refine .inr (.inl ⟨hf, ?_, fun c hc => by simp [hc.1] at hcodes⟩)
    by_cases hw : (multiClearMs : K) ≤ f.now - s.lastMultipleAt
    · exact ⟨false, by simp [considerCodes, hf, hcodes, hw]⟩
    · exact ⟨s.multiple, by simp [considerCodes, hf, hcodes, hw]⟩
  · have hshows : f.Shows code := by
      simp only [Frame.Ambiguous, hcodes, List.length_cons, not_or, Bool.not_eq_true] at hf
      have : rest = [] := List.length_eq_zero_iff.mp (by omega)
      exact ⟨by rw [hcodes, this], hf.1⟩
    have only : ∀ c, f.Shows c → c = code := fun c hc => by
      have := hc.1.symm.trans hshows.1
      simpa using this
    -- One code: the guard after a crowded frame, a request under way and a repetition drop it, in
    -- this order.
    by_cases hw : f.now - s.lastMultipleAt < multiClearMs
    · exact .inr (.inl ⟨hf, ⟨true, by simp [considerCodes, hf, hcodes, hw]⟩,
        fun _ _ => .inl hw⟩)
    by_cases hb : s.busy = true
    · exact .inr (.inl ⟨hf, ⟨false, by simp [considerCodes, hf, hcodes, hw, handleCode, hb]⟩,
        fun _ _ => .inr (.inl hb)⟩)
    by_cases hr : s.lastCode = some code ∧ f.now - s.lastCodeAt < 4000
    · refine .inr (.inl ⟨hf, ⟨false, ?_⟩, fun c hc => .inr (.inr (only c hc ▸ hr))⟩)
      simp [considerCodes, hf, hcodes, hw, handleCode, hb, hr]
    · refine .inr (.inr ⟨code, hshows, not_lt.mp hw, by simp [hb], ?_, ?_⟩)
      · exact fun h => not_lt.mp fun hlt => hr ⟨h, hlt⟩
      · have hb' : s.busy = false := by simpa using hb
        simp only [considerCodes, hf, hcodes, hw, handleCode, hb', if_false, Bool.false_eq_true]
        rw [if_neg hr]

/-! ### Every run -/

/-- What the fields of the component say about the events so far. -/
structure Tracks (es : List (CameraEvent K)) (s : QrScanner K) : Prop where
  ambiguous : ∀ g, .frame g ∈ es → g.Ambiguous → g.now ≤ s.lastMultipleAt
  crowded : s.lastMultipleAt = 0 ∨
    ∃ g, .frame g ∈ es ∧ g.Ambiguous ∧ s.lastMultipleAt = g.now
  busy : s.busy = true ↔ InFlight (scanLog es)
  last : (submissions es).getLast? = s.lastCode.map (s.lastCodeAt, ·)
  latest : ∀ p ∈ submissions es, p.1 ≤ s.lastCodeAt
  submitted : ∀ p ∈ submissions es, p.1 ∈ frameTimes es

omit [Field K] [LinearOrder K] in
/-- A frame adds its time. -/
@[simp] theorem frameTimes_append_frame (es : List (CameraEvent K)) (f : Frame K) :
    frameTimes (es ++ [.frame f]) = frameTimes es ++ [f.now] := by simp [frameTimes]

omit [Field K] [LinearOrder K] in
/-- The time of a frame is among the times. -/
theorem mem_frameTimes {es : List (CameraEvent K)} {f : Frame K} (h : .frame f ∈ es) :
    f.now ∈ frameTimes es := List.mem_filterMap.mpr ⟨_, h, rfl⟩

/-- A frame adds its submission, if there is one. -/
theorem submissions_append_frame (es : List (CameraEvent K)) (f : Frame K) :
    submissions (es ++ [.frame f])
      = submissions es ++ ((submission es f).map (f.now, ·)).toList := by
  simp only [submissions, scanLog_append, List.filterMap_append, CameraEvent.logged, submission]
  cases (considerCodes (scannerAfter es) f).2 <;> rfl

/-- A frame no earlier than every frame before it keeps the component in step. -/
theorem Tracks.frame {es : List (CameraEvent K)} {f : Frame K}
    (h : Tracks es (scannerAfter es)) (hf : ∀ now ∈ frameTimes es, now ≤ f.now) :
    Tracks (es ++ [.frame f]) (considerCodes (scannerAfter es) f).1 := by
  have hsub := submissions_append_frame es f
  have hlog : scanLog (es ++ [.frame f]) = scanLog es
      ++ ((submission es f).map (ScanLog.submitted f.now)).toList := scanLog_append es _
  have earlier : ∀ g, CameraEvent.frame g ∈ es ++ [.frame f] → g.Ambiguous → ¬ f.Ambiguous →
      g.now ≤ (scannerAfter es).lastMultipleAt := by
    intro g hg ha hnot
    rcases List.mem_append.mp hg with hg | hg
    · exact h.ambiguous g hg ha
    · cases List.mem_singleton.mp hg
      exact absurd ha hnot
  have crowded : (scannerAfter es).lastMultipleAt = 0 ∨
      ∃ g, .frame g ∈ es ++ [.frame f] ∧ g.Ambiguous ∧
        (scannerAfter es).lastMultipleAt = g.now :=
    h.crowded.imp id fun ⟨g, hg, hrest⟩ => ⟨g, List.mem_append_left _ hg, hrest⟩
  -- An ambiguous frame is remembered, a quiet one only clears the warning, and one code is
  -- submitted.
  rcases considerCodes_cases (scannerAfter es) f with
    ⟨ha, hc⟩ | ⟨hna, ⟨multiple, hc⟩, -⟩ | ⟨code, hshows, -, -, -, hc⟩
  · have hnone : submission es f = none := by simp [submission, hc]
    rw [hnone] at hsub hlog
    simp only [Option.map_none, Option.toList_none, List.append_nil] at hsub hlog
    rw [hc]
    refine ⟨fun g hg _ => ?_, .inr ⟨f, by simp, ha, rfl⟩, hlog ▸ h.busy, hsub ▸ h.last,
      hsub ▸ h.latest, fun p hp => ?_⟩
    · rcases List.mem_append.mp hg with hg | hg
      · exact hf _ (mem_frameTimes hg)
      · cases List.mem_singleton.mp hg
        exact le_rfl
    · simpa using .inl (h.submitted p (hsub ▸ hp))
  · have hnone : submission es f = none := by simp [submission, hc]
    rw [hnone] at hsub hlog
    simp only [Option.map_none, Option.toList_none, List.append_nil] at hsub hlog
    rw [hc]
    exact ⟨fun g hg ha => earlier g hg ha hna, crowded, hlog ▸ h.busy, hsub ▸ h.last,
      hsub ▸ h.latest, fun p hp => by simpa using .inl (h.submitted p (hsub ▸ hp))⟩
  · have hsome : submission es f = some code := by simp [submission, hc]
    have hna : ¬ f.Ambiguous := by simp [Frame.Ambiguous, hshows.1, hshows.2]
    rw [hsome] at hsub hlog
    simp only [Option.map_some, Option.toList_some] at hsub hlog
    rw [hc]
    refine ⟨fun g hg ha => earlier g hg ha hna, crowded, ?_, by simp [hsub], ?_, ?_⟩
    -- The request that starts here is in flight.
    · rw [hlog]
      exact ⟨fun _ => inFlight_append_start _ (by simp), fun _ => rfl⟩
    · rw [hsub]
      rintro p hp
      rcases List.mem_append.mp hp with hp | hp
      · exact hf _ (h.submitted p hp)
      · rw [List.mem_singleton.mp hp]
    · rw [hsub, frameTimes_append_frame]
      rintro p hp
      rcases List.mem_append.mp hp with hp | hp
      · exact List.mem_append_left _ (h.submitted p hp)
      · rw [List.mem_singleton.mp hp]
        simp

/-- An event that shows no frame only sets `busy`. -/
theorem Tracks.other {es : List (CameraEvent K)} {e : CameraEvent K}
    (h : Tracks es (scannerAfter es)) (he : e = .manual ∨ e = .done) :
    Tracks (es ++ [e]) (e.handle (scannerAfter es)).1 := by
  have hsub : submissions (es ++ [e]) = submissions es := by
    rcases he with rfl | rfl <;> simp [submissions, scanLog_append, CameraEvent.logged]
  have htimes : frameTimes (es ++ [e]) = frameTimes es := by
    rcases he with rfl | rfl <;> simp [frameTimes]
  have hmem : ∀ g, CameraEvent.frame g ∈ es ++ [e] ↔ .frame g ∈ es := by
    rcases he with rfl | rfl <;> simp
  have hbusy : (e.handle (scannerAfter es)).1.busy = true ↔ InFlight (scanLog (es ++ [e])) := by
    rw [scanLog_append]
    rcases he with rfl | rfl
    · exact ⟨fun _ => inFlight_append_start _ (by simp), fun _ => rfl⟩
    · exact ⟨fun hb => by simp [CameraEvent.handle] at hb,
        fun hin => absurd hin (inFlight_append_ended _)⟩
  have hsame : (e.handle (scannerAfter es)).1.lastMultipleAt = (scannerAfter es).lastMultipleAt ∧
      (e.handle (scannerAfter es)).1.lastCode = (scannerAfter es).lastCode ∧
      (e.handle (scannerAfter es)).1.lastCodeAt = (scannerAfter es).lastCodeAt := by
    rcases he with rfl | rfl <;> exact ⟨rfl, rfl, rfl⟩
  obtain ⟨hmult, hcode, hat⟩ := hsame
  refine ⟨?_, ?_, hbusy, ?_, ?_, ?_⟩
  · simpa only [hmem, hmult] using h.ambiguous
  · simpa only [hmem, hmult] using h.crowded
  · simpa only [hsub, hcode, hat] using h.last
  · simpa only [hsub, hat] using h.latest
  · simpa only [hsub, htimes] using h.submitted

/-- Fewer events are paced too. -/
theorem Paced.prefix {es : List (CameraEvent K)} {e : CameraEvent K} (h : Paced (es ++ [e])) :
    Paced es := by
  have hsub : (frameTimes es).Sublist (frameTimes (es ++ [e])) := by
    simp [frameTimes, List.filterMap_append]
  exact ⟨h.ordered.sublist hsub, fun now hnow => h.started now (hsub.subset hnow)⟩

/-- The last frame comes last. -/
theorem Paced.le_last {es : List (CameraEvent K)} {f : Frame K}
    (h : Paced (es ++ [.frame f])) : ∀ now ∈ frameTimes es, now ≤ f.now := by
  have := h.ordered
  rw [frameTimes_append_frame, List.pairwise_append] at this
  exact fun now hnow => this.2.2 now hnow f.now (by simp)

/-- In a paced run the component is in step with what happened. -/
theorem tracks_scannerAfter (es : List (CameraEvent K)) (h : Paced es) :
    Tracks es (scannerAfter es) := by
  induction es using List.reverseRecOn with
  | nil =>
    refine ⟨by simp, .inl rfl, ⟨fun hb => by simp [scannerAfter, qrScanner] at hb, ?_⟩,
      rfl, by simp [submissions, scanLog, logFrom], by simp [submissions, scanLog, logFrom]⟩
    rintro ⟨before, start, after, hlog, -⟩
    simp [scanLog, logFrom] at hlog
  | append_singleton es e ih =>
    rw [scannerAfter_append]
    have hes := ih h.prefix
    cases e with
    | frame f => exact hes.frame h.le_last
    | manual => exact hes.other (.inl rfl)
    | done => exact hes.other (.inr rfl)

variable [IsStrictOrderedRing K]

/-- What the camera promises of a frame, given what came before it. -/
structure NeverWrong (es : List (CameraEvent K)) (f : Frame K) : Prop where
  /-- A code is submitted on a frame that shows it alone, out of every guard window. -/
  isolated : ∀ code, submission es f = some code → f.Shows code ∧
    ∀ g, .frame g ∈ es → g.Ambiguous → 600 ≤ f.now - g.now
  /-- A code is submitted again within four seconds only after a different one. -/
  debounced : ∀ code, submission es f = some code →
    ∀ before now after, submissions es = before ++ (now, code) :: after →
      f.now - now < 4000 → ∃ p ∈ after, p.2 ≠ code
  /-- A code alone in its guard window is submitted at once. -/
  prompt : ∀ code, f.Shows code →
    (∀ g, .frame g ∈ es → g.Ambiguous → 600 ≤ f.now - g.now) →
    ¬ InFlight (scanLog es) →
    (∀ now, (now, code) ∈ submissions es → 4000 ≤ f.now - now) →
    submission es f = some code

omit [Field K] [LinearOrder K] [IsStrictOrderedRing K] in
/-- The last of a list, when nothing after a member differs from it. -/
theorem getLast?_of_same {before after : List (K × String)} {now : K} {code : String}
    (h : ∀ p ∈ after, p.2 = code) :
    ∃ at', (before ++ (now, code) :: after).getLast? = some (at', code) := by
  rcases List.eq_nil_or_concat after with rfl | ⟨after, ⟨at', code'⟩, rfl⟩
  · exact ⟨now, by simp⟩
  · have : code' = code := h (at', code') (by simp)
    have hassoc : before ++ (now, code) :: after.concat (at', code')
        = (before ++ (now, code) :: after) ++ [(at', code')] := by simp
    exact ⟨at', by rw [hassoc, List.getLast?_concat, this]⟩

/-- **The camera never scans the wrong ticket.** Over every paced run of frames and
    requests, of any durations. -/
theorem camera_submits (es : List (CameraEvent K)) (f : Frame K)
    (h : Paced (es ++ [.frame f])) : NeverWrong es f := by
  have tracks := tracks_scannerAfter es h.prefix
  set s := scannerAfter es with hs
  have hstarted : 600 ≤ f.now := h.started _ (by simp)
  refine ⟨fun code hcode => ?_, fun code hcode before now after hsub hnow => ?_,
    fun code hshows hclear hidle hfresh => ?_⟩
  · rcases considerCodes_cases s f with ⟨-, hc⟩ | ⟨-, ⟨_, hc⟩, -⟩ | ⟨c, hshows, hw, -, -, hc⟩
    · simp [submission, ← hs, hc] at hcode
    · simp [submission, ← hs, hc] at hcode
    · have : c = code := by simpa [submission, ← hs, hc] using hcode
      subst this
      refine ⟨hshows, fun g hg ha => ?_⟩
      have := tracks.ambiguous g hg ha
      linarith
  · rcases considerCodes_cases s f with ⟨-, hc⟩ | ⟨-, ⟨_, hc⟩, -⟩ | ⟨c, -, -, -, hrep, hc⟩
    · simp [submission, ← hs, hc] at hcode
    · simp [submission, ← hs, hc] at hcode
    · have : c = code := by simpa [submission, ← hs, hc] using hcode
      subst this
      by_contra hsame
      push Not at hsame
      -- Then the last submission was of this code, no earlier than the one given.
      obtain ⟨at', hlast⟩ := @getLast?_of_same K before after now c hsame
      rw [← hsub, tracks.last, Option.map_eq_some_iff] at hlast
      obtain ⟨c', hc', heq⟩ := hlast
      cases heq
      have hle : now ≤ s.lastCodeAt := tracks.latest (now, c) (by simp [hsub])
      have := hrep hc'
      linarith
  · rcases considerCodes_cases s f with
      ⟨ha, -⟩ | ⟨-, -, hdropped⟩ | ⟨c, hshows', -, -, -, hc⟩
    · simp [Frame.Ambiguous, hshows.1, hshows.2] at ha
    · rcases hdropped code hshows with hw | hb | ⟨hlast, hat⟩
      · rcases tracks.crowded with h0 | ⟨g, hg, ha, hat⟩
        · rw [h0] at hw
          linarith
        · have := hclear g hg ha
          rw [hat] at hw
          linarith
      · exact absurd (tracks.busy.mp hb) hidle
      · have hmem : (s.lastCodeAt, code) ∈ submissions es :=
          List.mem_of_getLast? (by rw [tracks.last, hlast]; rfl)
        have := hfresh _ hmem
        linarith
    · have : c = code := by simpa using hshows'.1.symm.trans hshows.1
      simp [submission, ← hs, hc, this]

/-- Two tickets shown one after the other, with a crowded frame between them. -/
theorem camera_submits_two :
    let es : List (CameraEvent ℚ) :=
      [.frame ⟨600, ["A"], false⟩, .frame ⟨700, ["A", "B"], false⟩, .done]
    Paced (es ++ [.frame ⟨1400, ["B"], false⟩]) ∧
      NeverWrong es ⟨1400, ["B"], false⟩ ∧ submission es ⟨1400, ["B"], false⟩ = some "B" := by
  have paced : Paced ([.frame ⟨600, ["A"], false⟩, .frame ⟨700, ["A", "B"], false⟩, .done] ++
      [.frame ⟨1400, ["B"], false⟩] : List (CameraEvent ℚ)) :=
    ⟨by simp [frameTimes]; norm_num, by simp [frameTimes]; norm_num⟩
  exact ⟨paced, camera_submits _ _ paced, by decide +kernel⟩

end Camera

end BoxOffice

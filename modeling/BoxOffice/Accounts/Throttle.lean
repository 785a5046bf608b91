import BoxOffice.Python.Text
import BoxOffice.Schema
import BoxOffice.Transition.Expiring
import Mathlib.Data.List.Induction
import Mathlib.Data.List.TakeWhile

namespace BoxOffice

open Transition

/-!
# Accounts — the login throttle

`accounts.throttle` over the file-based cache of the production settings.

* `Cache` — the cache: an entry expires after its timeout, `incr` writes the entry again with the
  timeout of the settings, and every write may cull other entries;
* `Windows` — what the throttle is for: windows of a fixed length, opened by a failure;
* `throttle_fixed_window` — the throttle counts in such windows exactly as long as no failure in
  an open window rewrites its end, and no open window is culled.
-/

/-! ### The cache -/

/-- A cache from keys to counters. -/
abbrev Cache := ExpiringStore String Nat Time

/-- Seconds. -/
def seconds (n : Nat) : Time := n * 1000000

/-- The timeout of an entry that is written without one, as no setting says otherwise. -/
def defaultTimeout : Nat := 300

namespace Cache

/-- `cache.get`. -/
def get (c : Cache) (key : String) (now : Time) : Option Nat := (c.live key now).map Entry.value

/-- `cache.set`; `culled` are the files that `_cull` samples when there are too many. -/
def set (c : Cache) (key : String) (value : Nat) (timeout : Nat) (now : Time)
    (culled : List String) : Cache :=
  (c.dropAll culled).write key ⟨value, now + seconds timeout⟩

/-- `cache.incr`, or the `ValueError` on a key that is not there. -/
def incr (c : Cache) (key : String) (now : Time) (culled : List String) :
    Option (Cache × Nat) :=
  (c.get key now).map fun value =>
    (c.set key (value + 1) defaultTimeout now culled, value + 1)

end Cache

/-! ### The throttle -/

/-- The values of `request.META` that the throttle reads. -/
structure RequestMeta where
  httpXForwardedFor : Option String
  remoteAddr : Option String
deriving Repr, DecidableEq

/-- `text.split(",")[0].strip()`. -/
def firstHop (text : String) : String :=
  Python.strip (String.ofList (text.toList.takeWhile (· ≠ ',')))

/-- `_client_ip`. -/
def clientIp (request : RequestMeta) : String :=
  let forwarded := request.httpXForwardedFor.getD ""
  if forwarded ≠ "" then firstHop forwarded
  else
    let remote := request.remoteAddr.getD ""
    if remote ≠ "" then remote else "unknown"

/-- A scope, such as `"staff-login"`. -/
structure ThrottleScope where
  text : String
  plain : ':' ∉ text.toList
deriving Repr, DecidableEq

/-- `_key`. -/
def throttleKey (scope : ThrottleScope) (request : RequestMeta) : String :=
  "loginthrottle:" ++ scope.text ++ ":" ++ clientIp request

/-- The settings `LOGIN_RATELIMIT_*`, with a window longer than the default timeout. -/
structure LoginRatelimit where
  maxAttempts : Int
  windowSeconds : Nat
  longer : defaultTimeout < windowSeconds

/-- `_enabled`. -/
def LoginRatelimit.enabled (conf : LoginRatelimit) : Bool := 0 < conf.maxAttempts

section Functions

variable (conf : LoginRatelimit) (c : Cache) (now : Time) (scope : ThrottleScope)
  (request : RequestMeta)

/-- `is_locked_out`. -/
def isLockedOut : Bool :=
  if conf.enabled then
    conf.maxAttempts ≤ ((c.get (throttleKey scope request) now).getD 0 : Int)
  else false

/-- `register_failure`. -/
def registerFailure (culled : List String) : Cache × Nat :=
  if conf.enabled then
    match c.incr (throttleKey scope request) now culled with
    | some result => result
    | none => (c.set (throttleKey scope request) 1 conf.windowSeconds now culled, 1)
  else (c, 0)

/-- `clear`. -/
def clearFailures : Cache :=
  if conf.enabled then c.erase (throttleKey scope request) else c

end Functions

/-! ### Fixed windows -/

/-- A window: its failures and the moment of the first. -/
structure FailureWindow where
  failures : Nat
  first : Time
  opened : 0 < failures

/-- What a window belongs to: a scope and the address of a client. -/
abbrev Bucket := ThrottleScope × String

/-- The bucket of a request. -/
def bucketOf (scope : ThrottleScope) (request : RequestMeta) : Bucket := (scope, clientIp request)

/-- The last window of each bucket. -/
abbrev Windows := Bucket → Option FailureWindow

/-- The length of a window. -/
def LoginRatelimit.window (conf : LoginRatelimit) : Time := seconds conf.windowSeconds

namespace Windows

variable (ws : Windows) (conf : LoginRatelimit) (b : Bucket) (now : Time)

/-- The window that is open, which it is until the length has passed since its first failure. -/
def current : Option FailureWindow := (ws b).filter fun w => now ≤ w.first + conf.window

/-- The failures in the window that is open. -/
def failures : Nat := (ws.current conf b now).elim 0 FailureWindow.failures

/-- A failure opens a window, or is one more in the window that is open. -/
def register : Windows :=
  Function.update ws b <| some <|
    match ws.current conf b now with
    | some w => ⟨w.failures + 1, w.first, Nat.succ_pos _⟩
    | none => ⟨1, now, Nat.one_pos⟩

/-- Close the window. -/
def close : Windows := Function.update ws b none

end Windows

/-! ### Runs -/

/-- The cache, the windows that there should be, and the clock. -/
structure Throttle where
  cache : Cache
  windows : Windows
  now : Time

inductive ThrottleEvent
  | advance (d : Nat)
  | registerFailure (scope : ThrottleScope) (request : RequestMeta) (culled : List String)
  | isLockedOut (scope : ThrottleScope) (request : RequestMeta)
  | clear (scope : ThrottleScope) (request : RequestMeta)
deriving DecidableEq

def ThrottleEvent.next (conf : LoginRatelimit) (s : Throttle) : ThrottleEvent → Throttle
  | .advance d => { s with now := s.now + d }
  | .registerFailure scope request culled =>
    { s with
      cache := (BoxOffice.registerFailure conf s.cache s.now scope request culled).1
      windows := s.windows.register conf (bucketOf scope request) s.now }
  | .isLockedOut .. => s
  | .clear scope request =>
    { s with
      cache := clearFailures conf s.cache scope request
      windows := s.windows.close (bucketOf scope request) }

def Throttle.run (conf : LoginRatelimit) (s : Throttle) (es : List ThrottleEvent) : Throttle :=
  es.foldl (ThrottleEvent.next conf) s

/-- An empty cache. -/
def Throttle.start : Throttle := ⟨fun _ => none, fun _ => none, 0⟩

/-- `is_locked_out` in a state. -/
def Throttle.lockedOut (conf : LoginRatelimit) (s : Throttle) (scope : ThrottleScope)
    (request : RequestMeta) : Bool :=
  BoxOffice.isLockedOut conf s.cache s.now scope request

/-- Now and at every later moment, and after any more failures at that moment, an address is
    locked out exactly when the window has the maximum of failures. -/
def Throttle.FixedWindow (conf : LoginRatelimit) (s : Throttle) : Prop :=
  ∀ d scope request n,
    let later := s.run conf
      (.advance d :: List.replicate n (.registerFailure scope request []))
    later.lockedOut conf scope request = true ↔
      conf.maxAttempts ≤ later.windows.failures conf (bucketOf scope request) later.now

/-- The call is no failure in an open window, or it comes one default timeout before the end of
    the window; and no other open window is culled. -/
structure ThrottleEvent.OnTime (conf : LoginRatelimit) (e : ThrottleEvent) (s : Throttle) :
    Prop where
  expiry : ∀ scope request culled w, e = .registerFailure scope request culled →
    s.windows.current conf (bucketOf scope request) s.now = some w →
    s.now + seconds defaultTimeout = w.first + conf.window
  cull : ∀ scope request culled scope' request', e = .registerFailure scope request culled →
    throttleKey scope' request' ∈ culled → bucketOf scope' request' ≠ bucketOf scope request →
    s.windows.current conf (bucketOf scope' request') s.now = none

/-! ### Keys -/

/-- What stands before the first separator. -/
theorem takeWhile_ne_append (c : Char) (x z : List Char) :
    (x ++ c :: z).takeWhile (· ≠ c) = x.takeWhile (· ≠ c) := by
  induction x with
  | nil => simp
  | cons a x ih => by_cases ha : a = c <;> simp_all

/-- A text without the character is taken whole. -/
theorem takeWhile_ne_self {c : Char} {x : List Char} (h : c ∉ x) :
    x.takeWhile (· ≠ c) = x :=
  List.takeWhile_eq_self_iff.mpr fun a ha => by simpa using ne_of_mem_of_not_mem ha h

/-- The key depends on the address of the client only. -/
theorem throttleKey_congr {scope : ThrottleScope} {request request' : RequestMeta}
    (h : clientIp request = clientIp request') :
    throttleKey scope request = throttleKey scope request' := by
  unfold throttleKey
  rw [h]

/-- The characters of a key. -/
theorem throttleKey_toList {scope : ThrottleScope} {request : RequestMeta} :
    (throttleKey scope request).toList
      = "loginthrottle:".toList ++ (scope.text.toList ++ ':' :: (clientIp request).toList) := by
  have hcolon : ":".toList = [':'] := rfl
  unfold throttleKey
  rw [String.toList_append, String.toList_append, String.toList_append, hcolon, List.append_assoc,
    List.append_assoc, List.singleton_append]

/-- Keys tell buckets apart. -/
theorem throttleKey_inj {scope scope' : ThrottleScope} {request request' : RequestMeta} :
    throttleKey scope request = throttleKey scope' request' ↔
      bucketOf scope request = bucketOf scope' request' := by
  constructor
  · intro h
    have hlist : scope.text.toList ++ ':' :: (clientIp request).toList
        = scope'.text.toList ++ ':' :: (clientIp request').toList := by
      have htext := congrArg String.toList h
      rw [throttleKey_toList, throttleKey_toList] at htext
      exact List.append_cancel_left htext
    obtain ⟨text, plain⟩ := scope
    obtain ⟨text', plain'⟩ := scope'
    -- No scope has a colon.
    have hscope := congrArg (List.takeWhile (· ≠ ':')) hlist
    rw [takeWhile_ne_append, takeWhile_ne_append, takeWhile_ne_self plain,
      takeWhile_ne_self plain'] at hscope
    obtain rfl : text = text' := String.toList_inj.mp hscope
    simp only [List.append_cancel_left_eq, List.cons.injEq, true_and] at hlist
    simp [bucketOf, String.toList_inj.mp hlist]
  · intro h
    obtain ⟨rfl, hip⟩ := Prod.mk.inj h
    exact throttleKey_congr hip

/-! ### What the calls do -/

section Calls

variable {conf : LoginRatelimit} {c : Cache} {ws : Windows} {now : Time}
  {scope : ThrottleScope} {request : RequestMeta} {culled : List String} {b b' : Bucket}

/-- The timeout of the cache is shorter than the window. -/
theorem seconds_lt_window : seconds defaultTimeout < conf.window :=
  Nat.mul_lt_mul_of_pos_right conf.longer (by decide)

/-- An entry that was set is live. -/
theorem Cache.live_set (key : String) (value timeout : Nat) :
    (c.set key value timeout now culled).live key now = some ⟨value, now + seconds timeout⟩ :=
  ExpiringStore.live_write (Nat.le_add_right _ _)

/-- A failure, on its own entry. -/
theorem registerFailure_live (hon : conf.enabled = true) :
    (registerFailure conf c now scope request culled).1.live (throttleKey scope request) now
      = some ⟨(c.get (throttleKey scope request) now).getD 0 + 1,
          now + if (c.get (throttleKey scope request) now).isSome then seconds defaultTimeout
            else conf.window⟩ := by
  unfold registerFailure Cache.incr
  cases hget : c.get (throttleKey scope request) now <;>
    simp [hon, Cache.live_set, LoginRatelimit.window]

/-- A failure, on the other entries. -/
theorem registerFailure_live_of_ne {key : String} (h : key ≠ throttleKey scope request)
    (hon : conf.enabled = true) :
    (registerFailure conf c now scope request culled).1.live key now
      = if key ∈ culled then none else c.live key now := by
  unfold registerFailure Cache.incr
  cases c.get (throttleKey scope request) now <;>
    simp [hon, Cache.set, h, ExpiringStore.live_dropAll]

/-- After a reset the key has no live entry. -/
theorem clearFailures_live (hon : conf.enabled = true) :
    (clearFailures conf c scope request).live (throttleKey scope request) now = none := by
  simp [clearFailures, hon]

/-- A reset leaves the other keys. -/
theorem clearFailures_live_of_ne {key : String} (h : key ≠ throttleKey scope request)
    (hon : conf.enabled = true) :
    (clearFailures conf c scope request).live key now = c.live key now := by
  simp [clearFailures, hon, h]

namespace Windows

/-- A window that is open later is open now. -/
theorem current_of_le {later : Time} (h : now ≤ later) :
    ws.current conf b later
      = (ws.current conf b now).filter fun w => later ≤ w.first + conf.window := by
  unfold current
  cases ws b with
  | none => rfl
  | some w =>
    by_cases hlater : later ≤ w.first + conf.window
    · simp [Option.filter_some, hlater, h.trans hlater]
    · by_cases hnow : now ≤ w.first + conf.window <;> simp [Option.filter_some, hlater, hnow]

/-- The current window is open. -/
theorem current_open {w : FailureWindow} (h : ws.current conf b now = some w) :
    now ≤ w.first + conf.window := by
  simpa using (Option.filter_eq_some_iff.mp h).2

/-- A failure, in its own window. -/
theorem current_register :
    (ws.register conf b now).current conf b now = some
      (match ws.current conf b now with
        | some w => ⟨w.failures + 1, w.first, Nat.succ_pos _⟩
        | none => ⟨1, now, Nat.one_pos⟩) := by
  unfold register
  cases h : ws.current conf b now with
  | none => simp [current, Option.filter_some]
  | some w => simpa [current, Option.filter_some] using current_open h

/-- A failure leaves the windows of other buckets. -/
theorem current_register_of_ne (h : b' ≠ b) :
    (ws.register conf b now).current conf b' now = ws.current conf b' now := by
  simp [register, current, h]

/-- A reset closes the window of its bucket. -/
theorem current_close : (ws.close b).current conf b now = none := by
  simp [close, current]

/-- A reset leaves the windows of other buckets. -/
theorem current_close_of_ne (h : b' ≠ b) :
    (ws.close b).current conf b' now = ws.current conf b' now := by
  simp [close, current, h]

/-- A failure adds one to its window. -/
theorem failures_register :
    (ws.register conf b now).failures conf b now = ws.failures conf b now + 1 := by
  unfold failures
  rw [current_register]
  cases ws.current conf b now <;> rfl

end Windows

end Calls

/-! ### Failures at one moment -/

/-- The counter of a bucket, or zero. -/
def Throttle.count (s : Throttle) (scope : ThrottleScope) (request : RequestMeta) : Nat :=
  (s.cache.get (throttleKey scope request) s.now).getD 0

section Steps

variable {conf : LoginRatelimit} {s : Throttle}

/-- Histories run one after another. -/
theorem Throttle.run_append (es es' : List ThrottleEvent) :
    s.run conf (es ++ es') = (s.run conf es).run conf es' :=
  List.foldl_append

/-- More failures at one moment count the same in the cache and in the window. -/
theorem Throttle.run_failures (hon : conf.enabled = true) (scope : ThrottleScope)
    (request : RequestMeta) (n : Nat) :
    let later := s.run conf (List.replicate n (.registerFailure scope request []))
    later.now = s.now ∧ later.count scope request = s.count scope request + n ∧
      later.windows.failures conf (bucketOf scope request) s.now
        = s.windows.failures conf (bucketOf scope request) s.now + n := by
  induction n with
  | zero => exact ⟨rfl, rfl, rfl⟩
  | succ n ih =>
    obtain ⟨hnow, hcount, hfailures⟩ := ih
    simp only [List.replicate_succ', Throttle.run_append]
    generalize s.run conf (List.replicate n (.registerFailure scope request [])) = later at *
    refine ⟨hnow, ?_, ?_⟩
    · show ((Cache.get _ _ _).getD 0) = _
      simp only [Throttle.run, List.foldl_cons, List.foldl_nil, ThrottleEvent.next, Cache.get,
        registerFailure_live hon, Option.map_some, Option.getD_some]
      rw [← add_assoc, ← hcount]
      rfl
    · simp only [Throttle.run, List.foldl_cons, List.foldl_nil, ThrottleEvent.next, hnow]
      rw [Windows.failures_register, hfailures, add_assoc]

/-- Lock-out is reading a count that is high enough. -/
theorem Throttle.lockedOut_iff (hon : conf.enabled = true) (scope : ThrottleScope)
    (request : RequestMeta) :
    s.lockedOut conf scope request = true ↔ conf.maxAttempts ≤ s.count scope request := by
  simp [Throttle.lockedOut, isLockedOut, hon, Throttle.count]

/-- The fixed window, in terms of the counts. -/
theorem Throttle.fixedWindow_iff (hon : conf.enabled = true) :
    s.FixedWindow conf ↔ ∀ d scope request (n : Nat),
      conf.maxAttempts ≤ ((ThrottleEvent.advance d).next conf s).count scope request + n ↔
        conf.maxAttempts
          ≤ s.windows.failures conf (bucketOf scope request) (s.now + d) + n := by
  refine forall_congr' fun d => forall_congr' fun scope => forall_congr' fun request =>
    forall_congr' fun n => ?_
  obtain ⟨hnow, hcount, hfailures⟩ :=
    Throttle.run_failures (s := (ThrottleEvent.advance d).next conf s) hon scope request n
  have hcons : s.run conf (.advance d :: List.replicate n (.registerFailure scope request []))
      = ((ThrottleEvent.advance d).next conf s).run conf
          (List.replicate n (.registerFailure scope request [])) := rfl
  simp only [hcons]
  rw [Throttle.lockedOut_iff hon, hcount, hnow, hfailures, Nat.cast_add, Nat.cast_add]
  rfl

/-- A disabled throttle locks nobody out, however few failures the maximum is. -/
theorem Throttle.FixedWindow.enabled (h : s.FixedWindow conf) : conf.enabled = true := by
  by_contra hoff
  have hmax : conf.maxAttempts ≤ 0 := by simpa [LoginRatelimit.enabled] using hoff
  have hlocked := (h 0 ⟨"", by decide⟩ ⟨none, none⟩ 0).mpr (by omega)
  simp [Throttle.lockedOut, isLockedOut, hoff] at hlocked

/-! ### The cache follows the windows -/

/-- Every entry has the failures of its window, and the end of it. -/
def Throttle.Tracks (conf : LoginRatelimit) (s : Throttle) : Prop :=
  ∀ scope request, s.cache.live (throttleKey scope request) s.now
    = (s.windows.current conf (bucketOf scope request) s.now).map fun w =>
        ⟨w.failures, w.first + conf.window⟩

/-- The empty cache follows the windows. -/
theorem Throttle.start_tracks : Throttle.start.Tracks conf := fun _ _ => rfl

/-- Where the cache follows the windows, it counts their failures. -/
theorem Throttle.Tracks.count (h : s.Tracks conf) (scope : ThrottleScope)
    (request : RequestMeta) :
    s.count scope request = s.windows.failures conf (bucketOf scope request) s.now := by
  unfold Throttle.count Cache.get Windows.failures
  rw [h]
  cases s.windows.current conf (bucketOf scope request) s.now <;> rfl

/-- Time passes, and the cache still follows. -/
theorem Throttle.Tracks.advance (h : s.Tracks conf) (d : Nat) :
    ((ThrottleEvent.advance d).next conf s).Tracks conf := by
  intro scope request
  have hlater : s.now ≤ s.now + d := Nat.le_add_right _ _
  show s.cache.live _ (s.now + d) = (s.windows.current conf _ (s.now + d)).map _
  rw [ExpiringStore.live_of_le hlater, Windows.current_of_le hlater, h]
  cases s.windows.current conf (bucketOf scope request) s.now with
  | none => rfl
  | some w => simp only [Option.map_some, Option.filter_some]; split_ifs <;> rfl

/-- Where the cache follows the windows, the window is fixed. -/
theorem Throttle.Tracks.fixedWindow (h : s.Tracks conf) (hon : conf.enabled = true) :
    s.FixedWindow conf := by
  refine (Throttle.fixedWindow_iff hon).mpr fun d scope request n => ?_
  rw [(h.advance d).count]
  rfl

/-- **One step.** A call on time keeps the entries and their windows together. -/
theorem Throttle.Tracks.next (h : s.Tracks conf) (hon : conf.enabled = true)
    {e : ThrottleEvent} (he : e.OnTime conf s) : (e.next conf s).Tracks conf := by
  cases e with
  | advance d => exact h.advance d
  | isLockedOut => exact h
  | clear scope request =>
    intro scope' request'
    simp only [ThrottleEvent.next]
    by_cases hb : bucketOf scope' request' = bucketOf scope request
    -- The bucket that was cleared has neither window nor entry.
    · rw [hb, Windows.current_close, throttleKey_inj.mpr hb, clearFailures_live hon]
      rfl
    · rw [Windows.current_close_of_ne hb,
        clearFailures_live_of_ne (mt throttleKey_inj.mp hb) hon]
      exact h scope' request'
  | registerFailure scope request culled =>
    intro scope' request'
    simp only [ThrottleEvent.next]
    by_cases hb : bucketOf scope' request' = bucketOf scope request
    -- A failure opens the window of its bucket or counts in it, as long as the two expire
    -- together.
    · rw [hb, Windows.current_register, throttleKey_inj.mpr hb, registerFailure_live hon,
        Cache.get, h]
      cases hw : s.windows.current conf (bucketOf scope request) s.now with
      | none => rfl
      | some w => simp [← he.expiry scope request culled w rfl hw]
    · rw [Windows.current_register_of_ne hb,
        registerFailure_live_of_ne (mt throttleKey_inj.mp hb) hon, h]
      -- Other entries are left, and one that is culled had expired.
      split_ifs with hculled
      · rw [he.cull scope request culled scope' request' rfl hculled hb]
        rfl
      · rfl

/-- Two counters of which one has begun and the other has not are told apart by more failures. -/
theorem counts_differ {max : Int} (hmax : 0 < max) {k : Nat} (hk : 0 < k)
    (h : ∀ n : Nat, max ≤ ((0 : Nat) : Int) + n ↔ max ≤ (k : Int) + n) : False := by
  have := h (max - k).toNat
  omega

/-- A counter, later. -/
theorem Throttle.count_advance {scope : ThrottleScope} {request : RequestMeta}
    {e : Entry Nat Time} (h : s.cache.live (throttleKey scope request) s.now = some e) (d : Nat) :
    ((ThrottleEvent.advance d).next conf s).count scope request
      = if s.now + d ≤ e.last then e.value else 0 := by
  show ((s.cache.live _ (s.now + d)).map Entry.value).getD 0 = _
  rw [ExpiringStore.live_of_le (Nat.le_add_right s.now d), h, Option.filter_some]
  by_cases hlast : s.now + d ≤ e.last <;> simp [hlast]

/-- The failures of a window, later. -/
theorem Windows.failures_later {ws : Windows} {b : Bucket} {now : Time} {w : FailureWindow}
    (h : ws.current conf b now = some w) (d : Nat) :
    ws.failures conf b (now + d)
      = if now + d ≤ w.first + conf.window then w.failures else 0 := by
  unfold Windows.failures
  rw [Windows.current_of_le (Nat.le_add_right now d), h, Option.filter_some]
  by_cases hlast : now + d ≤ w.first + conf.window <;> simp [hlast]

/-- An entry with the failures of its window has the end of the window. -/
theorem Throttle.FixedWindow.last_eq (h : s.FixedWindow conf) {scope : ThrottleScope}
    {request : RequestMeta} {e : Entry Nat Time} {w : FailureWindow}
    (hentry : s.cache.live (throttleKey scope request) s.now = some e)
    (hwindow : s.windows.current conf (bucketOf scope request) s.now = some w)
    (hvalue : e.value = w.failures) : e.last = w.first + conf.window := by
  have hon := h.enabled
  have hmax : 0 < conf.maxAttempts := by simpa [LoginRatelimit.enabled] using hon
  have hiff := (Throttle.fixedWindow_iff hon).mp h
  have hlast : s.now ≤ e.last := (ExpiringStore.live_eq_some.mp hentry).2
  have hopen : s.now ≤ w.first + conf.window := Windows.current_open hwindow
  -- Just after the earlier end, one of the two is there.
  rcases Nat.lt_trichotomy e.last (w.first + conf.window) with hlt | heq | hgt
  · refine (counts_differ hmax w.opened fun n => ?_).elim
    have hafter : s.now + (e.last + 1 - s.now) = e.last + 1 :=
      Nat.add_sub_of_le (hlast.trans (Nat.le_succ _))
    have hn := hiff (e.last + 1 - s.now) scope request n
    rw [Throttle.count_advance hentry, Windows.failures_later hwindow, hafter,
      if_neg (Nat.not_succ_le_self _), if_pos (Nat.succ_le_of_lt hlt)] at hn
    exact hn
  · exact heq
  · refine (counts_differ hmax w.opened fun n => ?_).elim
    have hafter : s.now + (w.first + conf.window + 1 - s.now) = w.first + conf.window + 1 :=
      Nat.add_sub_of_le (hopen.trans (Nat.le_succ _))
    have hn := hiff (w.first + conf.window + 1 - s.now) scope request n
    rw [Throttle.count_advance hentry, Windows.failures_later hwindow, hafter,
      if_pos (Nat.succ_le_of_lt hgt), if_neg (Nat.not_succ_le_self _), hvalue] at hn
    exact hn.symm

/-- No entry, no window. -/
theorem Throttle.FixedWindow.current_eq_none (h : s.FixedWindow conf) {scope : ThrottleScope}
    {request : RequestMeta} (hentry : s.cache.live (throttleKey scope request) s.now = none) :
    s.windows.current conf (bucketOf scope request) s.now = none := by
  have hon := h.enabled
  have hmax : 0 < conf.maxAttempts := by simpa [LoginRatelimit.enabled] using hon
  by_contra hopen
  obtain ⟨w, hw⟩ := Option.ne_none_iff_exists'.mp hopen
  refine counts_differ hmax w.opened fun n => ?_
  have hn := (Throttle.fixedWindow_iff hon).mp h 0 scope request n
  have hcount : ((ThrottleEvent.advance 0).next conf s).count scope request = 0 := by
    simp [Throttle.count, ThrottleEvent.next, Cache.get, hentry]
  rw [hcount, Windows.failures_later hw, add_zero, if_pos (Windows.current_open hw)] at hn
  exact hn

/-- **No other call does.** -/
theorem Throttle.Tracks.onTime (h : s.Tracks conf) (hon : conf.enabled = true)
    {e : ThrottleEvent} (hnext : (e.next conf s).FixedWindow conf) : e.OnTime conf s := by
  constructor
  · rintro scope request culled w rfl hw
    have hentry := @registerFailure_live conf s.cache s.now scope request culled hon
    have hwindow := @Windows.current_register conf s.windows s.now (bucketOf scope request)
    simp only [Cache.get, h scope request, hw, Option.map_some, Option.getD_some,
      Option.isSome_some, if_true] at hentry hwindow
    have hlast := hnext.last_eq hentry hwindow rfl
    exact hlast
  · rintro scope request culled scope' request' rfl hculled hb
    have hentry : ((ThrottleEvent.registerFailure scope request culled).next conf s).cache.live
        (throttleKey scope' request') s.now = none := by
      simp only [ThrottleEvent.next]
      rw [registerFailure_live_of_ne (mt throttleKey_inj.mp hb) hon, if_pos hculled]
    rw [← Windows.current_register_of_ne hb]
    exact hnext.current_eq_none hentry

end Steps

/-! ### Every run -/

/-- A history with one more event. -/
theorem Throttle.run_concat (conf : LoginRatelimit) (s : Throttle) (es : List ThrottleEvent)
    (e : ThrottleEvent) : s.run conf (es ++ [e]) = e.next conf (s.run conf es) := by
  simp [Throttle.run]

/-- **The throttle is a fixed window**, in every state of a run, exactly when it is enabled and
    every call of the run is on time. -/
theorem throttle_fixed_window (conf : LoginRatelimit) (es : List ThrottleEvent) :
    (∀ es₁, es₁ <+: es → (Throttle.start.run conf es₁).FixedWindow conf) ↔
      conf.enabled = true ∧
        ∀ es₁ e, es₁ ++ [e] <+: es → e.OnTime conf (Throttle.start.run conf es₁) := by
  -- While every call is on time the cache follows the windows, by induction on the run.
  have htracks (hon : conf.enabled = true) : ∀ es₁, es₁ <+: es →
      (∀ es₂ e, es₂ ++ [e] <+: es₁ → e.OnTime conf (Throttle.start.run conf es₂)) →
      (Throttle.start.run conf es₁).Tracks conf := by
    intro es₁
    induction es₁ using List.reverseRecOn with
    | nil => exact fun _ _ => Throttle.start_tracks
    | append_singleton es₁ e ih =>
      intro hpre htimes
      have hbefore : es₁ <+: es₁ ++ [e] := List.prefix_append es₁ [e]
      rw [Throttle.run_concat]
      exact (ih (hbefore.trans hpre) fun es₂ e' h => htimes es₂ e' (h.trans hbefore)).next hon
        (htimes es₁ e (List.prefix_refl _))
  constructor
  · intro hfixed
    have hon : conf.enabled = true := (hfixed [] List.nil_prefix).enabled
    refine ⟨hon, fun es₁ => ?_⟩
    -- The first late call would have to follow a run of calls on time.
    induction hlength : es₁.length using Nat.strong_induction_on generalizing es₁ with
    | _ length ih =>
      intro e hpre
      have hbefore : es₁ <+: es := (List.prefix_append es₁ [e]).trans hpre
      refine (htracks hon es₁ hbefore fun es₂ e' h => ?_).onTime hon ?_
      · refine ih es₂.length ?_ es₂ rfl e' (h.trans hbefore)
        have := h.length_le
        simp at this
        omega
      · rw [← Throttle.run_concat]
        exact hfixed _ hpre
  · rintro ⟨hon, htimes⟩ es₁ hpre
    exact (htracks hon es₁ hpre fun es₂ e h => htimes es₂ e (h.trans hpre)).fixedWindow hon

/-- Two failures are allowed in 900 seconds. -/
def sampleRatelimit : LoginRatelimit := ⟨2, 900, by decide⟩

def staffLogin : ThrottleScope := ⟨"staff-login", by decide⟩

def fromOffice : RequestMeta := ⟨none, some "198.51.100.7"⟩

/-- A failure, another one some seconds after it, and more seconds. -/
def twoFailures (between after : Nat) : Throttle :=
  Throttle.start.run sampleRatelimit [.registerFailure staffLogin fromOffice [],
    .advance (seconds between), .registerFailure staffLogin fromOffice [],
    .advance (seconds after)]

/-- After an early second failure the lock ends before the window, and a late one keeps the
    counter after it. -/
theorem throttle_not_fixed_window :
    ((twoFailures 1 400).lockedOut sampleRatelimit staffLogin fromOffice = false ∧
      sampleRatelimit.maxAttempts ≤ (twoFailures 1 400).windows.failures sampleRatelimit
        (bucketOf staffLogin fromOffice) (twoFailures 1 400).now) ∧
    (twoFailures 899 200).lockedOut sampleRatelimit staffLogin fromOffice = true ∧
      (twoFailures 899 200).windows.failures sampleRatelimit (bucketOf staffLogin fromOffice)
        (twoFailures 899 200).now = 0 := by
  decide +kernel

end BoxOffice

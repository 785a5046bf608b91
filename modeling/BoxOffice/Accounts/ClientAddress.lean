import BoxOffice.Accounts.Throttle
import Mathlib.Data.Bool.AllAny

namespace BoxOffice

open Transition

/-!
# Accounts — behind the reverse proxy

The throttle as the deployed site runs it: nginx appends the connecting address to the
`X-Forwarded-For` that the client sent, and `_client_ip` takes the first hop.

* `VisitEvent` — what clients do, with the headers they send;
* `ClientFree` — the headers decide nothing;
* `client_bucket_iff` — they decide nothing exactly when every header that is sent begins with the
  address that it is sent from.
-/

/-! ### The proxy -/

/-- The text of a connecting address. -/
structure Address where
  text : String
  nonempty : text ≠ ""
  noComma : ',' ∉ text.toList
  noSpace : ∀ c ∈ text.toList, Python.isSpace c = false
deriving Repr, DecidableEq

/-- `$proxy_add_x_forwarded_for`. -/
def proxyAddXForwardedFor (address : Address) : Option String → String
  | none => address.text
  | some sent => sent ++ ", " ++ address.text

/-- The request that nginx passes on. -/
def proxied (address : Address) (sent : Option String) : RequestMeta :=
  ⟨some (proxyAddXForwardedFor address sent), some "127.0.0.1"⟩

/-- The key of an address. -/
def addressKey (scope : ThrottleScope) (address : Address) : String :=
  throttleKey scope (proxied address none)

/-- The address of the office. -/
def officeAddress : Address :=
  ⟨"198.51.100.7", by decide, by decide, List.all_iff_forall_prop.mp (by decide)⟩

/-! ### Histories -/

/-- Time passes, or a client with an address makes a request with a header, or without. -/
inductive VisitEvent
  | advance (d : Nat)
  | registerFailure (scope : ThrottleScope) (address : Address) (sent : Option String)
      (culled : List String)
  | isLockedOut (scope : ThrottleScope) (address : Address) (sent : Option String)
  | clear (scope : ThrottleScope) (address : Address) (sent : Option String)
deriving DecidableEq

namespace VisitEvent

/-- The call that reaches the throttle. -/
def passedOn : VisitEvent → ThrottleEvent
  | .advance d => .advance d
  | .registerFailure scope address sent culled =>
    .registerFailure scope (proxied address sent) culled
  | .isLockedOut scope address sent => .isLockedOut scope (proxied address sent)
  | .clear scope address sent => .clear scope (proxied address sent)

/-- Who makes it, and the header. -/
def client : VisitEvent → Option (Address × Option String)
  | .advance _ => none
  | .registerFailure _ address sent _ => some (address, sent)
  | .isLockedOut _ address sent => some (address, sent)
  | .clear _ address sent => some (address, sent)

/-- The same without the header. -/
def bare : VisitEvent → VisitEvent
  | .advance d => .advance d
  | .registerFailure scope address _ culled => .registerFailure scope address none culled
  | .isLockedOut scope address _ => .isLockedOut scope address none
  | .clear scope address _ => .clear scope address none

/-- A failure of that address. -/
def failureOf (scope : ThrottleScope) (address : Address) : VisitEvent → Bool
  | .registerFailure scope' address' _ _ => scope' = scope ∧ address' = address
  | _ => false

/-- The counter of that address is cleared, or culled. -/
def resets (scope : ThrottleScope) (address : Address) : VisitEvent → Bool
  | .registerFailure _ _ _ culled => addressKey scope address ∈ culled
  | .clear scope' address' _ => scope' = scope ∧ address' = address
  | _ => false

/-- How long it takes. -/
def duration : VisitEvent → Nat
  | .advance d => d
  | _ => 0

end VisitEvent

/-- A history, from a state. -/
def Throttle.visits (conf : LoginRatelimit) (s : Throttle) (es : List VisitEvent) : Throttle :=
  s.run conf (es.map VisitEvent.passedOn)

/-- The answers of `is_locked_out` in a history. -/
def Throttle.answers (conf : LoginRatelimit) (s : Throttle) : List VisitEvent → List Bool
  | [] => []
  | .isLockedOut scope address sent :: es =>
    s.lockedOut conf scope (proxied address sent) :: s.answers conf es
  | e :: es => (e.passedOn.next conf s).answers conf es

/-! ### What headers may decide -/

/-- The headers that each address sends. -/
abbrev Headers := Address → String → Prop

/-- A request without a header, or with one of these. -/
def Headers.Sends (headers : Headers) (address : Address) (sent : Option String) : Prop :=
  ∀ text, sent = some text → headers address text

/-- A history of such requests. -/
def Headers.History (headers : Headers) (es : List VisitEvent) : Prop :=
  ∀ e ∈ es, ∀ address sent, e.client = some (address, sent) → headers.Sends address sent

/-- The client-supplied headers decide nothing. -/
structure ClientFree (conf : LoginRatelimit) (headers : Headers) : Prop where
  /-- Histories that differ in their headers only have the same answers. -/
  same : ∀ s es es', headers.History es → headers.History es' →
    es.map VisitEvent.bare = es'.map VisitEvent.bare →
      Throttle.answers conf s es = Throttle.answers conf s es'
  /-- After the maximum of failures the next attempt is locked out. -/
  locked : ∀ (s : Throttle) es scope address sent, headers.History es →
    headers.Sends address sent → (∀ e ∈ es, e.resets scope address = false) →
    (es.map VisitEvent.duration).sum ≤ seconds defaultTimeout →
    conf.maxAttempts ≤ es.countP (VisitEvent.failureOf scope address) →
      (s.visits conf es).lockedOut conf scope (proxied address sent) = true
  /-- What other addresses do locks nobody out. -/
  apart : ∀ (s : Throttle) es scope address sent, headers.History es →
    headers.Sends address sent → (∀ e ∈ es, ∀ sent', e.client ≠ some (address, sent')) →
    (s.visits conf es).lockedOut conf scope (proxied address sent) = true →
      s.lockedOut conf scope (proxied address sent) = true

/-! ### The first hop -/

section Hops

variable {address : Address}

/-- An address is its own first hop. -/
theorem firstHop_address (address : Address) : firstHop address.text = address.text := by
  unfold firstHop
  rw [takeWhile_ne_self address.noComma, String.ofList_toList,
    Python.strip_eq_self address.noSpace]

/-- Without a header the client is the address. -/
theorem clientIp_bare (address : Address) : clientIp (proxied address none) = address.text := by
  simp [clientIp, proxied, proxyAddXForwardedFor, address.nonempty, firstHop_address]

/-- What is appended to a header does not change its first hop. -/
theorem firstHop_append (text rest : String) : firstHop (text ++ ", " ++ rest) = firstHop text := by
  have hlist : (text ++ ", " ++ rest).toList = text.toList ++ ',' :: ' ' :: rest.toList := by
    simp [String.toList_append]
  unfold firstHop
  rw [hlist, takeWhile_ne_append]

/-- **A header that is sent decides.** -/
theorem clientIp_sent (address : Address) (text : String) :
    clientIp (proxied address (some text)) = firstHop text := by
  have hnonempty : text ++ ", " ++ address.text ≠ "" := by
    intro h
    have := congrArg String.length h
    simp at this
  simp only [clientIp, proxied, proxyAddXForwardedFor, Option.getD_some, ne_eq, hnonempty,
    not_false_eq_true, if_true, firstHop_append]

end Hops

/-! ### Honest headers -/

/-- Every header begins with the address that it is sent from. -/
def Headers.Honest (headers : Headers) : Prop :=
  ∀ address text, headers address text → firstHop text = address.text

section Honest

variable {conf : LoginRatelimit} {headers : Headers} {s : Throttle} {scope scope' : ThrottleScope}
  {address address' : Address} {sent : Option String} {e e' : VisitEvent} {es : List VisitEvent}

/-- Keys of addresses tell scope and address. -/
theorem addressKey_inj :
    addressKey scope address = addressKey scope' address' ↔ scope = scope' ∧ address = address' := by
  unfold addressKey
  rw [throttleKey_inj, bucketOf, bucketOf, clientIp_bare, clientIp_bare, Prod.mk.injEq]
  refine and_congr_right fun _ => ⟨fun h => ?_, fun h => h ▸ rfl⟩
  obtain ⟨text, _, _, _⟩ := address
  obtain ⟨text', _, _, _⟩ := address'
  obtain rfl : text = text' := h
  rfl

/-- The client of an honest request is its address. -/
theorem Headers.Honest.clientIp (h : headers.Honest) (hsent : headers.Sends address sent) :
    clientIp (proxied address sent) = address.text := by
  cases sent with
  | none => exact clientIp_bare address
  | some text => rw [clientIp_sent, h address text (hsent text rfl)]

/-- A request with an honest header is counted for its address. -/
theorem Headers.Honest.key (h : headers.Honest) (hsent : headers.Sends address sent) :
    throttleKey scope (proxied address sent) = addressKey scope address :=
  throttleKey_congr ((h.clientIp hsent).trans (clientIp_bare address).symm)

/-- And in the same bucket as without the header. -/
theorem Headers.Honest.bucket (h : headers.Honest) (hsent : headers.Sends address sent) :
    bucketOf scope (proxied address sent) = bucketOf scope (proxied address none) := by
  rw [bucketOf, bucketOf, h.clientIp hsent, clientIp_bare]

/-- What an honest request does does not depend on its header. -/
theorem Headers.Honest.next_bare (h : headers.Honest)
    (he : ∀ address sent, e.client = some (address, sent) → headers.Sends address sent) :
    e.passedOn.next conf s = e.bare.passedOn.next conf s := by
  cases e with
  | advance d => rfl
  | isLockedOut scope address sent => rfl
  | registerFailure scope address sent culled =>
    have hsent := he address sent rfl
    simp only [VisitEvent.passedOn, VisitEvent.bare, ThrottleEvent.next, registerFailure,
      h.key hsent, h.bucket hsent]
    rfl
  | clear scope address sent =>
    have hsent := he address sent rfl
    simp only [VisitEvent.passedOn, VisitEvent.bare, ThrottleEvent.next, clearFailures,
      h.key hsent, h.bucket hsent]
    rfl

/-- Honest headers leave all answers as they were. -/
theorem Headers.Honest.answers_bare (h : headers.Honest) (hes : headers.History es) :
    s.answers conf es = s.answers conf (es.map VisitEvent.bare) := by
  induction es generalizing s with
  | nil => rfl
  | cons e es ih =>
    have he := hes e (by simp)
    have hrest : headers.History es := fun e' he' => hes e' (by simp [he'])
    cases e with
    | isLockedOut scope address sent =>
      have hkey := @Headers.Honest.key headers scope address sent h (he address sent rfl)
      simp only [List.map_cons, VisitEvent.bare, Throttle.answers, Throttle.lockedOut, isLockedOut]
      rw [hkey, ih hrest]
      rfl
    | advance d => exact ih hrest
    | registerFailure scope address sent culled =>
      show Throttle.answers conf _ es = Throttle.answers conf _ (es.map VisitEvent.bare)
      rw [h.next_bare he, ih hrest]
    | clear scope address sent =>
      show Throttle.answers conf _ es = Throttle.answers conf _ (es.map VisitEvent.bare)
      rw [h.next_bare he, ih hrest]

/-- With honest headers an address is locked out by its own failures only. -/
theorem Headers.Honest.lockedOut_iff (h : headers.Honest) (hon : conf.enabled = true)
    (hsent : headers.Sends address sent) :
    s.lockedOut conf scope (proxied address sent) = true ↔
      conf.maxAttempts ≤ ((s.cache.get (addressKey scope address) s.now).getD 0 : Nat) := by
  rw [Throttle.lockedOut_iff hon, Throttle.count, h.key hsent]

/-! ### Other addresses -/

/-- An entry of an address was there before the requests of others. -/
theorem Headers.Honest.live_of_others (h : headers.Honest) (hon : conf.enabled = true)
    (he : ∀ address sent, e.client = some (address, sent) → headers.Sends address sent)
    (hother : ∀ sent', e.client ≠ some (address, sent')) {x : Entry Nat Time}
    (hlive : (e.passedOn.next conf s).cache.live (addressKey scope address)
      (e.passedOn.next conf s).now = some x) :
    s.cache.live (addressKey scope address) s.now = some x := by
  cases e with
  | advance d =>
    have hlater : s.cache.live (addressKey scope address) (s.now + d) = some x := hlive
    rw [ExpiringStore.live_of_le (Nat.le_add_right s.now d)] at hlater
    exact (Option.filter_eq_some_iff.mp hlater).1
  | isLockedOut => exact hlive
  | registerFailure scope' address' sent culled =>
    have hkey : addressKey scope address ≠ throttleKey scope' (proxied address' sent) := by
      rw [h.key (he address' sent rfl), Ne, addressKey_inj]
      rintro ⟨-, rfl⟩
      exact hother sent rfl
    simp only [VisitEvent.passedOn, ThrottleEvent.next,
      registerFailure_live_of_ne hkey hon] at hlive
    split_ifs at hlive
    exact hlive
  | clear scope' address' sent =>
    have hkey : addressKey scope address ≠ throttleKey scope' (proxied address' sent) := by
      rw [h.key (he address' sent rfl), Ne, addressKey_inj]
      rintro ⟨-, rfl⟩
      exact hother sent rfl
    simpa only [VisitEvent.passedOn, ThrottleEvent.next,
      clearFailures_live_of_ne hkey hon] using hlive

/-- An entry lives on through the visits of other addresses. -/
theorem Headers.Honest.live_of_visits (h : headers.Honest) (hon : conf.enabled = true)
    (hes : headers.History es) (hother : ∀ e ∈ es, ∀ sent', e.client ≠ some (address, sent'))
    {x : Entry Nat Time}
    (hlive : (s.visits conf es).cache.live (addressKey scope address) (s.visits conf es).now
      = some x) :
    s.cache.live (addressKey scope address) s.now = some x := by
  induction es generalizing s with
  | nil => exact hlive
  | cons e es ih =>
    exact h.live_of_others hon (hes e (by simp)) (hother e (by simp))
      (ih (fun e' he' => hes e' (by simp [he'])) (fun e' he' => hother e' (by simp [he'])) hlive)

/-! ### The failures of an address -/

/-- So many failures are counted, at least until the deadline. -/
def Throttle.Counts (s : Throttle) (key : String) (deadline : Time) (k : Nat) : Prop :=
  k = 0 ∨ ∃ x, s.cache.live key s.now = some x ∧ k ≤ x.value ∧ deadline ≤ x.last

/-- What is counted is in the cache. -/
theorem Throttle.Counts.le_count {key : String} {deadline : Time} {k : Nat}
    (h : s.Counts key deadline k) : k ≤ (s.cache.get key s.now).getD 0 := by
  rcases h with rfl | ⟨x, hx, hk, -⟩
  · exact Nat.zero_le _
  · simpa [Cache.get, hx] using hk

/-- **One request** that does not reset the counter of an address. -/
theorem Headers.Honest.counts_next (h : headers.Honest) (hon : conf.enabled = true)
    (he : ∀ address sent, e.client = some (address, sent) → headers.Sends address sent)
    (hreset : e.resets scope address = false) {deadline : Time} {k : Nat}
    (hs : s.Counts (addressKey scope address) deadline k)
    (hend : s.now + e.duration ≤ deadline) (hnear : deadline ≤ s.now + seconds defaultTimeout) :
    (e.passedOn.next conf s).Counts (addressKey scope address) deadline
      (k + if e.failureOf scope address then 1 else 0) := by
  cases e with
  | advance d =>
    refine hs.imp id ?_
    rintro ⟨x, hx, hk, hlast⟩
    refine ⟨x, ?_, hk, hlast⟩
    show s.cache.live _ (s.now + d) = _
    rw [ExpiringStore.live_of_le (Nat.le_add_right s.now d), hx]
    simpa [VisitEvent.duration] using le_trans hend hlast
  | isLockedOut => exact hs
  | registerFailure scope' address' sent culled =>
    have hkey := @Headers.Honest.key headers scope' address' sent h (he address' sent rfl)
    by_cases hmine : scope' = scope ∧ address' = address
    -- A failure from that address counts, and leaves an entry for the default timeout at least.
    · obtain ⟨rfl, rfl⟩ := hmine
      have hlive := @registerFailure_live conf s.cache s.now scope' (proxied address' sent)
        culled hon
      rw [hkey] at hlive
      refine .inr ⟨_, hlive, ?_, ?_⟩
      · simpa [VisitEvent.failureOf] using hs.le_count
      · refine le_trans hnear (Nat.add_le_add_left ?_ _)
        split_ifs
        · exact le_refl _
        · exact seconds_lt_window.le
    -- A failure from elsewhere has another key.
    · have hne : addressKey scope address ≠ throttleKey scope' (proxied address' sent) := by
        rw [hkey, Ne, addressKey_inj]
        rintro ⟨rfl, rfl⟩
        exact hmine ⟨rfl, rfl⟩
      have hculled : addressKey scope address ∉ culled := by
        simpa [VisitEvent.resets] using hreset
      simpa [VisitEvent.failureOf, hmine, Throttle.Counts, VisitEvent.passedOn, ThrottleEvent.next,
        registerFailure_live_of_ne hne hon, hculled] using hs
  | clear scope' address' sent =>
    have hmine : ¬ (scope' = scope ∧ address' = address) := by
      simpa [VisitEvent.resets] using hreset
    have hne : addressKey scope address ≠ throttleKey scope' (proxied address' sent) := by
      rw [h.key (he address' sent rfl), Ne, addressKey_inj]
      rintro ⟨rfl, rfl⟩
      exact hmine ⟨rfl, rfl⟩
    simpa [VisitEvent.failureOf, Throttle.Counts, VisitEvent.passedOn, ThrottleEvent.next,
      clearFailures_live_of_ne hne hon] using hs

/-- A visit takes the time it takes. -/
theorem VisitEvent.next_now (conf : LoginRatelimit) (s : Throttle) (e : VisitEvent) :
    (e.passedOn.next conf s).now = s.now + e.duration := by
  cases e <;> rfl

/-- Failures stay counted through visits that do not reset them. -/
theorem Headers.Honest.counts_visits (h : headers.Honest) (hon : conf.enabled = true)
    (hes : headers.History es) (hreset : ∀ e ∈ es, e.resets scope address = false)
    {deadline : Time} {k : Nat} (hs : s.Counts (addressKey scope address) deadline k)
    (hend : s.now + (es.map VisitEvent.duration).sum ≤ deadline)
    (hnear : deadline ≤ s.now + seconds defaultTimeout) :
    (s.visits conf es).Counts (addressKey scope address) deadline
      (k + es.countP (VisitEvent.failureOf scope address)) := by
  induction es generalizing s k with
  | nil => exact hs
  | cons e es ih =>
    rw [List.map_cons, List.sum_cons, ← add_assoc] at hend
    have hnext := h.counts_next hon (hes e (by simp)) (hreset e (by simp)) hs
      ((Nat.le_add_right _ _).trans hend) hnear
    have hnow := VisitEvent.next_now conf s e
    have hrest := ih (fun e' he' => hes e' (by simp [he']))
      (fun e' he' => hreset e' (by simp [he'])) hnext (hnow ▸ hend)
      (hnear.trans (Nat.add_le_add_right (hnow ▸ Nat.le_add_right _ _) _))
    rw [List.countP_cons, Nat.add_comm (es.countP _), ← add_assoc]
    exact hrest

/-! ### Every history -/

/-- Honest headers decide nothing. -/
theorem Headers.Honest.clientFree (h : headers.Honest) (hon : conf.enabled = true) :
    ClientFree conf headers where
  same s es es' hes hes' hbare := by
    rw [h.answers_bare hes, hbare, ← h.answers_bare hes']
  locked s es scope address sent hes hsent hreset hlength hmax := by
    have hstart : s.Counts (addressKey scope address) (s.now + seconds defaultTimeout) 0 := .inl rfl
    have hcounts := h.counts_visits hon hes hreset hstart (Nat.add_le_add_left hlength _) (le_refl _)
    have hle := hcounts.le_count
    refine (h.lockedOut_iff hon hsent).mpr (hmax.trans ?_)
    rw [Nat.zero_add] at hle
    exact_mod_cast hle
  apart s es scope address sent hes hsent hother hlocked := by
    rw [h.lockedOut_iff hon hsent] at hlocked ⊢
    have hmax : 0 < conf.maxAttempts := by simpa [LoginRatelimit.enabled] using hon
    cases hlive : (s.visits conf es).cache.live (addressKey scope address)
        (s.visits conf es).now with
    | none => simp [Cache.get, hlive] at hlocked; omega
    | some x =>
      have hbefore := h.live_of_visits hon hes hother hlive
      simpa [Cache.get, hlive, hbefore] using hlocked

/-- Failures without a header count for the address only. -/
theorem Throttle.live_failures (hon : conf.enabled = true) {key : String}
    (hne : key ≠ addressKey scope address) (n : Nat) :
    let later := s.visits conf (List.replicate n (.registerFailure scope address none []))
    later.now = s.now ∧ later.cache.live key s.now = s.cache.live key s.now := by
  induction n generalizing s with
  | zero => exact ⟨rfl, rfl⟩
  | succ n ih =>
    have hrest := @ih ((ThrottleEvent.registerFailure scope (proxied address none) []).next conf s)
    refine ⟨hrest.1, hrest.2.trans ?_⟩
    show (registerFailure conf s.cache s.now scope (proxied address none) []).1.live key s.now = _
    rw [registerFailure_live_of_ne hne hon, if_neg (by simp)]

/-- A throttle that is off locks nobody out. -/
theorem ClientFree.enabled (h : ClientFree conf headers) : conf.enabled = true := by
  by_contra hoff
  have hmax : conf.maxAttempts ≤ 0 := by simpa [LoginRatelimit.enabled] using hoff
  have hlocked := h.locked .start [] staffLogin officeAddress none (by simp [Headers.History])
    (by simp [Headers.Sends]) (by simp) (Nat.zero_le _) (by simpa using hmax)
  simp [Throttle.lockedOut, isLockedOut, hoff] at hlocked

/-- **Other headers decide something**: behind one, an address gets away with its failures. -/
theorem ClientFree.honest (h : ClientFree conf headers) : headers.Honest := by
  intro address text htext
  by_contra hother
  have hon := h.enabled
  have hmax : 0 < conf.maxAttempts := by simpa [LoginRatelimit.enabled] using hon
  have hne : throttleKey staffLogin (proxied address (some text))
      ≠ addressKey staffLogin address := by
    rw [addressKey, Ne, throttleKey_inj, bucketOf, bucketOf, clientIp_sent, clientIp_bare]
    exact fun heq => hother (Prod.mk.inj heq).2
  -- The address fails as often as allowed, and then sends the header.
  let es := List.replicate conf.maxAttempts.toNat
    (VisitEvent.registerFailure staffLogin address none [])
  have hes (e) (he : e ∈ es) : e = .registerFailure staffLogin address none [] :=
    List.eq_of_mem_replicate he
  have hlocked := h.locked .start es staffLogin address (some text) ?_ ?_ ?_ ?_ ?_
  -- With the header it has another key, under which nothing was counted.
  · obtain ⟨hnow, hlive⟩ := Throttle.live_failures (s := .start) hon hne conf.maxAttempts.toNat
    rw [Throttle.lockedOut_iff hon, Throttle.count, Cache.get, hnow, hlive] at hlocked
    exact absurd hlocked (by simpa [ExpiringStore.live, Throttle.start] using hmax)
  · intro e he address' sent hclient text' htext'
    rw [hes e he] at hclient
    obtain ⟨-, rfl⟩ := Prod.mk.inj (Option.some.inj hclient)
    cases htext'
  · exact fun text' htext' => Option.some.inj htext' ▸ htext
  · intro e he
    rw [hes e he]
    simp [VisitEvent.resets]
  · simp [es, VisitEvent.duration]
  · simp [es, List.countP_replicate, VisitEvent.failureOf]

end Honest

/-- **The client's headers decide nothing**, over all histories, exactly when the throttle is
    enabled and every header begins with the address that it is sent from. -/
theorem client_bucket_iff (conf : LoginRatelimit) (headers : Headers) :
    ClientFree conf headers ↔ conf.enabled = true ∧
      ∀ address text, headers address text → firstHop text = address.text :=
  ⟨fun h => ⟨h.enabled, h.honest⟩, fun h => Headers.Honest.clientFree h.2 h.1⟩

/-- The address of an attacker. -/
def attacker : Address :=
  ⟨"203.0.113.9", by decide, by decide, List.all_iff_forall_prop.mp (by decide)⟩

/-- Two failures of the attacker, with a header. -/
def twoForged (sent : Option String) : List VisitEvent :=
  List.replicate 2 (.registerFailure staffLogin attacker sent [])

/-- With an invented header the attacker is not locked out, and with the address of the office
    the office is. -/
theorem client_bucket_forged :
    Throttle.start.answers sampleRatelimit
        (twoForged none ++ [.isLockedOut staffLogin attacker none]) = [true] ∧
      Throttle.start.answers sampleRatelimit
        (twoForged none ++ [.isLockedOut staffLogin attacker (some "10.0.0.1")]) = [false] ∧
      Throttle.start.answers sampleRatelimit
        (twoForged (some "198.51.100.7") ++ [.isLockedOut staffLogin officeAddress none])
          = [true] := by
  decide +kernel

end BoxOffice

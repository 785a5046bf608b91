import BoxOffice.Orders.HoldCalls

namespace BoxOffice

open Relational

/-!
# Orders — carts do not touch each other

A hold function is called for an organization and a session.  Whatever its other arguments are,
it rewrites the hold it addresses and no other row of the hold table, and when it raises it has
written nothing at all (`cart_isolated`).

`HoldOp` is the family of the eight functions; `HoldOp.addresses` says which of the session's
holds one of them is about: the hold of a performance, or the hold of a key.
-/

/-- A call of one of the hold functions, apart from whom it is made for. -/
inductive HoldOp
  | setGaHold (performance : Performance) (priceTier : PriceTier) (quantity : Option Int)
  | setReservedHold (performance : Performance) (seatIds : List Nat)
  | releaseHold (performance : Nat)
  | releaseHoldById (holdId : PostedId)
  | applyPromoCode (holdId : PostedId) (code : String)
  | removePromoCode (holdId : PostedId)
  | setHoldDonation (holdId : PostedId) (amount : Option Cents) (campaign : Nat)
  | clearHoldDonation (holdId : PostedId)

namespace HoldOp

/-- The function the call is of; what it returns is dropped. -/
def call (now : Time) (organization : Nat) (sessionKey : String) : HoldOp →
    Service Db ServiceError Unit
  | .setGaHold performance priceTier quantity => do
    let _ ← setGaHoldCall now organization performance sessionKey priceTier quantity
    pure ()
  | .setReservedHold performance seatIds => do
    let _ ← setReservedHoldCall now organization performance sessionKey seatIds
    pure ()
  | .releaseHold performance => releaseHoldCall organization performance sessionKey
  | .releaseHoldById holdId => releaseHoldByIdCall organization sessionKey holdId
  | .applyPromoCode holdId code => applyPromoCodeCall now organization sessionKey holdId code
  | .removePromoCode holdId => removePromoCodeCall organization sessionKey holdId
  | .setHoldDonation holdId amount campaign =>
    setHoldDonationCall now organization sessionKey holdId amount campaign
  | .clearHoldDonation holdId => clearHoldDonationCall organization sessionKey holdId

/-- Is the call about this hold, as far as the performance or the key tells? -/
def addresses (h : Hold) : HoldOp → Bool
  | .setGaHold performance _ _ => h.performance == performance.id
  | .setReservedHold performance _ => h.performance == performance.id
  | .releaseHold performance => h.performance == performance
  | .releaseHoldById holdId => some h.id == holdId.toOption
  | .applyPromoCode holdId _ => some h.id == holdId.toOption
  | .removePromoCode holdId => some h.id == holdId.toOption
  | .setHoldDonation holdId _ _ => some h.id == holdId.toOption
  | .clearHoldDonation holdId => some h.id == holdId.toOption

end HoldOp

/-- Does the hold belong to the session? -/
def Hold.ownedBy (organization : Nat) (sessionKey : String) (h : Hold) : Bool :=
  h.organization == organization && h.sessionKey == sessionKey

/-- The session's holds that satisfy `p` may differ; every other hold is the same. -/
def SparesOthers (organization : Nat) (sessionKey : String) (p : Hold → Bool)
    (db db' : Db) : Prop :=
  db'.holds.rows.filter (fun h => !(h.ownedBy organization sessionKey && p h))
    = db.holds.rows.filter fun h => !(h.ownedBy organization sessionKey && p h)

section Frame

variable {db db' : Db} {now : Time} {organization : Nat} {performance : Performance}
  {sessionKey : String} {p : Hold → Bool}

/-- Nothing was written. -/
theorem SparesOthers.refl (db : Db) : SparesOthers organization sessionKey p db db := rfl

/-- Membership of the other holds. -/
theorem SparesOthers.mem_iff (h : SparesOthers organization sessionKey p db db') {k : Hold}
    (hk : (k.ownedBy organization sessionKey && p k) = false) :
    k ∈ db'.holds.rows ↔ k ∈ db.holds.rows := by
  -- The two filtered lists are equal, and the filter keeps `k`.
  have hiff := Iff.of_eq (congrArg (fun rows => k ∈ rows) h)
  simp only [List.mem_filter, hk, Bool.not_false, and_true] at hiff
  exact hiff

/-! ### What the two kinds of write spare -/

/-- Releasing a hold spares the carts of others. -/
theorem releaseHold_spares {n : Nat} :
    SparesOthers organization sessionKey (fun h => h.performance == n) db
      (releaseHold db organization n sessionKey) := by
  refine Table.filter_delete fun h hp => ?_
  rw [Bool.and_eq_true, Bool.and_eq_true] at hp
  unfold Hold.ownedBy
  dsimp only
  rw [hp.1.1, hp.2, hp.1.2]
  rfl

/-- Replacing a hold spares them. -/
theorem replaceSessionHold_spares {n : Nat} {mk : Nat → Hold} {hk}
    (hnew : ∀ i, ((mk i).ownedBy organization sessionKey && (mk i).performance == n) = true) :
    SparesOthers organization sessionKey (fun h => h.performance == n) db
      (replaceSessionHold db organization n sessionKey mk hk).1 := by
  -- Clearing spares the others, and the new hold is not one of them.
  refine Eq.trans ?_ releaseHold_spares
  exact Table.filter_insert (k := hk) (by dsimp only; rw [hnew]; rfl)

/-- A hold that was looked up with a session and rewritten belongs to the session. -/
theorem editHold_spares {f : Hold → Hold} {hf} {holdId : Option Nat} {hold : Hold}
    (hmem : hold ∈ db.holds.rows) (howned : hold.ownedBy organization sessionKey = true)
    (hid : some hold.id = holdId) (hedit : CartEdit f) :
    SparesOthers organization sessionKey (fun h => some h.id == holdId) db
      (editHold db hold.id f hf) := by
  refine Table.filter_update_of_mem (k := hf) fun k hk hkey => ?_
  -- The row with the key of the hold that was found is that hold.
  obtain rfl : k = hold := Table.eq_of_key_eq hk hmem (beq_iff_eq.mp hkey)
  obtain ⟨⟨hsame, horg, -, hsession, -, -⟩, -⟩ := hedit k
  have hkey' : (some k.id == holdId) = true := beq_iff_eq.mpr hid
  have howned' : (f k).ownedBy organization sessionKey = true := by
    unfold Hold.ownedBy at howned ⊢
    rw [horg, hsession]
    exact howned
  dsimp only
  rw [howned, howned', hsame, hkey']
  exact ⟨rfl, rfl⟩

/-- The hold that is found is the session's own. -/
theorem findHold_some {holdId : Option Nat} {hold : Hold}
    (h : findHold db organization sessionKey holdId = some hold) :
    hold ∈ db.holds.rows ∧ hold.ownedBy organization sessionKey = true ∧ some hold.id = holdId := by
  have hp := List.find?_some h
  rw [Bool.and_eq_true, beq_iff_eq] at hp
  exact ⟨List.mem_of_find?_eq_some h, hp.1, hp.2⟩

/-- So is the active hold that is found. -/
theorem findActiveHold_owned {holdId : Option Nat} {hold : Hold}
    (h : findActiveHold db now organization sessionKey holdId = some hold) :
    hold ∈ db.holds.rows ∧ hold.ownedBy organization sessionKey = true ∧ some hold.id = holdId := by
  obtain ⟨hmem, horg, hsession, hid, -⟩ := findActiveHold_some h
  refine ⟨hmem, ?_, hid⟩
  unfold Hold.ownedBy
  rw [Bool.and_eq_true, beq_iff_eq, beq_iff_eq]
  exact ⟨horg, hsession⟩

/-! ### The eight functions -/

/-- Holding places spares the other carts. -/
theorem setGaHold_spares {priceTier : PriceTier} {quantity : Option Int} {result : Option Hold}
    (h : setGaHold db now organization performance sessionKey priceTier quantity
      = .ok (db', result)) :
    SparesOthers organization sessionKey (fun h => h.performance == performance.id) db db' := by
  rcases setGaHold_ok h with rfl | ⟨-, n, -, -, -, rfl⟩
  · exact releaseHold_spares
  · refine replaceSessionHold_spares fun i => ?_
    simp [Hold.ownedBy, newGaHold]

/-- So does holding seats. -/
theorem setReservedHold_spares {seatIds : List Nat} {result : Option Hold}
    (h : setReservedHold db now organization performance sessionKey seatIds = .ok (db', result)) :
    SparesOthers organization sessionKey (fun h => h.performance == performance.id) db db' := by
  rcases setReservedHold_ok h with rfl | ⟨seats, -, -, -, rfl⟩
  · exact releaseHold_spares
  · refine replaceSessionHold_spares fun i => ?_
    simp [Hold.ownedBy, newReservedHold]

/-- Releasing a hold by its key spares the other carts. -/
theorem releaseHoldById_spares {holdId : Nat} :
    SparesOthers organization sessionKey (fun h => some h.id == some holdId) db
      (releaseHoldById db organization sessionKey holdId) := by
  unfold releaseHoldById
  split
  · exact SparesOthers.refl db
  · refine Table.filter_delete fun h hp => ?_
    rw [Bool.and_eq_true, Bool.and_eq_true] at hp
    unfold Hold.ownedBy
    dsimp only
    rw [hp.1.1, hp.1.2, Option.some_beq_some, hp.2]
    rfl

/-- So does applying a code. -/
theorem applyPromoCode_spares {holdId : Option Nat} {code : String}
    (h : applyPromoCode db now organization sessionKey holdId code = .ok (db', ())) :
    SparesOthers organization sessionKey (fun h => some h.id == holdId) db db' := by
  obtain ⟨hold, promo, hfind, -, -, rfl⟩ := applyPromoCode_ok h
  obtain ⟨hmem, howned, hid⟩ := findActiveHold_owned hfind
  exact editHold_spares hmem howned hid (setPromo_cartEdit _ _ _)

/-- So does removing it. -/
theorem removePromoCode_spares {holdId : Option Nat} :
    SparesOthers organization sessionKey (fun h => some h.id == holdId) db
      (removePromoCode db organization sessionKey holdId) := by
  rcases @removePromoCode_eq db organization sessionKey holdId with h | ⟨hold, hfind, h⟩ <;> rw [h]
  · exact SparesOthers.refl db
  · obtain ⟨hmem, howned, hid⟩ := findHold_some hfind
    exact editHold_spares hmem howned hid (setPromo_cartEdit _ _ _)

/-- Setting a gift spares the other carts. -/
theorem setHoldDonation_spares {holdId : Option Nat} {amount : Option Cents} {campaign : Nat}
    (h : setHoldDonation db now organization sessionKey holdId amount campaign = .ok (db', ())) :
    SparesOthers organization sessionKey (fun h => some h.id == holdId) db db' := by
  obtain ⟨hold, gift, hfind, -, -, -, rfl⟩ := setHoldDonation_ok h
  obtain ⟨hmem, howned, hid⟩ := findActiveHold_owned hfind
  exact editHold_spares hmem howned hid (setDonation_cartEdit _ _)

/-- So does clearing it. -/
theorem clearHoldDonation_spares {holdId : Option Nat} :
    SparesOthers organization sessionKey (fun h => some h.id == holdId) db
      (clearHoldDonation db organization sessionKey holdId) := by
  rcases @clearHoldDonation_eq db organization sessionKey holdId
    with h | ⟨hold, hfind, h⟩ <;> rw [h]
  · exact SparesOthers.refl db
  · obtain ⟨hmem, howned, hid⟩ := findHold_some hfind
    exact editHold_spares hmem howned hid (setDonation_cartEdit _ _)

/-! ### A call -/

/-- A function that raises before it writes, and whose successful writes spare the other holds. -/
theorem ofExcept_isolated {f : Db → Except ServiceError (Db × Unit)}
    (h : ∀ db', f db = .ok (db', ()) → SparesOthers organization sessionKey p db db') :
    (∃ e, Service.ofExcept f db = (.error e, db)) ∨
      ∃ db', Service.ofExcept f db = (.ok (), db') ∧
        SparesOthers organization sessionKey p db db' := by
  rcases Service.ofExcept_cases f db with ⟨e, he⟩ | ⟨db', result, hok, hrun⟩
  · exact .inl ⟨e, he⟩
  · exact .inr ⟨db', hrun, h db' hok⟩

/-- The same of a function whose result is dropped. -/
theorem dropped_isolated {α : Type} {f : Db → Except ServiceError (Db × α)}
    (h : ∀ db' result, f db = .ok (db', result) →
      SparesOthers organization sessionKey p db db') :
    (∃ e, (do let _ ← Service.ofExcept f; pure () : Service Db ServiceError Unit) db
      = (.error e, db)) ∨
      ∃ db', (do let _ ← Service.ofExcept f; pure () : Service Db ServiceError Unit) db
        = (.ok (), db') ∧ SparesOthers organization sessionKey p db db' := by
  rcases Service.ofExcept_cases f db with ⟨e, he⟩ | ⟨db', result, hok, hrun⟩
  · exact .inl ⟨e, Service.bind_error he⟩
  · exact .inr ⟨db', Service.bind_ok hrun, h db' result hok⟩

/-- **What a call does.**  It raises with the database untouched, or it spares every hold but the
    one it addresses. -/
theorem HoldOp.call_cases (op : HoldOp) (now : Time) (organization : Nat) (sessionKey : String)
    (db : Db) :
    (∃ e, op.call now organization sessionKey db = (.error e, db)) ∨
      ∃ db', op.call now organization sessionKey db = (.ok (), db') ∧
        SparesOthers organization sessionKey (fun h => op.addresses h) db db' := by
  unfold HoldOp.call
  cases op with
  | setGaHold performance priceTier quantity =>
    dsimp only
    rw [setGaHoldCall_eq]
    exact dropped_isolated fun _ _ hok => setGaHold_spares hok
  | setReservedHold performance seatIds =>
    dsimp only
    rw [setReservedHoldCall_eq]
    exact dropped_isolated fun _ _ hok => setReservedHold_spares hok
  | releaseHold performance => exact .inr ⟨_, rfl, releaseHold_spares⟩
  | releaseHoldById holdId =>
    dsimp only
    rw [releaseHoldByIdCall_eq]
    cases holdId with
    | error repr => exact .inl ⟨_, rfl⟩
    | ok holdId => exact .inr ⟨_, rfl, releaseHoldById_spares⟩
  | applyPromoCode holdId code =>
    dsimp only
    rw [applyPromoCodeCall_eq]
    exact ofExcept_isolated fun _ hok => applyPromoCode_spares hok
  | removePromoCode holdId =>
    -- Taking a code or a gift off never raises.
    dsimp only
    rw [removePromoCodeCall_eq]
    exact .inr ⟨_, rfl, removePromoCode_spares⟩
  | setHoldDonation holdId amount campaign =>
    dsimp only
    rw [setHoldDonationCall_eq]
    exact ofExcept_isolated fun _ hok => setHoldDonation_spares hok
  | clearHoldDonation holdId =>
    dsimp only
    rw [clearHoldDonationCall_eq]
    exact .inr ⟨_, rfl, clearHoldDonation_spares⟩

end Frame

/-- **Carts are isolated, and errors write nothing.**  A call for a session leaves every hold of
    another organization or session, with its seats, as it was, and so every hold of the session
    that it does not address; and a call that raises leaves the whole database as it was. -/
theorem cart_isolated (op : HoldOp) (now : Time) (organization : Nat) (sessionKey : String)
    (db : Db) :
    let run := op.call now organization sessionKey db
    (∀ h : Hold, ¬(h.organization = organization ∧ h.sessionKey = sessionKey) →
        (h ∈ run.2.holds.rows ↔ h ∈ db.holds.rows)) ∧
      (∀ h : Hold, h.organization = organization → h.sessionKey = sessionKey →
        op.addresses h = false → (h ∈ run.2.holds.rows ↔ h ∈ db.holds.rows)) ∧
      ∀ e, run.1 = .error e → run.2 = db := by
  intro run
  have hcases : (∃ e, run = (.error e, db)) ∨ ∃ db', run = (.ok (), db') ∧
      SparesOthers organization sessionKey (fun h => op.addresses h) db db' :=
    op.call_cases now organization sessionKey db
  rcases hcases with ⟨e, hrun⟩ | ⟨db', hrun, hspares⟩ <;> rw [hrun]
  · exact ⟨fun _ _ => Iff.rfl, fun _ _ _ _ => Iff.rfl, fun _ _ => rfl⟩
  · refine ⟨fun h hother => hspares.mem_iff ?_, fun h _ _ haddr => hspares.mem_iff ?_,
      fun e he => by cases he⟩
    · have howned : h.ownedBy organization sessionKey = false := by
        rw [← Bool.not_eq_true]
        unfold Hold.ownedBy
        rwa [Bool.and_eq_true, beq_iff_eq, beq_iff_eq]
      rw [howned, Bool.false_and]
    · rw [haddr, Bool.and_false]

end BoxOffice

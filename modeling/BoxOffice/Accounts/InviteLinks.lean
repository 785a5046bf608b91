import BoxOffice.Accounts.StaffDoor
import BoxOffice.Relational.Growth
import BoxOffice.Transition.Ownership

namespace BoxOffice

open Relational Transition

/-!
# Accounts — set-password links

A teammate without an account gets one link by mail, and no other.

* `LinksSound` — one link for a user at most, sent to the user's own address; a password that can
  be signed in with is the operator's, or its user has been sent a link;
* `signed_in_by_link` — so it is in every interleaving, and no link of a user who is signed in is
  good any more;
* `lapsed_invite_locks_out` — the other side of it: a user whose link has lapsed, or never went
  out, cannot sign in again by anything that happens on the site, and is sent no other link.
-/

/-- The same account, whatever became of its other columns. -/
def User.Same (u u' : User) : Prop := u'.id = u.id ∧ u'.email = u.email

/-- The account that was read is stored. -/
def StoredUser (s : StaffState) (user : User) : Prop := ∃ u ∈ s.users.rows, user.Same u

/-- The links that went out, and what they have led to. -/
structure LinksSound (s : StaffState) : Prop where
  owners : ∀ m ∈ s.mailed, ∃ u ∈ s.users.rows, u.id = m.2.user ∧ u.email = m.1
  once : (s.mailed.map (·.2.user)).Nodup
  unusable : ∀ m ∈ s.mailed, m.2.password.secret = none
  sessions : ∀ key x, s.sessions key = some x → x.auth.secret.isSome = true
  usable : ∀ u ∈ s.users.rows, u.password.secret.isSome = true →
    u.id ∈ s.operated ∨ ∃ m ∈ s.mailed, m.2.user = u.id

/-- The user a request is about to send a link to. -/
def StaffTask.invitee : StaffTask → Option User
  | .invite i =>
    match i.stage with
    | .granting user true _ => some user
    | .mailing user => some user
    | _ => none
  | _ => none

/-- The user whose password a request is about to set. -/
def StaffTask.resets : StaffTask → Option User
  | .setPassword p =>
    match p.stage with
    | .allowed user => some user
    | _ => none
  | _ => none

/-- The user a request is about to sign in. -/
def StaffTask.entrant : StaffTask → Option User
  | .login l =>
    match l.stage with
    | .authenticated user => some user
    | .entering user => some user
    | _ => none
  | _ => none

/-- What a request relies on. -/
structure StaffTask.Sound (s : StaffState) (t : StaffTask) : Prop where
  invitee : ∀ u ∈ t.invitee,
    StoredUser s u ∧ u.password.secret = none ∧ ∀ m ∈ s.mailed, m.2.user ≠ u.id
  resets : ∀ u ∈ t.resets, StoredUser s u ∧ ∃ m ∈ s.mailed, m.2.user = u.id
  entrant : ∀ u ∈ t.entrant, u.password.secret.isSome = true

/-- A request owns the user it has made, until the link is out. -/
def StaffTask.owns (t : StaffTask) : Option Nat := t.invitee.map (·.id)

/-- Accounts stay, links that went out stay out. -/
structure Carried (s s' : StaffState) : Prop where
  users : s.users.Grows User.Same s'.users
  mailed : ∀ m ∈ s.mailed, m ∈ s'.mailed
  operated : ∀ i ∈ s.operated, i ∈ s'.operated

section Links

variable {s s' : StaffState} {t : StaffTask} {user : User}

/-! ### Accounts -/

/-- A user is the same as itself. -/
theorem User.Same.refl (u : User) : u.Same u := ⟨rfl, rfl⟩

/-- Everything is carried where accounts and mails stay. -/
theorem Carried.of_eq (hu : s'.users = s.users) (hm : s'.mailed = s.mailed)
    (ho : s'.operated = s.operated) : Carried s s' :=
  ⟨.of_eq User.Same.refl hu, fun _ h => hm ▸ h, fun _ h => ho ▸ h⟩

/-- A stored user is carried. -/
theorem Carried.stored (h : Carried s s') (hu : StoredUser s user) : StoredUser s' user := by
  obtain ⟨u, hmem, hsame⟩ := hu
  obtain ⟨u', hmem', hsame'⟩ := h.users.exists_mem hmem
  exact ⟨u', hmem', hsame'.1.trans hsame.1, hsame'.2.trans hsame.2⟩

/-- The stored row of an account is the only one of its key. -/
theorem StoredUser.same_of_id (h : StoredUser s user) {u : User} (hu : u ∈ s.users.rows)
    (hid : u.id = user.id) : user.Same u := by
  obtain ⟨x, hx, hsame⟩ := h
  obtain rfl := Table.eq_of_key_eq hu hx (hid.trans hsame.1.symm)
  exact hsame

/-- The users after one was created. -/
theorem mem_created {i : InviteTask} {u : User} {salt : Nat} {users : Table User} :
    u ∈ (users.insert (i.newUser salt)).rows ↔ u ∈ users.rows ∨ u = i.newUser salt users.nextId :=
  Table.mem_insert

/-- The users after one was saved. -/
theorem saveUser_rows (users : Table User) (user : User) :
    (saveUser users user).rows
      = users.rows.map fun u => if u.id == user.id then { user with id := u.id } else u := rfl

/-- The users after one signed in. -/
theorem touchLogin_rows (users : Table User) (user : Nat) (now : Time) :
    (touchLogin users user now).rows
      = users.rows.map fun u => if u.id == user then { u with lastLogin := some now } else u := rfl

/-- The users after one password was reset. -/
theorem resetUser_rows (users : Table User) (user : Nat) (password : Password) :
    (resetUser users user password).rows
      = users.rows.map fun u => if u.id == user then { u with password := password } else u := rfl

/-- A save loses no account. -/
theorem saveUser_grows (h : StoredUser s user) {x : User} (hx : user.Same x) :
    s.users.Grows User.Same (saveUser s.users x) := by
  refine (Table.rewritten_update User.Same.refl (saveUser_rows s.users x) fun u hu hid => ?_).grows
  have hsame := h.same_of_id hu ((beq_iff_eq.mp hid).trans hx.1)
  exact ⟨rfl, hx.2.trans hsame.2.symm⟩

/-- Nor does a sign-in. -/
theorem touchLogin_grows (user : Nat) (now : Time) :
    s.users.Grows User.Same (touchLogin s.users user now) :=
  (Table.rewritten_update User.Same.refl (touchLogin_rows s.users user now)
    fun _ _ _ => ⟨rfl, rfl⟩).grows

/-- **One statement** keeps the accounts and the links. -/
theorem StaffWrites.carried (hw : StaffWrites s t s') (ht : t.Sound s) : Carried s s' := by
  cases hw with
  | nothing => exact .of_eq rfl rfl rfl
  | team => exact .of_eq rfl rfl rfl
  | @created i role h =>
    have hrows : (s.users.insert (i.newUser s.salts)).rows
      = s.users.rows ++ [i.newUser s.salts s.users.nextId] := rfl
    exact ⟨Table.grows_append User.Same.refl hrows, fun _ hm => hm, fun _ hi => hi⟩
  | granted h hnone => exact .of_eq rfl rfl rfl
  | mailed h =>
    exact ⟨.refl User.Same.refl _, fun _ hm => List.mem_append_left _ hm, fun _ hi => hi⟩
  | @password p user secret h =>
    obtain ⟨hstored, -⟩ := ht.resets user (by simp [StaffTask.resets, h])
    exact ⟨saveUser_grows hstored ⟨rfl, rfl⟩, fun _ hm => hm, fun _ hi => hi⟩
  | entered h => exact ⟨touchLogin_grows _ _, fun _ hm => hm, fun _ hi => hi⟩

/-! ### One statement -/

/-- The password of an account, before or after. -/
theorem usable_carried (hs : LinksSound s) (hc : Carried s s')
    (h : ∀ u' ∈ s'.users.rows, u'.password.secret.isSome = true →
      (∃ u ∈ s.users.rows, u.id = u'.id ∧ u.password.secret.isSome = true) ∨
        u'.id ∈ s'.operated ∨ ∃ m ∈ s.mailed, m.2.user = u'.id) :
    ∀ u' ∈ s'.users.rows, u'.password.secret.isSome = true →
      u'.id ∈ s'.operated ∨ ∃ m ∈ s'.mailed, m.2.user = u'.id := by
  intro u' hu' hp
  rcases h u' hu' hp with ⟨u, hu, hid, husable⟩ | hop | ⟨m, hm, hid⟩
  · rcases hs.usable u hu husable with hop | ⟨m, hm, hmu⟩
    · exact .inl (hc.operated _ (hid ▸ hop))
    · exact .inr ⟨m, hc.mailed m hm, hmu.trans hid⟩
  · exact .inl hop
  · exact .inr ⟨m, hc.mailed m hm, hid⟩

/-- Every link that went out stays one of a stored user. -/
theorem owners_carried (hs : LinksSound s) (hc : Carried s s')
    (h : ∀ m ∈ s'.mailed, m ∈ s.mailed ∨ ∃ u ∈ s.users.rows, u.id = m.2.user ∧ u.email = m.1) :
    ∀ m ∈ s'.mailed, ∃ u ∈ s'.users.rows, u.id = m.2.user ∧ u.email = m.1 := by
  intro m hm
  obtain ⟨u, hu, hid, hemail⟩ := (h m hm).elim (hs.owners m) fun h => h
  obtain ⟨u', hu', hsame⟩ := hc.users.exists_mem hu
  exact ⟨u', hu', hsame.1.trans hid, hsame.2.trans hemail⟩

/-- A link goes out to a user who has been sent none. -/
theorem LinksSound.mail (hs : LinksSound s) (hu : StoredUser s user)
    (hpassword : user.password.secret = none) (hnone : ∀ m ∈ s.mailed, m.2.user ≠ user.id) :
    LinksSound { s with mailed := s.mailed ++ [(user.email, makeToken user s.now)] } := by
  have hnew : ∀ m ∈ s.mailed ++ [(user.email, makeToken user s.now)],
      m ∈ s.mailed ∨ m = (user.email, makeToken user s.now) := by simp
  refine ⟨fun m hm => ?_, ?_, fun m hm => ?_, hs.sessions, fun u hu' hp => ?_⟩
  · rcases hnew m hm with hm | rfl
    · exact hs.owners m hm
    · exact hu
  · show ((s.mailed ++ [(user.email, makeToken user s.now)]).map (·.2.user)).Nodup
    rw [List.map_append, List.nodup_append]
    refine ⟨hs.once, by simp, fun i hi j hj => ?_⟩
    obtain ⟨m, hm, rfl⟩ := List.mem_map.mp hi
    rw [List.mem_singleton.mp hj]
    exact hnone m hm
  · rcases hnew m hm with hm | rfl
    · exact hs.unusable m hm
    · exact hpassword
  · exact (hs.usable u hu' hp).imp id fun ⟨m, hm, hid⟩ => ⟨m, List.mem_append_left _ hm, hid⟩

/-- **One statement** keeps the links sound. -/
theorem StaffWrites.linksSound (hw : StaffWrites s t s') (hs : LinksSound s) (ht : t.Sound s) :
    LinksSound s' := by
  have hc := hw.carried ht
  cases hw with
  | nothing => exact hs
  | team => exact ⟨hs.owners, hs.once, hs.unusable, hs.sessions, hs.usable⟩
  | @created i role h =>
    -- The new user has no password yet.
    refine ⟨owners_carried hs hc fun m hm => .inl hm, hs.once, hs.unusable, hs.sessions,
      usable_carried hs hc fun u hu hp => .inl ?_⟩
    rcases mem_created.mp hu with hu | rfl
    · exact ⟨u, hu, rfl, hp⟩
    · cases hp
  | granted h hnone => exact ⟨hs.owners, hs.once, hs.unusable, hs.sessions, hs.usable⟩
  | @mailed i user h =>
    obtain ⟨hstored, hpassword, hnone⟩ := ht.invitee user (by simp [StaffTask.invitee, h])
    exact hs.mail hstored hpassword hnone
  | @password p user secret h =>
    obtain ⟨hstored, hlink⟩ := ht.resets user (by simp [StaffTask.resets, h])
    refine ⟨owners_carried hs hc fun m hm => .inl hm, hs.once, hs.unusable, hs.sessions,
      usable_carried hs hc fun u hu hp => ?_⟩
    obtain ⟨x, hx, rfl⟩ := List.mem_map.mp (saveUser_rows s.users _ ▸ hu)
    -- The password that is set now was set through the link.
    split_ifs at hp ⊢ with hid
    · exact .inr (.inr (beq_iff_eq.mp hid ▸ hlink))
    · exact .inl ⟨x, hx, rfl, hp⟩
  | @entered l user h =>
    have huser := ht.entrant user (by simp [StaffTask.entrant, h])
    refine ⟨owners_carried hs hc fun m hm => .inl hm, hs.once, hs.unusable, fun key x hx => ?_,
      usable_carried hs hc fun u hu hp => .inl ?_⟩
    -- The session that was entered is that of the user who was let in.
    · by_cases hkey : key = l.key
      · subst hkey
        dsimp only at hx
        rw [Function.update_self] at hx
        exact Option.some.inj hx ▸ huser
      · dsimp only at hx
        rw [Function.update_of_ne hkey] at hx
        exact hs.sessions key x hx
    · obtain ⟨x, hx, rfl⟩ := List.mem_map.mp (touchLogin_rows s.users _ _ ▸ hu)
      split_ifs at hp ⊢
      · exact ⟨x, hx, rfl, hp⟩
      · exact ⟨x, hx, rfl, hp⟩

/-- A request keeps what it relies on while another one, that owns something else, writes. -/
theorem StaffWrites.stable {k : StaffTask} (hw : StaffWrites s t s') (ht : t.Sound s)
    (hk : k.Sound s) (hne : ∀ r, t.owns = some r → k.owns ≠ some r) : k.Sound s' := by
  have hc := hw.carried ht
  refine ⟨fun u hu => ?_, fun u hu => ?_, hk.entrant⟩
  · obtain ⟨hstored, hpassword, hnone⟩ := hk.invitee u hu
    refine ⟨hc.stored hstored, hpassword, ?_⟩
    cases hw with
    | @mailed i user h =>
      -- The link that goes out is for the user of the request that sends it.
      have howns : StaffTask.owns (.invite i) = some user.id := by
        simp [StaffTask.owns, StaffTask.invitee, h]
      have hother : user.id ≠ u.id := fun hid =>
        hne user.id howns (by rw [hid]; exact congrArg (Option.map (·.id)) hu)
      intro m hm
      rcases List.mem_append.mp hm with hm | hm
      · exact hnone m hm
      · rw [List.mem_singleton.mp hm]
        exact hother
    | nothing => exact hnone
    | team => exact hnone
    | created h => exact hnone
    | granted h hmember => exact hnone
    | password h => exact hnone
    | entered h => exact hnone
  · obtain ⟨hstored, m, hm, hid⟩ := hk.resets u hu
    exact ⟨hc.stored hstored, m, hc.mailed m hm, hid⟩

/-! ### The next stage of a request -/

/-- A good token was mailed, belongs to the user, and has not lapsed. -/
theorem checkToken_mailed {token : PasswordToken} (h : checkToken s user token = true) :
    ∃ m ∈ s.mailed, m.2 = token ∧ token.user = user.id ∧ token.password = user.password ∧
      s.now / 1000000 ≤ token.timestamp + passwordResetTimeout := by
  unfold checkToken at h
  rw [Bool.and_eq_true, Bool.and_eq_true, List.any_eq_true, decide_eq_true_eq] at h
  obtain ⟨⟨⟨m, hm, hmt⟩, htoken⟩, htime⟩ := h
  have htoken := beq_iff_eq.mp htoken
  exact ⟨m, hm, beq_iff_eq.mp hmt, congrArg PasswordToken.user htoken,
    congrArg PasswordToken.password htoken, htime⟩

/-- Who can sign in has a usable password. -/
theorem authenticate_usable {email password : String}
    (h : authenticate s email password = some user) : user.password.secret.isSome = true := by
  unfold authenticate at h
  cases hf : s.users.rows.find? fun u => u.email == email with
  | none =>
    rw [hf] at h
    cases h
  | some u =>
    rw [hf] at h
    dsimp only at h
    split_ifs at h with hu
    rw [← Option.some.inj h, hu.1]
    rfl

/-- A request that is about to do none of the three relies on nothing. -/
theorem StaffTask.Sound.idle (hi : t.invitee = none) (hr : t.resets = none)
    (he : t.entrant = none) : t.Sound s :=
  ⟨fun u hu => (by rw [hi] at hu; cases hu), fun u hu => (by rw [hr] at hu; cases hu),
    fun u hu => (by rw [he] at hu; cases hu)⟩

/-- The next stage of an invitation: nothing is under way, or a user was just made, or the one that
    was made has got a membership. -/
theorem inviteStep_invitee (s : StaffState) (i : InviteTask) :
    StaffTask.invitee (.invite (inviteStep s i).2) = none ∨
      (∃ role, i.stage = .unknown role ∧
        (inviteStep s i).1.users = s.users.insert (i.newUser s.salts) ∧
        (inviteStep s i).1.mailed = s.mailed ∧
        StaffTask.invitee (.invite (inviteStep s i).2) = some (i.newUser s.salts s.users.nextId)) ∨
      ∃ user, StaffTask.invitee (.invite i) = some user ∧ (inviteStep s i).1.users = s.users ∧
        (inviteStep s i).1.mailed = s.mailed ∧
        StaffTask.invitee (.invite (inviteStep s i).2) = some user := by
  cases hstage : i.stage with
  -- Nobody is invited before a user is looked up by the address.
  | arrived =>
    left
    simp only [inviteStep, hstage]
    unfold InviteTask.check
    split
    · rfl
    · split_ifs
      · split
        · split_ifs <;> rfl
        · rfl
      · rfl
  | admitted role =>
    left
    simp only [inviteStep, hstage]
    split <;> rfl
  | known user role =>
    left
    simp only [inviteStep, hstage]
    split <;> rfl
  | unknown role =>
    -- The one statement that makes a user.
    simp only [inviteStep, hstage]
    split_ifs
    · exact .inl rfl
    · exact .inr (.inl ⟨role, rfl, rfl, rfl, rfl⟩)
  | granting user created role =>
    simp only [inviteStep, hstage]
    split
    · exact .inl rfl
    -- An account that was there before gets no link.
    · cases created with
      | false => exact .inl rfl
      | true => exact .inr (.inr ⟨user, by simp [StaffTask.invitee, hstage], rfl, rfl, rfl⟩)
  | mailing user =>
    left
    simp only [inviteStep, hstage]
    split_ifs <;> rfl
  | answered answer =>
    left
    simp [inviteStep, hstage, StaffTask.invitee]

/-- A request carries an invitee only after it created the account. -/
theorem staffStep_invitee (s : StaffState) (t : StaffTask) :
    (staffStep s t).2.invitee = none ∨
      (∃ i role, t = .invite i ∧ i.stage = .unknown role ∧
        (staffStep s t).1.users = s.users.insert (i.newUser s.salts) ∧
        (staffStep s t).1.mailed = s.mailed ∧
        (staffStep s t).2.invitee = some (i.newUser s.salts s.users.nextId)) ∨
      ∃ user, t.invitee = some user ∧ (staffStep s t).1.users = s.users ∧
        (staffStep s t).1.mailed = s.mailed ∧ (staffStep s t).2.invitee = some user := by
  cases t with
  | invite i =>
    rcases inviteStep_invitee s i with h | ⟨role, h⟩ | ⟨user, h⟩
    · exact .inl h
    · exact .inr (.inl ⟨i, role, rfl, h⟩)
    · exact .inr (.inr ⟨user, h⟩)
  | team t => exact .inl rfl
  | setPassword p => exact .inl rfl
  | login l => exact .inl rfl

/-- The next stage of a set-password request is about the user of a link that is good. -/
theorem staffStep_resets (s : StaffState) (t : StaffTask) :
    (staffStep s t).2.resets = none ∨
      ∃ user token, (staffStep s t).2.resets = some user ∧ (staffStep s t).1 = s ∧
        user ∈ s.users.rows ∧ checkToken s user token = true := by
  cases t with
  | setPassword p =>
    simp only [staffStep]
    unfold passwordStep
    split
    · split
      · exact .inl rfl
      · rename_i user huser
        split_ifs with hcheck
        · obtain ⟨id, -, hid⟩ := Option.bind_eq_some_iff.mp huser
          exact .inr ⟨user, p.token, rfl, rfl, Table.get?_mem hid, hcheck⟩
        · exact .inl rfl
    · split <;> exact .inl rfl
    · rename_i answer hstage
      left
      simp [StaffTask.resets, hstage]
  | team t => exact .inl rfl
  | invite i => exact .inl rfl
  | login l => exact .inl rfl

/-- The next stage of a sign-in is about a user who has given the password. -/
theorem staffStep_entrant (ht : t.Sound s) :
    ∀ u ∈ (staffStep s t).2.entrant, u.password.secret.isSome = true := by
  intro u hu
  cases t with
  | login l =>
    simp only [staffStep] at hu
    unfold loginStep at hu
    split at hu
    · split_ifs at hu
      · cases hu
      · cases hu
      · split at hu
        · cases hu
        · split at hu
          · cases hu
          -- The password was given in this very statement.
          · rename_i user hauth
            cases hu
            exact authenticate_usable hauth
    · rename_i user hstage
      split at hu
      · cases hu
      · cases hu
        exact ht.entrant u (by simp [StaffTask.entrant, hstage])
    · cases hu
    · rename_i answer hstage
      simp [StaffTask.entrant, hstage] at hu
  | team t => cases hu
  | invite i => cases hu
  | setPassword p => cases hu

/-- A user who has just been made has been sent nothing. -/
theorem LinksSound.mailed_ne_next (hs : LinksSound s) :
    ∀ m ∈ s.mailed, m.2.user ≠ s.users.nextId := by
  intro m hm
  obtain ⟨u, hu, hid, -⟩ := hs.owners m hm
  rw [← hid]
  exact Table.key_ne_nextId hu

/-- **The step.** A request goes on relying on what holds. -/
theorem staffStep_sound (hs : LinksSound s) (ht : t.Sound s) :
    (staffStep s t).2.Sound (staffStep s t).1 := by
  refine ⟨fun u hu => ?_, fun u hu => ?_, staffStep_entrant ht⟩
  · rcases staffStep_invitee s t with hnone | ⟨i, role, -, -, husers, hmailed, hnew⟩ |
      ⟨user, hold, husers, hmailed, hnew⟩
    · rw [hnone] at hu
      cases hu
    · rw [hnew] at hu
      cases hu
      rw [hmailed]
      refine ⟨⟨i.newUser s.salts s.users.nextId, ?_, .refl _⟩, rfl, hs.mailed_ne_next⟩
      rw [husers]
      exact mem_created.mpr (.inr rfl)
    · rw [hnew] at hu
      cases hu
      obtain ⟨hstored, hrest⟩ := ht.invitee u hold
      rw [hmailed]
      exact ⟨by unfold StoredUser; rw [husers]; exact hstored, hrest⟩
  · rcases staffStep_resets s t with hnone | ⟨user, token, hnew, hsame, hmem, hcheck⟩
    · rw [hnone] at hu
      cases hu
    · rw [hnew] at hu
      cases hu
      rw [hsame]
      obtain ⟨m, hm, rfl, hid, -⟩ := checkToken_mailed hcheck
      exact ⟨⟨u, hmem, .refl _⟩, m, hm, hid⟩

/-- A request comes to own a user that nobody owns. -/
theorem staffStep_claim {r : Nat} (h : (staffStep s t).2.owns = some r) :
    t.owns = some r ∨ ∀ k : StaffTask, k.Sound s → k.owns ≠ some r := by
  unfold StaffTask.owns at h ⊢
  rcases staffStep_invitee s t with hnone | ⟨i, role, -, -, -, -, hnew⟩ | ⟨user, hold, -, -, hnew⟩
  · rw [hnone] at h
    cases h
  · rw [hnew] at h
    obtain rfl : s.users.nextId = r := Option.some.inj h
    refine .inr fun k hk howns => ?_
    obtain ⟨u, hu, hid⟩ := Option.map_eq_some_iff.mp howns
    obtain ⟨⟨x, hx, hsame⟩, -⟩ := hk.invitee u hu
    exact Table.key_ne_nextId hx (hsame.1.trans hid)
  · rw [hnew] at h
    exact .inl (by rw [hold]; exact h)

/-! ### What happens besides -/

/-- What the operator and the clock do: accounts and links stay, and a password that can be signed
    in with was there before or is the operator's. -/
structure Besides (s s' : StaffState) : Prop where
  carried : Carried s s'
  mailed : s'.mailed = s.mailed
  sessions : ∀ key x, s'.sessions key = some x → s.sessions key = some x
  usable : ∀ u' ∈ s'.users.rows, u'.password.secret.isSome = true →
    (∃ u ∈ s.users.rows, u.id = u'.id ∧ u.password.secret.isSome = true) ∨ u'.id ∈ s'.operated

/-- Nothing happens to links where accounts and mails stay. -/
theorem Besides.of_eq (hu : s'.users = s.users) (hm : s'.mailed = s.mailed)
    (ho : s'.operated = s.operated)
    (hs : ∀ key x, s'.sessions key = some x → s.sessions key = some x) : Besides s s' :=
  ⟨.of_eq hu hm ho, hm, hs, fun u h hp => .inl ⟨u, hu ▸ h, rfl, hp⟩⟩

/-- Granting a role writes memberships only. -/
theorem grantRole_eq (s : StaffState) (user organization : Nat) (role : Role) :
    ∃ memberships, grantRole s user organization role = { s with memberships := memberships } := by
  unfold grantRole
  split
  · exact ⟨_, rfl⟩
  · exact ⟨_, rfl⟩

/-- An account of the operator is made besides the links. -/
theorem operatorAccount_besides (s : StaffState) (address password firstName lastName : String)
    (resetPassword : Bool) :
    Besides s (operatorAccount s address password firstName lastName resetPassword).1 := by
  unfold operatorAccount
  split
  · refine ⟨⟨Table.grows_append User.Same.refl rfl, fun _ hm => hm,
      fun _ hi => List.mem_cons_of_mem _ hi⟩, rfl, fun _ _ hx => hx, fun u hu hp => ?_⟩
    rcases List.mem_append.mp hu with hu | hu
    · exact .inl ⟨u, hu, rfl, hp⟩
    · rw [List.mem_singleton.mp hu]
      exact .inr (List.mem_cons_self ..)
  · rename_i u hfind
    split_ifs
    · refine ⟨⟨?_, fun _ hm => hm, fun _ hi => List.mem_cons_of_mem _ hi⟩, rfl, fun _ _ hx => hx,
        fun u' hu' hp => ?_⟩
      · exact (Table.rewritten_update User.Same.refl (resetUser_rows s.users u.id _)
          fun _ _ _ => ⟨rfl, rfl⟩).grows
      obtain ⟨x, hx, rfl⟩ := List.mem_map.mp (resetUser_rows s.users u.id _ ▸ hu')
      split_ifs at hp ⊢ with hid
      · exact .inr (beq_iff_eq.mp hid ▸ List.mem_cons_self ..)
      · exact .inl ⟨x, hx, rfl, hp⟩
    · exact .of_eq rfl rfl rfl fun _ _ hx => hx

/-- So is all that the operator's command does. -/
theorem createStaffUser_besides (s : StaffState) (email password : String) (organization : Nat)
    (role : Role) (firstName lastName : String) (resetPassword : Bool) :
    Besides s
      (createStaffUser s email password organization role firstName lastName resetPassword) := by
  have h := operatorAccount_besides s (normalizeUserEmail email) password firstName lastName
    resetPassword
  unfold createStaffUser
  dsimp only
  obtain ⟨memberships, heq⟩ := grantRole_eq
    (operatorAccount s (normalizeUserEmail email) password firstName lastName resetPassword).1
    (operatorAccount s (normalizeUserEmail email) password firstName lastName resetPassword).2
    organization role
  rw [heq]
  exact ⟨⟨h.carried.users, h.carried.mailed, h.carried.operated⟩, h.mailed, h.sessions, h.usable⟩

/-- **Events** make no link, and no password but the operator's. -/
theorem StaffEvent.exec_besides (e : StaffEvent) (s : StaffState) : Besides s (e.exec s) := by
  cases e with
  | advance d => exact .of_eq rfl rfl rfl fun _ _ hx => hx
  | logout key =>
    refine .of_eq rfl rfl rfl fun k x hx => ?_
    by_cases hkey : k = key
    · subst hkey
      simp [StaffEvent.exec] at hx
    · simpa [StaffEvent.exec, Function.update_of_ne hkey] using hx
  | createStaffUser email password organization role firstName lastName resetPassword =>
    exact createStaffUser_besides s email password organization role firstName lastName
      resetPassword

/-- What happens besides keeps the links sound. -/
theorem Besides.linksSound (h : Besides s s') (hs : LinksSound s) : LinksSound s' where
  owners := owners_carried hs h.carried fun _ hm => .inl (h.mailed ▸ hm)
  once := h.mailed ▸ hs.once
  unusable := fun m hm => hs.unusable m (h.mailed ▸ hm)
  sessions := fun key x hx => hs.sessions key x (h.sessions key x hx)
  usable := usable_carried hs h.carried fun u hu hp => (h.usable u hu hp).imp id .inl

/-- And what requests rely on. -/
theorem Besides.sound (h : Besides s s') (ht : t.Sound s) : t.Sound s' where
  invitee := fun u hu => by
    obtain ⟨hstored, hpassword, hnone⟩ := ht.invitee u hu
    exact ⟨h.carried.stored hstored, hpassword, h.mailed ▸ hnone⟩
  resets := fun u hu => by
    obtain ⟨hstored, hlink⟩ := ht.resets u hu
    exact ⟨h.carried.stored hstored, h.mailed ▸ hlink⟩
  entrant := ht.entrant

/-! ### Every interleaving -/

/-- At the start the links are sound. -/
theorem StaffState.Opening.linksSound (h : s.Opening) : LinksSound s where
  owners := fun m hm => by rw [h.mailed] at hm; cases hm
  once := by rw [h.mailed]; exact List.nodup_nil
  unusable := fun m hm => by rw [h.mailed] at hm; cases hm
  sessions := fun key x hx => by rw [h.sessions key] at hx; cases hx
  usable := fun u hu hp => .inl (h.operated u hu hp)

/-- A request that has arrived carries nothing. -/
theorem StaffTask.Arrived.idle (h : t.Arrived) :
    t.invitee = none ∧ t.resets = none ∧ t.entrant = none := by
  cases t with
  | team t => exact ⟨rfl, rfl, rfl⟩
  | invite i => simp [invitee, resets, entrant, show i.stage = .arrived from h]
  | setPassword p => simp [invitee, resets, entrant, show p.stage = .arrived from h]
  | login l => simp [invitee, resets, entrant, show l.stage = .arrived from h]

/-- So it relies on nothing. -/
theorem StaffTask.Arrived.sound (h : t.Arrived) : t.Sound s ∧ t.owns = none :=
  ⟨.idle h.idle.1 h.idle.2.1 h.idle.2.2, by rw [owns, h.idle.1]; rfl⟩

/-- A user who was made is owned until the link is out, and the links stay sound. -/
theorem staffDoor_ownership :
    Ownership staffDoor (fun _ _ => True) LinksSound (fun s t => t.Sound s) StaffTask.owns where
  start := fun _ _ _ ht => StaffTask.Arrived.sound ht
  step := fun s t hs ht _ =>
    ⟨(staffStep_writes s t).linksSound hs ht, staffStep_sound hs ht⟩
  stable := fun s t _ _ ht _ hk hne => (staffStep_writes s t).stable ht hk hne
  claim := fun _ _ _ _ _ _ h => staffStep_claim h
  env := fun s e hs _ => (e.exec_besides s).linksSound hs
  envStable := fun s e _ _ _ ht => (e.exec_besides s).sound ht

/-- Who is signed in has a session under the current password. -/
theorem signedIn_some {key : String} {u : User} (h : signedIn s key = some u) :
    ∃ x, s.sessions key = some x ∧ x.auth = u.password ∧ u ∈ s.users.rows := by
  unfold signedIn at h
  cases hx : s.sessions key with
  | none =>
    rw [hx] at h
    cases h
  | some x =>
    rw [hx] at h
    dsimp only at h
    cases hv : s.users.get? x.user with
    | none =>
      rw [hv] at h
      cases h
    | some v =>
      rw [hv] at h
      dsimp only at h
      split_ifs at h with hok
      rw [Bool.and_eq_true, beq_iff_eq] at hok
      obtain rfl : v = u := Option.some.inj h
      exact ⟨x, rfl, hok.2, Table.get?_mem hv⟩

/-- The links that went out to a user. -/
def linksOf (s : StaffState) (user : Nat) : List (String × PasswordToken) :=
  s.mailed.filter fun m => m.2.user == user

/-- A user who has been sent a link has been sent that one only. -/
theorem LinksSound.linksOf_eq (hs : LinksSound s) {m : String × PasswordToken} (hm : m ∈ s.mailed) :
    linksOf s m.2.user = [m] := by
  have hmem : ∀ x ∈ linksOf s m.2.user, x = m := fun x hx => by
    obtain ⟨hx, hid⟩ := List.mem_filter.mp hx
    exact List.inj_on_of_nodup_map hs.once hx hm (beq_iff_eq.mp hid)
  have hnodup : (linksOf s m.2.user).Nodup := (List.Nodup.of_map _ hs.once).filter _
  have hself : m ∈ linksOf s m.2.user := List.mem_filter.mpr ⟨hm, beq_self_eq_true _⟩
  -- All of them are `m`, and it is there once.
  rw [List.eq_replicate_of_mem hmem, List.nodup_replicate] at hnodup
  rw [List.eq_replicate_of_mem hmem] at hself ⊢
  obtain ⟨hne, -⟩ := List.mem_replicate.mp hself
  rw [show (linksOf s m.2.user).length = 1 by omega]
  rfl

/-- **Signed in by a link.** In every interleaving of invitations, set-password forms, sign-ins and
    the team page, whoever is signed in has a password of the operator's, or has been sent exactly
    one link, to the address of the account; and no link of theirs is good any more. -/
theorem signed_in_by_link {c : Config StaffState StaffTask} {key : String} {u : User}
    (h : Reachable staffDoor.system c) (hu : signedIn c.shared key = some u) :
    (u.id ∈ c.shared.operated ∨ ∃ token, linksOf c.shared u.id = [(u.email, token)]) ∧
      ∀ token, checkToken c.shared u token = false := by
  obtain ⟨⟨hs, -⟩, -⟩ := staffDoor_ownership.reachable (fun _ h0 => h0.linksSound) h
  obtain ⟨x, hx, hauth, hmem⟩ := signedIn_some hu
  have husable : u.password.secret.isSome = true := hauth ▸ hs.sessions key x hx
  constructor
  · refine (hs.usable u hmem husable).imp id fun ⟨m, hm, hid⟩ => ⟨m.2, ?_⟩
    obtain ⟨owner, howner, hown, hemail⟩ := hs.owners m hm
    obtain rfl := Table.eq_of_key_eq howner hmem (hown.trans hid)
    rw [← hid, hs.linksOf_eq hm, hemail]
  · intro token
    by_contra hgood
    obtain ⟨m, hm, rfl, -, hpassword, -⟩ := checkToken_mailed (Bool.not_eq_false _ ▸ hgood)
    rw [← hpassword, hs.unusable m hm] at husable
    cases husable

/-! ### A link that has lapsed -/

/-- The user has no password to sign in with, and whatever link went out has lapsed. -/
structure LockedOut (s : StaffState) (u : User) : Prop where
  stored : ∃ u' ∈ s.users.rows, u.Same u' ∧ u'.password.secret = none
  lapsed : ∀ m ∈ s.mailed, m.2.user = u.id →
    m.2.timestamp + passwordResetTimeout < s.now / 1000000

/-- The request is about to send the user a link, or to set the password. -/
def StaffTask.Pending (user : Nat) (t : StaffTask) : Prop :=
  t.owns = some user ∨ ∃ u ∈ t.resets, u.id = user

/-- The operator does not reset the password of the address. -/
def NoReset (email : String) (_ : Config StaffState StaffTask) : Move StaffTask StaffEvent → Prop
  | .env (.createStaffUser address _ _ _ _ _ resetPassword) =>
    resetPassword = true → normalizeUserEmail address ≠ email
  | _ => True

variable {u : User}

/-- A user stays locked out while the password and the mails stay. -/
theorem LockedOut.of_users (hl : LockedOut s u) (hm : s'.mailed = s.mailed)
    (hnow : s.now ≤ s'.now) (husers : ∀ x ∈ s.users.rows, x.id = u.id →
      ∃ x' ∈ s'.users.rows, x.Same x' ∧ x'.password = x.password) : LockedOut s' u := by
  obtain ⟨u', hmem, hsame, hnone⟩ := hl.stored
  obtain ⟨x, hx, hsame', hpassword⟩ := husers u' hmem hsame.1
  refine ⟨⟨x, hx, ⟨hsame'.1.trans hsame.1, hsame'.2.trans hsame.2⟩, hpassword ▸ hnone⟩,
    fun m hmm hid => ?_⟩
  exact (hl.lapsed m (hm ▸ hmm) hid).trans_le (Nat.div_le_div_right hnow)

/-- A statement of a request that is not about the user keeps it locked out, and sends it
    nothing. -/
theorem StaffWrites.lockedOut (hw : StaffWrites s t s') (hl : LockedOut s u)
    (ht : ¬t.Pending u.id) : LockedOut s' u ∧ linksOf s' u.id = linksOf s u.id := by
  have hkept : ∀ x ∈ s.users.rows, x.id = u.id →
      ∃ x' ∈ s.users.rows, x.Same x' ∧ x'.password = x.password :=
    fun x hx _ => ⟨x, hx, .refl x, rfl⟩
  cases hw with
  | nothing => exact ⟨hl, rfl⟩
  | team => exact ⟨hl.of_users rfl le_rfl hkept, rfl⟩
  | created h =>
    exact ⟨hl.of_users rfl le_rfl fun x hx _ => ⟨x, mem_created.mpr (.inl hx), .refl x, rfl⟩, rfl⟩
  | granted h hnone => exact ⟨hl.of_users rfl le_rfl hkept, rfl⟩
  | @mailed i user h =>
    -- The link goes to somebody else.
    have hne : user.id ≠ u.id := fun hid =>
      ht (.inl (by simp [StaffTask.owns, StaffTask.invitee, h, hid]))
    refine ⟨⟨hl.stored, fun m hm hid => ?_⟩, ?_⟩
    · rcases List.mem_append.mp hm with hm | hm
      · exact hl.lapsed m hm hid
      · rw [List.mem_singleton.mp hm] at hid
        exact absurd hid hne
    · unfold linksOf
      dsimp only
      rw [List.filter_append, List.filter_cons_of_neg (by simpa [makeToken] using hne)]
      simp
  | @password p user secret h =>
    -- So does the password.
    have hne : user.id ≠ u.id := fun hid => ht (.inr ⟨user, by simp [StaffTask.resets, h], hid⟩)
    refine ⟨hl.of_users rfl le_rfl fun x hx hid => ⟨x, ?_, .refl x, rfl⟩, rfl⟩
    refine saveUser_rows s.users _ ▸ List.mem_map.mpr ⟨x, hx, if_neg fun hxu => ?_⟩
    exact hne ((beq_iff_eq.mp hxu).symm.trans hid)
  | @entered l user h =>
    refine ⟨hl.of_users rfl le_rfl fun x hx _ => ?_, rfl⟩
    refine ⟨_, touchLogin_rows s.users user.id s.now ▸ List.mem_map_of_mem hx, ?_, ?_⟩
    · split_ifs <;> exact ⟨rfl, rfl⟩
    · split_ifs <;> rfl

/-- A request that is not about the user does not come to be. -/
theorem not_pending_staffStep (hl : LockedOut s u) (ht : ¬t.Pending u.id) :
    ¬(staffStep s t).2.Pending u.id := by
  obtain ⟨u', hmem, hsame, -⟩ := hl.stored
  rintro (howns | ⟨v, hv, hid⟩)
  · unfold StaffTask.owns at howns
    rcases staffStep_invitee s t with hnone | ⟨i, role, -, -, -, -, hnew⟩ | ⟨user, hold, -, -, hnew⟩
    · rw [hnone] at howns
      cases howns
    · rw [hnew] at howns
      exact Table.key_ne_nextId hmem (hsame.1.trans (Option.some.inj howns).symm)
    · rw [hnew] at howns
      exact ht (.inl (by unfold StaffTask.owns; rw [hold]; exact howns))
  · rcases staffStep_resets s t with hnone | ⟨user, token, hnew, -, -, hcheck⟩
    · rw [hnone] at hv
      cases hv
    · rw [hnew] at hv
      obtain rfl : user = v := Option.some.inj hv
      -- A link that is good has not lapsed.
      obtain ⟨m, hm, rfl, hmid, -, htime⟩ := checkToken_mailed hcheck
      exact absurd htime (not_le.mpr (hl.lapsed m hm (hmid.trans hid)))

/-- The operator's command leaves a user locked out unless it resets the password. -/
theorem operatorAccount_lockedOut {address password firstName lastName : String}
    {resetPassword : Bool} (hl : LockedOut s u)
    (hreset : resetPassword = true → address ≠ u.email) :
    LockedOut (operatorAccount s address password firstName lastName resetPassword).1 u := by
  unfold operatorAccount
  split
  · exact hl.of_users rfl le_rfl fun x hx _ => ⟨x, List.mem_append_left _ hx, .refl x, rfl⟩
  · rename_i v hfind
    split_ifs with hr
    · have hv := List.mem_of_find?_eq_some hfind
      have hemail : v.email = address := by simpa using List.find?_some hfind
      refine hl.of_users rfl le_rfl fun x hx hid => ⟨x, ?_, .refl x, rfl⟩
      refine resetUser_rows s.users v.id _ ▸ List.mem_map.mpr ⟨x, hx, if_neg fun hxv => ?_⟩
      -- The account of another address is another account.
      obtain ⟨u', hmem, hsame, -⟩ := hl.stored
      obtain rfl := Table.eq_of_key_eq hmem hx (hsame.1.trans hid.symm)
      obtain rfl := Table.eq_of_key_eq hmem hv (beq_iff_eq.mp hxv)
      exact hreset hr (hemail.symm.trans hsame.2)
    · exact hl

/-- **The step of the others.** Whatever else happens leaves the user locked out. -/
theorem StaffEvent.exec_lockedOut {e : StaffEvent} {c : Config StaffState StaffTask}
    (hl : LockedOut s u) (he : NoReset u.email c (.env e)) : LockedOut (e.exec s) u := by
  have hkept : ∀ x ∈ s.users.rows, x.id = u.id →
      ∃ x' ∈ s.users.rows, x.Same x' ∧ x'.password = x.password :=
    fun x hx _ => ⟨x, hx, .refl x, rfl⟩
  cases e with
  | advance d => exact hl.of_users rfl (Nat.le_add_right _ _) hkept
  | logout key => exact hl.of_users rfl le_rfl hkept
  | createStaffUser address password organization role firstName lastName resetPassword =>
    have h := @operatorAccount_lockedOut s u (normalizeUserEmail address) password firstName
      lastName resetPassword hl he
    obtain ⟨memberships, heq⟩ := grantRole_eq
      (operatorAccount s (normalizeUserEmail address) password firstName lastName resetPassword).1
      (operatorAccount s (normalizeUserEmail address) password firstName lastName resetPassword).2
      organization role
    show LockedOut (grantRole _ _ organization role) u
    rw [heq]
    exact ⟨h.stored, h.lapsed⟩

/-- **One move** keeps the user locked out. -/
theorem staffDoor_lockedOut {c c' : Config StaffState StaffTask} {a : Move StaffTask StaffEvent}
    (hs : (staffDoor.system.restrict (NoReset u.email)).step c a c')
    (hl : LockedOut c.shared u) (hquiet : ∀ t ∈ c.procs, ¬t.Pending u.id) :
    LockedOut c'.shared u ∧ (∀ t ∈ c'.procs, ¬t.Pending u.id) ∧
      linksOf c'.shared u.id = linksOf c.shared u.id := by
  obtain ⟨hs, hreset⟩ := hs
  rcases Processes.step_cases hs with ⟨t, ht, -, rfl⟩ | ⟨i, t, hi, -, -, rfl⟩ | ⟨e, -, rfl, rfl⟩
  · refine ⟨hl, fun k hk => ?_, rfl⟩
    rcases List.mem_append.mp hk with hk | hk
    · exact hquiet k hk
    · rw [List.mem_singleton.mp hk]
      obtain ⟨hinvitee, hresets, -⟩ := StaffTask.Arrived.idle ht
      rintro (howns | ⟨v, hv, -⟩)
      · rw [StaffTask.owns, hinvitee] at howns
        cases howns
      · rw [hresets] at hv
        cases hv
  · have htq := hquiet t (List.mem_of_getElem? hi)
    obtain ⟨hl', hlinks⟩ := (staffStep_writes c.shared t).lockedOut hl htq
    refine ⟨hl', fun k hk => ?_, hlinks⟩
    rcases List.mem_or_eq_of_mem_set hk with hk | rfl
    · exact hquiet k hk
    · exact not_pending_staffStep hl htq
  · refine ⟨StaffEvent.exec_lockedOut hl hreset, hquiet, ?_⟩
    exact congrArg (List.filter _) (e.exec_besides c.shared).mailed

/-- **A lapsed invitation locks out.** When a user has no password to sign in with, whatever link
    went out has lapsed, and no request is about to send one or to set the password, then nothing
    that happens on the site, in any order, gets the user in: no session is ever the user's, no link
    is ever good for the account, and no other link goes out.  Only the operator can reset the
    password. -/
theorem lapsed_invite_locks_out {c c' : Config StaffState StaffTask}
    {as : List (Move StaffTask StaffEvent)} (h : Reachable staffDoor.system c)
    (hl : LockedOut c.shared u) (hquiet : ∀ t ∈ c.procs, ¬t.Pending u.id)
    (hr : Run (staffDoor.system.restrict (NoReset u.email)) c as c') :
    (∀ key v, signedIn c'.shared key = some v → v.id ≠ u.id) ∧
      (∀ v ∈ c'.shared.users.rows, v.id = u.id → ∀ token, checkToken c'.shared v token = false) ∧
      linksOf c'.shared u.id = linksOf c.shared u.id := by
  have hall := hr.invariant (I := fun d => Reachable staffDoor.system d ∧ LockedOut d.shared u ∧
      (∀ t ∈ d.procs, ¬t.Pending u.id) ∧ linksOf d.shared u.id = linksOf c.shared u.id)
    ⟨h, hl, hquiet, rfl⟩ fun d a d' hd hs => by
      obtain ⟨hl', hquiet', hlinks⟩ := staffDoor_lockedOut hs hd.2.1 hd.2.2.1
      exact ⟨hd.1.step hs.1, hl', hquiet', hlinks.trans hd.2.2.2⟩
  obtain ⟨hreach, hl', -, hlinks⟩ := hall
  obtain ⟨⟨hsound, -⟩, -⟩ := staffDoor_ownership.reachable (fun _ h0 => h0.linksSound) hreach
  obtain ⟨u', hmem, hsame, hnone⟩ := hl'.stored
  refine ⟨fun key v hv hid => ?_, fun v hv hid token => ?_, hlinks⟩
  · obtain ⟨x, hx, hauth, hvmem⟩ := signedIn_some hv
    obtain rfl := Table.eq_of_key_eq hmem hvmem (hsame.1.trans hid.symm)
    have husable := hsound.sessions key x hx
    rw [hauth, hnone] at husable
    cases husable
  · by_contra hgood
    obtain ⟨m, hm, rfl, hmid, -, htime⟩ := checkToken_mailed (Bool.not_eq_false _ ▸ hgood)
    exact absurd htime (not_le.mpr (hl'.lapsed m hm (hmid.trans hid)))

end Links

/-! ### A new teammate -/

/-- Olga owns the first theater and Otto the second; the operator has set their passwords. -/
def twoDoors : StaffState where
  users := (Table.empty.insert fun id =>
    ⟨id, "olga@example.com", "Olga", "", true, ⟨0, some "tulip"⟩, none⟩).insert fun id =>
      ⟨id, "otto@example.com", "Otto", "", true, ⟨1, some "maple"⟩, none⟩
  memberships := (Table.empty.insert fun id => ⟨id, 1, 6, .owner⟩).insert fun id =>
    ⟨id, 2, 7, .owner⟩
  mailed := []
  sessions := fun _ => none
  salts := 2
  now := 0
  operated := [1, 2]

/-- The two theaters are an opening state. -/
theorem twoDoors_opening : twoDoors.Opening := ⟨fun _ => rfl, rfl, by decide⟩

/-- Ada is added to the box office of a theater by its owner. -/
def addAda (owner organization : Nat) : StaffTask :=
  .invite ⟨owner, organization, some "Ada@example.com", some .boxOffice, "Ada", "", true, .arrived⟩

/-- Ada posts the form of the first link. -/
def adaSets : StaffTask :=
  .setPassword ⟨some 3, ⟨3, ⟨2, none⟩, none, "ada@example.com", 0⟩, some "fern", .arrived⟩

/-- Ada signs in at the first theater. -/
def adaSignsIn : StaffTask :=
  .login ⟨6, "laptop", some ("ada@example.com", "fern"), false, .arrived⟩

/-- The first theater has added Ada, and the link is out. -/
def adaInvited : Config StaffState StaffTask :=
  staffDoor.perform [.spawn (addAda 1 6), .act 0, .act 0, .act 0, .act 0, .act 0] ⟨twoDoors, []⟩

/-- The moves of the sample may happen wherever they are made. -/
theorem staffDoor_perform {c : Config StaffState StaffTask} {as : List (Move StaffTask StaffEvent)}
    (h : Reachable staffDoor.system c)
    (has : ∀ t, .spawn t ∈ as → t = addAda 1 6 ∨ t = addAda 2 7 ∨ t = adaSets ∨ t = adaSignsIn) :
    Reachable staffDoor.system (staffDoor.perform as c) := by
  refine Processes.reachable_perform h (fun t ht => ?_) fun _ _ _ => trivial
  rcases has t ht with rfl | rfl | rfl | rfl <;> exact rfl

/-- The invitation of Ada is reachable. -/
theorem adaInvited_reachable : Reachable staffDoor.system adaInvited :=
  staffDoor_perform (.of_init ⟨twoDoors_opening, rfl⟩) (by simp)

/-- Ada has set a password and signed in. -/
def adaSignedIn : Config StaffState StaffTask :=
  staffDoor.perform
    [.spawn adaSets, .act 1, .act 1, .spawn adaSignsIn, .act 2, .act 2, .act 2] adaInvited

/-- Ada follows her link and signs in. -/
theorem signed_in_by_link_ada :
    ∃ u, signedIn adaSignedIn.shared "laptop" = some u ∧ u.email = "ada@example.com" ∧
      (∃ token, linksOf adaSignedIn.shared u.id = [("ada@example.com", token)]) ∧
      ∀ token, checkToken adaSignedIn.shared u token = false := by
  have hreach : Reachable staffDoor.system adaSignedIn :=
    staffDoor_perform adaInvited_reachable (by simp)
  have hu : signedIn adaSignedIn.shared "laptop"
      = some ⟨3, "ada@example.com", "Ada", "", true, ⟨3, some "fern"⟩, some 0⟩ := by decide
  obtain ⟨hlink, hspent⟩ := signed_in_by_link hreach hu
  exact ⟨_, hu, rfl, hlink.resolve_left (by decide), hspent⟩

/-- Four days go by. -/
def adaLapsed : Config StaffState StaffTask :=
  staffDoor.perform [.env (.advance (4 * 24 * 60 * 60 * 1000000))] adaInvited

/-- The second theater adds Ada, who tries the old link. -/
def adaAgain : List (Move StaffTask StaffEvent) :=
  [.spawn (addAda 2 7), .act 1, .act 1, .act 1, .act 1, .spawn adaSets, .act 2]

/-- Ada's link lapses, and a second invitation to another theater does not let her in. -/
theorem lapsed_invite_locks_out_ada :
    (membershipOf (staffDoor.perform adaAgain adaLapsed).shared 3 7).isSome = true ∧
      (∀ key v, signedIn (staffDoor.perform adaAgain adaLapsed).shared key = some v → v.id ≠ 3) ∧
      linksOf (staffDoor.perform adaAgain adaLapsed).shared 3 = linksOf adaLapsed.shared 3 := by
  have hreach : Reachable staffDoor.system adaLapsed :=
    staffDoor_perform adaInvited_reachable (by simp)
  have hlocked : LockedOut adaLapsed.shared
      ⟨3, "ada@example.com", "Ada", "", true, ⟨2, none⟩, none⟩ :=
    ⟨⟨⟨3, "ada@example.com", "Ada", "", true, ⟨2, none⟩, none⟩, by decide, ⟨rfl, rfl⟩, rfl⟩,
      by decide⟩
  have hquiet : ∀ t ∈ adaLapsed.procs, ¬t.Pending 3 := by
    intro t ht
    have hidle : t.owns = none ∧ t.resets = none := by
      revert t
      decide
    rintro (howns | ⟨v, hv, -⟩)
    · rw [hidle.1] at howns
      cases howns
    · rw [hidle.2] at hv
      cases hv
  have hrun : Run (staffDoor.system.restrict (NoReset "ada@example.com")) adaLapsed adaAgain
      (staffDoor.perform adaAgain adaLapsed) :=
    Processes.run_perform_restrict
      ⟨rfl, ⟨_, rfl, trivial⟩, ⟨_, rfl, trivial⟩, ⟨_, rfl, trivial⟩, ⟨_, rfl, trivial⟩, rfl,
        ⟨_, rfl, trivial⟩, trivial⟩
      ⟨trivial, trivial, trivial, trivial, trivial, trivial, trivial, trivial⟩
  obtain ⟨hin, -, hlinks⟩ := lapsed_invite_locks_out hreach hlocked hquiet hrun
  exact ⟨by decide, hin, hlinks⟩

end BoxOffice

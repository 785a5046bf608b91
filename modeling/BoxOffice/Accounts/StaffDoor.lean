import BoxOffice.Dashboard.Team
import BoxOffice.Money
import BoxOffice.Relational.Sorted
import BoxOffice.Schema
import Mathlib.Data.String.Basic
import Mathlib.Tactic.SplitIfs

namespace BoxOffice

open Relational Transition

/-!
# Accounts — the staff door

How a person comes to be signed in at a theater: `accounts.invites`, the login and the
set-password view of `accounts.views`, `team_add`, and the command of the platform operator.

* requests are the statements they issue, one at a time, so any number of them interleave
  (`staffDoor`); those of the team page run in the same interleavings;
* `PasswordToken` is what a set-password link says, and `checkToken` when it is good;
* `staffStep_writes` says once what a statement writes.

Signatures are not modelled: a link verifies when it is one of those that went out by mail.
-/

/-! ### Users, links and sessions -/

/-- A stored password: a hash with a salt of its own, of a secret, or of none when it is
    unusable. -/
structure Password where
  salt : Nat
  secret : Option String
deriving Repr, DecidableEq

/-- `User`. -/
structure User where
  id : Nat
  email : String
  firstName : String
  lastName : String
  isActive : Bool
  password : Password
  lastLogin : Option Time
deriving Repr, DecidableEq

instance : Keyed User := ⟨User.id⟩

/-- `get_short_name`. -/
def User.shortName (u : User) : String := if u.firstName ≠ "" then u.firstName else u.email

/-- What the token of a set-password link is made of. -/
structure PasswordToken where
  user : Nat
  password : Password
  lastLogin : Option Nat
  email : String
  timestamp : Nat
deriving Repr, DecidableEq

/-- `default_token_generator.make_token`; times are in whole seconds. -/
def makeToken (u : User) (now : Time) : PasswordToken where
  user := u.id
  password := u.password
  lastLogin := u.lastLogin.map (· / 1000000)
  email := u.email
  timestamp := now / 1000000

/-- `PASSWORD_RESET_TIMEOUT`, in seconds, as no setting says otherwise. -/
def passwordResetTimeout : Nat := 3 * 24 * 60 * 60

/-- A sign-in: the user, and the password its hash was made from. -/
structure StaffSession where
  user : Nat
  auth : Password
deriving Repr, DecidableEq

/-- The users and memberships, the links that went out and to whom, the browser sessions, and a
    record of the users whose password the platform operator has set. -/
structure StaffState where
  users : Table User
  memberships : Table Membership
  mailed : List (String × PasswordToken)
  sessions : String → Option StaffSession
  salts : Nat
  now : Time
  operated : List Nat

/-- What the team page works on. -/
def StaffState.team (s : StaffState) : TeamDb where
  memberships := s.memberships
  email id := ((s.users.get? id).map (·.email)).getD ""

/-- `default_token_generator.check_token`. -/
def checkToken (s : StaffState) (u : User) (token : PasswordToken) : Bool :=
  s.mailed.any (fun m => m.2 == token) &&
    token == { makeToken u s.now with timestamp := token.timestamp } &&
    decide (s.now / 1000000 ≤ token.timestamp + passwordResetTimeout)

/-- `request.user` of a browser session; `none` is the anonymous user. -/
def signedIn (s : StaffState) (key : String) : Option User :=
  match s.sessions key with
  | none => none
  | some session =>
    match s.users.get? session.user with
    | none => none
    | some u => if u.isActive && session.auth == u.password then some u else none

/-- `Membership.objects.filter(user=…, organization=…).first()`. -/
def membershipOf (s : StaffState) (user organization : Nat) : Option Membership :=
  s.memberships.rows.find? fun m => m.user == user && m.organization == organization

/-- `UserManager.normalize_email`: the domain in lower case. -/
def normalizeUserEmail (email : String) : String :=
  let text := (strip email).toList
  if '@' ∈ text then
    let domain := (text.reverse.takeWhile (· ≠ '@')).reverse
    String.ofList (text.take (text.length - domain.length)) ++ Python.lower (String.ofList domain)
  else email

/-- `User.objects.filter(email__iexact=…).first()`.  `LIKE` in SQLite folds the letters of ASCII. -/
def userByEmail (s : StaffState) (email : String) : Option User :=
  (sortBy User.email (s.users.rows.filter fun u => upper u.email == upper email)).head?

/-- `authenticate`: the address is compared as it is typed. -/
def authenticate (s : StaffState) (email password : String) : Option User :=
  match s.users.rows.find? fun u => u.email == email with
  | none => none
  | some u => if u.password.secret = some password ∧ u.isActive = true then some u else none

/-! ### Adding a teammate -/

/-- `_assignable_roles`. -/
def assignableRoles (actor : Membership) : List Role :=
  if actor.isOwner then [.owner, .manager, .boxOffice, .scanner]
  else [.manager, .boxOffice, .scanner]

/-- What whoever adds a teammate is told. -/
inductive InviteAnswer
  | forbidden (message : String)
  | formErrors
  | emailError (message : String)
  | success (message : String)
  | serverError
deriving Repr, DecidableEq

/-- Where `team_add` is.  From `admitted` on it is in `add_member`. -/
inductive InviteStage
  | arrived
  | admitted (role : Role)
  | known (user : User) (role : Role)
  | unknown (role : Role)
  | granting (user : User) (created : Bool) (role : Role)
  | mailing (user : User)
  | answered (answer : InviteAnswer)
deriving Repr, DecidableEq

/-- A `team_add` of a signed-in user: the cleaned fields (`none` is a field that is not valid), and
    whether the mail server takes the message. -/
structure InviteTask where
  user : Nat
  organization : Nat
  email : Option String
  role : Option Role
  firstName : String
  lastName : String
  delivers : Bool
  stage : InviteStage
deriving Repr, DecidableEq

/-- The request at another stage. -/
def InviteTask.goTo (stage : InviteStage) (i : InviteTask) : InviteTask := { i with stage := stage }

/-- The address the account is looked up and created under. -/
def InviteTask.address (i : InviteTask) : String := Python.lower (normalizeUserEmail (i.email.getD ""))

/-- The check of the caller and of the form. -/
def InviteTask.check (i : InviteTask) : Option Membership → InviteStage
  | none => .answered (.forbidden "Your account doesn't have access to this theater.")
  | some actor =>
    if actor.canManageEvents then
      match i.email, i.role with
      | some _, some role =>
        if role ∈ assignableRoles actor then .admitted role else .answered .formErrors
      | _, _ => .answered .formErrors
    else .answered (.forbidden "Your role doesn't have access to this area.")

/-- The account of a new teammate. -/
def InviteTask.newUser (i : InviteTask) (salt id : Nat) : User where
  id := id
  email := i.address
  firstName := i.firstName
  lastName := i.lastName
  isActive := true
  password := ⟨salt, none⟩
  lastLogin := none

/-- The address as the form has it. -/
def InviteTask.typed (i : InviteTask) : String := i.email.getD ""

/-- What the caller is told when everything went through. -/
def InviteTask.added (i : InviteTask) : InviteAnswer :=
  .success s!"Added {i.typed} to the team. They sign in with their existing password."

/-- What the caller is told when an account was made. -/
def InviteTask.invited (i : InviteTask) : InviteAnswer :=
  .success
    s!"Invited {i.typed} — they've been emailed a link to set a password."

/-- The next statement of `team_add`. -/
def inviteStep (s : StaffState) (i : InviteTask) : StaffState × InviteTask :=
  match i.stage with
  | .arrived => (s, i.goTo (i.check (membershipOf s i.user i.organization)))
  | .admitted role =>
    match userByEmail s i.address with
    | some user => (s, i.goTo (.known user role))
    | none => (s, i.goTo (.unknown role))
  | .known user role =>
    match membershipOf s user.id i.organization with
    | some _ => (s, i.goTo (.answered (.emailError "That person is already on this team.")))
    | none => (s, i.goTo (.granting user false role))
  | .unknown role =>
    -- The address is unique.
    if s.users.rows.any fun u => u.email == i.address then
      (s, i.goTo (.answered .serverError))
    else
      ({ s with users := s.users.insert (i.newUser s.salts), salts := s.salts + 1 },
        i.goTo (.granting (i.newUser s.salts s.users.nextId) true role))
  | .granting user created role =>
    -- A user has one membership in an organization.
    match membershipOf s user.id i.organization with
    | some _ => (s, i.goTo (.answered .serverError))
    | none =>
      ({ s with memberships := s.memberships.insert fun id => ⟨id, user.id, i.organization, role⟩ },
        i.goTo (if created then .mailing user else .answered i.added))
  | .mailing user =>
    if i.delivers then
      ({ s with mailed := s.mailed ++ [(user.email, makeToken user s.now)] },
        i.goTo (.answered i.invited))
    else (s, i.goTo (.answered .serverError))
  | .answered _ => (s, i)

/-! ### Setting a password -/

/-- What whoever opens a set-password link gets to see. -/
inductive PasswordAnswer
  | invalidLink
  | formErrors
  | done
deriving Repr, DecidableEq

/-- Where `set_password_view` is. -/
inductive PasswordStage
  | arrived
  | allowed (user : User)
  | answered (answer : PasswordAnswer)
deriving Repr, DecidableEq

/-- A form posted to a set-password link: the user id it decodes to, and the new password, `none`
    when the form is not valid. -/
structure PasswordTask where
  uid : Option Nat
  token : PasswordToken
  password : Option String
  stage : PasswordStage
deriving Repr, DecidableEq

/-- The request at another stage. -/
def PasswordTask.goTo (stage : PasswordStage) (p : PasswordTask) : PasswordTask :=
  { p with stage := stage }

/-- `user.save()`: all columns, as they were read. -/
def saveUser (users : Table User) (user : User) : Table User :=
  users.update (fun u => u.id == user.id) fun u => { user with id := u.id }

/-- The next statement of `set_password_view`. -/
def passwordStep (s : StaffState) (p : PasswordTask) : StaffState × PasswordTask :=
  match p.stage with
  | .arrived =>
    match p.uid.bind s.users.get? with
    | none => (s, p.goTo (.answered .invalidLink))
    | some user =>
      if checkToken s user p.token then (s, p.goTo (.allowed user))
      else (s, p.goTo (.answered .invalidLink))
  | .allowed user =>
    match p.password with
    | none => (s, p.goTo (.answered .formErrors))
    | some secret =>
      ({ s with
          users := saveUser s.users { user with password := ⟨s.salts, some secret⟩ }
          salts := s.salts + 1 },
        p.goTo (.answered .done))
  | .answered _ => (s, p)

/-! ### Signing in -/

/-- What whoever signs in is told. -/
inductive LoginAnswer
  | redirect
  | formErrors
  | error (message : String)
  | success (message : String)
deriving Repr, DecidableEq

/-- Where `login_view` is. -/
inductive LoginStage
  | arrived
  | authenticated (user : User)
  | entering (user : User)
  | answered (answer : LoginAnswer)
deriving Repr, DecidableEq

/-- A login form posted from a browser session: the cleaned address and password, `none` when the
    form is not valid, and whether the throttle has locked the client out. -/
structure LoginTask where
  organization : Nat
  key : String
  form : Option (String × String)
  lockedOut : Bool
  stage : LoginStage
deriving Repr, DecidableEq

/-- The request at another stage. -/
def LoginTask.goTo (stage : LoginStage) (l : LoginTask) : LoginTask := { l with stage := stage }

/-- The message of a sign-in that is locked out. -/
def lockedOutMessage : String :=
  "Too many sign-in attempts. Please wait a few minutes and try again."

/-- Is the session signed in already, as a member of the organization? -/
def alreadyIn (s : StaffState) (key : String) (organization : Nat) : Bool :=
  ((signedIn s key).bind fun u => membershipOf s u.id organization).isSome

/-- `user.last_login = now`, saved alone. -/
def touchLogin (users : Table User) (user : Nat) (now : Time) : Table User :=
  users.update (fun u => u.id == user) fun u => { u with lastLogin := some now }

/-- The next statement of `login_view`. -/
def loginStep (s : StaffState) (l : LoginTask) : StaffState × LoginTask :=
  match l.stage with
  | .arrived =>
    if alreadyIn s l.key l.organization then (s, l.goTo (.answered .redirect))
    else if l.lockedOut then (s, l.goTo (.answered (.error lockedOutMessage)))
    else
      match l.form with
      | none => (s, l.goTo (.answered .formErrors))
      | some (email, password) =>
        match authenticate s email password with
        | none => (s, l.goTo (.answered (.error "Incorrect email or password.")))
        | some user => (s, l.goTo (.authenticated user))
  | .authenticated user =>
    match membershipOf s user.id l.organization with
    | none =>
      (s, l.goTo (.answered (.error "This account doesn't have access to this theater.")))
    | some _ => (s, l.goTo (.entering user))
  | .entering user =>
    ({ s with
        sessions := Function.update s.sessions l.key (some ⟨user.id, user.password⟩)
        users := touchLogin s.users user.id s.now },
      l.goTo (.answered (.success s!"Welcome back, {user.shortName}.")))
  | .answered _ => (s, l)

/-! ### The operator -/

/-- A new password for a user, saved alone. -/
def resetUser (users : Table User) (user : Nat) (password : Password) : Table User :=
  users.update (fun u => u.id == user) fun u => { u with password := password }

/-- The account `create_staff_user` works on: a new one, or the one of the address, whose password
    is left alone unless it is to be reset. -/
def operatorAccount (s : StaffState) (address password firstName lastName : String)
    (resetPassword : Bool) : StaffState × Nat :=
  match s.users.rows.find? fun u => u.email == address with
  | none =>
    ({ s with
        users := s.users.insert fun id =>
          ⟨id, address, firstName, lastName, true, ⟨s.salts, some password⟩, none⟩
        salts := s.salts + 1
        operated := s.users.nextId :: s.operated }, s.users.nextId)
  | some u =>
    if resetPassword then
      ({ s with
          users := resetUser s.users u.id ⟨s.salts, some password⟩
          salts := s.salts + 1
          operated := u.id :: s.operated }, u.id)
    else (s, u.id)

/-- `Membership.objects.update_or_create`. -/
def grantRole (s : StaffState) (user organization : Nat) (role : Role) : StaffState :=
  match membershipOf s user organization with
  | none =>
    { s with memberships := s.memberships.insert fun id => ⟨id, user, organization, role⟩ }
  | some m => { s with memberships := (saveRole s.team m.id role).memberships }

/-- `create_staff_user`, in one transaction. -/
def createStaffUser (s : StaffState) (email password : String) (organization : Nat) (role : Role)
    (firstName lastName : String) (resetPassword : Bool) : StaffState :=
  let account :=
    operatorAccount s (normalizeUserEmail email) password firstName lastName resetPassword
  grantRole account.1 account.2 organization role

/-! ### The system -/

/-- A request at the door. -/
inductive StaffTask
  | team (t : TeamTask)
  | invite (i : InviteTask)
  | setPassword (p : PasswordTask)
  | login (l : LoginTask)
deriving Repr, DecidableEq

/-- The next statement of a request. -/
def staffStep (s : StaffState) : StaffTask → StaffState × StaffTask
  | .team t =>
    ({ s with memberships := (teamStep s.team t).1.memberships }, .team (teamStep s.team t).2)
  | .invite i => ((inviteStep s i).1, .invite (inviteStep s i).2)
  | .setPassword p => ((passwordStep s p).1, .setPassword (passwordStep s p).2)
  | .login l => ((loginStep s l).1, .login (loginStep s l).2)

/-- The request has just arrived. -/
def StaffTask.Arrived : StaffTask → Prop
  | .team t => t.stage = .arrived
  | .invite i => i.stage = .arrived
  | .setPassword p => p.stage = .arrived
  | .login l => l.stage = .arrived

/-- What happens besides. -/
inductive StaffEvent
  | advance (d : Nat)
  | logout (key : String)
  | createStaffUser (email password : String) (organization : Nat) (role : Role)
      (firstName lastName : String) (resetPassword : Bool)

/-- Carry an event out. -/
def StaffEvent.exec : StaffEvent → StaffState → StaffState
  | .advance d, s => { s with now := s.now + d }
  | .logout key, s => { s with sessions := Function.update s.sessions key none }
  | .createStaffUser email password organization role firstName lastName resetPassword, s =>
    BoxOffice.createStaffUser s email password organization role firstName lastName resetPassword

/-- Nobody is signed in, no link is out, and every password is the operator's. -/
structure StaffState.Opening (s : StaffState) : Prop where
  sessions : ∀ key, s.sessions key = none
  mailed : s.mailed = []
  operated : ∀ u ∈ s.users.rows, u.password.secret.isSome = true → u.id ∈ s.operated

/-- Any number of requests of any kind, statement by statement. -/
def staffDoor : Processes StaffState StaffTask StaffEvent where
  init := StaffState.Opening
  start := StaffTask.Arrived
  step := staffStep
  admits _ _ := True
  env := StaffEvent.exec

/-! ### What a statement writes -/

/-- What one statement of a request can write. -/
inductive StaffWrites (s : StaffState) : StaffTask → StaffState → Prop
  | nothing {t : StaffTask} : StaffWrites s t s
  | team {t : TeamTask} :
      StaffWrites s (.team t) { s with memberships := (teamStep s.team t).1.memberships }
  | created {i : InviteTask} {role : Role} : i.stage = .unknown role →
      StaffWrites s (.invite i)
        { s with users := s.users.insert (i.newUser s.salts), salts := s.salts + 1 }
  | granted {i : InviteTask} {user : User} {created : Bool} {role : Role} :
      i.stage = .granting user created role → membershipOf s user.id i.organization = none →
      StaffWrites s (.invite i)
        { s with memberships := s.memberships.insert fun id =>
            ⟨id, user.id, i.organization, role⟩ }
  | mailed {i : InviteTask} {user : User} : i.stage = .mailing user →
      StaffWrites s (.invite i)
        { s with mailed := s.mailed ++ [(user.email, makeToken user s.now)] }
  | password {p : PasswordTask} {user : User} {secret : String} : p.stage = .allowed user →
      StaffWrites s (.setPassword p)
        { s with
          users := saveUser s.users { user with password := ⟨s.salts, some secret⟩ }
          salts := s.salts + 1 }
  | entered {l : LoginTask} {user : User} : l.stage = .entering user →
      StaffWrites s (.login l)
        { s with
          sessions := Function.update s.sessions l.key (some ⟨user.id, user.password⟩)
          users := touchLogin s.users user.id s.now }

/-- **A statement** writes one of these. -/
theorem staffStep_writes (s : StaffState) (t : StaffTask) : StaffWrites s t (staffStep s t).1 := by
  cases t with
  | team t => exact .team
  | invite i =>
    -- Of the statements of an invitation, four write; the others look something up.
    simp only [staffStep]
    unfold inviteStep
    split
    · exact .nothing
    · split <;> exact .nothing
    · split <;> exact .nothing
    · rename_i role hstage
      split_ifs
      · exact .nothing
      · exact .created hstage
    · rename_i user created role hstage
      split
      · exact .nothing
      · rename_i hnone
        exact .granted hstage hnone
    · rename_i user hstage
      split_ifs
      · exact .mailed hstage
      · exact .nothing
    · exact .nothing
  | setPassword p =>
    simp only [staffStep]
    unfold passwordStep
    split
    · split
      · exact .nothing
      · split_ifs <;> exact .nothing
    -- The link was checked in an earlier statement.
    · rename_i user hstage
      split
      · exact .nothing
      · exact .password hstage
    · exact .nothing
  | login l =>
    simp only [staffStep]
    unfold loginStep
    split
    · split_ifs
      · exact .nothing
      · exact .nothing
      -- The limit, the password and the membership are checked before anyone is let in.
      · split
        · exact .nothing
        · split <;> exact .nothing
    · split <;> exact .nothing
    · rename_i user hstage
      exact .entered hstage
    · exact .nothing

end BoxOffice

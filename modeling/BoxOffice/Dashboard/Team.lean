import BoxOffice.Relational.Table
import BoxOffice.Transition.Interleaving

namespace BoxOffice

open Relational Transition

/-!
# Dashboard — the team page

`team_update_role` and `team_remove` as the statements they issue: a read of the caller's
membership, a read of the target's, a count of the owners when an owner is to be demoted or
removed, and the write.  Nothing holds a lock between them, so any number of requests interleave
statement by statement (`teamDesk`).

* `touchesOwner` and `takesOwner` are the two questions behind the owner checks; the checks
  answer with `ownerGate` and `lastOwner`;
* `teamStep_cases` says once what a statement does to the table.
-/

/-- `Membership.Role`. -/
inductive Role
  | owner | manager | boxOffice | scanner
deriving Repr, DecidableEq

/-- `get_role_display`. -/
def Role.display : Role → String
  | .owner => "Owner"
  | .manager => "Manager"
  | .boxOffice => "Box office"
  | .scanner => "Scanner"

/-- A user's role within one organization. -/
structure Membership where
  id : Nat
  user : Nat
  organization : Nat
  role : Role
deriving Repr, DecidableEq

instance : Keyed Membership := ⟨Membership.id⟩

/-- `is_owner`. -/
def Membership.isOwner (m : Membership) : Bool := m.role == .owner

/-- `can_manage_events`: owners and managers. -/
def Membership.canManageEvents (m : Membership) : Bool := m.role == .owner || m.role == .manager

/-- The memberships, and the addresses of the users. -/
structure TeamDb where
  memberships : Table Membership
  email : Nat → String

/-- The owners of an organization. -/
def ownersOf (db : TeamDb) (organization : Nat) : List Membership :=
  db.memberships.rows.filter fun m => m.organization == organization && m.isOwner

/-- `_owner_count`. -/
def ownerCount (db : TeamDb) (organization : Nat) : Nat := (ownersOf db organization).length

/-! ### Requests -/

/-- A posted action on a membership.  A role that is not one of the choices is `none`. -/
inductive TeamAction
  | updateRole (pk : Nat) (newRole : Option Role)
  | remove (pk : Nat)
deriving Repr, DecidableEq

/-- The membership the action is about. -/
def TeamAction.pk : TeamAction → Nat
  | .updateRole pk _ => pk
  | .remove pk => pk

/-- Does the action grant, change or remove an owner role? -/
def TeamAction.touchesOwner (targetIsOwner : Bool) : TeamAction → Bool
  | .updateRole _ newRole => targetIsOwner || newRole == some .owner
  | .remove _ => targetIsOwner

/-- Does the action leave one owner fewer? -/
def TeamAction.takesOwner (targetIsOwner : Bool) : TeamAction → Bool
  | .updateRole _ newRole => targetIsOwner && newRole != some .owner
  | .remove _ => targetIsOwner

/-- The refusal of a caller who aims at itself. -/
def TeamAction.selfRefusal : TeamAction → String
  | .updateRole .. => "You can't change your own role."
  | .remove _ => "You can't remove yourself."

/-- The check that only owners touch the owner role. -/
def ownerGate (action : TeamAction) (actorIsOwner targetIsOwner : Bool) : Option String :=
  if action.touchesOwner targetIsOwner && !actorIsOwner then
    match action with
    | .updateRole .. => some "Only an owner can grant or change the owner role."
    | .remove _ => some "Only an owner can remove an owner."
  else none

/-- The check that an owner is left. -/
def lastOwner (action : TeamAction) (targetIsOwner : Bool) (count : Nat) : Option String :=
  if action.takesOwner targetIsOwner && decide (count ≤ 1) then
    match action with
    | .updateRole .. => some "This is the only owner — promote someone else first."
    | .remove _ => some "This is the only owner — you can't remove them."
  else none

/-- What the caller is told. -/
inductive TeamAnswer
  | forbidden (message : String)
  | notFound
  | error (message : String)
  | success (message : String)
  | unchanged
  | serverError
deriving Repr, DecidableEq

/-- Where a request is, with the rows it has read and the owners it has counted, if it counted. -/
inductive TeamStage
  | arrived
  | admitted (actor : Membership)
  | counting (actor target : Membership)
  | writing (actor target : Membership) (owners : Option Nat)
  | answered (answer : TeamAnswer)
deriving Repr, DecidableEq

/-- A request of a signed-in user at the host of an organization. -/
structure TeamTask where
  user : Nat
  organization : Nat
  action : TeamAction
  stage : TeamStage
deriving Repr, DecidableEq

/-- The checks between the read of the target and the count. -/
def checkTarget (action : TeamAction) (actor target : Membership) : TeamStage :=
  match action with
  | .updateRole _ none => .answered (.error "Unknown role.")
  | _ =>
    if target.id = actor.id then .answered (.error action.selfRefusal)
    else
      match ownerGate action actor.isOwner target.isOwner with
      | some message => .answered (.error message)
      | none =>
        -- Python counts only when the first half of the condition holds.
        if action.takesOwner target.isOwner then .counting actor target
        else .writing actor target none

/-- Set the role of a row. -/
def Membership.setRole (role : Role) (m : Membership) : Membership := { m with role := role }

/-- A new role keeps the primary key. -/
theorem Membership.setRole_id (role : Role) (m : Membership) : (m.setRole role).id = m.id := rfl

/-- `target.save(update_fields=["role"])`. -/
def saveRole (db : TeamDb) (pk : Nat) (role : Role) : TeamDb :=
  { db with
    memberships := db.memberships.update (fun m => m.id == pk) (Membership.setRole role)
      (Membership.setRole_id role) }

/-- The memberships after one of them got a role. -/
theorem mem_saveRole {db : TeamDb} {pk : Nat} {role : Role} {m : Membership} :
    m ∈ (saveRole db pk role).memberships.rows ↔
      ∃ x ∈ db.memberships.rows, (if x.id = pk then x.setRole role else x) = m := by
  show m ∈ (db.memberships.update _ _ (Membership.setRole_id role)).rows ↔ _
  rw [Table.mem_update]
  simp only [beq_iff_eq]

/-- The write.  A save of one column that hits no row raises; a delete that hits none does not. -/
def teamWrite (db : TeamDb) (action : TeamAction) (target : Membership) : TeamDb × TeamAnswer :=
  match action with
  | .updateRole _ none => (db, .unchanged)
  | .updateRole _ (some newRole) =>
    if target.role = newRole then (db, .unchanged)
    else
      -- Saving one column of a row that is gone is an error.
      match db.memberships.get? target.id with
      | none => (db, .serverError)
      | some _ =>
        (saveRole db target.id newRole,
          .success s!"Updated {db.email target.user} to {newRole.display}.")
  | .remove _ =>
    ({ db with memberships := db.memberships.delete fun m => m.id == target.id },
      .success s!"Removed {db.email target.user} from the team.")

/-- The request at another stage. -/
def TeamTask.goTo (stage : TeamStage) (t : TeamTask) : TeamTask := { t with stage := stage }

/-- The next statement of a request. -/
def teamStep (db : TeamDb) (t : TeamTask) : TeamDb × TeamTask :=
  match t.stage with
  | .arrived =>
    match db.memberships.rows.find? fun m =>
      m.user == t.user && m.organization == t.organization with
    | none =>
      (db, t.goTo (.answered (.forbidden "Your account doesn't have access to this theater.")))
    | some actor =>
      if actor.canManageEvents then (db, t.goTo (.admitted actor))
      else (db, t.goTo (.answered (.forbidden "Your role doesn't have access to this area.")))
  | .admitted actor =>
    match db.memberships.rows.find? fun m =>
        m.id == t.action.pk && m.organization == t.organization with
    | none => (db, t.goTo (.answered .notFound))
    | some target => (db, t.goTo (checkTarget t.action actor target))
  | .counting actor target =>
    match lastOwner t.action target.isOwner (ownerCount db t.organization) with
    | some message => (db, t.goTo (.answered (.error message)))
    | none => (db, t.goTo (.writing actor target (some (ownerCount db t.organization))))
  | .writing _ target _ =>
    ((teamWrite db t.action target).1, t.goTo (.answered (teamWrite db t.action target).2))
  | .answered _ => (db, t)

/-- Any number of requests of any users, over any memberships. -/
def teamDesk : Processes TeamDb TeamTask Empty where
  init _ := True
  start t := t.stage = .arrived
  step := teamStep
  admits _ _ := True
  env e := e.elim

/-! ### What a statement does -/

section Spec

variable {db : TeamDb} {t : TeamTask}

/-- **A statement** reads, or it is the write of a request that has passed its checks. -/
theorem teamStep_cases (db : TeamDb) (t : TeamTask) :
    (teamStep db t).1 = db ∨ ∃ actor target owners, t.stage = .writing actor target owners ∧
      (teamStep db t).1 = (teamWrite db t.action target).1 := by
  unfold teamStep
  split
  · split
    · exact .inl rfl
    · split <;> exact .inl rfl
  · split <;> exact .inl rfl
  · split <;> exact .inl rfl
  · exact .inr ⟨_, _, _, ‹_›, rfl⟩
  · exact .inl rfl

/-- **The write** changes the role of the target's row, deletes it, or does nothing. -/
theorem teamWrite_cases (db : TeamDb) (action : TeamAction) (target : Membership) :
    (teamWrite db action target).1 = db ∨
      (∃ newRole, action = .updateRole action.pk (some newRole) ∧
        (teamWrite db action target).1 = saveRole db target.id newRole) ∨
      (action = .remove action.pk ∧ (teamWrite db action target).1
        = { db with memberships := db.memberships.delete fun m => m.id == target.id }) := by
  unfold teamWrite
  split
  · exact .inl rfl
  · split
    · exact .inl rfl
    · split
      · exact .inl rfl
      · exact .inr (.inl ⟨_, rfl, rfl⟩)
  · exact .inr (.inr ⟨rfl, rfl⟩)

end Spec

end BoxOffice

import BoxOffice.Accounts.StaffDoor
import BoxOffice.Dashboard.LastOwner

namespace BoxOffice

open Relational Transition

/-!
# Accounts — only owners make owners

A manager may add teammates, change roles and remove people, but not where the owner role is
concerned.  `owners_unmoved` says what the checks of `team_add`, `team_update_role` and
`team_remove` come to when any number of their requests interleave with everything else at the
staff door: as long as no owner of a theater acts, and no request for it was already under way, its
owners stay who they are.
-/

/-- The theater a request changes the team of, and the user whose request it is. -/
def StaffTask.caller : StaffTask → Option (Nat × Nat)
  | .team t => some (t.user, t.organization)
  | .invite i => some (i.user, i.organization)
  | _ => none

/-- The request has not read anything yet, or it is over. -/
def StaffTask.Idle : StaffTask → Prop
  | .team t => t.stage = .arrived ∨ ∃ answer, t.stage = .answered answer
  | .invite i => i.stage = .arrived ∨ ∃ answer, i.stage = .answered answer
  | _ => True

/-- No owner of the organization takes a step, and the operator leaves its team alone. -/
def ManagersAlone (organization : Nat) (c : Config StaffState StaffTask) :
    Move StaffTask StaffEvent → Prop
  | .act i => ∀ t user, c.procs[i]? = some t → t.caller = some (user, organization) →
      ¬OwnerNow c.shared.team user organization
  | .env (.createStaffUser _ _ other _ _ _ _) => other ≠ organization
  | _ => True

/-- The row that was read, if it is still there, is of the same user and organization. -/
def ReadRow (s : StaffState) (x : Membership) : Prop :=
  x.id < s.memberships.nextId ∧ SameMember s.team x

/-- The target of a request belongs to the caller's organization. -/
def StaffTask.Aims (s : StaffState) : StaffTask → Prop
  | .team t =>
    match t.stage with
    | .counting _ target => ReadRow s target ∧ target.organization = t.organization
    | .writing _ target _ => ReadRow s target ∧ target.organization = t.organization
    | _ => True
  | _ => True

/-- The role that an invitation is about to grant. -/
def InviteStage.grants : InviteStage → Option Role
  | .admitted role => some role
  | .known _ role => some role
  | .unknown role => some role
  | .granting _ _ role => some role
  | _ => none

/-- A request of the organization is one of a caller who is no owner, about a target who is none,
    and does not grant the owner role. -/
def StaffTask.Modest (organization : Nat) (s : StaffState) : StaffTask → Prop
  | .team t =>
    t.organization = organization →
      match t.stage with
      | .admitted actor => actor.isOwner = false
      | .counting _ target => t.action.touchesOwner target.isOwner = false ∧
          ∀ m ∈ ownersOf s.team organization, m.id ≠ target.id
      | .writing _ target _ => t.action.touchesOwner target.isOwner = false ∧
          ∀ m ∈ ownersOf s.team organization, m.id ≠ target.id
      | _ => True
  | .invite i => i.organization = organization → i.stage.grants ≠ some .owner
  | _ => True

section Owners

variable {s s' : StaffState} {t k : StaffTask} {x : Membership} {n : Nat}

/-! ### Rows that were read -/

/-- Membership rows stay with their user and organization, and new ones have new keys. -/
structure RowsKept (s s' : StaffState) : Prop where
  next : s.memberships.nextId ≤ s'.memberships.nextId
  rows : ∀ m' ∈ s'.memberships.rows, s.memberships.nextId ≤ m'.id ∨
    ∃ m ∈ s.memberships.rows, m.id = m'.id ∧ m.organization = m'.organization ∧ m.user = m'.user

/-- The rows are kept while the memberships stay. -/
theorem RowsKept.of_eq (h : s'.memberships = s.memberships) : RowsKept s s' :=
  ⟨h ▸ le_rfl, fun m hm => .inr ⟨m, h ▸ hm, rfl, rfl, rfl⟩⟩

/-- What was read stays so. -/
theorem ReadRow.kept (h : ReadRow s x) (hk : RowsKept s s') : ReadRow s' x := by
  refine ⟨h.1.trans_le hk.next, fun m' hm' hid => ?_⟩
  rcases hk.rows m' hm' with hnew | ⟨m, hm, hsame, horg, huser⟩
  · have hold := h.1
    omega
  · have hx := h.2 m hm (hsame.trans hid)
    exact ⟨horg ▸ hx.1, huser ▸ hx.2⟩

/-- A stored row is what was read. -/
theorem ReadRow.of_mem (hx : x ∈ s.memberships.rows) : ReadRow s x :=
  ⟨s.memberships.fresh x hx, SameMember.of_mem hx⟩

/-- A new role keeps the rows. -/
theorem saveRole_rowsKept (s : StaffState) (pk : Nat) (role : Role) :
    RowsKept s { s with memberships := (saveRole s.team pk role).memberships } := by
  refine ⟨le_rfl, fun m' hm' => .inr ?_⟩
  obtain ⟨m, hm, rfl⟩ := mem_saveRole.mp hm'
  exact ⟨m, hm, by split_ifs <;> rfl, by split_ifs <;> rfl, by split_ifs <;> rfl⟩

/-- A new membership keeps the rows. -/
theorem addMembership_rowsKept (s : StaffState) (user organization : Nat) (role : Role) :
    RowsKept s { s with memberships := s.memberships.insert fun id =>
      ⟨id, user, organization, role⟩ } := by
  refine ⟨Nat.le_succ _, fun m' hm' => ?_⟩
  rcases List.mem_append.mp hm' with hm' | hm'
  · exact .inr ⟨m', hm', rfl, rfl, rfl⟩
  · rw [List.mem_singleton.mp hm']
    exact .inl le_rfl

/-- So does the write of a team request. -/
theorem teamWrite_rowsKept (s : StaffState) (action : TeamAction) (target : Membership) :
    RowsKept s { s with memberships := (teamWrite s.team action target).1.memberships } := by
  rcases teamWrite_cases s.team action target with h | ⟨newRole, -, h⟩ | ⟨-, h⟩
  · exact .of_eq (congrArg TeamDb.memberships h)
  · rw [h]
    exact saveRole_rowsKept s target.id newRole
  · refine ⟨(congrArg (fun db => db.memberships.nextId) h).ge, fun m' hm' => .inr ?_⟩
    dsimp only at hm'
    rw [h] at hm'
    exact ⟨m', (Table.mem_delete.mp hm').1, rfl, rfl, rfl⟩

/-- So does every request. -/
theorem StaffWrites.rowsKept (hw : StaffWrites s t s') : RowsKept s s' := by
  cases hw with
  | @team t =>
    rcases teamStep_cases s.team t with hread | ⟨actor, target, owners, -, hwrite⟩
    · exact .of_eq (congrArg TeamDb.memberships hread)
    · have h := teamWrite_rowsKept s t.action target
      rw [← hwrite] at h
      exact h
  | granted hstage hnone => exact addMembership_rowsKept s _ _ _
  | nothing => exact .of_eq rfl
  | created h => exact .of_eq rfl
  | mailed h => exact .of_eq rfl
  | password h => exact .of_eq rfl
  | entered h => exact .of_eq rfl

/-- The operator's account writes no membership. -/
theorem operatorAccount_memberships (s : StaffState)
    (address password firstName lastName : String) (resetPassword : Bool) :
    (operatorAccount s address password firstName lastName resetPassword).1.memberships
      = s.memberships := by
  unfold operatorAccount
  split
  · rfl
  · split_ifs <;> rfl

/-- Granting a role keeps the rows. -/
theorem grantRole_rowsKept (s : StaffState) (user organization : Nat) (role : Role) :
    RowsKept s (grantRole s user organization role) := by
  unfold grantRole
  split
  · exact addMembership_rowsKept s user organization role
  · exact saveRole_rowsKept s _ role

/-- Rows kept after memberships stayed are kept. -/
theorem RowsKept.trans {s'' : StaffState} (h : s'.memberships = s.memberships)
    (h' : RowsKept s' s'') : RowsKept s s'' := by
  obtain ⟨hnext, hrows⟩ := h'
  rw [h] at hnext hrows
  exact ⟨hnext, hrows⟩

/-- Everything else keeps the rows too. -/
theorem StaffEvent.exec_rowsKept (e : StaffEvent) (s : StaffState) : RowsKept s (e.exec s) := by
  cases e with
  | advance d => exact .of_eq rfl
  | logout key => exact .of_eq rfl
  | createStaffUser email password organization role firstName lastName resetPassword =>
    exact .trans (operatorAccount_memberships s _ password firstName lastName resetPassword)
      (grantRole_rowsKept _ _ organization role)

/-! ### What requests have read -/

/-- A request keeps aiming at its own organization. -/
theorem StaffTask.Aims.kept (h : t.Aims s) (hk : RowsKept s s') : t.Aims s' := by
  cases t with
  | team t =>
    obtain ⟨user, organization, action, stage⟩ := t
    cases stage with
    | counting actor target => exact ⟨h.1.kept hk, h.2⟩
    | writing actor target owners => exact ⟨h.1.kept hk, h.2⟩
    | arrived => trivial
    | admitted actor => trivial
    | answered answer => trivial
  | invite i => trivial
  | setPassword p => trivial
  | login l => trivial

/-- What `team_update_role` and `team_remove` go on with after their target is read. -/
theorem checkTarget_cases (action : TeamAction) (actor target : Membership) :
    (∃ answer, checkTarget action actor target = .answered answer) ∨
      ownerGate action actor.isOwner target.isOwner = none ∧
        (checkTarget action actor target = .counting actor target ∨
          checkTarget action actor target = .writing actor target none) := by
  unfold checkTarget
  split
  · exact .inl ⟨_, rfl⟩
  · split_ifs
    · exact .inl ⟨_, rfl⟩
    · split
      · exact .inl ⟨_, rfl⟩
      · rename_i hgate
        exact .inr ⟨hgate, by simp⟩
    · split
      · exact .inl ⟨_, rfl⟩
      · rename_i hgate
        exact .inr ⟨hgate, by simp⟩

/-- The stages of a request of the team page. -/
theorem teamStep_stage (db : TeamDb) (t : TeamTask) :
    (∃ answer, (teamStep db t).2 = t.goTo (.answered answer)) ∨
      (∃ actor ∈ db.memberships.rows, t.stage = .arrived ∧ actor.user = t.user ∧
        actor.organization = t.organization ∧ (teamStep db t).2 = t.goTo (.admitted actor)) ∨
      (∃ actor target, t.stage = .admitted actor ∧ target ∈ db.memberships.rows ∧
        target.organization = t.organization ∧
        ownerGate t.action actor.isOwner target.isOwner = none ∧
        ((teamStep db t).2 = t.goTo (.counting actor target) ∨
          (teamStep db t).2 = t.goTo (.writing actor target none))) ∨
      (∃ actor target owners, t.stage = .counting actor target ∧
        (teamStep db t).2 = t.goTo (.writing actor target owners)) := by
  cases hstage : t.stage with
  | arrived =>
    simp only [teamStep, hstage]
    cases hfind : db.memberships.rows.find? fun m =>
        m.user == t.user && m.organization == t.organization with
    | none => exact .inl ⟨_, rfl⟩
    | some actor =>
      have hp := List.find?_some hfind
      rw [Bool.and_eq_true, beq_iff_eq, beq_iff_eq] at hp
      dsimp only
      split_ifs
      · exact .inr (.inl ⟨actor, List.mem_of_find?_eq_some hfind, trivial, hp.1, hp.2, rfl⟩)
      · exact .inl ⟨_, rfl⟩
  | admitted actor =>
    simp only [teamStep, hstage]
    cases hfind : db.memberships.rows.find? fun m =>
        m.id == t.action.pk && m.organization == t.organization with
    | none => exact .inl ⟨_, rfl⟩
    | some target =>
      have hp := List.find?_some hfind
      rw [Bool.and_eq_true, beq_iff_eq, beq_iff_eq] at hp
      dsimp only
      -- The gate has let the request through, or it is answered.
      rcases checkTarget_cases t.action actor target with ⟨answer, h⟩ | ⟨hgate, h⟩
      · exact .inl ⟨answer, by rw [h]⟩
      · refine .inr (.inr (.inl ⟨actor, target, rfl, List.mem_of_find?_eq_some hfind, hp.2, hgate,
          ?_⟩))
        rcases h with h | h <;> simp [h]
  | counting actor target =>
    simp only [teamStep, hstage]
    cases lastOwner t.action target.isOwner (ownerCount db t.organization) with
    | some message => exact .inl ⟨_, rfl⟩
    | none => exact .inr (.inr (.inr ⟨actor, target, _, rfl, rfl⟩))
  | writing actor target owners =>
    simp only [teamStep, hstage]
    -- What is written answers the request.
    exact .inl ⟨_, rfl⟩
  | answered answer =>
    refine .inl ⟨answer, ?_⟩
    simp only [teamStep, hstage]
    rw [TeamTask.goTo, ← hstage]

/-- **The step.** A request aims at its own organization. -/
theorem staffStep_aims (ht : t.Aims s) : (staffStep s t).2.Aims (staffStep s t).1 := by
  have hk := (staffStep_writes s t).rowsKept
  cases t with
  | team t =>
    simp only [staffStep] at hk ⊢
    rcases teamStep_stage s.team t with ⟨answer, h⟩ | ⟨actor, -, -, -, -, h⟩ |
      ⟨actor, target, -, hmem, horg, -, h⟩ | ⟨actor, target, owners, hstage, h⟩
    · rw [h]
      trivial
    · rw [h]
      trivial
    · have hread := (ReadRow.of_mem hmem).kept hk
      rcases h with h | h <;> rw [h] <;> exact ⟨hread, horg⟩
    · rw [h]
      have hcounting : ReadRow s target ∧ target.organization = t.organization := by
        simpa only [StaffTask.Aims, hstage] using ht
      exact ⟨hcounting.1.kept hk, hcounting.2⟩
  | invite i => trivial
  | setPassword p => trivial
  | login l => trivial

/-- Requests aim at rows of their own theater. -/
theorem staffDoor_aims :
    Interference staffDoor (fun _ _ => True) (fun _ => True) (fun s t => t.Aims s) where
  start := fun s t _ ht => by
    cases t with
    | team t =>
      have hstage : t.stage = .arrived := ht
      simp only [StaffTask.Aims, hstage]
    | invite i => trivial
    | setPassword p => trivial
    | login l => trivial
  step := fun _ _ _ ht _ => ⟨trivial, staffStep_aims ht⟩
  stable := fun s t _ _ _ _ hk => hk.kept (staffStep_writes s t).rowsKept
  env := fun _ _ _ _ => trivial
  envStable := fun s e _ _ _ ht => ht.kept (e.exec_rowsKept s)

/-! ### The owners -/

/-- An action that touches no owner role does not name the owner role. -/
theorem touchesOwner_false {action : TeamAction} {b : Bool} (h : action.touchesOwner b = false) :
    action.touchesOwner false = false ∧ ∀ pk, action ≠ .updateRole pk (some .owner) := by
  cases action with
  | updateRole pk newRole =>
    obtain ⟨-, hrole⟩ := Bool.or_eq_false_iff.mp h
    refine ⟨hrole, fun pk' heq => ?_⟩
    cases heq
    cases hrole
  | remove pk => exact ⟨rfl, fun pk' heq => by cases heq⟩

/-- The write of a request does not move the owners of a theater that is not its own. -/
theorem teamWrite_owners_other {action : TeamAction} (hread : ReadRow s x)
    (horg : x.organization ≠ n) : ownersOf (teamWrite s.team action x).1 n = ownersOf s.team n :=
  ownersOf_teamWrite fun row hrow hid => .inr ((hread.2 row hrow hid).1 ▸ horg)

/-- Nor does that of a modest request. -/
theorem teamWrite_owners_modest {action : TeamAction} (hread : ReadRow s x)
    (horg : x.organization = n) (htouches : action.touchesOwner x.isOwner = false)
    (hother : ∀ m ∈ ownersOf s.team n, m.id ≠ x.id) :
    ownersOf (teamWrite s.team action x).1 n = ownersOf s.team n := by
  refine ownersOf_teamWrite fun row hrow hid => .inl ?_
  cases howner : row.isOwner with
  | false => exact (touchesOwner_false htouches).1
  | true =>
    -- The target would be one of the owners.
    have hmem : row ∈ ownersOf s.team n :=
      mem_ownersOf.mpr ⟨hrow, (hread.2 row hrow hid).1.trans horg, howner⟩
    exact absurd hid (hother row hmem)

/-- A modest request leaves the owners of the organization alone. -/
theorem staffStep_owners (haims : t.Aims s) (hmodest : t.Modest n s) :
    ownersOf (staffStep s t).1.team n = ownersOf s.team n := by
  have hw := staffStep_writes s t
  generalize (staffStep s t).1 = s' at hw
  cases hw with
  | @team t =>
    show (teamStep s.team t).1.memberships.rows.filter _ = s.team.memberships.rows.filter _
    rcases teamStep_cases s.team t with hread | ⟨actor, target, owners, hstage, hwrite⟩
    · rw [hread]
    -- The row that is written is the one that was checked, and its caller no owner.
    · obtain ⟨hrow, horg⟩ : ReadRow s target ∧ target.organization = t.organization := by
        simpa only [StaffTask.Aims, hstage] using haims
      have howners : ownersOf (teamWrite s.team t.action target).1 n = ownersOf s.team n := by
        by_cases hn : t.organization = n
        · have hm := hmodest hn
          simp only [hstage] at hm
          exact teamWrite_owners_modest hrow (horg.trans hn) hm.1 hm.2
        · exact teamWrite_owners_other hrow (horg ▸ hn)
      rw [← hwrite] at howners
      exact howners
  | @granted i user created role hstage hnone =>
    show (s.memberships.rows ++ [_]).filter _ = s.memberships.rows.filter _
    rw [List.filter_append, List.filter_cons_of_neg, List.filter_nil, List.append_nil]
    by_cases hn : i.organization = n
    · have hm := hmodest hn
      rw [hstage] at hm
      -- The role that is granted is not that of an owner.
      have hrole : role ≠ .owner := fun h => hm (congrArg some h)
      simpa [Membership.isOwner] using fun _ => hrole
    · simpa using fun h => absurd h hn
  | nothing => rfl
  | created h => rfl
  | mailed h => rfl
  | password h => rfl
  | entered h => rfl

/-- A role that is given out elsewhere. -/
theorem saveRole_owners_other {db : TeamDb} {pk : Nat} {role : Role}
    (h : ∀ row ∈ db.memberships.rows, row.id = pk → row.organization ≠ n) :
    ownersOf (saveRole db pk role) n = ownersOf db n := by
  show (db.memberships.update (fun m => m.id == pk) (Membership.setRole role)
    (Membership.setRole_id role)).rows.filter _ = db.memberships.rows.filter _
  refine Table.filter_update_of_mem fun row hrow hid => ?_
  have hne : (row.organization == n) = false :=
    beq_eq_false_iff_ne.mpr (h row hrow (beq_iff_eq.mp hid))
  have hne' : ((row.setRole role).organization == n) = false := hne
  rw [hne, hne', Bool.false_and, Bool.false_and]
  exact ⟨rfl, rfl⟩

/-- Whatever else happens leaves the owners of the organization alone. -/
theorem StaffEvent.exec_owners {c : Config StaffState StaffTask} {e : StaffEvent}
    (he : ManagersAlone n c (.env e)) : ownersOf (e.exec s).team n = ownersOf s.team n := by
  cases e with
  | advance d => rfl
  | logout key => rfl
  | createStaffUser email password other role firstName lastName resetPassword =>
    have hother : other ≠ n := he
    have hsame := operatorAccount_memberships s (normalizeUserEmail email) password firstName
      lastName resetPassword
    show (grantRole _ _ other role).memberships.rows.filter _ = s.memberships.rows.filter _
    rw [← hsame]
    unfold grantRole
    split
    · show (_ ++ [_]).filter _ = _
      rw [List.filter_append, List.filter_cons_of_neg (by simpa using fun h => absurd h hother),
        List.filter_nil, List.append_nil]
    · rename_i m hm
      have hp := List.find?_some hm
      rw [Bool.and_eq_true, beq_iff_eq, beq_iff_eq] at hp
      refine saveRole_owners_other fun row hrow hid => ?_
      obtain rfl := Table.eq_of_key_eq hrow (List.mem_of_find?_eq_some hm) hid
      exact fun h => hother (hp.2.symm.trans h)

/-! ### Modest requests stay modest -/

/-- While the owners do not change. -/
theorem StaffTask.Modest.kept (h : t.Modest n s)
    (howners : ownersOf s'.team n = ownersOf s.team n) : t.Modest n s' := by
  cases t with
  | team t =>
    intro hn
    have hs := h hn
    cases hstage : t.stage with
    | counting actor target =>
      simp only [hstage] at hs ⊢
      rwa [howners]
    | writing actor target owners =>
      simp only [hstage] at hs ⊢
      rwa [howners]
    | admitted actor => simpa only [hstage] using hs
    | arrived => trivial
    | answered answer => trivial
  | invite i => exact h
  | setPassword p => trivial
  | login l => trivial

/-- A request that was not under way is modest. -/
theorem StaffTask.Idle.modest (h : t.Idle) : t.Modest n s := by
  cases t with
  | team t =>
    intro _
    rcases h with h | ⟨answer, h⟩ <;> simp only [h]
  | invite i =>
    intro _
    rcases h with h | ⟨answer, h⟩ <;> simp [h, InviteStage.grants]
  | setPassword p => trivial
  | login l => trivial

/-- A member who is no owner has another role. -/
theorem not_owner_of_mem {actor : Membership} {user : Nat} (hactor : actor ∈ s.memberships.rows)
    (huser : actor.user = user) (horg : actor.organization = n)
    (hno : ¬OwnerNow s.team user n) : actor.isOwner = false := by
  rw [← Bool.not_eq_true]
  exact fun howner => hno ⟨actor, hactor, huser, horg, howner⟩

/-- What a manager may assign. -/
theorem assignableRoles_modest {actor : Membership} {role : Role} (hactor : actor.isOwner = false)
    (h : role ∈ assignableRoles actor) : role ≠ .owner := by
  unfold assignableRoles at h
  rw [hactor, if_neg Bool.false_ne_true] at h
  rintro rfl
  simp at h

/-- **A team request** without an owner behind it stays modest. -/
theorem teamStep_modest {t : TeamTask}
    (hno : t.organization = n → ¬OwnerNow s.team t.user n) (h : StaffTask.Modest n s (.team t)) :
    StaffTask.Modest n s (.team (teamStep s.team t).2) := by
  rcases teamStep_stage s.team t with ⟨answer, hnext⟩ | ⟨actor, hmem, -, huser, horg, hnext⟩ |
    ⟨actor, target, hstage, hmem, horg, hgate, hnext⟩ | ⟨actor, target, owners, hstage, hnext⟩
  · rw [hnext]
    exact fun _ => trivial
  -- The actor that was loaded is the caller, who is no owner.
  · rw [hnext]
    exact fun hn => not_owner_of_mem hmem huser (horg.trans hn) (hno hn)
  · -- The gate has let a caller through who is no owner.
    have hmodest : t.organization = n → t.action.touchesOwner target.isOwner = false ∧
        ∀ m ∈ ownersOf s.team n, m.id ≠ target.id := fun hn => by
      have hactor := h hn
      simp only [hstage] at hactor
      have htouches : t.action.touchesOwner target.isOwner = false := by
        rw [← Bool.not_eq_true]
        intro htouches
        have := ownerGate_none hgate htouches
        rw [hactor] at this
        cases this
      refine ⟨htouches, fun m hm hid => ?_⟩
      obtain ⟨hrow, -, howner⟩ := mem_ownersOf.mp hm
      obtain rfl := Table.eq_of_key_eq hrow hmem hid
      rw [howner] at htouches
      cases haction : t.action with
      | updateRole pk newRole => simp [haction, TeamAction.touchesOwner] at htouches
      | remove pk => simp [haction, TeamAction.touchesOwner] at htouches
    rcases hnext with hnext | hnext <;> rw [hnext] <;> exact hmodest
  · rw [hnext]
    intro hn
    have hs := h hn
    simp only [hstage] at hs
    exact hs

/-- An invitation grants the role of its form, or none any more. -/
theorem inviteStep_grants (s : StaffState) (i : InviteTask) :
    (inviteStep s i).2.organization = i.organization ∧
      ((inviteStep s i).2.stage.grants = none ∨
        (inviteStep s i).2.stage.grants = i.stage.grants ∨
        ∃ actor ∈ s.memberships.rows, actor.user = i.user ∧ actor.organization = i.organization ∧
          ∃ role ∈ assignableRoles actor, (inviteStep s i).2.stage.grants = some role) := by
  cases hstage : i.stage with
  | arrived =>
    simp only [inviteStep, hstage]
    refine ⟨rfl, ?_⟩
    -- The role is looked up among those that the actor may give, and nowhere else.
    cases hfind : membershipOf s i.user i.organization with
    | none => exact .inl rfl
    | some actor =>
      have hp := List.find?_some hfind
      rw [Bool.and_eq_true, beq_iff_eq, beq_iff_eq] at hp
      simp only [InviteTask.check]
      split_ifs
      · split
        · split_ifs with hrole
          · exact .inr (.inr ⟨actor, List.mem_of_find?_eq_some hfind, hp.1, hp.2, _, hrole, rfl⟩)
          · exact .inl rfl
        · exact .inl rfl
      · exact .inl rfl
  | admitted role =>
    simp only [inviteStep, hstage]
    -- Later statements only pass it on.
    split <;> exact ⟨rfl, .inr (.inl rfl)⟩
  | known user role =>
    simp only [inviteStep, hstage]
    split
    · exact ⟨rfl, .inl rfl⟩
    · exact ⟨rfl, .inr (.inl rfl)⟩
  | unknown role =>
    simp only [inviteStep, hstage]
    split_ifs
    · exact ⟨rfl, .inl rfl⟩
    · exact ⟨rfl, .inr (.inl rfl)⟩
  | granting user created role =>
    simp only [inviteStep, hstage]
    split
    · exact ⟨rfl, .inl rfl⟩
    · cases created <;> exact ⟨rfl, .inl rfl⟩
  | mailing user =>
    simp only [inviteStep, hstage]
    split_ifs <;> exact ⟨rfl, .inl rfl⟩
  | answered answer =>
    simp only [inviteStep, hstage]
    exact ⟨trivial, .inl rfl⟩

/-- An invitation without an owner behind it stays modest. -/
theorem inviteStep_modest {i : InviteTask} (hno : i.organization = n → ¬OwnerNow s.team i.user n)
    (h : StaffTask.Modest n s (.invite i)) :
    StaffTask.Modest n s (.invite (inviteStep s i).2) := by
  obtain ⟨horg, hgrants⟩ := inviteStep_grants s i
  intro hn
  rw [horg] at hn
  rcases hgrants with hnone | hsame | ⟨actor, hmem, huser, hactor, role, hrole, hnew⟩
  · rw [hnone]
    simp
  · rw [hsame]
    exact h hn
  · rw [hnew]
    have howner := not_owner_of_mem hmem huser (hactor.trans hn) (hno hn)
    exact fun heq => assignableRoles_modest howner hrole (Option.some.inj heq)

/-- **One step** of a request whose caller is no owner. -/
theorem staffStep_modest (hno : ∀ user, t.caller = some (user, n) → ¬OwnerNow s.team user n)
    (haims : t.Aims s) (h : t.Modest n s) : (staffStep s t).2.Modest n (staffStep s t).1 := by
  have howners := staffStep_owners haims h
  refine StaffTask.Modest.kept ?_ howners
  cases t with
  | team t => exact teamStep_modest (fun hn => hno t.user (by rw [← hn]; rfl)) h
  | invite i => exact inviteStep_modest (fun hn => hno i.user (by rw [← hn]; rfl)) h
  | setPassword p => trivial
  | login l => trivial

/-! ### Every interleaving -/

/-- **Owners are unmoved.** While no owner of a theater takes a step, nor the operator gives out
    roles there, its owners stay exactly who they are, whatever its managers and everybody else do
    at once; provided that no request for its team was already under way. -/
theorem owners_unmoved {c c' : Config StaffState StaffTask} {as : List (Move StaffTask StaffEvent)}
    (h : Reachable staffDoor.system c)
    (hquiet : ∀ t ∈ c.procs, ∀ user, t.caller = some (user, n) → t.Idle)
    (hr : Run (staffDoor.system.restrict (ManagersAlone n)) c as c') :
    ownersOf c'.shared.team n = ownersOf c.shared.team n := by
  have haims := staffDoor_aims.reachable (fun _ _ => trivial) h
  -- The requests under way at the start ask nothing of this theater's team.
  have hstart : ∀ t ∈ c.procs, t.Modest n c.shared := fun t ht => by
    by_cases hcaller : ∃ user, t.caller = some (user, n)
    · obtain ⟨user, hcaller⟩ := hcaller
      exact (hquiet t ht user hcaller).modest
    · cases t with
      | team t => exact fun hn => absurd ⟨t.user, by rw [← hn]; rfl⟩ hcaller
      | invite i => exact fun hn => absurd ⟨i.user, by rw [← hn]; rfl⟩ hcaller
      | setPassword p => trivial
      | login l => trivial
  refine (hr.invariant (I := fun d => Asserted (fun _ => True) (fun s t => StaffTask.Aims s t) d ∧
    (∀ t ∈ d.procs, t.Modest n d.shared) ∧ ownersOf d.shared.team n = ownersOf c.shared.team n)
    ⟨haims, hstart, rfl⟩ fun d a d' hd hs => ?_).2.2
  obtain ⟨hda, hdm, hdo⟩ := hd
  refine ⟨staffDoor_aims.preserves hs.1 hda, ?_⟩
  obtain ⟨hs, halone⟩ := hs
  rcases Processes.step_cases hs with ⟨t, ht, -, rfl⟩ | ⟨i, t, hi, -, rfl, rfl⟩ | ⟨e, -, rfl, rfl⟩
  -- A request that has just arrived is idle.
  · refine ⟨fun k hk => ?_, hdo⟩
    rcases List.mem_append.mp hk with hk | hk
    · exact hdm k hk
    · rw [List.mem_singleton.mp hk]
      have harrived : t.Arrived := ht
      refine StaffTask.Idle.modest ?_
      cases t with
      | team t => exact .inl harrived
      | invite i => exact .inl harrived
      | setPassword p => trivial
      | login l => trivial
  -- A step of somebody who is no owner there.
  · have hmem := List.mem_of_getElem? hi
    have howners := staffStep_owners (hda.2 t hmem) (hdm t hmem)
    refine ⟨fun k hk => ?_, howners.trans hdo⟩
    rcases List.mem_or_eq_of_mem_set hk with hk | rfl
    · exact (hdm k hk).kept howners
    · exact staffStep_modest (fun user => halone t user hi) (hda.2 t hmem) (hdm t hmem)
  -- The operator, who gives out no roles there.
  · have howners := StaffEvent.exec_owners (s := d.shared) halone
    exact ⟨fun k hk => (hdm k hk).kept howners, howners.trans hdo⟩

end Owners

/-! ### A manager on her own -/

/-- Ada owns the theater, Mia manages it and Cy runs its box office. -/
def oneManager : StaffState where
  users := .empty
  memberships := ((Table.empty.insert fun id => ⟨id, 11, 1, .owner⟩).insert fun id =>
    ⟨id, 12, 1, .manager⟩).insert fun id => ⟨id, 13, 1, .boxOffice⟩
  mailed := []
  sessions := fun _ => none
  salts := 0
  now := 0
  operated := []

/-- Mia makes Cy a manager, tries to make him an owner, to remove Ada, and to add an owner; the
    requests overlap. -/
def miaTries : List (Move StaffTask StaffEvent) :=
  [.spawn (.team (teamRequest 12 (.updateRole 3 (some .manager)))),
    .spawn (.team (teamRequest 12 (.updateRole 3 (some .owner)))),
    .spawn (.team (teamRequest 12 (.remove 1))),
    .spawn (.invite ⟨12, 1, some "bea@example.com", some .owner, "", "", true, .arrived⟩),
    .act 0, .act 1, .act 2, .act 3, .act 0, .act 1, .act 2, .act 0]

instance (db : TeamDb) (user organization : Nat) : Decidable (OwnerNow db user organization) :=
  inferInstanceAs (Decidable (∃ m ∈ db.memberships.rows,
    m.user = user ∧ m.organization = organization ∧ m.isOwner = true))

/-- Nobody who has sent a request owns the theater. -/
theorem managersAlone_act {c : Config StaffState StaffTask} {n i : Nat}
    (h : ∀ t ∈ c.procs, ∀ p ∈ t.caller, ¬OwnerNow c.shared.team p.1 n) :
    ManagersAlone n c (.act i) :=
  fun t _ ht hcaller => h t (List.mem_of_getElem? ht) _ hcaller

/-- Mia makes Cy a manager, and none of her other requests moves the owner. -/
theorem owners_unmoved_oneManager :
    ((staffDoor.perform miaTries ⟨oneManager, []⟩).shared.memberships.rows.map
      fun m => (m.user, m.role)) = [(11, .owner), (12, .manager), (13, .manager)] ∧
    ownersOf (staffDoor.perform miaTries ⟨oneManager, []⟩).shared.team 1
      = [⟨1, 11, 1, .owner⟩] := by
  have hopening : oneManager.Opening := ⟨fun _ => rfl, rfl, by decide⟩
  have hrun : Run (staffDoor.system.restrict (ManagersAlone 1)) ⟨oneManager, []⟩ miaTries
      (staffDoor.perform miaTries ⟨oneManager, []⟩) := by
    refine Processes.run_perform_restrict ?_ ?_
    · exact ⟨rfl, rfl, rfl, rfl, ⟨_, rfl, trivial⟩, ⟨_, rfl, trivial⟩, ⟨_, rfl, trivial⟩,
        ⟨_, rfl, trivial⟩, ⟨_, rfl, trivial⟩, ⟨_, rfl, trivial⟩, ⟨_, rfl, trivial⟩,
        ⟨_, rfl, trivial⟩, trivial⟩
    · exact ⟨trivial, trivial, trivial, trivial, managersAlone_act (by decide),
        managersAlone_act (by decide), managersAlone_act (by decide), managersAlone_act (by decide),
        managersAlone_act (by decide), managersAlone_act (by decide), managersAlone_act (by decide),
        managersAlone_act (by decide), trivial⟩
  have hreach : Reachable staffDoor.system ⟨oneManager, []⟩ := .of_init ⟨hopening, rfl⟩
  exact ⟨by decide, owners_unmoved hreach (by simp) hrun⟩

end BoxOffice

import BoxOffice.Dashboard.Team

namespace BoxOffice

open Relational Transition

/-!
# Dashboard — the last owner

The owner checks of a request are made on what it has read.  When the caller's and the target's
roles are still as they were read, and there are no fewer owners than were counted, at the moment
of its write (`AsRead`), an organization keeps an owner and only owners change who owns it:
`last_owner_protected`, over every interleaving of any number of requests.

* `TeamTask.Reads` is what the rows that were read are, `TeamTask.Checked` what the checks have
  said of them; `team_interference` carries both over every interleaving;
* `teamStep_owners` is the step: the checks of what was read, and `AsRead`, guard the owners.

Nothing keeps what was read.  Two owners who remove each other at once both count two owners, and
leave none: `owners_remove_each_other`.
-/

/-- Does the request issue its write at all?  A role that is the one read is not written. -/
def TeamAction.writes (target : Membership) : TeamAction → Bool
  | .updateRole _ newRole => newRole != some target.role
  | .remove _ => true

/-- What a request that is about to write has read is so now: the target is an owner if and only if
    it was one, an action on an owner role finds the caller's role as it was, and there are no
    fewer owners than it has counted. -/
def AsRead (db : TeamDb) (t : TeamTask) : Prop :=
  match t.stage with
  | .writing actor target owners =>
    t.action.writes target = true →
      (∀ row ∈ db.memberships.rows, row.id = target.id → row.isOwner = target.isOwner) ∧
      (t.action.touchesOwner target.isOwner = true →
        (db.memberships.get? actor.id).map Membership.isOwner = some actor.isOwner) ∧
      ∀ n ∈ owners, n ≤ ownerCount db t.organization
  | _ => True

/-- Is the user an owner of the organization now? -/
def OwnerNow (db : TeamDb) (user organization : Nat) : Prop :=
  ∃ m ∈ db.memberships.rows, m.user = user ∧ m.organization = organization ∧ m.isOwner = true

/-- The row that was read has not changed hands. -/
def SameMember (db : TeamDb) (x : Membership) : Prop :=
  ∀ m ∈ db.memberships.rows, m.id = x.id → m.organization = x.organization ∧ m.user = x.user

/-- The membership is the caller's. -/
def TeamTask.Caller (db : TeamDb) (t : TeamTask) (actor : Membership) : Prop :=
  SameMember db actor ∧ actor.organization = t.organization ∧ actor.user = t.user

/-- The membership is one of the caller's organization. -/
def TeamTask.Colleague (db : TeamDb) (t : TeamTask) (target : Membership) : Prop :=
  SameMember db target ∧ target.organization = t.organization

/-- What a request has read is what it looked for. -/
def TeamTask.Reads (db : TeamDb) (t : TeamTask) : Prop :=
  match t.stage with
  | .arrived => True
  | .admitted actor => t.Caller db actor
  | .counting actor target => t.Caller db actor ∧ t.Colleague db target
  | .writing actor target _ => t.Caller db actor ∧ t.Colleague db target
  | .answered _ => True

/-- What the checks have said of the rows that were read. -/
def TeamTask.Checked (t : TeamTask) : Prop :=
  match t.stage with
  | .counting actor target => ownerGate t.action actor.isOwner target.isOwner = none
  | .writing actor target owners =>
    ownerGate t.action actor.isOwner target.isOwner = none ∧
      (t.action.takesOwner target.isOwner = true →
        ∃ n, owners = some n ∧ lastOwner t.action target.isOwner n = none)
  | _ => True

section Protection

variable {db : TeamDb} {t : TeamTask} {organization pk : Nat} {action : TeamAction}
  {actor target : Membership}

/-! ### The checks -/

/-- The gate lets only an owner touch an owner role. -/
theorem ownerGate_none {actorIsOwner targetIsOwner : Bool}
    (h : ownerGate action actorIsOwner targetIsOwner = none)
    (htouches : action.touchesOwner targetIsOwner = true) : actorIsOwner = true := by
  unfold ownerGate at h
  rw [htouches, Bool.true_and] at h
  -- The gate refuses every action of a caller who is no owner.
  cases actorIsOwner with
  | true => rfl
  | false => cases action <;> simp at h

/-- The count lets an owner role be taken away only while there are others. -/
theorem lastOwner_none {targetIsOwner : Bool} {count : Nat}
    (h : lastOwner action targetIsOwner count = none)
    (htakes : action.takesOwner targetIsOwner = true) : 1 < count := by
  unfold lastOwner at h
  rw [htakes, Bool.true_and] at h
  by_contra hle
  rw [if_pos (decide_eq_true (not_lt.mp hle))] at h
  cases action <;> cases h

/-! ### The owners after a write -/

/-- The owners of an organization are its members whose role is owner. -/
theorem mem_ownersOf {m : Membership} :
    m ∈ ownersOf db organization ↔
      m ∈ db.memberships.rows ∧ m.organization = organization ∧ m.isOwner = true := by
  unfold ownersOf
  rw [List.mem_filter, Bool.and_eq_true, beq_iff_eq]

/-- Where there is more than one owner, one of them is not the membership `pk`. -/
theorem exists_other_owner (h : 1 < ownerCount db organization) :
    ∃ m ∈ ownersOf db organization, m.id ≠ pk := by
  have hkeys : ((ownersOf db organization).map (·.id)).Nodup :=
    db.memberships.nodup.sublist (List.filter_sublist.map _)
  unfold ownerCount at h
  by_contra hnone
  push Not at hnone
  -- All keys are one key, and the keys are distinct.
  have hconst : (ownersOf db organization).map (·.id)
      = List.replicate (ownersOf db organization).length pk :=
    List.eq_replicate_iff.mpr ⟨List.length_map _, fun i hi => by
      obtain ⟨m, hm, rfl⟩ := List.mem_map.mp hi
      exact hnone m hm⟩
  -- Distinct copies of one key are at most one.
  rw [hconst, List.nodup_replicate] at hkeys
  omega

/-- An owner other than the target survives the write. -/
theorem mem_ownersOf_teamWrite {m : Membership} (hm : m ∈ ownersOf db organization)
    (hne : m.id ≠ target.id) : m ∈ ownersOf (teamWrite db action target).1 organization := by
  obtain ⟨hrow, horg, howner⟩ := mem_ownersOf.mp hm
  rcases teamWrite_cases db action target with h | ⟨newRole, -, h⟩ | ⟨-, h⟩ <;> rw [h]
  · exact hm
  · exact mem_ownersOf.mpr ⟨mem_saveRole.mpr ⟨m, hrow, if_neg hne⟩, horg, howner⟩
  · exact mem_ownersOf.mpr ⟨Table.mem_delete.mpr ⟨hrow, by simpa using hne⟩, horg, howner⟩

/-- The owners of an organization are the same after a write that touches no owner role in it. -/
theorem ownersOf_teamWrite (h : ∀ row ∈ db.memberships.rows, row.id = target.id →
      action.touchesOwner row.isOwner = false ∨ row.organization ≠ organization) :
    ownersOf (teamWrite db action target).1 organization = ownersOf db organization := by
  rcases teamWrite_cases db action target
    with hw | ⟨newRole, haction, hw⟩ | ⟨haction, hw⟩ <;> rw [hw]
  -- A role is set: the row is no owner before or after, or it is not of this organization.
  · show (db.memberships.update (fun m => m.id == target.id) (Membership.setRole newRole)
      (Membership.setRole_id newRole)).rows.filter _ = db.memberships.rows.filter _
    refine Table.filter_update_of_mem fun row hrow hid => ?_
    rcases h row hrow (beq_iff_eq.mp hid) with htouches | horg
    · rw [haction] at htouches
      obtain ⟨howner, hrole⟩ := Bool.or_eq_false_iff.mp htouches
      have hnew : (row.setRole newRole).isOwner = false := by
        cases newRole <;> first | rfl | exact absurd hrole (by decide)
      rw [howner, hnew, Bool.and_false, Bool.and_false]
      exact ⟨rfl, rfl⟩
    · have hother : (row.organization == organization) = false := beq_eq_false_iff_ne.mpr horg
      have hother' : ((row.setRole newRole).organization == organization) = false := hother
      rw [hother, hother', Bool.false_and, Bool.false_and]
      exact ⟨rfl, rfl⟩
  · refine Table.filter_delete_of_mem fun row hrow hid => ?_
    rcases h row hrow (beq_iff_eq.mp hid) with htouches | horg
    · rw [haction] at htouches
      have howner : row.isOwner = false := htouches
      rw [howner, Bool.and_false]
    · rw [beq_eq_false_iff_ne.mpr horg, Bool.false_and]

/-- A write that is not issued changes nothing. -/
theorem teamWrite_idle (h : action.writes target = false) :
    (teamWrite db action target).1 = db := by
  cases action with
  | updateRole pk newRole =>
    cases newRole with
    | none => rfl
    | some newRole =>
      have hsame : newRole = target.role := by simpa [TeamAction.writes] using h
      unfold teamWrite
      dsimp only
      rw [if_pos hsame.symm]
  | remove pk => cases h

/-- A granted owner role is there afterwards. -/
theorem granted_mem_ownersOf {row : Membership} (hrow : row ∈ db.memberships.rows)
    (hid : row.id = target.id) (hrole : target.role ≠ .owner) :
    row.setRole .owner
      ∈ ownersOf (teamWrite db (.updateRole pk (some .owner)) target).1 row.organization := by
  unfold teamWrite
  dsimp only
  rw [if_neg hrole, Table.get?_eq_some.mpr ⟨hrow, hid⟩]
  exact mem_ownersOf.mpr ⟨mem_saveRole.mpr ⟨row, hrow, if_pos hid⟩, rfl, rfl⟩

/-! ### One statement -/

/-- A stored row is the member it was read as. -/
theorem SameMember.of_mem {x : Membership} (hx : x ∈ db.memberships.rows) : SameMember db x := by
  intro m hm hid
  rw [Table.eq_of_key_eq hm hx hid]
  exact ⟨rfl, rfl⟩

/-- No statement hands a membership to another user or organization, and none creates one. -/
theorem SameMember.step {x : Membership} (h : SameMember db x) (t : TeamTask) :
    SameMember (teamStep db t).1 x := by
  rcases teamStep_cases db t with hread | ⟨actor, target, owners, -, hwrite⟩
  · rwa [hread]
  · rw [hwrite]
    rcases teamWrite_cases db t.action target with hw | ⟨newRole, -, hw⟩ | ⟨-, hw⟩ <;> rw [hw]
    · exact h
    · intro m hm hid
      obtain ⟨y, hy, rfl⟩ := mem_saveRole.mp hm
      split_ifs at hid ⊢
      · exact h y hy hid
      · exact h y hy hid
    · exact fun m hm hid => h m (Table.mem_delete.mp hm).1 hid

/-- What a request has read stays so, whoever takes the next step. -/
theorem TeamTask.Reads.step {k : TeamTask} (h : k.Reads db) (t : TeamTask) :
    k.Reads (teamStep db t).1 := by
  obtain ⟨user, organization, action, stage⟩ := k
  cases stage with
  | arrived => trivial
  | admitted actor => exact ⟨h.1.step t, h.2⟩
  | counting actor target => exact ⟨⟨h.1.1.step t, h.1.2⟩, h.2.1.step t, h.2.2⟩
  | writing actor target owners => exact ⟨⟨h.1.1.step t, h.1.2⟩, h.2.1.step t, h.2.2⟩
  | answered answer => trivial

/-- The check of the target passes on what was read. -/
theorem checkTarget_reads (hactor : t.Caller db actor) (htarget : t.Colleague db target) :
    (t.goTo (checkTarget t.action actor target)).Reads db := by
  unfold checkTarget
  split
  · trivial
  · split
    · trivial
    · split
      · trivial
      · split
        · exact ⟨hactor, htarget⟩
        · exact ⟨hactor, htarget⟩

/-- Whoever goes on after the target is read has passed the owner check. -/
theorem checkTarget_checked (t : TeamTask) (actor target : Membership) :
    (t.goTo (checkTarget t.action actor target)).Checked := by
  unfold checkTarget
  split
  · trivial
  · split
    · trivial
    · split
      · trivial
      · rename_i hgate
        -- Nothing is counted for an action that takes no owner away.
        split
        · exact hgate
        · rename_i htakes
          exact ⟨hgate, fun h => absurd h htakes⟩

/-- A step keeps what the checks have said. -/
theorem teamStep_checked (h : t.Checked) : (teamStep db t).2.Checked := by
  obtain ⟨user, organization, action, stage⟩ := t
  cases stage with
  | arrived =>
    unfold teamStep
    dsimp only
    split
    · trivial
    · split <;> trivial
  | admitted actor =>
    unfold teamStep
    dsimp only
    split
    · trivial
    · exact checkTarget_checked ..
  | counting actor target =>
    unfold teamStep
    dsimp only
    split
    · trivial
    · rename_i hlast
      exact ⟨h, fun _ => ⟨_, rfl, hlast⟩⟩
  | writing actor target owners => trivial
  | answered answer => trivial

/-- A step keeps what was read. -/
theorem teamStep_reads (h : t.Reads db) : (teamStep db t).2.Reads (teamStep db t).1 := by
  obtain ⟨user, organization, action, stage⟩ := t
  cases stage with
  | arrived =>
    unfold teamStep
    dsimp only
    split
    · trivial
    · rename_i actor hfind
      -- The row was looked up by exactly these two keys.
      have hp := List.find?_some hfind
      rw [Bool.and_eq_true, beq_iff_eq, beq_iff_eq] at hp
      split
      · exact ⟨.of_mem (List.mem_of_find?_eq_some hfind), hp.2, hp.1⟩
      · trivial
  | admitted actor =>
    unfold teamStep
    dsimp only
    split
    · trivial
    · rename_i target hfind
      have hp := List.find?_some hfind
      rw [Bool.and_eq_true, beq_iff_eq, beq_iff_eq] at hp
      exact checkTarget_reads h ⟨.of_mem (List.mem_of_find?_eq_some hfind), hp.2⟩
  | counting actor target =>
    unfold teamStep
    dsimp only
    split
    · trivial
    · exact h
  | writing actor target owners => trivial
  | answered answer => trivial

/-- What touches the owner role and leaves no owner fewer grants it. -/
theorem TeamAction.grants {targetIsOwner : Bool}
    (htouches : action.touchesOwner targetIsOwner = true)
    (htakes : ¬action.takesOwner targetIsOwner = true) :
    ∃ pk, action = .updateRole pk (some .owner) := by
  cases action with
  | updateRole pk newRole =>
    refine ⟨pk, congrArg _ ?_⟩
    by_contra hnot
    have hrole : (newRole == some .owner) = false := beq_eq_false_iff_ne.mpr hnot
    simp only [TeamAction.touchesOwner, hrole, Bool.or_false] at htouches
    simp [TeamAction.takesOwner, htouches, bne, hrole] at htakes
  | remove pk => exact absurd htouches htakes

/-- A write that touches an owner role leaves an owner, if the count still allows it. -/
theorem ownersOf_teamWrite_ne_nil {row : Membership} (htarget : t.Colleague db target)
    (hwrites : t.action.writes target = true) (hmem : row ∈ db.memberships.rows)
    (hid : row.id = target.id) (htouches : t.action.touchesOwner row.isOwner = true)
    (hleft : t.action.takesOwner row.isOwner = true → 1 < ownerCount db t.organization) :
    ownersOf (teamWrite db t.action target).1 t.organization ≠ [] := by
  by_cases htakes : t.action.takesOwner row.isOwner = true
  -- One owner fewer: the count leaves somebody else.
  · obtain ⟨m, hm, hother⟩ := @exists_other_owner db t.organization target.id
      (hleft htakes)
    exact List.ne_nil_of_mem (mem_ownersOf_teamWrite hm hother)
  · obtain ⟨pk, haction⟩ := TeamAction.grants htouches htakes
    -- A role that is granted is not the one that was read.
    have hrole : target.role ≠ .owner := fun hrole => by
      rw [haction] at hwrites
      simp [TeamAction.writes, hrole] at hwrites
    have hgranted := @granted_mem_ownersOf db pk target row hmem hid hrole
    rw [(htarget.1 row hmem hid).1, htarget.2] at hgranted
    rw [haction]
    exact List.ne_nil_of_mem hgranted

/-- A caller whose row is an owner's is an owner. -/
theorem ownerNow_of_caller (hactor : t.Caller db actor)
    (howns : (db.memberships.get? actor.id).map Membership.isOwner = some true) :
    OwnerNow db t.user t.organization := by
  -- The row that makes the caller an owner is the one it was admitted with.
  obtain ⟨m, hget, howner⟩ := Option.map_eq_some_iff.mp howns
  obtain ⟨horg, huser⟩ := hactor.1 m (Table.get?_mem hget) (Table.get?_key hget)
  exact ⟨m, Table.get?_mem hget, huser.trans hactor.2.2, horg.trans hactor.2.1, howner⟩

/-- An organization keeps an owner, and its owners change only at the hands of an owner. -/
def OwnersGuarded (db db' : TeamDb) (t : TeamTask) (organization : Nat) : Prop :=
  (ownersOf db organization ≠ [] → ownersOf db' organization ≠ []) ∧
    (ownersOf db' organization ≠ ownersOf db organization →
      (∃ actor target owners, t.stage = .writing actor target owners) ∧
        t.organization = organization ∧ OwnerNow db t.user organization)

/-- A step that leaves the owners alone guards them. -/
theorem OwnersGuarded.of_eq {db' : TeamDb}
    (h : ownersOf db' organization = ownersOf db organization) :
    OwnersGuarded db db' t organization :=
  ⟨fun hne => by rwa [h], fun hne => absurd h hne⟩

/-- **One statement.** The checks have passed on what was read, and while that is so at the write
    the owners are guarded. -/
theorem teamStep_owners (hreads : t.Reads db) (hchecked : t.Checked) (has : AsRead db t)
    (organization : Nat) : OwnersGuarded db (teamStep db t).1 t organization := by
  rcases teamStep_cases db t with hread | ⟨actor, target, owners, hstage, hwrite⟩
  · exact .of_eq (by rw [hread])
  · unfold TeamTask.Reads at hreads
    unfold TeamTask.Checked at hchecked
    unfold AsRead at has
    rw [hstage] at hreads hchecked has
    -- Only a request in its last stage writes, and it knows whom it read.
    obtain ⟨hactor, htarget⟩ := hreads
    obtain ⟨hgate, hcounted⟩ := hchecked
    rw [hwrite]
    -- A role that is the one read is not saved at all.
    by_cases hwrites : t.action.writes target = true
    swap
    · exact .of_eq (by rw [teamWrite_idle (Bool.not_eq_true _ ▸ hwrites)])
    obtain ⟨hrole, hcaller, hcount⟩ := has hwrites
    by_cases hrow : ∃ row ∈ db.memberships.rows, row.id = target.id ∧ t.organization = organization ∧
        t.action.touchesOwner row.isOwner = true
    swap
    · -- The write touches no owner role of this organization.
      refine .of_eq (ownersOf_teamWrite fun row hmem hid => ?_)
      by_cases horg : t.organization = organization
      · left
        rw [← Bool.not_eq_true]
        exact fun htouches => hrow ⟨row, hmem, hid, horg, htouches⟩
      · right
        rw [(htarget.1 row hmem hid).1, htarget.2]
        exact horg
    obtain ⟨row, hmem, hid, rfl, htouches⟩ := hrow
    -- The row is what the checks have seen.
    rw [hrole row hmem hid] at htouches
    have howns : (db.memberships.get? actor.id).map Membership.isOwner = some true := by
      rw [hcaller htouches, ownerGate_none hgate htouches]
    have hleft : t.action.takesOwner row.isOwner = true → 1 < ownerCount db t.organization := by
      intro htakes
      rw [hrole row hmem hid] at htakes
      obtain ⟨n, rfl, hlast⟩ := hcounted htakes
      exact (lastOwner_none hlast htakes).trans_le (hcount n rfl)
    rw [← hrole row hmem hid] at htouches
    exact ⟨fun _ => ownersOf_teamWrite_ne_nil htarget hwrites hmem hid htouches hleft,
      fun _ => ⟨⟨actor, target, owners, hstage⟩, rfl, ownerNow_of_caller hactor howns⟩⟩

/-! ### Every run -/

/-- Requests look at their own organization only, and write what they have checked. -/
theorem team_interference :
    Interference teamDesk AsRead (fun _ => True) (fun db t => t.Reads db ∧ t.Checked) where
  start db t _ hstart := by
    unfold TeamTask.Reads TeamTask.Checked
    rw [show t.stage = .arrived from hstart]
    exact ⟨trivial, trivial⟩
  step _ _ _ h _ := ⟨trivial, teamStep_reads h.1, teamStep_checked h.2⟩
  stable _ t _ _ _ _ h := ⟨h.1.step t, h.2⟩
  env _ e := e.elim
  envStable _ e := e.elim

variable {c c' : Config TeamDb TeamTask}

/-- One move of anybody. -/
theorem move_owners {a : Move TeamTask Empty}
    (hc : Asserted (fun _ => True) (fun db t => TeamTask.Reads db t ∧ TeamTask.Checked t) c)
    (hs : (teamDesk.systemWhen AsRead).step c a c') (organization : Nat) :
    (ownersOf c.shared organization ≠ [] → ownersOf c'.shared organization ≠ []) ∧
      (ownersOf c'.shared organization ≠ ownersOf c.shared organization →
        ∃ i t actor target owners, a = .act i ∧ c.procs[i]? = some t ∧
          t.stage = .writing actor target owners ∧ t.organization = organization ∧
          OwnerNow c.shared t.user organization) := by
  rcases Processes.step_cases hs with ⟨t, -, rfl, rfl⟩ | ⟨i, t, hi, has, rfl, rfl⟩ | ⟨e, -⟩
  · exact ⟨id, fun hne => absurd rfl hne⟩
  · obtain ⟨hreads, hchecked⟩ := hc.2 t (List.mem_of_getElem? hi)
    obtain ⟨hkeeps, hchanges⟩ := teamStep_owners hreads hchecked has organization
    refine ⟨hkeeps, fun hne => ?_⟩
    obtain ⟨⟨actor, target, owners, hstage⟩, horg, howner⟩ := hchanges hne
    exact ⟨i, t, actor, target, owners, rfl, hi, hstage, horg, howner⟩
  · exact e.elim

/-- **Last-owner protection.** In every interleaving of requests that find what they have read when
    they write, an organization that has an owner keeps one, and whoever grants, changes or removes
    an owner role is an owner at that moment. -/
theorem last_owner_protected {as : List (Move TeamTask Empty)}
    (hc : Reachable (teamDesk.systemWhen AsRead) c)
    (hr : Run (teamDesk.systemWhen AsRead) c as c') (organization : Nat) :
    (ownersOf c.shared organization ≠ [] → ownersOf c'.shared organization ≠ []) ∧
      ∀ a d, (teamDesk.systemWhen AsRead).step c' a d →
        ownersOf d.shared organization ≠ ownersOf c'.shared organization →
        ∃ i t actor target owners, a = .act i ∧ c'.procs[i]? = some t ∧
          t.stage = .writing actor target owners ∧ t.organization = organization ∧
          OwnerNow c'.shared t.user organization := by
  have hstart := team_interference.reachable (fun _ _ => trivial) hc
  -- Along the run, what was read stays true and an owner stays.
  have hrun := hr.invariant (I := fun d => Asserted (fun _ => True)
      (fun db t => TeamTask.Reads db t ∧ TeamTask.Checked t) d ∧
      (ownersOf c.shared organization ≠ [] → ownersOf d.shared organization ≠ []))
    ⟨hstart, id⟩ fun u a v hu hs =>
      ⟨team_interference.preserves hs hu.1, (move_owners hu.1 hs organization).1 ∘ hu.2⟩
  exact ⟨hrun.2, fun a d hs => (move_owners hrun.1 hs organization).2⟩

end Protection

/-! ### Two owners -/

/-- Ada and Bob own the organization, Cy runs its box office. -/
def twoOwners : TeamDb where
  memberships :=
    ((Table.empty.insert fun i => ⟨i, 1, 1, .owner⟩).insert fun i => ⟨i, 2, 1, .owner⟩).insert
      fun i => ⟨i, 3, 1, .boxOffice⟩
  email _ := "someone@example.com"

/-- A request of a user of the sample that has just arrived. -/
def teamRequest (user : Nat) (action : TeamAction) : TeamTask :=
  ⟨user, 1, action, .arrived⟩

/-- Ada makes Cy an owner while Bob removes Ada: both have read two owners before either writes. -/
def succession : List (Move TeamTask Empty) :=
  [.spawn (teamRequest 1 (.updateRole 3 (some .owner))), .spawn (teamRequest 2 (.remove 1)),
    .act 0, .act 1, .act 0, .act 1, .act 1, .act 0, .act 1]

/-- Two requests that overlap: neither takes away what the other has read, and two owners are
    left. -/
theorem last_owner_protected_succession :
    ((teamDesk.perform succession ⟨twoOwners, []⟩).shared.memberships.rows.map
      fun m => (m.user, m.role)) = [(2, .owner), (3, .owner)] ∧
    ownersOf (teamDesk.perform succession ⟨twoOwners, []⟩).shared 1 ≠ [] := by
  have hrun : Run (teamDesk.systemWhen AsRead) ⟨twoOwners, []⟩ succession
      (teamDesk.perform succession ⟨twoOwners, []⟩) :=
    Processes.run_perform ⟨rfl, rfl, ⟨_, rfl, trivial⟩, ⟨_, rfl, trivial⟩, ⟨_, rfl, trivial⟩,
      ⟨_, rfl, trivial⟩, ⟨_, rfl, trivial⟩, ⟨_, rfl, fun _ => by decide⟩,
      ⟨_, rfl, fun _ => by decide⟩, trivial⟩
  exact ⟨rfl, (last_owner_protected (.of_init ⟨trivial, rfl⟩) hrun 1).1 (by decide)⟩

/-- Ada and Bob remove each other: both have counted two owners before either writes. -/
def eachOther : List (Move TeamTask Empty) :=
  [.spawn (teamRequest 1 (.remove 2)), .spawn (teamRequest 2 (.remove 1)),
    .act 0, .act 0, .act 0, .act 1, .act 1, .act 1, .act 0]

/-- **Nobody is left.** The second of two requests that passed their checks together removes the
    last owner, for a caller who is no owner any more. -/
theorem owners_remove_each_other :
    ∃ c d, Reachable teamDesk.system c ∧ teamDesk.system.step c (.act 1) d ∧
      (∃ t, c.procs[1]? = some t ∧ t.user = 2 ∧ t.organization = 1) ∧
      ownersOf c.shared 1 ≠ [] ∧ ownersOf d.shared 1 = [] ∧ ¬ OwnerNow c.shared 2 1 := by
  refine ⟨teamDesk.perform eachOther ⟨twoOwners, []⟩, _, ?_, ⟨⟨_, rfl, trivial⟩, rfl⟩,
    ⟨_, rfl, rfl, rfl⟩, by decide, by decide, ?_⟩
  · refine Processes.reachable_perform (.of_init ⟨trivial, rfl⟩) (fun l hl => ?_) fun _ e => e.elim
    have htask : l = teamRequest 1 (.remove 2) ∨ l = teamRequest 2 (.remove 1) := by
      simpa [eachOther] using hl
    rcases htask with rfl | rfl <;> rfl
  · unfold OwnerNow
    decide

end BoxOffice

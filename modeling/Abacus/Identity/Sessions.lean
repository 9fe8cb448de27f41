import Abacus.Identity.Steps

/-! The sessions of the identity services keep the discipline of `IdentityStep`.
The locked account cannot change under a session, and an administrator found under the
tenant's lock stays one, so what a session read is what it commits on.
-/
set_option autoImplicit false

namespace Abacus

open Relational Transition Transaction

variable {request : IdentityRequest} {held : List IdentityLock} {db : IdentityDatabase}
  {next : IdentityProgram}

section Checks

theorem identity_refuses : Refuses identityDiscipline := fun _ _ _ _ => rfl

theorem safe_ensureValidCanonicalAccessPair {roles : Finset CanonicalIdentityRole}
    {storeIds : Finset Uuid}
    (safe : ValidPair roles storeIds → identityDiscipline.Safe request held next db) :
    identityDiscipline.Safe request held
      (ensureValidCanonicalAccessPair roles storeIds next) db := by
  apply identity_refuses.ensure
  intro assigned
  apply identity_refuses.ensure
  intro entitled
  exact safe ⟨assigned,entitled⟩

structure Knows (held : List IdentityLock) (db : IdentityDatabase) (userId : Uuid)
    (account : Account) : Prop where
  sound : AdminsInStep db
  locked : .user userId ∈ held
  found : db.account? userId = some account

variable {userId : Uuid} {account : Account}

theorem Knows.rely {after : IdentityDatabase} (knows : Knows held db userId account)
    (rely : identityDiscipline.Rely held db after) (sound : AdminsInStep after) :
    Knows held after userId account :=
  ⟨sound,knows.locked,rely_account rely knows.locked knows.found⟩

theorem Knows.user_id (knows : Knows held db userId account) : account.user.id = userId :=
  IdentityDatabase.user_id knows.found

theorem Knows.roles (knows : Knows held db userId account) : db.rolesOf userId = account.roles :=
  (IdentityDatabase.account?_eq_some.mp knows.found).2.1

theorem Knows.storeIds (knows : Knows held db userId account) :
    db.storesOf userId = account.storeIds :=
  (IdentityDatabase.account?_eq_some.mp knows.found).2.2.1

theorem Knows.grants (knows : Knows held db userId account) : db.grantsOf userId = account.grants :=
  (IdentityDatabase.account?_eq_some.mp knows.found).2.2.2

theorem safe_lockAccessTarget {next : User → IdentityProgram}
    (safe : ∀ after account, identityDiscipline.Rely held db after →
      Knows (.user userId :: held) after userId account →
      identityDiscipline.Safe request (.user userId :: held) (next account.user) after) :
    identityDiscipline.Safe request held (lockAccessTarget userId next) db := by
  intro after rely sound
  dsimp only
  cases stored : after.account? userId with
  | none =>
      have missing : after.user? userId = none := by
        simpa [IdentityDatabase.account?] using stored
      rw [missing]
      exact identity_refuses.abandon userNotFound
  | some account =>
      rw [(IdentityDatabase.account?_eq_some.mp stored).1]
      exact safe after account rely ⟨sound,List.mem_cons_self ..,stored⟩

/-- The three loads of a locked account see one and the same account. -/
theorem safe_loadCanonicalAccess (knows : Knows held db userId account)
    {next : CanonicalAccess → IdentityProgram}
    (safe : ∀ after, identityDiscipline.Rely held db after → Knows held after userId account →
      identityDiscipline.Safe request held (next account.access) after) :
    identityDiscipline.Safe request held (loadCanonicalAccess userId next) db := by
  intro first toFirst firstSound second toSecond secondSound third toThird thirdSound
  have atFirst := knows.rely toFirst firstSound
  have atSecond := atFirst.rely toSecond secondSound
  have atThird := atSecond.rely toThird thirdSound
  dsimp only
  rw [atFirst.roles,atSecond.storeIds,atThird.grants]
  exact safe third ((toFirst.trans toSecond).trans toThird) atThird

theorem safe_ensureStores (sound : AdminsInStep db) {passes : StoreStatus → Bool} {detail : String}
    {storeIds : Finset Uuid}
    (safe : ∀ after, identityDiscipline.Rely held db after → AdminsInStep after →
      storesPass after.stores passes storeIds → identityDiscipline.Safe request held next after) :
    identityDiscipline.Safe request held (ensureStores passes detail storeIds next) db := by
  unfold ensureStores
  split
  · rename_i nothing
    apply safe db (Discipline.Rely.refl held db) sound
    simp [storesPass,nothing]
  · intro after rely later
    apply identity_refuses.ensure
    exact safe after rely later

/-- Both queries find administrators, and what they find stays under the tenant's lock. -/
theorem safe_ensureAnotherActiveTenantAdmin (locked : .tenant ∈ held)
    (safe : ∀ after, identityDiscipline.Rely held db after → AdminsInStep after →
      after.AnotherAdmin userId → identityDiscipline.Safe request held next after) :
    identityDiscipline.Safe request held (ensureAnotherActiveTenantAdmin userId next) db := by
  intro first toFirst firstSound second toSecond secondSound
  apply identity_refuses.ensure
  intro another
  apply safe second (toFirst.trans toSecond) secondSound
  rcases another with canonical | legacy
  · exact rely_anotherAdmin toSecond locked
      (IdentityDatabase.anotherCanonicalAdmin_iff.mp canonical)
  · exact IdentityDatabase.anotherAdmin_of_legacy secondSound legacy

theorem safe_ensureNotRemovingLastTenantAdmin (locked : .tenant ∈ held)
    (knows : Knows held db userId account)
    {existingRoles requestedRoles : Finset CanonicalIdentityRole}
    (safe : ∀ after, identityDiscipline.Rely held db after → Knows held after userId account →
      (.tenantAdmin ∈ existingRoles → .tenantAdmin ∉ requestedRoles → after.AnotherAdmin userId) →
      identityDiscipline.Safe request held next after) :
    identityDiscipline.Safe request held
      (ensureNotRemovingLastTenantAdmin userId existingRoles requestedRoles next) db := by
  unfold ensureNotRemovingLastTenantAdmin
  split
  · apply safe_ensureAnotherActiveTenantAdmin locked
    intro after rely sound another
    exact safe after rely (knows.rely rely sound) fun _ _ => another
  · rename_i kept
    apply safe db (Discipline.Rely.refl held db) knows
    exact fun admin removed => absurd ⟨admin,removed⟩ kept

theorem safe_ensureNotSuspendingLastTenantAdmin (locked : .tenant ∈ held)
    (knows : Knows held db userId account)
    (safe : ∀ after, identityDiscipline.Rely held db after → Knows held after userId account →
      (.tenantAdmin ∈ account.roles → after.AnotherAdmin userId) →
      identityDiscipline.Safe request held next after) :
    identityDiscipline.Safe request held
      (ensureNotSuspendingLastTenantAdmin userId account.grants next) db := by
  intro loaded toLoaded loadedSound
  have atLoaded := knows.rely toLoaded loadedSound
  dsimp only
  rw [atLoaded.roles]
  split
  · apply safe_ensureAnotherActiveTenantAdmin locked
    intro after rely sound another
    exact safe after (toLoaded.trans rely) (atLoaded.rely rely sound) fun _ => another
  · rename_i plain
    apply safe loaded toLoaded atLoaded
    exact fun admin => absurd (Or.inl admin) plain

end Checks

section Writes

open IdentityDatabase

variable {userId : Uuid} {account : Account}

theorem modifies_bumpTokenVersion (principal : Principal) (user : User)
    (existing : CanonicalAccess) (roles : Finset CanonicalIdentityRole) (storeIds : Finset Uuid)
    (db : IdentityDatabase) :
    Modifies db (bumpTokenVersion principal user existing roles storeIds db) user.id fun account =>
      { account with
        user := { account.user with tokenVersion := nextTokenVersion user.tokenVersion } } :=
  (modifies_setTokenVersion db user.id _).trans (modifies_addAuditRecord _ user.id _)

/-- An account that needs no write is as the request wants it. -/
theorem replaced_same {roles : Finset CanonicalIdentityRole} {storeIds : Finset Uuid}
    (unchanged : ¬account.AccessChanged roles storeIds) (stored : account.roles ≠ ∅)
    (assigned : account.storeIds ≠ ∅) : account.replaced roles storeIds = account := by
  simp only [Account.AccessChanged,not_or,not_not] at unchanged
  obtain ⟨sameRoles,sameStores,sameGrants⟩ := unchanged
  rw [Account.access_roles_of_nonempty stored] at sameRoles
  rw [Account.access_storeIds_of_nonempty assigned] at sameStores
  subst sameRoles sameStores
  have kept : ¬account.AccessChanged account.roles account.storeIds := by
    simp [Account.AccessChanged,Account.access_roles_of_nonempty stored,
      Account.access_storeIds_of_nonempty assigned,sameGrants]
  rw [Account.replaced,Account.bumpedIf,if_neg kept,sameGrants]

theorem Account.access_roles_of_present (present : account.access.rolesMissing = false) :
    account.roles ≠ ∅ := by
  simpa [Account.access,canonicalAccess] using present

theorem Account.access_storeIds_of_present (present : account.access.assignmentsMissing = false) :
    account.storeIds ≠ ∅ := by
  simpa [Account.access,canonicalAccess] using present

variable {other : Account}

/-- Rows that are written only where they are missing end up as the loaded access. -/
theorem written_roles (same : other.roles = account.roles) :
    (if account.access.rolesMissing = true then
        (fun found : Account => { found with roles := account.access.roles })
      else id) other = { other with roles := account.access.roles } := by
  split
  · rfl
  · rename_i present
    rw [Account.access_roles_of_nonempty
      (Account.access_roles_of_present (by simpa using present)),← same]
    rfl

theorem written_storeIds (same : other.storeIds = account.storeIds) :
    (if account.access.assignmentsMissing = true then
        (fun found : Account => { found with storeIds := account.access.storeIds })
      else id) other = { other with storeIds := account.access.storeIds } := by
  split
  · rfl
  · rename_i present
    rw [Account.access_storeIds_of_nonempty
      (Account.access_storeIds_of_present (by simpa using present)),← same]
    rfl

/-- Grants that are written only when they differ end up as desired. -/
theorem written_grants (desired : Finset UserAccessGrant) (same : other.grants = account.grants) :
    (if desired ≠ account.access.grants then
        (fun found : Account => { found with grants := desired })
      else id) other = { other with grants := desired } := by
  split
  · rfl
  · rename_i kept
    have stored : desired = other.grants := (not_not.mp kept).trans same.symm
    rw [stored]
    rfl

def Rewrites (before written : IdentityDatabase) (userId : Uuid) (account : Account)
    (roles : Finset CanonicalIdentityRole) (storeIds : Finset Uuid) : Prop :=
  ∃ f, Modifies before written userId f ∧ f account = { account with
    roles := roles, storeIds := storeIds, grants := compatibilityGrantSpecs roles storeIds }

theorem access_rewritten (before : IdentityDatabase) (roles : Finset CanonicalIdentityRole)
    (storeIds : Finset Uuid) :
    Rewrites before
      (((before.persistRoleRows userId roles).persistAssignmentRows userId
        storeIds).persistCompatibilityGrants userId (compatibilityGrantSpecs roles storeIds))
      userId account roles storeIds :=
  ⟨_,((modifies_persistRoleRows before userId roles).trans
    (modifies_persistAssignmentRows _ userId storeIds)).trans
      (modifies_persistCompatibilityGrants _ userId _),rfl⟩

/-- New roles: the stores are written where they had no rows, the grants where they differ. -/
theorem roles_rewritten (before : IdentityDatabase) (roles : Finset CanonicalIdentityRole) :
    let desired := compatibilityGrantSpecs roles account.access.storeIds
    let roled := before.persistRoleRows userId roles
    let assigned :=
      if account.access.assignmentsMissing = true then
        roled.persistAssignmentRows userId account.access.storeIds
      else roled
    Rewrites before
      (if desired ≠ account.access.grants then assigned.persistCompatibilityGrants userId desired
      else assigned) userId account roles account.access.storeIds := by
  refine ⟨_,((modifies_persistRoleRows before userId roles).trans
    ((modifies_persistAssignmentRows _ userId account.access.storeIds).conditional
      (account.access.assignmentsMissing = true))).trans
      ((modifies_persistCompatibilityGrants _ userId _).conditional
        (compatibilityGrantSpecs roles account.access.storeIds ≠ account.access.grants)),?_⟩
  have same : ({ account with roles := roles } : Account).storeIds = account.storeIds := rfl
  rw [Function.comp_apply,Function.comp_apply,written_storeIds same]
  exact written_grants _ rfl

/-- New stores: the roles are written where they had no rows, the grants where they differ. -/
theorem stores_rewritten (before : IdentityDatabase) (storeIds : Finset Uuid) :
    let desired := compatibilityGrantSpecs account.access.roles storeIds
    let roled :=
      if account.access.rolesMissing = true then before.persistRoleRows userId account.access.roles
      else before
    let assigned := roled.persistAssignmentRows userId storeIds
    Rewrites before
      (if desired ≠ account.access.grants then assigned.persistCompatibilityGrants userId desired
      else assigned) userId account account.access.roles storeIds := by
  refine ⟨_,(((modifies_persistRoleRows before userId account.access.roles).conditional
    (account.access.rolesMissing = true)).trans
      (modifies_persistAssignmentRows _ userId storeIds)).trans
      ((modifies_persistCompatibilityGrants _ userId _).conditional
        (compatibilityGrantSpecs account.access.roles storeIds ≠ account.access.grants)),?_⟩
  rw [Function.comp_apply,Function.comp_apply,written_roles rfl]
  exact written_grants _ rfl

theorem roles_changed_iff (roles : Finset CanonicalIdentityRole) :
    roles ≠ account.access.roles ∨
        compatibilityGrantSpecs roles account.access.storeIds ≠ account.access.grants ↔
      account.AccessChanged roles account.access.storeIds := by
  simp [Account.AccessChanged,Account.access,canonicalAccess]

theorem stores_changed_iff (storeIds : Finset Uuid) :
    storeIds ≠ account.access.storeIds ∨
        compatibilityGrantSpecs account.access.roles storeIds ≠ account.access.grants ↔
      account.AccessChanged account.access.roles storeIds := by
  simp [Account.AccessChanged,Account.access,canonicalAccess]

/-- The access rows, the grants and, when the access has changed, the next version. -/
theorem bumped_writes {db written : IdentityDatabase} {roles : Finset CanonicalIdentityRole}
    {storeIds : Finset Uuid} {changed : Prop} [Decidable changed] (principal : Principal)
    (found : db.account? userId = some account)
    (rewritten : Rewrites db written userId account roles storeIds)
    (exact : changed ↔ account.AccessChanged roles storeIds) :
    db.Writes (if changed then
        bumpTokenVersion principal account.user account.access roles storeIds written
      else written) userId (account.replaced roles storeIds) := by
  have keyed := user_id found
  subst keyed
  obtain ⟨f,modifies,shape⟩ := rewritten
  split
  · rename_i yes
    have bumped := modifies_bumpTokenVersion principal account.user account.access roles storeIds
      written
    apply (modifies.trans bumped).writes found
    rw [Function.comp_apply,shape,Account.replaced,Account.bumpedIf,if_pos (exact.mp yes)]
  · rename_i no
    apply modifies.writes found
    rw [shape,Account.replaced,Account.bumpedIf,if_neg fun changed => no (exact.mpr changed)]

/-- Where nothing needs a write, the account already is the replaced one. -/
theorem idle_writes {db : IdentityDatabase} {roles : Finset CanonicalIdentityRole}
    {storeIds : Finset Uuid} {changed : Prop} (found : db.account? userId = some account)
    (exact : changed ↔ account.AccessChanged roles storeIds)
    (same : ¬changed ∧ account.access.rolesMissing = false ∧
      account.access.assignmentsMissing = false) :
    db.Writes db userId (account.replaced roles storeIds) := by
  obtain ⟨unchanged,stored,assigned⟩ := same
  rw [replaced_same (fun yes => unchanged (exact.mpr yes))
    (Account.access_roles_of_present stored) (Account.access_storeIds_of_present assigned)]
  exact writes_same found

end Writes

section Services

open IdentityDatabase

variable {userId : Uuid} {account : Account} {principal : Principal}

theorem insertCanonicalUser_writes {create : CanonicalUserCreate} {written : IdentityDatabase}
    (inserted : insertCanonicalUser principal create (Account.created create userId).user db =
      some written) :
    db.account? userId = none ∧ db.Writes written userId (Account.created create userId) := by
  unfold insertCanonicalUser at inserted
  split at inserted
  · cases inserted
  · obtain ⟨users,added,rfl⟩ := Option.map_eq_some_iff.mp inserted
    have absent : db.user? userId = none := (Table.insert_eq_some added).1
    refine ⟨by rw [account?,absent]; rfl,?_,?_,rfl,rfl,rfl⟩
    · rw [account?_eq_some]
      simp [user?,rolesOf,storesOf,grantsOf,persistRoleRows,persistAssignmentRows,
        persistCompatibilityGrants,addAuditRecord,Table.find?_insert added,Account.created]
    · intro other apart
      have missed : (Account.created create userId).user.id ≠ other := Ne.symm apart
      have others : users.find? other = db.users.find? other := by
        rw [Table.find?_insert added,if_neg missed]
      simp [account?,user?,rolesOf,storesOf,grantsOf,persistRoleRows,persistAssignmentRows,
        persistCompatibilityGrants,addAuditRecord,others,Account.created,apart]

theorem safe_createCanonicalUser (sound : AdminsInStep db) (create : CanonicalUserCreate) :
    identityDiscipline.Safe (.createCanonicalUser principal create userId) []
      (createCanonicalUser principal create userId) db := by
  apply identity_refuses.ensure
  intro permitted
  apply safe_ensureStores sound
  intro checked toChecked checkedSound active loaded toLoaded loadedSound
  apply identity_refuses.ensure
  intro free
  apply identity_refuses.commitOr
  intro after written toAfter afterSound inserted
  have stores : after.stores = checked.stores := rely_stores (toLoaded.trans toAfter)
  obtain ⟨absent,writes⟩ := insertCanonicalUser_writes inserted
  refine ⟨.created permitted ?_ absent writes,by simp [IdentityRequest.locks]⟩
  rw [stores]
  exact active

theorem safe_suspendUser :
    identityDiscipline.Safe (.suspendUser principal userId) [] (suspendUser principal userId) db := by
  apply identity_refuses.ensure
  intro someoneElse locked toLocked lockedSound
  apply safe_lockAccessTarget
  intro targeted account toTargeted atTargeted loaded toLoaded loadedSound
  have atLoaded := atTargeted.rely toLoaded loadedSound
  dsimp only
  rw [atLoaded.grants]
  apply identity_refuses.ensure
  intro permitted
  split
  · rename_i already
    intro after toAfter afterSound
    have atAfter := atLoaded.rely toAfter afterSound
    refine ⟨.suspended someoneElse atAfter.found permitted ?_ ?_,?_⟩
    · intro admin
      rw [admin.1] at already
      cases already
    · rw [Account.suspended,if_pos already]
      exact writes_same atAfter.found
    · simp [IdentityRequest.locks]
  · rename_i active
    apply safe_ensureNotSuspendingLastTenantAdmin (by simp) atLoaded
    intro guarded toGuarded atGuarded spared after toAfter afterSound
    have atAfter := atGuarded.rely toAfter afterSound
    refine ⟨.suspended someoneElse atAfter.found permitted ?_ ?_,?_⟩
    · intro admin
      exact rely_anotherAdmin toAfter (by simp) (spared admin.2)
    · have status := modifies_setStatus after userId .suspended
      have version := modifies_setTokenVersion (after.setStatus userId .suspended) userId
        (nextTokenVersion account.user.tokenVersion)
      have audited := modifies_addAuditRecord ((after.setStatus userId .suspended).setTokenVersion
        userId (nextTokenVersion account.user.tokenVersion)) userId ⟨principal.userId,userId,
          .userSuspended account.user.email (nextTokenVersion account.user.tokenVersion)⟩
      apply ((status.trans version).trans audited).writes atAfter.found
      rw [Account.suspended,if_neg active]
      rfl
    · simp [IdentityRequest.locks]

/-- The end of every replacement: nothing to write, or the rows, the grants and the version. -/
theorem safe_replacement (knows : Knows held db userId account)
    {roles : Finset CanonicalIdentityRole} {storeIds : Finset Uuid} {changed : Prop}
    [Decidable changed] (exact : changed ↔ account.AccessChanged roles storeIds)
    {write : IdentityDatabase → IdentityDatabase}
    (rewrites : ∀ before, Rewrites before (write before) userId account roles storeIds)
    {response : IdentityResponse}
    (step : ∀ after written, identityDiscipline.Rely held db after → Knows held after userId account →
      after.Writes written userId (account.replaced roles storeIds) →
      CommitsIdentity request held after written (.ok response)) :
    identityDiscipline.Safe request held
      (if ¬changed ∧ account.access.rolesMissing = false ∧
          account.access.assignmentsMissing = false then answer response
      else .finish fun before =>
        (if changed then
          bumpTokenVersion principal account.user account.access roles storeIds (write before)
        else write before,.ok response)) db := by
  split
  · rename_i same
    intro after toAfter afterSound
    have atAfter := knows.rely toAfter afterSound
    exact step after after toAfter atAfter (idle_writes atAfter.found exact same)
  · intro after toAfter afterSound
    have atAfter := knows.rely toAfter afterSound
    exact step after _ toAfter atAfter
      (bumped_writes principal atAfter.found (rewrites after) exact)

theorem safe_replaceUserAccess (replace : UserAccessReplace) :
    identityDiscipline.Safe (.replaceUserAccess principal userId replace) []
      (replaceUserAccess principal userId replace) db := by
  apply identity_refuses.ensure
  intro permitted locked toLocked lockedSound
  apply safe_lockAccessTarget
  intro targeted account toTargeted atTargeted
  apply safe_loadCanonicalAccess atTargeted
  intro loaded toLoaded atLoaded
  apply safe_ensureValidCanonicalAccessPair
  intro valid
  apply safe_ensureStores atLoaded.sound
  intro checked toChecked checkedSound usable
  apply safe_ensureNotRemovingLastTenantAdmin (by simp) (atLoaded.rely toChecked checkedSound)
  intro guarded toGuarded atGuarded spared
  apply safe_replacement atGuarded Iff.rfl fun before => access_rewritten before _ _
  intro after written toAfter atAfter writes
  refine ⟨.accessReplaced permitted atAfter.found valid ?_ ?_ writes,by simp [IdentityRequest.locks]⟩
  · rw [rely_stores (toGuarded.trans toAfter)]
    exact usable
  · exact fun admin removed => rely_anotherAdmin toAfter (by simp) (spared admin removed)

theorem safe_replaceUserRoles (replace : UserRolesReplace) :
    identityDiscipline.Safe (.replaceUserRoles principal userId replace) []
      (replaceUserRoles principal userId replace) db := by
  apply identity_refuses.ensure
  intro permitted locked toLocked lockedSound
  apply safe_lockAccessTarget
  intro targeted account toTargeted atTargeted
  apply safe_loadCanonicalAccess atTargeted
  intro loaded toLoaded atLoaded
  apply safe_ensureValidCanonicalAccessPair
  intro valid
  apply safe_ensureNotRemovingLastTenantAdmin (by simp) atLoaded
  intro guarded toGuarded atGuarded spared
  apply safe_replacement atGuarded (roles_changed_iff _) fun before => roles_rewritten before _
  intro after written toAfter atAfter writes
  refine ⟨.rolesReplaced permitted atAfter.found valid ?_ writes,by simp [IdentityRequest.locks]⟩
  exact fun admin removed => rely_anotherAdmin toAfter (by simp) (spared admin removed)

theorem safe_replaceUserStoreAssignments (replace : UserStoreAssignmentsReplace) :
    identityDiscipline.Safe (.replaceUserStoreAssignments principal userId replace) []
      (replaceUserStoreAssignments principal userId replace) db := by
  apply safe_lockAccessTarget
  intro targeted account toTargeted atTargeted
  apply safe_loadCanonicalAccess atTargeted
  intro loaded toLoaded atLoaded
  apply identity_refuses.ensure
  intro someRole
  apply safe_ensureValidCanonicalAccessPair
  intro valid
  apply safe_ensureStores atLoaded.sound
  intro checked toChecked checkedSound usable
  apply identity_refuses.ensure
  intro permitted
  apply safe_replacement (atLoaded.rely toChecked checkedSound) (stores_changed_iff _)
    fun before => stores_rewritten before _
  intro after written toAfter atAfter writes
  refine ⟨.storesReplaced atAfter.found someRole valid ?_ permitted writes,
    by simp [IdentityRequest.locks]⟩
  rw [rely_stores toAfter]
  exact usable

theorem safe_createAccessToken (sessionId : Option Uuid) (expiresAt : Time) :
    identityDiscipline.Safe (.createAccessToken userId sessionId expiresAt) []
      (createAccessToken userId sessionId expiresAt) db := by
  intro after toAfter sound
  dsimp only
  cases stored : after.account? userId with
  | none =>
      have missing : after.user? userId = none := by simpa [account?] using stored
      rw [missing]
      exact rfl
  | some account =>
      rw [(account?_eq_some.mp stored).1]
      exact ⟨.tokenCreated stored,by simp [IdentityRequest.locks]⟩

/-- Every service keeps the discipline, however its statements interleave with the others'. -/
theorem identity_verifies : identityDiscipline.Verifies identityService := by
  intro request db sound
  cases request with
  | createCanonicalUser principal create userId => exact safe_createCanonicalUser sound create
  | replaceUserAccess principal userId replace => exact safe_replaceUserAccess replace
  | replaceUserRoles principal userId replace => exact safe_replaceUserRoles replace
  | replaceUserStoreAssignments principal userId replace =>
      exact safe_replaceUserStoreAssignments replace
  | suspendUser principal userId => exact safe_suspendUser
  | createAccessToken userId sessionId expiresAt => exact safe_createAccessToken sessionId expiresAt

end Services

end Abacus

import Abacus.Identity.Tokens

/-! The canonical rows of a user and its legacy grants.
Every operation on the access of a user rewrites both from the same roles and stores, so
they agree from the creation of the user on. Nothing is assumed of the tenant's other users.
-/
set_option autoImplicit false

namespace Abacus

open Relational Transaction

inductive AccessOperation where
  | createCanonicalUser (principal : Principal) (request : CanonicalUserCreate) (userId : Uuid)
  | replaceUserAccess (principal : Principal) (userId : Uuid) (request : UserAccessReplace)
  | replaceUserRoles (principal : Principal) (userId : Uuid) (request : UserRolesReplace)
  | replaceUserStoreAssignments (principal : Principal) (userId : Uuid)
      (request : UserStoreAssignmentsReplace)

namespace AccessOperation

def target : AccessOperation → Uuid
  | .createCanonicalUser _ _ userId => userId
  | .replaceUserAccess _ userId _ => userId
  | .replaceUserRoles _ userId _ => userId
  | .replaceUserStoreAssignments _ userId _ => userId

def request : AccessOperation → IdentityRequest
  | .createCanonicalUser principal create userId => .createCanonicalUser principal create userId
  | .replaceUserAccess principal userId replace => .replaceUserAccess principal userId replace
  | .replaceUserRoles principal userId replace => .replaceUserRoles principal userId replace
  | .replaceUserStoreAssignments principal userId replace =>
      .replaceUserStoreAssignments principal userId replace

def perform (operation : AccessOperation) (db : IdentityDatabase) :
    IdentityDatabase × Attempt IdentityResponse := (identityService operation.request).run db

end AccessOperation

def IdentityDatabase.afterAll (db : IdentityDatabase) (operations : List AccessOperation) :
    IdentityDatabase :=
  operations.foldl (fun current operation => (operation.perform current).1) db

/-- A failed operation leaves the tables, and one that succeeds leaves its user in step. -/
inductive Settles (db : IdentityDatabase) (userId : Uuid) :
    IdentityDatabase × Attempt IdentityResponse → Prop where
  | failed {failure : Failure} : Settles db userId (db,.error failure)
  | settled {after : IdentityDatabase} {response : IdentityResponse} {account : Account}
      (inStep : account.InStep) (writes : db.Writes after userId account) :
      Settles db userId (after,.ok response)

section Checks

variable {db : IdentityDatabase} {userId : Uuid} {next : IdentityProgram}

theorem settles_ensure {condition : Prop} [Decidable condition] {failure : Failure}
    (rest : condition → Settles db userId (next.run db)) :
    Settles db userId ((ensure condition failure next).run db) := by
  rw [run_ensure]
  split
  · rename_i passed
    exact rest passed
  · exact .failed

theorem settles_lockAccessTarget {next : User → IdentityProgram}
    (rest : ∀ account, db.account? userId = some account →
      Settles db userId ((next account.user).run db)) :
    Settles db userId ((lockAccessTarget userId next).run db) := by
  rw [lockAccessTarget,Program.run_lock]
  cases stored : db.account? userId with
  | none =>
      have missing : db.user? userId = none := by simpa [IdentityDatabase.account?] using stored
      rw [missing]
      exact .failed
  | some account =>
      rw [(IdentityDatabase.account?_eq_some.mp stored).1]
      exact rest account stored

theorem run_loadCanonicalAccess {account : Account} (found : db.account? userId = some account)
    (next : CanonicalAccess → IdentityProgram) :
    (loadCanonicalAccess userId next).run db = (next account.access).run db := by
  obtain ⟨-,roles,storeIds,grants⟩ := IdentityDatabase.account?_eq_some.mp found
  simp only [loadCanonicalAccess,Program.run_read,roles,storeIds,grants]
  rfl

theorem settles_ensureValidCanonicalAccessPair {roles : Finset CanonicalIdentityRole}
    {storeIds : Finset Uuid} (rest : ValidPair roles storeIds → Settles db userId (next.run db)) :
    Settles db userId ((ensureValidCanonicalAccessPair roles storeIds next).run db) := by
  apply settles_ensure
  intro assigned
  apply settles_ensure
  intro entitled
  exact rest ⟨assigned,entitled⟩

theorem settles_ensureStores {passes : StoreStatus → Bool} {detail : String}
    {storeIds : Finset Uuid} (rest : Settles db userId (next.run db)) :
    Settles db userId ((ensureStores passes detail storeIds next).run db) := by
  unfold ensureStores
  split
  · exact rest
  · exact settles_ensure fun _ => rest

theorem settles_ensureNotRemovingLastTenantAdmin
    {existingRoles requestedRoles : Finset CanonicalIdentityRole}
    (rest : Settles db userId (next.run db)) :
    Settles db userId
      ((ensureNotRemovingLastTenantAdmin userId existingRoles requestedRoles next).run db) := by
  unfold ensureNotRemovingLastTenantAdmin
  split
  · exact settles_ensure fun _ => rest
  · exact rest

end Checks

section Operations

open IdentityDatabase

variable {db : IdentityDatabase} {userId : Uuid} {account : Account} {principal : Principal}

/-- The end of every replacement: nothing to write, or the rows, the grants and the version. -/
theorem settles_replacement (found : db.account? userId = some account)
    {roles : Finset CanonicalIdentityRole} {storeIds : Finset Uuid} {changed : Prop}
    [Decidable changed] (someRole : roles.Nonempty) (valid : ValidPair roles storeIds)
    (exact : changed ↔ account.AccessChanged roles storeIds)
    {write : IdentityDatabase → IdentityDatabase}
    (rewrites : Rewrites db (write db) userId account roles storeIds)
    {response : IdentityResponse} :
    Settles db userId
      ((if ¬changed ∧ account.access.rolesMissing = false ∧
          account.access.assignmentsMissing = false then answer response
      else .finish fun before =>
        (if changed then
          bumpTokenVersion principal account.user account.access roles storeIds (write before)
        else write before,.ok response) : IdentityProgram).run db) := by
  have inStep := Account.InStep.replaced account someRole valid
  split
  · rename_i same
    exact .settled inStep (idle_writes found exact same)
  · exact .settled inStep (bumped_writes principal found rewrites exact)

theorem settles_createCanonicalUser (create : CanonicalUserCreate) :
    Settles db userId ((createCanonicalUser principal create userId).run db) := by
  apply settles_ensure
  intro permitted
  apply settles_ensureStores
  apply settles_ensure
  intro free
  rw [commitOr,Program.run_finish]
  cases inserted : insertCanonicalUser principal create (Account.created create userId).user db with
  | none =>
      rw [Account.created] at inserted
      rw [inserted]
      exact .failed
  | some written =>
      have writes := (insertCanonicalUser_writes inserted).2
      rw [Account.created] at inserted
      rw [inserted]
      have inStep : (Account.created create userId).InStep := ⟨create.someRole,create.paired,rfl⟩
      exact .settled inStep writes

theorem settles_replaceUserAccess (replace : UserAccessReplace) :
    Settles db userId ((replaceUserAccess principal userId replace).run db) := by
  apply settles_ensure
  intro permitted
  apply settles_lockAccessTarget
  intro account found
  rw [run_loadCanonicalAccess found]
  apply settles_ensureValidCanonicalAccessPair
  intro valid
  apply settles_ensureStores
  apply settles_ensureNotRemovingLastTenantAdmin
  exact settles_replacement found replace.someRole valid Iff.rfl (access_rewritten db _ _)

theorem settles_replaceUserRoles (replace : UserRolesReplace) :
    Settles db userId ((replaceUserRoles principal userId replace).run db) := by
  apply settles_ensure
  intro permitted
  apply settles_lockAccessTarget
  intro account found
  rw [run_loadCanonicalAccess found]
  apply settles_ensureValidCanonicalAccessPair
  intro valid
  apply settles_ensureNotRemovingLastTenantAdmin
  exact settles_replacement found replace.someRole valid (roles_changed_iff _)
    (roles_rewritten db _)

theorem settles_replaceUserStoreAssignments (replace : UserStoreAssignmentsReplace) :
    Settles db userId ((replaceUserStoreAssignments principal userId replace).run db) := by
  apply settles_lockAccessTarget
  intro account found
  rw [run_loadCanonicalAccess found]
  apply settles_ensure
  intro someRole
  apply settles_ensureValidCanonicalAccessPair
  intro valid
  apply settles_ensureStores
  apply settles_ensure
  intro permitted
  exact settles_replacement found someRole valid (stores_changed_iff _) (stores_rewritten db _)

theorem settles_perform (operation : AccessOperation) (db : IdentityDatabase) :
    Settles db operation.target (operation.perform db) := by
  cases operation with
  | createCanonicalUser principal request userId => exact settles_createCanonicalUser request
  | replaceUserAccess principal userId request => exact settles_replaceUserAccess request
  | replaceUserRoles principal userId request => exact settles_replaceUserRoles request
  | replaceUserStoreAssignments principal userId request =>
      exact settles_replaceUserStoreAssignments request

end Operations

section Sequences

def InStepSince (start db : IdentityDatabase) : Prop :=
  ∀ userId account, start.user? userId = none → db.account? userId = some account → account.InStep

theorem inStepSince_start (start : IdentityDatabase) : InStepSince start start := by
  intro userId account absent found
  rw [(IdentityDatabase.account?_eq_some.mp found).1] at absent
  cases absent

/-- One operation: its user's account is in step after it, and the others are as before. -/
theorem InStepSince.perform {start db : IdentityDatabase} (inStep : InStepSince start db)
    (operation : AccessOperation) : InStepSince start (operation.perform db).1 := by
  intro userId account absent found
  have settles := settles_perform operation db
  generalize operation.perform db = result at settles found
  cases settles with
  | failed => exact inStep userId account absent found
  | settled written writes =>
      rcases writes.cases found with ⟨-,rfl⟩ | ⟨-,old⟩
      · exact written
      · exact inStep userId account absent old

theorem InStepSince.afterAll {start db : IdentityDatabase} (inStep : InStepSince start db)
    (operations : List AccessOperation) : InStepSince start (db.afterAll operations) := by
  induction operations generalizing db with
  | nil => exact inStep
  | cons operation operations ih => exact ih (inStep.perform operation)

theorem perform_failed {db : IdentityDatabase} {operation : AccessOperation} {failure : Failure}
    (failed : (operation.perform db).2 = .error failure) : (operation.perform db).1 = db := by
  have settles := settles_perform operation db
  generalize operation.perform db = result at settles failed
  cases settles with
  | failed => rfl
  | settled written writes => cases failed

/-- After every sequence of operations the grants of every user created in it follow from its
roles and stores, which fit each other, and an operation that fails then changes nothing. -/
theorem canonical_and_legacy_access_agree (start : IdentityDatabase)
    (operations : List AccessOperation) :
    (∀ user ∈ (start.afterAll operations).users.rows, start.user? user.id = none →
      (start.afterAll operations).grantsOf user.id =
          compatibilityGrantSpecs ((start.afterAll operations).rolesOf user.id)
            ((start.afterAll operations).storesOf user.id) ∧
        (((start.afterAll operations).storesOf user.id).Nonempty ↔
          StoreScoped ((start.afterAll operations).rolesOf user.id))) ∧
      ∀ (operation : AccessOperation) (failure : Failure),
        (operation.perform (start.afterAll operations)).2 = .error failure →
        (operation.perform (start.afterAll operations)).1 = start.afterAll operations := by
  constructor
  · intro user member absent
    have found := IdentityDatabase.account?_of_mem member
    have inStep := (inStepSince_start start).afterAll operations user.id _ absent found
    exact ⟨inStep.derived,inStep.paired.symm⟩
  · exact fun operation failure failed => perform_failed failed

end Sequences

end Abacus

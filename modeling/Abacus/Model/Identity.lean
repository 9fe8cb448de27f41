import Mathlib.Data.Finset.Sort
import Mathlib.Data.Finset.Union
import Mathlib.Data.Finset.Option
import Mathlib.Data.PNat.Basic
import Abacus.Library.Association
import Abacus.Model.Security
import Abacus.Model.Services

/-! Users, their canonical access and the legacy grants kept beside it (`services/identity.py`).
Every service is the program of its statements. The schemas reject lists with
duplicates, so a request carries sets.
-/
set_option autoImplicit false

namespace Abacus

open Relational Transaction

inductive UserStatus where
  | active | suspended
deriving DecidableEq, Repr

def firstTokenVersion : ℕ+ := 1

def nextTokenVersion (version : ℕ+) : ℕ+ := version + 1

theorem lt_nextTokenVersion (version : ℕ+) : version < nextTokenVersion version :=
  PNat.lt_add_right version 1

structure User where
  id : Uuid
  email : String
  displayName : String
  status : UserStatus
  tokenVersion : ℕ+
deriving DecidableEq

/-- A row of `user_access_grants`: the administrator's has no store, the others have one. -/
inductive UserAccessGrant where
  | corporateAdmin
  | storeManager (storeId : Uuid)
  | storeAssociate (storeId : Uuid)
deriving DecidableEq, Repr

def UserAccessGrant.role : UserAccessGrant → IdentityRole
  | .corporateAdmin => .corporateAdmin
  | .storeManager _ => .storeManager
  | .storeAssociate _ => .storeAssociate

def UserAccessGrant.storeId : UserAccessGrant → Option Uuid
  | .corporateAdmin => none
  | .storeManager storeId => some storeId
  | .storeAssociate storeId => some storeId

/-- The `details` of an audit record, under its action. -/
inductive IdentityAuditDetails where
  | userCreated (email : String) (roles : List CanonicalIdentityRole) (storeIds : List Uuid)
  | userAccessChanged (previousRoles : List CanonicalIdentityRole) (previousStoreIds : List Uuid)
      (roles : List CanonicalIdentityRole) (storeIds : List Uuid) (newTokenVersion : ℕ+)
  | userSuspended (email : String) (newTokenVersion : ℕ+)
deriving DecidableEq

structure IdentityAuditRecord where
  actorUserId : Uuid
  targetUserId : Uuid
  details : IdentityAuditDetails
deriving DecidableEq

structure AccessTokenClaims where
  userId : Uuid
  tenantId : Uuid
  tokenVersion : ℕ+
  expiresAt : Time
  sessionId : Option Uuid
deriving DecidableEq

/-- The tenant's identity tables. The issued tokens are in no table: they are a ghost record of
what `create_access_token` has signed. -/
structure IdentityDatabase where
  tenantId : Uuid
  stores : Table Store.id
  users : Table User.id
  userRoles : Association Uuid CanonicalIdentityRole
  userStoreAssignments : Association Uuid Uuid
  userAccessGrants : Association Uuid UserAccessGrant
  auditRecords : List IdentityAuditRecord
  issuedTokens : List AccessTokenClaims

namespace IdentityDatabase

def user? (db : IdentityDatabase) (userId : Uuid) : Option User := db.users.find? userId

def rolesOf (db : IdentityDatabase) (userId : Uuid) : Finset CanonicalIdentityRole :=
  db.userRoles.of userId

def storesOf (db : IdentityDatabase) (userId : Uuid) : Finset Uuid :=
  db.userStoreAssignments.of userId

def grantsOf (db : IdentityDatabase) (userId : Uuid) : Finset UserAccessGrant :=
  db.userAccessGrants.of userId

end IdentityDatabase

/-- `sorted(roles, key=lambda item: item.value)`. -/
def sortedRoles (roles : Finset CanonicalIdentityRole) : List CanonicalIdentityRole :=
  [.corporateUser,.storeAssociate,.storeManager,.tenantAdmin].filter fun role => role ∈ roles

def sortedStoreIds (storeIds : Finset Uuid) : List Uuid := storeIds.sort

section Requests

/-- `has_store_scoped_role`. -/
def StoreScoped (roles : Finset CanonicalIdentityRole) : Prop :=
  .storeAssociate ∈ roles ∨ .storeManager ∈ roles

instance (roles : Finset CanonicalIdentityRole) : Decidable (StoreScoped roles) :=
  inferInstanceAs (Decidable (_ ∨ _))

structure CanonicalUserCreate where
  email : String
  displayName : String
  roles : Finset CanonicalIdentityRole
  storeIds : Finset Uuid
  someRole : roles.Nonempty
  fewStores : storeIds.card ≤ 500
  paired : StoreScoped roles ↔ storeIds.Nonempty

structure UserAccessReplace where
  roles : Finset CanonicalIdentityRole
  storeIds : Finset Uuid
  someRole : roles.Nonempty
  fewStores : storeIds.card ≤ 500
  paired : StoreScoped roles ↔ storeIds.Nonempty

structure UserRolesReplace where
  roles : Finset CanonicalIdentityRole
  someRole : roles.Nonempty

structure UserStoreAssignmentsReplace where
  storeIds : Finset Uuid
  fewStores : storeIds.card ≤ 500

end Requests

section Responses

structure CanonicalUserRecord where
  user : User
  roles : List CanonicalIdentityRole
  storeIds : List Uuid
deriving DecidableEq

structure CanonicalUserAccess where
  userId : Uuid
  roles : List CanonicalIdentityRole
  storeIds : List Uuid
deriving DecidableEq

structure UserRecord where
  user : User
  grants : Finset UserAccessGrant
deriving DecidableEq

inductive IdentityResponse where
  | canonicalUser (record : CanonicalUserRecord)
  | canonicalAccess (access : CanonicalUserAccess)
  | user (record : UserRecord)
  | accessToken (claims : AccessTokenClaims)
deriving DecidableEq

def canonicalUserAccess (userId : Uuid) (roles : Finset CanonicalIdentityRole)
    (storeIds : Finset Uuid) : IdentityResponse :=
  .canonicalAccess ⟨userId,sortedRoles roles,sortedStoreIds storeIds⟩

end Responses

/-- The rows that the services lock `FOR UPDATE`. -/
inductive IdentityLock where
  | tenant
  | user (userId : Uuid)
deriving DecidableEq, Repr

abbrev IdentityProgram := Service IdentityDatabase IdentityLock IdentityResponse

section Writes

namespace IdentityDatabase

def persistRoleRows (db : IdentityDatabase) (userId : Uuid)
    (roles : Finset CanonicalIdentityRole) : IdentityDatabase :=
  { db with userRoles := db.userRoles.replace userId roles }

def persistAssignmentRows (db : IdentityDatabase) (userId : Uuid) (storeIds : Finset Uuid) :
    IdentityDatabase :=
  { db with userStoreAssignments := db.userStoreAssignments.replace userId storeIds }

def persistCompatibilityGrants (db : IdentityDatabase) (userId : Uuid)
    (specs : Finset UserAccessGrant) : IdentityDatabase :=
  { db with userAccessGrants := db.userAccessGrants.replace userId specs }

def addAuditRecord (db : IdentityDatabase) (record : IdentityAuditRecord) : IdentityDatabase :=
  { db with auditRecords := db.auditRecords ++ [record] }

def setStatus (db : IdentityDatabase) (userId : Uuid) (status : UserStatus) : IdentityDatabase :=
  { db with
    users := db.users.modify userId (fun row => { row with status := status }) fun _ => rfl }

def setTokenVersion (db : IdentityDatabase) (userId : Uuid) (tokenVersion : ℕ+) :
    IdentityDatabase :=
  { db with
    users := db.users.modify userId (fun row => { row with tokenVersion := tokenVersion })
      fun _ => rfl }

end IdentityDatabase

end Writes

section CanonicalAccess

/-- `_compatibility_grant_specs`. -/
def compatibilityGrantSpecs (roles : Finset CanonicalIdentityRole) (storeIds : Finset Uuid) :
    Finset UserAccessGrant :=
  (if .tenantAdmin ∈ roles then {.corporateAdmin} else ∅) ∪
    if .storeManager ∈ roles then storeIds.image .storeManager
    else if .storeAssociate ∈ roles ∨ .corporateUser ∈ roles then storeIds.image .storeAssociate
    else ∅

def canonicalRoleForLegacy : IdentityRole → CanonicalIdentityRole
  | .corporateAdmin => .tenantAdmin
  | .storeManager => .storeManager
  | .storeAssociate => .storeAssociate

structure CanonicalAccess where
  roles : Finset CanonicalIdentityRole
  storeIds : Finset Uuid
  rolesMissing : Bool
  assignmentsMissing : Bool
  grants : Finset UserAccessGrant

/-- Users from before the canonical tables fall back on their grants. -/
def canonicalAccess (roleRows : Finset CanonicalIdentityRole) (assignmentRows : Finset Uuid)
    (grants : Finset UserAccessGrant) : CanonicalAccess where
  roles :=
    if roleRows = ∅ then grants.image fun grant => canonicalRoleForLegacy grant.role else roleRows
  storeIds :=
    if assignmentRows = ∅ then grants.biUnion fun grant => grant.storeId.toFinset
    else assignmentRows
  rolesMissing := roleRows = ∅
  assignmentsMissing := assignmentRows = ∅
  grants := grants

/-- `_load_canonical_access`. -/
def loadCanonicalAccess (userId : Uuid) (next : CanonicalAccess → IdentityProgram) :
    IdentityProgram :=
  .read fun roles => .read fun assignments => .read fun grants =>
    next (canonicalAccess (roles.rolesOf userId) (assignments.storesOf userId)
      (grants.grantsOf userId))

end CanonicalAccess

section Checks

def userNotFound : Failure :=
  .apiError 404 "User not found" "The requested user does not exist." none

def lockAccessTarget (userId : Uuid) (next : User → IdentityProgram) : IdentityProgram :=
  .lock (.user userId) fun db => (db.user? userId).elim (abandon userNotFound) next

def lockTenant (next : IdentityProgram) : IdentityProgram := .lock .tenant fun _ => next

def ensureValidCanonicalAccessPair (roles : Finset CanonicalIdentityRole) (storeIds : Finset Uuid)
    (next : IdentityProgram) : IdentityProgram :=
  ensure (StoreScoped roles → storeIds.Nonempty)
    (.apiError 422 "Store assignment required"
      "Store-scoped roles require at least one store assignment."
      (some "store_assignment_required"))
    (ensure (storeIds.Nonempty → StoreScoped roles)
      (.apiError 422 "Store assignment not allowed"
        "Store assignments require a store-scoped role." (some "store_assignment_not_allowed"))
      next)

def storesPass (stores : Table Store.id) (passes : StoreStatus → Bool) (storeIds : Finset Uuid) :
    Prop :=
  ∀ storeId ∈ storeIds, (stores.find? storeId).any fun store => passes store.status

instance (stores : Table Store.id) (passes : StoreStatus → Bool) (storeIds : Finset Uuid) :
    Decidable (storesPass stores passes storeIds) :=
  inferInstanceAs (Decidable (∀ storeId ∈ storeIds, _))

def ensureStores (passes : StoreStatus → Bool) (detail : String) (storeIds : Finset Uuid)
    (next : IdentityProgram) : IdentityProgram :=
  if storeIds = ∅ then next
  else .read fun db => ensure (storesPass db.stores passes storeIds)
    (.apiError 422 "Invalid store scope" detail (some "invalid_store_scope")) next

def ensureActiveStoreIds : Finset Uuid → IdentityProgram → IdentityProgram :=
  ensureStores (fun status => status = .active)
    "Every store assignment must reference an active store in the current tenant."

def ensureValidStoreIds : Finset Uuid → IdentityProgram → IdentityProgram :=
  ensureStores (fun status => status ≠ .inactive)
    "Every assignment must reference a non-inactive store in the current tenant."

def IdentityDatabase.anotherCanonicalAdmin (db : IdentityDatabase) (excludedUserId : Uuid) : Bool :=
  db.users.rows.any fun user => user.id ≠ excludedUserId ∧ .tenantAdmin ∈ db.rolesOf user.id ∧
    user.status = .active

def IdentityDatabase.anotherLegacyAdmin (db : IdentityDatabase) (excludedUserId : Uuid) : Bool :=
  db.users.rows.any fun user => user.id ≠ excludedUserId ∧ .corporateAdmin ∈ db.grantsOf user.id ∧
    user.status = .active

def ensureAnotherActiveTenantAdmin (excludedUserId : Uuid) (next : IdentityProgram) :
    IdentityProgram :=
  .read fun canonical => .read fun legacy =>
    ensure (canonical.anotherCanonicalAdmin excludedUserId = true ∨
        legacy.anotherLegacyAdmin excludedUserId = true)
      (.apiError 409 "Last tenant administrator"
        "Assign another tenant administrator before removing this administrator's access."
        (some "last_tenant_admin"))
      next

def ensureNotSuspendingLastTenantAdmin (userId : Uuid) (grants : Finset UserAccessGrant)
    (next : IdentityProgram) : IdentityProgram :=
  .read fun db =>
    if .tenantAdmin ∈ db.rolesOf userId ∨ .corporateAdmin ∈ grants then
      ensureAnotherActiveTenantAdmin userId next
    else next

def ensureNotRemovingLastTenantAdmin (userId : Uuid)
    (existingRoles requestedRoles : Finset CanonicalIdentityRole) (next : IdentityProgram) :
    IdentityProgram :=
  if .tenantAdmin ∈ existingRoles ∧ .tenantAdmin ∉ requestedRoles then
    ensureAnotherActiveTenantAdmin userId next
  else next

def Principal.allowedStoreIds (principal : Principal) (permission : Permission) : Finset Uuid :=
  (principal.storeIdsForPermission permission).toFinset

def roleAssignmentForbidden (detail : String) : Failure :=
  .apiError 403 "Forbidden" detail (some "role_assignment_forbidden")

def ensureTenantAdministrator (principal : Principal) (detail : String) (next : IdentityProgram) :
    IdentityProgram :=
  ensure (principal.hasTenantPermission .usersCreate = true) (roleAssignmentForbidden detail) next

/-- Without tenant-wide permission, only associates within the principal's own stores. -/
def ensureAssociatesWithin (principal : Principal) (roles : Finset CanonicalIdentityRole)
    (storeIds : Finset Uuid) (detail : String) (next : IdentityProgram) : IdentityProgram :=
  ensure (principal.hasTenantPermission .usersCreate = true ∨
      roles = {.storeAssociate} ∧ storeIds ⊆ principal.allowedStoreIds .usersCreate)
    (roleAssignmentForbidden detail) next

def ensureCanSuspend (principal : Principal) (grants : Finset UserAccessGrant)
    (next : IdentityProgram) : IdentityProgram :=
  ensure (principal.hasTenantPermission .usersSuspend = true ∨
      grants.Nonempty ∧ ∀ grant ∈ grants, grant.role = .storeAssociate ∧
        ∃ storeId ∈ principal.allowedStoreIds .usersSuspend, grant.storeId = some storeId)
    (.apiError 403 "Forbidden"
      "Store managers may suspend associates only within stores they manage."
      (some "user_suspension_forbidden"))
    next

def visibleGrants (principal : Principal) (permission : Permission)
    (grants : Finset UserAccessGrant) : Finset UserAccessGrant :=
  if principal.hasTenantPermission permission then grants
  else grants.filter fun grant =>
    ∃ storeId ∈ principal.allowedStoreIds permission, grant.storeId = some storeId

end Checks

section Services

def insertCanonicalUser (principal : Principal) (request : CanonicalUserCreate) (user : User)
    (db : IdentityDatabase) : Option IdentityDatabase :=
  if db.users.rows.any fun other => other.email = user.email then none
  else (db.users.insert user).map fun users =>
    ((({ db with users := users }.persistRoleRows user.id request.roles).persistAssignmentRows
      user.id request.storeIds).persistCompatibilityGrants user.id
        (compatibilityGrantSpecs request.roles request.storeIds)).addAuditRecord
      ⟨principal.userId,user.id,
        .userCreated user.email (sortedRoles request.roles) (sortedStoreIds request.storeIds)⟩

def createCanonicalUser (principal : Principal) (request : CanonicalUserCreate) (userId : Uuid) :
    IdentityProgram :=
  let user : User := ⟨userId,request.email,request.displayName,.active,firstTokenVersion⟩
  ensureAssociatesWithin principal request.roles request.storeIds
    "Store managers may create associates only within stores they manage."
    (ensureActiveStoreIds request.storeIds
      (.read fun db =>
        ensure ((db.users.rows.any fun other => other.email = request.email) = false)
          (.apiError 409 "User already exists"
            "A user with this email already exists in the tenant." (some "user_email_conflict"))
          (commitOr
            (.apiError 409 "User creation conflict"
              "The user or one of its access assignments was created concurrently."
              (some "user_creation_conflict"))
            (.canonicalUser ⟨user,sortedRoles request.roles,sortedStoreIds request.storeIds⟩)
            (insertCanonicalUser principal request user))))

def suspendUser (principal : Principal) (userId : Uuid) : IdentityProgram :=
  ensure (userId ≠ principal.userId)
    (.apiError 409 "Cannot suspend current user" "A user cannot suspend their own account."
      (some "self_suspension_forbidden"))
    (lockTenant (lockAccessTarget userId fun user =>
      .read fun loaded =>
        let grants := loaded.grantsOf userId
        ensureCanSuspend principal grants
          (if user.status = .suspended then
            answer (.user ⟨user,visibleGrants principal .usersRead grants⟩)
          else ensureNotSuspendingLastTenantAdmin userId grants
            (.finish fun db =>
              let newTokenVersion := nextTokenVersion user.tokenVersion
              (((db.setStatus userId .suspended).setTokenVersion userId
                newTokenVersion).addAuditRecord
                ⟨principal.userId,userId,.userSuspended user.email newTokenVersion⟩,
                .ok (.user ⟨{ user with status := .suspended, tokenVersion := newTokenVersion },
                  visibleGrants principal .usersRead grants⟩))))))

/-- The new token version and `_audit_access_change`. -/
def bumpTokenVersion (principal : Principal) (user : User) (existing : CanonicalAccess)
    (roles : Finset CanonicalIdentityRole) (storeIds : Finset Uuid) (db : IdentityDatabase) :
    IdentityDatabase :=
  (db.setTokenVersion user.id (nextTokenVersion user.tokenVersion)).addAuditRecord
    ⟨principal.userId,user.id,.userAccessChanged (sortedRoles existing.roles)
      (sortedStoreIds existing.storeIds) (sortedRoles roles) (sortedStoreIds storeIds)
      (nextTokenVersion user.tokenVersion)⟩

def replaceUserAccess (principal : Principal) (userId : Uuid) (request : UserAccessReplace) :
    IdentityProgram :=
  ensureTenantAdministrator principal "Only a tenant administrator may replace complete user access."
    (lockTenant (lockAccessTarget userId fun user => loadCanonicalAccess userId fun existing =>
      ensureValidCanonicalAccessPair request.roles request.storeIds
        (ensureValidStoreIds request.storeIds
          (ensureNotRemovingLastTenantAdmin userId existing.roles request.roles
            (let desired := compatibilityGrantSpecs request.roles request.storeIds
            let accessChanged := request.roles ≠ existing.roles ∨
              request.storeIds ≠ existing.storeIds ∨ desired ≠ existing.grants
            let response := canonicalUserAccess userId request.roles request.storeIds
            if ¬accessChanged ∧ existing.rolesMissing = false ∧
                existing.assignmentsMissing = false then answer response
            else .finish fun db =>
              let written := ((db.persistRoleRows userId request.roles).persistAssignmentRows
                userId request.storeIds).persistCompatibilityGrants userId desired
              (if accessChanged then
                bumpTokenVersion principal user existing request.roles request.storeIds written
              else written,.ok response))))))

def replaceUserRoles (principal : Principal) (userId : Uuid) (request : UserRolesReplace) :
    IdentityProgram :=
  ensureTenantAdministrator principal "Only a tenant administrator may replace user roles."
    (lockTenant (lockAccessTarget userId fun user => loadCanonicalAccess userId fun existing =>
      ensureValidCanonicalAccessPair request.roles existing.storeIds
        (ensureNotRemovingLastTenantAdmin userId existing.roles request.roles
          (let desired := compatibilityGrantSpecs request.roles existing.storeIds
          let accessChanged := request.roles ≠ existing.roles ∨ desired ≠ existing.grants
          let response := canonicalUserAccess userId request.roles existing.storeIds
          if ¬accessChanged ∧ existing.rolesMissing = false ∧
              existing.assignmentsMissing = false then answer response
          else .finish fun db =>
            let roled := db.persistRoleRows userId request.roles
            let assigned :=
              if existing.assignmentsMissing then roled.persistAssignmentRows userId existing.storeIds
              else roled
            let written :=
              if desired ≠ existing.grants then assigned.persistCompatibilityGrants userId desired
              else assigned
            (if accessChanged then
              bumpTokenVersion principal user existing request.roles existing.storeIds written
            else written,.ok response)))))

def replaceUserStoreAssignments (principal : Principal) (userId : Uuid)
    (request : UserStoreAssignmentsReplace) : IdentityProgram :=
  lockAccessTarget userId fun user => loadCanonicalAccess userId fun existing =>
    ensure existing.roles.Nonempty
      (.apiError 422 "Missing role" "Assign at least one role before assigning stores."
        (some "user_role_required"))
      (ensureValidCanonicalAccessPair existing.roles request.storeIds
        (ensureValidStoreIds request.storeIds
          (ensureAssociatesWithin principal existing.roles (request.storeIds ∪ existing.storeIds)
            "Store managers may assign associates only within stores they manage."
            (let desired := compatibilityGrantSpecs existing.roles request.storeIds
            let accessChanged := request.storeIds ≠ existing.storeIds ∨ desired ≠ existing.grants
            let response := canonicalUserAccess userId existing.roles request.storeIds
            if ¬accessChanged ∧ existing.rolesMissing = false ∧
                existing.assignmentsMissing = false then answer response
            else .finish fun db =>
              let roled :=
                if existing.rolesMissing then db.persistRoleRows userId existing.roles else db
              let assigned := roled.persistAssignmentRows userId request.storeIds
              let written :=
                if desired ≠ existing.grants then assigned.persistCompatibilityGrants userId desired
                else assigned
              (if accessChanged then
                bumpTokenVersion principal user existing existing.roles request.storeIds written
              else written,.ok response)))))

/-- `create_access_token` for the user that a login or a refresh has loaded. -/
def createAccessToken (userId : Uuid) (sessionId : Option Uuid) (expiresAt : Time) :
    IdentityProgram :=
  .finish fun db =>
    match db.user? userId with
    | none => (db,.error userNotFound)
    | some user =>
        let claims : AccessTokenClaims :=
          ⟨userId,db.tenantId,user.tokenVersion,expiresAt,sessionId⟩
        ({ db with issuedTokens := db.issuedTokens ++ [claims] },.ok (.accessToken claims))

end Services

inductive IdentityRequest where
  | createCanonicalUser (principal : Principal) (request : CanonicalUserCreate) (userId : Uuid)
  | replaceUserAccess (principal : Principal) (userId : Uuid) (request : UserAccessReplace)
  | replaceUserRoles (principal : Principal) (userId : Uuid) (request : UserRolesReplace)
  | replaceUserStoreAssignments (principal : Principal) (userId : Uuid)
      (request : UserStoreAssignmentsReplace)
  | suspendUser (principal : Principal) (userId : Uuid)
  | createAccessToken (userId : Uuid) (sessionId : Option Uuid) (expiresAt : Time)

def identityService : IdentityRequest → IdentityProgram
  | .createCanonicalUser principal request userId => createCanonicalUser principal request userId
  | .replaceUserAccess principal userId request => replaceUserAccess principal userId request
  | .replaceUserRoles principal userId request => replaceUserRoles principal userId request
  | .replaceUserStoreAssignments principal userId request =>
      replaceUserStoreAssignments principal userId request
  | .suspendUser principal userId => suspendUser principal userId
  | .createAccessToken userId sessionId expiresAt => createAccessToken userId sessionId expiresAt

end Abacus

import Abacus.Library.Listing
import Abacus.Model.Identity
import Abacus.Model.Policies

/-! What is listed and looked up of the policies (`services/replenishment.py`) and of the users
(`services/identity.py`).
The statements of a listing are taken on one state of the database.
-/
set_option autoImplicit false

namespace Abacus

open Relational

section Versions

def policyVersionStatusForbidden : Failure :=
  .apiError 403 "Forbidden"
    "Draft and retired policy versions require policy-management permission."
    (some "policy_version_status_forbidden")

/-- `_authorized_policy_version_status`. -/
def authorizedPolicyVersionStatus (principal : Principal)
    (requestedStatus : Option PolicyVersionStatus) : Attempt (Option PolicyVersionStatus) :=
  if principal.hasPermission .policyManage then .ok requestedStatus
  else if requestedStatus ≠ none ∧ requestedStatus ≠ some .active then
    .error policyVersionStatusForbidden
  else .ok (some .active)

/-- `lifecycle_order`. -/
def PolicyVersionStatus.lifecycleOrder : PolicyVersionStatus → ℕ
  | .active => 0
  | .draft => 1
  | .retired => 2

/-- `version_order`. -/
def versionOrder (versionStatus : Option PolicyVersionStatus) (left right : PolicyVersion) : Bool :=
  match versionStatus with
  | none => left.status.lifecycleOrder < right.status.lifecycleOrder ∨
      left.status.lifecycleOrder = right.status.lifecycleOrder ∧
        right.versionNumber ≤ left.versionNumber
  | some _ => right.versionNumber ≤ left.versionNumber

/-- The version of a policy of the first rank in `_selected_policy_versions`. -/
def Policies.selectedVersion? (policies : Policies) (versionStatus : Option PolicyVersionStatus)
    (policyId : Uuid) : Option PolicyVersion :=
  (((policies.versionsOf policyId).filter fun version =>
    versionStatus.all fun status => version.status = status).insertionSort fun left right =>
      versionOrder versionStatus left right).head?

end Versions

section Bundles

/-- `_load_bundle`. -/
def PolicyDatabase.bundle (db : PolicyDatabase) (versionId : Uuid) : Attempt PolicyBundle :=
  match db.policies.versions.find? versionId with
  | none => .error policyVersionNotFound
  | some version =>
      match db.definitions.find? version.policyId with
      | none => .error policyNotFound
      | some policy => .ok ⟨policy,version,db.policies.bundleRules version.id⟩

/-- A rule for all stores, or for one where the principal may read policies. -/
def Principal.readsRule (principal : Principal) (rule : PolicyRule) : Bool :=
  rule.storeId.all fun storeId => storeId ∈ principal.storeIdsForPermission .policyRead

/-- `_visible_bundle`. -/
def visibleBundle (bundle : PolicyBundle) (principal : Principal) : Option PolicyBundle :=
  if principal.hasTenantPermission .policyRead then some bundle
  else
    let visibleRules := bundle.rules.filter principal.readsRule
    if visibleRules.isEmpty then none else some { bundle with rules := visibleRules }

def getPolicyBundle (db : PolicyDatabase) (principal : Principal) (policyId : Uuid)
    (versionStatus : Option PolicyVersionStatus) : Attempt PolicyBundle := do
  let versionStatus ← authorizedPolicyVersionStatus principal versionStatus
  match db.policies.selectedVersion? versionStatus policyId with
  | none => .error policyNotFound
  | some version =>
      let bundle ← db.bundle version.id
      match visibleBundle bundle principal with
      | none => .error policyNotFound
      | some visible => .ok visible

/-- The order of `updated_at` and then the id, both descending. -/
def laterPolicy (updatedAt : Uuid → Time) (left right : PolicyDefinition) : Bool :=
  updatedAt right.id < updatedAt left.id ∨
    updatedAt right.id = updatedAt left.id ∧ right.id ≤ left.id

/-- The row of a policy in the query of `list_policy_bundles`, with the version selected of it. -/
def PolicyDatabase.listedVersion (db : PolicyDatabase) (principal : Principal)
    (versionStatus : Option PolicyVersionStatus) (policy : PolicyDefinition) :
    Option (PolicyDefinition × PolicyVersion) :=
  (db.policies.selectedVersion? versionStatus policy.id).bind fun version =>
    if principal.hasTenantPermission .policyRead ||
        db.policies.rules.rows.any fun rule =>
          rule.versionId = version.id ∧ principal.readsRule rule then
      some (policy,version)
    else none

/-- `list_policy_bundles`, where `updatedAt` is the column of that name. -/
def listPolicyBundles (updatedAt : Uuid → Time) (db : PolicyDatabase) (principal : Principal)
    (limit offset : ℕ) (versionStatus : Option PolicyVersionStatus) :
    Attempt (List PolicyBundle × ℕ) := do
  let versionStatus ← authorizedPolicyVersionStatus principal versionStatus
  let query := db.definitions.rows.filterMap (db.listedVersion principal versionStatus)
  let ordered := query.insertionSort fun left right => laterPolicy updatedAt left.1 right.1
  let bundles ← (Sql.page ordered limit offset).mapM fun row => db.bundle row.2.id
  .ok (bundles.filterMap fun bundle => visibleBundle bundle principal,query.length)

end Bundles

section Users

def userScopeDenied : Failure :=
  .apiError 403 "Forbidden" "The requested user is outside the current user's access scope."
    (some "user_scope_denied")

namespace IdentityDatabase

variable (db : IdentityDatabase) (principal : Principal)

/-- `eligible_user_ids`: who has a grant in the store asked for, or else in one of the principal's. -/
def eligible (storeId : Option Uuid) (user : User) : Bool :=
  match storeId with
  | some storeId => decide (∃ grant ∈ db.grantsOf user.id, grant.storeId = some storeId)
  | none => principal.hasTenantPermission .usersRead ||
      decide (∃ grant ∈ db.grantsOf user.id,
        ∃ storeId ∈ principal.allowedStoreIds .usersRead, grant.storeId = some storeId)

def userRecord (user : User) : UserRecord :=
  ⟨user,visibleGrants principal .usersRead (db.grantsOf user.id)⟩

end IdentityDatabase

/-- The order by email, as the database collates it, and then by id. -/
def userOrder (collates : String → String → Bool) (left right : User) : Bool :=
  if left.email = right.email then left.id ≤ right.id else collates left.email right.email

def listUsers (collates : String → String → Bool) (db : IdentityDatabase) (principal : Principal)
    (storeId : Option Uuid) (limit offset : ℕ) : Attempt (List UserRecord × ℕ) :=
  if storeId.any fun storeId => !principal.canAccessStore .usersRead storeId then
    .error storeScopeDenied
  else
    let users := db.users.rows.filter (db.eligible principal storeId)
    let ordered := users.insertionSort fun left right => userOrder collates left right
    .ok ((Sql.page ordered limit offset).map (db.userRecord principal),users.length)

def getUser (db : IdentityDatabase) (principal : Principal) (userId : Uuid) : Attempt UserRecord :=
  match db.user? userId with
  | none => .error userNotFound
  | some user =>
      let record := db.userRecord principal user
      if record.grants = ∅ ∧ principal.hasTenantPermission .usersRead = false then
        .error userScopeDenied
      else .ok record

/-- `canonicalize_user_record`, for the principal of a request. -/
def canonicalizeUserRecord (db : IdentityDatabase) (principal : Principal) (record : UserRecord) :
    CanonicalUserRecord :=
  let access := canonicalAccess (db.rolesOf record.user.id) (db.storesOf record.user.id)
    (db.grantsOf record.user.id)
  let storeIds := if principal.hasTenantPermission .usersRead then access.storeIds
    else access.storeIds ∩ principal.allowedStoreIds .usersRead
  ⟨record.user,sortedRoles access.roles,sortedStoreIds storeIds⟩

end Users

end Abacus

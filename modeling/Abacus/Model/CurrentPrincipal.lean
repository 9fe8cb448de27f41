import Abacus.Model.Identity

/-! The principal behind an access token (`security.py`).
The token has been decoded: its signature, issuer, audience and expiry are the JWT
library's. Tenant and session rows are given, since no modelled service writes them.
-/
set_option autoImplicit false

namespace Abacus

open Relational

inductive TenantStatus where
  | provisioning | active | suspended
deriving DecidableEq, Repr

structure AuthSession where
  id : Uuid
  tenantId : Uuid
  userId : Uuid
  tokenVersion : ℕ+
  expiresAt : Time
  rotatedAt : Option Time
  revokedAt : Option Time
deriving DecidableEq

structure AuthState where
  tenantStatus : TenantStatus
  authSessions : Table AuthSession.id

structure CurrentPrincipal extends Principal where
  email : String
  displayName : String
  canonicalRoles : List CanonicalIdentityRole
  assignedStoreIds : List Uuid

def CanonicalIdentityRole.tenantWide (role : CanonicalIdentityRole) : Bool :=
  role = .tenantAdmin ∨ role = .corporateUser

/-- `tenant_wide`, for the store scope of the session. -/
def CurrentPrincipal.tenantWide (principal : CurrentPrincipal) : Bool :=
  principal.canonicalRoles.any CanonicalIdentityRole.tenantWide

def invalidAccessToken : Failure :=
  .apiError 401 "Unauthorized" "The access token is missing, invalid, or expired."
    (some "invalid_access_token")

/-- The checks of `auth_session` for a token that names its session. -/
def AuthState.sessionAccepts (auth : AuthState) (now : Time) (claims : AccessTokenClaims)
    (sessionId : Uuid) : Bool :=
  (auth.authSessions.find? sessionId).any fun session =>
    session.tenantId = claims.tenantId ∧ session.userId = claims.userId ∧
      session.tokenVersion = claims.tokenVersion ∧ session.revokedAt = none ∧
        session.rotatedAt = none ∧ now < session.expiresAt

def assignedStoreIdsOf (grants : Finset UserAccessGrant) : Finset Uuid :=
  grants.biUnion fun grant => grant.storeId.toFinset

def sortedGrants (grants : Finset UserAccessGrant) : List UserAccessGrant :=
  let storeIds := sortedStoreIds (assignedStoreIdsOf grants)
  (UserAccessGrant.corporateAdmin :: storeIds.map UserAccessGrant.storeAssociate ++
    storeIds.map UserAccessGrant.storeManager).filter fun grant => grant ∈ grants

/-- `scopes`: from the canonical rows, or from the legacy grants where there are none. -/
def roleScopes (roles : Finset CanonicalIdentityRole) (storeIds : Finset Uuid)
    (grants : Finset UserAccessGrant) : List RoleScope :=
  if roles = ∅ then (sortedGrants grants).map fun grant => ⟨.identity grant.role,grant.storeId⟩
  else (sortedRoles roles).flatMap fun role =>
    if role.tenantWide then [⟨.canonical role,none⟩]
    else (sortedStoreIds storeIds).map fun storeId => ⟨.canonical role,some storeId⟩

def IdentityDatabase.roleScopesOf (db : IdentityDatabase) (userId : Uuid) : List RoleScope :=
  roleScopes (db.rolesOf userId) (db.storesOf userId) (db.grantsOf userId)

/-- `get_current_principal`. -/
def currentPrincipal (db : IdentityDatabase) (auth : AuthState) (now : Time)
    (claims : AccessTokenClaims) : Attempt CurrentPrincipal :=
  match db.user? claims.userId with
  | none => .error invalidAccessToken
  | some user =>
      let access := canonicalAccess (db.rolesOf user.id) (db.storesOf user.id) (db.grantsOf user.id)
      let assigned :=
        if access.rolesMissing then assignedStoreIdsOf access.grants else db.storesOf user.id
      if claims.tenantId ≠ db.tenantId ∨ user.status ≠ .active ∨
          user.tokenVersion ≠ claims.tokenVersion ∨ auth.tenantStatus ≠ .active then
        .error invalidAccessToken
      else if claims.sessionId.any fun sessionId => !auth.sessionAccepts now claims sessionId then
        .error invalidAccessToken
      else if access.roles = ∅ then .error invalidAccessToken
      else .ok
        { userId := user.id
          tenantId := db.tenantId
          roleScopes := db.roleScopesOf user.id
          sessionId := claims.sessionId
          email := user.email
          displayName := user.displayName
          canonicalRoles := sortedRoles access.roles
          assignedStoreIds := sortedStoreIds assigned }

/-- Only a token at the user's version is accepted. -/
theorem currentPrincipal_stale {db : IdentityDatabase} {user : User} {claims : AccessTokenClaims}
    (found : db.user? claims.userId = some user)
    (stale : user.tokenVersion ≠ claims.tokenVersion) (auth : AuthState) (now : Time) :
    currentPrincipal db auth now claims = .error invalidAccessToken := by
  simp [currentPrincipal,found,stale]

end Abacus

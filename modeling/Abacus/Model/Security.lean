import Abacus.Model.Schema

/-! Roles, permissions and principals (`security.py`). -/
set_option autoImplicit false

namespace Abacus

inductive Permission where
  | tenantConfigure | usersCreate | usersRead | usersSuspend | identityAuditRead
  | catalogIngest | catalogRead | inventoryAdjust | inventoryRead | policyRead | policyManage
  | replenishmentRead | replenishmentManage | replenishmentExecute
deriving DecidableEq, Repr

inductive IdentityRole where
  | corporateAdmin | storeManager | storeAssociate
deriving DecidableEq, Repr

inductive CanonicalIdentityRole where
  | tenantAdmin | corporateUser | storeManager | storeAssociate
deriving DecidableEq, Repr

inductive AuthorizationRole where
  | identity (role : IdentityRole)
  | canonical (role : CanonicalIdentityRole)
deriving DecidableEq, Repr

def storeManagerPermissions : List Permission :=
  [.usersCreate,.usersRead,.usersSuspend,.catalogRead,.inventoryAdjust,.inventoryRead,.policyRead,
    .replenishmentRead,.replenishmentManage,.replenishmentExecute]

def storeAssociatePermissions : List Permission :=
  [.catalogRead,.inventoryRead,.policyRead,.replenishmentRead,.replenishmentExecute]

/-- `permission in ROLE_PERMISSIONS[role]`. -/
def AuthorizationRole.permits (permission : Permission) : AuthorizationRole → Bool
  | .identity .corporateAdmin => true
  | .identity .storeManager => decide (permission ∈ storeManagerPermissions)
  | .identity .storeAssociate => decide (permission ∈ storeAssociatePermissions)
  | .canonical .tenantAdmin => true
  | .canonical .corporateUser =>
      decide (permission ∈ [.catalogRead,.inventoryRead,.policyRead,.replenishmentRead])
  | .canonical .storeManager => decide (permission ∈ storeManagerPermissions)
  | .canonical .storeAssociate => decide (permission ∈ storeAssociatePermissions)

structure RoleScope where
  role : AuthorizationRole
  storeId : Option Uuid
deriving DecidableEq, Repr

structure Principal where
  userId : Uuid
  tenantId : Uuid
  roleScopes : List RoleScope
  sessionId : Option Uuid := none
deriving DecidableEq, Repr

def Principal.hasPermission (principal : Principal) (permission : Permission) : Bool :=
  principal.roleScopes.any fun scope => scope.role.permits permission

def Principal.hasTenantPermission (principal : Principal) (permission : Permission) : Bool :=
  principal.roleScopes.any fun scope => scope.storeId.isNone && scope.role.permits permission

def Principal.storeIdsForPermission (principal : Principal) (permission : Permission) : List Uuid :=
  (principal.roleScopes.filter fun scope => scope.role.permits permission).filterMap
    RoleScope.storeId

def Principal.canAccessStore (principal : Principal) (permission : Permission) (storeId : Uuid) :
    Bool :=
  principal.hasTenantPermission permission ||
    decide (storeId ∈ principal.storeIdsForPermission permission)

def storeScopeDenied : Failure :=
  .apiError 403 "Forbidden" "The requested store is outside the current user's access scope."
    (some "store_scope_denied")

/-- `_ensure_store_scope`. -/
def ensureStoreScope (principal : Principal) (permission : Permission) (storeId : Uuid) :
    Attempt Unit :=
  if principal.canAccessStore permission storeId then .ok () else .error storeScopeDenied

end Abacus

import Abacus.Model.CurrentPrincipal
import Abacus.Model.Onboarding

/-! The deployment commands that make the first administrator and the public reviewer of a tenant,
and the login with a password (`services/identity.py`).
The reviewer's command locks the rows of the tenant and of the user until it commits. The
administrator's locks nothing, and no index checks again that there is no administrator: two calls
of it that overlap can both write, and here no two overlap. Every service runs alone.
-/
set_option autoImplicit false

namespace Abacus.Bootstrap

open Relational (Table)
open Python (Text)
open Transition (Machine)
open Onboarding (Tenant TenantCreate)

/-- What the services take from others: the password library with the salt that a new hash draws,
`str.lower`, and `lower(btrim(…))` of the database. -/
structure Library where
  hash : String → ℕ → String
  /-- It raises on a hash of no known kind. -/
  verifyAndUpdate : String → String → ℕ → Option (Bool × Option String)
  dummyPasswordHash : String
  lower : Text → Text
  normalizedCode : Text → Text

section Rows

inductive ReviewerChange where
  | displayName | legacyGrantsRemoved | passwordHashUpgraded | passwordRotated | rolesReconciled
  | statusReactivated | storeAssignmentsRemoved
deriving DecidableEq, Repr

/-- The audit records of these services, under their actions. -/
inductive BootstrapAudit where
  | administratorCreated (userId : Uuid) (email : String) (role : IdentityRole)
  | reviewerCreated (userId : Uuid) (email : String) (roles : List CanonicalIdentityRole)
      (storeIds : List Uuid)
  | reviewerChanged (userId : Uuid) (email : String) (changes : List ReviewerChange)
      (newTokenVersion : ℕ+)
  | loginFailed (userId : Option Uuid) (email : String)
  | loginSucceeded (userId : Uuid) (email : String)
deriving DecidableEq

/-- The identity tables of one tenant, with the two columns of `users` that no other service has. -/
structure TenantUsers where
  identity : IdentityDatabase
  passwordHashes : Uuid → String
  lastLogins : Uuid → Option Time
  audits : List BootstrapAudit

structure Deployment where
  tenants : Table Tenant.id
  users : Uuid → TenantUsers

end Rows

structure UserCreate where
  email : String
  displayName : String
  password : String
  roleAssignments : List UserAccessGrant
  someAssignment : roleAssignments ≠ []
  distinct : roleAssignments.Nodup

structure Fresh where
  tenantId : Uuid
  userId : Uuid
  salt : ℕ

section Services

variable (library : Library)

/-- `verify_password_and_update`. -/
def verifyPasswordAndUpdate (password : String) (encodedHash : Option String) (salt : ℕ) :
    Bool × Option String :=
  let candidateHash := (encodedHash.filter fun hash => hash ≠ "").getD library.dummyPasswordHash
  (library.verifyAndUpdate password candidateHash salt).getD (false,none)

namespace TenantUsers

variable (users : TenantUsers)

def userByEmail (email : String) : Option User :=
  users.identity.users.rows.find? fun user => user.email = email

def addAuditRecord (record : BootstrapAudit) : TenantUsers :=
  { users with audits := users.audits ++ [record] }

def setPasswordHash (userId : Uuid) (hash : String) : TenantUsers :=
  { users with
    passwordHashes := fun other => if other = userId then hash else users.passwordHashes other }

/-- The rows of a new user, which has had none before, or the conflict of a user with its key. -/
def addUser (user : User) (roles : Finset CanonicalIdentityRole) (grants : Finset UserAccessGrant)
    (hash : String) : Option TenantUsers :=
  (users.identity.users.insert user).map fun rows =>
    { users.setPasswordHash user.id hash with
      identity := (((({ users.identity with users := rows }).persistRoleRows user.id
        roles).persistAssignmentRows user.id ∅).persistCompatibilityGrants user.id grants) }

end TenantUsers

section Administrator

def tenantAlreadyBootstrapped : Failure :=
  .apiError 409 "Tenant already bootstrapped"
    "A different corporate administrator already exists for this tenant."
    (some "bootstrap_admin_exists")

def bootstrapUserConflict : Failure :=
  .apiError 409 "Bootstrap user conflict"
    "The configured email already exists without the corporate administrator grant."
    (some "bootstrap_user_conflict")

def bootstrapConflict : Failure :=
  .apiError 409 "Bootstrap conflict"
    "The tenant or initial administrator was created concurrently." (some "bootstrap_conflict")

def bootstrapTenantConflict : Failure :=
  .apiError 409 "Tenant conflict"
    "The configured bootstrap tenant code already has another name."
    (some "bootstrap_tenant_conflict")

/-- `configured_admin`. -/
def TenantUsers.configuredAdmin (users : TenantUsers) (email : String) : Option User :=
  users.identity.users.rows.find? fun user =>
    user.email = email && decide (.corporateAdmin ∈ users.identity.grantsOf user.id)

def TenantUsers.anyAdminExists (users : TenantUsers) : Bool :=
  users.identity.users.rows.any fun user => .corporateAdmin ∈ users.identity.grantsOf user.id

/-- `bootstrap_corporate_admin` once the tenant is there. -/
def TenantUsers.bootstrapAdmin (users : TenantUsers) (request : UserCreate) (fresh : Fresh) :
    Attempt (UserRecord × TenantUsers) :=
  match users.configuredAdmin request.email with
  | some user =>
      let roles := users.identity.rolesOf user.id
      .ok (⟨user,{.corporateAdmin}⟩,
        if .tenantAdmin ∈ roles then users
        else { users with
          identity := users.identity.persistRoleRows user.id (insert .tenantAdmin roles) })
  | none =>
      if users.anyAdminExists then .error tenantAlreadyBootstrapped
      else if (users.userByEmail request.email).isSome then .error bootstrapUserConflict
      else
        let user : User :=
          ⟨fresh.userId,request.email,request.displayName,.active,firstTokenVersion⟩
        match users.addUser user {.tenantAdmin} {.corporateAdmin}
            (library.hash request.password fresh.salt) with
        | none => .error bootstrapConflict
        | some after => .ok (⟨user,{.corporateAdmin}⟩,
            after.addAuditRecord (.administratorCreated user.id user.email .corporateAdmin))

end Administrator

section Reviewer

def reviewerConflict (detail : String) : Failure :=
  .apiError 409 "Public reviewer bootstrap conflict" detail (some "public_reviewer_conflict")

def protectedAdministrator : Failure :=
  .apiError 409 "Protected administrator conflict"
    "The configured public-reviewer email belongs to a tenant administrator."
    (some "public_reviewer_admin_conflict")

def reviewerTenantNotFound : Failure :=
  .apiError 404 "Bootstrap tenant not found"
    "Create the configured tenant administrator before the public reviewer."
    (some "public_reviewer_tenant_not_found")

def reviewerTenantInactive : Failure :=
  .apiError 409 "Bootstrap tenant is inactive"
    "The public reviewer cannot be enabled for an inactive tenant."
    (some "public_reviewer_tenant_inactive")

namespace ReviewerChange

def applies (users : TenantUsers) (user : User) (request : CanonicalUserCreate)
    (password : String) (salt : ℕ) : ReviewerChange → Bool
  | .displayName => user.displayName ≠ request.displayName
  | .legacyGrantsRemoved => users.identity.grantsOf user.id ≠ ∅
  | .passwordHashUpgraded =>
      let stored := users.passwordHashes user.id
      let verified := verifyPasswordAndUpdate library password (some stored) salt
      verified.1 && verified.2.any fun hash => hash ≠ stored
  | .passwordRotated =>
      !(verifyPasswordAndUpdate library password (some (users.passwordHashes user.id)) salt).1
  | .rolesReconciled => users.identity.rolesOf user.id ≠ {.corporateUser}
  | .statusReactivated => user.status ≠ .active
  | .storeAssignmentsRemoved => users.identity.storesOf user.id ≠ ∅

/-- `invalidate_tokens`. -/
def invalidatesTokens : ReviewerChange → Bool
  | .displayName | .passwordHashUpgraded => false
  | .legacyGrantsRemoved | .passwordRotated | .rolesReconciled | .statusReactivated
  | .storeAssignmentsRemoved => true

def all : List ReviewerChange :=
  [.displayName,.legacyGrantsRemoved,.passwordHashUpgraded,.passwordRotated,.rolesReconciled,
    .statusReactivated,.storeAssignmentsRemoved]

end ReviewerChange

def setDisplayName (userId : Uuid) (displayName : String) (db : IdentityDatabase) :
    IdentityDatabase :=
  { db with
    users := db.users.modify userId (fun row => { row with displayName := displayName })
      fun _ => rfl }

section Reconcile

variable (users : TenantUsers) (user : User) (request : CanonicalUserCreate) (password : String)
  (salt : ℕ)

/-- `sorted(changes)`. -/
def reviewerChanges : List ReviewerChange :=
  ReviewerChange.all.filter (ReviewerChange.applies library users user request password salt)

def reviewerTokenVersion : ℕ+ :=
  if (reviewerChanges library users user request password salt).any
      ReviewerChange.invalidatesTokens then nextTokenVersion user.tokenVersion
  else user.tokenVersion

def reconciledIdentity : IdentityDatabase :=
  let applies := ReviewerChange.applies library users user request password salt
  let renamed :=
    if applies .displayName = true then setDisplayName user.id request.displayName users.identity
    else users.identity
  let reactivated :=
    if applies .statusReactivated = true then renamed.setStatus user.id .active else renamed
  let reconciled :=
    if applies .rolesReconciled = true then reactivated.persistRoleRows user.id {.corporateUser}
    else reactivated
  let unassigned :=
    if applies .storeAssignmentsRemoved = true then reconciled.persistAssignmentRows user.id ∅
    else reconciled
  let ungranted :=
    if applies .legacyGrantsRemoved = true then unassigned.persistCompatibilityGrants user.id ∅
    else unassigned
  if (reviewerChanges library users user request password salt).any
      ReviewerChange.invalidatesTokens = true then
    ungranted.setTokenVersion user.id
      (reviewerTokenVersion library users user request password salt)
  else ungranted

def reconciledHash : String :=
  let stored := users.passwordHashes user.id
  let verified := verifyPasswordAndUpdate library password (some stored) salt
  if verified.1 = false then library.hash password salt else verified.2.getD stored

def TenantUsers.reconcileReviewer : CanonicalUserRecord × TenantUsers :=
  let changes := reviewerChanges library users user request password salt
  let newTokenVersion := reviewerTokenVersion library users user request password salt
  let written := { users.setPasswordHash user.id
      (reconciledHash library users user password salt) with
    identity := reconciledIdentity library users user request password salt }
  (⟨{ user with
        displayName := request.displayName, status := .active, tokenVersion := newTokenVersion },
      [.corporateUser],[]⟩,
    if changes = [] then written
    else written.addAuditRecord (.reviewerChanged user.id user.email changes newTokenVersion))

end Reconcile

/-- `bootstrap_public_reviewer` in an active tenant. -/
def TenantUsers.bootstrapReviewer (users : TenantUsers) (request : CanonicalUserCreate)
    (password : String) (fresh : Fresh) : Attempt (CanonicalUserRecord × TenantUsers) :=
  match users.userByEmail request.email with
  | none =>
      let user : User := ⟨fresh.userId,request.email,request.displayName,.active,firstTokenVersion⟩
      match users.addUser user {.corporateUser} ∅ (library.hash password fresh.salt) with
      | none => .error (reviewerConflict
          "The public reviewer was created concurrently or conflicts with existing data.")
      | some after => .ok (⟨user,[.corporateUser],[]⟩,
          after.addAuditRecord (.reviewerCreated user.id user.email [.corporateUser] []))
  | some user =>
      if .tenantAdmin ∈ users.identity.rolesOf user.id ∨
          .corporateAdmin ∈ users.identity.grantsOf user.id then
        .error protectedAdministrator
      else .ok (users.reconcileReviewer library user request password fresh.salt)

end Reviewer

section Tenants

namespace Deployment

variable (deployment : Deployment)

def withUsers (tenantId : Uuid) (users : TenantUsers) : Deployment :=
  { deployment with
    users := fun other => if other = tenantId then users else deployment.users other }

/-- `abacus_resolve_login_tenant`. -/
def resolveLoginTenant (tenantCode : Text) : Option Tenant :=
  deployment.tenants.rows.find? fun tenant =>
    tenant.code = library.normalizedCode tenantCode && decide (tenant.status = .active)

def tenantByCode (tenantCode : Text) : Option Tenant :=
  deployment.tenants.rows.find? fun tenant => tenant.code = tenantCode

/-- The tenant of a code: through the resolver where the session can be pinned. -/
def tenantOf (tenantSession : Bool) (tenantCode : Text) : Option Tenant :=
  if tenantSession then deployment.resolveLoginTenant library tenantCode
  else deployment.tenantByCode tenantCode

/-- `bootstrap_corporate_admin`, which locks nothing and is taken to run alone. A session that is
pinned to the tenant it has resolved, or to a fresh one, sees no other tenant. -/
def bootstrapCorporateAdmin (tenantSession : Bool) (tenantRequest : TenantCreate)
    (request : UserCreate) (fresh : Fresh) : Attempt (UserRecord × Deployment) :=
  if request.roleAssignments ≠ [.corporateAdmin] then
    .error (.valueError "bootstrap user must have exactly one CORPORATE_ADMIN grant")
  else
    let resolved := deployment.tenantOf library tenantSession tenantRequest.code
    match resolved.filter fun tenant => tenant.code = tenantRequest.code with
    | some tenant =>
        if tenant.name ≠ tenantRequest.name then .error bootstrapTenantConflict
        else ((deployment.users tenant.id).bootstrapAdmin library request fresh).map
          fun result => (result.1,deployment.withUsers tenant.id result.2)
    | none =>
        let tenantId := (resolved.map Tenant.id).getD fresh.tenantId
        match deployment.tenants.insertUnder Tenant.codeIndex
            ⟨tenantId,tenantRequest.code,tenantRequest.name,.active⟩ with
        | none => .error (.integrityError "tenants_code_key")
        | some tenants => ((deployment.users tenantId).bootstrapAdmin library request fresh).map
            fun result =>
              (result.1,{ deployment with tenants := tenants }.withUsers tenantId result.2)

/-- `bootstrap_public_reviewer`. -/
def bootstrapPublicReviewer (tenantSession : Bool) (tenantCode : Text)
    (request : CanonicalUserCreate) (password : String) (fresh : Fresh) :
    Attempt (CanonicalUserRecord × Deployment) :=
  if request.roles ≠ {.corporateUser} ∨ request.storeIds ≠ ∅ then
    .error (.valueError
      "public reviewer must have exactly CORPORATE_USER and no store assignments")
  else
    match deployment.tenantOf library tenantSession (library.lower tenantCode.strip) with
    | none => .error reviewerTenantNotFound
    | some tenant =>
        if tenant.status ≠ .active then .error reviewerTenantInactive
        else ((deployment.users tenant.id).bootstrapReviewer library request password fresh).map
          fun result => (result.1,deployment.withUsers tenant.id result.2)

def invalidCredentials : Failure :=
  .apiError 401 "Unauthorized" "The tenant code, email, or password is invalid."
    (some "invalid_credentials")

/-- `authenticate_user`. A refused login is recorded where the tenant is known. -/
def authenticateUser (tenantSession : Bool) (tenantCode : Text) (email password : String)
    (now : Time) (salt : ℕ) : Attempt User × Deployment :=
  match deployment.tenantOf library tenantSession tenantCode with
  | none => (.error invalidCredentials,deployment)
  | some tenant =>
      let users := deployment.users tenant.id
      let user := users.userByEmail email
      let verified := verifyPasswordAndUpdate library password
        (user.map fun user => users.passwordHashes user.id) salt
      let denied := deployment.withUsers tenant.id
        (users.addAuditRecord (.loginFailed (user.map User.id) email))
      match user with
      | none => (.error invalidCredentials,denied)
      | some user =>
          if tenant.status = .active ∧ user.status = .active ∧ verified.1 = true then
            let rehashed := verified.2.elim users (users.setPasswordHash user.id)
            let loggedIn := { rehashed with
              lastLogins := fun other =>
                if other = user.id then some now else users.lastLogins other }
            (.ok user,deployment.withUsers tenant.id
              (loggedIn.addAuditRecord (.loginSucceeded user.id user.email)))
          else (.error invalidCredentials,denied)

end Deployment

end Tenants

section Runs

inductive DeploymentEvent where
  | createTenant (tenant : Tenant)
  | setTenantStatus (tenantId : Uuid) (status : TenantStatus)
  | serve (tenantId : Uuid) (request : IdentityRequest)
  | bootstrapCorporateAdmin (tenantSession : Bool) (tenantRequest : TenantCreate)
      (request : UserCreate) (fresh : Fresh)
  | bootstrapPublicReviewer (tenantSession : Bool) (tenantCode : Text)
      (request : CanonicalUserCreate) (password : String) (fresh : Fresh)
  | authenticateUser (tenantSession : Bool) (tenantCode : Text) (email password : String)
      (now : Time) (salt : ℕ)

def committed {Response : Type} (deployment : Deployment) :
    Attempt (Response × Deployment) → Deployment
  | .error _ => deployment
  | .ok (_,after) => after

namespace Deployment

def serve (deployment : Deployment) (tenantId : Uuid) (request : IdentityRequest) : Deployment :=
  let users := deployment.users tenantId
  deployment.withUsers tenantId
    { users with identity := ((identityService request).run users.identity).1 }

def setTenantStatus (deployment : Deployment) (tenantId : Uuid) (status : TenantStatus) :
    Deployment :=
  { deployment with
    tenants := deployment.tenants.modify tenantId (fun tenant => { tenant with status := status })
      fun _ => rfl }

def next (deployment : Deployment) : DeploymentEvent → Option Deployment
  | .createTenant tenant => (deployment.tenants.insertUnder Tenant.codeIndex tenant).map
      fun tenants => { deployment with tenants := tenants }
  | .setTenantStatus tenantId status => some (deployment.setTenantStatus tenantId status)
  | .serve tenantId request =>
      (deployment.tenants.find? tenantId).map fun _ => deployment.serve tenantId request
  | .bootstrapCorporateAdmin tenantSession tenantRequest request fresh =>
      some (committed deployment
        (deployment.bootstrapCorporateAdmin library tenantSession tenantRequest request fresh))
  | .bootstrapPublicReviewer tenantSession tenantCode request password fresh =>
      some (committed deployment (deployment.bootstrapPublicReviewer library tenantSession tenantCode
        request password fresh))
  | .authenticateUser tenantSession tenantCode email password now salt =>
      some (deployment.authenticateUser library tenantSession tenantCode email password now salt).2

/-- No tenant has a user yet, and nobody has logged in. -/
def Unused (deployment : Deployment) : Prop :=
  ∀ tenantId, (deployment.users tenantId).identity.tenantId = tenantId ∧
    (deployment.users tenantId).identity.users = Table.empty ∧
    (deployment.users tenantId).identity.issuedTokens = []

end Deployment

def deploymentMachine : Machine Deployment DeploymentEvent where
  initial := fun deployment =>
    deployment.Unused ∧ deployment.tenants.Indexed Tenant.codeIndex
  next := Deployment.next library

end Runs

end Services

end Abacus.Bootstrap

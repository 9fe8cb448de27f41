import Abacus.Identity.Sessions
import Abacus.Model.CurrentPrincipal

/-! Access changes and token versions.
The version of a user only grows, and it grows whenever the status or the derived role
scopes change, so a token from before a change is never accepted again.
-/
set_option autoImplicit false

namespace Abacus

open Relational Transition Transaction

namespace Account

/-- The account is as the canonical services leave it: grants derived from a valid pair. -/
structure InStep (account : Account) : Prop where
  someRole : account.roles.Nonempty
  paired : ValidPair account.roles account.storeIds
  derived : account.grants = compatibilityGrantSpecs account.roles account.storeIds

def scopes (account : Account) : List RoleScope :=
  roleScopes account.roles account.storeIds account.grants

def SameAccess (before after : Account) : Prop :=
  after.user.status = before.user.status ∧ after.roles = before.roles ∧
    after.storeIds = before.storeIds ∧ after.grants = before.grants

/-- The version grows with a change of status or scopes, and stays without any change. -/
structure Versioned (before after : Account) : Prop where
  grows : before.user.tokenVersion ≤ after.user.tokenVersion
  counts : after.user.status ≠ before.user.status ∨ after.scopes ≠ before.scopes →
    before.user.tokenVersion < after.user.tokenVersion
  stays : SameAccess before after → after.user.tokenVersion = before.user.tokenVersion

theorem InStep.roles_ne {account : Account} (inStep : account.InStep) : account.roles ≠ ∅ :=
  Finset.nonempty_iff_ne_empty.mp inStep.someRole

theorem InStep.access_roles {account : Account} (inStep : account.InStep) :
    account.access.roles = account.roles := access_roles_of_nonempty inStep.roles_ne

/-- Without assignments there is no store among the derived grants either. -/
theorem InStep.access_storeIds {account : Account} (inStep : account.InStep) :
    account.access.storeIds = account.storeIds := by
  by_cases unassigned : account.storeIds = ∅
  · have derived := inStep.derived
    rw [unassigned] at derived
    simp only [access,canonicalAccess,unassigned,if_true,derived,compatibilityGrantSpecs]
    split <;> simp [UserAccessGrant.storeId]
  · exact access_storeIds_of_nonempty unassigned

theorem versioned_refl (account : Account) : account.Versioned account where
  grows := le_rfl
  counts := by simp
  stays := fun _ => rfl

theorem InStep.replaced {roles : Finset CanonicalIdentityRole} {storeIds : Finset Uuid}
    (account : Account) (someRole : roles.Nonempty) (paired : ValidPair roles storeIds) :
    (account.replaced roles storeIds).InStep := ⟨someRole,paired,rfl⟩

theorem versioned_replaced {account : Account} (inStep : account.InStep)
    (roles : Finset CanonicalIdentityRole) (storeIds : Finset Uuid) :
    account.Versioned (account.replaced roles storeIds) := by
  by_cases changed : account.AccessChanged roles storeIds
  · have version : (account.replaced roles storeIds).user.tokenVersion =
        nextTokenVersion account.user.tokenVersion := by
      rw [Account.replaced,bumpedIf,if_pos changed]
    constructor
    · rw [version]
      exact (lt_nextTokenVersion _).le
    · rw [version]
      exact fun _ => lt_nextTokenVersion _
    · rintro ⟨-,sameRoles,sameStores,sameGrants⟩
      rw [replaced_roles] at sameRoles
      rw [replaced_storeIds] at sameStores
      rw [replaced_grants] at sameGrants
      rcases changed with otherRoles | otherStores | otherGrants
      · exact absurd (sameRoles.trans inStep.access_roles.symm) otherRoles
      · exact absurd (sameStores.trans inStep.access_storeIds.symm) otherStores
      · exact absurd sameGrants otherGrants
  · have same : account.replaced roles storeIds = account := by
      simp only [AccessChanged,not_or,not_not,inStep.access_roles,inStep.access_storeIds]
        at changed
      obtain ⟨rfl,rfl,sameGrants⟩ := changed
      have unchanged : ¬account.AccessChanged account.roles account.storeIds := by
        simp [AccessChanged,inStep.access_roles,inStep.access_storeIds,sameGrants]
      rw [Account.replaced,bumpedIf,if_neg unchanged,sameGrants]
    rw [same]
    exact versioned_refl account

theorem versioned_suspended (account : Account) : account.Versioned account.suspended := by
  by_cases already : account.user.status = .suspended
  · rw [suspended,if_pos already]
    exact versioned_refl account
  · have version : account.suspended.user.tokenVersion =
        nextTokenVersion account.user.tokenVersion := by
      rw [suspended,if_neg already]
    constructor
    · rw [version]
      exact (lt_nextTokenVersion _).le
    · rw [version]
      exact fun _ => lt_nextTokenVersion _
    · rintro ⟨sameStatus,-⟩
      rw [suspended_status] at sameStatus
      exact absurd sameStatus.symm already

theorem InStep.suspended {account : Account} (inStep : account.InStep) :
    account.suspended.InStep := by
  constructor
  · rw [suspended_roles]
    exact inStep.someRole
  · rw [suspended_roles,suspended_storeIds]
    exact inStep.paired
  · rw [suspended_roles,suspended_storeIds,suspended_grants]
    exact inStep.derived

end Account

namespace IdentityDatabase

/-- Every account is in step, and no token was issued ahead of its user's version. -/
structure TokensBehind (db : IdentityDatabase) : Prop where
  inStep : ∀ userId account, db.account? userId = some account → account.InStep
  issued : ∀ claims ∈ db.issuedTokens, ∃ account, db.account? claims.userId = some account ∧
    claims.tokenVersion ≤ account.user.tokenVersion

/-- The users of a new tenant are bootstrapped administrators, and nobody has logged in. -/
structure NewTenant (db : IdentityDatabase) : Prop where
  bootstrapped : ∀ user ∈ db.users.rows, db.rolesOf user.id = {.tenantAdmin} ∧
    db.storesOf user.id = ∅ ∧ db.grantsOf user.id = {.corporateAdmin}
  unissued : db.issuedTokens = []

theorem NewTenant.tokensBehind {db : IdentityDatabase} (new : db.NewTenant) : db.TokensBehind := by
  constructor
  · intro userId account found
    obtain ⟨stored,roles,storeIds,grants⟩ := account?_eq_some.mp found
    have keyed := user_id found
    subst keyed
    obtain ⟨onlyAdmin,noStore,onlyGrant⟩ := new.bootstrapped _ (Table.mem_of_find? stored)
    rw [onlyAdmin] at roles
    rw [noStore] at storeIds
    rw [onlyGrant] at grants
    constructor
    · rw [← roles]
      exact Finset.singleton_nonempty _
    · rw [← roles,← storeIds]
      simp [ValidPair,StoreScoped]
    · rw [← roles,← storeIds,← grants]
      simp [compatibilityGrantSpecs]
  · intro claims member
    rw [new.unissued] at member
    cases member

def Follows (db after : IdentityDatabase) : Prop :=
  ∀ userId account, db.account? userId = some account →
    ∃ kept, after.account? userId = some kept ∧ account.Versioned kept

theorem follows_refl (db : IdentityDatabase) : db.Follows db :=
  fun _ account found => ⟨account,found,account.versioned_refl⟩

theorem Writes.follows {db after : IdentityDatabase} {userId : Uuid} {account written : Account}
    (writes : db.Writes after userId written) (found : db.account? userId = some account)
    (versioned : account.Versioned written) : db.Follows after := by
  intro other old stored
  by_cases same : other = userId
  · subst same
    rw [found] at stored
    cases stored
    exact ⟨written,writes.here,versioned⟩
  · exact ⟨old,by rw [writes.others other same]; exact stored,old.versioned_refl⟩

end IdentityDatabase

/-- One commit keeps every account, with its version as the change asks. -/
theorem IdentityStep.follows {db after : IdentityDatabase} {request : IdentityRequest}
    (step : IdentityStep db request after) (behind : db.TokensBehind) : db.Follows after := by
  cases step with
  | created permitted active absent writes =>
      intro other old stored
      refine ⟨old,?_,old.versioned_refl⟩
      rw [writes.others other]
      · exact stored
      · rintro rfl
        rw [absent] at stored
        cases stored
  | accessReplaced permitted found valid usable spared writes =>
      exact writes.follows found (Account.versioned_replaced (behind.inStep _ _ found) _ _)
  | rolesReplaced permitted found valid spared writes =>
      exact writes.follows found (Account.versioned_replaced (behind.inStep _ _ found) _ _)
  | storesReplaced found someRole valid usable permitted writes =>
      exact writes.follows found (Account.versioned_replaced (behind.inStep _ _ found) _ _)
  | suspended someoneElse found permitted spared writes =>
      exact writes.follows found (Account.versioned_suspended _)
  | tokenCreated found => exact db.follows_refl

theorem IdentityStep.inStep {db after : IdentityDatabase} {request : IdentityRequest}
    (step : IdentityStep db request after)
    (inStep : ∀ userId account, db.account? userId = some account → account.InStep)
    {userId : Uuid} {account : Account} (found : after.account? userId = some account) :
    account.InStep := by
  have written : ∀ {target : Uuid} {result : Account}, db.Writes after target result →
      result.InStep → account.InStep := by
    intro target result writes holds
    rcases writes.cases found with ⟨-,rfl⟩ | ⟨-,old⟩
    · exact holds
    · exact inStep userId account old
  cases step with
  | @created _ request _ _ permitted active absent writes =>
      exact written writes ⟨request.someRole,request.paired,rfl⟩
  | @accessReplaced _ request _ _ _ permitted stored valid usable spared writes =>
      exact written writes (.replaced _ request.someRole valid)
  | @rolesReplaced _ request _ _ _ permitted stored valid spared writes =>
      exact written writes (.replaced _ request.someRole valid)
  | storesReplaced stored someRole valid usable permitted writes =>
      exact written writes (.replaced _ someRole valid)
  | suspended someoneElse stored permitted spared writes =>
      exact written writes (inStep _ _ stored).suspended
  | tokenCreated stored => exact inStep userId account found

theorem IdentityStep.issued {db after : IdentityDatabase} {request : IdentityRequest}
    (step : IdentityStep db request after) {claims : AccessTokenClaims}
    (member : claims ∈ after.issuedTokens) :
    claims ∈ db.issuedTokens ∨ ∃ account, db.account? claims.userId = some account ∧
      claims.tokenVersion = account.user.tokenVersion := by
  cases step with
  | created permitted active absent writes => exact .inl (writes.issuedTokens ▸ member)
  | accessReplaced permitted stored valid usable spared writes =>
      exact .inl (writes.issuedTokens ▸ member)
  | rolesReplaced permitted stored valid spared writes => exact .inl (writes.issuedTokens ▸ member)
  | storesReplaced stored someRole valid usable permitted writes =>
      exact .inl (writes.issuedTokens ▸ member)
  | suspended someoneElse stored permitted spared writes =>
      exact .inl (writes.issuedTokens ▸ member)
  | tokenCreated stored =>
      rcases List.mem_append.mp member with old | new
      · exact .inl old
      · rw [List.mem_singleton.mp new]
        exact .inr ⟨_,stored,rfl⟩

theorem IdentityStep.tokensBehind {db after : IdentityDatabase} {request : IdentityRequest}
    (step : IdentityStep db request after) (behind : db.TokensBehind) : after.TokensBehind := by
  refine ⟨fun userId account found => step.inStep behind.inStep found,?_⟩
  intro claims member
  have known : ∃ account, db.account? claims.userId = some account ∧
      claims.tokenVersion ≤ account.user.tokenVersion := by
    rcases step.issued member with old | ⟨account,found,same⟩
    · exact behind.issued claims old
    · exact ⟨account,found,same.le⟩
  obtain ⟨account,found,bound⟩ := known
  obtain ⟨kept,stored,versioned⟩ := step.follows behind claims.userId account found
  exact ⟨kept,stored,bound.trans versioned.grows⟩

theorem Account.InStep.adminInStep {account : Account} (inStep : account.InStep) :
    account.AdminInStep := by
  rw [Account.AdminInStep,inStep.derived]
  exact mem_compatibilityGrantSpecs_admin

abbrev IdentitySystem :=
  System IdentityDatabase IdentityLock (Attempt IdentityResponse) IdentityRequest

abbrev identityMachine : Machine IdentitySystem (Event IdentityRequest) :=
  machine identityService IdentityDatabase.NewTenant

theorem newTenant_sound (db : IdentityDatabase) (new : db.NewTenant) :
    identityDiscipline.Sound db :=
  fun userId account found => (new.tokensBehind.inStep userId account found).adminInStep

section Runs

variable {system after later : IdentitySystem}

theorem tokensBehind_reachable (reachable : identityMachine.Reachable system) :
    system.committed.TokensBehind := by
  apply reachable.induct
  · rintro start ⟨new,-⟩
    exact new.tokensBehind
  · intro before event next earlier behind taken
    rcases identity_verifies.commits newTenant_sound earlier taken with same | ⟨_,_,outcome,commits⟩
    · rw [same]
      exact behind
    · cases outcome with
      | error failure =>
          rw [show next.committed = before.committed from commits]
          exact behind
      | ok response => exact commits.1.tokensBehind behind

theorem follows_next (reachable : identityMachine.Reachable system) {event : Event IdentityRequest}
    (taken : identityMachine.next system event = some after) :
    system.committed.Follows after.committed := by
  rcases identity_verifies.commits newTenant_sound reachable taken with same | ⟨_,_,outcome,commits⟩
  · rw [same]
    exact system.committed.follows_refl
  · cases outcome with
    | error failure =>
        rw [show after.committed = system.committed from commits]
        exact system.committed.follows_refl
    | ok response => exact commits.1.follows (tokensBehind_reachable reachable)

/-- No run takes a user's version back. -/
theorem version_run (reachable : identityMachine.Reachable system)
    {events : List (Event IdentityRequest)} (reached : identityMachine.run system events = some later)
    {userId : Uuid} {account : Account} (found : system.committed.account? userId = some account) :
    ∃ kept, later.committed.account? userId = some kept ∧
      account.user.tokenVersion ≤ kept.user.tokenVersion := by
  have grows : ∀ account, system.committed.account? userId = some account →
      ∃ kept, later.committed.account? userId = some kept ∧
        account.user.tokenVersion ≤ kept.user.tokenVersion := by
    apply reachable.run_relation (fun first second => ∀ account,
      first.committed.account? userId = some account → ∃ kept,
        second.committed.account? userId = some kept ∧
          account.user.tokenVersion ≤ kept.user.tokenVersion) _ _ _ reached
    · exact fun _ account stored => ⟨account,stored,le_rfl⟩
    · intro first second third early late account stored
      obtain ⟨middle,present,bound⟩ := early account stored
      obtain ⟨last,kept,further⟩ := late middle present
      exact ⟨last,kept,bound.trans further⟩
    · intro before event next earlier taken account stored
      obtain ⟨kept,present,versioned⟩ := follows_next earlier taken userId account stored
      exact ⟨kept,present,versioned.grows⟩
  exact grows account found

end Runs

theorem roleScopesOf_account {db : IdentityDatabase} {userId : Uuid} {account : Account}
    (found : db.account? userId = some account) : db.roleScopesOf userId = account.scopes := by
  obtain ⟨-,roles,storeIds,grants⟩ := IdentityDatabase.account?_eq_some.mp found
  rw [IdentityDatabase.roleScopesOf,roles,storeIds,grants,Account.scopes]

def AccessChanged (db after : IdentityDatabase) (user changed : User) : Prop :=
  changed.status ≠ user.status ∨ after.roleScopesOf user.id ≠ db.roleScopesOf user.id

def AccessUnchanged (db after : IdentityDatabase) (user changed : User) : Prop :=
  changed.status = user.status ∧ after.rolesOf user.id = db.rolesOf user.id ∧
    after.storesOf user.id = db.storesOf user.id ∧ after.grantsOf user.id = db.grantsOf user.id

/-- A change of access raises the user's version, nothing else does, and no token from before
the change is accepted after it, in whatever state the tenant and its sessions are by then. -/
theorem access_change_invalidates_tokens {system after later : IdentitySystem}
    (reachable : identityMachine.Reachable system) {event : Event IdentityRequest}
    (taken : identityMachine.next system event = some after)
    {events : List (Event IdentityRequest)} (reached : identityMachine.run after events = some later)
    {userId : Uuid} {user changed : User} (before : system.committed.user? userId = some user)
    (now : after.committed.user? userId = some changed) :
    (AccessChanged system.committed after.committed user changed →
      user.tokenVersion < changed.tokenVersion ∧
        ∀ claims ∈ system.committed.issuedTokens, claims.userId = userId → ∀ auth instant,
          currentPrincipal later.committed auth instant claims = .error invalidAccessToken) ∧
    (AccessUnchanged system.committed after.committed user changed →
      changed.tokenVersion = user.tokenVersion) := by
  have keyed : user.id = userId := Table.key_of_find? before
  subst keyed
  have found := IdentityDatabase.account?_of_mem (Table.mem_of_find? before)
  obtain ⟨kept,stored,versioned⟩ := follows_next reachable taken user.id _ found
  obtain ⟨present,roles,storeIds,grants⟩ := IdentityDatabase.account?_eq_some.mp stored
  rw [now] at present
  obtain rfl := Option.some.inj present
  constructor
  · intro different
    rw [AccessChanged,roleScopesOf_account stored,roleScopesOf_account found] at different
    have raised := versioned.counts different
    refine ⟨raised,?_⟩
    intro claims member mine auth instant
    obtain ⟨issuedTo,owner,bound⟩ := (tokensBehind_reachable reachable).issued claims member
    rw [mine,found] at owner
    obtain rfl := Option.some.inj owner
    obtain ⟨last,final,grown⟩ := version_run (reachable.step taken) reached stored
    obtain ⟨lastUser,-,-,-⟩ := IdentityDatabase.account?_eq_some.mp final
    rw [← mine] at lastUser
    apply currentPrincipal_stale lastUser
    exact ((bound.trans_lt raised).trans_le grown).ne'
  · rintro ⟨status,sameRoles,sameStores,sameGrants⟩
    rw [roles] at sameRoles
    rw [storeIds] at sameStores
    rw [grants] at sameGrants
    exact versioned.stays ⟨status,sameRoles,sameStores,sameGrants⟩

namespace Sample

def bootstrapAdmin : User := ⟨1,"admin","Admin",.active,firstTokenVersion⟩

def newTenant : IdentityDatabase where
  tenantId := 1
  stores := Table.empty.put ⟨7,.active⟩
  users := Table.empty.put bootstrapAdmin
  userRoles := {(1,.tenantAdmin)}
  userStoreAssignments := ∅
  userAccessGrants := {(1,.corporateAdmin)}
  auditRecords := []
  issuedTokens := []

theorem newTenant_new : newTenant.NewTenant :=
  ⟨by decide +kernel,rfl⟩

def tenantAdministrator : Principal where
  userId := 1
  tenantId := 1
  roleScopes := [⟨.canonical .tenantAdmin,none⟩]

theorem oneStore : ({7} : Finset Uuid).card ≤ 500 := by decide

theorem associatePaired :
    StoreScoped {.storeAssociate} ↔ ({7} : Finset Uuid).Nonempty := by decide

def associateCreate : CanonicalUserCreate where
  email := "associate"
  displayName := "Associate"
  roles := {.storeAssociate}
  storeIds := {7}
  someRole := Finset.singleton_nonempty _
  fewStores := oneStore
  paired := associatePaired

def toRole (role : CanonicalIdentityRole) : UserRolesReplace := ⟨{role},Finset.singleton_nonempty _⟩

def session (id : ℕ) (request : IdentityRequest) (statements : ℕ) : List (Event IdentityRequest) :=
  .start id request :: List.replicate statements (.step id)

/-- The associate is created and logs in, and a promotion is ready to commit. -/
def promotion : List (Event IdentityRequest) :=
  session 1 (.createCanonicalUser tenantAdministrator associateCreate 2) 3 ++
    session 2 (.createAccessToken 2 none 0) 1 ++
    session 3 (.replaceUserRoles tenantAdministrator 2 (toRole .storeManager)) 5

def promoted : List (Event IdentityRequest) := promotion ++ [.step 3]

def demoted : List (Event IdentityRequest) :=
  session 4 (.replaceUserRoles tenantAdministrator 2 (toRole .storeAssociate)) 6

def identityRun (events : List (Event IdentityRequest)) : IdentitySystem :=
  (identityMachine.run ⟨newTenant,Table.empty⟩ events).getD ⟨newTenant,Table.empty⟩

theorem identityRun_reached {events : List (Event IdentityRequest)}
    (ran : (identityMachine.run ⟨newTenant,Table.empty⟩ events).isSome = true) :
    identityMachine.run ⟨newTenant,Table.empty⟩ events = some (identityRun events) :=
  Machine.run_getD ran

theorem identityRun_reachable {events : List (Event IdentityRequest)}
    (ran : (identityMachine.run ⟨newTenant,Table.empty⟩ events).isSome = true) :
    identityMachine.Reachable (identityRun events) :=
  ⟨_,events,⟨newTenant_new,rfl⟩,identityRun_reached ran⟩

theorem promotion_runs :
    (identityMachine.run ⟨newTenant,Table.empty⟩ promotion).isSome = true := by decide +kernel

theorem promoted_runs :
    (identityMachine.run ⟨newTenant,Table.empty⟩ promoted).isSome = true := by decide +kernel

theorem demoted_runs :
    (identityMachine.run ⟨newTenant,Table.empty⟩ (promoted ++ demoted)).isSome = true := by
  decide +kernel

def associateUser : User := ⟨2,"associate","Associate",.active,firstTokenVersion⟩

end Sample

theorem access_change_invalidates_tokens_sample :
    (Sample.identityRun Sample.promotion).committed.issuedTokens = [⟨2,1,firstTokenVersion,0,none⟩] ∧
    (Sample.identityRun (Sample.promoted ++ Sample.demoted)).committed.roleScopesOf 2 =
      (Sample.identityRun Sample.promotion).committed.roleScopesOf 2 ∧
    ∀ claims ∈ (Sample.identityRun Sample.promotion).committed.issuedTokens, claims.userId = 2 →
      ∀ auth instant, currentPrincipal
        (Sample.identityRun (Sample.promoted ++ Sample.demoted)).committed auth instant claims =
          .error invalidAccessToken :=
  ⟨by decide +kernel,by decide +kernel,
    ((access_change_invalidates_tokens (Sample.identityRun_reachable Sample.promotion_runs)
      (Machine.next_of_run (Sample.identityRun_reached Sample.promotion_runs)
        (Sample.identityRun_reached Sample.promoted_runs))
      (Machine.run_of_append (Sample.identityRun_reached Sample.promoted_runs)
        (Sample.identityRun_reached Sample.demoted_runs))
      (show _ = some Sample.associateUser by decide +kernel)
      (show _ = some { Sample.associateUser with
        tokenVersion := nextTokenVersion firstTokenVersion } by decide +kernel)).1
        (.inr (by decide +kernel))).2⟩

end Abacus

import Abacus.Identity.Accounts

/-! The steps of the identity services, and the sessions that take them.
Every commit that succeeds is one `IdentityStep`, judged on the database it commits in,
even though its session read that database statement by statement.
-/
set_option autoImplicit false

namespace Abacus

open Relational Transition Transaction

namespace IdentityDatabase

structure Writes (db after : IdentityDatabase) (userId : Uuid) (account : Account) : Prop where
  here : after.account? userId = some account
  others : ∀ other, other ≠ userId → after.account? other = db.account? other
  tenantId : after.tenantId = db.tenantId
  stores : after.stores = db.stores
  issuedTokens : after.issuedTokens = db.issuedTokens

theorem Modifies.writes {db after : IdentityDatabase} {userId : Uuid} {f : Account → Account}
    {account written : Account} (modifies : Modifies db after userId f)
    (found : db.account? userId = some account) (same : f account = written) :
    Writes db after userId written where
  here := by rw [modifies.here,found,← same]; rfl
  others := modifies.others
  tenantId := modifies.tenantId
  stores := modifies.stores
  issuedTokens := modifies.issuedTokens

theorem writes_same {db : IdentityDatabase} {userId : Uuid} {account : Account}
    (found : db.account? userId = some account) : Writes db db userId account :=
  (Modifies.refl db userId).writes found rfl

/-- An account after the write is the written one or an old one. -/
theorem Writes.cases {db after : IdentityDatabase} {userId other : Uuid} {account found : Account}
    (writes : Writes db after userId account) (stored : after.account? other = some found) :
    other = userId ∧ found = account ∨ other ≠ userId ∧ db.account? other = some found := by
  by_cases same : other = userId
  · subst same
    rw [writes.here] at stored
    exact .inl ⟨rfl,(Option.some.inj stored).symm⟩
  · exact .inr ⟨same,by rw [← writes.others other same]; exact stored⟩

end IdentityDatabase

def MayPlace (principal : Principal) (roles : Finset CanonicalIdentityRole)
    (storeIds : Finset Uuid) : Prop :=
  principal.hasTenantPermission .usersCreate = true ∨
    roles = {.storeAssociate} ∧ storeIds ⊆ principal.allowedStoreIds .usersCreate

def MaySuspend (principal : Principal) (grants : Finset UserAccessGrant) : Prop :=
  principal.hasTenantPermission .usersSuspend = true ∨
    grants.Nonempty ∧ ∀ grant ∈ grants, grant.role = .storeAssociate ∧
      ∃ storeId ∈ principal.allowedStoreIds .usersSuspend, grant.storeId = some storeId

def ValidPair (roles : Finset CanonicalIdentityRole) (storeIds : Finset Uuid) : Prop :=
  StoreScoped roles ↔ storeIds.Nonempty

/-- What a request that succeeds does to the database, with everything it has checked there. -/
inductive IdentityStep (db : IdentityDatabase) : IdentityRequest → IdentityDatabase → Prop where
  | created {principal : Principal} {request : CanonicalUserCreate} {userId : Uuid}
      {after : IdentityDatabase} (permitted : MayPlace principal request.roles request.storeIds)
      (active : storesPass db.stores (fun status => status = .active) request.storeIds)
      (absent : db.account? userId = none)
      (writes : db.Writes after userId (Account.created request userId)) :
      IdentityStep db (.createCanonicalUser principal request userId) after
  | accessReplaced {principal : Principal} {request : UserAccessReplace} {userId : Uuid}
      {account : Account} {after : IdentityDatabase}
      (permitted : principal.hasTenantPermission .usersCreate = true)
      (found : db.account? userId = some account)
      (valid : ValidPair request.roles request.storeIds)
      (usable : storesPass db.stores (fun status => status ≠ .inactive) request.storeIds)
      (spared : .tenantAdmin ∈ account.access.roles → .tenantAdmin ∉ request.roles →
        db.AnotherAdmin userId)
      (writes : db.Writes after userId (account.replaced request.roles request.storeIds)) :
      IdentityStep db (.replaceUserAccess principal userId request) after
  | rolesReplaced {principal : Principal} {request : UserRolesReplace} {userId : Uuid}
      {account : Account} {after : IdentityDatabase}
      (permitted : principal.hasTenantPermission .usersCreate = true)
      (found : db.account? userId = some account)
      (valid : ValidPair request.roles account.access.storeIds)
      (spared : .tenantAdmin ∈ account.access.roles → .tenantAdmin ∉ request.roles →
        db.AnotherAdmin userId)
      (writes : db.Writes after userId (account.replaced request.roles account.access.storeIds)) :
      IdentityStep db (.replaceUserRoles principal userId request) after
  | storesReplaced {principal : Principal} {request : UserStoreAssignmentsReplace} {userId : Uuid}
      {account : Account} {after : IdentityDatabase} (found : db.account? userId = some account)
      (someRole : account.access.roles.Nonempty)
      (valid : ValidPair account.access.roles request.storeIds)
      (usable : storesPass db.stores (fun status => status ≠ .inactive) request.storeIds)
      (permitted : MayPlace principal account.access.roles
        (request.storeIds ∪ account.access.storeIds))
      (writes : db.Writes after userId (account.replaced account.access.roles request.storeIds)) :
      IdentityStep db (.replaceUserStoreAssignments principal userId request) after
  | suspended {principal : Principal} {userId : Uuid} {account : Account}
      {after : IdentityDatabase} (someoneElse : userId ≠ principal.userId)
      (found : db.account? userId = some account)
      (permitted : MaySuspend principal account.grants)
      (spared : account.IsAdmin → db.AnotherAdmin userId)
      (writes : db.Writes after userId account.suspended) :
      IdentityStep db (.suspendUser principal userId) after
  | tokenCreated {userId : Uuid} {sessionId : Option Uuid} {expiresAt : Time} {account : Account}
      (found : db.account? userId = some account) :
      IdentityStep db (.createAccessToken userId sessionId expiresAt)
        { db with issuedTokens := db.issuedTokens ++
          [⟨userId,db.tenantId,account.user.tokenVersion,expiresAt,sessionId⟩] }

/-- The rows a request has locked when it commits. -/
def IdentityRequest.locks : IdentityRequest → List IdentityLock
  | .createCanonicalUser _ _ _ => []
  | .replaceUserAccess _ userId _ => [.tenant,.user userId]
  | .replaceUserRoles _ userId _ => [.tenant,.user userId]
  | .replaceUserStoreAssignments _ userId _ => [.user userId]
  | .suspendUser _ userId => [.tenant,.user userId]
  | .createAccessToken _ _ _ => []

def AdminsInStep (db : IdentityDatabase) : Prop :=
  ∀ userId account, db.account? userId = some account → account.AdminInStep

/-- A request that fails writes nothing, and one that succeeds takes a step under its locks. -/
def CommitsIdentity (request : IdentityRequest) (held : List IdentityLock)
    (db after : IdentityDatabase) : Attempt IdentityResponse → Prop
  | .error _ => after = db
  | .ok _ => IdentityStep db request after ∧ ∀ lock ∈ request.locks, lock ∈ held

theorem IdentityDatabase.Writes.adminsInStep {db after : IdentityDatabase} {userId : Uuid}
    {account : Account} (writes : db.Writes after userId account) (sound : AdminsInStep db)
    (inStep : account.AdminInStep) : AdminsInStep after := by
  intro other found stored
  rcases writes.cases stored with ⟨-,rfl⟩ | ⟨-,old⟩
  · exact inStep
  · exact sound other found old

theorem Account.replaced_adminInStep (account : Account) (roles : Finset CanonicalIdentityRole)
    (storeIds : Finset Uuid) : (account.replaced roles storeIds).AdminInStep :=
  mem_compatibilityGrantSpecs_admin

theorem IdentityStep.adminsInStep {db after : IdentityDatabase} {request : IdentityRequest}
    (step : IdentityStep db request after) (sound : AdminsInStep db) : AdminsInStep after := by
  cases step with
  | created permitted active absent writes =>
      exact writes.adminsInStep sound mem_compatibilityGrantSpecs_admin
  | accessReplaced permitted found valid usable spared writes =>
      exact writes.adminsInStep sound (Account.replaced_adminInStep ..)
  | rolesReplaced permitted found valid spared writes =>
      exact writes.adminsInStep sound (Account.replaced_adminInStep ..)
  | storesReplaced found someRole valid usable permitted writes =>
      exact writes.adminsInStep sound (Account.replaced_adminInStep ..)
  | suspended someoneElse found permitted spared writes =>
      apply writes.adminsInStep sound
      rw [Account.AdminInStep,Account.suspended_roles,Account.suspended_grants]
      exact sound _ _ found
  | tokenCreated found => exact sound

theorem keepsAdminsInStep (request : IdentityRequest) (held : List IdentityLock)
    (db after : IdentityDatabase) (outcome : Attempt IdentityResponse) (sound : AdminsInStep db)
    (commits : CommitsIdentity request held db after outcome) : AdminsInStep after := by
  cases outcome with
  | error failure =>
      rw [show after = db from commits]
      exact sound
  | ok response => exact commits.1.adminsInStep sound

def identityDiscipline :
    Discipline IdentityDatabase IdentityLock (Attempt IdentityResponse) IdentityRequest where
  Sound := AdminsInStep
  Commits := CommitsIdentity
  keeps := keepsAdminsInStep

section Interference

/-- A commit without the user's lock leaves the account alone. -/
theorem IdentityStep.account {db after : IdentityDatabase} {request : IdentityRequest}
    (step : IdentityStep db request after) {userId : Uuid} (apart : .user userId ∉ request.locks)
    {account : Account} (found : db.account? userId = some account) :
    after.account? userId = some account := by
  have untouched : ∀ target written, target ≠ userId → db.Writes after target written →
      after.account? userId = some account := by
    intro target written other writes
    rw [writes.others userId (Ne.symm other)]
    exact found
  cases step with
  | created permitted active absent writes =>
      apply untouched _ _ _ writes
      rintro rfl
      rw [absent] at found
      cases found
  | accessReplaced permitted stored valid usable spared writes =>
      exact untouched _ _ (by rintro rfl; simp [IdentityRequest.locks] at apart) writes
  | rolesReplaced permitted stored valid spared writes =>
      exact untouched _ _ (by rintro rfl; simp [IdentityRequest.locks] at apart) writes
  | storesReplaced stored someRole valid usable permitted writes =>
      exact untouched _ _ (by rintro rfl; simp [IdentityRequest.locks] at apart) writes
  | suspended someoneElse stored permitted spared writes =>
      exact untouched _ _ (by rintro rfl; simp [IdentityRequest.locks] at apart) writes
  | tokenCreated stored => exact found

/-- A commit without the tenant's lock removes no administrator. -/
theorem IdentityStep.admin {db after : IdentityDatabase} {request : IdentityRequest}
    (step : IdentityStep db request after) (apart : .tenant ∉ request.locks) {userId : Uuid}
    {account : Account} (found : db.account? userId = some account) (admin : account.IsAdmin) :
    ∃ kept, after.account? userId = some kept ∧ kept.IsAdmin := by
  cases step with
  | created permitted active absent writes =>
      refine ⟨account,?_,admin⟩
      rw [writes.others userId]
      · exact found
      · rintro rfl
        rw [absent] at found
        cases found
  | accessReplaced permitted stored valid usable spared writes =>
      simp [IdentityRequest.locks] at apart
  | rolesReplaced permitted stored valid spared writes => simp [IdentityRequest.locks] at apart
  | @storesReplaced _ _ target stored _ old someRole valid usable permitted writes =>
      by_cases same : userId = target
      · subst same
        rw [old] at found
        cases found
        refine ⟨_,writes.here,?_,?_⟩
        · rw [Account.replaced_status]
          exact admin.1
        · rw [Account.replaced_roles,
            Account.access_roles_of_nonempty (Finset.ne_empty_of_mem admin.2)]
          exact admin.2
      · exact ⟨account,by rw [writes.others userId same]; exact found,admin⟩
  | suspended someoneElse stored permitted spared writes => simp [IdentityRequest.locks] at apart
  | tokenCreated stored => exact ⟨account,found,admin⟩

theorem IdentityStep.stores {db after : IdentityDatabase} {request : IdentityRequest}
    (step : IdentityStep db request after) : after.stores = db.stores := by
  cases step with
  | created permitted active absent writes => exact writes.stores
  | accessReplaced permitted found valid usable spared writes => exact writes.stores
  | rolesReplaced permitted found valid spared writes => exact writes.stores
  | storesReplaced found someRole valid usable permitted writes => exact writes.stores
  | suspended someoneElse found permitted spared writes => exact writes.stores
  | tokenCreated found => rfl

variable {held : List IdentityLock} {db after : IdentityDatabase}

/-- What a commit of others is: no change, or a step under none of the held locks. -/
theorem interferes_cases (interferes : identityDiscipline.Interferes held db after) :
    after = db ∨ ∃ request, IdentityStep db request after ∧ ∀ lock ∈ held, lock ∉ request.locks := by
  obtain ⟨-,request,others,outcome,apart,commits⟩ := interferes
  cases outcome with
  | error failure => exact .inl commits
  | ok response =>
      exact .inr ⟨request,commits.1,fun lock mine theirs =>
        apart lock (commits.2 lock theirs) mine⟩

theorem rely_account (rely : identityDiscipline.Rely held db after) {userId : Uuid}
    (locked : .user userId ∈ held) {account : Account} (found : db.account? userId = some account) :
    after.account? userId = some account := by
  apply rely.stable _ found
  intro before next interferes stored
  rcases interferes_cases interferes with rfl | ⟨request,step,apart⟩
  · exact stored
  · exact step.account (apart _ locked) stored

theorem rely_anotherAdmin (rely : identityDiscipline.Rely held db after) (locked : .tenant ∈ held)
    {userId : Uuid} (another : db.AnotherAdmin userId) : after.AnotherAdmin userId := by
  apply rely.stable _ another
  rintro before next interferes ⟨other,account,different,found,admin⟩
  rcases interferes_cases interferes with rfl | ⟨request,step,apart⟩
  · exact ⟨other,account,different,found,admin⟩
  · obtain ⟨kept,stored,still⟩ := step.admin (apart _ locked) found admin
    exact ⟨other,kept,different,stored,still⟩

theorem rely_stores (rely : identityDiscipline.Rely held db after) : after.stores = db.stores := by
  apply rely.same IdentityDatabase.stores
  intro before next interferes
  rcases interferes_cases interferes with rfl | ⟨request,step,-⟩
  · rfl
  · exact step.stores

end Interference

end Abacus

import Abacus.Identity.Sessions

/-! A tenant keeps an active administrator.
Both guards look for another administrator under the tenant's lock, and every request that
could remove one holds that lock until it commits.
-/
set_option autoImplicit false

namespace Abacus

open Relational Transition Transaction

namespace IdentityDatabase

/-- An active user of the tenant holds the administrator's role. -/
def HasActiveAdmin (db : IdentityDatabase) : Prop :=
  ∃ user ∈ db.users.rows, user.status = .active ∧ .tenantAdmin ∈ db.rolesOf user.id

/-- The administrator's legacy grant stands exactly where the canonical role does. -/
def LegacyInStep (db : IdentityDatabase) : Prop :=
  ∀ user ∈ db.users.rows,
    .corporateAdmin ∈ db.grantsOf user.id ↔ .tenantAdmin ∈ db.rolesOf user.id

theorem hasActiveAdmin_iff {db : IdentityDatabase} :
    db.HasActiveAdmin ↔ ∃ userId account, db.account? userId = some account ∧ account.IsAdmin := by
  constructor
  · rintro ⟨user,member,active,admin⟩
    exact ⟨user.id,_,account?_of_mem member,active,admin⟩
  · rintro ⟨userId,account,found,active,admin⟩
    obtain ⟨stored,roles,-,-⟩ := account?_eq_some.mp found
    have keyed := user_id found
    subst keyed
    refine ⟨account.user,Table.mem_of_find? stored,active,?_⟩
    rw [roles]
    exact admin

theorem LegacyInStep.accounts {db : IdentityDatabase} (inStep : db.LegacyInStep) :
    AdminsInStep db := by
  intro userId account found
  obtain ⟨stored,roles,-,grants⟩ := account?_eq_some.mp found
  have keyed := user_id found
  subst keyed
  rw [Account.AdminInStep,← roles,← grants]
  exact inStep account.user (Table.mem_of_find? stored)

/-- Where the written account was an administrator, it still is or somebody else is. -/
theorem Writes.hasActiveAdmin {db after : IdentityDatabase} {userId : Uuid}
    {account written : Account} (writes : db.Writes after userId written)
    (found : db.account? userId = some account)
    (spared : account.IsAdmin → written.IsAdmin ∨ db.AnotherAdmin userId)
    (has : db.HasActiveAdmin) : after.HasActiveAdmin := by
  rw [hasActiveAdmin_iff] at has ⊢
  obtain ⟨adminId,admin,stored,holds⟩ := has
  by_cases same : adminId = userId
  · subst same
    rw [found] at stored
    cases stored
    rcases spared holds with still | ⟨otherId,other,apart,present,another⟩
    · exact ⟨adminId,written,writes.here,still⟩
    · exact ⟨otherId,other,by rw [writes.others otherId apart]; exact present,another⟩
  · exact ⟨adminId,admin,by rw [writes.others adminId same]; exact stored,holds⟩

end IdentityDatabase

/-- New access with the administrator's role keeps an administrator one. -/
theorem Account.IsAdmin.replaced {account : Account} (admin : account.IsAdmin)
    {roles : Finset CanonicalIdentityRole} (kept : .tenantAdmin ∈ roles) (storeIds : Finset Uuid) :
    (account.replaced roles storeIds).IsAdmin :=
  ⟨by rw [Account.replaced_status]; exact admin.1,kept⟩

theorem Account.IsAdmin.access {account : Account} (admin : account.IsAdmin) :
    .tenantAdmin ∈ account.access.roles := by
  rw [Account.access_roles_of_nonempty (Finset.ne_empty_of_mem admin.2)]
  exact admin.2

/-- One commit: an administrator is only removed while another one stands. -/
theorem IdentityStep.hasActiveAdmin {db after : IdentityDatabase} {request : IdentityRequest}
    (step : IdentityStep db request after) (has : db.HasActiveAdmin) : after.HasActiveAdmin := by
  have chosen : ∀ {account : Account} {userId : Uuid} {roles : Finset CanonicalIdentityRole}
      (storeIds : Finset Uuid),
      (.tenantAdmin ∈ account.access.roles → .tenantAdmin ∉ roles → db.AnotherAdmin userId) →
      account.IsAdmin → (account.replaced roles storeIds).IsAdmin ∨ db.AnotherAdmin userId := by
    intro account userId roles storeIds spared admin
    by_cases kept : .tenantAdmin ∈ roles
    · exact .inl (admin.replaced kept storeIds)
    · exact .inr (spared admin.access kept)
  cases step with
  | created permitted active absent writes =>
      rw [IdentityDatabase.hasActiveAdmin_iff] at has ⊢
      obtain ⟨adminId,admin,stored,holds⟩ := has
      refine ⟨adminId,admin,?_,holds⟩
      rw [writes.others adminId]
      · exact stored
      · rintro rfl
        rw [absent] at stored
        cases stored
  | accessReplaced permitted found valid usable spared writes =>
      exact writes.hasActiveAdmin found (chosen _ spared) has
  | rolesReplaced permitted found valid spared writes =>
      exact writes.hasActiveAdmin found (chosen _ spared) has
  | storesReplaced found someRole valid usable permitted writes =>
      exact writes.hasActiveAdmin found (fun admin => .inl (admin.replaced admin.access _)) has
  | suspended someoneElse found permitted spared writes =>
      exact writes.hasActiveAdmin found (fun admin => .inr (spared admin)) has
  | tokenCreated found => exact has

theorem CommitsIdentity.hasActiveAdmin {request : IdentityRequest} {held : List IdentityLock}
    {db after : IdentityDatabase} {outcome : Attempt IdentityResponse}
    (commits : CommitsIdentity request held db after outcome) (has : db.HasActiveAdmin) :
    after.HasActiveAdmin := by
  cases outcome with
  | error failure =>
      rw [show after = db from commits]
      exact has
  | ok response => exact commits.1.hasActiveAdmin has

def Administered (db : IdentityDatabase) : Prop := db.HasActiveAdmin ∧ db.LegacyInStep

/-- However the requests interleave, every commit leaves an active administrator. -/
theorem last_admin_remains {system : System IdentityDatabase IdentityLock (Attempt IdentityResponse)
      IdentityRequest}
    (reachable : (machine identityService Administered).Reachable system) :
    system.committed.HasActiveAdmin := by
  have sound : ∀ db, Administered db → identityDiscipline.Sound db :=
    fun db administered => administered.2.accounts
  apply reachable.induct
  · rintro start ⟨administered,-⟩
    exact administered.1
  · intro before event after earlier has taken
    rcases identity_verifies.commits sound earlier taken with same | ⟨_,_,_,commits⟩
    · rw [same]
      exact has
    · exact commits.hasActiveAdmin has

namespace Sample

/-- Two administrators, and a request of each to suspend the other. -/
def adminUser (userId : Uuid) : User := ⟨userId,"admin","Admin",.active,firstTokenVersion⟩

def twoAdmins : IdentityDatabase where
  tenantId := 1
  stores := Table.empty
  users := Table.empty.put (adminUser 1) |>.put (adminUser 2)
  userRoles := {(1,.tenantAdmin),(2,.tenantAdmin)}
  userStoreAssignments := ∅
  userAccessGrants := {(1,.corporateAdmin),(2,.corporateAdmin)}
  auditRecords := []
  issuedTokens := []

def adminPrincipal (userId : Uuid) : Principal where
  userId := userId
  tenantId := 1
  roleScopes := [⟨.canonical .tenantAdmin,none⟩]

def idle (db : IdentityDatabase) :
    System IdentityDatabase IdentityLock (Attempt IdentityResponse) IdentityRequest :=
  ⟨db,Table.empty⟩

/-- Both start; the first holds the tenant's lock until it commits, then the second is refused. -/
def mutualSuspension : List (Event IdentityRequest) :=
  [.start 1 (.suspendUser (adminPrincipal 1) 2),.start 2 (.suspendUser (adminPrincipal 2) 1)] ++
    List.replicate 7 (.step 1) ++ List.replicate 7 (.step 2)

def afterMutualSuspension :
    System IdentityDatabase IdentityLock (Attempt IdentityResponse) IdentityRequest :=
  ((machine identityService Administered).run (idle twoAdmins) mutualSuspension).getD
    (idle twoAdmins)

theorem administered_twoAdmins : Administered twoAdmins :=
  ⟨by unfold IdentityDatabase.HasActiveAdmin; decide +kernel,
    by unfold IdentityDatabase.LegacyInStep; decide +kernel⟩

theorem mutualSuspension_runs :
    ((machine identityService Administered).run (idle twoAdmins) mutualSuspension).isSome = true := by
  decide +kernel

end Sample

theorem last_admin_remains_sample : Sample.afterMutualSuspension.committed.HasActiveAdmin :=
  last_admin_remains ⟨_,_,⟨Sample.administered_twoAdmins,rfl⟩,
    Machine.run_getD Sample.mutualSuspension_runs⟩

example : Sample.afterMutualSuspension.committed.users.rows.map User.status =
    [.active,.suspended] := by decide +kernel

end Abacus

import Abacus.Identity.Tokens

/-! What a store manager may do to other users.
Creation and store assignment look at the canonical roles, suspension at the legacy
grants, and the grants of an associate who is a corporate user as well are an associate's.
-/
set_option autoImplicit false

namespace Abacus

open Relational Transition Transaction

def Principal.ManagesTenant (principal : Principal) : Prop :=
  principal.hasTenantPermission .usersCreate = true ∨
    principal.hasTenantPermission .usersSuspend = true

def Principal.managedStoreIds (principal : Principal) : Finset Uuid :=
  principal.allowedStoreIds .usersCreate

/-- Every role that may create users may suspend them, and the other way round. -/
theorem AuthorizationRole.permits_suspend (role : AuthorizationRole) :
    role.permits .usersSuspend = role.permits .usersCreate := by
  cases role with
  | identity role => cases role <;> rfl
  | canonical role => cases role <;> rfl

theorem Principal.allowed_suspend (principal : Principal) :
    principal.allowedStoreIds .usersSuspend = principal.managedStoreIds := by
  simp [managedStoreIds,allowedStoreIds,storeIdsForPermission,AuthorizationRole.permits_suspend]

namespace IdentityDatabase

def AssociateWithin (db : IdentityDatabase) (storeIds : Finset Uuid) (userId : Uuid) : Prop :=
  ∀ user, db.user? userId = some user →
    db.rolesOf userId = {.storeAssociate} ∧ db.storesOf userId ⊆ storeIds

theorem associateWithin_iff {db : IdentityDatabase} {storeIds : Finset Uuid} {userId : Uuid}
    {account : Account} (found : db.account? userId = some account) :
    db.AssociateWithin storeIds userId ↔
      account.roles = {.storeAssociate} ∧ account.storeIds ⊆ storeIds := by
  obtain ⟨stored,roles,assigned,-⟩ := account?_eq_some.mp found
  rw [AssociateWithin,roles,assigned]
  exact ⟨fun within => within account.user stored,fun within _ _ => within⟩

theorem associateWithin_of_absent {db : IdentityDatabase} {storeIds : Finset Uuid} {userId : Uuid}
    (absent : db.account? userId = none) : db.AssociateWithin storeIds userId := by
  intro user stored
  rw [account?,stored] at absent
  cases absent

end IdentityDatabase

inductive IdentityRequest.Delegated : IdentityRequest → Principal → Uuid → Prop where
  | create (principal : Principal) (request : CanonicalUserCreate) (userId : Uuid) :
      Delegated (.createCanonicalUser principal request userId) principal userId
  | assign (principal : Principal) (userId : Uuid) (request : UserStoreAssignmentsReplace) :
      Delegated (.replaceUserStoreAssignments principal userId request) principal userId
  | suspend (principal : Principal) (userId : Uuid) :
      Delegated (.suspendUser principal userId) principal userId

theorem MayPlace.within {principal : Principal} {roles : Finset CanonicalIdentityRole}
    {storeIds : Finset Uuid} (permitted : MayPlace principal roles storeIds)
    (limited : ¬principal.ManagesTenant) :
    roles = {.storeAssociate} ∧ storeIds ⊆ principal.managedStoreIds :=
  permitted.resolve_left fun tenantWide => limited (.inl tenantWide)

/-- What the grants of an account in step say about its canonical access. -/
theorem Account.InStep.of_associate_grants {account : Account} (inStep : account.InStep)
    {allowed : Finset Uuid} (some : account.grants.Nonempty)
    (associates : ∀ grant ∈ account.grants, grant.role = .storeAssociate ∧
      ∃ storeId ∈ allowed, grant.storeId = Option.some storeId) :
    (account.roles = {.storeAssociate} ↔ .corporateUser ∉ account.roles) ∧
      account.storeIds ⊆ allowed := by
  rw [inStep.derived] at some associates
  have notAdmin : .tenantAdmin ∉ account.roles := by
    intro admin
    have wrong := (associates _ (mem_compatibilityGrantSpecs_admin.mpr admin)).1
    cases wrong
  have assigned : account.storeIds.Nonempty := by
    rw [Finset.nonempty_iff_ne_empty]
    intro nowhere
    simp [compatibilityGrantSpecs,notAdmin,nowhere] at some
  have notManager : .storeManager ∉ account.roles := by
    intro manager
    obtain ⟨storeId,member⟩ := assigned
    have granted : .storeManager storeId ∈ compatibilityGrantSpecs account.roles account.storeIds := by
      simp [compatibilityGrantSpecs,manager,member]
    cases (associates _ granted).1
  have associate : .storeAssociate ∈ account.roles :=
    (inStep.paired.mpr assigned).resolve_right notManager
  constructor
  · constructor
    · intro only
      rw [only]
      decide
    · intro notCorporate
      ext role
      cases role <;> simp [notAdmin,notManager,associate,notCorporate]
  · intro storeId member
    have granted : .storeAssociate storeId ∈
        compatibilityGrantSpecs account.roles account.storeIds := by
      simp [compatibilityGrantSpecs,notManager,associate,member]
    obtain ⟨-,allowedId,allowedMember,same⟩ := associates _ granted
    cases same
    exact allowedMember

/-- One permitted operation concerns an associate of the principal's own stores, unless it is the
suspension of a user who is a corporate user too. -/
theorem IdentityStep.delegated {db after : IdentityDatabase} {request : IdentityRequest}
    (step : IdentityStep db request after)
    (inStep : ∀ userId account, db.account? userId = some account → account.InStep)
    {principal : Principal} {userId : Uuid} (delegated : request.Delegated principal userId)
    (limited : ¬principal.ManagesTenant) :
    (db.AssociateWithin principal.managedStoreIds userId ∧
        after.AssociateWithin principal.managedStoreIds userId) ↔
      (request = .suspendUser principal userId → .corporateUser ∉ db.rolesOf userId) := by
  cases delegated with
  | create create =>
      cases step with
      | created permitted active absent writes =>
          obtain ⟨roles,stores⟩ := permitted.within limited
          refine iff_of_true ⟨IdentityDatabase.associateWithin_of_absent absent,?_⟩ (by simp)
          exact (IdentityDatabase.associateWithin_iff writes.here).mpr ⟨roles,stores⟩
  | assign request =>
      cases step with
      | storesReplaced found someRole valid usable permitted writes =>
          obtain ⟨roles,stores⟩ := permitted.within limited
          obtain ⟨requested,existing⟩ := Finset.union_subset_iff.mp stores
          refine iff_of_true ⟨?_,?_⟩ (by simp)
          · rw [IdentityDatabase.associateWithin_iff found,← (inStep _ _ found).access_roles,
              ← (inStep _ _ found).access_storeIds]
            exact ⟨roles,existing⟩
          · exact (IdentityDatabase.associateWithin_iff writes.here).mpr ⟨roles,requested⟩
  | suspend =>
      cases step with
      | @suspended _ _ account _ someoneElse found permitted spared writes =>
          obtain ⟨some,associates⟩ :=
            permitted.resolve_left fun tenantWide => limited (.inr tenantWide)
          rw [principal.allowed_suspend] at associates
          obtain ⟨exact,within⟩ := (inStep _ _ found).of_associate_grants some associates
          have roles : db.rolesOf userId = account.roles :=
            (IdentityDatabase.account?_eq_some.mp found).2.1
          rw [IdentityDatabase.associateWithin_iff found,
            IdentityDatabase.associateWithin_iff writes.here,Account.suspended_roles,
            Account.suspended_storeIds,and_self,roles,exact]
          constructor
          · exact fun holds _ => holds.1
          · exact fun holds => ⟨holds rfl,within⟩

/-- In every interleaving, exactly the suspensions of corporate users reach above associates. -/
theorem delegated_operations {system after : IdentitySystem}
    (reachable : identityMachine.Reachable system) {id : ℕ} {request : IdentityRequest}
    {response : IdentityResponse} (permitted : system.ending id = some (request,.ok response))
    (taken : identityMachine.next system (.step id) = some after) {principal : Principal}
    {userId : Uuid} (delegated : request.Delegated principal userId)
    (limited : ¬principal.ManagesTenant) :
    (system.committed.AssociateWithin principal.managedStoreIds userId ∧
        after.committed.AssociateWithin principal.managedStoreIds userId) ↔
      (request = .suspendUser principal userId →
        .corporateUser ∉ system.committed.rolesOf userId) := by
  obtain ⟨held,step,-⟩ := identity_verifies.ends newTenant_sound reachable permitted taken
  exact step.delegated (tokensBehind_reachable reachable).inStep delegated limited

namespace Sample

theorem corporatePaired :
    StoreScoped {.storeAssociate,.corporateUser} ↔ ({7} : Finset Uuid).Nonempty := by decide

/-- An associate of store 7 who is a corporate user as well. -/
def corporateAssociate : CanonicalUserCreate where
  email := "corporate"
  displayName := "Corporate"
  roles := {.storeAssociate,.corporateUser}
  storeIds := {7}
  someRole := Finset.insert_nonempty _ _
  fewStores := oneStore
  paired := corporatePaired

theorem managerPaired : StoreScoped {.storeManager} ↔ ({7} : Finset Uuid).Nonempty := by decide

def managerCreate : CanonicalUserCreate where
  email := "manager"
  displayName := "Manager"
  roles := {.storeManager}
  storeIds := {7}
  someRole := Finset.singleton_nonempty _
  fewStores := oneStore
  paired := managerPaired

def storeManager : Principal where
  userId := 3
  tenantId := 1
  roleScopes := [⟨.canonical .storeManager,some 7⟩]

theorem storeManager_limited : ¬storeManager.ManagesTenant := by
  unfold Principal.ManagesTenant
  decide

/-- The manager of store 7 is about to suspend the user that the create request describes. -/
def suspensionOf (create : CanonicalUserCreate) : List (Event IdentityRequest) :=
  session 0 (.createCanonicalUser tenantAdministrator managerCreate 3) 3 ++
    session 1 (.createCanonicalUser tenantAdministrator create 2) 3 ++
    session 2 (.suspendUser storeManager 2) 4

theorem suspensionOf_runs (create : CanonicalUserCreate)
    (listed : create = associateCreate ∨ create = corporateAssociate) :
    (identityMachine.run ⟨newTenant,Table.empty⟩ (suspensionOf create)).isSome = true ∧
      (identityMachine.run ⟨newTenant,Table.empty⟩ (suspensionOf create ++ [.step 2])).isSome =
        true := by
  rcases listed with rfl | rfl <;> decide +kernel

theorem suspensionOf_taken (create : CanonicalUserCreate)
    (listed : create = associateCreate ∨ create = corporateAssociate) :
    identityMachine.next (identityRun (suspensionOf create)) (.step 2) =
      some (identityRun (suspensionOf create ++ [.step 2])) :=
  Machine.next_of_run (identityRun_reached (suspensionOf_runs create listed).1)
    (identityRun_reached (suspensionOf_runs create listed).2)

theorem suspensionOf_ends (create : CanonicalUserCreate)
    (listed : create = associateCreate ∨ create = corporateAssociate) :
    ∃ response, (identityRun (suspensionOf create)).ending 2 =
      some (.suspendUser storeManager 2,.ok response) := by
  rcases listed with rfl | rfl
  · exact ⟨_,rfl⟩
  · exact ⟨_,rfl⟩

end Sample

theorem delegated_operations_sample :
    (Sample.identityRun (Sample.suspensionOf Sample.associateCreate)).committed.AssociateWithin
        Sample.storeManager.managedStoreIds 2 ∧
      (Sample.identityRun (Sample.suspensionOf Sample.associateCreate ++
        [.step 2])).committed.AssociateWithin Sample.storeManager.managedStoreIds 2 := by
  obtain ⟨response,ends⟩ := Sample.suspensionOf_ends Sample.associateCreate (.inl rfl)
  apply (delegated_operations
    (Sample.identityRun_reachable (Sample.suspensionOf_runs Sample.associateCreate (.inl rfl)).1)
    ends (Sample.suspensionOf_taken Sample.associateCreate (.inl rfl))
    (.suspend Sample.storeManager 2) Sample.storeManager_limited).mpr
  exact fun _ => by decide +kernel

/-- The manager of store 7 suspends a corporate user. -/
theorem suspension_reaches_corporate_user :
    ¬∀ (system after : IdentitySystem) (id : ℕ) (request : IdentityRequest)
      (response : IdentityResponse) (principal : Principal) (userId : Uuid),
      identityMachine.Reachable system → system.ending id = some (request,.ok response) →
      identityMachine.next system (.step id) = some after → request.Delegated principal userId →
      ¬principal.ManagesTenant →
      system.committed.AssociateWithin principal.managedStoreIds userId ∧
        after.committed.AssociateWithin principal.managedStoreIds userId := by
  intro claim
  obtain ⟨response,ends⟩ := Sample.suspensionOf_ends Sample.corporateAssociate (.inr rfl)
  have within := (claim _ _ 2 _ response Sample.storeManager 2
    (Sample.identityRun_reachable (Sample.suspensionOf_runs Sample.corporateAssociate (.inr rfl)).1)
    ends (Sample.suspensionOf_taken Sample.corporateAssociate (.inr rfl))
    (.suspend Sample.storeManager 2) Sample.storeManager_limited).1
  have stored : (Sample.identityRun (Sample.suspensionOf Sample.corporateAssociate)).committed.user?
      2 = some ⟨2,"corporate","Corporate",.active,firstTokenVersion⟩ := by decide +kernel
  exact absurd (within _ stored).1 (by decide +kernel)

end Abacus

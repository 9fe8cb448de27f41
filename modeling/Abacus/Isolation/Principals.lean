import Abacus.Catalog.Workers
import Abacus.Isolation.Visibility
import Abacus.Model.CurrentPrincipal

/-! The scope that the session of a request is pinned to is that of its principal.
What the permissions let the principal read is exactly what the database shows to the session.
-/
set_option autoImplicit false

namespace Abacus.Isolation

open Python (Text text)
open Transition (Machine)

section Scopes

variable {roles : Finset CanonicalIdentityRole} {storeIds : Finset Uuid}
  {grants : Finset UserAccessGrant} {db : IdentityDatabase} {auth : AuthState} {now : Time}
  {claims : AccessTokenClaims} {principal : CurrentPrincipal} {storeId : Uuid}

theorem permits_inventoryRead (role : AuthorizationRole) : role.permits .inventoryRead = true := by
  cases role with
  | identity role => cases role <;> rfl
  | canonical role => cases role <;> rfl

theorem hasTenantPermission_inventoryRead {principal : Principal} :
    principal.hasTenantPermission .inventoryRead = true ↔
      ∃ scope ∈ principal.roleScopes, scope.storeId = none := by
  simp [Principal.hasTenantPermission,permits_inventoryRead]

/-- Every role reads the inventory, so that its stores are those of all roles. -/
theorem canAccessStore_inventoryRead {principal : Principal} :
    principal.canAccessStore .inventoryRead storeId = true ↔
      ∃ scope ∈ principal.roleScopes, scope.storeId = none ∨ scope.storeId = some storeId := by
  simp [Principal.canAccessStore,Principal.hasTenantPermission,Principal.storeIdsForPermission,
    permits_inventoryRead,and_or_left,exists_or]

/-- Another permission has no more stores. -/
theorem canAccessStore_of_permission {principal : Principal} {permission : Permission}
    (allowed : principal.canAccessStore permission storeId = true) :
    principal.canAccessStore .inventoryRead storeId = true := by
  rw [canAccessStore_inventoryRead]
  rw [Principal.canAccessStore,Bool.or_eq_true,decide_eq_true_eq] at allowed
  rcases allowed with wide | narrow
  · obtain ⟨scope,member,permits⟩ := List.any_eq_true.mp wide
    rw [Bool.and_eq_true,Option.isNone_iff_eq_none] at permits
    exact ⟨scope,member,.inl permits.1⟩
  · obtain ⟨scope,member,store⟩ := List.mem_filterMap.mp narrow
    exact ⟨scope,List.mem_of_mem_filter member,.inr store⟩

@[simp] theorem mem_sortedRoles {role : CanonicalIdentityRole} :
    role ∈ sortedRoles roles ↔ role ∈ roles := by
  cases role <;> simp [sortedRoles]

@[simp] theorem mem_sortedStoreIds : storeId ∈ sortedStoreIds storeIds ↔ storeId ∈ storeIds := by
  simp [sortedStoreIds]

theorem storeId_eq_none {grant : UserAccessGrant} :
    grant.storeId = none ↔ grant = .corporateAdmin := by
  cases grant <;> simp [UserAccessGrant.storeId]

theorem mem_assignedStoreIdsOf :
    storeId ∈ assignedStoreIdsOf grants ↔ ∃ grant ∈ grants, grant.storeId = some storeId := by
  simp [assignedStoreIdsOf,eq_comm]

@[simp] theorem mem_sortedGrants {grant : UserAccessGrant} :
    grant ∈ sortedGrants grants ↔ grant ∈ grants := by
  rw [sortedGrants,List.mem_filter,decide_eq_true_eq]
  refine and_iff_right_of_imp fun member => ?_
  cases grant with
  | corporateAdmin => simp
  | storeManager storeId =>
      have assigned : storeId ∈ assignedStoreIdsOf grants :=
        mem_assignedStoreIdsOf.mpr ⟨_,member,rfl⟩
      simp [assigned]
  | storeAssociate storeId =>
      have assigned : storeId ∈ assignedStoreIdsOf grants :=
        mem_assignedStoreIdsOf.mpr ⟨_,member,rfl⟩
      simp [assigned]

theorem roleScopes_wide_canonical (present : roles ≠ ∅) :
    (∃ scope ∈ roleScopes roles storeIds grants, scope.storeId = none) ↔
      ∃ role ∈ roles, role.tenantWide = true := by
  rw [roleScopes,if_neg present]
  simp only [List.mem_flatMap,mem_sortedRoles]
  constructor
  · rintro ⟨scope,⟨role,member,listed⟩,bare⟩
    by_cases wide : role.tenantWide = true
    · exact ⟨role,member,wide⟩
    · rw [if_neg wide] at listed
      obtain ⟨other,-,rfl⟩ := List.mem_map.mp listed
      cases bare
  · rintro ⟨role,member,wide⟩
    exact ⟨⟨.canonical role,none⟩,⟨role,member,by simp [wide]⟩,rfl⟩

/-- The scopes of the canonical roles, which are not empty, in the stores assigned. -/
theorem roleScopes_canonical (present : roles ≠ ∅) :
    (∃ scope ∈ roleScopes roles storeIds grants,
      scope.storeId = none ∨ scope.storeId = some storeId) ↔
      (∃ role ∈ roles, role.tenantWide = true) ∨ storeId ∈ storeIds := by
  rw [roleScopes,if_neg present]
  simp only [List.mem_flatMap,mem_sortedRoles]
  constructor
  · rintro ⟨scope,⟨role,member,listed⟩,reaches⟩
    by_cases wide : role.tenantWide = true
    · exact .inl ⟨role,member,wide⟩
    · rw [if_neg wide] at listed
      obtain ⟨other,assigned,rfl⟩ := List.mem_map.mp listed
      obtain rfl : other = storeId := by simpa using reaches
      exact .inr (mem_sortedStoreIds.mp assigned)
  · intro reached
    obtain ⟨held,member⟩ := Finset.nonempty_iff_ne_empty.mpr present
    by_cases wide : ∃ role ∈ roles, role.tenantWide = true
    · obtain ⟨role,member,wide⟩ := wide
      exact ⟨⟨.canonical role,none⟩,⟨role,member,by simp [wide]⟩,.inl rfl⟩
    · have assigned := reached.resolve_left wide
      have narrow : ¬held.tenantWide = true := fun here => wide ⟨held,member,here⟩
      exact ⟨⟨.canonical held,some storeId⟩,⟨held,member,by simp [narrow,assigned]⟩,.inr rfl⟩

theorem roleScopes_wide_legacy : (∃ scope ∈ roleScopes ∅ storeIds grants, scope.storeId = none) ↔
    UserAccessGrant.corporateAdmin ∈ grants := by
  rw [roleScopes,if_pos rfl]
  simp [storeId_eq_none]

theorem roleScopes_legacy :
    (∃ scope ∈ roleScopes ∅ storeIds grants,
      scope.storeId = none ∨ scope.storeId = some storeId) ↔
      UserAccessGrant.corporateAdmin ∈ grants ∨ storeId ∈ assignedStoreIdsOf grants := by
  rw [roleScopes,if_pos rfl,mem_assignedStoreIdsOf]
  simp [storeId_eq_none,and_or_left,exists_or]

theorem tenantWide_legacy :
    (∃ role ∈ grants.image fun grant => canonicalRoleForLegacy grant.role,
      role.tenantWide = true) ↔ UserAccessGrant.corporateAdmin ∈ grants := by
  have wide : ∀ grant : UserAccessGrant,
      (canonicalRoleForLegacy grant.role).tenantWide = true ↔ grant = .corporateAdmin := by
    intro grant
    cases grant <;> simp [UserAccessGrant.role,canonicalRoleForLegacy,
      CanonicalIdentityRole.tenantWide]
  simp [wide]

/-- What a principal is made of. -/
theorem currentPrincipal_eq_ok (resolved : currentPrincipal db auth now claims = .ok principal) :
    ∃ user, principal.tenantId = claims.tenantId ∧ principal.roleScopes = db.roleScopesOf user ∧
      (canonicalAccess (db.rolesOf user) (db.storesOf user) (db.grantsOf user)).roles ≠ ∅ ∧
      principal.canonicalRoles = sortedRoles
        (canonicalAccess (db.rolesOf user) (db.storesOf user) (db.grantsOf user)).roles ∧
      principal.assignedStoreIds = sortedStoreIds
        (if db.rolesOf user = ∅ then assignedStoreIdsOf (db.grantsOf user)
          else db.storesOf user) := by
  unfold currentPrincipal at resolved
  split at resolved
  · cases resolved
  · rename_i user found
    dsimp only at resolved
    split at resolved
    · cases resolved
    rename_i accepted
    split at resolved
    · cases resolved
    split at resolved
    · cases resolved
    · rename_i roles
      cases resolved
      push Not at accepted
      exact ⟨user.id,accepted.1.symm,rfl,roles,rfl,by simp [canonicalAccess]⟩

/-- The stores that a principal may read are those that its session is pinned to. -/
theorem canAccessStore_iff_covers
    (resolved : currentPrincipal db auth now claims = .ok principal) :
    principal.canAccessStore .inventoryRead storeId = true ↔
      Covers principal.assignedStoreIds principal.tenantWide (some storeId) := by
  obtain ⟨user,-,scopes,present,roles,assigned⟩ := currentPrincipal_eq_ok resolved
  rw [canAccessStore_inventoryRead,scopes,IdentityDatabase.roleScopesOf,Covers,
    CurrentPrincipal.tenantWide,roles,assigned,List.any_eq_true]
  simp only [mem_sortedRoles,mem_sortedStoreIds,Option.some_inj,exists_eq_right']
  by_cases legacy : db.rolesOf user = ∅
  · rw [legacy,roleScopes_legacy,if_pos rfl,canonicalAccess,if_pos rfl,tenantWide_legacy]
  · rw [roleScopes_canonical legacy,if_neg legacy,canonicalAccess,if_neg legacy]

theorem hasTenantPermission_iff_tenantWide
    (resolved : currentPrincipal db auth now claims = .ok principal) :
    principal.hasTenantPermission .inventoryRead = true ↔ principal.tenantWide = true := by
  obtain ⟨user,-,scopes,present,roles,-⟩ := currentPrincipal_eq_ok resolved
  rw [hasTenantPermission_inventoryRead,scopes,IdentityDatabase.roleScopesOf,
    CurrentPrincipal.tenantWide,roles,List.any_eq_true]
  simp only [mem_sortedRoles]
  by_cases legacy : db.rolesOf user = ∅
  · rw [legacy,roleScopes_wide_legacy,canonicalAccess,if_pos rfl,tenantWide_legacy]
  · rw [roleScopes_wide_canonical legacy,canonicalAccess,if_neg legacy]

end Scopes

section Sessions

def MayRead (principal : Principal) (column : Option Uuid) : Prop :=
  principal.hasTenantPermission .inventoryRead = true ∨
    ∃ storeId, column = some storeId ∧ principal.canAccessStore .inventoryRead storeId = true

def Readable (principal : Principal) (rows : List Row) (row : Row) : Prop :=
  match row.table.storePolicy with
  | .none => True
  | .direct false => MayRead principal row.storeColumn
  | .direct true => (∃ storeId, principal.canAccessStore .inventoryRead storeId = true) ∧
      (row.storeColumn = none ∨ MayRead principal row.storeColumn)
  | .devices => principal.hasTenantPermission .inventoryRead = true ∨
      ∃ assignment ∈ rows, assignment.table = .deviceAssignments ∧
        assignment.tenantId = row.tenantId ∧ assignment.deviceId = some row.id ∧
        MayRead principal assignment.storeId
  | .evidence => principal.hasTenantPermission .inventoryRead = true ∨
      ∃ task ∈ rows, task.table = .replenishmentTasks ∧ task.tenantId = row.tenantId ∧
        some task.id = row.taskId ∧ MayRead principal task.storeId

variable {db : IdentityDatabase} {auth : AuthState} {now : Time} {claims : AccessTokenClaims}
  {principal : CurrentPrincipal} {uuids : UuidText} {process after : Process}
  {session narrowed later : TenantSession} {index : ℕ} {choice : Option ℕ}

theorem mayRead_iff_covers (resolved : currentPrincipal db auth now claims = .ok principal)
    (column : Option Uuid) : MayRead principal.toPrincipal column ↔
      Covers principal.assignedStoreIds principal.tenantWide column := by
  rw [MayRead,hasTenantPermission_iff_tenantWide resolved,Covers]
  simp only [canAccessStore_iff_covers resolved,Covers,Option.some_inj,exists_eq_right']
  constructor
  · rintro (wide | ⟨storeId,same,wide | member⟩)
    · exact .inl wide
    · exact .inl wide
    · exact .inr ⟨storeId,member,same⟩
  · rintro (wide | ⟨storeId,member,same⟩)
    · exact .inl wide
    · exact .inr ⟨storeId,same,.inr member⟩

theorem readable_iff_reaches (resolved : currentPrincipal db auth now claims = .ok principal)
    (rows : List Row) (row : Row) : Readable principal.toPrincipal rows row ↔
      Reaches principal.assignedStoreIds principal.tenantWide rows row := by
  have anyStore : (∃ storeId, principal.canAccessStore .inventoryRead storeId = true) ↔
      principal.tenantWide = true ∨ principal.assignedStoreIds ≠ [] := by
    simp only [canAccessStore_iff_covers resolved,Covers,Option.some_inj,exists_eq_right']
    rw [exists_or,exists_const]
    apply or_congr_right
    constructor
    · rintro ⟨storeId,member⟩
      exact List.ne_nil_of_mem member
    · exact List.exists_mem_of_ne_nil principal.assignedStoreIds
  unfold Readable Reaches
  cases row.table.storePolicy with
  | none => exact Iff.rfl
  | direct allowShared =>
      cases allowShared with
      | false => exact mayRead_iff_covers resolved row.storeColumn
      | true => simp only [mayRead_iff_covers resolved,anyStore]
  | devices =>
      simp only [mayRead_iff_covers resolved,hasTenantPermission_iff_tenantWide resolved]
  | evidence =>
      simp only [mayRead_iff_covers resolved,hasTenantPermission_iff_tenantWide resolved]

/-- Once `get_current_principal` has pinned the session of a request, the database lets it read and
write the rows that the principal may read the inventory of, to the end of the session. -/
theorem principal_session_reads (lawful : uuids.Lawful)
    (resolved : currentPrincipal db auth now claims = .ok principal)
    (reachable : (sessionMachine uuids).Reachable process)
    (stored : process.sessions[index]? = some session)
    (tenant : session.info.tenantId = some claims.tenantId)
    (pinned : session.pinSessionToStoreScope uuids principal.assignedStoreIds
      principal.tenantWide (process.connection choice) = some narrowed)
    {events : List SessionEvent}
    (reached : (sessionMachine uuids).run process (.pinSessionToStoreScope index
      principal.assignedStoreIds principal.tenantWide choice :: events) = some after)
    (found : after.sessions[index]? = some later) {base current : Context}
    (connected : later.transaction = .connected base current) (rows : List Row) :
    (∀ row, permitted uuids .application current rows row = true ↔
      row.tenantColumn = principal.tenantId ∧ Readable principal.toPrincipal rows row) ∧
    (∀ write : Write, write.permitted uuids .application current rows = true ↔
      ∀ row ∈ write.named, row.tenantColumn = principal.tenantId ∧
        Readable principal.toPrincipal rows row) ∧
    ∀ permission storeId, principal.canAccessStore permission storeId = true →
      ∀ row, row.table.storePolicy = .direct false → row.tenantId = principal.tenantId →
        row.storeColumn = some storeId →
        permitted uuids .application current rows row = true := by
  rw [Machine.run_cons] at reached
  obtain ⟨middle,taken,rest⟩ := Option.bind_eq_some_iff.mp reached
  have placed : middle.sessions[index]? = some narrowed := by
    obtain ⟨inside,-⟩ := List.getElem?_eq_some_iff.mp stored
    cases taken
    simp only [Process.next,stored,pinned,Process.setSession]
    exact List.getElem?_set_self inside
  obtain ⟨kept,scope⟩ := pinScope_keeps pinned
  obtain ⟨applied,keeps⟩ := run_applied (reachable.take _ taken) placed rest found connected
  obtain ⟨-,same,-⟩ := currentPrincipal_eq_ok resolved
  have reads : ∀ row, permitted uuids .application current rows row = true ↔
      row.tenantColumn = principal.tenantId ∧ Readable principal.toPrincipal rows row := by
    intro row
    rw [permitted_pinned lawful applied (keeps.tenantId _ (kept.tenantId _ tenant))
      (keeps.storeScope _ scope),same,readable_iff_reaches resolved]
  refine ⟨reads,fun write => by simp only [Write.permitted_iff,reads],?_⟩
  intro permission storeId allowed row direct own column
  rw [reads,Row.tenantColumn_of_limited (by simp [direct]),Readable,direct]
  exact ⟨own,.inr ⟨storeId,column,canAccessStore_of_permission allowed⟩⟩

namespace Sample

def staffed : IdentityDatabase where
  tenantId := 2
  stores := Relational.Table.empty.put ⟨5,.active⟩
  users := Relational.Table.empty.put ⟨3,"manager","Manager",.active,firstTokenVersion⟩
  userRoles := {(3,.storeManager)}
  userStoreAssignments := {(3,5)}
  userAccessGrants := {(3,.storeManager 5)}
  auditRecords := []
  issuedTokens := []

def staffToken : AccessTokenClaims := ⟨3,2,firstTokenVersion,100,none⟩

theorem manager_resolved : ∃ principal,
    currentPrincipal staffed ⟨.active,Relational.Table.empty⟩ 0 staffToken = .ok principal ∧
      principal.assignedStoreIds = [5] ∧ principal.tenantWide = false ∧
      principal.roleScopes = [⟨.canonical .storeManager,some 5⟩] := by
  have roles : staffed.rolesOf 3 = {.storeManager} := by decide +kernel
  have stores : staffed.storesOf 3 = {5} := by decide +kernel
  have alone : sortedStoreIds {5} = [5] := Finset.sort_singleton _ 5
  have listed : sortedRoles {.storeManager} = [.storeManager] := by decide +kernel
  have found : staffed.user? 3 = some ⟨3,"manager","Manager",.active,firstTokenVersion⟩ := by
    decide +kernel
  rw [currentPrincipal,staffToken,found]
  simp only [IdentityDatabase.roleScopesOf,roles,stores,canonicalAccess]
  refine ⟨_,rfl,?_,?_,?_⟩
  · exact alone
  · rfl
  · simp [roleScopes,alone,listed,CanonicalIdentityRole.tenantWide]

/-- The session of its request looks up the manager on the connection of the first. -/
def lookup : List SessionEvent :=
  [.openSession,.pinSessionToTenant 1 2,.begin 1,.connect 1 (some 0)]

def lookupSession : TenantSession :=
  ⟨⟨some 2,none⟩,.connected ⟨some [],some []⟩ ⟨some (uuidText.str 2),some []⟩⟩

def narrows : List SessionEvent := .pinSessionToStoreScope 1 [5] false none :: furtherTransaction

theorem lookup_stored : (served (firstRequest ++ lookup)).sessions[1]? = some lookupSession ∧
    lookupSession.pinSessionToStoreScope uuidText [5] false
      ((served (firstRequest ++ lookup)).connection none) = some storeSession ∧
    (served (firstRequest ++ lookup ++ narrows)).sessions[1]? = some storeSession := by
  decide +kernel

end Sample

theorem principal_session_reads_sample :
    permitted Sample.uuidText .application Sample.storeContext [] Sample.storeRow = true ∧
    permitted Sample.uuidText .application Sample.storeContext [] Sample.siblingRow = false := by
  obtain ⟨principal,resolved,assigned,narrow,scopes⟩ := Sample.manager_resolved
  obtain ⟨stored,narrowed,later⟩ := Sample.lookup_stored
  have pinned : Sample.lookupSession.pinSessionToStoreScope Sample.uuidText
      principal.assignedStoreIds principal.tenantWide
      ((Sample.served (Sample.firstRequest ++ Sample.lookup)).connection none) =
        some Sample.storeSession := by
    rw [assigned,narrow]
    exact narrowed
  have narrows : (.pinSessionToStoreScope 1 principal.assignedStoreIds principal.tenantWide none ::
      Sample.furtherTransaction) = Sample.narrows := by
    rw [assigned,narrow,Sample.narrows]
  have reached := Machine.run_of_append (Sample.served_reached (Sample.firstRequest ++ Sample.lookup))
    (Sample.served_reached (Sample.firstRequest ++ Sample.lookup ++ Sample.narrows))
  rw [← narrows] at reached
  obtain ⟨reads,-,shown⟩ := principal_session_reads Sample.uuidText_lawful resolved
    (Sample.served_reachable _) stored rfl pinned reached (by rw [narrows]; exact later) rfl
    []
  have tenant : principal.tenantId = 2 := (currentPrincipal_eq_ok resolved).choose_spec.1
  refine ⟨shown .inventoryAdjust 5 ?_ _ rfl tenant.symm rfl,Bool.eq_false_iff.mpr fun seen => ?_⟩
  · rw [Principal.canAccessStore,Principal.hasTenantPermission,Principal.storeIdsForPermission,
      scopes]
    rfl
  · rcases ((reads _).mp seen).2 with wide | ⟨storeId,same,allowed⟩
    · rw [Principal.hasTenantPermission,scopes] at wide
      cases wide
    · rw [canAccessStore_inventoryRead,scopes] at allowed
      obtain ⟨scope,member,none | narrow⟩ := allowed
      · rw [List.mem_singleton.mp member] at none
        cases none
      · rw [List.mem_singleton.mp member] at narrow
        cases narrow
        cases same

end Sessions

end Abacus.Isolation

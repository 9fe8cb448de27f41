import Abacus.Identity.Agreement
import Abacus.Identity.Delegation
import Abacus.Model.Listings

/-! The listing of the users agrees with looking each of them up.
Both go by the legacy grants, and what a manager is shown are the canonical users of the manager's
stores, because the grants of every user created since the start are in step.
-/
set_option autoImplicit false

namespace Abacus

open Relational

section Pages

variable {db : IdentityDatabase} {principal : Principal} {storeId : Option Uuid}
  {collates : String → String → Bool} {limit offset : ℕ}

/-- What `get_user` returns of the users with a grant in the store asked for, as they are listed. -/
def IdentityDatabase.shownUsers (collates : String → String → Bool) (db : IdentityDatabase)
    (principal : Principal) (storeId : Option Uuid) : List UserRecord :=
  ((db.users.rows.filter fun user => storeId.isNone || db.eligible principal storeId user).filterMap
    fun user => (getUser db principal user.id).toOption).insertionSort
      fun left right => userOrder collates left.user right.user

/-- A grant in one of the stores where the principal may read users. -/
theorem exists_visibleGrants {grants : Finset UserAccessGrant}
    (narrow : principal.hasTenantPermission .usersRead = false) :
    (visibleGrants principal .usersRead grants).Nonempty ↔ ∃ grant ∈ grants,
      ∃ storeId ∈ principal.allowedStoreIds .usersRead, grant.storeId = some storeId := by
  rw [visibleGrants,if_neg (by simp [narrow]),Finset.filter_nonempty_iff]

/-- A user that is stored is found, and shown if one of the grants is. -/
theorem getUser_toOption {user : User} (stored : user ∈ db.users.rows) :
    (getUser db principal user.id).toOption =
      if db.eligible principal none user then some (db.userRecord principal user) else none := by
  rw [getUser,IdentityDatabase.user?,Table.find?_of_mem stored]
  dsimp only
  cases tenant : principal.hasTenantPermission .usersRead with
  | true => simp [IdentityDatabase.eligible,tenant,Except.toOption]
  | false =>
      have shown : (visibleGrants principal .usersRead (db.grantsOf user.id)).Nonempty ↔ _ :=
        exists_visibleGrants tenant
      simp only [IdentityDatabase.eligible,tenant,Bool.false_or,decide_eq_true_eq,← shown,
        IdentityDatabase.userRecord,and_true,Finset.nonempty_iff_ne_empty,ne_eq,ite_not]
      split <;> rfl

/-- A grant in a store that the principal may access is one that the principal sees. -/
theorem eligible_of_store {user : User} {storeId : Uuid}
    (allowed : principal.canAccessStore .usersRead storeId = true)
    (granted : db.eligible principal (some storeId) user = true) :
    db.eligible principal none user = true := by
  rw [IdentityDatabase.eligible,decide_eq_true_eq] at granted
  obtain ⟨grant,member,same⟩ := granted
  rw [Principal.canAccessStore,Bool.or_eq_true,decide_eq_true_eq] at allowed
  rw [IdentityDatabase.eligible,Bool.or_eq_true,decide_eq_true_eq]
  exact allowed.imp_right fun listed =>
    ⟨grant,member,storeId,by simpa [Principal.allowedStoreIds] using listed,same⟩

theorem shownUsers_eq
    (allowed : ∀ store, storeId = some store → principal.canAccessStore .usersRead store = true) :
    db.shownUsers collates principal storeId =
      ((db.users.rows.filter (db.eligible principal storeId)).insertionSort fun left right =>
        userOrder collates left right).map (db.userRecord principal) := by
  have order := List.map_insertionSort (fun left right : User => userOrder collates left right)
    (fun left right : UserRecord => userOrder collates left.user right.user)
    (db.userRecord principal) (db.users.rows.filter (db.eligible principal storeId))
    fun left _ right _ => Iff.rfl
  rw [order,IdentityDatabase.shownUsers,← List.filterMap_eq_map,List.filterMap_filter,
    List.filterMap_filter]
  congr 1
  refine List.filterMap_congr fun user stored => ?_
  rw [getUser_toOption stored]
  cases asked : storeId with
  | none => rfl
  | some store =>
      simp only [Option.isNone_some,Bool.false_or]
      split
      · rename_i granted
        rw [if_pos (eligible_of_store (allowed store asked) granted)]
        rfl
      · rfl

theorem listUsers_eq
    (allowed : ∀ store, storeId = some store → principal.canAccessStore .usersRead store = true) :
    listUsers collates db principal storeId limit offset =
      .ok (Sql.page (db.shownUsers collates principal storeId) limit offset,
        (db.shownUsers collates principal storeId).length) := by
  have reached : (storeId.any fun storeId => !principal.canAccessStore .usersRead storeId) = false := by
    cases asked : storeId with
    | none => rfl
    | some store => simp [allowed store asked]
  rw [listUsers,reached,shownUsers_eq allowed,← Sql.map_page]
  simp

theorem getUser_eq_ok {userId : Uuid} {record : UserRecord} :
    getUser db principal userId = .ok record ↔ ∃ user ∈ db.users.rows, user.id = userId ∧
      db.eligible principal none user = true ∧ db.userRecord principal user = record := by
  have asOption : getUser db principal userId = .ok record ↔
      (getUser db principal userId).toOption = some record := by
    cases getUser db principal userId <;> simp [Except.toOption]
  constructor
  · intro found
    cases stored : db.user? userId with
    | none => simp [getUser,stored] at found
    | some user =>
        obtain ⟨member,same⟩ := (Table.find?_eq_some_iff _ _ _).mp stored
        rw [asOption,← same,getUser_toOption member] at found
        split at found
        · rename_i eligible
          exact ⟨user,member,same,eligible,Option.some.inj found⟩
        · cases found
  · rintro ⟨user,member,rfl,eligible,rfl⟩
    rw [asOption,getUser_toOption member,if_pos eligible]

/-- The listing of a user shows what a lookup does. -/
theorem mem_shownUsers {record : UserRecord}
    (allowed : ∀ store, storeId = some store → principal.canAccessStore .usersRead store = true) :
    record ∈ db.shownUsers collates principal storeId ↔
      getUser db principal record.user.id = .ok record ∧
        (storeId.isSome = true → db.eligible principal storeId record.user = true) := by
  rw [shownUsers_eq allowed,List.mem_map,getUser_eq_ok]
  simp only [List.mem_insertionSort,List.mem_filter]
  constructor
  · rintro ⟨user,⟨stored,eligible⟩,rfl⟩
    refine ⟨⟨user,stored,rfl,?_,rfl⟩,fun _ => eligible⟩
    cases asked : storeId with
    | none => rwa [asked] at eligible
    | some store =>
        rw [asked] at eligible
        exact eligible_of_store (allowed store asked) eligible
  · rintro ⟨⟨user,stored,-,eligible,rfl⟩,granted⟩
    refine ⟨user,⟨stored,?_⟩,rfl⟩
    cases asked : storeId with
    | none => exact eligible
    | some store =>
        rw [asked] at granted
        exact granted rfl

theorem shownUsers_nodup
    (allowed : ∀ store, storeId = some store → principal.canAccessStore .usersRead store = true) :
    ((db.shownUsers collates principal storeId).map fun record => record.user.id).Nodup := by
  rw [shownUsers_eq allowed,List.map_map,((List.perm_insertionSort _ _).map _).nodup_iff]
  exact db.users.unique.sublist (List.filter_sublist.map User.id)

end Pages

section Grants

variable {roles : Finset CanonicalIdentityRole} {storeIds : Finset Uuid}

/-- The grants derived are in the stores assigned, if a role is in a store where there are any. -/
theorem exists_grant_iff (paired : storeIds.Nonempty ↔ StoreScoped roles) {storeId : Uuid} :
    (∃ grant ∈ compatibilityGrantSpecs roles storeIds, grant.storeId = some storeId) ↔
      storeId ∈ storeIds := by
  constructor
  · rintro ⟨grant,member,same⟩
    rw [compatibilityGrantSpecs,Finset.mem_union] at member
    rcases member with administrator | inStore
    · split at administrator
      · rw [Finset.mem_singleton.mp administrator] at same
        cases same
      · simp at administrator
    · split at inStore
      · obtain ⟨other,assigned,rfl⟩ := Finset.mem_image.mp inStore
        exact Option.some.inj same ▸ assigned
      · split at inStore
        · obtain ⟨other,assigned,rfl⟩ := Finset.mem_image.mp inStore
          exact Option.some.inj same ▸ assigned
        · simp at inStore
  · intro assigned
    have inStore := paired.mp ⟨storeId,assigned⟩
    by_cases manager : .storeManager ∈ roles
    · exact ⟨.storeManager storeId,by simp [compatibilityGrantSpecs,manager,assigned],rfl⟩
    · have associate := inStore.resolve_right manager
      exact ⟨.storeAssociate storeId,
        by simp [compatibilityGrantSpecs,manager,associate,assigned],rfl⟩

theorem canonicalAccess_storeIds (paired : storeIds.Nonempty ↔ StoreScoped roles) :
    (canonicalAccess roles storeIds (compatibilityGrantSpecs roles storeIds)).storeIds =
      storeIds := by
  rw [canonicalAccess]
  dsimp only
  split
  · ext storeId
    simp only [Finset.mem_biUnion,Option.mem_toFinset,Option.mem_def,exists_grant_iff paired]
  · rfl

end Grants

section Operations

variable {principal : Principal} {storeId : Option Uuid} {collates : String → String → Bool}

/-- Whom a manager is shown, where the grants of the user are in the stores assigned. -/
theorem eligible_iff {db : IdentityDatabase} {user : User}
    (narrow : principal.hasTenantPermission .usersRead = false)
    (allowed : ∀ store, storeId = some store → principal.canAccessStore .usersRead store = true)
    (granted : ∀ store, (∃ grant ∈ db.grantsOf user.id, grant.storeId = some store) ↔
      store ∈ db.storesOf user.id) :
    db.eligible principal storeId user = true ↔ ∃ store ∈ db.storesOf user.id,
      store ∈ principal.allowedStoreIds .usersRead ∧
        ∀ asked, storeId = some asked → asked = store := by
  cases storeId with
  | none =>
      rw [IdentityDatabase.eligible,narrow,Bool.false_or,decide_eq_true_eq]
      constructor
      · rintro ⟨grant,member,store,reads,same⟩
        exact ⟨store,(granted store).mp ⟨grant,member,same⟩,reads,by simp⟩
      · rintro ⟨store,assigned,reads,-⟩
        obtain ⟨grant,member,same⟩ := (granted store).mpr assigned
        exact ⟨grant,member,store,reads,same⟩
  | some asked =>
      have reads : asked ∈ principal.allowedStoreIds .usersRead := by
        have access := allowed asked rfl
        rw [Principal.canAccessStore,narrow,Bool.false_or,decide_eq_true_eq] at access
        simpa [Principal.allowedStoreIds] using access
      rw [IdentityDatabase.eligible,decide_eq_true_eq,granted]
      constructor
      · intro assigned
        exact ⟨asked,assigned,reads,by simp⟩
      · rintro ⟨store,assigned,-,same⟩
        rwa [same asked rfl]

/-- After any operations the listing of the users is the pages of what looking each of them up shows.
Without tenant-wide permission these are, of the users created since the start, those assigned to
one of the principal's stores, and no other store of theirs is shown. -/
theorem user_listing_agrees (start : IdentityDatabase) (operations : List AccessOperation)
    (allowed : ∀ store, storeId = some store →
      principal.canAccessStore .usersRead store = true) :
    (∀ limit offset, listUsers collates (start.afterAll operations) principal storeId limit offset =
      .ok (Sql.page ((start.afterAll operations).shownUsers collates principal storeId) limit offset,
        ((start.afterAll operations).shownUsers collates principal storeId).length)) ∧
    (((start.afterAll operations).shownUsers collates principal storeId).map
      fun record => record.user.id).Nodup ∧
    (∀ record, record ∈ (start.afterAll operations).shownUsers collates principal storeId ↔
      getUser (start.afterAll operations) principal record.user.id = .ok record ∧
        ∀ store, storeId = some store →
          ∃ grant ∈ (start.afterAll operations).grantsOf record.user.id,
            grant.storeId = some store) ∧
    (principal.hasTenantPermission .usersRead = false →
      ∀ user ∈ (start.afterAll operations).users.rows, start.user? user.id = none →
        ((∃ record ∈ (start.afterAll operations).shownUsers collates principal storeId,
          record.user = user) ↔
          ∃ store ∈ (start.afterAll operations).storesOf user.id,
            store ∈ principal.allowedStoreIds .usersRead ∧ ∀ asked, storeId = some asked → asked = store)
        ∧ ∀ record, record.user = user →
          (canonicalizeUserRecord (start.afterAll operations) principal record).storeIds =
            sortedStoreIds ((start.afterAll operations).storesOf user.id ∩
              principal.allowedStoreIds .usersRead)) := by
  refine ⟨fun limit offset => listUsers_eq allowed,shownUsers_nodup allowed,fun record => ?_,
    fun narrow user stored absent => ?_⟩
  · rw [mem_shownUsers allowed]
    refine and_congr_right fun _ => ?_
    cases storeId with
    | none => simp
    | some store => simp [IdentityDatabase.eligible]
  · have inStep := (inStepSince_start start).afterAll operations user.id _ absent
      (IdentityDatabase.account?_of_mem stored)
    have granted : ∀ store, (∃ grant ∈ (start.afterAll operations).grantsOf user.id,
        grant.storeId = some store) ↔ store ∈ (start.afterAll operations).storesOf user.id := by
      intro store
      rw [← exists_grant_iff inStep.paired.symm,← inStep.derived]
    have shown : (∃ record ∈ (start.afterAll operations).shownUsers collates principal storeId,
        record.user = user) ↔ (start.afterAll operations).eligible principal storeId user = true := by
      rw [shownUsers_eq allowed]
      simp [IdentityDatabase.userRecord,stored]
    refine ⟨shown.trans (eligible_iff narrow allowed granted),?_⟩
    rintro record rfl
    have derived : (start.afterAll operations).grantsOf record.user.id =
        compatibilityGrantSpecs ((start.afterAll operations).rolesOf record.user.id)
          ((start.afterAll operations).storesOf record.user.id) := inStep.derived
    rw [canonicalizeUserRecord,derived,canonicalAccess_storeIds inStep.paired.symm]
    simp [narrow]

namespace Sample

def hiring : List AccessOperation :=
  [.createCanonicalUser tenantAdministrator associateCreate 2]

theorem associate_stored : associateUser ∈ (newTenant.afterAll hiring).users.rows := by
  decide +kernel

theorem associate_new : newTenant.user? associateUser.id = none := by decide +kernel

theorem associate_assigned : 7 ∈ (newTenant.afterAll hiring).storesOf associateUser.id := by
  decide +kernel

end Sample

theorem user_listing_agrees_sample : ∃ record ∈
    (Sample.newTenant.afterAll Sample.hiring).shownUsers (fun _ _ => true) Sample.storeManager none,
    record.user = Sample.associateUser :=
  ((user_listing_agrees Sample.newTenant Sample.hiring (by simp)).2.2.2 (by decide) _
    Sample.associate_stored Sample.associate_new).1.mpr ⟨7,Sample.associate_assigned,by decide,by simp⟩

end Operations

end Abacus

import Abacus.Model.Identity

/-! What a committed identity request does to the accounts of the tenant.
An account is everything the tables hold about one user. A request rewrites the account
it is for and leaves all others alone.
-/
set_option autoImplicit false

namespace Abacus

open Relational Transaction

@[ext] structure Account where
  user : User
  roles : Finset CanonicalIdentityRole
  storeIds : Finset Uuid
  grants : Finset UserAccessGrant

namespace Account

def access (account : Account) : CanonicalAccess :=
  canonicalAccess account.roles account.storeIds account.grants

def IsAdmin (account : Account) : Prop :=
  account.user.status = .active ∧ .tenantAdmin ∈ account.roles

/-- The grant of an administrator stands beside the canonical role, and only there. -/
def AdminInStep (account : Account) : Prop :=
  .corporateAdmin ∈ account.grants ↔ .tenantAdmin ∈ account.roles

def bumpedIf (account : Account) (changed : Prop) [Decidable changed] : Account :=
  if changed then
    { account with
      user := { account.user with tokenVersion := nextTokenVersion account.user.tokenVersion } }
  else account

def AccessChanged (account : Account) (roles : Finset CanonicalIdentityRole)
    (storeIds : Finset Uuid) : Prop :=
  roles ≠ account.access.roles ∨ storeIds ≠ account.access.storeIds ∨
    compatibilityGrantSpecs roles storeIds ≠ account.grants

instance (account : Account) (roles : Finset CanonicalIdentityRole) (storeIds : Finset Uuid) :
    Decidable (account.AccessChanged roles storeIds) :=
  inferInstanceAs (Decidable (_ ∨ _))

def replaced (account : Account) (roles : Finset CanonicalIdentityRole) (storeIds : Finset Uuid) :
    Account :=
  { account.bumpedIf (account.AccessChanged roles storeIds) with
    roles := roles, storeIds := storeIds, grants := compatibilityGrantSpecs roles storeIds }

def suspended (account : Account) : Account :=
  if account.user.status = .suspended then account
  else { account with
    user := { account.user with
      status := .suspended, tokenVersion := nextTokenVersion account.user.tokenVersion } }

def created (request : CanonicalUserCreate) (userId : Uuid) : Account where
  user := ⟨userId,request.email,request.displayName,.active,firstTokenVersion⟩
  roles := request.roles
  storeIds := request.storeIds
  grants := compatibilityGrantSpecs request.roles request.storeIds

@[simp] theorem replaced_roles (account : Account) (roles : Finset CanonicalIdentityRole)
    (storeIds : Finset Uuid) : (account.replaced roles storeIds).roles = roles := rfl

@[simp] theorem replaced_storeIds (account : Account) (roles : Finset CanonicalIdentityRole)
    (storeIds : Finset Uuid) : (account.replaced roles storeIds).storeIds = storeIds := rfl

@[simp] theorem replaced_grants (account : Account) (roles : Finset CanonicalIdentityRole)
    (storeIds : Finset Uuid) :
    (account.replaced roles storeIds).grants = compatibilityGrantSpecs roles storeIds := rfl

@[simp] theorem replaced_status (account : Account) (roles : Finset CanonicalIdentityRole)
    (storeIds : Finset Uuid) :
    (account.replaced roles storeIds).user.status = account.user.status := by
  simp only [replaced,bumpedIf]
  split <;> rfl

@[simp] theorem suspended_roles (account : Account) : account.suspended.roles = account.roles := by
  unfold suspended
  split <;> rfl

@[simp] theorem suspended_storeIds (account : Account) :
    account.suspended.storeIds = account.storeIds := by
  unfold suspended
  split <;> rfl

@[simp] theorem suspended_grants (account : Account) :
    account.suspended.grants = account.grants := by
  unfold suspended
  split <;> rfl

theorem suspended_status (account : Account) : account.suspended.user.status = .suspended := by
  unfold suspended
  split
  · assumption
  · rfl

theorem access_roles_of_nonempty {account : Account} (stored : account.roles ≠ ∅) :
    account.access.roles = account.roles := if_neg stored

theorem access_storeIds_of_nonempty {account : Account} (stored : account.storeIds ≠ ∅) :
    account.access.storeIds = account.storeIds := if_neg stored

end Account

theorem mem_compatibilityGrantSpecs_admin {roles : Finset CanonicalIdentityRole}
    {storeIds : Finset Uuid} :
    .corporateAdmin ∈ compatibilityGrantSpecs roles storeIds ↔ .tenantAdmin ∈ roles := by
  unfold compatibilityGrantSpecs
  split <;> split <;> (try split) <;> simp_all

namespace IdentityDatabase

def account? (db : IdentityDatabase) (userId : Uuid) : Option Account :=
  (db.user? userId).map fun user =>
    ⟨user,db.rolesOf userId,db.storesOf userId,db.grantsOf userId⟩

def AnotherAdmin (db : IdentityDatabase) (excludedUserId : Uuid) : Prop :=
  ∃ userId account, userId ≠ excludedUserId ∧ db.account? userId = some account ∧ account.IsAdmin

theorem account?_eq_some {db : IdentityDatabase} {userId : Uuid} {account : Account} :
    db.account? userId = some account ↔ db.user? userId = some account.user ∧
      db.rolesOf userId = account.roles ∧ db.storesOf userId = account.storeIds ∧
      db.grantsOf userId = account.grants := by
  unfold account?
  rw [Option.map_eq_some_iff]
  constructor
  · rintro ⟨user,found,rfl⟩
    exact ⟨found,rfl,rfl,rfl⟩
  · rintro ⟨found,roles,storeIds,grants⟩
    exact ⟨account.user,found,by rw [roles,storeIds,grants]⟩

theorem user_id {db : IdentityDatabase} {userId : Uuid} {account : Account}
    (found : db.account? userId = some account) : account.user.id = userId :=
  Table.key_of_find? (account?_eq_some.mp found).1

theorem account?_of_mem {db : IdentityDatabase} {user : User} (member : user ∈ db.users.rows) :
    db.account? user.id = some ⟨user,db.rolesOf user.id,db.storesOf user.id,db.grantsOf user.id⟩ :=
  account?_eq_some.mpr ⟨Table.find?_of_mem member,rfl,rfl,rfl⟩

theorem anotherCanonicalAdmin_iff {db : IdentityDatabase} {excludedUserId : Uuid} :
    db.anotherCanonicalAdmin excludedUserId = true ↔ db.AnotherAdmin excludedUserId := by
  unfold anotherCanonicalAdmin
  rw [List.any_eq_true]
  constructor
  · rintro ⟨user,member,chosen⟩
    obtain ⟨apart,admin,active⟩ := of_decide_eq_true chosen
    exact ⟨user.id,_,apart,account?_of_mem member,active,admin⟩
  · rintro ⟨userId,account,apart,found,active,admin⟩
    obtain ⟨stored,roles,-,-⟩ := account?_eq_some.mp found
    have keyed := user_id found
    subst keyed
    refine ⟨account.user,Table.mem_of_find? stored,decide_eq_true ⟨apart,?_,active⟩⟩
    rw [roles]
    exact admin

/-- In a database in step, the legacy query finds administrators only. -/
theorem anotherAdmin_of_legacy {db : IdentityDatabase} {excludedUserId : Uuid}
    (inStep : ∀ userId account, db.account? userId = some account → account.AdminInStep)
    (legacy : db.anotherLegacyAdmin excludedUserId = true) : db.AnotherAdmin excludedUserId := by
  obtain ⟨user,member,chosen⟩ := List.any_eq_true.mp legacy
  obtain ⟨apart,admin,active⟩ := of_decide_eq_true chosen
  have found := account?_of_mem member
  exact ⟨user.id,_,apart,found,active,(inStep user.id _ found).mp admin⟩

/-- What a service writes for one user leaves everything else as it is. -/
structure Modifies (db after : IdentityDatabase) (userId : Uuid) (f : Account → Account) : Prop where
  here : after.account? userId = (db.account? userId).map f
  others : ∀ other, other ≠ userId → after.account? other = db.account? other
  tenantId : after.tenantId = db.tenantId
  stores : after.stores = db.stores
  issuedTokens : after.issuedTokens = db.issuedTokens

namespace Modifies

variable {db middle after : IdentityDatabase} {userId : Uuid} {f g : Account → Account}

theorem refl (db : IdentityDatabase) (userId : Uuid) : Modifies db db userId id where
  here := by simp
  others := fun _ _ => rfl
  tenantId := rfl
  stores := rfl
  issuedTokens := rfl

theorem trans (first : Modifies db middle userId f) (second : Modifies middle after userId g) :
    Modifies db after userId (g ∘ f) where
  here := by rw [second.here,first.here,Option.map_map]
  others := fun other apart => (second.others other apart).trans (first.others other apart)
  tenantId := second.tenantId.trans first.tenantId
  stores := second.stores.trans first.stores
  issuedTokens := second.issuedTokens.trans first.issuedTokens

/-- A write that is made only when it is needed. -/
theorem conditional (condition : Prop) [Decidable condition] (write : Modifies db after userId f) :
    Modifies db (if condition then after else db) userId (if condition then f else id) := by
  split
  · exact write
  · exact refl db userId

end Modifies

section Writes

variable (db : IdentityDatabase) (userId : Uuid)

theorem modifies_persistRoleRows (roles : Finset CanonicalIdentityRole) :
    Modifies db (db.persistRoleRows userId roles) userId
      fun account => { account with roles := roles } where
  here := by
    simp [account?,user?,rolesOf,storesOf,grantsOf,persistRoleRows,Function.comp_def]
  others := by
    intro other apart
    simp [account?,user?,rolesOf,storesOf,grantsOf,persistRoleRows,apart]
  tenantId := rfl
  stores := rfl
  issuedTokens := rfl

theorem modifies_persistAssignmentRows (storeIds : Finset Uuid) :
    Modifies db (db.persistAssignmentRows userId storeIds) userId
      fun account => { account with storeIds := storeIds } where
  here := by
    simp [account?,user?,rolesOf,storesOf,grantsOf,persistAssignmentRows,Function.comp_def]
  others := by
    intro other apart
    simp [account?,user?,rolesOf,storesOf,grantsOf,persistAssignmentRows,apart]
  tenantId := rfl
  stores := rfl
  issuedTokens := rfl

theorem modifies_persistCompatibilityGrants (specs : Finset UserAccessGrant) :
    Modifies db (db.persistCompatibilityGrants userId specs) userId
      fun account => { account with grants := specs } where
  here := by
    simp [account?,user?,rolesOf,storesOf,grantsOf,persistCompatibilityGrants,Function.comp_def]
  others := by
    intro other apart
    simp [account?,user?,rolesOf,storesOf,grantsOf,persistCompatibilityGrants,apart]
  tenantId := rfl
  stores := rfl
  issuedTokens := rfl

theorem modifies_addAuditRecord (record : IdentityAuditRecord) :
    Modifies db (db.addAuditRecord record) userId id where
  here := by
    rw [Option.map_id_fun]
    rfl
  others := fun _ _ => rfl
  tenantId := rfl
  stores := rfl
  issuedTokens := rfl

theorem modifies_setStatus (status : UserStatus) :
    Modifies db (db.setStatus userId status) userId
      fun account => { account with user := { account.user with status := status } } where
  here := by
    simp [account?,user?,rolesOf,storesOf,grantsOf,setStatus,Table.find?_modify,Function.comp_def]
  others := by
    intro other apart
    simp [account?,user?,rolesOf,storesOf,grantsOf,setStatus,Table.find?_modify,apart]
  tenantId := rfl
  stores := rfl
  issuedTokens := rfl

theorem modifies_setTokenVersion (tokenVersion : ℕ+) :
    Modifies db (db.setTokenVersion userId tokenVersion) userId
      fun account => { account with user := { account.user with tokenVersion := tokenVersion } } where
  here := by
    simp [account?,user?,rolesOf,storesOf,grantsOf,setTokenVersion,Table.find?_modify,
      Function.comp_def]
  others := by
    intro other apart
    simp [account?,user?,rolesOf,storesOf,grantsOf,setTokenVersion,Table.find?_modify,apart]
  tenantId := rfl
  stores := rfl
  issuedTokens := rfl

end Writes

end IdentityDatabase

end Abacus

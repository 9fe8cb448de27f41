import Abacus.Identity.LastAdmin
import Abacus.Identity.Tokens

/-! Emails of a tenant's users, and requests that run alone.
A request that runs with no other in between is one step of the identity services, as in any
interleaving. No step gives two users one email.
-/
set_option autoImplicit false

namespace Abacus

open Relational Transaction

namespace IdentityDatabase

variable {db after : IdentityDatabase} {userId : Uuid} {account written : Account}

def EmailsUnique (db : IdentityDatabase) : Prop :=
  ∀ first second left right, db.account? first = some left → db.account? second = some right →
    left.user.email = right.user.email → first = second

theorem Writes.emailsUnique (writes : db.Writes after userId written) (unique : db.EmailsUnique)
    (own : ∀ other account, db.account? other = some account →
      account.user.email = written.user.email → other = userId) : after.EmailsUnique := by
  intro first second left right one two same
  rcases writes.cases one with ⟨rfl,rfl⟩ | ⟨apart,old⟩
  · rcases writes.cases two with ⟨rfl,rfl⟩ | ⟨-,found⟩
    · rfl
    · exact (own second right found same.symm).symm
  · rcases writes.cases two with ⟨rfl,rfl⟩ | ⟨-,found⟩
    · exact own first left old same
    · exact unique first second left right old found same

/-- The account has kept its email. -/
theorem Writes.emailsUnique_of_kept (writes : db.Writes after userId written)
    (unique : db.EmailsUnique) (found : db.account? userId = some account)
    (kept : written.user.email = account.user.email) : after.EmailsUnique := by
  apply writes.emailsUnique unique
  intro other stored present same
  exact unique other userId stored account present found (same.trans kept)

theorem Writes.tokensBehind (writes : db.Writes after userId written) (behind : db.TokensBehind)
    (inStep : written.InStep)
    (grows : ∀ account, db.account? userId = some account →
      account.user.tokenVersion ≤ written.user.tokenVersion) : after.TokensBehind := by
  constructor
  · intro other account found
    rcases writes.cases found with ⟨-,rfl⟩ | ⟨-,old⟩
    · exact inStep
    · exact behind.inStep other account old
  · intro claims member
    rw [writes.issuedTokens] at member
    obtain ⟨account,found,bound⟩ := behind.issued claims member
    by_cases same : claims.userId = userId
    · rw [same] at found ⊢
      exact ⟨written,writes.here,bound.trans (grows account found)⟩
    · exact ⟨account,by rw [writes.others claims.userId same]; exact found,bound⟩

end IdentityDatabase

theorem Account.replaced_email (account : Account) (roles : Finset CanonicalIdentityRole)
    (storeIds : Finset Uuid) :
    (account.replaced roles storeIds).user.email = account.user.email := by
  simp only [Account.replaced,Account.bumpedIf]
  split <;> rfl

theorem Account.suspended_email (account : Account) :
    account.suspended.user.email = account.user.email := by
  unfold Account.suspended
  split <;> rfl

/-- No step changes the email of a user. -/
theorem IdentityStep.email {db after : IdentityDatabase} {request : IdentityRequest}
    (step : IdentityStep db request after) {userId : Uuid} {account kept : Account}
    (found : db.account? userId = some account) (stored : after.account? userId = some kept) :
    kept.user.email = account.user.email := by
  have written : ∀ {target : Uuid} {old result : Account}, db.account? target = some old →
      db.Writes after target result → result.user.email = old.user.email →
      kept.user.email = account.user.email := by
    intro target old result present writes same
    rcases writes.cases stored with ⟨rfl,rfl⟩ | ⟨-,unchanged⟩
    · rw [present] at found
      cases found
      exact same
    · rw [unchanged] at found
      cases found
      rfl
  cases step with
  | @created _ request target _ permitted active absent writes =>
      rcases writes.cases stored with ⟨rfl,-⟩ | ⟨-,unchanged⟩
      · rw [absent] at found
        cases found
      · rw [unchanged] at found
        cases found
        rfl
  | accessReplaced permitted present valid usable spared writes =>
      exact written present writes (Account.replaced_email ..)
  | rolesReplaced permitted present valid spared writes =>
      exact written present writes (Account.replaced_email ..)
  | storesReplaced present someRole valid usable permitted writes =>
      exact written present writes (Account.replaced_email ..)
  | suspended someoneElse present permitted spared writes =>
      exact written present writes (Account.suspended_email _)
  | tokenCreated present =>
      have same : db.account? userId = some kept := stored
      rw [found] at same
      cases same
      rfl

section Serve

variable {db : IdentityDatabase}

/-- A request that runs alone is a step of the identity services. -/
theorem run_identityService (sound : AdminsInStep db) (request : IdentityRequest) :
    ((identityService request).run db).1 = db ∨
      IdentityStep db request ((identityService request).run db).1 := by
  obtain ⟨locks,commits⟩ := (identity_verifies request db sound).run sound
  cases outcome : ((identityService request).run db).2 with
  | error failure =>
      rw [outcome] at commits
      exact .inl commits
  | ok response =>
      rw [outcome] at commits
      exact .inr commits.1

theorem insertCanonicalUser_email {principal : Principal} {create : CanonicalUserCreate}
    {user : User} {written : IdentityDatabase}
    (inserted : insertCanonicalUser principal create user db = some written) :
    ∀ userId account, db.account? userId = some account → account.user.email ≠ user.email := by
  intro userId account found
  unfold insertCanonicalUser at inserted
  split at inserted
  · cases inserted
  · rename_i free
    have stored := Table.mem_of_find? (IdentityDatabase.account?_eq_some.mp found).1
    intro same
    exact free (List.any_eq_true.mpr ⟨account.user,stored,decide_eq_true same⟩)

theorem run_commitOr {failure : Failure} {response : IdentityResponse}
    {write : IdentityDatabase → Option IdentityDatabase} :
    ((commitOr failure response write : IdentityProgram).run db).1 = db ∨
      write db = some ((commitOr failure response write : IdentityProgram).run db).1 := by
  rw [commitOr,Program.run_finish]
  cases write db with
  | none => exact .inl rfl
  | some written => exact .inr rfl

variable (db) in
theorem run_createCanonicalUser (principal : Principal) (create : CanonicalUserCreate)
    (userId : Uuid) : ((createCanonicalUser principal create userId).run db).1 = db ∨
      insertCanonicalUser principal create (Account.created create userId).user db =
        some ((createCanonicalUser principal create userId).run db).1 := by
  unfold createCanonicalUser ensureAssociatesWithin ensureActiveStoreIds ensureStores
  simp only [run_ensure]
  split
  · split
    · rw [Program.run_read,run_ensure]
      split
      · exact run_commitOr
      · exact .inl rfl
    · rw [Program.run_read,run_ensure]
      split
      · rw [Program.run_read,run_ensure]
        split
        · exact run_commitOr
        · exact .inl rfl
      · exact .inl rfl
  · exact .inl rfl

theorem emailsUnique_serve (sound : AdminsInStep db) (unique : db.EmailsUnique)
    (request : IdentityRequest) : ((identityService request).run db).1.EmailsUnique := by
  rcases run_identityService sound request with same | step
  · rw [same]
    exact unique
  · cases request with
    | createCanonicalUser principal create userId =>
        rcases run_createCanonicalUser db principal create userId with same | inserted
        · exact (congrArg IdentityDatabase.EmailsUnique same).mpr unique
        · have writes := (insertCanonicalUser_writes inserted).2
          apply writes.emailsUnique unique
          intro other account found same
          exact absurd same (insertCanonicalUser_email inserted other account found)
    | replaceUserAccess principal userId replace =>
        cases step with
        | accessReplaced permitted found valid usable spared writes =>
            exact writes.emailsUnique_of_kept unique found (Account.replaced_email ..)
    | replaceUserRoles principal userId replace =>
        cases step with
        | rolesReplaced permitted found valid spared writes =>
            exact writes.emailsUnique_of_kept unique found (Account.replaced_email ..)
    | replaceUserStoreAssignments principal userId replace =>
        cases step with
        | storesReplaced found someRole valid usable permitted writes =>
            exact writes.emailsUnique_of_kept unique found (Account.replaced_email ..)
    | suspendUser principal userId =>
        cases step with
        | suspended someoneElse found permitted spared writes =>
            exact writes.emailsUnique_of_kept unique found (Account.suspended_email _)
    | createAccessToken userId sessionId expiresAt =>
        generalize ((identityService (.createAccessToken userId sessionId expiresAt)).run db).1 =
          after at step
        cases step with
        | tokenCreated found => exact unique

end Serve

end Abacus

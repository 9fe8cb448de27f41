import Abacus.Identity.Emails
import Abacus.Model.Bootstrap

/-! What the deployment commands do to the users of one tenant.
Of the reviewer's rows only those are written that differ from what is asked, so that all of them
are as asked afterwards.
-/
set_option autoImplicit false

namespace Abacus.Bootstrap

open Relational
open Python (Text)
open IdentityDatabase

/-- What the database and the login need of the password library: a fresh hash verifies, and what
verifies without a new hash does so again, with the salt of any later call. -/
structure Library.Lawful (library : Library) : Prop where
  nonempty : ∀ password salt, library.hash password salt ≠ ""
  hashed : ∀ password salt later,
    library.verifyAndUpdate password (library.hash password salt) later = some (true,none)
  updates : ∀ password hash salt replacement,
    library.verifyAndUpdate password hash salt = some (true,some replacement) →
      replacement = library.hash password salt
  current : ∀ password hash salt, library.verifyAndUpdate password hash salt = some (true,none) →
    ∀ later, library.verifyAndUpdate password hash later = some (true,none)
  settled : ∀ password hash salt, library.verifyAndUpdate password hash salt = some (true,none) →
    ∀ other later verified replacement,
      library.verifyAndUpdate other hash later = some (verified,replacement) → replacement = none

section Passwords

variable {library : Library} {password : String} {salt : ℕ}

def Library.Holds (library : Library) (password hash : String) : Prop :=
  ∀ salt, verifyPasswordAndUpdate library password (some hash) salt = (true,none)

theorem Library.Lawful.holds_hash (lawful : library.Lawful) (password : String) (salt : ℕ) :
    library.Holds password (library.hash password salt) := by
  intro later
  simp [verifyPasswordAndUpdate,Option.filter,lawful.nonempty,lawful.hashed]

/-- What a verification leaves: the stored hash if it needs no update, or a fresh one. -/
theorem verify_cases (lawful : library.Lawful) (password stored : String) (salt : ℕ) :
    (verifyPasswordAndUpdate library password (some stored) salt).1 = false ∨
      library.Holds password stored ∧
        verifyPasswordAndUpdate library password (some stored) salt = (true,none) ∨
      verifyPasswordAndUpdate library password (some stored) salt =
        (true,some (library.hash password salt)) := by
  let candidateHash := ((some stored).filter fun hash => hash ≠ "").getD library.dummyPasswordHash
  have verified : ∀ salt, verifyPasswordAndUpdate library password (some stored) salt =
      (library.verifyAndUpdate password candidateHash salt).getD (false,none) := fun _ => rfl
  cases answered : library.verifyAndUpdate password candidateHash salt with
  | none => exact .inl (by rw [verified,answered]; rfl)
  | some result =>
      obtain ⟨matched,replacement⟩ := result
      cases matched with
      | false => exact .inl (by rw [verified,answered]; rfl)
      | true =>
          cases replacement with
          | none =>
              refine .inr (.inl ⟨fun later => ?_,by rw [verified,answered]; rfl⟩)
              rw [verified,lawful.current password candidateHash salt answered later]
              rfl
          | some hash =>
              refine .inr (.inr ?_)
              rw [verified,answered,lawful.updates password candidateHash salt hash answered]
              rfl

/-- A login with any password leaves a hash that needs no update as it is. -/
theorem Library.Holds.kept (lawful : library.Lawful) {stored : String}
    (holds : library.Holds password stored) (other : String) (salt : ℕ) :
    (verifyPasswordAndUpdate library other (some stored) salt).2 = none := by
  let candidateHash := ((some stored).filter fun hash => hash ≠ "").getD library.dummyPasswordHash
  have here : (library.verifyAndUpdate password candidateHash salt).getD (false,none) =
      (true,none) := holds salt
  have there : verifyPasswordAndUpdate library other (some stored) salt =
      (library.verifyAndUpdate other candidateHash salt).getD (false,none) := rfl
  have matched : library.verifyAndUpdate password candidateHash salt = some (true,none) := by
    cases answered : library.verifyAndUpdate password candidateHash salt with
    | none =>
        rw [answered] at here
        cases here
    | some result =>
        rw [answered] at here
        exact congrArg some here
  rw [there]
  cases answered : library.verifyAndUpdate other candidateHash salt with
  | none => rfl
  | some result =>
      exact lawful.settled password candidateHash salt matched other salt result.1 result.2 answered

end Passwords

def reviewerAccount (user : User) : Account := ⟨user,{.corporateUser},∅,∅⟩

theorem reviewerAccount_inStep (user : User) : (reviewerAccount user).InStep where
  someRole := Finset.singleton_nonempty _
  paired := by simp [reviewerAccount,ValidPair,StoreScoped]
  derived := by simp [reviewerAccount,compatibilityGrantSpecs]

def adminAccount (user : User) : Account := ⟨user,{.tenantAdmin},∅,{.corporateAdmin}⟩

theorem adminAccount_inStep (user : User) : (adminAccount user).InStep where
  someRole := Finset.singleton_nonempty _
  paired := by simp [adminAccount,ValidPair,StoreScoped]
  derived := by simp [adminAccount,compatibilityGrantSpecs]

namespace TenantUsers

/-- What every service keeps of a tenant's users. -/
structure Sound (users : TenantUsers) : Prop where
  behind : users.identity.TokensBehind
  emails : users.identity.EmailsUnique

variable {library : Library} {users after : TenantUsers} {user : User} {account : Account}
  {roles : Finset CanonicalIdentityRole} {grants : Finset UserAccessGrant} {hash : String}
  {email password : String} {request : CanonicalUserCreate} {fresh : Fresh} {salt : ℕ}

theorem Sound.adminsInStep (sound : users.Sound) : AdminsInStep users.identity :=
  fun userId account found => (sound.behind.inStep userId account found).adminInStep

theorem userByEmail_account (found : users.userByEmail email = some user) :
    users.identity.account? user.id =
      some ⟨user,users.identity.rolesOf user.id,users.identity.storesOf user.id,
        users.identity.grantsOf user.id⟩ ∧ user.email = email :=
  ⟨account?_of_mem (List.mem_of_find?_eq_some found),by simpa using List.find?_some found⟩

theorem userByEmail_none (missing : users.userByEmail email = none) {userId : Uuid}
    (found : users.identity.account? userId = some account) : account.user.email ≠ email := by
  have stored := Table.mem_of_find? (account?_eq_some.mp found).1
  simpa using List.find?_eq_none.mp missing account.user stored

theorem Sound.userByEmail (sound : users.Sound) {userId : Uuid}
    (found : users.identity.account? userId = some account) :
    users.userByEmail account.user.email = some account.user := by
  cases first : users.userByEmail account.user.email with
  | none => exact absurd rfl (userByEmail_none first found)
  | some user =>
      obtain ⟨present,same⟩ := userByEmail_account first
      have keyed := sound.emails user.id userId _ account present found same
      rw [keyed,found] at present
      exact congrArg some (congrArg Account.user (Option.some.inj present)).symm

/-- A new user has exactly the rows that it is added with. -/
theorem addUser_writes (added : users.addUser user roles grants hash = some after) :
    users.identity.account? user.id = none ∧
      users.identity.Writes after.identity user.id ⟨user,roles,∅,grants⟩ ∧
      after.passwordHashes user.id = hash ∧
      ∀ other, other ≠ user.id → after.passwordHashes other = users.passwordHashes other := by
  obtain ⟨rows,inserted,rfl⟩ := Option.map_eq_some_iff.mp added
  have absent : users.identity.user? user.id = none := (Table.insert_eq_some inserted).1
  refine ⟨by rw [account?,absent]; rfl,⟨?_,?_,rfl,rfl,rfl⟩,if_pos rfl,
    fun other apart => if_neg apart⟩
  · rw [account?_eq_some]
    simp [user?,rolesOf,storesOf,grantsOf,persistRoleRows,persistAssignmentRows,
      persistCompatibilityGrants,Table.find?_insert inserted]
  · intro other apart
    have others : rows.find? other = users.identity.users.find? other := by
      rw [Table.find?_insert inserted,if_neg (Ne.symm apart)]
    simp [account?,user?,rolesOf,storesOf,grantsOf,persistRoleRows,persistAssignmentRows,
      persistCompatibilityGrants,others,apart]

end TenantUsers

theorem modifies_setDisplayName (db : IdentityDatabase) (userId : Uuid) (displayName : String) :
    Modifies db (setDisplayName userId displayName db) userId
      fun account => { account with user := { account.user with displayName := displayName } } where
  here := by
    simp [account?,user?,rolesOf,storesOf,grantsOf,setDisplayName,Table.find?_modify,
      Function.comp_def]
  others := by
    intro other apart
    simp [account?,user?,rolesOf,storesOf,grantsOf,setDisplayName,Table.find?_modify,apart]
  tenantId := rfl
  stores := rfl
  issuedTokens := rfl

namespace TenantUsers

variable {library : Library} {users after : TenantUsers} {user : User} {account : Account}
  {request : CanonicalUserCreate} {password : String} {salt : ℕ} {record : CanonicalUserRecord}

/-- A write that is made where the account is not yet as asked. -/
theorem writes_unless {db middle next : IdentityDatabase} {userId : Uuid} {account : Account}
    {f : Account → Account} (writes : db.Writes middle userId account)
    (modifies : Modifies middle next userId f) (needed : Prop) [Decidable needed]
    (idle : ¬needed → f account = account) :
    db.Writes (if needed then next else middle) userId (f account) := by
  split
  · constructor
    · rw [modifies.here,writes.here]
      rfl
    · intro other apart
      rw [modifies.others other apart,writes.others other apart]
    · rw [modifies.tenantId,writes.tenantId]
    · rw [modifies.stores,writes.stores]
    · rw [modifies.issuedTokens,writes.issuedTokens]
  · rename_i done
    rw [idle done]
    exact writes

/-- The user's rows are afterwards as asked, whichever of them were before. -/
theorem reconciledIdentity_writes (found : users.identity.account? user.id = some account)
    (stored : account.user = user) :
    users.identity.Writes (reconciledIdentity library users user request password salt) user.id
      (reviewerAccount { user with
        displayName := request.displayName, status := .active,
        tokenVersion := reviewerTokenVersion library users user request password salt }) := by
  obtain ⟨-,roles,storeIds,grants⟩ := account?_eq_some.mp found
  obtain ⟨owner,held,assigned,granted⟩ := account
  subst stored
  dsimp only at roles storeIds grants found
  let applies := ReviewerChange.applies library users owner request password salt
  have renamed := writes_unless (writes_same found)
    (modifies_setDisplayName users.identity owner.id request.displayName)
    (applies .displayName = true) (by
      intro same
      have named : owner.displayName = request.displayName := by
        simpa [applies,ReviewerChange.applies] using same
      simp [← named])
  have reactivated := writes_unless renamed (modifies_setStatus _ owner.id .active)
    (applies .statusReactivated = true) (by
      intro same
      have active : owner.status = .active := by
        simpa [applies,ReviewerChange.applies] using same
      simp [active])
  have reconciled := writes_unless reactivated
    (modifies_persistRoleRows _ owner.id {.corporateUser}) (applies .rolesReconciled = true) (by
      intro same
      have only : users.identity.rolesOf owner.id = {.corporateUser} := by
        simpa [applies,ReviewerChange.applies] using same
      simp [← roles,only])
  have unassigned := writes_unless reconciled (modifies_persistAssignmentRows _ owner.id ∅)
    (applies .storeAssignmentsRemoved = true) (by
      intro same
      have bare : users.identity.storesOf owner.id = ∅ := by
        simpa [applies,ReviewerChange.applies] using same
      simp [← storeIds,bare])
  have ungranted := writes_unless unassigned (modifies_persistCompatibilityGrants _ owner.id ∅)
    (applies .legacyGrantsRemoved = true) (by
      intro same
      have bare : users.identity.grantsOf owner.id = ∅ := by
        simpa [applies,ReviewerChange.applies] using same
      simp [← grants,bare])
  exact writes_unless ungranted (modifies_setTokenVersion _ owner.id
    (reviewerTokenVersion library users owner request password salt))
    ((reviewerChanges library users owner request password salt).any
      ReviewerChange.invalidatesTokens = true) (by
      intro same
      have kept : reviewerTokenVersion library users owner request password salt =
          owner.tokenVersion := if_neg same
      simp [kept])

end TenantUsers

section Reviewer

variable {library : Library} {users after : TenantUsers} {request : CanonicalUserCreate}
  {password : String} {fresh : Fresh} {record : CanonicalUserRecord}

def Differs (library : Library) (users : TenantUsers) (account : Account) (password : String)
    (salt : ℕ) : Prop :=
  account.user.status ≠ .active ∨ account.roles ≠ {.corporateUser} ∨ account.storeIds ≠ ∅ ∨
    account.grants ≠ ∅ ∨
    (verifyPasswordAndUpdate library password (some (users.passwordHashes account.user.id))
      salt).1 = false

variable (request) in
theorem any_invalidatesTokens {user : User} {account : Account} {salt : ℕ}
    (found : users.identity.account? user.id = some account) (stored : account.user = user) :
    (reviewerChanges library users user request password salt).any
      ReviewerChange.invalidatesTokens = true ↔ Differs library users account password salt := by
  obtain ⟨-,roles,storeIds,grants⟩ := account?_eq_some.mp found
  subst stored
  simp only [reviewerChanges,List.any_filter,ReviewerChange.all,List.any_cons,List.any_nil,
    ReviewerChange.applies,ReviewerChange.invalidatesTokens,Differs,← roles,← storeIds,← grants,
    Bool.and_false,Bool.and_true,Bool.or_false,Bool.false_or,Bool.or_eq_true,decide_eq_true_eq,
    Bool.not_eq_true']
  grind

/-- What the reviewer's command has done to the users of the tenant. -/
structure Reviewed (library : Library) (users after : TenantUsers) (request : CanonicalUserCreate)
    (password : String) (salt : ℕ) (record : CanonicalUserRecord) : Prop where
  writes : users.identity.Writes after.identity record.user.id (reviewerAccount record.user)
  email : record.user.email = request.email
  displayName : record.user.displayName = request.displayName
  active : record.user.status = .active
  access : record.roles = [.corporateUser] ∧ record.storeIds = []
  holds : library.Holds password (after.passwordHashes record.user.id)
  hashes : ∀ other, other ≠ record.user.id →
    after.passwordHashes other = users.passwordHashes other
  found : users.identity.account? record.user.id = none ∧ users.userByEmail request.email = none ∨
    ∃ account, users.identity.account? record.user.id = some account ∧
      account.user.email = request.email ∧
      .tenantAdmin ∉ account.roles ∧ .corporateAdmin ∉ account.grants ∧
      (Differs library users account password salt →
        account.user.tokenVersion < record.user.tokenVersion) ∧
      (¬Differs library users account password salt →
        account.user.tokenVersion = record.user.tokenVersion)

/-- What the account of the reviewer was, if there was one. -/
theorem Reviewed.before {salt : ℕ} {account : Account}
    (reviewed : Reviewed library users after request password salt record)
    (stored : users.identity.account? record.user.id = some account) :
    account.user.email = request.email ∧
      .tenantAdmin ∉ account.roles ∧ .corporateAdmin ∉ account.grants ∧
      (Differs library users account password salt →
        account.user.tokenVersion < record.user.tokenVersion) ∧
      (¬Differs library users account password salt →
        account.user.tokenVersion = record.user.tokenVersion) := by
  rcases reviewed.found with ⟨absent,-⟩ | ⟨old,present,before⟩
  · rw [absent] at stored
    cases stored
  · rw [present] at stored
    cases stored
    exact before

theorem holds_reconciledHash (lawful : library.Lawful) (users : TenantUsers) (user : User)
    (password : String) (salt : ℕ) :
    library.Holds password (reconciledHash library users user password salt) := by
  unfold reconciledHash
  rcases verify_cases lawful password (users.passwordHashes user.id) salt with
    refused | ⟨holds,verified⟩ | upgraded
  · simp only [refused,if_true]
    exact lawful.holds_hash password salt
  · simpa [verified] using holds
  · simpa [upgraded] using lawful.holds_hash password salt

/-- A hash that verifies without an update stays. -/
theorem reconciledHash_of_holds {users : TenantUsers} {user : User} {salt : ℕ}
    (holds : library.Holds password (users.passwordHashes user.id)) :
    reconciledHash library users user password salt = users.passwordHashes user.id := by
  simp [reconciledHash,holds salt]

variable (library users request password) in
theorem reconcileReviewer_identity (user : User) (salt : ℕ) :
    (users.reconcileReviewer library user request password salt).2.identity =
      reconciledIdentity library users user request password salt := by
  unfold TenantUsers.reconcileReviewer
  dsimp only
  split <;> rfl

variable (library users request password) in
theorem reconcileReviewer_hashes (user : User) (salt : ℕ) :
    (users.reconcileReviewer library user request password salt).2.passwordHashes =
      (users.setPasswordHash user.id
        (reconciledHash library users user password salt)).passwordHashes := by
  unfold TenantUsers.reconcileReviewer
  dsimp only
  split <;> rfl

theorem bootstrapReviewer_spec (lawful : library.Lawful)
    (ended : users.bootstrapReviewer library request password fresh = .ok (record,after)) :
    Reviewed library users after request password fresh.salt record := by
  unfold TenantUsers.bootstrapReviewer at ended
  split at ended
  · rename_i missing
    dsimp only at ended
    split at ended
    · cases ended
    · rename_i written added
      cases ended
      obtain ⟨absent,writes,hash,hashes⟩ := TenantUsers.addUser_writes added
      exact
        { writes := ⟨writes.here,writes.others,writes.tenantId,writes.stores,writes.issuedTokens⟩
          email := rfl
          displayName := rfl
          active := rfl
          access := ⟨rfl,rfl⟩
          holds := by
            dsimp only [TenantUsers.addAuditRecord]
            rw [hash]
            exact lawful.holds_hash password fresh.salt
          hashes := hashes
          found := .inl ⟨absent,missing⟩ }
  · rename_i user stored
    split at ended
    · cases ended
    · rename_i spared
      obtain ⟨found,email⟩ := TenantUsers.userByEmail_account stored
      have writes : users.identity.Writes
          (reconciledIdentity library users user request password fresh.salt) user.id _ :=
        TenantUsers.reconciledIdentity_writes found rfl
      have same := Except.ok.inj ended
      have identity := reconcileReviewer_identity library users request password user fresh.salt
      have hashes := reconcileReviewer_hashes library users request password user fresh.salt
      rw [same] at identity hashes
      obtain rfl : (users.reconcileReviewer library user request password fresh.salt).1 = record :=
        congrArg Prod.fst same
      exact
        { writes := by
            rw [identity]
            exact writes
          email := email
          displayName := rfl
          active := rfl
          access := ⟨rfl,rfl⟩
          holds := by
            rw [hashes]
            have written : (users.setPasswordHash user.id (reconciledHash library users user
                password fresh.salt)).passwordHashes user.id = _ := if_pos rfl
            exact (congrArg (library.Holds password) written).mpr
              (holds_reconciledHash lawful users user password fresh.salt)
          hashes := by
            intro other apart
            rw [hashes]
            exact if_neg apart
          found := by
            refine .inr ⟨_,found,email,fun admin => spared (.inl admin),
              fun admin => spared (.inr admin),?_,?_⟩
            · intro differs
              have bumped := (any_invalidatesTokens request found rfl).mpr differs
              exact (lt_nextTokenVersion _).trans_eq (if_pos bumped).symm
            · intro agrees
              have kept := fun bumped =>
                agrees ((any_invalidatesTokens request found rfl).mp bumped)
              exact (if_neg kept).symm }

/-- A reviewer that is as asked is left so. -/
theorem bootstrapReviewer_again {user : User}
    (found : users.identity.account? user.id = some (reviewerAccount user))
    (stored : users.userByEmail request.email = some user)
    (displayName : user.displayName = request.displayName) (active : user.status = .active)
    (holds : library.Holds password (users.passwordHashes user.id)) (fresh : Fresh) :
    users.bootstrapReviewer library request password fresh =
      .ok (⟨user,[.corporateUser],[]⟩,users) := by
  obtain ⟨-,roles,storeIds,grants⟩ := account?_eq_some.mp found
  have idle : reviewerChanges library users user request password fresh.salt = [] := by
    simp [reviewerChanges,ReviewerChange.all,ReviewerChange.applies,roles,storeIds,grants,
      reviewerAccount,displayName,active,holds fresh.salt]
  have version : reviewerTokenVersion library users user request password fresh.salt =
      user.tokenVersion := by simp [reviewerTokenVersion,idle]
  have identity : reconciledIdentity library users user request password fresh.salt =
      users.identity := by
    simp [reconciledIdentity,idle,ReviewerChange.applies,roles,storeIds,grants,reviewerAccount,
      displayName,active]
  have hash : reconciledHash library users user password fresh.salt =
      users.passwordHashes user.id := reconciledHash_of_holds holds
  have kept : users.setPasswordHash user.id (users.passwordHashes user.id) = users := by
    unfold TenantUsers.setPasswordHash
    congr 1
    funext other
    split
    · rename_i same
      rw [same]
    · rfl
  unfold TenantUsers.bootstrapReviewer
  simp only [stored,roles,grants]
  rw [if_neg (by simp [reviewerAccount])]
  unfold TenantUsers.reconcileReviewer
  simp only [idle,version,identity,hash,kept,if_true,← displayName,← active]

section Administrator

variable {request : UserCreate} {record : UserRecord}

/-- What the administrator's command has done to the users of the tenant: nothing to a tenant in
step that has an administrator, whose user it returns, or a first administrator. -/
theorem bootstrapAdmin_spec (sound : AdminsInStep users.identity)
    (ended : users.bootstrapAdmin library request fresh = .ok (record,after)) :
    record.user.email = request.email ∧ record.grants = {.corporateAdmin} ∧
      (after = users ∧ users.anyAdminExists = true ∧
        (∃ account, users.identity.account? record.user.id = some account ∧
          account.user = record.user ∧ .tenantAdmin ∈ account.roles) ∨
      users.anyAdminExists = false ∧ users.identity.account? record.user.id = none ∧
        users.userByEmail request.email = none ∧ record.user.status = .active ∧
        users.identity.Writes after.identity record.user.id (adminAccount record.user) ∧
        ∀ other, other ≠ record.user.id →
          after.passwordHashes other = users.passwordHashes other) := by
  unfold TenantUsers.bootstrapAdmin at ended
  split at ended
  · rename_i user stored
    cases ended
    have chosen : user.email = request.email ∧
        .corporateAdmin ∈ users.identity.grantsOf user.id := by
      simpa using List.find?_some stored
    have member := List.mem_of_find?_eq_some stored
    have found := account?_of_mem member
    have admin : .tenantAdmin ∈ users.identity.rolesOf user.id :=
      (sound user.id _ found).mp chosen.2
    have exists_admin : users.anyAdminExists = true :=
      List.any_eq_true.mpr ⟨user,member,decide_eq_true chosen.2⟩
    exact ⟨chosen.1,rfl,.inl ⟨if_pos admin,exists_admin,_,found,rfl,admin⟩⟩
  · split at ended
    · cases ended
    · rename_i none_exists
      split at ended
      · cases ended
      · rename_i missing
        dsimp only at ended
        split at ended
        · cases ended
        · rename_i written added
          cases ended
          obtain ⟨absent,writes,-,hashes⟩ := TenantUsers.addUser_writes added
          refine ⟨rfl,rfl,.inr ⟨Bool.eq_false_iff.mpr none_exists,absent,?_,rfl,?_,hashes⟩⟩
          · simpa using missing
          · exact ⟨writes.here,writes.others,writes.tenantId,writes.stores,writes.issuedTokens⟩

/-- An active administrator in step has the grant that the command looks for. -/
theorem anyAdminExists_of_admin (sound : AdminsInStep users.identity)
    (has : users.identity.HasActiveAdmin) : users.anyAdminExists = true := by
  obtain ⟨user,member,-,admin⟩ := has
  have grant : .corporateAdmin ∈ users.identity.grantsOf user.id :=
    (sound user.id _ (account?_of_mem member)).mpr admin
  exact List.any_eq_true.mpr ⟨user,member,decide_eq_true grant⟩

end Administrator

end Reviewer

end Abacus.Bootstrap

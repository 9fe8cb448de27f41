import Abacus.Bootstrap.Administrators

/-! The public reviewer of a tenant.
Its account is as configured whenever the command has succeeded, its old tokens are worth nothing
where anything but its name had to be changed, and a command that finds it so writes nothing.
-/
set_option autoImplicit false

namespace Abacus.Bootstrap

open Relational
open Python (Text text)
open IdentityDatabase
open Transition (Machine)
open Onboarding (Tenant TenantCreate)

def readerPermissions : List Permission :=
  [.catalogRead,.inventoryRead,.policyRead,.replenishmentRead]

theorem readsOnly {db : IdentityDatabase} {auth : AuthState} {now : Time}
    {claims : AccessTokenClaims} {principal : CurrentPrincipal} {user : User}
    (found : db.account? claims.userId = some (reviewerAccount user))
    (resolved : currentPrincipal db auth now claims = .ok principal) (permission : Permission) :
    principal.hasPermission permission = true ↔ permission ∈ readerPermissions := by
  obtain ⟨stored,roles,storeIds,grants⟩ := account?_eq_some.mp found
  have keyed : user.id = claims.userId := Table.key_of_find? stored
  have scopes : db.roleScopesOf claims.userId = [⟨.canonical .corporateUser,none⟩] := by
    rw [IdentityDatabase.roleScopesOf,roles,storeIds,grants]
    rfl
  have made : principal.roleScopes = db.roleScopesOf claims.userId := by
    unfold currentPrincipal at resolved
    rw [show db.user? claims.userId = some user from stored] at resolved
    dsimp only at resolved
    split at resolved
    · cases resolved
    split at resolved
    · cases resolved
    split at resolved
    · cases resolved
    · cases resolved
      exact congrArg db.roleScopesOf keyed
  rw [Principal.hasPermission,made,scopes]
  simp [AuthorizationRole.permits,readerPermissions]

section Results

variable {library : Library} {deployment after later : Deployment} {tenantSession : Bool}
  {tenantCode : Text} {request : CanonicalUserCreate} {password : String} {fresh : Fresh}
  {record : CanonicalUserRecord}

/-- However the deployment has been used, a reviewer's command that succeeds leaves exactly one
account as configured, which its password opens and which can only read; it was no administrator's,
and all other users of all tenants are left alone. -/
theorem reviewer_reads_only (lawful : library.Lawful)
    (reachable : (deploymentMachine library).Reachable deployment)
    (ended : deployment.bootstrapPublicReviewer library tenantSession tenantCode request password
      fresh = .ok (record,after)) :
    ∃ tenant, deployment.tenantOf library tenantSession (library.lower tenantCode.strip) =
        some tenant ∧ tenant.status = .active ∧ after.tenants = deployment.tenants ∧
      record.user.email = request.email ∧ record.user.displayName = request.displayName ∧
      (after.users tenant.id).identity.account? record.user.id =
        some ⟨{ record.user with status := .active },{.corporateUser},∅,∅⟩ ∧
      (∀ now salt, (after.authenticateUser library tenantSession (library.lower tenantCode.strip)
        request.email password now salt).1 = .ok record.user) ∧
      (∀ auth now claims principal, claims.userId = record.user.id →
        currentPrincipal (after.users tenant.id).identity auth now claims = .ok principal →
        ∀ permission, principal.hasPermission permission = true ↔
          permission ∈ readerPermissions) ∧
      (∀ account, (deployment.users tenant.id).identity.account? record.user.id = some account →
        .tenantAdmin ∉ account.roles ∧ .corporateAdmin ∉ account.grants) ∧
      (∀ other, other ≠ record.user.id → (after.users tenant.id).identity.account? other =
        (deployment.users tenant.id).identity.account? other) ∧
      ∀ other, other ≠ tenant.id → after.users other = deployment.users other := by
  obtain ⟨-,tenant,users,resolved,active,reviewed,rfl⟩ :=
    Deployment.bootstrapPublicReviewer_spec lawful ended
  have known := Deployment.reachable_sound lawful reachable
  have here : (deployment.withUsers tenant.id users).users tenant.id = users := if_pos rfl
  have sound := (reviewed.step (known.users tenant.id)).sound (known.users tenant.id)
  have stored := sound.userByEmail reviewed.writes.here
  refine ⟨tenant,resolved,active,rfl,reviewed.email,reviewed.displayName,?_,?_,?_,?_,?_,?_⟩
  · rw [here,reviewed.writes.here,← reviewed.active]
    rfl
  · intro now salt
    have found : (deployment.withUsers tenant.id users).tenantOf library tenantSession
        (library.lower tenantCode.strip) = some tenant := resolved
    have email : users.userByEmail request.email = some record.user := by
      rw [← reviewed.email]
      exact stored
    have verified := reviewed.holds salt
    simp [Deployment.authenticateUser,found,here,email,verified,active,reviewed.active]
  · intro auth now claims principal same accepted permission
    rw [here] at accepted
    exact readsOnly (by rw [same]; exact reviewed.writes.here) accepted permission
  · intro account found
    obtain ⟨-,noRole,noGrant,-⟩ := reviewed.before found
    exact ⟨noRole,noGrant⟩
  · intro other apart
    rw [here,reviewed.writes.others other apart]
  · exact fun other apart => if_neg apart

namespace Sample

theorem readerRoles_some : ({.corporateUser} : Finset CanonicalIdentityRole).Nonempty :=
  Finset.singleton_nonempty _

theorem noStores_few : (∅ : Finset Uuid).card ≤ 500 := by decide

theorem reader_paired : StoreScoped {.corporateUser} ↔ (∅ : Finset Uuid).Nonempty := by decide

def reader : CanonicalUserCreate :=
  ⟨"reviewer@acme","Reviewer",{.corporateUser},∅,readerRoles_some,noStores_few,reader_paired⟩

def review (deployment : Deployment) (password : String) :
    Attempt (CanonicalUserRecord × Deployment) :=
  deployment.bootstrapPublicReviewer Sample.library true (text "acme") reader password ⟨9,3,0⟩

def reviewed : Deployment := committed administered (review administered "shared-password")

def loggedIn : Deployment := reviewed.serve 1 (.createAccessToken 3 none 100)

def rotated : Deployment := committed loggedIn (review loggedIn "another-password")

theorem review_ended {deployment : Deployment} {password : String}
    (made : (review deployment password).toOption.any (fun result => result.1.user.id = 3) = true) :
    ∃ record, record.user.id = 3 ∧ review deployment password =
      .ok (record,committed deployment (review deployment password)) := by
  obtain ⟨⟨record,after⟩,ended,named⟩ := exists_of_any made
  exact ⟨record,of_decide_eq_true named,by rw [ended]; rfl⟩

theorem reviewed_ended : ∃ record, record.user.id = 3 ∧
    review administered "shared-password" = .ok (record,reviewed) :=
  review_ended (by decide +kernel)

theorem rotated_ended : ∃ record, record.user.id = 3 ∧
    review loggedIn "another-password" = .ok (record,rotated) :=
  review_ended (by decide +kernel)

theorem administered_reachable : (deploymentMachine Sample.library).Reachable administered :=
  newDeployment_reachable.take (.bootstrapCorporateAdmin true acme administrator ⟨1,2,0⟩) rfl

theorem reviewed_reachable : (deploymentMachine Sample.library).Reachable reviewed :=
  administered_reachable.take
    (.bootstrapPublicReviewer true (text "acme") reader "shared-password" ⟨9,3,0⟩) rfl

def acmeTenant : Tenant := ⟨1,text "acme",text "Acme",.active⟩

/-- What the reset finds: the tenant, the token of the login, and the account with another password. -/
theorem loggedIn_facts : reviewed.tenants.find? 1 = some acmeTenant ∧
    (⟨3,1,firstTokenVersion,100,none⟩ : AccessTokenClaims) ∈
      (loggedIn.users 1).identity.issuedTokens ∧
    loggedIn.tenantOf Sample.library true (text "acme") = some acmeTenant ∧
    (loggedIn.users 1).identity.user? 3 =
      some ⟨3,"reviewer@acme","Reviewer",.active,firstTokenVersion⟩ ∧
    (verifyPasswordAndUpdate Sample.library "another-password"
      (some ((loggedIn.users 1).passwordHashes 3)) 0).1 = false := by decide +kernel

theorem loggedIn_reachable : (deploymentMachine Sample.library).Reachable loggedIn := by
  apply reviewed_reachable.take (.serve 1 (.createAccessToken 3 none 100))
  have moved : (reviewed.tenants.find? 1).map (fun _ => loggedIn) = some loggedIn := by
    rw [loggedIn_facts.1]
    rfl
  exact moved

end Sample

theorem reviewer_reads_only_sample : ∃ record tenant,
    Sample.review Sample.administered "shared-password" = .ok (record,Sample.reviewed) ∧
    Sample.administered.tenantOf Sample.library true (text "acme") = some tenant ∧
    ∀ now salt, (Sample.reviewed.authenticateUser Sample.library true (text "acme") "reviewer@acme"
      "shared-password" now salt).1 = .ok record.user := by
  obtain ⟨record,-,ended⟩ := Sample.reviewed_ended
  obtain ⟨tenant,resolved,-,-,-,-,-,opens,-⟩ :=
    reviewer_reads_only Sample.library_lawful Sample.administered_reachable ended
  exact ⟨record,tenant,ended,resolved,opens⟩

/-- Where the command has found an account with other access, with another status or with another
password, every token that was issued for it before is refused from then on. -/
theorem reviewer_reset_ends_tokens (lawful : library.Lawful)
    (reachable : (deploymentMachine library).Reachable deployment)
    (ended : deployment.bootstrapPublicReviewer library tenantSession tenantCode request password
      fresh = .ok (record,after)) {tenant : Tenant}
    (resolved : deployment.tenantOf library tenantSession (library.lower tenantCode.strip) =
      some tenant) {account : Account}
    (found : (deployment.users tenant.id).identity.account? record.user.id = some account)
    (differs : Differs library (deployment.users tenant.id) account password fresh.salt)
    {events : List DeploymentEvent}
    (reached : (deploymentMachine library).run after events = some later)
    {claims : AccessTokenClaims}
    (issued : claims ∈ (deployment.users tenant.id).identity.issuedTokens)
    (own : claims.userId = record.user.id) (auth : AuthState) (now : Time) :
    currentPrincipal (later.users tenant.id).identity auth now claims =
      .error invalidAccessToken := by
  have taken : (deploymentMachine library).next deployment (.bootstrapPublicReviewer tenantSession
      tenantCode request password fresh) = some after :=
    congrArg (fun attempt => some (committed deployment attempt)) ended
  obtain ⟨-,other,users,chosen,-,reviewed,rfl⟩ :=
    Deployment.bootstrapPublicReviewer_spec lawful ended
  rw [resolved] at chosen
  cases chosen
  have known := Deployment.reachable_sound lawful reachable
  have here : (deployment.withUsers tenant.id users).users tenant.id = users := if_pos rfl
  obtain ⟨-,-,-,bumped,-⟩ := reviewed.before found
  have behind : claims.tokenVersion ≤ account.user.tokenVersion := by
    obtain ⟨held,present,bound⟩ := (known.users tenant.id).behind.issued claims issued
    rw [own,found] at present
    cases present
    exact bound
  obtain ⟨kept,stored,grown⟩ := Deployment.version_run lawful (reachable.take _ taken) reached
    (by rw [here]; exact reviewed.writes.here)
  have present : (later.users tenant.id).identity.user? claims.userId = some kept.user := by
    rw [own]
    exact (account?_eq_some.mp stored).1
  apply currentPrincipal_stale present
  exact ((behind.trans_lt (bumped differs)).trans_le grown).ne'

theorem reviewer_reset_ends_tokens_sample :
    ∃ claims ∈ (Sample.loggedIn.users 1).identity.issuedTokens, ∀ auth now,
      currentPrincipal (Sample.rotated.users 1).identity auth now claims =
        .error invalidAccessToken := by
  obtain ⟨record,named,ended⟩ := Sample.rotated_ended
  obtain ⟨-,issued,resolved,stored,other⟩ := Sample.loggedIn_facts
  obtain ⟨account,found,same⟩ : ∃ account, (Sample.loggedIn.users 1).identity.account?
      record.user.id = some account ∧ account.user.id = 3 := by
    rw [named]
    exact ⟨_,account?_of_mem (Table.mem_of_find? stored),rfl⟩
  have refused : (verifyPasswordAndUpdate Sample.library "another-password"
      (some ((Sample.loggedIn.users 1).passwordHashes account.user.id)) 0).1 = false := by
    rw [same]
    exact other
  refine ⟨_,issued,fun auth now => ?_⟩
  have reached : (deploymentMachine Sample.library).run Sample.rotated [] = some Sample.rotated :=
    rfl
  exact reviewer_reset_ends_tokens Sample.library_lawful Sample.loggedIn_reachable ended resolved
    found (.inr (.inr (.inr (.inr refused)))) reached issued named.symm auth now

end Results

section Again

variable {library : Library} {deployment after later : Deployment} {tenantSession : Bool}
  {tenantCode : Text} {request : CanonicalUserCreate} {password : String} {fresh : Fresh}
  {record : CanonicalUserRecord}

def DeploymentEvent.reviews (email : String) : DeploymentEvent → Prop
  | .bootstrapPublicReviewer _ _ request _ _ => request.email = email
  | _ => False

/-- The user of a tenant whose password is held under its email. -/
def Opens (library : Library) (tenantId userId : Uuid) (email password : String)
    (deployment : Deployment) : Prop :=
  (∃ account, (deployment.users tenantId).identity.account? userId = some account ∧
    account.user.email = email) ∧
  library.Holds password ((deployment.users tenantId).passwordHashes userId)

theorem opens_withUsers {tenantId other userId : Uuid} {email : String} {users : TenantUsers}
    (step : TenantStep (deployment.users other) users) (known : deployment.Sound)
    (kept : other = tenantId → library.Holds password (users.passwordHashes userId))
    (opens : Opens library tenantId userId email password deployment) :
    Opens library tenantId userId email password (deployment.withUsers other users) := by
  obtain ⟨⟨account,found,named⟩,holds⟩ := opens
  by_cases same : tenantId = other
  · subst same
    have here : (deployment.withUsers tenantId users).users tenantId = users := if_pos rfl
    obtain ⟨last,stored,unchanged,-⟩ := step.versions (known.users tenantId) found
    rw [Opens,here]
    exact ⟨⟨last,stored,unchanged.trans named⟩,kept rfl⟩
  · have there : (deployment.withUsers other users).users tenantId = deployment.users tenantId :=
      if_neg same
    rw [Opens,there]
    exact ⟨⟨account,found,named⟩,holds⟩

theorem opens_next (lawful : library.Lawful) (known : deployment.Sound) {tenantId userId : Uuid}
    {email : String} {event : DeploymentEvent}
    (taken : deployment.next library event = some after) (others : ¬event.reviews email)
    (opens : Opens library tenantId userId email password deployment) :
    Opens library tenantId userId email password after := by
  obtain ⟨⟨account,found,named⟩,holds⟩ := id opens
  cases event with
  | createTenant tenant =>
      obtain ⟨tenants,-,rfl⟩ := Option.map_eq_some_iff.mp taken
      exact opens
  | setTenantStatus target status =>
      cases taken
      exact opens
  | serve target request =>
      obtain ⟨tenant,stored,rfl⟩ := Option.map_eq_some_iff.mp taken
      have moves := Deployment.moves_serve known (by rw [stored]; rfl) request
      have step := moves.users target
      rw [Deployment.serve,Deployment.withUsers] at step
      simp only [if_true] at step
      exact opens_withUsers step known (fun same => by rw [same]; exact holds) opens
  | bootstrapCorporateAdmin tenantSession tenantRequest request fresh =>
      cases taken
      cases ended : deployment.bootstrapCorporateAdmin library tenantSession tenantRequest request
          fresh with
      | error failure => exact opens
      | ok result =>
          obtain ⟨target,users,middle,made,same,kept,-⟩ :=
            Deployment.bootstrapCorporateAdmin_spec ended
          have opened : Opens library tenantId userId email password
              (deployment.withUsers target users) := by
            apply opens_withUsers (bootstrapAdmin_step (known.users target) made) known _ opens
            rintro rfl
            obtain ⟨-,-,⟨rfl,-⟩ | ⟨-,absent,-,-,-,hashes⟩⟩ :=
              bootstrapAdmin_spec (known.users target).adminsInStep made
            · exact holds
            · rw [hashes]
              · exact holds
              · rintro rfl
                rw [absent] at found
                cases found
          rw [committed,same]
          simpa [Opens,Deployment.withUsers,kept] using opened
  | bootstrapPublicReviewer tenantSession tenantCode request password fresh =>
      cases taken
      cases ended : deployment.bootstrapPublicReviewer library tenantSession tenantCode request
          password fresh with
      | error failure => exact opens
      | ok result =>
          obtain ⟨-,tenant,users,-,-,reviewed,same⟩ :=
            Deployment.bootstrapPublicReviewer_spec lawful ended
          rw [committed,same]
          apply opens_withUsers (reviewed.step (known.users tenant.id)) known _ opens
          rintro rfl
          rw [reviewed.hashes]
          · exact holds
          · rintro rfl
            exact others ((reviewed.before found).1.symm.trans named)
  | authenticateUser tenantSession tenantCode login other now salt =>
      cases taken
      unfold Deployment.authenticateUser
      split
      · exact opens
      · rename_i tenant resolved
        dsimp only
        split
        · exact opens_withUsers (.idle rfl) known (fun same => by rw [same]; exact holds) opens
        · rename_i user login
          split
          · apply opens_withUsers _ known _ opens
            · apply TenantStep.idle
              dsimp only [TenantUsers.addAuditRecord]
              cases (verifyPasswordAndUpdate library other _ salt).2 <;> rfl
            · rintro rfl
              rw [login,Option.map_some]
              by_cases own : userId = user.id
              · subst own
                rw [Library.Holds.kept lawful holds other salt]
                exact holds
              · cases (verifyPasswordAndUpdate library other _ salt).2 with
                | none => exact holds
                | some hash =>
                    simpa [TenantUsers.addAuditRecord,TenantUsers.setPasswordHash,own] using holds
          · exact opens_withUsers (.idle rfl) known (fun same => by rw [same]; exact holds) opens

/-- The command again, at any later time: if nobody has changed the account or run the command for
its email in between, it returns the same record and writes nothing. -/
theorem reviewer_bootstrap_idempotent (lawful : library.Lawful)
    (reachable : (deploymentMachine library).Reachable deployment)
    (ended : deployment.bootstrapPublicReviewer library tenantSession tenantCode request password
      fresh = .ok (record,after)) {events : List DeploymentEvent}
    (reached : (deploymentMachine library).run after events = some later)
    (others : ∀ event ∈ events, ¬event.reviews request.email) {tenant : Tenant}
    (resolved : later.tenantOf library tenantSession (library.lower tenantCode.strip) = some tenant)
    (active : tenant.status = .active)
    (same : (later.users tenant.id).identity.account? record.user.id =
      (after.users tenant.id).identity.account? record.user.id) (again : Fresh) :
    later.bootstrapPublicReviewer library tenantSession tenantCode request password again =
      .ok (record,later) := by
  have taken : (deploymentMachine library).next deployment (.bootstrapPublicReviewer tenantSession
      tenantCode request password fresh) = some after :=
    congrArg (fun attempt => some (committed deployment attempt)) ended
  obtain ⟨asked,first,users,chosen,-,reviewed,rfl⟩ :=
    Deployment.bootstrapPublicReviewer_spec lawful ended
  have next := reachable.step taken
  have known := Deployment.reachable_sound lawful (next.after reached)
  obtain ⟨current,present,named⟩ := Deployment.tenant_run lawful next reached
    (Deployment.find?_of_tenantOf chosen)
  have place : tenant.id = first.id := by
    apply known.tenantId_unique (Deployment.find?_of_tenantOf resolved) present
    rw [named,Deployment.code_of_tenantOf resolved,Deployment.code_of_tenantOf chosen]
  have here : (deployment.withUsers first.id users).users first.id = users := if_pos rfl
  have opens : Opens library first.id record.user.id request.email password later := by
    have step : ∀ state event last,
        state.Sound ∧ Opens library first.id record.user.id request.email password state →
        ¬event.reviews request.email →
        (deploymentMachine library).next state event = some last →
        last.Sound ∧ Opens library first.id record.user.id request.email password last := by
      rintro state event last ⟨sound,opens⟩ apart moved
      exact ⟨(Deployment.next_moves lawful sound moved).sound sound,
        opens_next lawful sound moved apart opens⟩
    have respects : (deploymentMachine library).Respects
        (fun _ event => ¬event.reviews request.email) (deployment.withUsers first.id users)
        events :=
      Machine.respects_of_forall fun event member _ => others event member
    have begun : Opens library first.id record.user.id request.email password
        (deployment.withUsers first.id users) := by
      rw [Opens,here]
      exact ⟨⟨_,reviewed.writes.here,reviewed.email⟩,reviewed.holds⟩
    exact (Machine.run_guarded step ⟨Deployment.reachable_sound lawful next,begun⟩ respects
      reached).2
  have found : (later.users tenant.id).identity.account? record.user.id =
      some (reviewerAccount record.user) := by
    rw [same,place,here]
    exact reviewed.writes.here
  have stored : (later.users tenant.id).userByEmail request.email = some record.user := by
    rw [← reviewed.email]
    exact (known.users tenant.id).userByEmail found
  have done := bootstrapReviewer_again found stored reviewed.displayName reviewed.active
    (by rw [place]; exact opens.2) again
  obtain ⟨user,roles,storeIds⟩ := record
  obtain ⟨rfl,rfl⟩ := reviewed.access
  rw [Deployment.bootstrapPublicReviewer,if_neg asked,resolved]
  simp only [active,not_true_eq_false,ne_eq,if_false,done]
  exact congrArg (fun last => Except.ok (_,last)) (Deployment.withUsers_self later tenant.id)

namespace Sample

def reopened : Deployment := (reviewed.setTenantStatus 1 .suspended).setTenantStatus 1 .active

theorem reopened_reached : (deploymentMachine Sample.library).run reviewed
    [.setTenantStatus 1 .suspended,.setTenantStatus 1 .active] = some reopened := rfl

theorem reopened_resolved :
    reopened.tenantOf Sample.library true (text "acme") = some acmeTenant := by
  decide +kernel

end Sample

theorem reviewer_bootstrap_idempotent_sample : ∃ record,
    Sample.review Sample.administered "shared-password" = .ok (record,Sample.reviewed) ∧
    Sample.review Sample.reopened "shared-password" = .ok (record,Sample.reopened) := by
  obtain ⟨record,-,ended⟩ := Sample.reviewed_ended
  refine ⟨record,ended,?_⟩
  exact reviewer_bootstrap_idempotent Sample.library_lawful Sample.administered_reachable ended
    Sample.reopened_reached (by simp [DeploymentEvent.reviews]) Sample.reopened_resolved rfl rfl _

end Again

end Abacus.Bootstrap

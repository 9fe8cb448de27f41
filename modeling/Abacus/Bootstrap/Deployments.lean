import Abacus.Bootstrap.Commands

/-! Runs of the deployment commands, of logins and of the identity services, in any order.
What a call can do is said once for one tenant and once for all of them; the invariants of a run
follow from that.
-/
set_option autoImplicit false

namespace Abacus.Bootstrap

open Relational
open Python (Text)
open IdentityDatabase
open Transition (Machine)
open Onboarding (Tenant TenantCreate)

inductive TenantStep (users after : TenantUsers) : Prop where
  | idle (identity : after.identity = users.identity)
  | served {request : IdentityRequest}
      (step : IdentityStep users.identity request after.identity)
      (emails : after.identity.EmailsUnique)
  | wrote {userId : Uuid} {written : Account}
      (writes : users.identity.Writes after.identity userId written) (inStep : written.InStep)
      (grows : ∀ account, users.identity.account? userId = some account →
        account.user.tokenVersion ≤ written.user.tokenVersion)
      (email : ∀ account, users.identity.account? userId = some account →
        written.user.email = account.user.email)
      (own : ∀ other account, users.identity.account? other = some account →
        account.user.email = written.user.email → other = userId)
      (spared : ∀ account, users.identity.account? userId = some account → ¬account.IsAdmin)

namespace TenantStep

variable {users after : TenantUsers}

theorem sound (step : TenantStep users after) (known : users.Sound) : after.Sound := by
  cases step with
  | idle identity => exact ⟨identity ▸ known.behind,identity ▸ known.emails⟩
  | served step emails => exact ⟨step.tokensBehind known.behind,emails⟩
  | wrote writes inStep grows email own spared =>
      exact ⟨writes.tokensBehind known.behind inStep grows,writes.emailsUnique known.emails own⟩

/-- Every account lives on under its email, at its version or a later one. -/
theorem versions (step : TenantStep users after) (known : users.Sound) {userId : Uuid}
    {account : Account} (found : users.identity.account? userId = some account) :
    ∃ kept, after.identity.account? userId = some kept ∧
      kept.user.email = account.user.email ∧
      account.user.tokenVersion ≤ kept.user.tokenVersion := by
  cases step with
  | idle identity => exact ⟨account,identity ▸ found,rfl,le_rfl⟩
  | served step emails =>
      obtain ⟨kept,stored,versioned⟩ := step.follows known.behind userId account found
      exact ⟨kept,stored,step.email found stored,versioned.grows⟩
  | @wrote target written writes inStep grows email own spared =>
      by_cases same : userId = target
      · subst same
        exact ⟨written,writes.here,email account found,grows account found⟩
      · exact ⟨account,by rw [writes.others userId same]; exact found,rfl,le_rfl⟩

theorem hasActiveAdmin (step : TenantStep users after) (has : users.identity.HasActiveAdmin) :
    after.identity.HasActiveAdmin := by
  cases step with
  | idle identity => exact identity ▸ has
  | served step emails => exact step.hasActiveAdmin has
  | @wrote target written writes inStep grows email own spared =>
      rw [hasActiveAdmin_iff] at has ⊢
      obtain ⟨adminId,admin,stored,holds⟩ := has
      refine ⟨adminId,admin,?_,holds⟩
      rw [writes.others adminId]
      · exact stored
      · rintro rfl
        exact spared admin stored holds

end TenantStep

section Calls

variable {library : Library} {users after : TenantUsers} {fresh : Fresh}

theorem Reviewed.step {request : CanonicalUserCreate} {password : String} {salt : ℕ}
    {record : CanonicalUserRecord}
    (reviewed : Reviewed library users after request password salt record) (known : users.Sound) :
    TenantStep users after := by
  apply TenantStep.wrote reviewed.writes (reviewerAccount_inStep record.user)
  · intro account found
    obtain ⟨-,-,-,bumped,kept⟩ := reviewed.before found
    by_cases differs : Differs library users account password salt
    · exact (bumped differs).le
    · exact (kept differs).le
  · intro account found
    exact reviewed.email.trans (reviewed.before found).1.symm
  · intro other account found same
    have email : account.user.email = request.email := same.trans reviewed.email
    rcases reviewed.found with ⟨-,missing⟩ | ⟨old,stored,own,-⟩
    · exact absurd email (TenantUsers.userByEmail_none missing found)
    · exact known.emails other record.user.id account old found stored (email.trans own.symm)
  · intro account found admin
    exact (reviewed.before found).2.1 admin.2

theorem bootstrapAdmin_step {request : UserCreate} {record : UserRecord} (known : users.Sound)
    (ended : users.bootstrapAdmin library request fresh = .ok (record,after)) :
    TenantStep users after := by
  obtain ⟨email,-,⟨rfl,-⟩ | ⟨-,absent,missing,-,writes,-⟩⟩ :=
    bootstrapAdmin_spec known.adminsInStep ended
  · exact .idle rfl
  · apply TenantStep.wrote writes (adminAccount_inStep record.user)
    · intro account found
      rw [absent] at found
      cases found
    · intro account found
      rw [absent] at found
      cases found
    · intro other account found same
      exact absurd (same.trans email) (TenantUsers.userByEmail_none missing found)
    · intro account found
      rw [absent] at found
      cases found

end Calls

namespace Deployment

structure Sound (deployment : Deployment) : Prop where
  users : ∀ tenantId, (deployment.users tenantId).Sound
  codes : deployment.tenants.Indexed Tenant.codeIndex
  vacant : ∀ tenantId, deployment.tenants.find? tenantId = none →
    (deployment.users tenantId).identity.users = Table.empty

/-- What any call does to the deployment: tenants stay, under their codes, and only they have
users. -/
structure Moves (deployment after : Deployment) : Prop where
  users : ∀ tenantId, TenantStep (deployment.users tenantId) (after.users tenantId)
  tenants : ∀ tenantId tenant, deployment.tenants.find? tenantId = some tenant →
    ∃ kept, after.tenants.find? tenantId = some kept ∧ kept.code = tenant.code
  codes : deployment.tenants.Indexed Tenant.codeIndex → after.tenants.Indexed Tenant.codeIndex
  vacant : ∀ tenantId, after.tenants.find? tenantId = none →
    deployment.tenants.find? tenantId = none ∧ after.users tenantId = deployment.users tenantId

variable {library : Library} {deployment after later : Deployment}

theorem Moves.sound (moves : Moves deployment after) (known : deployment.Sound) : after.Sound where
  users := fun tenantId => (moves.users tenantId).sound (known.users tenantId)
  codes := moves.codes known.codes
  vacant := by
    intro tenantId missing
    obtain ⟨absent,same⟩ := moves.vacant tenantId missing
    rw [same]
    exact known.vacant tenantId absent

theorem moves_refl (deployment : Deployment) : Moves deployment deployment where
  users := fun _ => .idle rfl
  tenants := fun _ tenant found => ⟨tenant,found,rfl⟩
  codes := id
  vacant := fun _ missing => ⟨missing,rfl⟩

/-- The users of a tenant that is there are written, after the tenants. -/
theorem Moves.withUsers {middle : Deployment} (first : Moves deployment middle)
    {tenantId : Uuid} {users : TenantUsers} (same : middle.users = deployment.users)
    (present : (middle.tenants.find? tenantId).isSome = true)
    (step : TenantStep (deployment.users tenantId) users) :
    Moves deployment (middle.withUsers tenantId users) where
  users := by
    intro other
    by_cases chosen : other = tenantId
    · subst chosen
      simpa [Deployment.withUsers] using step
    · simpa [Deployment.withUsers,chosen,same] using TenantStep.idle rfl
  tenants := first.tenants
  codes := first.codes
  vacant := by
    intro other missing
    refine ⟨(first.vacant other missing).1,?_⟩
    have apart : other ≠ tenantId := by
      rintro rfl
      rw [show middle.tenants.find? other = none from missing] at present
      cases present
    simp [Deployment.withUsers,apart,same]

theorem moves_withUsers {tenantId : Uuid} {users : TenantUsers}
    (present : (deployment.tenants.find? tenantId).isSome = true)
    (step : TenantStep (deployment.users tenantId) users) :
    Moves deployment (deployment.withUsers tenantId users) :=
  (moves_refl deployment).withUsers rfl present step

/-- The tenant of a code is one of the tenants. -/
theorem mem_of_tenantOf {tenantSession : Bool} {tenantCode : Text} {tenant : Tenant}
    (resolved : deployment.tenantOf library tenantSession tenantCode = some tenant) :
    tenant ∈ deployment.tenants.rows := by
  unfold tenantOf at resolved
  split at resolved
  · exact List.mem_of_find?_eq_some resolved
  · exact List.mem_of_find?_eq_some resolved

theorem code_of_tenantOf {tenantSession : Bool} {tenantCode : Text} {tenant : Tenant}
    (resolved : deployment.tenantOf library tenantSession tenantCode = some tenant) :
    tenant.code = if tenantSession then library.normalizedCode tenantCode else tenantCode := by
  unfold tenantOf at resolved
  split at resolved
  · have chosen : tenant.code = library.normalizedCode tenantCode ∧ tenant.status = .active := by
      simpa using List.find?_some resolved
    rw [if_pos ‹_›,chosen.1]
  · rw [if_neg ‹_›]
    simpa using List.find?_some resolved

theorem find?_of_tenantOf {tenantSession : Bool} {tenantCode : Text} {tenant : Tenant}
    (resolved : deployment.tenantOf library tenantSession tenantCode = some tenant) :
    deployment.tenants.find? tenant.id = some tenant :=
  Table.find?_of_mem (mem_of_tenantOf resolved)

theorem moves_insert {tenant : Tenant} {tenants : Table Tenant.id}
    (inserted : deployment.tenants.insertUnder Tenant.codeIndex tenant = some tenants) :
    Moves deployment { deployment with tenants := tenants } where
  users := fun _ => .idle rfl
  tenants := by
    intro tenantId stored found
    refine ⟨stored,?_,rfl⟩
    have added := (Table.insertUnder_eq_some inserted).1
    rw [Table.find?_insert added,if_neg]
    · exact found
    · rintro rfl
      rw [(Table.insert_eq_some added).1] at found
      cases found
  codes := fun indexed => Table.indexed_insertUnder indexed inserted
  vacant := by
    intro tenantId missing
    refine ⟨?_,rfl⟩
    rw [Table.find?_insert (Table.insertUnder_eq_some inserted).1] at missing
    split at missing
    · cases missing
    · exact missing

theorem bootstrapPublicReviewer_spec (lawful : library.Lawful) {tenantSession : Bool}
    {tenantCode : Text} {request : CanonicalUserCreate} {password : String} {fresh : Fresh}
    {record : CanonicalUserRecord}
    (ended : deployment.bootstrapPublicReviewer library tenantSession tenantCode request password
      fresh = .ok (record,after)) :
    ¬(request.roles ≠ {.corporateUser} ∨ request.storeIds ≠ ∅) ∧
    ∃ tenant users, deployment.tenantOf library tenantSession (library.lower tenantCode.strip) =
        some tenant ∧ tenant.status = .active ∧
      Reviewed library (deployment.users tenant.id) users request password fresh.salt record ∧
      after = deployment.withUsers tenant.id users := by
  unfold bootstrapPublicReviewer at ended
  split at ended
  · cases ended
  · rename_i asked
    refine ⟨asked,?_⟩
    split at ended
    · cases ended
    · rename_i tenant resolved
      split at ended
      · cases ended
      · rename_i active
        cases result : (deployment.users tenant.id).bootstrapReviewer library request password
            fresh with
        | error failure =>
            rw [result] at ended
            cases ended
        | ok made =>
            rw [result] at ended
            cases ended
            exact ⟨tenant,made.2,resolved,not_not.mp active,
              bootstrapReviewer_spec lawful result,rfl⟩

theorem bootstrapCorporateAdmin_spec {tenantSession : Bool} {tenantRequest : TenantCreate}
    {request : UserCreate} {fresh : Fresh} {record : UserRecord}
    (ended : deployment.bootstrapCorporateAdmin library tenantSession tenantRequest request fresh =
      .ok (record,after)) :
    ∃ tenantId users middle, (deployment.users tenantId).bootstrapAdmin library request fresh =
        .ok (record,users) ∧ after = middle.withUsers tenantId users ∧
      middle.users = deployment.users ∧ Moves deployment middle ∧
      (∃ tenant, middle.tenants.find? tenantId = some tenant ∧ tenant.code = tenantRequest.code) ∧
      (middle = deployment ∨ deployment.tenants.find? tenantId = none) := by
  unfold bootstrapCorporateAdmin at ended
  split at ended
  · cases ended
  · dsimp only at ended
    split at ended
    · rename_i tenant resolved
      split at ended
      · cases ended
      · obtain ⟨found,code⟩ := Option.filter_eq_some_iff.mp resolved
        cases result : (deployment.users tenant.id).bootstrapAdmin library request fresh with
        | error failure =>
            rw [result] at ended
            cases ended
        | ok made =>
            rw [result] at ended
            cases ended
            exact ⟨tenant.id,made.2,deployment,result,rfl,rfl,deployment.moves_refl,
              ⟨tenant,find?_of_tenantOf found,by simpa using code⟩,.inl rfl⟩
    · split at ended
      · cases ended
      · rename_i tenants inserted
        generalize ((deployment.tenantOf library tenantSession tenantRequest.code).map
          Tenant.id).getD fresh.tenantId = tenantId at inserted ended
        cases result : (deployment.users tenantId).bootstrapAdmin library request fresh with
        | error failure =>
            rw [result] at ended
            cases ended
        | ok made =>
            rw [result] at ended
            cases ended
            refine ⟨tenantId,made.2,{ deployment with tenants := tenants },result,rfl,rfl,
              moves_insert inserted,
              ⟨⟨tenantId,tenantRequest.code,tenantRequest.name,.active⟩,?_,rfl⟩,
              .inr (Table.insert_eq_some (Table.insertUnder_eq_some inserted).1).1⟩
            rw [Table.find?_insert (Table.insertUnder_eq_some inserted).1]
            exact if_pos rfl

theorem moves_authenticateUser (tenantSession : Bool) (tenantCode : Text)
    (email password : String) (now : Time) (salt : ℕ) :
    Moves deployment (deployment.authenticateUser library tenantSession tenantCode email password
      now salt).2 := by
  unfold authenticateUser
  split
  · exact deployment.moves_refl
  · rename_i tenant resolved
    have present : (deployment.tenants.find? tenant.id).isSome = true := by
      rw [find?_of_tenantOf resolved]
      rfl
    dsimp only
    split
    · exact moves_withUsers present (.idle rfl)
    · split
      · apply moves_withUsers present
        apply TenantStep.idle
        dsimp only [TenantUsers.addAuditRecord]
        cases (verifyPasswordAndUpdate library password _ salt).2 <;> rfl
      · exact moves_withUsers present (.idle rfl)

theorem moves_serve (known : deployment.Sound) {tenantId : Uuid}
    (present : (deployment.tenants.find? tenantId).isSome = true) (request : IdentityRequest) :
    Moves deployment (deployment.serve tenantId request) := by
  apply moves_withUsers present
  have sound := known.users tenantId
  rcases run_identityService sound.adminsInStep request with same | step
  · exact .idle same
  · exact .served step (emailsUnique_serve sound.adminsInStep sound.emails request)

theorem moves_setTenantStatus (tenantId : Uuid) (status : TenantStatus) :
    Moves deployment (deployment.setTenantStatus tenantId status) where
  users := fun _ => .idle rfl
  tenants := by
    intro other tenant found
    by_cases same : other = tenantId
    · subst same
      refine ⟨{ tenant with status := status },?_,rfl⟩
      rw [setTenantStatus,Table.find?_modify,if_pos rfl,found]
      rfl
    · refine ⟨tenant,?_,rfl⟩
      rw [setTenantStatus,Table.find?_modify,if_neg same]
      exact found
  vacant := by
    intro other missing
    refine ⟨?_,rfl⟩
    rw [setTenantStatus,Table.find?_modify] at missing
    split at missing
    · rename_i same
      rw [same]
      simpa using missing
    · exact missing
  codes := fun indexed => Table.indexed_modify (f := fun tenant => { tenant with status := status })
    indexed tenantId (fun _ => rfl) (fun _ => rfl)

/-- Every event moves a sound deployment. -/
theorem next_moves (lawful : library.Lawful) (known : deployment.Sound) {event : DeploymentEvent}
    (taken : deployment.next library event = some after) : Moves deployment after := by
  cases event with
  | createTenant tenant =>
      obtain ⟨tenants,inserted,rfl⟩ := Option.map_eq_some_iff.mp taken
      exact moves_insert inserted
  | setTenantStatus tenantId status =>
      cases taken
      exact moves_setTenantStatus tenantId status
  | serve tenantId request =>
      obtain ⟨tenant,found,rfl⟩ := Option.map_eq_some_iff.mp taken
      exact moves_serve known (by rw [found]; rfl) request
  | bootstrapCorporateAdmin tenantSession tenantRequest request fresh =>
      cases taken
      cases ended : deployment.bootstrapCorporateAdmin library tenantSession tenantRequest request
          fresh with
      | error failure => exact deployment.moves_refl
      | ok result =>
          obtain ⟨tenantId,users,middle,made,same,kept,moves,⟨tenant,found,-⟩,-⟩ :=
            bootstrapCorporateAdmin_spec ended
          rw [committed,same]
          exact moves.withUsers kept (by rw [found]; rfl)
            (bootstrapAdmin_step (known.users tenantId) made)
  | bootstrapPublicReviewer tenantSession tenantCode request password fresh =>
      cases taken
      cases ended : deployment.bootstrapPublicReviewer library tenantSession tenantCode request
          password fresh with
      | error failure => exact deployment.moves_refl
      | ok result =>
          obtain ⟨-,tenant,users,resolved,-,reviewed,same⟩ :=
            bootstrapPublicReviewer_spec lawful ended
          rw [committed,same]
          exact moves_withUsers (by rw [find?_of_tenantOf resolved]; rfl)
            (reviewed.step (known.users tenant.id))
  | authenticateUser tenantSession tenantCode email password now salt =>
      cases taken
      exact moves_authenticateUser tenantSession tenantCode email password now salt

theorem Unused.sound (unused : deployment.Unused) (tenantId : Uuid) :
    (deployment.users tenantId).Sound := by
  obtain ⟨-,empty,unissued⟩ := unused tenantId
  have absent : ∀ userId, (deployment.users tenantId).identity.account? userId = none := by
    intro userId
    rw [account?,user?,empty]
    rfl
  refine ⟨⟨?_,?_⟩,?_⟩
  · intro userId account found
    rw [absent] at found
    cases found
  · intro claims member
    rw [unissued] at member
    cases member
  · intro first second left right found
    rw [absent] at found
    cases found

theorem reachable_sound (lawful : library.Lawful)
    (reachable : (deploymentMachine library).Reachable deployment) : deployment.Sound := by
  apply reachable.invariant
  · rintro start ⟨unused,codes⟩
    exact ⟨unused.sound,codes,fun tenantId _ => (unused tenantId).2.1⟩
  · intro state event next known taken
    exact (next_moves lawful known taken).sound known

section Runs

variable (lawful : library.Lawful)
  (reachable : (deploymentMachine library).Reachable deployment) {events : List DeploymentEvent}
  (reached : (deploymentMachine library).run deployment events = some later)

include lawful reachable reached

/-- No run takes a user's version back. -/
theorem version_run {tenantId userId : Uuid} {account : Account}
    (found : (deployment.users tenantId).identity.account? userId = some account) :
    ∃ kept, (later.users tenantId).identity.account? userId = some kept ∧
      account.user.tokenVersion ≤ kept.user.tokenVersion := by
  have grows : ∀ account, (deployment.users tenantId).identity.account? userId = some account →
      ∃ kept, (later.users tenantId).identity.account? userId = some kept ∧
        account.user.tokenVersion ≤ kept.user.tokenVersion := by
    apply reachable.run_relation (fun first second => ∀ account,
      (first.users tenantId).identity.account? userId = some account → ∃ kept,
        (second.users tenantId).identity.account? userId = some kept ∧
          account.user.tokenVersion ≤ kept.user.tokenVersion) _ _ _ reached
    · exact fun _ account stored => ⟨account,stored,le_rfl⟩
    · intro first second third early late account stored
      obtain ⟨middle,present,bound⟩ := early account stored
      obtain ⟨last,kept,further⟩ := late middle present
      exact ⟨last,kept,bound.trans further⟩
    · intro before event next earlier taken account stored
      have known := reachable_sound lawful earlier
      obtain ⟨kept,present,-,bound⟩ :=
        ((next_moves lawful known taken).users tenantId).versions (known.users tenantId) stored
      exact ⟨kept,present,bound⟩
  exact grows account found

theorem hasActiveAdmin_run {tenantId : Uuid}
    (has : (deployment.users tenantId).identity.HasActiveAdmin) :
    (later.users tenantId).identity.HasActiveAdmin := by
  apply reachable.run_relation (fun first second =>
    (first.users tenantId).identity.HasActiveAdmin →
      (second.users tenantId).identity.HasActiveAdmin) _ _ _ reached has
  · exact fun _ has => has
  · exact fun _ _ _ early late has => late (early has)
  · intro before event next earlier taken has
    have moves := next_moves lawful (reachable_sound lawful earlier) taken
    exact (moves.users tenantId).hasActiveAdmin has

theorem tenant_run {tenantId : Uuid} {tenant : Tenant}
    (found : deployment.tenants.find? tenantId = some tenant) :
    ∃ kept, later.tenants.find? tenantId = some kept ∧ kept.code = tenant.code := by
  apply reachable.run_relation (fun first second => ∀ tenant,
    first.tenants.find? tenantId = some tenant →
      ∃ kept, second.tenants.find? tenantId = some kept ∧ kept.code = tenant.code) _ _ _ reached
      tenant found
  · exact fun _ tenant stored => ⟨tenant,stored,rfl⟩
  · intro first second third early late tenant stored
    obtain ⟨middle,present,same⟩ := early tenant stored
    obtain ⟨last,kept,further⟩ := late middle present
    exact ⟨last,kept,further.trans same⟩
  · intro before event next earlier taken tenant stored
    exact (next_moves lawful (reachable_sound lawful earlier) taken).tenants tenantId tenant stored

end Runs

end Deployment

end Abacus.Bootstrap

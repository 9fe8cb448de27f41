import Abacus.Bootstrap.Deployments

/-! The first administrator of a tenant.
The command looks for the legacy grant, which stands beside the administrator's role, and the
identity services never remove the last administrator.
-/
set_option autoImplicit false

namespace Abacus.Bootstrap

open Relational
open Python (Text text)
open IdentityDatabase
open Transition (Machine)
open Onboarding (Tenant TenantCreate)

namespace Deployment

variable {library : Library} {deployment after later : Deployment}

theorem withUsers_self (deployment : Deployment) (tenantId : Uuid) :
    deployment.withUsers tenantId (deployment.users tenantId) = deployment := by
  unfold withUsers
  congr 1
  funext other
  split
  · rename_i same
    rw [same]
  · rfl

/-- Two tenants of one code are one tenant. -/
theorem Sound.tenantId_unique (known : deployment.Sound) {first second : Uuid}
    {left right : Tenant} (one : deployment.tenants.find? first = some left)
    (two : deployment.tenants.find? second = some right) (same : left.code = right.code) :
    first = second := by
  have equal : left = right := Table.eq_of_indexed known.codes (Table.mem_of_find? one)
    (Table.mem_of_find? two) (congrArg some same) rfl
  rw [← Table.key_of_find? one,← Table.key_of_find? two,equal]

theorem anyAdminExists_of_vacant (known : deployment.Sound) {tenantId : Uuid}
    (absent : deployment.tenants.find? tenantId = none) :
    (deployment.users tenantId).anyAdminExists = false := by
  rw [TenantUsers.anyAdminExists,known.vacant tenantId absent]
  rfl

/-- Where the tenant of a code has an active administrator, no command writes. -/
theorem bootstrapCorporateAdmin_settled (known : deployment.Sound) {tenantId : Uuid}
    {current : Tenant} (present : deployment.tenants.find? tenantId = some current)
    (has : (deployment.users tenantId).identity.HasActiveAdmin) {tenantSession : Bool}
    {tenantRequest : TenantCreate} {request : UserCreate} {fresh : Fresh} {record : UserRecord}
    (code : tenantRequest.code = current.code)
    (ended : deployment.bootstrapCorporateAdmin library tenantSession tenantRequest request fresh =
      .ok (record,after)) : after = deployment := by
  obtain ⟨other,users,middle,made,rfl,-,moves,⟨target,stored,chosen⟩,origin⟩ :=
    bootstrapCorporateAdmin_spec ended
  obtain ⟨lasting,listed,renamed⟩ := moves.tenants tenantId current present
  obtain rfl : other = tenantId := by
    apply (moves.sound known).tenantId_unique stored listed
    rw [chosen,renamed,code]
  have exists_admin := anyAdminExists_of_admin (known.users other).adminsInStep has
  obtain ⟨-,-,⟨rfl,-⟩ | ⟨none_exists,-⟩⟩ :=
    bootstrapAdmin_spec (known.users other).adminsInStep made
  · rcases origin with rfl | vacant
    · exact withUsers_self _ other
    · rw [present] at vacant
      cases vacant
  · rw [exists_admin] at none_exists
    cases none_exists

end Deployment

section Administrator

variable {library : Library} {deployment after : Deployment} {tenantSession : Bool}
  {tenantRequest : TenantCreate} {request : UserCreate} {fresh : Fresh} {record : UserRecord}

/-- Of commands that do not overlap, one for an administrator either finds that administrator and
writes nothing, or it is the last one for its tenant code that writes: in every later state the
tenant has an active administrator, and the command, for whatever user, changes nothing. -/
theorem administrator_bootstrapped_once (lawful : library.Lawful)
    (reachable : (deploymentMachine library).Reachable deployment)
    (ended : deployment.bootstrapCorporateAdmin library tenantSession tenantRequest request fresh =
      .ok (record,after)) :
    record.user.email = request.email ∧ record.grants = {.corporateAdmin} ∧
    ((after = deployment ∧ ∃ tenantId account,
        (deployment.users tenantId).identity.account? record.user.id = some account ∧
          account.user = record.user ∧ .tenantAdmin ∈ account.roles) ∨
      ∃ tenantId, (deployment.users tenantId).identity.account? record.user.id = none ∧
        record.user.status = .active ∧
        (after.users tenantId).identity.account? record.user.id =
          some (adminAccount record.user) ∧
        ∀ events later, (deploymentMachine library).run after events = some later →
          (later.users tenantId).identity.HasActiveAdmin ∧
          ∀ tenantSession again request fresh record last, again.code = tenantRequest.code →
            later.bootstrapCorporateAdmin library tenantSession again request fresh =
              .ok (record,last) → last = later) := by
  have known := Deployment.reachable_sound lawful reachable
  have taken : (deploymentMachine library).next deployment (.bootstrapCorporateAdmin tenantSession
      tenantRequest request fresh) = some after :=
    congrArg (fun attempt => some (committed deployment attempt)) ended
  obtain ⟨tenantId,users,middle,made,rfl,kept,moves,⟨tenant,found,code⟩,origin⟩ :=
    Deployment.bootstrapCorporateAdmin_spec ended
  obtain ⟨email,grants,cases⟩ := bootstrapAdmin_spec (known.users tenantId).adminsInStep made
  refine ⟨email,grants,?_⟩
  rcases cases with ⟨rfl,exists_admin,account,stored,same,admin⟩ |
    ⟨-,absent,-,active,writes,-⟩
  · left
    rcases origin with rfl | vacant
    · exact ⟨Deployment.withUsers_self _ tenantId,tenantId,account,stored,same,admin⟩
    · rw [Deployment.anyAdminExists_of_vacant known vacant] at exists_admin
      cases exists_admin
  · right
    have here : (middle.withUsers tenantId users).users tenantId = users := if_pos rfl
    refine ⟨tenantId,absent,active,by rw [here]; exact writes.here,?_⟩
    intro events later reached
    have next := reachable.step taken
    have has : ((middle.withUsers tenantId users).users tenantId).identity.HasActiveAdmin := by
      rw [here,hasActiveAdmin_iff]
      exact ⟨_,_,writes.here,active,by simp [adminAccount]⟩
    have still := Deployment.hasActiveAdmin_run lawful next reached has
    refine ⟨still,?_⟩
    intro tenantSession again request fresh record last same repeated
    obtain ⟨current,present,named⟩ := Deployment.tenant_run lawful next reached found
    exact Deployment.bootstrapCorporateAdmin_settled
      (Deployment.reachable_sound lawful (next.after reached)) present still
      (same.trans (code.symm.trans named.symm)) repeated

end Administrator

namespace Sample

/-- A password library of one kind of hash, which draws no salt, and codes that are as typed. -/
def library : Library where
  hash := fun password _ => "#" ++ password
  verifyAndUpdate := fun password hash _ => some (hash == "#" ++ password,none)
  dummyPasswordHash := "#dummy"
  lower := id
  normalizedCode := id

theorem library_lawful : library.Lawful where
  nonempty := by
    intro password salt empty
    have lengths := congrArg String.length empty
    simp [library] at lengths
  hashed := by simp [library]
  updates := by
    intro password hash salt replacement verified
    simp [library] at verified
  current := by
    intro password hash salt verified later
    exact verified
  settled := by
    intro password hash salt verified other later matched replacement answered
    simp only [library,Option.some.injEq,Prod.mk.injEq] at answered
    exact answered.2.symm

def newUsers (tenantId : Uuid) : TenantUsers where
  identity := ⟨tenantId,Table.empty,Table.empty,∅,∅,∅,[],[]⟩
  passwordHashes := fun _ => ""
  lastLogins := fun _ => none
  audits := []

def newDeployment : Deployment := ⟨Table.empty,newUsers⟩

theorem newDeployment_reachable : (deploymentMachine library).Reachable newDeployment :=
  ⟨_,[],⟨fun _ => ⟨rfl,rfl,rfl⟩,Table.indexed_empty⟩,rfl⟩

def acme : TenantCreate := ⟨text "acme",text "Acme"⟩

theorem administratorGrant_distinct : [UserAccessGrant.corporateAdmin].Nodup :=
  List.nodup_singleton _

def administrator : UserCreate :=
  ⟨"admin@acme","Admin","first-password",[.corporateAdmin],List.cons_ne_nil _ _,
    administratorGrant_distinct⟩

def administration : Attempt (UserRecord × Deployment) :=
  newDeployment.bootstrapCorporateAdmin library true acme administrator ⟨1,2,0⟩

def administered : Deployment := committed newDeployment administration

theorem administration_ended : ∃ record, administration = .ok (record,administered) := by
  have made : administration.toOption.any (fun _ => true) = true := by decide +kernel
  obtain ⟨⟨record,after⟩,ended,-⟩ := exists_of_any made
  exact ⟨record,by rw [administered,ended]; rfl⟩

end Sample

theorem administrator_bootstrapped_once_sample :
    ∃ tenantId, (Sample.administered.users tenantId).identity.HasActiveAdmin ∧
      ∀ tenantSession again request fresh record last, again.code = text "acme" →
        Sample.administered.bootstrapCorporateAdmin Sample.library tenantSession again request
          fresh = .ok (record,last) → last = Sample.administered := by
  obtain ⟨record,ended⟩ := Sample.administration_ended
  obtain ⟨-,-,⟨-,tenantId,account,found,-⟩ | ⟨tenantId,-,-,-,later⟩⟩ :=
    administrator_bootstrapped_once Sample.library_lawful Sample.newDeployment_reachable ended
  · cases found
  · exact ⟨tenantId,later [] Sample.administered rfl⟩

end Abacus.Bootstrap

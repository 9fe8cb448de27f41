import Abacus.Policies.Steps

/-! The sessions of the policy services keep the discipline of `PolicyStep`.
A patch and an activation of one version exclude each other by its row lock, two
activations by the tenant's, and two clones of one policy by the policy's.
-/
set_option autoImplicit false

namespace Abacus

open Relational Transition Transaction

variable {platform : PolicyPlatform} {request : PolicyRequest} {held : List PolicyLock}
  {db : PolicyDatabase} {next : PolicyProgram} {principal : Principal}

section Checks

theorem safe_ensureManageRuleScopes {storeIds : List (Option Uuid)}
    (safe : (policyDiscipline platform).Safe request held next db) :
    (policyDiscipline platform).Safe request held
      (ensureManageRuleScopes principal storeIds next) db := by
  apply (policy_refuses platform).ensure
  intro _
  apply (policy_refuses platform).ensure
  exact fun _ => safe

theorem safe_ensureReferences {Selector : Type} {selectors : List Selector}
    {valid : Registry → Selector → Bool} {failure : Failure}
    (safe : ∀ after, (policyDiscipline platform).Rely held db after →
      (policyDiscipline platform).Safe request held next after) :
    (policyDiscipline platform).Safe request held
      (ensureReferences selectors valid failure next) db := by
  unfold ensureReferences
  split
  · exact safe db (Discipline.Rely.refl held db)
  · intro after rely _
    apply (policy_refuses platform).ensure
    exact fun _ => safe after rely

theorem safe_validateRules {rules : List PolicyRule}
    (safe : ∀ after, (policyDiscipline platform).Rely held db after →
      rules.Pairwise (Separate platform.toPlatform) →
      (policyDiscipline platform).Safe request held next after) :
    (policyDiscipline platform).Safe request held (validateRules platform rules next) db := by
  apply (policy_refuses platform).ensure
  intro _
  apply (policy_refuses platform).ensure
  intro separate
  apply safe_ensureReferences
  intro stores toStores
  apply safe_ensureReferences
  intro skus toSkus
  apply safe_ensureReferences
  intro styles toStyles
  apply safe_ensureReferences
  intro categories toCategories
  exact safe categories (((toStores.trans toSkus).trans toStyles).trans toCategories)
    ((firstOverlap_isNone platform.toPlatform).mp separate)

structure KnowsVersion (held : List PolicyLock) (db : PolicyDatabase) (versionId : Uuid)
    (version : PolicyVersion) (rules : List PolicyRule) : Prop where
  locked : .version versionId ∈ held
  found : db.policies.versions.find? versionId = some version
  rules : db.policies.rulesOf versionId = rules

variable {versionId : Uuid} {version : PolicyVersion} {rules : List PolicyRule}

theorem KnowsVersion.rely {after : PolicyDatabase} (knows : KnowsVersion held db versionId version rules)
    (rely : (policyDiscipline platform).Rely held db after) :
    KnowsVersion held after versionId version rules := by
  obtain ⟨found,same⟩ := rely_version rely knows.locked knows.found
  exact ⟨knows.locked,found,same.trans knows.rules⟩

theorem KnowsVersion.id (knows : KnowsVersion held db versionId version rules) :
    version.id = versionId := Table.key_of_find? knows.found

theorem safe_lockVersion {next : PolicyVersion → PolicyProgram}
    (safe : ∀ after version rules,
      KnowsVersion (.version versionId :: held) after versionId version rules →
      (policyDiscipline platform).Safe request (.version versionId :: held) (next version) after) :
    (policyDiscipline platform).Safe request held (lockVersion versionId next) db := by
  intro after rely _
  dsimp only
  cases stored : after.policies.versions.find? versionId with
  | none => exact (policy_refuses platform).abandon policyVersionNotFound
  | some version => exact safe after version _ ⟨List.mem_cons_self ..,stored,rfl⟩

theorem safe_lockVersions {versionIds : List Uuid}
    (safe : ∀ kept after, (∀ lock ∈ held, lock ∈ kept) →
      (∀ versionId ∈ versionIds, .version versionId ∈ kept) →
      (policyDiscipline platform).Rely held db after →
      (policyDiscipline platform).Safe request kept next after) :
    (policyDiscipline platform).Safe request held (lockVersions versionIds next) db := by
  induction versionIds generalizing held db with
  | nil => exact safe held db (fun _ => id) (by simp) (Discipline.Rely.refl held db)
  | cons versionId versionIds ih =>
      intro locked rely _
      apply ih
      intro kept after grown covered later
      apply safe kept after
      · exact fun lock mine => grown lock (List.mem_cons_of_mem _ mine)
      · intro other member
        rcases List.mem_cons.mp member with rfl | member
        · exact grown _ (List.mem_cons_self ..)
        · exact covered other member
      · exact rely.trans (later.weaken fun lock mine => List.mem_cons_of_mem _ mine)

theorem mem_bundleRules {policies : Policies} {rule : PolicyRule} :
    rule ∈ policies.bundleRules versionId ↔ rule ∈ policies.rulesOf versionId :=
  (List.perm_insertionSort _ _).mem_iff

/-- The loads of a locked version see its row and its rules. -/
theorem safe_loadBundle (knows : KnowsVersion held db versionId version rules)
    {next : PolicyBundle → PolicyProgram}
    (safe : ∀ after bundle, (policyDiscipline platform).Rely held db after →
      KnowsVersion held after versionId version rules → bundle.policy.id = version.policyId →
      (∀ rule, rule ∈ bundle.rules ↔ rule ∈ rules) →
      (policyDiscipline platform).Safe request held (next bundle) after) :
    (policyDiscipline platform).Safe request held (loadBundle versionId next) db := by
  intro first toFirst _
  have atFirst := knows.rely toFirst
  dsimp only
  rw [atFirst.found]
  intro second toSecond _
  dsimp only
  cases defined : second.definitions.find? version.policyId with
  | none => exact (policy_refuses platform).abandon policyNotFound
  | some policy =>
      intro third toThird _
      have atThird := (atFirst.rely toSecond).rely toThird
      apply safe third _ ((toFirst.trans toSecond).trans toThird) atThird
      · exact Table.key_of_find? defined
      · intro rule
        dsimp only
        rw [mem_bundleRules,atThird.id,atThird.rules]

end Checks

section Services

theorem PolicyDatabase.Adds.lockedVersions {after : PolicyDatabase} {version : PolicyVersion}
    {rules : List PolicyRule} (adds : db.Adds after version rules) : LockedVersions held db after :=
  fun _ _ found _ => adds.find?_of_some found

theorem safe_createPolicy (create : PolicyCreate) (policyId versionId : Uuid)
    (ruleId : ℕ → Uuid) :
    (policyDiscipline platform).Safe (.createPolicy principal create policyId versionId ruleId) []
      (createPolicy platform principal create policyId versionId ruleId) db := by
  apply safe_ensureManageRuleScopes
  apply safe_validateRules
  intro checked _ separate
  apply (policy_refuses platform).commitOr
  intro after written _ _ inserted
  obtain ⟨absent,adds⟩ := PolicyDatabase.insertPolicy_adds rfl inserted
  exact ⟨.created absent separate adds,by simp [PolicyRequest.locks],adds.lockedVersions⟩

theorem safe_cloneSource {policyId : Uuid} {next : PolicyVersion → PolicyProgram}
    (safe : ∀ after source, (policyDiscipline platform).Rely held db after →
      (policyDiscipline platform).Safe request held (next source) after) :
    (policyDiscipline platform).Safe request held (cloneSource policyId next) db := by
  intro active toActive _
  dsimp only
  cases active.policies.activeVersion? policyId with
  | some source => exact safe active source toActive
  | none =>
      intro latest toLatest _
      dsimp only
      cases latest.policies.latestVersion? policyId with
      | some source => exact safe latest source (toActive.trans toLatest)
      | none => exact (policy_refuses platform).abandon _

theorem safe_clonePolicyVersion (policyId versionId : Uuid) (ruleId : ℕ → Uuid) :
    (policyDiscipline platform).Safe (.clonePolicyVersion principal policyId versionId ruleId) []
      (clonePolicyVersion principal policyId versionId ruleId) db := by
  intro locked _ _
  dsimp only
  cases defined : locked.definitions.find? policyId with
  | none => exact (policy_refuses platform).abandon policyNotFound
  | some policy =>
      have keyed := Table.key_of_find? defined
      subst keyed
      have present : (locked.definitions.find? policy.id).isSome := by rw [defined]; rfl
      apply safe_cloneSource
      intro sourced source toSourced loaded toLoaded _
      apply safe_ensureManageRuleScopes
      intro numbered toNumbered _
      apply (policy_refuses platform).commitOr
      intro after written toAfter _ inserted
      obtain ⟨known,numbers⟩ := rely_latestNumber
        ((toSourced.trans toLoaded).trans toNumbered) (List.mem_singleton_self _) present
      obtain ⟨still,same⟩ := rely_latestNumber toAfter (List.mem_singleton_self _) known
      have adds := PolicyDatabase.insertVersion_adds inserted still
      rw [← same] at adds
      exact ⟨.cloned adds,by simp [PolicyRequest.locks],adds.lockedVersions⟩

theorem safe_patchPolicyVersion (versionId : Uuid) (patch : PolicyRulesPatch)
    (ruleId : ℕ → Uuid) :
    (policyDiscipline platform).Safe (.patchPolicyVersion principal versionId patch ruleId) []
      (patchPolicyVersion platform principal versionId patch ruleId) db := by
  apply safe_lockVersion
  intro locked version rules atLocked loaded toLoaded _
  have keyed := atLocked.id
  subst keyed
  apply safe_ensureManageRuleScopes
  apply (policy_refuses platform).ensure
  intro draft
  apply safe_ensureManageRuleScopes
  apply safe_validateRules
  intro checked toChecked separate
  apply (policy_refuses platform).commitOr
  intro after written toAfter _ replaced
  have atAfter := ((atLocked.rely toLoaded).rely toChecked).rely toAfter
  have replaces := PolicyDatabase.replaceRules_replaces replaced
  refine ⟨.patched atAfter.found draft separate replaces,by simp [PolicyRequest.locks],?_⟩
  intro other found stored _
  rw [replaces.versions]
  exact stored

theorem mem_activeSiblings {policies : Policies} {policyId versionId otherId : Uuid} :
    otherId ∈ policies.activeSiblings policyId versionId ↔
      ∃ other, policies.versions.find? otherId = some other ∧ other.policyId = policyId ∧
        other.status = .active ∧ otherId ≠ versionId := by
  simp only [Policies.activeSiblings,Policies.versionsOf,List.mem_map,List.mem_filter,
    Table.mem_select,decide_eq_true_eq,Table.find?_eq_some_iff]
  constructor
  · rintro ⟨other,⟨⟨member,policy⟩,active,apart⟩,rfl⟩
    exact ⟨other,⟨member,rfl⟩,policy,active,apart⟩
  · rintro ⟨other,⟨member,rfl⟩,policy,active,apart⟩
    exact ⟨other,⟨⟨member,policy⟩,active,apart⟩,rfl⟩

theorem mem_otherActiveRules {policies : Policies} {policyId : Uuid} {rule : PolicyRule} :
    rule ∈ policies.otherActiveRules policyId ↔ rule ∈ policies.rules.rows ∧
      ∃ version, policies.versions.find? rule.versionId = some version ∧
        version.status = .active ∧ version.policyId ≠ policyId := by
  rw [Policies.otherActiveRules,Table.mem_select]
  cases policies.versions.find? rule.versionId <;> simp

theorem PolicyDatabase.Activates.lockedVersions {after : PolicyDatabase} {version : PolicyVersion}
    {siblings : List Uuid} (activates : db.Activates after version siblings)
    (locked : .version version.id ∈ held)
    (covered : ∀ versionId ∈ siblings, .version versionId ∈ held) :
    LockedVersions held db after := by
  intro versionId found stored free
  rw [activates.versions,stored,Option.map_some,if_neg,if_neg]
  · exact fun sibling => free (covered versionId sibling)
  · rintro rfl
    exact free locked

theorem safe_activatePolicyVersion (versionId : Uuid) :
    (policyDiscipline platform).Safe (.activatePolicyVersion principal versionId) []
      (activatePolicyVersion platform principal versionId) db := by
  intro tenant _ _
  apply safe_lockVersion
  intro locked version rules atLocked
  have keyed := atLocked.id
  subst keyed
  apply safe_loadBundle atLocked
  intro loaded bundle _ atLoaded policy listed
  apply safe_ensureManageRuleScopes
  split
  · rename_i active
    intro after toAfter _
    exact ⟨.alreadyActive (atLoaded.rely toAfter).found active,by simp [PolicyRequest.locks],
      fun _ _ found _ => found⟩
  · apply (policy_refuses platform).ensure
    intro draft
    apply (policy_refuses platform).ensure
    intro someRule
    apply safe_validateRules
    intro checked toChecked separate others toOthers _
    apply (policy_refuses platform).ensure
    intro unopposed current toCurrent _
    apply safe_lockVersions
    intro kept retiring grown covered toRetiring
    apply (policy_refuses platform).commitOr
    intro after written toAfter _ activated
    have wider : ∀ lock ∈ [PolicyLock.version version.id,.tenant], lock ∈ kept := grown
    have toEnd := toRetiring.trans (toAfter.weaken wider)
    have atAfter := (((atLoaded.rely toChecked).rely toOthers).rely toCurrent).rely toEnd
    have activates := PolicyDatabase.activate_activates activated
    refine ⟨.activated atAfter.found draft ?_ ?_ ?_ ?_ activates,?_,?_⟩
    · rw [atAfter.rules]
      intro nothing
      apply someRule
      rw [List.eq_nil_iff_forall_not_mem]
      intro rule member
      rw [listed,nothing] at member
      cases member
    · rw [atAfter.rules]
      intro left leftMember right rightMember different
      exact separate.forall ((listed left).mpr leftMember) ((listed right).mpr rightMember) different
    · rw [atAfter.rules]
      intro rule member other otherMember
      obtain ⟨stored,found,present,active,apart⟩ := mem_otherActiveRules.mp otherMember
      obtain ⟨earlier,known⟩ := rely_activeRule (toCurrent.trans toEnd) (by simp) active stored
        present
      apply unopposed rule ((listed rule).mpr member) other
      rw [mem_otherActiveRules,policy]
      exact ⟨earlier,found,known,active,apart⟩
    · intro other member
      rw [mem_activeSiblings,policy]
      constructor
      · rintro ⟨sibling,found,owned,active,apart⟩
        have stored := (rely_activeVersion toEnd (by simp) active).mpr found
        rw [Table.find?_of_mem member] at stored
        cases stored
        exact ⟨owned,active,apart⟩
      · rintro ⟨owned,active,apart⟩
        exact ⟨other,(rely_activeVersion toEnd (by simp) active).mp (Table.find?_of_mem member),
          owned,active,apart⟩
    · intro lock needed
      apply grown
      simp only [PolicyRequest.locks,List.mem_cons,List.not_mem_nil,or_false] at needed
      rcases needed with rfl | rfl <;> simp
    · exact activates.lockedVersions (grown _ (List.mem_cons_self ..)) covered

/-- Every service keeps the discipline, however its statements interleave with the others'. -/
theorem policy_verifies (platform : PolicyPlatform) :
    (policyDiscipline platform).Verifies (policyService platform) := by
  intro request db _
  cases request with
  | createPolicy principal create policyId versionId ruleId =>
      exact safe_createPolicy create policyId versionId ruleId
  | clonePolicyVersion principal policyId versionId ruleId =>
      exact safe_clonePolicyVersion policyId versionId ruleId
  | patchPolicyVersion principal versionId patch ruleId =>
      exact safe_patchPolicyVersion versionId patch ruleId
  | activatePolicyVersion principal versionId => exact safe_activatePolicyVersion versionId

end Services

end Abacus

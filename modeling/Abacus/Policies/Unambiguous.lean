import Abacus.Policies.Lifecycle
import Abacus.Replenishment.Evaluation

/-! Active rules do not overlap.
An activation compares its rules with each other and with the active rules of all other
policies, retires its own siblings, and holds the tenant's lock until it commits.
-/
set_option autoImplicit false

namespace Abacus

open Relational Transition Transaction

namespace Policies

variable {policies : Policies} {rule : PolicyRule}

theorem mem_activeRules : rule ∈ activeRules policies ↔ policies.ActiveRule rule := by
  rw [activeRules,Table.mem_select]
  apply and_congr_right
  intro _
  cases policies.versions.find? rule.versionId <;> simp

theorem activeRule_of_other {policyId : Uuid} (other : rule ∈ policies.otherActiveRules policyId) :
    policies.ActiveRule rule := by
  obtain ⟨stored,version,found,active,-⟩ := mem_otherActiveRules.mp other
  exact ⟨stored,version,found,active⟩

theorem mem_rulesOf {versionId : Uuid} :
    rule ∈ policies.rulesOf versionId ↔ rule ∈ policies.rules.rows ∧ rule.versionId = versionId := by
  rw [rulesOf,Table.mem_select,decide_eq_true_eq]

end Policies

namespace PolicyDatabase

def Unambiguous (platform : Platform) (db : PolicyDatabase) : Prop :=
  ∀ left right, db.policies.ActiveRule left → db.policies.ActiveRule right → left ≠ right →
    Separate platform left right

/-- An active rule is one of the activated version or of another policy: the siblings retired. -/
theorem Activates.active {db after : PolicyDatabase} {version : PolicyVersion}
    {siblings : List Uuid} (activates : db.Activates after version siblings)
    (exact : ∀ other ∈ db.policies.versions.rows, other.id ∈ siblings ↔
      other.policyId = version.policyId ∧ other.status = .active ∧ other.id ≠ version.id)
    {rule : PolicyRule} (active : after.policies.ActiveRule rule) :
    rule ∈ db.policies.rulesOf version.id ∨ rule ∈ db.policies.otherActiveRules version.policyId := by
  obtain ⟨stored,published,found,live⟩ := active
  rw [activates.rules] at stored
  by_cases chosen : rule.versionId = version.id
  · exact .inl (Policies.mem_rulesOf.mpr ⟨stored,chosen⟩)
  · right
    rw [activates.versions] at found
    obtain ⟨old,present,became⟩ := Option.map_eq_some_iff.mp found
    have keyed : old.id = rule.versionId := Table.key_of_find? present
    rw [if_neg chosen] at became
    by_cases retiring : rule.versionId ∈ siblings
    · rw [if_pos retiring] at became
      subst became
      cases live
    · rw [if_neg retiring] at became
      subst became
      refine mem_otherActiveRules.mpr ⟨stored,old,present,live,?_⟩
      intro sibling
      apply retiring
      rw [← keyed,exact old (Table.mem_of_find? present)]
      exact ⟨sibling,live,keyed ▸ chosen⟩

end PolicyDatabase

variable {platform : PolicyPlatform} {db after : PolicyDatabase} {request : PolicyRequest}

/-- Without the tenant's lock no rule becomes active. -/
theorem PolicyStep.active (step : PolicyStep platform db request after)
    (apart : .tenant ∉ request.locks) {rule : PolicyRule} (active : after.policies.ActiveRule rule) :
    db.policies.ActiveRule rule := by
  obtain ⟨stored,version,found,live⟩ := active
  obtain ⟨member,known⟩ := step.activeRule apart stored found live
  exact ⟨member,version,known,live⟩

theorem PolicyStep.unambiguous (step : PolicyStep platform db request after)
    (separate : db.Unambiguous platform.toPlatform) : after.Unambiguous platform.toPlatform := by
  by_cases activation : .tenant ∈ request.locks
  · cases step with
    | created => simp [PolicyRequest.locks] at activation
    | cloned => simp [PolicyRequest.locks] at activation
    | patched => simp [PolicyRequest.locks] at activation
    | alreadyActive found active => exact separate
    | activated found draft someRule within unopposed exact activates =>
        have keyed := Table.key_of_find? found
        subst keyed
        intro left right leftActive rightActive different
        rcases activates.active exact leftActive with leftMine | leftOther
        · rcases activates.active exact rightActive with rightMine | rightOther
          · exact within left leftMine right rightMine different
          · exact unopposed left leftMine right rightOther
        · rcases activates.active exact rightActive with rightMine | rightOther
          · exact (unopposed right rightMine left leftOther).symm
          · exact separate left right (Policies.activeRule_of_other leftOther)
              (Policies.activeRule_of_other rightOther) different
  · intro left right leftActive rightActive different
    exact separate left right (step.active activation leftActive) (step.active activation rightActive)
      different

theorem policies_unambiguous {system : PolicySystem}
    (reachable : (policyMachine platform).Reachable system) :
    system.committed.Unambiguous platform.toPlatform := by
  apply reachable.induct
  · rintro start ⟨none,-⟩ left right ⟨stored,-⟩
    rw [none.rules] at stored
    cases stored
  · intro earlier event later reached separate taken
    rcases policyMachine_step reached taken with same | ⟨request,step⟩
    · rw [same]
      exact separate
    · exact step.unambiguous separate

theorem PolicyDatabase.Unambiguous.pairwise {platform : Platform}
    (separate : db.Unambiguous platform) :
    (activeRules db.policies).Pairwise (Separate platform) := by
  have distinct : (activeRules db.policies).Nodup :=
    (List.Nodup.of_map PolicyRule.id db.policies.rules.unique).filter _
  apply distinct.pairwise_of_forall_ne
  intro left leftMember right rightMember different
  exact separate left right (Policies.mem_activeRules.mp leftMember)
    (Policies.mem_activeRules.mp rightMember) different

section Evaluation

variable {settings : Settings} {tenant : Database} {principal : Principal}
  {evaluation : ReplenishmentEvaluationCreate} {minimumConfidence : ℚ} {evaluatedAt : Time}
  {taskId : Uuid → Uuid}

/-- Where every selection succeeds, the evaluation does not fail for an ambiguous policy. -/
theorem evaluateReplenishment_ne_ambiguous {platform : Platform}
    (select : RulesSelect platform settings tenant evaluation minimumConfidence evaluatedAt) :
    evaluateReplenishment platform settings tenant principal evaluation minimumConfidence evaluatedAt
      taskId ≠ .error ambiguousActivePolicy := by
  obtain ⟨outcomes,decided⟩ := (evaluationOutcomes_ok_iff taskId).mpr select
  intro refused
  unfold evaluateReplenishment ensureStoreScope at refused
  by_cases allowed : principal.canAccessStore .replenishmentManage evaluation.storeId = true
  · rw [if_pos allowed] at refused
    change (if _ then _ else _) = _ at refused
    split at refused
    · simp [ambiguousActivePolicy] at refused
    · split at refused
      · cases refused
      · split at refused
        · cases refused
        · rw [decided] at refused
          simp only [bind,Except.bind] at refused
          split at refused
          · simp [evaluationConflict,ambiguousActivePolicy] at refused
          · cases refused
  · rw [if_neg allowed] at refused
    have same : storeScopeDenied = ambiguousActivePolicy := Except.error.inj refused
    simp [storeScopeDenied,ambiguousActivePolicy] at same

end Evaluation

/-- However the policy requests interleave, the active rules are pairwise separate, every selection
from them succeeds, and no evaluation under them finds an ambiguous policy. -/
theorem active_rules_unambiguous {system : PolicySystem}
    (reachable : (policyMachine platform).Reachable system) :
    (activeRules system.committed.policies).Pairwise
      (fun left right => rulesOverlap platform.toPlatform left right = false) ∧
    (∀ storeId item, ∃ choice, selectPolicyRule platform.toPlatform
      (activeRules system.committed.policies) storeId item = .ok choice) ∧
    ∀ (settings : Settings) (tenant : Database) principal evaluation minimumConfidence evaluatedAt
      taskId, evaluateReplenishment platform.toPlatform settings
        { tenant with policies := system.committed.policies } principal evaluation minimumConfidence
        evaluatedAt taskId ≠ .error ambiguousActivePolicy := by
  have separate : (activeRules system.committed.policies).Pairwise (Separate platform.toPlatform) :=
    (policies_unambiguous reachable).pairwise
  have select : ∀ storeId item, ∃ choice, selectPolicyRule platform.toPlatform
      (activeRules system.committed.policies) storeId item = .ok choice :=
    selectPolicyRule_of_separate platform.toPlatform separate
  refine ⟨separate,select,?_⟩
  intro settings tenant principal evaluation minimumConfidence evaluatedAt taskId
  apply evaluateReplenishment_ne_ambiguous
  exact fun snapshot _ _ => select evaluation.storeId snapshot.item

namespace Sample

/-- A second default is published beside the first, and a third one of equal priority is not. -/
def defaults : List (Event PolicyRequest) :=
  publication ++ [
    .start 3 (.createPolicy policyManager (defaultPolicy "Season" highPriority) 110 111 (300 + ·)),
    .step 3,
    .start 4 (.createPolicy policyManager (defaultPolicy "Sale" highPriority) 120 121 (400 + ·)),
    .step 4,.start 5 (.activatePolicyVersion policyManager 111),
    .start 6 (.activatePolicyVersion policyManager 121)] ++
    List.replicate 8 (.step 5) ++ List.replicate 7 (.step 6)

def afterDefaults : PolicySystem :=
  ((policyMachine policyPlatform).run policyTenant defaults).getD policyTenant

theorem defaults_run : ((policyMachine policyPlatform).run policyTenant defaults).isSome = true := by
  decide +kernel

end Sample

theorem active_rules_unambiguous_sample :
    (activeRules Sample.afterDefaults.committed.policies).Pairwise
      (fun left right => rulesOverlap Sample.platform left right = false) ∧
    (∀ storeId item, ∃ choice, selectPolicyRule Sample.platform
      (activeRules Sample.afterDefaults.committed.policies) storeId item = .ok choice) ∧
    ∀ (settings : Settings) (tenant : Database) principal evaluation minimumConfidence evaluatedAt
      taskId, evaluateReplenishment Sample.platform settings
        { tenant with policies := Sample.afterDefaults.committed.policies } principal evaluation
        minimumConfidence evaluatedAt taskId ≠ .error ambiguousActivePolicy :=
  active_rules_unambiguous
    ⟨_,_,Sample.policyTenant_initial,Machine.run_getD Sample.defaults_run⟩

example : (activeRules Sample.afterDefaults.committed.policies).map PolicyRule.id = [200,300] := by
  decide +kernel

end Abacus

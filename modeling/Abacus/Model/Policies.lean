import Abacus.Model.Replenishment
import Abacus.Model.Services

/-! Policies, their versions and the rules of each version (`services/replenishment.py`).
A service that commits loads the bundle of the version again in a new transaction, so
its outcome names the version only.
-/
set_option autoImplicit false

namespace Abacus

open Relational Transaction

structure PolicyDefinition where
  id : Uuid
  name : String
  description : Option String
deriving DecidableEq, Repr

structure PolicyDatabase where
  registry : Registry
  definitions : Table PolicyDefinition.id
  policies : Policies

/-- A rule of a request, normalised and validated by its schema. -/
structure PolicyRuleWrite where
  storeId : Option Uuid
  category : Option String
  styleCode : Option String
  skuId : Option Uuid
  size : Option String
  minFloorQty : ℤ
  targetFloorQty : ℤ
  priority : ℤ
  minimumNonnegative : 0 ≤ minFloorQty
  targetAtLeastMinimum : minFloorQty ≤ targetFloorQty
  priorityInRange : -1000000 ≤ priority ∧ priority ≤ 1000000
  oneSelector : category.toList.length + styleCode.toList.length + skuId.toList.length ≤ 1
  sizeRequiresSku : size.isSome → skuId.isSome
  storeRequiresSelector :
    storeId.isSome → category.isSome ∨ styleCode.isSome ∨ skuId.isSome

structure PolicyCreate where
  name : String
  description : Option String
  rules : List PolicyRuleWrite
  someRule : rules ≠ []
  fewRules : rules.length ≤ 500

structure PolicyRulesPatch where
  rules : List PolicyRuleWrite
  someRule : rules ≠ []
  fewRules : rules.length ≤ 500

structure PolicyBundle where
  policy : PolicyDefinition
  version : PolicyVersion
  rules : List PolicyRule

inductive PolicyResponse where
  | bundle (bundle : PolicyBundle)
  | committed (versionId : Uuid)

/-- What policy validation calls besides the shared platform: `str.upper`. -/
structure PolicyPlatform extends Platform where
  upper : String → String

inductive PolicyLock where
  | tenant
  | policy (policyId : Uuid)
  | version (versionId : Uuid)
deriving DecidableEq, Repr

abbrev PolicyProgram := Service PolicyDatabase PolicyLock PolicyResponse

section Rules

def PolicyRuleWrite.newRule (request : PolicyRuleWrite) (versionId id : Uuid) : PolicyRule where
  id := id
  versionId := versionId
  storeId := request.storeId
  category := request.category
  styleCode := request.styleCode
  skuId := request.skuId
  size := request.size
  minFloorQty := request.minFloorQty
  targetFloorQty := request.targetFloorQty
  priority := request.priority
  minimumNonnegative := request.minimumNonnegative
  targetAtLeastMinimum := request.targetAtLeastMinimum

/-- The rules of a request under one version. `ruleId` is the `uuid4` default of their ids. -/
def newRules (versionId : Uuid) (ruleId : ℕ → Uuid) (requests : List PolicyRuleWrite) :
    List PolicyRule :=
  requests.mapIdx fun index request => request.newRule versionId (ruleId index)

def copyRules (versionId : Uuid) (ruleId : ℕ → Uuid) (rules : List PolicyRule) : List PolicyRule :=
  rules.mapIdx fun index rule => { rule with id := ruleId index, versionId := versionId }

def sameSelector (platform : Platform) (left right : Option String) : Bool :=
  left.any fun text => sameFolded platform right text

def rulesOverlap (platform : Platform) (left right : PolicyRule) : Bool :=
  if left.priority ≠ right.priority ∨ left.storeId ≠ right.storeId then false
  else if left.selectorKind ≠ right.selectorKind then false
  else
    match left.selectorKind with
    | .default => true
    | .category => sameSelector platform left.category right.category
    | .style => sameSelector platform left.styleCode right.styleCode
    | .sku =>
        if left.skuId ≠ right.skuId then false
        else left.size.isNone || right.size.isNone || sameSelector platform left.size right.size

/-- `_first_overlap`. -/
def firstOverlap (platform : Platform) : List PolicyRule → Option (PolicyRule × PolicyRule)
  | [] => none
  | left :: rules =>
      ((rules.find? fun right => rulesOverlap platform left right).map fun right =>
        (left,right)).or (firstOverlap platform rules)

end Rules

section Queries

namespace Policies

def rulesOf (policies : Policies) (versionId : Uuid) : List PolicyRule :=
  policies.rules.select fun rule => rule.versionId = versionId

def bundleRules (policies : Policies) (versionId : Uuid) : List PolicyRule :=
  (policies.rulesOf versionId).insertionSort fun left right =>
    right.priority < left.priority ∨ right.priority = left.priority ∧ left.id ≤ right.id

def versionsOf (policies : Policies) (policyId : Uuid) : List PolicyVersion :=
  policies.versions.select fun version => version.policyId = policyId

def activeVersion? (policies : Policies) (policyId : Uuid) : Option PolicyVersion :=
  (policies.versionsOf policyId).find? fun version => version.status = .active

def latestVersion? (policies : Policies) (policyId : Uuid) : Option PolicyVersion :=
  ((policies.versionsOf policyId).insertionSort fun left right =>
    right.versionNumber ≤ left.versionNumber).head?

/-- `max(version_number)`, or zero. -/
def latestNumber (policies : Policies) (policyId : Uuid) : ℕ :=
  ((policies.versionsOf policyId).map PolicyVersion.versionNumber).foldr max 0

def otherActiveRules (policies : Policies) (policyId : Uuid) : List PolicyRule :=
  policies.rules.select fun rule =>
    (policies.versions.find? rule.versionId).any fun version =>
      version.status = .active ∧ version.policyId ≠ policyId

def activeSiblings (policies : Policies) (policyId versionId : Uuid) : List Uuid :=
  ((policies.versionsOf policyId).filter fun version =>
    version.status = .active ∧ version.id ≠ versionId).map PolicyVersion.id

end Policies

end Queries

section Checks

def policyNotFound : Failure := .apiError 404 "Policy not found" "The policy does not exist." none

def policyVersionNotFound : Failure :=
  .apiError 404 "Policy version not found" "The policy version does not exist." none

/-- `_ensure_manage_rule_scopes`, on the scopes of the rules. -/
def ensureManageRuleScopes (principal : Principal) (storeIds : List (Option Uuid))
    (next : PolicyProgram) : PolicyProgram :=
  ensure (principal.hasPermission .policyManage = true)
    (.apiError 403 "Forbidden" "Policy management permission is required." none)
    (ensure (∀ storeId ∈ storeIds, storeId.elim (principal.hasTenantPermission .policyManage)
        (principal.canAccessStore .policyManage) = true)
      (.apiError 403 "Forbidden" "A policy rule is outside the current user's store scope."
        (some "policy_scope_denied"))
      next)

def ensureReferences {Selector : Type} (selectors : List Selector)
    (valid : Registry → Selector → Bool) (failure : Failure) (next : PolicyProgram) :
    PolicyProgram :=
  if selectors.isEmpty then next
  else .read fun db => ensure (∀ selector ∈ selectors, valid db.registry selector = true) failure next

def invalidReference (title detail code : String) : Failure := .apiError 422 title detail (some code)

def validRuleStore (registry : Registry) (storeId : Uuid) : Bool :=
  (registry.stores.find? storeId).any fun store => store.status ≠ .inactive

def validRuleSku (platform : Platform) (registry : Registry) (selector : Uuid × Option String) :
    Bool :=
  (registry.skus.find? selector.1).any fun sku =>
    sku.active && selector.2.all fun size => platform.casefold sku.size = platform.casefold size

def validRuleLabel (platform : PolicyPlatform) (column : Product → String) (registry : Registry)
    (selector : String) : Bool :=
  registry.products.rows.any fun product =>
    product.active && decide (platform.upper (column product) = selector)

/-- `_validate_rules`. -/
def validateRules (platform : PolicyPlatform) (rules : List PolicyRule) (next : PolicyProgram) :
    PolicyProgram :=
  ensure (∀ rule ∈ rules, rule.storeId.isSome → rule.selectorKind ≠ .default)
    (.apiError 422 "Undefined rule scope"
      "Store-default rules are outside the defined precedence." (some "invalid_policy_scope"))
    (ensure ((firstOverlap platform.toPlatform rules).isNone = true)
      (.apiError 422 "Ambiguous policy rules"
        "Equal-priority rules overlap at the same specificity." (some "policy_rule_overlap"))
      (ensureReferences (rules.filterMap PolicyRule.storeId) validRuleStore
        (invalidReference "Invalid rule store"
          "Every rule store must be a non-inactive store in the current tenant."
          "invalid_policy_store")
        (ensureReferences
          (rules.filterMap fun rule => rule.skuId.map fun skuId => (skuId,rule.size))
          (validRuleSku platform.toPlatform)
          (invalidReference "Invalid rule SKU"
            "Every SKU selector must reference an active tenant SKU and matching size."
            "invalid_policy_sku")
          (ensureReferences (rules.filterMap PolicyRule.styleCode)
            (validRuleLabel platform Product.styleCode)
            (invalidReference "Invalid rule style"
              "Every style selector must reference an active tenant product."
              "invalid_policy_style")
            (ensureReferences (rules.filterMap PolicyRule.category)
              (validRuleLabel platform Product.category)
              (invalidReference "Invalid rule category"
                "Every category selector must exist in the active tenant catalog."
                "invalid_policy_category")
              next)))))

def lockVersion (versionId : Uuid) (next : PolicyVersion → PolicyProgram) : PolicyProgram :=
  .lock (.version versionId) fun db =>
    (db.policies.versions.find? versionId).elim (abandon policyVersionNotFound) next

def lockVersions : List Uuid → PolicyProgram → PolicyProgram
  | [], next => next
  | versionId :: versionIds, next =>
      .lock (.version versionId) fun _ => lockVersions versionIds next

def loadBundle (versionId : Uuid) (next : PolicyBundle → PolicyProgram) : PolicyProgram :=
  .read fun versions =>
    (versions.policies.versions.find? versionId).elim (abandon policyVersionNotFound) fun version =>
      .read fun definitions =>
        (definitions.definitions.find? version.policyId).elim (abandon policyNotFound) fun policy =>
          .read fun rules => next ⟨policy,version,rules.policies.bundleRules version.id⟩

end Checks

section Writes

namespace PolicyDatabase

/-- A version and its rules, under the unique version number. -/
def insertVersion (db : PolicyDatabase) (version : PolicyVersion) (rules : List PolicyRule) :
    Option PolicyDatabase :=
  if db.policies.versions.rows.any fun other =>
      other.policyId = version.policyId ∧ other.versionNumber = version.versionNumber then none
  else do
    let versions ← db.policies.versions.insert version
    let rules ← db.policies.rules.insertMany rules
    some { db with policies := ⟨versions,rules⟩ }

/-- A policy under its unique name, with its first version. -/
def insertPolicy (definition : PolicyDefinition) (version : PolicyVersion) (rules : List PolicyRule)
    (db : PolicyDatabase) : Option PolicyDatabase :=
  if db.definitions.rows.any fun other => other.name = definition.name then none
  else do
    let definitions ← db.definitions.insert definition
    { db with definitions := definitions }.insertVersion version rules

def replaceRules (versionId : Uuid) (rules : List PolicyRule) (db : PolicyDatabase) :
    Option PolicyDatabase :=
  ((db.policies.rules.deleteWhere fun rule => rule.versionId = versionId).insertMany rules).map
    fun rules => { db with policies := ⟨db.policies.versions,rules⟩ }

/-- The siblings retire and the version becomes active, under the index of one active version. -/
def activate (version : PolicyVersion) (siblings : List Uuid) (db : PolicyDatabase) :
    Option PolicyDatabase :=
  let retired := db.policies.versions.updateWhere (fun other => other.id ∈ siblings)
    (fun other => { other with status := .retired }) fun _ => rfl
  if retired.rows.any fun other => other.policyId = version.policyId ∧ other.status = .active then
    none
  else some { db with
    policies := ⟨retired.modify version.id (fun other => { other with status := .active })
      fun _ => rfl,db.policies.rules⟩ }

end PolicyDatabase

end Writes

section Services

def createPolicy (platform : PolicyPlatform) (principal : Principal) (request : PolicyCreate)
    (policyId versionId : Uuid) (ruleId : ℕ → Uuid) : PolicyProgram :=
  let rules := newRules versionId ruleId request.rules
  ensureManageRuleScopes principal (rules.map PolicyRule.storeId)
    (validateRules platform rules
      (commitOr
        (.apiError 409 "Policy creation conflict"
          "The policy name or a rule conflicts with existing data."
          (some "policy_creation_conflict"))
        (.committed versionId)
        (PolicyDatabase.insertPolicy ⟨policyId,request.name,request.description⟩
          ⟨versionId,policyId,1,.draft⟩ rules)))

def cloneSource (policyId : Uuid) (next : PolicyVersion → PolicyProgram) : PolicyProgram :=
  .read fun active =>
    (active.policies.activeVersion? policyId).elim
      (.read fun latest => (latest.policies.latestVersion? policyId).elim
        (abandon (.apiError 409 "Policy has no version" "The policy cannot be cloned." none)) next)
      next

def clonePolicyVersion (principal : Principal) (policyId versionId : Uuid) (ruleId : ℕ → Uuid) :
    PolicyProgram :=
  .lock (.policy policyId) fun db =>
    (db.definitions.find? policyId).elim (abandon policyNotFound) fun policy =>
      cloneSource policy.id fun source =>
        .read fun loaded =>
          let sourceRules := loaded.policies.rulesOf source.id
          ensureManageRuleScopes principal (sourceRules.map PolicyRule.storeId)
            (.read fun numbered =>
              let version : PolicyVersion :=
                ⟨versionId,policy.id,numbered.policies.latestNumber policy.id + 1,.draft⟩
              commitOr
                (.apiError 409 "Version creation conflict"
                  "A draft or version number was created concurrently."
                  (some "policy_version_conflict"))
                (.committed versionId)
                fun db => db.insertVersion version (copyRules versionId ruleId sourceRules))

def patchPolicyVersion (platform : PolicyPlatform) (principal : Principal) (versionId : Uuid)
    (request : PolicyRulesPatch) (ruleId : ℕ → Uuid) : PolicyProgram :=
  lockVersion versionId fun version =>
    .read fun loaded =>
      let rules := newRules version.id ruleId request.rules
      ensureManageRuleScopes principal
        ((loaded.policies.rulesOf version.id).map PolicyRule.storeId)
        (ensure (version.status = .draft)
          (.apiError 409 "Immutable policy version" "Only DRAFT policy versions may be changed."
            (some "policy_version_immutable"))
          (ensureManageRuleScopes principal (rules.map PolicyRule.storeId)
            (validateRules platform rules
              (commitOr
                (.apiError 409 "Policy update conflict"
                  "The draft rules conflict or changed concurrently."
                  (some "policy_rule_update_conflict"))
                (.committed version.id)
                (PolicyDatabase.replaceRules version.id rules)))))

def activatePolicyVersion (platform : PolicyPlatform) (principal : Principal) (versionId : Uuid) :
    PolicyProgram :=
  .lock .tenant fun _ => lockVersion versionId fun version => loadBundle versionId fun bundle =>
    ensureManageRuleScopes principal (bundle.rules.map PolicyRule.storeId)
      (if version.status = .active then answer (.bundle { bundle with version := version })
      else ensure (version.status = .draft)
        (.apiError 409 "Retired policy version"
          "A RETIRED version cannot be activated again; clone it instead."
          (some "policy_version_retired"))
        (ensure (bundle.rules ≠ [])
          (.apiError 422 "Empty policy" "A policy version requires at least one rule." none)
          (validateRules platform bundle.rules
            (.read fun others =>
              ensure (∀ rule ∈ bundle.rules,
                  ∀ other ∈ others.policies.otherActiveRules bundle.policy.id,
                    rulesOverlap platform.toPlatform rule other = false)
                (.apiError 409 "Ambiguous active policies"
                  "An active policy has an equal-priority overlapping rule."
                  (some "active_policy_overlap"))
                (.read fun current =>
                  let siblings := current.policies.activeSiblings bundle.policy.id version.id
                  lockVersions siblings
                    (commitOr
                      (.apiError 409 "Policy activation conflict"
                        "Another policy version was activated concurrently."
                        (some "policy_activation_conflict"))
                      (.committed version.id)
                      (PolicyDatabase.activate version siblings)))))))

end Services

inductive PolicyRequest where
  | createPolicy (principal : Principal) (request : PolicyCreate) (policyId versionId : Uuid)
      (ruleId : ℕ → Uuid)
  | clonePolicyVersion (principal : Principal) (policyId versionId : Uuid) (ruleId : ℕ → Uuid)
  | patchPolicyVersion (principal : Principal) (versionId : Uuid) (request : PolicyRulesPatch)
      (ruleId : ℕ → Uuid)
  | activatePolicyVersion (principal : Principal) (versionId : Uuid)

def policyService (platform : PolicyPlatform) : PolicyRequest → PolicyProgram
  | .createPolicy principal request policyId versionId ruleId =>
      createPolicy platform principal request policyId versionId ruleId
  | .clonePolicyVersion principal policyId versionId ruleId =>
      clonePolicyVersion principal policyId versionId ruleId
  | .patchPolicyVersion principal versionId request ruleId =>
      patchPolicyVersion platform principal versionId request ruleId
  | .activatePolicyVersion principal versionId => activatePolicyVersion platform principal versionId

end Abacus

import Abacus.Policies.Overlap

/-! What a committed policy request does to the versions and their rules.
Activations hold the tenant's lock, and every commit has locked the versions that it
changes, so the rules of an active version stay what its activation has checked.
-/
set_option autoImplicit false

namespace Abacus

open Relational Transition Transaction

namespace PolicyDatabase

structure Adds (db after : PolicyDatabase) (version : PolicyVersion) (rules : List PolicyRule) :
    Prop where
  fresh : db.policies.versions.find? version.id = none
  unnumbered : ∀ other ∈ db.policies.versions.rows, other.policyId = version.policyId →
    other.versionNumber ≠ version.versionNumber
  versions : after.policies.versions.rows = db.policies.versions.rows ++ [version]
  rules : after.policies.rules.rows = db.policies.rules.rows ++ rules
  defined : (after.definitions.find? version.policyId).isSome
  definitions : ∀ policyId, (db.definitions.find? policyId).isSome →
    (after.definitions.find? policyId).isSome

theorem insertVersion_adds {db after : PolicyDatabase} {version : PolicyVersion}
    {rules : List PolicyRule} (inserted : db.insertVersion version rules = some after)
    (defined : (db.definitions.find? version.policyId).isSome) : db.Adds after version rules := by
  unfold insertVersion at inserted
  split at inserted
  · cases inserted
  · rename_i numbers
    obtain ⟨versions,added,inserted⟩ := Option.bind_eq_some_iff.mp inserted
    obtain ⟨stored,written,inserted⟩ := Option.bind_eq_some_iff.mp inserted
    cases inserted
    obtain ⟨fresh,rows⟩ := Table.insert_eq_some added
    refine ⟨fresh,?_,rows,(Table.insertMany_eq_some written).1,defined,fun _ => id⟩
    intro other member policy number
    exact numbers (List.any_eq_true.mpr ⟨other,member,decide_eq_true ⟨policy,number⟩⟩)

theorem insertPolicy_adds {db after : PolicyDatabase} {definition : PolicyDefinition}
    {version : PolicyVersion} {rules : List PolicyRule} (owned : version.policyId = definition.id)
    (inserted : db.insertPolicy definition version rules = some after) :
    db.definitions.find? definition.id = none ∧ db.Adds after version rules := by
  unfold insertPolicy at inserted
  split at inserted
  · cases inserted
  · obtain ⟨definitions,added,inserted⟩ := Option.bind_eq_some_iff.mp inserted
    have defined : (definitions.find? version.policyId).isSome := by
      rw [owned,Table.find?_insert added,if_pos rfl]
      rfl
    have adds := insertVersion_adds inserted defined
    refine ⟨(Table.insert_eq_some added).1,adds.fresh,adds.unnumbered,adds.versions,adds.rules,
      adds.defined,?_⟩
    intro policyId stored
    apply adds.definitions
    rw [Table.find?_insert added]
    split
    · rfl
    · exact stored

section Adds

variable {db after : PolicyDatabase} {version : PolicyVersion} {rules : List PolicyRule}

theorem Adds.find? (adds : db.Adds after version rules) (versionId : Uuid) :
    after.policies.versions.find? versionId =
      if version.id = versionId then some version else db.policies.versions.find? versionId := by
  rw [Table.find?_append adds.versions,List.find?_singleton]
  by_cases same : version.id = versionId
  · subst same
    simp [adds.fresh]
  · simp [same]

theorem Adds.find?_of_some (adds : db.Adds after version rules) {versionId : Uuid}
    {found : PolicyVersion} (stored : db.policies.versions.find? versionId = some found) :
    after.policies.versions.find? versionId = some found := by
  rw [adds.find?,if_neg]
  · exact stored
  · rintro rfl
    rw [adds.fresh] at stored
    cases stored

end Adds

structure Replaces (db after : PolicyDatabase) (versionId : Uuid) (rules : List PolicyRule) :
    Prop where
  versions : after.policies.versions = db.policies.versions
  rules : after.policies.rules.rows =
    (db.policies.rules.rows.filter fun rule => rule.versionId ≠ versionId) ++ rules
  definitions : after.definitions = db.definitions

theorem replaceRules_replaces {db after : PolicyDatabase} {versionId : Uuid}
    {rules : List PolicyRule} (written : db.replaceRules versionId rules = some after) :
    db.Replaces after versionId rules := by
  obtain ⟨stored,inserted,rfl⟩ := Option.map_eq_some_iff.mp written
  refine ⟨rfl,?_,rfl⟩
  rw [(Table.insertMany_eq_some inserted).1]
  simp [Table.deleteWhere]

/-- The version becomes active and the siblings retire; every other row stays. -/
structure Activates (db after : PolicyDatabase) (version : PolicyVersion) (siblings : List Uuid) :
    Prop where
  rows : after.policies.versions.rows = db.policies.versions.rows.map fun found =>
    if found.id = version.id then { found with status := .active }
    else if found.id ∈ siblings then { found with status := .retired }
    else found
  versions : ∀ versionId, after.policies.versions.find? versionId =
    (db.policies.versions.find? versionId).map fun found =>
      if versionId = version.id then { found with status := .active }
      else if versionId ∈ siblings then { found with status := .retired }
      else found
  rules : after.policies.rules = db.policies.rules
  definitions : after.definitions = db.definitions
  alone : ∀ other ∈ after.policies.versions.rows, other.policyId = version.policyId →
    other.status = .active → other.id = version.id

theorem activate_activates {db after : PolicyDatabase} {version : PolicyVersion}
    {siblings : List Uuid} (written : db.activate version siblings = some after) :
    db.Activates after version siblings := by
  unfold activate at written
  dsimp only at written
  split at written
  · cases written
  · rename_i unique
    cases written
    refine ⟨?_,?_,rfl,rfl,?_⟩
    · simp only [Table.modify,Table.updateWhere,List.map_map]
      apply List.map_congr_left
      intro found _
      simp only [Function.comp_apply,decide_eq_true_eq]
      by_cases retiring : found.id ∈ siblings <;> simp [retiring]
    · intro versionId
      dsimp only
      rw [Table.find?_modify,Table.find?_updateWhere,Table.find?_updateWhere]
      cases found : db.policies.versions.find? versionId with
      | none =>
          split
          · rename_i same
            rw [← same,found]
            rfl
          · rfl
      | some stored =>
          have keyed := Table.key_of_find? found
          subst keyed
          split
          · rename_i same
            rw [← same,found]
            simp only [Option.map_some,decide_eq_true_eq]
            split <;> rfl
          · simp only [Option.map_some,decide_eq_true_eq]
    · intro other member policy active
      obtain ⟨before,stored,rfl⟩ := List.mem_map.mp member
      by_cases same : before.id = version.id
      · simp [same]
      · simp only [same,decide_false,Bool.false_eq_true,if_false] at policy active
        exact absurd (List.any_eq_true.mpr ⟨before,stored,decide_eq_true ⟨policy,active⟩⟩) unique

end PolicyDatabase

def Policies.ActiveRule (policies : Policies) (rule : PolicyRule) : Prop :=
  rule ∈ policies.rules.rows ∧
    ∃ version, policies.versions.find? rule.versionId = some version ∧ version.status = .active

/-- What a request that succeeds does to the database, with everything it has checked there. -/
inductive PolicyStep (platform : PolicyPlatform) (db : PolicyDatabase) :
    PolicyRequest → PolicyDatabase → Prop where
  | created {principal : Principal} {request : PolicyCreate} {policyId versionId : Uuid}
      {ruleId : ℕ → Uuid} {after : PolicyDatabase} (absent : db.definitions.find? policyId = none)
      (separate : (newRules versionId ruleId request.rules).Pairwise (Separate platform.toPlatform))
      (adds : db.Adds after ⟨versionId,policyId,1,.draft⟩ (newRules versionId ruleId request.rules)) :
      PolicyStep platform db (.createPolicy principal request policyId versionId ruleId) after
  | cloned {principal : Principal} {policyId versionId : Uuid} {ruleId : ℕ → Uuid}
      {sourceRules : List PolicyRule} {after : PolicyDatabase}
      (adds : db.Adds after ⟨versionId,policyId,db.policies.latestNumber policyId + 1,.draft⟩
        (copyRules versionId ruleId sourceRules)) :
      PolicyStep platform db (.clonePolicyVersion principal policyId versionId ruleId) after
  | patched {principal : Principal} {versionId : Uuid} {request : PolicyRulesPatch}
      {ruleId : ℕ → Uuid} {version : PolicyVersion} {after : PolicyDatabase}
      (found : db.policies.versions.find? versionId = some version) (draft : version.status = .draft)
      (separate : (newRules versionId ruleId request.rules).Pairwise (Separate platform.toPlatform))
      (replaces : db.Replaces after versionId (newRules versionId ruleId request.rules)) :
      PolicyStep platform db (.patchPolicyVersion principal versionId request ruleId) after
  | alreadyActive {principal : Principal} {versionId : Uuid} {version : PolicyVersion}
      (found : db.policies.versions.find? versionId = some version)
      (active : version.status = .active) :
      PolicyStep platform db (.activatePolicyVersion principal versionId) db
  | activated {principal : Principal} {versionId : Uuid} {version : PolicyVersion}
      {siblings : List Uuid} {after : PolicyDatabase}
      (found : db.policies.versions.find? versionId = some version) (draft : version.status = .draft)
      (someRule : db.policies.rulesOf versionId ≠ [])
      (separate : ∀ left ∈ db.policies.rulesOf versionId,
        ∀ right ∈ db.policies.rulesOf versionId, left ≠ right →
          Separate platform.toPlatform left right)
      (unopposed : ∀ rule ∈ db.policies.rulesOf versionId,
        ∀ other ∈ db.policies.otherActiveRules version.policyId,
          Separate platform.toPlatform rule other)
      (exact : ∀ other ∈ db.policies.versions.rows, other.id ∈ siblings ↔
        other.policyId = version.policyId ∧ other.status = .active ∧ other.id ≠ versionId)
      (activates : db.Activates after version siblings) :
      PolicyStep platform db (.activatePolicyVersion principal versionId) after

def PolicyRequest.locks : PolicyRequest → List PolicyLock
  | .createPolicy _ _ _ _ _ => []
  | .clonePolicyVersion _ policyId _ _ => [.policy policyId]
  | .patchPolicyVersion _ versionId _ _ => [.version versionId]
  | .activatePolicyVersion _ versionId => [.tenant,.version versionId]

def LockedVersions (held : List PolicyLock) (db after : PolicyDatabase) : Prop :=
  ∀ versionId version, db.policies.versions.find? versionId = some version →
    .version versionId ∉ held → after.policies.versions.find? versionId = some version

def CommitsPolicy (platform : PolicyPlatform) (request : PolicyRequest) (held : List PolicyLock)
    (db after : PolicyDatabase) : Attempt PolicyResponse → Prop
  | .error _ => after = db
  | .ok _ => PolicyStep platform db request after ∧ (∀ lock ∈ request.locks, lock ∈ held) ∧
      LockedVersions held db after

def AnyPolicies (_ : PolicyDatabase) : Prop := True

theorem keepsAnyPolicies (platform : PolicyPlatform) (request : PolicyRequest)
    (held : List PolicyLock) (db after : PolicyDatabase) (outcome : Attempt PolicyResponse)
    (_ : AnyPolicies db) (_ : CommitsPolicy platform request held db after outcome) :
    AnyPolicies after := trivial

def policyDiscipline (platform : PolicyPlatform) :
    Discipline PolicyDatabase PolicyLock (Attempt PolicyResponse) PolicyRequest where
  Sound := AnyPolicies
  Commits := CommitsPolicy platform
  keeps := keepsAnyPolicies platform

section Interference

theorem newRules_versionId {versionId : Uuid} {ruleId : ℕ → Uuid}
    {requests : List PolicyRuleWrite} {rule : PolicyRule}
    (member : rule ∈ newRules versionId ruleId requests) : rule.versionId = versionId := by
  obtain ⟨index,bound,rfl⟩ := List.mem_mapIdx.mp member
  rfl

theorem copyRules_versionId {versionId : Uuid} {ruleId : ℕ → Uuid} {rules : List PolicyRule}
    {rule : PolicyRule} (member : rule ∈ copyRules versionId ruleId rules) :
    rule.versionId = versionId := by
  obtain ⟨index,bound,rfl⟩ := List.mem_mapIdx.mp member
  rfl

namespace PolicyDatabase

variable {db after : PolicyDatabase} {version : PolicyVersion} {rules : List PolicyRule}

/-- A new version leaves the rules of the others alone. -/
theorem Adds.rulesOf (adds : db.Adds after version rules)
    (owned : ∀ rule ∈ rules, rule.versionId = version.id) {versionId : Uuid}
    (apart : version.id ≠ versionId) :
    after.policies.rulesOf versionId = db.policies.rulesOf versionId := by
  have none : (rules.filter fun rule => rule.versionId = versionId) = [] := by
    rw [List.filter_eq_nil_iff]
    intro rule member chosen
    exact apart ((owned rule member).symm.trans (of_decide_eq_true chosen))
  simp only [Policies.rulesOf,Table.select,adds.rules,List.filter_append,none,List.append_nil]

/-- Of a draft, no rule is active. -/
theorem Adds.active (adds : db.Adds after version rules) (draft : version.status = .draft)
    (owned : ∀ rule ∈ rules, rule.versionId = version.id) {rule : PolicyRule}
    {found : PolicyVersion} (member : rule ∈ after.policies.rules.rows)
    (stored : after.policies.versions.find? rule.versionId = some found)
    (active : found.status = .active) :
    rule ∈ db.policies.rules.rows ∧ db.policies.versions.find? rule.versionId = some found := by
  rw [adds.find?] at stored
  split at stored
  · cases stored
    rw [draft] at active
    cases active
  · rename_i apart
    rw [adds.rules] at member
    rcases List.mem_append.mp member with old | new
    · exact ⟨old,stored⟩
    · exact absurd (owned rule new).symm apart

theorem Adds.activeVersion (adds : db.Adds after version rules) (draft : version.status = .draft)
    {found : PolicyVersion} (active : found.status = .active) {versionId : Uuid} :
    after.policies.versions.find? versionId = some found ↔
      db.policies.versions.find? versionId = some found := by
  rw [adds.find?]
  split
  · rename_i same
    constructor
    · intro new
      cases new
      rw [draft] at active
      cases active
    · intro old
      rw [← same,adds.fresh] at old
      cases old
  · rfl

theorem Adds.versionsOf (adds : db.Adds after version rules) {policyId : Uuid}
    (apart : version.policyId ≠ policyId) :
    after.policies.versionsOf policyId = db.policies.versionsOf policyId := by
  simp [Policies.versionsOf,Table.select,adds.versions,apart]

theorem Replaces.rulesOf {versionId other : Uuid} (replaces : db.Replaces after versionId rules)
    (owned : ∀ rule ∈ rules, rule.versionId = versionId) (apart : versionId ≠ other) :
    after.policies.rulesOf other = db.policies.rulesOf other := by
  simp only [Policies.rulesOf,Table.select,replaces.rules,List.filter_append,List.filter_filter]
  have none : (rules.filter fun rule => rule.versionId = other) = [] := by
    rw [List.filter_eq_nil_iff]
    intro rule member chosen
    exact apart ((owned rule member).symm.trans (of_decide_eq_true chosen))
  rw [none,List.append_nil]
  apply List.filter_congr
  intro rule _
  by_cases chosen : rule.versionId = other
  · simp [chosen,Ne.symm apart]
  · simp [chosen]

/-- The activation changes no version number. -/
theorem Activates.numbers {siblings : List Uuid} (activates : db.Activates after version siblings)
    (policyId : Uuid) :
    (after.policies.versionsOf policyId).map PolicyVersion.versionNumber =
      (db.policies.versionsOf policyId).map PolicyVersion.versionNumber := by
  simp only [Policies.versionsOf,Table.select,activates.rows,List.filter_map,List.map_map]
  have kept : ∀ found : PolicyVersion,
      (if found.id = version.id then { found with status := .active }
        else if found.id ∈ siblings then { found with status := .retired }
        else found).policyId = found.policyId ∧
      (if found.id = version.id then { found with status := .active }
        else if found.id ∈ siblings then { found with status := .retired }
        else found).versionNumber = found.versionNumber := by
    intro found
    split
    · exact ⟨rfl,rfl⟩
    · split <;> exact ⟨rfl,rfl⟩
  simp only [Function.comp_def,kept]

end PolicyDatabase

variable {platform : PolicyPlatform} {db after : PolicyDatabase} {request : PolicyRequest}

/-- A commit without the version's lock leaves its rules alone. -/
theorem PolicyStep.rulesOf (step : PolicyStep platform db request after) {versionId : Uuid}
    (apart : .version versionId ∉ request.locks) {version : PolicyVersion}
    (stored : db.policies.versions.find? versionId = some version) :
    after.policies.rulesOf versionId = db.policies.rulesOf versionId := by
  have added : ∀ {new : PolicyVersion} {rules : List PolicyRule}, db.Adds after new rules →
      (∀ rule ∈ rules, rule.versionId = new.id) →
      after.policies.rulesOf versionId = db.policies.rulesOf versionId := by
    intro new rules adds owned
    apply adds.rulesOf owned
    rintro rfl
    rw [adds.fresh] at stored
    cases stored
  cases step with
  | created absent separate adds => exact added adds fun _ => newRules_versionId
  | cloned adds => exact added adds fun _ => copyRules_versionId
  | patched found draft separate replaces =>
      apply replaces.rulesOf fun _ => newRules_versionId
      rintro rfl
      simp [PolicyRequest.locks] at apart
  | alreadyActive found active => rfl
  | activated found draft someRule separate unopposed exact activates =>
      rw [Policies.rulesOf,activates.rules,Policies.rulesOf]

/-- A commit without the policy's lock gives the policy no new number. -/
theorem PolicyStep.latestNumber (step : PolicyStep platform db request after) {policyId : Uuid}
    (apart : .policy policyId ∉ request.locks)
    (defined : (db.definitions.find? policyId).isSome) :
    (after.definitions.find? policyId).isSome ∧
      after.policies.latestNumber policyId = db.policies.latestNumber policyId := by
  cases step with
  | created absent separate adds =>
      refine ⟨adds.definitions policyId defined,?_⟩
      rw [Policies.latestNumber,adds.versionsOf,Policies.latestNumber]
      rintro rfl
      rw [absent] at defined
      cases defined
  | cloned adds =>
      refine ⟨adds.definitions policyId defined,?_⟩
      rw [Policies.latestNumber,adds.versionsOf,Policies.latestNumber]
      rintro rfl
      simp [PolicyRequest.locks] at apart
  | patched found draft separate replaces =>
      rw [replaces.definitions]
      refine ⟨defined,?_⟩
      rw [Policies.latestNumber,Policies.versionsOf,replaces.versions]
      rfl
  | alreadyActive found active => exact ⟨defined,rfl⟩
  | activated found draft someRule separate unopposed exact activates =>
      rw [activates.definitions]
      refine ⟨defined,?_⟩
      rw [Policies.latestNumber,activates.numbers,Policies.latestNumber]

/-- A commit without the tenant's lock makes no rule active. -/
theorem PolicyStep.activeRule (step : PolicyStep platform db request after)
    (apart : .tenant ∉ request.locks) {rule : PolicyRule} {version : PolicyVersion}
    (member : rule ∈ after.policies.rules.rows)
    (stored : after.policies.versions.find? rule.versionId = some version)
    (active : version.status = .active) :
    rule ∈ db.policies.rules.rows ∧ db.policies.versions.find? rule.versionId = some version := by
  cases step with
  | created absent separate adds =>
      exact adds.active rfl (fun _ => newRules_versionId) member stored active
  | cloned adds => exact adds.active rfl (fun _ => copyRules_versionId) member stored active
  | @patched _ versionId _ _ draftVersion _ found draft separate replaces =>
      rw [replaces.versions] at stored
      rw [replaces.rules] at member
      rcases List.mem_append.mp member with old | new
      · exact ⟨(List.mem_filter.mp old).1,stored⟩
      · rw [newRules_versionId new,found] at stored
        cases stored
        rw [draft] at active
        cases active
  | alreadyActive found active => exact ⟨member,stored⟩
  | activated found draft someRule separate unopposed exact activates =>
      simp [PolicyRequest.locks] at apart

/-- A commit without the tenant's lock neither activates nor retires. -/
theorem PolicyStep.activeVersion (step : PolicyStep platform db request after)
    (apart : .tenant ∉ request.locks) {version : PolicyVersion} (active : version.status = .active)
    {versionId : Uuid} :
    after.policies.versions.find? versionId = some version ↔
      db.policies.versions.find? versionId = some version := by
  cases step with
  | created absent separate adds => exact adds.activeVersion rfl active
  | cloned adds => exact adds.activeVersion rfl active
  | patched found draft separate replaces => rw [replaces.versions]
  | alreadyActive found active => rfl
  | activated found draft someRule separate unopposed exact activates =>
      simp [PolicyRequest.locks] at apart

variable {held : List PolicyLock}

/-- What a commit of others is: no change, or a step under none of the held locks. -/
theorem policy_interferes_cases (interferes : (policyDiscipline platform).Interferes held db after) :
    after = db ∨ ∃ request, PolicyStep platform db request after ∧
      (∀ lock ∈ held, lock ∉ request.locks) ∧
      ∀ versionId version, .version versionId ∈ held →
        db.policies.versions.find? versionId = some version →
          after.policies.versions.find? versionId = some version := by
  obtain ⟨-,request,others,outcome,apart,commits⟩ := interferes
  cases outcome with
  | error failure => exact .inl commits
  | ok response =>
      obtain ⟨step,locked,versions⟩ := commits
      exact .inr ⟨request,step,fun lock mine theirs => apart lock (locked lock theirs) mine,
        fun versionId version mine found =>
          versions versionId version found fun theirs => apart _ theirs mine⟩

/-- A locked version keeps its row and its rules. -/
theorem rely_version (rely : (policyDiscipline platform).Rely held db after) {versionId : Uuid}
    (locked : .version versionId ∈ held) {version : PolicyVersion}
    (found : db.policies.versions.find? versionId = some version) :
    after.policies.versions.find? versionId = some version ∧
      after.policies.rulesOf versionId = db.policies.rulesOf versionId := by
  have step : ∀ before next, (policyDiscipline platform).Interferes held before next →
      before.policies.versions.find? versionId = some version ∧
        before.policies.rulesOf versionId = db.policies.rulesOf versionId →
      next.policies.versions.find? versionId = some version ∧
        next.policies.rulesOf versionId = db.policies.rulesOf versionId := by
    rintro before next interferes ⟨stored,rules⟩
    rcases policy_interferes_cases interferes with rfl | ⟨request,step,apart,versions⟩
    · exact ⟨stored,rules⟩
    · exact ⟨versions versionId version locked stored,
        (step.rulesOf (apart _ locked) stored).trans rules⟩
  exact rely.stable step ⟨found,rfl⟩

/-- A locked policy gets no new version. -/
theorem rely_latestNumber (rely : (policyDiscipline platform).Rely held db after) {policyId : Uuid}
    (locked : .policy policyId ∈ held) (defined : (db.definitions.find? policyId).isSome) :
    (after.definitions.find? policyId).isSome ∧
      after.policies.latestNumber policyId = db.policies.latestNumber policyId := by
  have step : ∀ before next, (policyDiscipline platform).Interferes held before next →
      (before.definitions.find? policyId).isSome ∧
        before.policies.latestNumber policyId = db.policies.latestNumber policyId →
      (next.definitions.find? policyId).isSome ∧
        next.policies.latestNumber policyId = db.policies.latestNumber policyId := by
    rintro before next interferes ⟨present,number⟩
    rcases policy_interferes_cases interferes with rfl | ⟨request,step,apart,-⟩
    · exact ⟨present,number⟩
    · obtain ⟨still,same⟩ := step.latestNumber (apart _ locked) present
      exact ⟨still,same.trans number⟩
  exact rely.stable step ⟨defined,rfl⟩

/-- Under the tenant's lock the active versions stay. -/
theorem rely_activeVersion (rely : (policyDiscipline platform).Rely held db after)
    (locked : .tenant ∈ held) {version : PolicyVersion} (active : version.status = .active)
    {versionId : Uuid} :
    after.policies.versions.find? versionId = some version ↔
      db.policies.versions.find? versionId = some version := by
  have same := rely.same (fun later : PolicyDatabase =>
    later.policies.versions.find? versionId = some version) (by
      intro before next interferes
      rcases policy_interferes_cases interferes with rfl | ⟨request,step,apart,-⟩
      · rfl
      · exact propext (step.activeVersion (apart _ locked) active))
  exact Iff.of_eq same

/-- Under the tenant's lock no rule becomes active. -/
theorem rely_activeRule (rely : (policyDiscipline platform).Rely held db after)
    (locked : .tenant ∈ held) {rule : PolicyRule} {version : PolicyVersion}
    (active : version.status = .active) (member : rule ∈ after.policies.rules.rows)
    (stored : after.policies.versions.find? rule.versionId = some version) :
    rule ∈ db.policies.rules.rows ∧ db.policies.versions.find? rule.versionId = some version := by
  induction rely with
  | refl => exact ⟨member,stored⟩
  | tail _ interferes ih =>
      rcases policy_interferes_cases interferes with rfl | ⟨request,step,apart,-⟩
      · exact ih member stored
      · obtain ⟨old,found⟩ := step.activeRule (apart _ locked) member stored active
        exact ih old found

end Interference

theorem policy_refuses (platform : PolicyPlatform) : Refuses (policyDiscipline platform) :=
  fun _ _ _ _ => rfl

end Abacus

import Abacus.Model.Sample
import Abacus.Policies.Sessions

/-! The life of a policy version.
A new version takes a number above all earlier ones of its policy, an activation retires the
active sibling in the same commit, and only a draft has its rules replaced.
-/
set_option autoImplicit false

namespace Abacus

open Relational Transition Transaction

abbrev PolicySystem := System PolicyDatabase PolicyLock (Attempt PolicyResponse) PolicyRequest

abbrev PolicyMachine := Machine PolicySystem (Event PolicyRequest)

def PolicyVersionStatus.Moves (before after : PolicyVersionStatus) : Prop :=
  after = before ∨ (before = .draft ∧ after = .active) ∨ (before = .active ∧ after = .retired)

namespace PolicyDatabase

def AtMostOneActive (db : PolicyDatabase) : Prop :=
  ∀ first ∈ db.policies.versions.rows, ∀ second ∈ db.policies.versions.rows,
    first.policyId = second.policyId → first.status = .active → second.status = .active →
      first = second

def DistinctNumbers (db : PolicyDatabase) : Prop :=
  ∀ first ∈ db.policies.versions.rows, ∀ second ∈ db.policies.versions.rows,
    first.policyId = second.policyId → first.versionNumber = second.versionNumber → first = second

def DefinedPolicies (db : PolicyDatabase) : Prop :=
  ∀ version ∈ db.policies.versions.rows, (db.definitions.find? version.policyId).isSome

/-- What the constraints of the version table keep. -/
structure Regular (db : PolicyDatabase) : Prop where
  single : db.AtMostOneActive
  distinct : db.DistinctNumbers
  defined : db.DefinedPolicies

structure NoPolicies (db : PolicyDatabase) : Prop where
  definitions : db.definitions = Table.empty
  versions : db.policies.versions = Table.empty
  rules : db.policies.rules = Table.empty

/-- How the versions of one database go on in a later one, where `moves` relates their statuses. -/
structure Succeeds (moves : PolicyVersionStatus → PolicyVersionStatus → Prop)
    (db after : PolicyDatabase) : Prop where
  stays : ∀ versionId version, db.policies.versions.find? versionId = some version →
    ∃ later, after.policies.versions.find? versionId = some later ∧
      later.policyId = version.policyId ∧ later.versionNumber = version.versionNumber ∧
        moves version.status later.status
  frozen : ∀ versionId version, db.policies.versions.find? versionId = some version →
    version.status ≠ .draft → after.policies.rulesOf versionId = db.policies.rulesOf versionId
  newer : ∀ new ∈ after.policies.versions.rows, db.policies.versions.find? new.id = none →
    ∀ old ∈ db.policies.versions.rows, old.policyId = new.policyId →
      old.versionNumber < new.versionNumber

theorem NoPolicies.regular {db : PolicyDatabase} (none : db.NoPolicies) : db.Regular := by
  have nothing : db.policies.versions.rows = [] := by rw [none.versions]; rfl
  constructor
  · intro first member
    rw [nothing] at member
    cases member
  · intro first member
    rw [nothing] at member
    cases member
  · intro version member
    rw [nothing] at member
    cases member

section Successions

variable {moves : PolicyVersionStatus → PolicyVersionStatus → Prop} {db middle after : PolicyDatabase}

/-- A database whose version table stays, and of whose versions only drafts change their rules. -/
theorem Succeeds.of_versions (refl : ∀ status, moves status status)
    (versions : after.policies.versions = db.policies.versions)
    (frozen : ∀ versionId version, db.policies.versions.find? versionId = some version →
      version.status ≠ .draft → after.policies.rulesOf versionId = db.policies.rulesOf versionId) :
    db.Succeeds moves after := by
  refine ⟨?_,frozen,?_⟩
  · intro versionId version found
    exact ⟨version,by rw [versions]; exact found,rfl,rfl,refl version.status⟩
  · intro new member absent
    rw [versions] at member
    rw [Table.find?_of_mem member] at absent
    cases absent

theorem Succeeds.mono {wider : PolicyVersionStatus → PolicyVersionStatus → Prop}
    (succeeds : db.Succeeds moves after) (more : ∀ first second, moves first second →
      wider first second) : db.Succeeds wider after := by
  refine ⟨?_,succeeds.frozen,succeeds.newer⟩
  intro versionId version found
  obtain ⟨later,stored,policy,number,moved⟩ := succeeds.stays versionId version found
  exact ⟨later,stored,policy,number,more _ _ moved⟩

/-- A status that has left the draft never comes back to it, so its rules stay frozen. -/
theorem Succeeds.trans (chain : ∀ first second third, moves first second → moves second third →
      moves first third)
    (leaves : ∀ first second, moves first second → first ≠ .draft → second ≠ .draft)
    (early : db.Succeeds moves middle) (late : middle.Succeeds moves after) :
    db.Succeeds moves after := by
  constructor
  · intro versionId version found
    obtain ⟨between,stored,policy,number,moved⟩ := early.stays versionId version found
    obtain ⟨later,reached,laterPolicy,laterNumber,onward⟩ := late.stays versionId between stored
    exact ⟨later,reached,laterPolicy.trans policy,laterNumber.trans number,
      chain _ _ _ moved onward⟩
  · intro versionId version found begun
    obtain ⟨between,stored,-,-,moved⟩ := early.stays versionId version found
    have still : between.status ≠ .draft := leaves _ _ moved begun
    exact (late.frozen versionId between stored still).trans
      (early.frozen versionId version found begun)
  · intro new member absent old stored policy
    obtain ⟨kept,keptFound,keptPolicy,keptNumber,-⟩ :=
      early.stays old.id old (Table.find?_of_mem stored)
    cases present : middle.policies.versions.find? new.id with
    | none =>
        rw [← keptNumber]
        exact late.newer new member present kept (Table.mem_of_find? keptFound)
          (keptPolicy.trans policy)
    | some between =>
        obtain ⟨later,reached,laterPolicy,laterNumber,-⟩ := late.stays new.id between present
        rw [Table.find?_of_mem member] at reached
        cases reached
        rw [laterNumber]
        have keyed : between.id = new.id := Table.key_of_find? present
        apply early.newer between (Table.mem_of_find? present)
        · rw [keyed]
          exact absent
        · exact stored
        · exact policy.trans laterPolicy

end Successions

section Adding

variable {db after : PolicyDatabase} {version : PolicyVersion} {rules : List PolicyRule}

theorem Adds.mem (adds : db.Adds after version rules) {other : PolicyVersion} :
    other ∈ after.policies.versions.rows ↔ other ∈ db.policies.versions.rows ∨ other = version := by
  rw [adds.versions,List.mem_append,List.mem_singleton]

theorem Adds.regular (adds : db.Adds after version rules) (draft : version.status = .draft)
    (regular : db.Regular) : after.Regular := by
  constructor
  · intro first firstMember second secondMember policy firstActive secondActive
    rcases adds.mem.mp firstMember with firstOld | rfl
    · rcases adds.mem.mp secondMember with secondOld | rfl
      · exact regular.single first firstOld second secondOld policy firstActive secondActive
      · rw [draft] at secondActive
        cases secondActive
    · rw [draft] at firstActive
      cases firstActive
  · intro first firstMember second secondMember policy number
    rcases adds.mem.mp firstMember with firstOld | rfl
    · rcases adds.mem.mp secondMember with secondOld | rfl
      · exact regular.distinct first firstOld second secondOld policy number
      · exact absurd number (adds.unnumbered first firstOld policy)
    · rcases adds.mem.mp secondMember with secondOld | rfl
      · exact absurd number.symm (adds.unnumbered second secondOld policy.symm)
      · rfl
  · intro other member
    rcases adds.mem.mp member with old | rfl
    · exact adds.definitions other.policyId (regular.defined other old)
    · exact adds.defined

theorem Adds.succeeds (adds : db.Adds after version rules)
    (owned : ∀ rule ∈ rules, rule.versionId = version.id)
    (above : ∀ old ∈ db.policies.versions.rows, old.policyId = version.policyId →
      old.versionNumber < version.versionNumber) :
    db.Succeeds PolicyVersionStatus.Moves after := by
  constructor
  · exact fun versionId found stored =>
      ⟨found,adds.find?_of_some stored,rfl,rfl,.inl rfl⟩
  · intro versionId found stored _
    apply adds.rulesOf owned
    rintro rfl
    rw [adds.fresh] at stored
    cases stored
  · intro new member absent old stored policy
    rcases adds.mem.mp member with known | rfl
    · rw [Table.find?_of_mem known] at absent
      cases absent
    · exact above old stored policy

end Adding

/-- No version of the policy has a number above the latest one. -/
theorem le_latestNumber {policies : Policies} {version : PolicyVersion}
    (member : version ∈ policies.versions.rows) :
    version.versionNumber ≤ policies.latestNumber version.policyId := by
  have bound : ∀ numbers : List ℕ, ∀ number ∈ numbers, number ≤ numbers.foldr max 0 := by
    intro numbers
    induction numbers with
    | nil => simp
    | cons first others ih =>
        intro number listed
        rcases List.mem_cons.mp listed with rfl | later
        · exact le_max_left ..
        · exact (ih number later).trans (le_max_right ..)
  apply bound
  apply List.mem_map_of_mem
  exact Table.mem_select.mpr ⟨member,decide_eq_true rfl⟩

section Activating

variable {db after : PolicyDatabase} {version : PolicyVersion} {siblings : List Uuid}

/-- Where a version of the activated database comes from. -/
theorem Activates.before (activates : db.Activates after version siblings) {other : PolicyVersion}
    (member : other ∈ after.policies.versions.rows) :
    ∃ old ∈ db.policies.versions.rows, old.id = other.id ∧ old.policyId = other.policyId ∧
      old.versionNumber = other.versionNumber ∧
        (other.status = .active → other.id ≠ version.id → old = other) := by
  rw [activates.rows] at member
  obtain ⟨old,stored,rfl⟩ := List.mem_map.mp member
  refine ⟨old,stored,?_⟩
  by_cases chosen : old.id = version.id
  · rw [if_pos chosen]
    exact ⟨rfl,rfl,rfl,fun _ apart => absurd chosen apart⟩
  · rw [if_neg chosen]
    by_cases retiring : old.id ∈ siblings
    · rw [if_pos retiring]
      refine ⟨rfl,rfl,rfl,?_⟩
      intro active
      cases active
    · rw [if_neg retiring]
      exact ⟨rfl,rfl,rfl,fun _ _ => rfl⟩

theorem Activates.regular (activates : db.Activates after version siblings)
    (found : db.policies.versions.find? version.id = some version) (regular : db.Regular) :
    after.Regular := by
  constructor
  · intro first firstMember second secondMember policy firstActive secondActive
    by_cases activated : first.policyId = version.policyId
    · have firstId := activates.alone first firstMember activated firstActive
      have secondId := activates.alone second secondMember (policy.symm.trans activated)
        secondActive
      exact after.policies.versions.eq_of_key firstMember secondMember
        (firstId.trans secondId.symm)
    · obtain ⟨old,stored,sameId,samePolicy,-,same⟩ := activates.before firstMember
      obtain ⟨other,otherStored,otherId,otherPolicy,-,otherSame⟩ := activates.before secondMember
      have elsewhere : ∀ row ∈ db.policies.versions.rows, row.policyId = first.policyId →
          row.id ≠ version.id := by
        intro row place owned keyed
        have only := db.policies.versions.eq_of_key place (Table.mem_of_find? found) keyed
        rw [only] at owned
        exact activated owned.symm
      have firstSame : old = first :=
        same firstActive (sameId ▸ elsewhere old stored samePolicy)
      have secondSame : other = second :=
        otherSame secondActive (otherId ▸ elsewhere other otherStored
          (otherPolicy.trans policy.symm))
      subst firstSame
      subst secondSame
      exact regular.single old stored other otherStored policy firstActive secondActive
  · intro first firstMember second secondMember policy number
    obtain ⟨old,stored,sameId,samePolicy,sameNumber,-⟩ := activates.before firstMember
    obtain ⟨other,otherStored,otherId,otherPolicy,otherNumber,-⟩ := activates.before secondMember
    have same : old = other := regular.distinct old stored other otherStored
      ((samePolicy.trans policy).trans otherPolicy.symm)
      ((sameNumber.trans number).trans otherNumber.symm)
    apply after.policies.versions.eq_of_key firstMember secondMember
    rw [← sameId,← otherId,same]
  · intro other member
    obtain ⟨old,stored,-,samePolicy,-,-⟩ := activates.before member
    rw [activates.definitions,← samePolicy]
    exact regular.defined old stored

theorem Activates.succeeds (activates : db.Activates after version siblings)
    (found : db.policies.versions.find? version.id = some version)
    (draft : version.status = .draft)
    (active : ∀ other ∈ db.policies.versions.rows, other.id ∈ siblings → other.status = .active) :
    db.Succeeds PolicyVersionStatus.Moves after := by
  constructor
  · intro versionId old stored
    rw [activates.versions,stored,Option.map_some]
    refine ⟨_,rfl,?_⟩
    by_cases chosen : versionId = version.id
    · subst chosen
      rw [found] at stored
      cases stored
      rw [if_pos rfl]
      exact ⟨rfl,rfl,.inr (.inl ⟨draft,rfl⟩)⟩
    · rw [if_neg chosen]
      by_cases retiring : versionId ∈ siblings
      · have keyed : old.id = versionId := Table.key_of_find? stored
        rw [if_pos retiring]
        exact ⟨rfl,rfl,.inr (.inr ⟨active old (Table.mem_of_find? stored) (keyed ▸ retiring),rfl⟩)⟩
      · rw [if_neg retiring]
        exact ⟨rfl,rfl,.inl rfl⟩
  · intro versionId old _ _
    rw [Policies.rulesOf,activates.rules,Policies.rulesOf]
  · intro new member absent
    obtain ⟨old,stored,sameId,-⟩ := activates.before member
    rw [← sameId,Table.find?_of_mem stored] at absent
    cases absent

end Activating

end PolicyDatabase

section Steps

variable {platform : PolicyPlatform} {db after : PolicyDatabase} {request : PolicyRequest}

theorem PolicyStep.regular (step : PolicyStep platform db request after) (regular : db.Regular) :
    after.Regular := by
  cases step with
  | created absent separate adds => exact adds.regular rfl regular
  | cloned adds => exact adds.regular rfl regular
  | patched found draft separate replaces =>
      obtain ⟨single,distinct,defined⟩ := regular
      constructor
      · rw [PolicyDatabase.AtMostOneActive,replaces.versions]
        exact single
      · rw [PolicyDatabase.DistinctNumbers,replaces.versions]
        exact distinct
      · rw [PolicyDatabase.DefinedPolicies,replaces.versions,replaces.definitions]
        exact defined
  | alreadyActive found active => exact regular
  | activated found draft someRule separate unopposed exact activates =>
      have keyed := Table.key_of_find? found
      subst keyed
      exact activates.regular found regular

/-- One commit: which statuses move, whose rules stay and what number a new version has. -/
theorem PolicyStep.succeeds (step : PolicyStep platform db request after) (regular : db.Regular) :
    db.Succeeds PolicyVersionStatus.Moves after := by
  cases step with
  | created absent separate adds =>
      apply adds.succeeds fun _ => newRules_versionId
      intro old stored policy
      have defined := regular.defined old stored
      rw [policy,absent] at defined
      cases defined
  | cloned adds =>
      apply adds.succeeds fun _ => copyRules_versionId
      intro old stored policy
      have below := PolicyDatabase.le_latestNumber stored
      rw [policy] at below
      exact Nat.lt_succ_of_le below
  | @patched _ versionId _ _ version _ found draft separate replaces =>
      apply PolicyDatabase.Succeeds.of_versions (fun _ => .inl rfl) replaces.versions
      intro other kept stored begun
      apply replaces.rulesOf fun _ => newRules_versionId
      rintro rfl
      rw [found] at stored
      cases stored
      exact begun draft
  | alreadyActive found active =>
      exact PolicyDatabase.Succeeds.of_versions (fun _ => .inl rfl) rfl fun _ _ _ _ => rfl
  | activated found draft someRule separate unopposed exact activates =>
      have keyed := Table.key_of_find? found
      subst keyed
      exact activates.succeeds found draft fun other stored sibling =>
        ((exact other stored).mp sibling).2.1

theorem CommitsPolicy.step {held : List PolicyLock} {outcome : Attempt PolicyResponse}
    (commits : CommitsPolicy platform request held db after outcome) :
    after = db ∨ PolicyStep platform db request after := by
  cases outcome with
  | error failure => exact .inl commits
  | ok response => exact .inr commits.1

end Steps

section Runs

def policyMachine (platform : PolicyPlatform) : PolicyMachine :=
  machine (policyService platform) PolicyDatabase.NoPolicies

variable {platform : PolicyPlatform} {system before middle after : PolicySystem}
  {event : Event PolicyRequest} {events : List (Event PolicyRequest)}

theorem policyMachine_step (reachable : (policyMachine platform).Reachable before)
    (taken : (policyMachine platform).next before event = some after) :
    after.committed = before.committed ∨
      ∃ request, PolicyStep platform before.committed request after.committed := by
  rcases (policy_verifies platform).commits (fun _ _ => trivial) reachable taken with
    same | ⟨request,_,_,commits⟩
  · exact .inl same
  · exact commits.step.imp_right fun step => ⟨request,step⟩

theorem policies_regular (reachable : (policyMachine platform).Reachable system) :
    system.committed.Regular := by
  apply reachable.induct
  · rintro start ⟨none,-⟩
    exact none.regular
  · intro earlier event later reached regular taken
    rcases policyMachine_step reached taken with same | ⟨request,step⟩
    · rw [same]
      exact regular
    · exact step.regular regular

theorem policyMachine_succeeds (reachable : (policyMachine platform).Reachable before)
    (taken : (policyMachine platform).next before event = some after) :
    before.committed.Succeeds PolicyVersionStatus.Moves after.committed := by
  rcases policyMachine_step reachable taken with same | ⟨request,step⟩
  · rw [same]
    exact PolicyDatabase.Succeeds.of_versions (fun _ => .inl rfl) rfl fun _ _ _ _ => rfl
  · exact step.succeeds (policies_regular reachable)

abbrev PolicyVersionStatus.Becomes : PolicyVersionStatus → PolicyVersionStatus → Prop :=
  Relation.ReflTransGen PolicyVersionStatus.Moves

theorem PolicyVersionStatus.Becomes.leaves {first second : PolicyVersionStatus}
    (becomes : first.Becomes second) (begun : first ≠ .draft) : second ≠ .draft := by
  induction becomes with
  | refl => exact begun
  | tail _ moves ih =>
      rcases moves with rfl | ⟨-,rfl⟩ | ⟨-,rfl⟩
      · exact ih
      · simp
      · simp

theorem policies_succeed (reachable : (policyMachine platform).Reachable before)
    (reached : (policyMachine platform).run before events = some after) :
    before.committed.Succeeds PolicyVersionStatus.Becomes after.committed := by
  have step : ∀ state event next, (policyMachine platform).Reachable state →
      (policyMachine platform).next state event = some next →
      state.committed.Succeeds PolicyVersionStatus.Becomes next.committed :=
    fun state event next reached taken =>
      (policyMachine_succeeds reached taken).mono fun _ _ => Relation.ReflTransGen.single
  apply reachable.run_relation (fun first second : PolicySystem =>
    first.committed.Succeeds PolicyVersionStatus.Becomes second.committed) _ _ step reached
  · exact fun state => PolicyDatabase.Succeeds.of_versions (fun _ => .refl) rfl fun _ _ _ _ => rfl
  · exact fun _ _ _ => PolicyDatabase.Succeeds.trans (fun _ _ _ => .trans)
      fun _ _ becomes => becomes.leaves

/-- In every interleaving a status moves one step at a time and never back, a policy has at most one
active version, its version numbers grow, and the rules of a version that is no draft stay. -/
theorem policy_version_lifecycle (reachable : (policyMachine platform).Reachable before)
    (taken : (policyMachine platform).next before event = some middle)
    (reached : (policyMachine platform).run middle events = some after) :
    before.committed.AtMostOneActive ∧ before.committed.DistinctNumbers ∧
      before.committed.Succeeds PolicyVersionStatus.Moves middle.committed ∧
        middle.committed.Succeeds PolicyVersionStatus.Becomes after.committed :=
  ⟨(policies_regular reachable).single,(policies_regular reachable).distinct,
    policyMachine_succeeds reachable taken,policies_succeed (reachable.step taken) reached⟩

end Runs

namespace Sample

def policyPlatform : PolicyPlatform := { platform with upper := fun text => text }

theorem floor_range : (0 : ℤ) ≤ 2 ∧ (2 : ℤ) ≤ 5 := by decide

def PriorityInRange (priority : ℤ) : Prop := -1000000 ≤ priority ∧ priority ≤ 1000000

theorem lowPriority : PriorityInRange 0 := by simp [PriorityInRange]

theorem highPriority : PriorityInRange 1 := by simp [PriorityInRange]

theorem no_selector : (none : Option String).toList.length +
    (none : Option String).toList.length + (none : Option Uuid).toList.length ≤ 1 := by simp

theorem no_size (size : (none : Option String).isSome) : (none : Option Uuid).isSome := by cases size

theorem no_scope (scope : (none : Option Uuid).isSome) : (none : Option String).isSome ∨
    (none : Option String).isSome ∨ (none : Option Uuid).isSome := by cases scope

/-- The rule for every item of the tenant. -/
def defaultRule {priority : ℤ} (inRange : PriorityInRange priority) : PolicyRuleWrite where
  storeId := none
  category := none
  styleCode := none
  skuId := none
  size := none
  minFloorQty := 2
  targetFloorQty := 5
  priority := priority
  minimumNonnegative := floor_range.1
  targetAtLeastMinimum := floor_range.2
  priorityInRange := inRange
  oneSelector := no_selector
  sizeRequiresSku := no_size
  storeRequiresSelector := no_scope

theorem some_rule (rule : PolicyRuleWrite) : [rule] ≠ [] := List.cons_ne_nil rule []

theorem few_rules (rule : PolicyRuleWrite) : [rule].length ≤ 500 := by simp

def defaultPolicy (name : String) {priority : ℤ} (inRange : PriorityInRange priority) :
    PolicyCreate := ⟨name,none,[defaultRule inRange],some_rule _,few_rules _⟩

def defaultPatch {priority : ℤ} (inRange : PriorityInRange priority) : PolicyRulesPatch :=
  ⟨[defaultRule inRange],some_rule _,few_rules _⟩

def policyManager : Principal where
  userId := 1
  tenantId := 3
  roleScopes := [⟨.canonical .tenantAdmin,none⟩]

def policyTenant : PolicySystem := ⟨⟨registry,Table.empty,⟨Table.empty,Table.empty⟩⟩,Table.empty⟩

theorem policyTenant_initial : (policyMachine policyPlatform).initial policyTenant :=
  ⟨⟨rfl,rfl,rfl⟩,rfl⟩

/-- A policy is created and its first version published. -/
def publication : List (Event PolicyRequest) :=
  [.start 1 (.createPolicy policyManager (defaultPolicy "Floor" lowPriority) 100 101 (200 + ·)),.step 1,
    .start 2 (.activatePolicyVersion policyManager 101)] ++ List.replicate 8 (.step 2)

/-- A clone is up to be published: its activation holds the locks that a patch waits for. -/
def republication : List (Event PolicyRequest) :=
  publication ++ [.start 3 (.clonePolicyVersion policyManager 100 102 (300 + ·))] ++
    List.replicate 5 (.step 3) ++ [.start 4 (.activatePolicyVersion policyManager 102),
      .start 5 (.patchPolicyVersion policyManager 102 (defaultPatch highPriority) (400 + ·))] ++
    List.replicate 8 (.step 4)

def beforeRepublished : PolicySystem :=
  ((policyMachine policyPlatform).run policyTenant republication).getD policyTenant

def republished : PolicySystem :=
  ((policyMachine policyPlatform).run policyTenant (republication ++ [.step 4])).getD policyTenant

def afterPatch : PolicySystem :=
  ((policyMachine policyPlatform).run republished (List.replicate 3 (.step 5))).getD republished

theorem republication_runs :
    ((policyMachine policyPlatform).run policyTenant republication).isSome = true := by decide +kernel

theorem republished_runs : ((policyMachine policyPlatform).run policyTenant
    (republication ++ [.step 4])).isSome = true := by decide +kernel

theorem afterPatch_runs : ((policyMachine policyPlatform).run republished
    (List.replicate 3 (.step 5))).isSome = true := by decide +kernel

end Sample

theorem policy_version_lifecycle_sample :
    Sample.beforeRepublished.committed.AtMostOneActive ∧
      Sample.beforeRepublished.committed.DistinctNumbers ∧
      Sample.beforeRepublished.committed.Succeeds PolicyVersionStatus.Moves
        Sample.republished.committed ∧
      Sample.republished.committed.Succeeds PolicyVersionStatus.Becomes Sample.afterPatch.committed :=
  policy_version_lifecycle
    ⟨_,_,Sample.policyTenant_initial,Machine.run_getD Sample.republication_runs⟩
    (Machine.next_of_run (Machine.run_getD Sample.republication_runs)
      (Machine.run_getD Sample.republished_runs)) (Machine.run_getD Sample.afterPatch_runs)

example : Sample.afterPatch.committed.policies.versions.rows.map PolicyVersion.status =
    [.retired,.active] := by decide +kernel

end Abacus

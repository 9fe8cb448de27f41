import Abacus.Model.Listings
import Abacus.Policies.Selection
import Abacus.Policies.Unambiguous

/-! The listing of the policies agrees with looking each of them up, and what a reader gets of it
is enough to say which rule an evaluation selects in each of the reader's stores.
-/
set_option autoImplicit false

namespace Abacus

open Relational Transition Transaction

section Bundles

variable {db : PolicyDatabase} {principal : Principal} {policy : PolicyDefinition}
  {version : PolicyVersion} {versionStatus : Option PolicyVersionStatus}

theorem selectedVersion?_eq_some {policyId : Uuid}
    (selected : db.policies.selectedVersion? versionStatus policyId = some version) :
    version ∈ db.policies.versions.rows ∧ version.policyId = policyId ∧
      ∀ status, versionStatus = some status → version.status = status := by
  have member := List.mem_of_mem_head? selected
  rw [List.mem_insertionSort,List.mem_filter,Policies.versionsOf,Table.mem_select,
    decide_eq_true_eq] at member
  refine ⟨member.1.1,member.1.2,?_⟩
  rintro status rfl
  simpa using member.2

theorem bundle_of_mem (defined : policy ∈ db.definitions.rows)
    (stored : version ∈ db.policies.versions.rows) (own : version.policyId = policy.id) :
    db.bundle version.id = .ok ⟨policy,version,db.policies.bundleRules version.id⟩ := by
  rw [PolicyDatabase.bundle,Table.find?_of_mem stored]
  dsimp only
  rw [own,Table.find?_of_mem defined]

/-- The condition of the query is that there is something to show. -/
theorem visibleBundle_isSome :
    (visibleBundle ⟨policy,version,db.policies.bundleRules version.id⟩ principal).isSome =
      (principal.hasTenantPermission .policyRead ||
        db.policies.rules.rows.any fun rule =>
          rule.versionId = version.id ∧ principal.readsRule rule) := by
  by_cases wide : principal.hasTenantPermission .policyRead = true
  · simp [visibleBundle,wide]
  · have present : (db.policies.bundleRules version.id).filter principal.readsRule ≠ [] ↔
        ∃ rule ∈ db.policies.rules.rows, rule.versionId = version.id ∧
          principal.readsRule rule = true := by
      simp [mem_bundleRules,Policies.mem_rulesOf]
    rw [visibleBundle,if_neg wide,Bool.not_eq_true _ |>.mp wide,Bool.false_or,Bool.eq_iff_iff,
      List.any_eq_true]
    simp only [decide_eq_true_eq]
    rw [← present,← List.isEmpty_eq_false_iff]
    cases ((db.policies.bundleRules version.id).filter principal.readsRule).isEmpty <;> simp

theorem mem_visibleBundle {bundle visible : PolicyBundle}
    (shown : visibleBundle bundle principal = some visible) :
    visible.policy = bundle.policy ∧ visible.version = bundle.version ∧
      visible.rules.Sublist bundle.rules ∧ ∀ rule, rule ∈ visible.rules ↔ rule ∈ bundle.rules ∧
        (principal.hasTenantPermission .policyRead = true ∨ principal.readsRule rule = true) := by
  rw [visibleBundle] at shown
  split at shown
  · rename_i wide
    cases shown
    simp [wide]
  · rename_i narrow
    dsimp only at shown
    split at shown
    · cases shown
    · cases shown
      simp [narrow]

end Bundles

section Pages

theorem mapM_of_forall {α β : Type} {step : α → Attempt β} {value : α → β} {elements : List α}
    (each : ∀ element ∈ elements, step element = .ok (value element)) :
    elements.mapM step = .ok (elements.map value) :=
  mapM_eq_ok.mpr (List.forall₂_map_right_iff.mpr (List.forall₂_same.mpr each))

variable {db : PolicyDatabase} {principal : Principal} {versionStatus status : Option PolicyVersionStatus}
  {updatedAt : Uuid → Time} {limit offset : ℕ}

/-- The bundle that a row of the query stands for. -/
def PolicyDatabase.shownBundle (db : PolicyDatabase) (principal : Principal)
    (row : PolicyDefinition × PolicyVersion) : PolicyBundle :=
  (visibleBundle ⟨row.1,row.2,db.policies.bundleRules row.2.id⟩ principal).getD ⟨row.1,row.2,[]⟩

/-- What `get_policy_bundle` returns of the policies, in the order of the listing. -/
def PolicyDatabase.shownBundles (updatedAt : Uuid → Time) (db : PolicyDatabase)
    (principal : Principal) (versionStatus : Option PolicyVersionStatus) : List PolicyBundle :=
  (db.definitions.rows.filterMap fun policy =>
    (getPolicyBundle db principal policy.id versionStatus).toOption).insertionSort
      fun left right => laterPolicy updatedAt left.policy right.policy

theorem shownBundle_policy (row : PolicyDefinition × PolicyVersion) :
    (db.shownBundle principal row).policy = row.1 := by
  unfold PolicyDatabase.shownBundle
  cases shown : visibleBundle ⟨row.1,row.2,db.policies.bundleRules row.2.id⟩ principal with
  | none => rfl
  | some visible => exact (mem_visibleBundle shown).1

/-- A row of the query has its bundle, and something of it is visible. -/
theorem listedVersion_eq_some {policy : PolicyDefinition} {row : PolicyDefinition × PolicyVersion}
    (defined : policy ∈ db.definitions.rows)
    (listed : db.listedVersion principal status policy = some row) :
    row.1 = policy ∧ db.policies.selectedVersion? status policy.id = some row.2 ∧
      db.bundle row.2.id = .ok ⟨row.1,row.2,db.policies.bundleRules row.2.id⟩ ∧
      visibleBundle ⟨row.1,row.2,db.policies.bundleRules row.2.id⟩ principal =
        some (db.shownBundle principal row) := by
  obtain ⟨version,selected,chosen⟩ := Option.bind_eq_some_iff.mp listed
  obtain ⟨stored,own,-⟩ := selectedVersion?_eq_some selected
  split at chosen
  · rename_i condition
    cases chosen
    refine ⟨rfl,selected,bundle_of_mem defined stored own,?_⟩
    rw [← visibleBundle_isSome] at condition
    obtain ⟨visible,shown⟩ := Option.isSome_iff_exists.mp condition
    rw [PolicyDatabase.shownBundle,shown,Option.getD_some]
  · cases chosen

theorem getPolicyBundle_toOption {policy : PolicyDefinition}
    (authorized : authorizedPolicyVersionStatus principal versionStatus = .ok status)
    (defined : policy ∈ db.definitions.rows) :
    (getPolicyBundle db principal policy.id versionStatus).toOption =
      (db.listedVersion principal status policy).map (db.shownBundle principal) := by
  rw [getPolicyBundle,authorized,PolicyDatabase.listedVersion]
  simp only [bind,Except.bind]
  cases selected : db.policies.selectedVersion? status policy.id with
  | none => rfl
  | some version =>
      obtain ⟨stored,own,-⟩ := selectedVersion?_eq_some selected
      have loaded := bundle_of_mem defined stored own
      have condition : (visibleBundle ⟨policy,version,db.policies.bundleRules version.id⟩
        principal).isSome = _ := visibleBundle_isSome
      rw [Option.bind_some,← condition]
      simp only [loaded]
      cases shown : visibleBundle ⟨policy,version,db.policies.bundleRules version.id⟩ principal with
      | none => rfl
      | some visible =>
          simp only [Option.isSome_some,if_true,Option.map_some,PolicyDatabase.shownBundle,shown]
          rfl

def PolicyDatabase.listedVersions (updatedAt : Uuid → Time) (db : PolicyDatabase)
    (principal : Principal) (status : Option PolicyVersionStatus) :
    List (PolicyDefinition × PolicyVersion) :=
  (db.definitions.rows.filterMap (db.listedVersion principal status)).insertionSort
    fun left right => laterPolicy updatedAt left.1 right.1

theorem mem_listedVersions {row : PolicyDefinition × PolicyVersion} :
    row ∈ db.listedVersions updatedAt principal status ↔
      ∃ policy ∈ db.definitions.rows, db.listedVersion principal status policy = some row := by
  rw [PolicyDatabase.listedVersions,List.mem_insertionSort,List.mem_filterMap]

theorem shownBundles_eq
    (authorized : authorizedPolicyVersionStatus principal versionStatus = .ok status) :
    db.shownBundles updatedAt principal versionStatus =
      (db.listedVersions updatedAt principal status).map (db.shownBundle principal) := by
  have order := List.map_insertionSort (fun left right : PolicyDefinition × PolicyVersion =>
      laterPolicy updatedAt left.1 right.1)
    (fun left right : PolicyBundle => laterPolicy updatedAt left.policy right.policy)
    (db.shownBundle principal) (db.definitions.rows.filterMap (db.listedVersion principal status))
    fun left _ right _ => by rw [shownBundle_policy,shownBundle_policy]
  rw [PolicyDatabase.listedVersions,order,PolicyDatabase.shownBundles,List.map_filterMap]
  congr 1
  exact List.filterMap_congr fun policy defined => getPolicyBundle_toOption authorized defined

theorem listPolicyBundles_eq
    (authorized : authorizedPolicyVersionStatus principal versionStatus = .ok status) :
    listPolicyBundles updatedAt db principal limit offset versionStatus =
      .ok (Sql.page (db.shownBundles updatedAt principal versionStatus) limit offset,
        (db.shownBundles updatedAt principal versionStatus).length) := by
  have listed : ∀ row ∈ Sql.page (db.listedVersions updatedAt principal status) limit offset,
      db.bundle row.2.id = .ok ⟨row.1,row.2,db.policies.bundleRules row.2.id⟩ ∧
        visibleBundle ⟨row.1,row.2,db.policies.bundleRules row.2.id⟩ principal =
          some (db.shownBundle principal row) := by
    intro row member
    obtain ⟨policy,defined,chosen⟩ := mem_listedVersions.mp (Sql.mem_of_page member)
    exact (listedVersion_eq_some defined chosen).2.2
  have loads := mapM_of_forall fun row member => (listed row member).1
  rw [shownBundles_eq authorized,listPolicyBundles,authorized]
  simp only [bind,Except.bind]
  rw [PolicyDatabase.listedVersions] at loads
  rw [loads]
  simp only [List.filterMap_map,Except.ok.injEq,Prod.mk.injEq,List.length_map,
    PolicyDatabase.listedVersions,List.length_insertionSort,and_true]
  rw [← Sql.map_page,← List.filterMap_eq_map]
  exact List.filterMap_congr fun row member => (listed row member).2

/-- What a lookup shows: the rules of the version that the principal may read. -/
theorem getPolicyBundle_eq_ok {policyId : Uuid} {bundle : PolicyBundle}
    (authorized : authorizedPolicyVersionStatus principal versionStatus = .ok status)
    (found : getPolicyBundle db principal policyId versionStatus = .ok bundle) :
    (bundle.policy ∈ db.definitions.rows ∧ bundle.policy.id = policyId) ∧
      db.policies.selectedVersion? status policyId = some bundle.version ∧
      ∀ rule, rule ∈ bundle.rules ↔ rule ∈ db.policies.rulesOf bundle.version.id ∧
        (principal.hasTenantPermission .policyRead = true ∨ principal.readsRule rule = true) := by
  rw [getPolicyBundle,authorized] at found
  simp only [bind,Except.bind] at found
  cases selected : db.policies.selectedVersion? status policyId with
  | none =>
      rw [selected] at found
      cases found
  | some version =>
      have stored := Table.find?_of_mem (selectedVersion?_eq_some selected).1
      simp only [selected,PolicyDatabase.bundle,stored] at found
      cases defined : db.definitions.find? version.policyId with
      | none =>
          rw [defined] at found
          cases found
      | some policy =>
          simp only [defined] at found
          split at found
          · cases found
          · rename_i visible shown
            cases found
            obtain ⟨policySame,same,-,rules⟩ := mem_visibleBundle shown
            have own := (selectedVersion?_eq_some selected).2.1
            rw [policySame,same]
            exact ⟨⟨Table.mem_of_find? defined,(Table.key_of_find? defined).trans own⟩,rfl,
              fun rule => by rw [rules,mem_bundleRules]⟩

theorem authorized_of_get {policyId : Uuid} {bundle : PolicyBundle}
    (found : getPolicyBundle db principal policyId versionStatus = .ok bundle) :
    ∃ status, authorizedPolicyVersionStatus principal versionStatus = .ok status := by
  rw [getPolicyBundle] at found
  obtain ⟨status,authorized,-⟩ := bind_eq_ok.mp found
  exact ⟨status,authorized⟩

/-- The bundles of the listing are found under their policies. -/
theorem shown_policy {policyId : Uuid} {bundle : PolicyBundle}
    (shown : (getPolicyBundle db principal policyId versionStatus).toOption = some bundle) :
    getPolicyBundle db principal policyId versionStatus = .ok bundle ∧
      bundle.policy ∈ db.definitions.rows ∧ bundle.policy.id = policyId := by
  have found : getPolicyBundle db principal policyId versionStatus = .ok bundle := by
    cases outcome : getPolicyBundle db principal policyId versionStatus with
    | error failure => simp [outcome,Except.toOption] at shown
    | ok other => simpa [outcome,Except.toOption] using shown
  obtain ⟨status,authorized⟩ := authorized_of_get found
  exact ⟨found,(getPolicyBundle_eq_ok authorized found).1⟩

end Pages

section Rules

variable {db : PolicyDatabase} {principal : Principal} {updatedAt : Uuid → Time} {storeId : Uuid}

theorem selectedVersion?_active (regular : db.Regular) {version : PolicyVersion}
    (stored : version ∈ db.policies.versions.rows) (active : version.status = .active) :
    db.policies.selectedVersion? (some .active) version.policyId = some version := by
  have present : version ∈ ((db.policies.versionsOf version.policyId).filter fun version =>
      (some PolicyVersionStatus.active).all fun status => version.status = status).insertionSort
        fun left right => versionOrder (some .active) left right := by
    simp [Policies.versionsOf,Table.mem_select,stored,active]
  obtain ⟨first,selected⟩ : ∃ first,
      db.policies.selectedVersion? (some .active) version.policyId = some first :=
    Option.isSome_iff_exists.mp (by
      rw [Policies.selectedVersion?,List.isSome_head?]
      simpa using List.ne_nil_of_mem present)
  obtain ⟨member,own,status⟩ := selectedVersion?_eq_some selected
  rw [selected,regular.single first member version stored own (status _ rfl) active]

def readableRules (db : PolicyDatabase) (principal : Principal) : List PolicyRule :=
  (activeRules db.policies).filter fun rule =>
    principal.hasTenantPermission .policyRead || principal.readsRule rule

theorem mem_shownRules (regular : db.Regular) {rule : PolicyRule}
    (authorized : authorizedPolicyVersionStatus principal (some .active) = .ok (some .active)) :
    rule ∈ (db.shownBundles updatedAt principal (some .active)).flatMap PolicyBundle.rules ↔
      rule ∈ readableRules db principal := by
  rw [shownBundles_eq authorized,readableRules,List.mem_filter,Policies.mem_activeRules,
    List.mem_flatMap,Bool.or_eq_true]
  constructor
  · rintro ⟨bundle,member,listed⟩
    obtain ⟨row,place,rfl⟩ := List.mem_map.mp member
    obtain ⟨policy,defined,chosen⟩ := mem_listedVersions.mp place
    obtain ⟨-,selected,-,shown⟩ := listedVersion_eq_some defined chosen
    obtain ⟨stored,-,status⟩ := selectedVersion?_eq_some selected
    rw [(mem_visibleBundle shown).2.2.2,mem_bundleRules,Policies.mem_rulesOf] at listed
    obtain ⟨⟨kept,own⟩,reads⟩ := listed
    exact ⟨⟨kept,row.2,by rw [own,Table.find?_of_mem stored],status _ rfl⟩,reads⟩
  · rintro ⟨⟨kept,version,found,active⟩,reads⟩
    have stored := Table.mem_of_find? found
    obtain ⟨policy,defined⟩ := Option.isSome_iff_exists.mp (regular.defined version stored)
    have keyed : policy.id = version.policyId := Table.key_of_find? defined
    have selected := selectedVersion?_active regular stored active
    have chosen : db.listedVersion principal (some .active) policy = some (policy,version) := by
      rw [PolicyDatabase.listedVersion,keyed,selected,Option.bind_some,if_pos]
      rw [Bool.or_eq_true,List.any_eq_true]
      exact reads.imp_right fun reads =>
        ⟨rule,kept,by simp [reads,Table.key_of_find? found]⟩
    have policyDefined := Table.mem_of_find? defined
    obtain ⟨-,-,-,shown⟩ := listedVersion_eq_some policyDefined chosen
    refine ⟨_,List.mem_map_of_mem (mem_listedVersions.mpr ⟨policy,policyDefined,chosen⟩),?_⟩
    rw [(mem_visibleBundle shown).2.2.2,mem_bundleRules,Policies.mem_rulesOf]
    exact ⟨⟨kept,(Table.key_of_find? found).symm⟩,reads⟩

theorem nodup_bundleRules (versionId : Uuid) : (db.policies.bundleRules versionId).Nodup := by
  rw [Policies.bundleRules,(List.perm_insertionSort _ _).nodup_iff]
  exact (List.Nodup.of_map PolicyRule.id db.policies.rules.unique).filter _

/-- Two rows of the listing are of two policies, and so of two versions. -/
theorem listedVersions_pairwise : (db.listedVersions updatedAt principal (some .active)).Pairwise
    fun left right => left.2.id ≠ right.2.id := by
  refine (List.perm_insertionSort _ _).symm.pairwise ?_ Ne.symm
  rw [List.pairwise_filterMap]
  refine (List.pairwise_map.mp db.definitions.unique).imp_of_mem ?_
  intro left right leftDefined rightDefined different first chosen second other same
  obtain ⟨firstStored,firstOwn,-⟩ :=
    selectedVersion?_eq_some (listedVersion_eq_some leftDefined chosen).2.1
  obtain ⟨secondStored,secondOwn,-⟩ :=
    selectedVersion?_eq_some (listedVersion_eq_some rightDefined other).2.1
  have one := db.policies.versions.eq_of_key firstStored secondStored same
  exact different (by rw [← firstOwn,← secondOwn,one])

theorem nodup_shownRules
    (authorized : authorizedPolicyVersionStatus principal (some .active) = .ok (some .active)) :
    ((db.shownBundles updatedAt principal (some .active)).flatMap PolicyBundle.rules).Nodup := by
  have rules : ∀ row ∈ db.listedVersions updatedAt principal (some .active),
      (db.shownBundle principal row).rules.Sublist (db.policies.bundleRules row.2.id) := by
    intro row member
    obtain ⟨policy,defined,chosen⟩ := mem_listedVersions.mp member
    exact (mem_visibleBundle (listedVersion_eq_some defined chosen).2.2.2).2.2.1
  rw [shownBundles_eq authorized,List.nodup_flatMap,List.pairwise_map]
  constructor
  · intro bundle member
    obtain ⟨row,place,rfl⟩ := List.mem_map.mp member
    exact (nodup_bundleRules row.2.id).sublist (rules row place)
  · refine listedVersions_pairwise.imp_of_mem fun leftMember rightMember different => ?_
    intro rule leftRule rightRule
    have left := (Policies.mem_rulesOf.mp (mem_bundleRules.mp
      ((rules _ leftMember).subset leftRule))).2
    have right := (Policies.mem_rulesOf.mp (mem_bundleRules.mp
      ((rules _ rightMember).subset rightRule))).2
    exact different (left.symm.trans right)

/-- Rules that match nothing in a store do not matter to the selection there. -/
theorem selectPolicyRule_filter {platform : Platform} {rules : List PolicyRule}
    {keep : PolicyRule → Bool} {item : SkuContext} (idle : ∀ rule ∈ rules, keep rule = false →
      rulePrecedence platform rule storeId item = none) :
    selectPolicyRule platform (rules.filter keep) storeId item =
      selectPolicyRule platform rules storeId item := by
  have matching : (rules.filter keep).filterMap (fun rule =>
      (rulePrecedence platform rule storeId item).map fun precedence =>
        RuleCandidate.mk precedence rule) =
      rules.filterMap fun rule => (rulePrecedence platform rule storeId item).map fun precedence =>
        RuleCandidate.mk precedence rule := by
    rw [List.filterMap_filter]
    refine List.filterMap_congr fun rule member => ?_
    by_cases kept : keep rule = true
    · simp [kept]
    · simp [kept,idle rule member (by simpa using kept)]
  rw [selectPolicyRule,selectPolicyRule,ruleCandidates,ruleCandidates,matching]

/-- A rule that a reader of a store may not read is for another store. -/
theorem rulePrecedence_of_hidden {platform : Platform} {rule : PolicyRule} {item : SkuContext}
    (reads : principal.canAccessStore .policyRead storeId = true)
    (hidden : (principal.hasTenantPermission .policyRead || principal.readsRule rule) = false) :
    rulePrecedence platform rule storeId item = none := by
  rw [Bool.or_eq_false_iff] at hidden
  rw [Principal.canAccessStore,hidden.1,Bool.false_or,decide_eq_true_eq] at reads
  cases scope : rule.storeId with
  | none => simp [Principal.readsRule,scope] at hidden
  | some other =>
      have apart : other ≠ storeId := by
        rintro rfl
        simp [Principal.readsRule,scope,reads] at hidden
      rw [rulePrecedence,if_pos (by simpa [scope] using apart)]

theorem authorized_active :
    authorizedPolicyVersionStatus principal (some .active) = .ok (some .active) := by
  simp [authorizedPolicyVersionStatus]

end Rules

section Readers

variable {db : PolicyDatabase} {principal : Principal}
  {versionStatus status : Option PolicyVersionStatus} {updatedAt : Uuid → Time}

/-- Only a manager of policies is shown other versions than the active ones. -/
theorem authorized_reader (reader : principal.hasPermission .policyManage = false)
    (authorized : authorizedPolicyVersionStatus principal versionStatus = .ok status) :
    status = some .active := by
  rw [authorizedPolicyVersionStatus,reader] at authorized
  split at authorized
  · contradiction
  · split at authorized
    · cases authorized
    · exact (Except.ok.inj authorized).symm

theorem mem_shownBundles {bundle : PolicyBundle} :
    bundle ∈ db.shownBundles updatedAt principal versionStatus ↔
      getPolicyBundle db principal bundle.policy.id versionStatus = .ok bundle := by
  rw [PolicyDatabase.shownBundles,List.mem_insertionSort,List.mem_filterMap]
  constructor
  · rintro ⟨policy,-,shown⟩
    obtain ⟨found,-,same⟩ := shown_policy shown
    rw [same,found]
  · intro found
    have shown : (getPolicyBundle db principal bundle.policy.id versionStatus).toOption =
        some bundle := by rw [found]; rfl
    exact ⟨bundle.policy,(shown_policy shown).2.1,shown⟩

theorem shownBundles_nodup :
    ((db.shownBundles updatedAt principal versionStatus).map fun bundle => bundle.policy.id).Nodup := by
  rw [List.Nodup,List.pairwise_map]
  refine (List.perm_insertionSort _ _).symm.pairwise ?_ Ne.symm
  rw [List.pairwise_filterMap]
  refine (List.pairwise_map.mp db.definitions.unique).imp ?_
  intro left right different first firstShown second secondShown
  rw [(shown_policy firstShown).2.2,(shown_policy secondShown).2.2]
  exact different

/-- The listing of the policies is the pages of what looking each of them up shows: no page is short
or shows a policy again, the count is exact, and a reader gets the active versions alone, with just
the rules for all stores and for those that the reader may read. -/
theorem policy_listing_agrees (updatedAt : Uuid → Time) (db : PolicyDatabase)
    (principal : Principal) (versionStatus : Option PolicyVersionStatus) :
    let shown := db.shownBundles updatedAt principal versionStatus
    (∀ limit offset, listPolicyBundles updatedAt db principal limit offset versionStatus =
      (authorizedPolicyVersionStatus principal versionStatus).map fun _ =>
        (Sql.page shown limit offset,shown.length)) ∧
    (∀ limit count, shown.length ≤ count * limit → (Sql.pages shown limit count).flatten = shown) ∧
    (shown.map fun bundle => bundle.policy.id).Nodup ∧
    (∀ bundle, bundle ∈ shown ↔
      getPolicyBundle db principal bundle.policy.id versionStatus = .ok bundle) ∧
    ∀ bundle ∈ shown,
      (principal.hasPermission .policyManage = false → bundle.version.status = .active) ∧
      ∀ rule, rule ∈ bundle.rules ↔ rule ∈ db.policies.rulesOf bundle.version.id ∧
        (principal.hasTenantPermission .policyRead = true ∨ principal.readsRule rule = true) := by
  dsimp only
  refine ⟨fun limit offset => ?_,fun limit count => Sql.flatten_pages_of_le,shownBundles_nodup,
    fun bundle => mem_shownBundles,fun bundle member => ?_⟩
  · cases authorized : authorizedPolicyVersionStatus principal versionStatus with
    | error failure =>
        rw [listPolicyBundles,authorized]
        rfl
    | ok status => exact listPolicyBundles_eq authorized
  · have found := mem_shownBundles.mp member
    obtain ⟨status,authorized⟩ := authorized_of_get found
    obtain ⟨-,selected,rules⟩ := getPolicyBundle_eq_ok authorized found
    refine ⟨fun reader => ?_,rules⟩
    exact (selectedVersion?_eq_some selected).2.2 _ (authorized_reader reader authorized)

/-- The rules on the pages of the active policies that a client goes through. -/
def pagedRules (updatedAt : Uuid → Time) (db : PolicyDatabase) (principal : Principal)
    (limit count : ℕ) : Attempt (List PolicyRule) := do
  let pages ← (List.range count).mapM fun index =>
    listPolicyBundles updatedAt db principal limit (index * limit) (some .active)
  .ok (pages.flatMap fun page => page.1.flatMap PolicyBundle.rules)

theorem pagedRules_eq {limit count : ℕ}
    (enough : (db.shownBundles updatedAt principal (some .active)).length ≤ count * limit) :
    pagedRules updatedAt db principal limit count =
      .ok ((db.shownBundles updatedAt principal (some .active)).flatMap PolicyBundle.rules) := by
  have pages : (List.range count).mapM (fun index =>
      listPolicyBundles updatedAt db principal limit (index * limit) (some .active)) =
      .ok ((List.range count).map fun index =>
        (Sql.page (db.shownBundles updatedAt principal (some .active)) limit (index * limit),
          (db.shownBundles updatedAt principal (some .active)).length)) :=
    mapM_of_forall fun _ _ => listPolicyBundles_eq authorized_active
  have whole := Sql.flatten_pages_of_le enough
  rw [Sql.pages,← List.flatMap_def] at whole
  rw [pagedRules,pages]
  simp only [bind,Except.bind,List.flatMap_map]
  rw [← List.flatMap_assoc,whole]

/-- What the pages show a reader of a store selects, for every item, the rule that an evaluation of
the store selects from all the active rules. -/
theorem paged_rules_decide {platform : PolicyPlatform} {system : PolicySystem}
    (reachable : (policyMachine platform).Reachable system) {storeId : Uuid}
    (reads : principal.canAccessStore .policyRead storeId = true) {limit count total : ℕ}
    {first : List PolicyBundle}
    (listed : listPolicyBundles updatedAt system.committed principal limit 0 (some .active) =
      .ok (first,total)) (enough : total ≤ count * limit) :
    ∃ rules, pagedRules updatedAt system.committed principal limit count = .ok rules ∧
      (∀ rule, rule ∈ rules ↔ system.committed.policies.ActiveRule rule ∧
        (principal.hasTenantPermission .policyRead = true ∨ principal.readsRule rule = true)) ∧
      ∀ item, selectPolicyRule platform.toPlatform rules storeId item =
        selectPolicyRule platform.toPlatform (activeRules system.committed.policies) storeId item := by
  have active : authorizedPolicyVersionStatus principal (some .active) = .ok (some .active) :=
    authorized_active
  have regular := policies_regular reachable
  rw [listPolicyBundles_eq active] at listed
  cases listed
  have same : ((system.committed.shownBundles updatedAt principal (some .active)).flatMap
      PolicyBundle.rules).Perm (readableRules system.committed principal) := by
    refine (List.perm_ext_iff_of_nodup (nodup_shownRules active) ?_).mpr
      fun rule => mem_shownRules regular active
    exact ((List.Nodup.of_map PolicyRule.id system.committed.policies.rules.unique).filter _).filter _
  have separate := (policies_unambiguous reachable).pairwise
  refine ⟨_,pagedRules_eq enough,fun rule => ?_,fun item => ?_⟩
  · rw [mem_shownRules regular active,readableRules,List.mem_filter,Policies.mem_activeRules,
      Bool.or_eq_true]
  · rw [selectPolicyRule_perm platform.toPlatform (separate.filter _) same.symm]
    exact selectPolicyRule_filter fun rule _ hidden => rulePrecedence_of_hidden reads hidden

namespace Sample

def storeReader : Principal where
  userId := 2
  tenantId := 3
  roleScopes := [⟨.canonical .storeAssociate,some storeId⟩]

def policyUpdated (policyId : Uuid) : Time := policyId

/-- One policy a page. -/
theorem two_pages : (afterDefaults.committed.shownBundles policyUpdated storeReader (some .active)).length ≤
    2 * 1 := by decide +kernel

end Sample

theorem paged_rules_decide_sample : ∃ rules,
    pagedRules Sample.policyUpdated Sample.afterDefaults.committed Sample.storeReader 1 2 = .ok rules ∧
    ∀ item, selectPolicyRule Sample.platform rules Sample.storeId item =
      selectPolicyRule Sample.platform (activeRules Sample.afterDefaults.committed.policies)
        Sample.storeId item := by
  obtain ⟨rules,paged,-,decides⟩ := paged_rules_decide
    ⟨_,_,Sample.policyTenant_initial,Machine.run_getD Sample.defaults_run⟩
    (show Sample.storeReader.canAccessStore .policyRead Sample.storeId = true by decide)
    (listPolicyBundles_eq authorized_active) Sample.two_pages
  exact ⟨rules,paged,decides⟩

end Readers

end Abacus

import Abacus.Library.Ranking
import Abacus.Model.Sample
import Abacus.Policies.Overlap
import Mathlib.Data.Prod.Lex

/-! Exact overlaps and the selected rule.
Two rules overlap when some item of some store gives them one rank. Among rules that do not
overlap the matching ones have different ranks, so the highest of them leads any list of them.
-/
set_option autoImplicit false

namespace Abacus

open Ranking (Descending Leads)

variable (platform : Platform) {storeId : Uuid} {item : SkuContext}

section Exact

/-- What `PolicyRuleWrite.validate_selector` asks of a rule. -/
structure PolicyRule.SelectorValid (rule : PolicyRule) : Prop where
  oneSelector :
    rule.category.toList.length + rule.styleCode.toList.length + rule.skuId.toList.length ≤ 1
  sizeRequiresSku : rule.size.isSome → rule.skuId.isSome
  storeRequiresSelector :
    rule.storeId.isSome → rule.category.isSome ∨ rule.styleCode.isSome ∨ rule.skuId.isSome

theorem PolicyRuleWrite.newRule_selectorValid (request : PolicyRuleWrite) (versionId id : Uuid) :
    (request.newRule versionId id).SelectorValid :=
  ⟨request.oneSelector,request.sizeRequiresSku,request.storeRequiresSelector⟩

theorem PolicyRule.unselected {rule : PolicyRule} (default : rule.selectorKind = .default) :
    rule.category = none ∧ rule.styleCode = none ∧ rule.skuId = none := by
  unfold PolicyRule.selectorKind at default
  split at default
  · cases default
  · split at default
    · cases default
    · split at default
      · cases default
      · simp_all

theorem PolicyRule.SelectorValid.tenantWide {rule : PolicyRule} (valid : rule.SelectorValid)
    (default : rule.selectorKind = .default) : rule.storeId = none := by
  obtain ⟨noCategory,noStyle,noSku⟩ := PolicyRule.unselected default
  have required := valid.storeRequiresSelector
  rw [noCategory,noStyle,noSku] at required
  simpa using required

theorem rulePrecedence_of_applies {rule : PolicyRule} (applies : rule.Applies platform storeId item) :
    rulePrecedence platform rule storeId item =
      some (rule.selectorKind.precedence rule.storeId.isNone) := by
  have inScope : ¬rule.storeId.any fun scope => decide (scope ≠ storeId) := by
    rcases applies.scope with tenantWide | sameStore
    · simp [tenantWide]
    · simp [sameStore]
  rw [rulePrecedence,if_neg inScope]
  cases kind : rule.selectorKind with
  | sku =>
      obtain ⟨sameSku,sized⟩ := applies.sku kind
      have fits : ¬(rule.size.isSome ∧ ¬sameFolded platform rule.size item.size) := by
        rcases sized with unsized | folded
        · simp [unsized]
        · simp [folded]
      dsimp only
      rw [if_neg (not_not.mpr sameSku),if_neg fits]
      rfl
  | style =>
      dsimp only
      rw [if_neg (not_not.mpr (applies.style kind))]
      rfl
  | category =>
      dsimp only
      rw [if_neg (not_not.mpr (applies.category kind))]
      rfl
  | default =>
      dsimp only
      rw [if_pos (by rw [applies.default kind,Option.isNone_none])]
      rfl

def PolicyRule.commonItem (left right : PolicyRule) : SkuContext where
  skuId := left.skuId.getD 0
  styleCode := left.styleCode.getD ""
  category := left.category.getD ""
  size := (left.size.or right.size).getD ""

theorem sameFolded_getD {selector : Option String} (named : selector.isSome = true) :
    sameFolded platform selector (selector.getD "") = true := by
  obtain ⟨text,rfl⟩ := Option.isSome_iff_exists.mp named
  simp [sameFolded]

theorem sameFolded_of_sameSelector {left right : Option String}
    (same : sameSelector platform left right = true) :
    sameFolded platform right (left.getD "") = true := by
  obtain ⟨leftText,rightText,rfl,rfl,folded⟩ := (sameSelector_iff platform).mp same
  simp [sameFolded,folded]

/-- What two rules of one kind and one scope share when they overlap. -/
theorem rulesOverlap_inv {left right : PolicyRule}
    (overlap : rulesOverlap platform left right = true) :
    left.priority = right.priority ∧ left.storeId = right.storeId ∧
      left.selectorKind = right.selectorKind ∧
      (left.selectorKind = .category → sameSelector platform left.category right.category = true) ∧
      (left.selectorKind = .style → sameSelector platform left.styleCode right.styleCode = true) ∧
      (left.selectorKind = .sku → left.skuId = right.skuId ∧
        (left.size = none ∨ right.size = none ∨
          sameSelector platform left.size right.size = true)) := by
  unfold rulesOverlap at overlap
  split at overlap
  · cases overlap
  · rename_i comparable
    split at overlap
    · cases overlap
    · rename_i kind
      refine ⟨by_contra fun other => comparable (.inl other),
        by_contra fun other => comparable (.inr other),not_not.mp kind,?_,?_,?_⟩
      · intro selected
        simpa only [selected] using overlap
      · intro selected
        simpa only [selected] using overlap
      · intro selected
        simp only [selected] at overlap
        split at overlap
        · cases overlap
        · rename_i sku
          refine ⟨not_not.mp sku,?_⟩
          simpa [or_assoc] using overlap

theorem PolicyRule.selected {rule : PolicyRule} :
    (rule.selectorKind = .sku → rule.skuId.isSome = true) ∧
      (rule.selectorKind = .style → rule.styleCode.isSome = true) ∧
      (rule.selectorKind = .category → rule.category.isSome = true) := by
  unfold PolicyRule.selectorKind
  split
  · simp_all
  · split
    · simp_all
    · split
      · simp_all
      · simp

theorem applies_commonItem_left {left : PolicyRule} (valid : left.SelectorValid)
    (right : PolicyRule) :
    left.Applies platform (left.storeId.getD 0) (left.commonItem right) where
  scope := by cases left.storeId <;> simp
  sku kind := by
    obtain ⟨skuId,named⟩ := Option.isSome_iff_exists.mp (PolicyRule.selected.1 kind)
    refine ⟨by rw [PolicyRule.commonItem,named,Option.getD_some],?_⟩
    cases size : left.size with
    | none => exact .inl rfl
    | some text =>
        right
        simp [PolicyRule.commonItem,size,sameFolded]
  style kind := sameFolded_getD platform (PolicyRule.selected.2.1 kind)
  category kind := sameFolded_getD platform (PolicyRule.selected.2.2 kind)
  default kind := valid.tenantWide kind

theorem applies_commonItem_right {left right : PolicyRule} (valid : right.SelectorValid)
    (overlap : rulesOverlap platform left right = true) :
    right.Applies platform (left.storeId.getD 0) (left.commonItem right) := by
  obtain ⟨-,scope,kind,category,style,sku⟩ := rulesOverlap_inv platform overlap
  refine ⟨?_,?_,?_,?_,?_⟩
  · rw [scope]
    cases right.storeId <;> simp
  · intro selected
    obtain ⟨same,sized⟩ := sku (kind.trans selected)
    obtain ⟨skuId,named⟩ := Option.isSome_iff_exists.mp (PolicyRule.selected.1 selected)
    refine ⟨by rw [PolicyRule.commonItem,same,named,Option.getD_some],?_⟩
    rcases sized with unsized | unsized | folded
    · cases size : right.size with
      | none => exact .inl rfl
      | some text =>
          right
          simp [PolicyRule.commonItem,unsized,size,sameFolded]
    · exact .inl unsized
    · obtain ⟨leftText,rightText,first,-,-⟩ := (sameSelector_iff platform).mp folded
      have common : (left.commonItem right).size = left.size.getD "" := by
        simp [PolicyRule.commonItem,first]
      rw [common]
      exact .inr (sameFolded_of_sameSelector platform folded)
  · exact fun selected => sameFolded_of_sameSelector platform (style (kind.trans selected))
  · exact fun selected => sameFolded_of_sameSelector platform (category (kind.trans selected))
  · exact fun selected => valid.tenantWide selected

/-- Overlapping rules give one item one rank. -/
theorem rank_of_rulesOverlap {left right : PolicyRule} (leftValid : left.SelectorValid)
    (rightValid : right.SelectorValid) (overlap : rulesOverlap platform left right = true) :
    ∃ storeId item precedence, rulePrecedence platform left storeId item = some precedence ∧
      rulePrecedence platform right storeId item = some precedence ∧
      left.priority = right.priority := by
  obtain ⟨priority,scope,kind,-,-,-⟩ := rulesOverlap_inv platform overlap
  refine ⟨left.storeId.getD 0,left.commonItem right,
    left.selectorKind.precedence left.storeId.isNone,?_,?_,priority⟩
  · exact rulePrecedence_of_applies platform (applies_commonItem_left platform leftValid right)
  · rw [kind,scope]
    have applies := applies_commonItem_right platform rightValid overlap
    rw [scope] at applies
    exact rulePrecedence_of_applies platform applies

theorem rulesOverlap_iff {left right : PolicyRule} (leftValid : left.SelectorValid)
    (rightValid : right.SelectorValid) : rulesOverlap platform left right = true ↔
      ∃ storeId item precedence, rulePrecedence platform left storeId item = some precedence ∧
        rulePrecedence platform right storeId item = some precedence ∧
        left.priority = right.priority := by
  constructor
  · exact rank_of_rulesOverlap platform leftValid rightValid
  · rintro ⟨storeId,item,precedence,first,second,priority⟩
    exact rulesOverlap_of_rank platform first second priority

end Exact

section Greatest

variable {rules : List PolicyRule} {rule : PolicyRule}

/-- The rule matches, and every other matching rule has a smaller precedence, or the same one and
a smaller priority. -/
def PolicyRule.Greatest (rule : PolicyRule) (rules : List PolicyRule) (storeId : Uuid)
    (item : SkuContext) : Prop :=
  rule ∈ rules ∧ ∃ precedence, rulePrecedence platform rule storeId item = some precedence ∧
    ∀ other ∈ rules, other ≠ rule → ∀ otherPrecedence,
      rulePrecedence platform other storeId item = some otherPrecedence →
        toLex (otherPrecedence,other.priority) < toLex (precedence,rule.priority)

def RuleCandidate.lexRank (candidate : RuleCandidate) : ℕ ×ₗ ℤ := toLex candidate.rank

theorem mem_ruleCandidates {candidate : RuleCandidate} :
    candidate ∈ ruleCandidates platform rules storeId item ↔ candidate.rule ∈ rules ∧
      rulePrecedence platform candidate.rule storeId item = some candidate.precedence := by
  rw [ruleCandidates,List.mem_insertionSort,List.mem_filterMap]
  constructor
  · rintro ⟨rule,member,found⟩
    obtain ⟨precedence,matched,rfl⟩ := Option.map_eq_some_iff.mp found
    exact ⟨member,matched⟩
  · rintro ⟨member,matched⟩
    refine ⟨candidate.rule,member,?_⟩
    rw [matched]
    rfl

theorem ruleCandidates_descending :
    Descending RuleCandidate.lexRank (ruleCandidates platform rules storeId item) := by
  apply Ranking.descending_insertionSort
  intro left right
  rw [RuleCandidate.outranks,decide_eq_true_eq]
  exact (Prod.Lex.le_iff (x := right.lexRank) (y := left.lexRank)).symm

theorem ruleCandidates_leads {best : RuleCandidate} (separate : rules.Pairwise (Separate platform)) :
    (ruleCandidates platform rules storeId item).head? = some best ↔
      Leads RuleCandidate.lexRank (ruleCandidates platform rules storeId item) best := by
  have sorted : Descending RuleCandidate.lexRank (ruleCandidates platform rules storeId item) :=
    ruleCandidates_descending platform
  have distinct : (ruleCandidates platform rules storeId item).Pairwise fun left right =>
      left.rank ≠ right.rank := ruleCandidates_distinct platform separate
  constructor
  · intro first
    obtain ⟨others,candidates⟩ := List.head?_eq_some_iff.mp first
    rw [candidates] at sorted distinct ⊢
    exact Ranking.leads_head sorted (distinct.imp fun apart same => apart (toLex_inj.mp same))
  · exact fun leads => leads.head sorted

/-- Two candidates of one rule are one candidate. -/
theorem RuleCandidate.eq_of_rule {left right : RuleCandidate}
    (first : left ∈ ruleCandidates platform rules storeId item)
    (second : right ∈ ruleCandidates platform rules storeId item) (same : left.rule = right.rule) :
    left = right := by
  have precedence := ((mem_ruleCandidates platform).mp first).2
  rw [same,((mem_ruleCandidates platform).mp second).2] at precedence
  cases left
  cases right
  cases same
  cases precedence
  rfl

theorem leads_iff_greatest : (∃ best, best.rule = rule ∧
      Leads RuleCandidate.lexRank (ruleCandidates platform rules storeId item) best) ↔
    rule.Greatest platform rules storeId item := by
  constructor
  · rintro ⟨best,rfl,leads⟩
    obtain ⟨member,matched⟩ := (mem_ruleCandidates platform).mp leads.member
    refine ⟨member,best.precedence,matched,?_⟩
    intro other otherMember different otherPrecedence otherMatched
    exact leads.above ⟨otherPrecedence,other⟩
      ((mem_ruleCandidates platform).mpr ⟨otherMember,otherMatched⟩)
      fun same => different (congrArg RuleCandidate.rule same)
  · rintro ⟨member,precedence,matched,above⟩
    have listed : (⟨precedence,rule⟩ : RuleCandidate) ∈
        ruleCandidates platform rules storeId item :=
      (mem_ruleCandidates platform).mpr ⟨member,matched⟩
    refine ⟨⟨precedence,rule⟩,rfl,listed,?_⟩
    intro other otherListed different
    obtain ⟨otherMember,otherMatched⟩ := (mem_ruleCandidates platform).mp otherListed
    refine above other.rule otherMember ?_ other.precedence otherMatched
    exact fun same => different (RuleCandidate.eq_of_rule platform otherListed listed same)

theorem selectPolicyRule_head (separate : rules.Pairwise (Separate platform)) :
    selectPolicyRule platform rules storeId item =
      .ok ((ruleCandidates platform rules storeId item).head?.map RuleCandidate.rule) := by
  obtain ⟨choice,selected⟩ := selectPolicyRule_of_separate platform separate storeId item
  rw [selected]
  unfold selectPolicyRule at selected
  split at selected
  · rename_i noCandidate
    rw [noCandidate]
    exact selected.symm
  · rename_i best others candidates
    rw [candidates]
    split at selected
    · cases selected
    · exact selected.symm

theorem selectPolicyRule_eq_some (separate : rules.Pairwise (Separate platform)) :
    selectPolicyRule platform rules storeId item = .ok (some rule) ↔
      rule.Greatest platform rules storeId item := by
  rw [selectPolicyRule_head platform separate,Except.ok.injEq,Option.map_eq_some_iff,
    ← leads_iff_greatest]
  simp only [ruleCandidates_leads platform separate,and_comm]

theorem selectPolicyRule_eq_none (separate : rules.Pairwise (Separate platform)) :
    selectPolicyRule platform rules storeId item = .ok none ↔
      ∀ rule ∈ rules, rulePrecedence platform rule storeId item = none := by
  rw [selectPolicyRule_head platform separate,Except.ok.injEq,Option.map_eq_none_iff,
    List.head?_eq_none_iff,List.eq_nil_iff_forall_not_mem]
  constructor
  · intro none rule member
    cases matched : rulePrecedence platform rule storeId item with
    | none => rfl
    | some precedence =>
        exact absurd ((mem_ruleCandidates platform).mpr ⟨member,matched⟩) (none ⟨precedence,rule⟩)
  · intro unmatched candidate listed
    obtain ⟨member,matched⟩ := (mem_ruleCandidates platform).mp listed
    rw [unmatched candidate.rule member] at matched
    cases matched

/-- The selection does not depend on the order of the rules. -/
theorem selectPolicyRule_perm {arranged : List PolicyRule}
    (separate : rules.Pairwise (Separate platform)) (same : rules.Perm arranged) :
    selectPolicyRule platform arranged storeId item =
      selectPolicyRule platform rules storeId item := by
  have apart : arranged.Pairwise (Separate platform) :=
    same.pairwise separate (Separate.symm platform)
  obtain ⟨choice,selected⟩ := selectPolicyRule_of_separate platform separate storeId item
  rw [selected]
  cases choice with
  | none =>
      rw [selectPolicyRule_eq_none platform separate] at selected
      rw [selectPolicyRule_eq_none platform apart]
      exact fun rule member => selected rule (same.mem_iff.mpr member)
  | some rule =>
      rw [selectPolicyRule_eq_some platform separate] at selected
      rw [selectPolicyRule_eq_some platform apart]
      obtain ⟨member,precedence,matched,above⟩ := selected
      exact ⟨same.mem_iff.mp member,precedence,matched,
        fun other otherMember => above other (same.mem_iff.mpr otherMember)⟩

end Greatest

/-- Overlap is exactly one rank for some item, and without it the selection is the one greatest
matching rule in any order of the rules. -/
theorem rule_overlap_exact_selection_unique :
    (∀ left right : PolicyRule, left.SelectorValid → right.SelectorValid →
      (rulesOverlap platform left right = true ↔ ∃ storeId item precedence,
        rulePrecedence platform left storeId item = some precedence ∧
          rulePrecedence platform right storeId item = some precedence ∧
          left.priority = right.priority)) ∧
    ∀ rules : List PolicyRule, rules.Pairwise (Separate platform) → ∀ storeId item,
      (∀ arranged, rules.Perm arranged → selectPolicyRule platform arranged storeId item =
        selectPolicyRule platform rules storeId item) ∧
      ∃ choice, selectPolicyRule platform rules storeId item = .ok choice ∧
        (choice = none ↔ ∀ rule ∈ rules, rulePrecedence platform rule storeId item = none) ∧
        ∀ rule, choice = some rule ↔ rule.Greatest platform rules storeId item := by
  refine ⟨fun left right leftValid rightValid => rulesOverlap_iff platform leftValid rightValid,?_⟩
  intro rules separate storeId item
  refine ⟨fun arranged same => selectPolicyRule_perm platform separate same,?_⟩
  obtain ⟨choice,selected⟩ := selectPolicyRule_of_separate platform separate storeId item
  refine ⟨choice,selected,?_,?_⟩
  · rw [← selectPolicyRule_eq_none platform separate,selected,Except.ok.injEq]
  · intro rule
    rw [← selectPolicyRule_eq_some platform separate,selected,Except.ok.injEq]

namespace Sample

/-- Shirts in all stores, and their medium size in one store. -/
def shirtRule : PolicyRule where
  id := 60
  versionId := 61
  storeId := none
  category := some "shirts"
  styleCode := none
  skuId := none
  size := none
  minFloorQty := 1
  targetFloorQty := 2
  priority := 0

def mediumRule : PolicyRule :=
  { shirtRule with
    id := 62, storeId := some Sample.storeId, category := none, skuId := some Sample.skuId
    size := some "M" }

theorem shirtRule_selectorValid : shirtRule.SelectorValid :=
  ⟨by decide,by decide,by decide⟩

theorem mediumRule_selectorValid : mediumRule.SelectorValid :=
  ⟨by decide,by decide,by decide⟩

theorem rules_separate :
    [shirtRule,mediumRule].Pairwise (Separate Sample.platform) := by
  simp [Separate,rulesOverlap,shirtRule,mediumRule]

theorem mediumRule_selected : selectPolicyRule Sample.platform
    [shirtRule,mediumRule] Sample.storeId ⟨Sample.skuId,"style","shirts","M"⟩ =
      .ok (some mediumRule) := by decide +kernel

end Sample

theorem rule_overlap_exact_selection_unique_sample :
    (rulesOverlap Sample.platform Sample.shirtRule Sample.mediumRule = true ↔
      ∃ storeId item precedence,
        rulePrecedence Sample.platform Sample.shirtRule storeId item = some precedence ∧
          rulePrecedence Sample.platform Sample.mediumRule storeId item = some precedence ∧
          Sample.shirtRule.priority = Sample.mediumRule.priority) ∧
    selectPolicyRule Sample.platform [Sample.mediumRule,Sample.shirtRule] Sample.storeId
      ⟨Sample.skuId,"style","shirts","M"⟩ = .ok (some Sample.mediumRule) := by
  obtain ⟨exact,unique⟩ := rule_overlap_exact_selection_unique Sample.platform
  refine ⟨exact _ _ Sample.shirtRule_selectorValid Sample.mediumRule_selectorValid,?_⟩
  have either := (unique _ Sample.rules_separate Sample.storeId
    ⟨Sample.skuId,"style","shirts","M"⟩).1 _ (.swap _ _ _)
  rw [either,Sample.mediumRule_selected]

end Abacus

import Abacus.Model.Policies

/-! Overlapping rules and ambiguous selections.
Two rules that match one item with the same precedence and priority have the same scope and
the same kind of selector, and their selectors fold to the item's, so they overlap.
-/
set_option autoImplicit false

namespace Abacus

open Relational

variable (platform : Platform)

section Folding

theorem sameFolded_iff {selector : Option String} {text : String} :
    sameFolded platform selector text = true ↔
      ∃ found, selector = some found ∧ platform.casefold found = platform.casefold text := by
  cases selector <;> simp [sameFolded]

theorem sameSelector_iff {left right : Option String} :
    sameSelector platform left right = true ↔ ∃ leftText rightText, left = some leftText ∧
      right = some rightText ∧ platform.casefold rightText = platform.casefold leftText := by
  cases left with
  | none => simp [sameSelector]
  | some leftText => simp [sameSelector,sameFolded_iff]

theorem sameSelector_comm (left right : Option String) :
    sameSelector platform left right = sameSelector platform right left := by
  rw [Bool.eq_iff_iff,sameSelector_iff,sameSelector_iff]
  constructor
  · rintro ⟨leftText,rightText,first,second,same⟩
    exact ⟨rightText,leftText,second,first,same.symm⟩
  · rintro ⟨rightText,leftText,second,first,same⟩
    exact ⟨leftText,rightText,first,second,same.symm⟩

/-- Selectors that fold to one text fold to each other. -/
theorem sameSelector_of_folded {left right : Option String} {text : String}
    (first : sameFolded platform left text = true)
    (second : sameFolded platform right text = true) :
    sameSelector platform left right = true := by
  obtain ⟨leftText,leftFound,leftSame⟩ := (sameFolded_iff platform).mp first
  obtain ⟨rightText,rightFound,rightSame⟩ := (sameFolded_iff platform).mp second
  exact (sameSelector_iff platform).mpr
    ⟨leftText,rightText,leftFound,rightFound,rightSame.trans leftSame.symm⟩

end Folding

section Overlap

theorem rulesOverlap_comm (left right : PolicyRule) :
    rulesOverlap platform left right = rulesOverlap platform right left := by
  unfold rulesOverlap
  by_cases scope : left.priority ≠ right.priority ∨ left.storeId ≠ right.storeId
  · rw [if_pos scope,if_pos (scope.imp Ne.symm Ne.symm)]
  · have flipped : ¬(right.priority ≠ left.priority ∨ right.storeId ≠ left.storeId) :=
      fun other => scope (other.imp Ne.symm Ne.symm)
    rw [if_neg scope,if_neg flipped]
    by_cases kind : left.selectorKind = right.selectorKind
    · rw [kind]
      simp only [ne_eq,not_true_eq_false,if_false]
      cases right.selectorKind with
      | sku =>
          simp only [eq_comm (a := right.skuId),sameSelector_comm platform right.size,
            Bool.or_comm right.size.isNone]
      | style => exact sameSelector_comm platform _ _
      | category => exact sameSelector_comm platform _ _
      | default => rfl
    · rw [if_pos kind,if_pos (Ne.symm kind)]

def Separate (left right : PolicyRule) : Prop := rulesOverlap platform left right = false

theorem Separate.symm {left right : PolicyRule} (separate : Separate platform left right) :
    Separate platform right left := (rulesOverlap_comm platform right left).trans separate

instance separateSymm : Std.Symm (Separate platform) := ⟨fun _ _ => Separate.symm platform⟩

theorem firstOverlap_isNone {rules : List PolicyRule} :
    (firstOverlap platform rules).isNone = true ↔ rules.Pairwise (Separate platform) := by
  induction rules with
  | nil => simp [firstOverlap]
  | cons rule rules ih =>
      rw [firstOverlap,Option.isNone_or,Bool.and_eq_true,ih,List.pairwise_cons,Option.isNone_map,
        Option.isNone_iff_eq_none,List.find?_eq_none]
      simp only [Bool.not_eq_true,Separate]

end Overlap

section Selection

variable {storeId : Uuid} {item : SkuContext}

def SelectorKind.precedence : SelectorKind → Bool → ℕ
  | .sku,tenantScope => if tenantScope then 4 else 7
  | .style,tenantScope => if tenantScope then 3 else 6
  | .category,tenantScope => if tenantScope then 2 else 5
  | .default,_ => 1

structure PolicyRule.Applies (rule : PolicyRule) (storeId : Uuid) (item : SkuContext) : Prop where
  scope : rule.storeId = none ∨ rule.storeId = some storeId
  sku : rule.selectorKind = .sku → rule.skuId = some item.skuId ∧
    (rule.size = none ∨ sameFolded platform rule.size item.size = true)
  style : rule.selectorKind = .style → sameFolded platform rule.styleCode item.styleCode = true
  category : rule.selectorKind = .category →
    sameFolded platform rule.category item.category = true
  default : rule.selectorKind = .default → rule.storeId = none

theorem rulePrecedence_eq_some {rule : PolicyRule} {precedence : ℕ}
    (matched : rulePrecedence platform rule storeId item = some precedence) :
    rule.Applies platform storeId item ∧
      precedence = rule.selectorKind.precedence rule.storeId.isNone := by
  unfold rulePrecedence at matched
  split at matched
  · cases matched
  · rename_i inScope
    have scope : rule.storeId = none ∨ rule.storeId = some storeId := by
      cases stored : rule.storeId with
      | none => exact .inl rfl
      | some scope => simpa [stored] using inScope
    split at matched
    · rename_i kind
      split at matched
      · cases matched
      · rename_i sameSku
        split at matched
        · cases matched
        · rename_i sized
          cases matched
          refine ⟨⟨scope,?_,?_,?_,?_⟩,?_⟩ <;> rw [kind]
          · refine fun _ => ⟨not_not.mp sameSku,?_⟩
            cases size : rule.size with
            | none => exact .inl rfl
            | some text => simpa [size] using sized
          all_goals simp [SelectorKind.precedence]
    · rename_i kind
      split at matched
      · cases matched
      · rename_i folded
        cases matched
        refine ⟨⟨scope,?_,?_,?_,?_⟩,?_⟩ <;> rw [kind]
        · simp
        · exact fun _ => not_not.mp folded
        all_goals simp [SelectorKind.precedence]
    · rename_i kind
      split at matched
      · cases matched
      · rename_i folded
        cases matched
        refine ⟨⟨scope,?_,?_,?_,?_⟩,?_⟩ <;> rw [kind]
        · simp
        · simp
        · exact fun _ => not_not.mp folded
        all_goals simp [SelectorKind.precedence]
    · rename_i kind
      split at matched
      · rename_i tenantWide
        cases matched
        refine ⟨⟨scope,?_,?_,?_,?_⟩,?_⟩ <;> rw [kind]
        · simp
        · simp
        · simp
        · exact fun _ => Option.isNone_iff_eq_none.mp tenantWide
        · rfl
      · cases matched

/-- Apart from the default, a precedence names the kind and the scope. -/
theorem SelectorKind.precedence_inj {left right : SelectorKind} {leftScope rightScope : Bool}
    (same : left.precedence leftScope = right.precedence rightScope) :
    left = right ∧ (left ≠ .default → leftScope = rightScope) := by
  cases left <;> cases right <;> cases leftScope <;> cases rightScope <;>
    simp_all [SelectorKind.precedence]

/-- Rules of one rank that apply to one item overlap. -/
theorem rulesOverlap_of_rank {left right : PolicyRule} {precedence : ℕ}
    (first : rulePrecedence platform left storeId item = some precedence)
    (second : rulePrecedence platform right storeId item = some precedence)
    (priority : left.priority = right.priority) : rulesOverlap platform left right = true := by
  obtain ⟨leftApplies,leftRank⟩ := rulePrecedence_eq_some platform first
  obtain ⟨rightApplies,rightRank⟩ := rulePrecedence_eq_some platform second
  obtain ⟨kind,sameScope⟩ := SelectorKind.precedence_inj (leftRank.symm.trans rightRank)
  have scope : left.storeId = right.storeId := by
    by_cases default : left.selectorKind = .default
    · rw [leftApplies.default default,rightApplies.default (kind ▸ default)]
    · have both := sameScope default
      rcases leftApplies.scope with leftNone | leftSome
      · rcases rightApplies.scope with rightNone | rightSome
        · rw [leftNone,rightNone]
        · simp [leftNone,rightSome] at both
      · rcases rightApplies.scope with rightNone | rightSome
        · simp [leftSome,rightNone] at both
        · rw [leftSome,rightSome]
  have comparable : ¬(left.priority ≠ right.priority ∨ left.storeId ≠ right.storeId) :=
    fun apart => apart.elim (fun other => other priority) fun other => other scope
  rw [rulesOverlap,if_neg comparable,if_neg (not_not.mpr kind)]
  cases selected : left.selectorKind with
  | default => rfl
  | category =>
      exact sameSelector_of_folded platform (leftApplies.category selected)
        (rightApplies.category (kind ▸ selected))
  | style =>
      exact sameSelector_of_folded platform (leftApplies.style selected)
        (rightApplies.style (kind ▸ selected))
  | sku =>
      obtain ⟨leftSku,leftSize⟩ := leftApplies.sku selected
      obtain ⟨rightSku,rightSize⟩ := rightApplies.sku (kind ▸ selected)
      dsimp only
      rw [if_neg (not_not.mpr (leftSku.trans rightSku.symm))]
      rcases leftSize with unsized | leftFolded
      · simp [unsized]
      · rcases rightSize with unsized | rightFolded
        · simp [unsized]
        · simp [sameSelector_of_folded platform leftFolded rightFolded]

/-- Matching rules that do not overlap have different ranks. -/
theorem ruleCandidates_distinct {rules : List PolicyRule}
    (separate : rules.Pairwise (Separate platform)) :
    (ruleCandidates platform rules storeId item).Pairwise fun left right =>
      left.rank ≠ right.rank := by
  unfold ruleCandidates
  refine (List.perm_insertionSort _ _).symm.pairwise ?_ Ne.symm
  apply List.Pairwise.filterMap _ _ separate
  intro left right apart leftCandidate leftFound rightCandidate rightFound same
  obtain ⟨leftPrecedence,leftMatched,rfl⟩ := Option.map_eq_some_iff.mp leftFound
  obtain ⟨rightPrecedence,rightMatched,rfl⟩ := Option.map_eq_some_iff.mp rightFound
  obtain ⟨precedence,priority⟩ := Prod.mk.inj same
  dsimp only at precedence priority
  subst precedence
  rw [Separate,rulesOverlap_of_rank platform leftMatched rightMatched priority] at apart
  cases apart

/-- Among rules that do not overlap, the selection is never ambiguous. -/
theorem selectPolicyRule_of_separate {rules : List PolicyRule}
    (separate : rules.Pairwise (Separate platform)) (storeId : Uuid) (item : SkuContext) :
    ∃ choice, selectPolicyRule platform rules storeId item = .ok choice := by
  have distinct : (ruleCandidates platform rules storeId item).Pairwise fun left right =>
      left.rank ≠ right.rank := ruleCandidates_distinct platform separate
  unfold selectPolicyRule
  split
  · exact ⟨none,rfl⟩
  · rename_i best others candidates
    rw [candidates,List.pairwise_cons] at distinct
    rw [if_neg]
    · exact ⟨some best.rule,rfl⟩
    · intro ambiguous
      obtain ⟨second,first,equal⟩ := Option.any_eq_true _ _ |>.mp ambiguous
      exact distinct.1 second (List.mem_of_mem_head? first) (of_decide_eq_true equal).symm

end Selection

end Abacus

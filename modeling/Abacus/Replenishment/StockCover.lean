import Abacus.Replenishment.Idempotence
import Abacus.Replenishment.StockGuard

/-! Whether the backroom holds what a task asks for.
An evaluation adds at most the backroom's quantity to an open task and does not subtract what the
task asked for before. A new task is covered; a grown one is if the backroom covers the whole
shortage.
-/
set_option autoImplicit false

namespace Abacus

open Relational (Table)

section Decisions

variable {platform : Platform} {rules : List PolicyRule} {storeId taskId : Uuid}
  {minimumConfidence : ℚ} {active : Option ReplenishmentTask} {snapshot : InventorySnapshot}
  {outcome : EvaluationOutcome} {rule : PolicyRule} {task : ReplenishmentTask}

/-- The task asks for something, for no more than its rule lacks on the floor, and for no more than
the backroom holds. -/
structure ReplenishmentTask.CoveredBy (task : ReplenishmentTask) (snapshot : InventorySnapshot)
    (rule : PolicyRule) : Prop where
  positive : 0 < task.quantity
  lacking : task.quantity ≤ rule.targetFloorQty - snapshot.floorQty
  stocked : task.quantity ≤ snapshot.backroomQty

structure ReplenishmentTask.Grows (task : ReplenishmentTask) (snapshot : InventorySnapshot)
    (rule : PolicyRule) : Prop where
  opened : task.status = .open
  short : snapshot.floorQty < rule.minFloorQty
  stocked : 0 < snapshot.backroomQty
  lacking : task.quantity < rule.targetFloorQty - snapshot.floorQty

theorem shortage_pos_iff : 0 < snapshot.shortage rule active ↔
    snapshot.floorQty < rule.minFloorQty ∧ 0 < snapshot.backroomQty ∧
      active.elim 0 ReplenishmentTask.quantity < rule.targetFloorQty - snapshot.floorQty := by
  rw [shortage_eq]
  split
  · omega
  · omega

theorem ReplenishmentTask.grows_iff : task.Grows snapshot rule ↔
    task.status = .open ∧ 0 < snapshot.shortage rule (some task) := by
  rw [shortage_pos_iff]
  constructor
  · rintro ⟨opened,short,stocked,lacking⟩
    exact ⟨opened,short,stocked,lacking⟩
  · rintro ⟨opened,short,stocked,lacking⟩
    exact ⟨opened,short,stocked,lacking⟩

/-- What a task that a decision wrote asks for. -/
theorem decideTask_quantity
    (written : (decideTask storeId active taskId snapshot rule).activeAfter active = some task)
    (changed : active ≠ some task) :
    0 < snapshot.shortage rule active ∧ (∀ old ∈ active, old.status = .open) ∧
      task.quantity = active.elim 0 ReplenishmentTask.quantity + snapshot.shortage rule active := by
  have differ : (decideTask storeId active taskId snapshot rule).activeAfter active ≠ active := by
    rw [written]
    exact changed.symm
  obtain ⟨positive,opened⟩ := (decideTask_activeAfter_ne_iff rule).mp differ
  refine ⟨positive,opened,?_⟩
  cases active with
  | none =>
      rw [decideTask_created positive] at written
      cases written
      exact (zero_add _).symm
  | some old =>
      rw [decideTask_grown positive (opened old rfl)] at written
      cases written
      rfl

/-- A new or larger task is covered exactly if it is new or the backroom covers the shortage. -/
theorem decideTask_coveredBy_iff
    (written : (decideTask storeId active taskId snapshot rule).activeAfter active = some task)
    (changed : active ≠ some task) : task.CoveredBy snapshot rule ↔
      ∀ old ∈ active, rule.targetFloorQty - snapshot.floorQty ≤ snapshot.backroomQty := by
  obtain ⟨positive,-,quantity⟩ := decideTask_quantity written changed
  have asked := shortage_pos_iff.mp positive
  rw [shortage_eq,if_neg (not_le.mpr asked.1)] at quantity
  have present := task.positiveQuantity
  cases active with
  | none =>
      rw [Option.elim_none] at quantity asked
      refine ⟨fun _ old member => (by cases member),fun _ => ⟨present,?_,?_⟩⟩
      · omega
      · omega
  | some old =>
      rw [Option.elim_some] at quantity asked
      have earlier := old.positiveQuantity
      constructor
      · rintro ⟨-,-,stocked⟩ _ _
        omega
      · intro covers
        have enough := covers old rfl
        exact ⟨present,by omega,by omega⟩

/-- An outcome that changes the active task is a decision of the selected rule. -/
theorem evaluateSnapshot_decides
    (evaluated : evaluateSnapshot platform rules storeId minimumConfidence active taskId snapshot =
      .ok outcome) (changed : outcome.activeAfter active ≠ active) :
    minimumConfidence ≤ snapshot.confidence ∧ ∃ rule,
      selectPolicyRule platform rules storeId snapshot.item = .ok (some rule) ∧
        outcome = decideTask storeId active taskId snapshot rule := by
  unfold evaluateSnapshot at evaluated
  split at evaluated
  · cases evaluated
    exact absurd rfl changed
  · rename_i enough
    split at evaluated
    · cases evaluated
    · cases evaluated
      exact absurd rfl changed
    · rename_i rule selected
      cases evaluated
      exact ⟨not_lt.mp enough,rule,selected,rfl⟩

end Decisions

section Evaluations

variable (platform : Platform) (settings : Settings) (db : Database) (principal : Principal)
  (request : ReplenishmentEvaluationCreate) (minimumConfidence : ℚ) (evaluatedAt : Time)
  (taskId : Uuid → Uuid)

/-- Every task that the evaluation creates or grows is covered under the selected rule. -/
def RequestsCovered : Prop :=
  ∀ result replenishment,
    evaluateReplenishment platform settings db principal request minimumConfidence evaluatedAt
      taskId = .ok (result,replenishment) →
    ∀ storeId skuId task, replenishment.activeTask storeId skuId = some task →
      db.replenishment.activeTask storeId skuId ≠ some task →
      ∃ snapshot ∈ inventorySnapshots platform settings db request evaluatedAt,
        storeId = request.storeId ∧ skuId = snapshot.item.skuId ∧
        ∃ rule, selectPolicyRule platform (activeRules db.policies) request.storeId snapshot.item =
          .ok (some rule) ∧ task.CoveredBy snapshot rule

/-- If the evaluation gets to its tasks, the backroom covers the whole shortage of every SKU whose
open task is one that grows. -/
def GrowthCovered : Prop :=
  EvaluationOpens settings db principal request evaluatedAt →
    RulesSelect platform settings db request minimumConfidence evaluatedAt →
    ∀ snapshot ∈ inventorySnapshots platform settings db request evaluatedAt,
      minimumConfidence ≤ snapshot.confidence →
      ∀ rule, selectPolicyRule platform (activeRules db.policies) request.storeId snapshot.item =
          .ok (some rule) →
        ∀ task ∈ db.replenishment.activeTask request.storeId snapshot.item.skuId,
          task.Grows snapshot rule →
          rule.targetFloorQty - snapshot.floorQty ≤ snapshot.backroomQty

variable {platform settings db principal request minimumConfidence evaluatedAt taskId}

theorem inventorySnapshots_inj {first second : InventorySnapshot}
    (left : first ∈ inventorySnapshots platform settings db request evaluatedAt)
    (right : second ∈ inventorySnapshots platform settings db request evaluatedAt)
    (same : first.item.skuId = second.item.skuId) : first = second :=
  List.inj_on_of_nodup_map (inventorySnapshots_distinct platform settings db request evaluatedAt)
    left right same

theorem activeRules_of_selected {storeId : Uuid} {item : SkuContext} {rule : PolicyRule}
    (selected : selectPolicyRule platform (activeRules db.policies) storeId item = .ok (some rule)) :
    (activeRules db.policies).isEmpty = false := by
  cases rules : activeRules db.policies with
  | nil =>
      rw [rules,selectPolicyRule_of_no_rules] at selected
      cases selected
  | cons first others => rfl

/-- A task that grows becomes the larger active task of its SKU. -/
theorem grown_of_grows (apart : Function.Injective taskId)
    (fresh : ∀ skuId, db.replenishment.tasks.find? (taskId skuId) = none)
    (opens : EvaluationOpens settings db principal request evaluatedAt)
    (select : RulesSelect platform settings db request minimumConfidence evaluatedAt)
    {snapshot : InventorySnapshot}
    (member : snapshot ∈ inventorySnapshots platform settings db request evaluatedAt)
    (enough : minimumConfidence ≤ snapshot.confidence) {rule : PolicyRule}
    (selected : selectPolicyRule platform (activeRules db.policies) request.storeId snapshot.item =
      .ok (some rule)) {task : ReplenishmentTask}
    (found : db.replenishment.activeTask request.storeId snapshot.item.skuId = some task)
    (grows : task.Grows snapshot rule) :
    ∃ result replenishment larger,
      evaluateReplenishment platform settings db principal request minimumConfidence evaluatedAt
        taskId = .ok (result,replenishment) ∧
      replenishment.activeTask request.storeId snapshot.item.skuId = some larger ∧
      larger.quantity ≠ task.quantity ∧
      (decideTask request.storeId (some task) (taskId snapshot.item.skuId) snapshot rule).activeAfter
        (some task) = some larger := by
  obtain ⟨opened,positive⟩ := ReplenishmentTask.grows_iff.mp grows
  obtain ⟨outcomes,decided⟩ := (evaluationOutcomes_ok_iff taskId).mpr select
  obtain ⟨replenishment,recorded,accepted⟩ := evaluateReplenishment_decides apart fresh opens
    (activeRules_of_selected selected) decided
  obtain ⟨outcome,evaluated,active⟩ := (recordAll_decides decided recorded).1 snapshot member
  have decision : outcome =
      decideTask request.storeId (some task) (taskId snapshot.item.skuId) snapshot rule := by
    unfold evaluateSnapshot at evaluated
    rw [if_neg (not_lt.mpr enough),selected,found] at evaluated
    exact (Except.ok.inj evaluated).symm
  rw [found,decision] at active
  refine ⟨_,replenishment,task.grow _ positive rule,accepted,?_,?_,?_⟩
  · rw [active,decideTask_grown positive opened]
    rfl
  · change task.quantity + _ ≠ task.quantity
    omega
  · rw [decideTask_grown positive opened]
    rfl

end Evaluations

namespace Sample

def asked : Database :=
  evaluated platform settings shortBackroom manager ⟨storeId,[]⟩ (7 / 10) 0 taskId

def askedAgain : Attempt (EvaluationResult × Replenishment) :=
  evaluateReplenishment platform settings asked manager ⟨storeId,[]⟩ (7 / 10) 0 laterId

def askedTask (outcome : EvaluationResult × Replenishment) : Option ReplenishmentTask :=
  outcome.2.activeTask storeId skuId

theorem asked_grows :
    (askedAgain.toOption.bind askedTask).map ReplenishmentTask.quantity = some 6 ∧
      (asked.replenishment.activeTask storeId skuId).map ReplenishmentTask.quantity = some 3 ∧
      ∀ snapshot ∈ inventorySnapshots platform settings asked ⟨storeId,[]⟩ 0,
        snapshot.backroomQty = 3 := by
  decide +kernel

end Sample

namespace Sample

theorem first_nonnegative : (0 : ℤ) ≤ 1 := by decide

theorem first_ordered : (1 : ℤ) ≤ 2 := by decide

def firstRule : PolicyRule :=
  { rule with
    minFloorQty := 1, targetFloorQty := 2, minimumNonnegative := first_nonnegative
    targetAtLeastMinimum := first_ordered }

/-- The tenant once its backroom of three was asked for two, of which it now wants three. -/
def raised : Database :=
  { evaluated platform settings { shortBackroom with policies := onlyRule firstRule } manager
      ⟨storeId,[]⟩ (7 / 10) 0 taskId with
    policies := onlyRule modestRule }

theorem raised_stock : raised.replenishment.activeQuantities = [(87,2)] ∧
    (∀ task ∈ raised.replenishment.tasks.rows, task.id = 87) ∧
    ∀ snapshot ∈ inventorySnapshots platform settings raised ⟨storeId,[]⟩ 0,
      snapshot.floorQty = 0 ∧ snapshot.backroomQty = 3 ∧
        selectPolicyRule platform (activeRules raised.policies) storeId snapshot.item =
          .ok (some modestRule) := by decide +kernel

theorem raised_covers : GrowthCovered platform settings raised manager ⟨storeId,[]⟩ (7 / 10) 0 := by
  intro _ _ snapshot member _ rule selected _ _ _
  obtain ⟨floor,backroom,modest⟩ := raised_stock.2.2 snapshot member
  rw [modest] at selected
  cases selected
  rw [floor,backroom]
  exact Int.le_refl 3

theorem laterId_fresh (skuId : Uuid) : raised.replenishment.tasks.find? (laterId skuId) = none := by
  obtain ⟨-,only,-⟩ := raised_stock
  apply (Table.find?_eq_none_iff _ _).mpr
  intro task member same
  have equal : (87 : ℕ) = 90 + skuId := (only task member).symm.trans same
  omega

end Sample

end Abacus

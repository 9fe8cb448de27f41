import Abacus.Model.Sample
import Abacus.Replenishment.Evaluation

/-! Evaluating twice.
The quantity already in the open task is taken off what the floor lacks, but not off what the
backroom holds. So a backroom that cannot cover the shortage is requested again and again.
-/
set_option autoImplicit false

namespace Abacus

open Relational (Table)

section Snapshots

variable {platform : Platform} {rules : List PolicyRule} {storeId : Uuid} {minimumConfidence : ℚ}
  {active : Option ReplenishmentTask} {taskId laterId : Uuid} {snapshot : InventorySnapshot}
  {outcome second : EvaluationOutcome}

def EvaluationOutcome.quiet (outcome : EvaluationOutcome) : Prop :=
  outcome.createdId? = none ∧ outcome.grownId? = none

/-- The backroom covers what the open task leaves of the shortage, or is empty. -/
def InventorySnapshot.Covered (platform : Platform) (rules : List PolicyRule) (storeId : Uuid)
    (active : Option ReplenishmentTask) (snapshot : InventorySnapshot) : Prop :=
  ∀ rule, selectPolicyRule platform rules storeId snapshot.item = .ok (some rule) →
    snapshot.floorQty < rule.minFloorQty → (∀ task ∈ active, task.status = .open) →
    snapshot.backroomQty ≤ 0 ∨
      rule.targetFloorQty - snapshot.floorQty - active.elim 0 ReplenishmentTask.quantity ≤
        snapshot.backroomQty

theorem shortage_eq (snapshot : InventorySnapshot) (rule : PolicyRule) (task : Option ReplenishmentTask) :
    snapshot.shortage rule task = if rule.minFloorQty ≤ snapshot.floorQty then 0
      else min snapshot.backroomQty
        (max 0 (rule.targetFloorQty - snapshot.floorQty - task.elim 0 ReplenishmentTask.quantity)) :=
  rfl

theorem decideTask_twice (storeId : Uuid) (active : Option ReplenishmentTask)
    (taskId laterId : Uuid) (snapshot : InventorySnapshot) (rule : PolicyRule) :
    (decideTask storeId ((decideTask storeId active taskId snapshot rule).activeAfter active) laterId
      snapshot rule).createdId? = none ∧
    ((decideTask storeId ((decideTask storeId active taskId snapshot rule).activeAfter active) laterId
      snapshot rule).grownId? = none ↔
      (snapshot.floorQty < rule.minFloorQty → (∀ task ∈ active, task.status = .open) →
        snapshot.backroomQty ≤ 0 ∨ rule.targetFloorQty - snapshot.floorQty -
          active.elim 0 ReplenishmentTask.quantity ≤ snapshot.backroomQty)) := by
  by_cases positive : 0 < snapshot.shortage rule active
  · -- The first evaluation asks for something; what it asks for counts as open in the second.
    have asked := positive
    rw [shortage_eq] at asked
    split at asked
    · exact absurd asked (lt_irrefl 0)
    · rename_i short
      have again : ∀ task : ReplenishmentTask, task.status = .open →
          task.quantity = active.elim 0 ReplenishmentTask.quantity + snapshot.shortage rule active →
          (decideTask storeId (some task) laterId snapshot rule).createdId? = none ∧
          ((decideTask storeId (some task) laterId snapshot rule).grownId? = none ↔
            rule.targetFloorQty - snapshot.floorQty - active.elim 0 ReplenishmentTask.quantity ≤
              snapshot.backroomQty) := by
        intro task opened amount
        have first := shortage_eq snapshot rule active
        have second := shortage_eq snapshot rule (some task)
        rw [if_neg short] at first second
        rw [Option.elim_some,amount] at second
        by_cases lacking : 0 < snapshot.shortage rule (some task)
        · rw [decideTask_grown lacking opened]
          refine ⟨rfl,fun nothing => (by cases nothing),fun enough => ?_⟩
          omega
        · rw [decideTask_covered lacking]
          refine ⟨rfl,fun _ => ?_,fun _ => rfl⟩
          omega
      cases active with
      | none =>
          rw [decideTask_created positive]
          obtain ⟨created,grown⟩ := again (newTask taskId storeId snapshot.item.skuId rule
            (snapshot.shortage rule none) positive) rfl (by simp [newTask])
          refine ⟨created,grown.trans ⟨fun enough _ _ => .inr enough,fun covers => ?_⟩⟩
          rcases covers (not_le.mp short) (fun _ member => by cases member) with empty | enough
          · omega
          · exact enough
      | some task =>
          by_cases opened : task.status = .open
          · rw [decideTask_grown positive opened]
            obtain ⟨created,grown⟩ := again
              (task.grow (snapshot.shortage rule (some task)) positive rule) opened rfl
            refine ⟨created,grown.trans ⟨fun enough _ _ => .inr enough,fun covers => ?_⟩⟩
            rcases covers (not_le.mp short) (fun _ member => by cases member; exact opened) with
              empty | enough
            · omega
            · exact enough
          · rw [decideTask_deferred positive opened]
            simp only [EvaluationOutcome.activeAfter]
            rw [decideTask_deferred positive opened]
            exact ⟨rfl,fun _ _ all => absurd (all task rfl) opened,fun _ => rfl⟩
  · rw [decideTask_covered positive]
    simp only [EvaluationOutcome.activeAfter]
    rw [decideTask_covered positive]
    refine ⟨rfl,fun _ short _ => ?_,fun _ => rfl⟩
    rw [shortage_eq,if_neg (not_le.mpr short)] at positive
    omega

/-- The second outcome for a SKU: never a new task, and no larger one exactly if the backroom
covers. -/
theorem evaluateSnapshot_twice
    (first : evaluateSnapshot platform rules storeId minimumConfidence active taskId snapshot =
      .ok outcome)
    (again : evaluateSnapshot platform rules storeId minimumConfidence (outcome.activeAfter active)
      laterId snapshot = .ok second) :
    second.createdId? = none ∧
      (second.grownId? = none ↔ (minimumConfidence ≤ snapshot.confidence →
        snapshot.Covered platform rules storeId active)) := by
  unfold evaluateSnapshot at first again
  split at first
  · rename_i low
    rw [if_pos low] at again
    cases again
    exact ⟨rfl,fun _ enough => absurd low (not_lt.mpr enough),fun _ => rfl⟩
  · rename_i enough
    rw [if_neg enough] at again
    split at first
    · cases first
    · rename_i unmatched
      rw [unmatched] at again
      cases again
      refine ⟨rfl,fun _ _ rule selected => ?_,fun _ => rfl⟩
      rw [unmatched] at selected
      cases selected
    · rename_i rule selected
      rw [selected] at again
      cases first
      cases again
      obtain ⟨created,grown⟩ := decideTask_twice storeId active taskId laterId snapshot rule
      refine ⟨created,grown.trans ⟨fun covers _ other same => ?_,fun covers => ?_⟩⟩
      · rw [selected] at same
        cases same
        exact covers
      · exact covers (not_lt.mp enough) rule selected

end Snapshots

section Recording

variable {replenishment after : Replenishment} {outcomes : List EvaluationOutcome}

theorem Replenishment.recordAll_of_quiet (replenishment : Replenishment)
    (quiet : ∀ outcome ∈ outcomes, outcome.createdId? = none ∧ outcome.grownId? = none) :
    replenishment.recordAll outcomes = some replenishment := by
  induction outcomes with
  | nil => rfl
  | cons outcome outcomes ih =>
      have still : replenishment.record outcome = some replenishment := by
        have here := quiet outcome (List.mem_cons_self ..)
        cases outcome with
        | created task => cases here.1
        | grown taskId quantity positive rule => cases here.2
        | _ => rfl
      rw [Replenishment.recordAll,still]
      exact ih fun other member => quiet other (List.mem_cons_of_mem _ member)

/-- Only a new task can be refused. -/
theorem Replenishment.recordAll_of_no_created (replenishment : Replenishment)
    (none_created : ∀ outcome ∈ outcomes, outcome.createdId? = none) :
    (replenishment.recordAll outcomes).isSome = true := by
  induction outcomes generalizing replenishment with
  | nil => rfl
  | cons outcome outcomes ih =>
      have rest := fun other member => none_created other (List.mem_cons_of_mem outcome member)
      cases outcome with
      | created task => cases none_created _ (List.mem_cons_self ..)
      | _ => exact ih _ rest

theorem Replenishment.recordAll_keeps (recorded : replenishment.recordAll outcomes = some after)
    {taskId : Uuid} (stored : (replenishment.tasks.find? taskId).isSome = true) :
    (after.tasks.find? taskId).isSome = true := by
  induction outcomes generalizing replenishment with
  | nil =>
      cases recorded
      exact stored
  | cons outcome outcomes ih =>
      obtain ⟨middle,first,rest⟩ := Option.bind_eq_some_iff.mp recorded
      apply ih rest
      cases outcome with
      | created task =>
          obtain ⟨-,written,-⟩ := Replenishment.insertTask_spec first
          rw [Table.find?_insert written]
          split
          · rfl
          · exact stored
      | grown grownId quantity positive rule =>
          cases first
          have kept := Table.find?_modify replenishment.tasks grownId taskId
            (ReplenishmentTask.grow quantity positive rule)
            (ReplenishmentTask.grow_id quantity positive rule)
          refine (congrArg Option.isSome kept).trans ?_
          split
          · rename_i same
            rw [Option.isSome_map,← same]
            exact stored
          · exact stored
      | _ => cases first; exact stored

end Recording

section Evaluations

variable (platform : Platform) (settings : Settings) (db : Database) (principal : Principal)
  (request : ReplenishmentEvaluationCreate) (minimumConfidence : ℚ) (evaluatedAt : Time)
  (taskId laterId : Uuid → Uuid)

/-- The tenant after an evaluation; a refused one rolls back. -/
def evaluated : Database :=
  match evaluateReplenishment platform settings db principal request minimumConfidence evaluatedAt
      taskId with
  | .ok (_,replenishment) => { db with replenishment }
  | .error _ => db

def Replenishment.activeQuantities (replenishment : Replenishment) : List (Uuid × ℤ) :=
  (replenishment.tasks.select fun task => task.status.active).map fun task =>
    (task.id,task.quantity)

/-- The second of two evaluations creates no task and grows none. -/
def EvaluationRepeats : Prop :=
  ∀ result replenishment,
    evaluateReplenishment platform settings
      (evaluated platform settings db principal request minimumConfidence evaluatedAt taskId) principal
      request minimumConfidence evaluatedAt laterId = .ok (result,replenishment) →
    result.tasks = [] ∧ result.updatedTasks = [] ∧ replenishment.activeQuantities =
      (evaluated platform settings db principal request minimumConfidence evaluatedAt
        taskId).replenishment.activeQuantities

/-- If the evaluation gets to its tasks, the backroom covers the shortage of every SKU that may get
one, or is empty. -/
def BackroomCovers : Prop :=
  EvaluationOpens settings db principal request evaluatedAt →
    RulesSelect platform settings db request minimumConfidence evaluatedAt →
    ∀ snapshot ∈ inventorySnapshots platform settings db request evaluatedAt,
      minimumConfidence ≤ snapshot.confidence →
      snapshot.Covered platform (activeRules db.policies) request.storeId
        (db.replenishment.activeTask request.storeId snapshot.item.skuId)

theorem evaluated_eq :
    ∃ replenishment, evaluated platform settings db principal request minimumConfidence evaluatedAt
      taskId = { db with replenishment } := by
  unfold evaluated
  split
  · exact ⟨_,rfl⟩
  · exact ⟨db.replenishment,rfl⟩

variable {platform settings db principal request minimumConfidence evaluatedAt taskId laterId}

/-- The second evaluation decides on the same snapshots, with the tasks of the first. -/
theorem evaluateAgain (laterId : Uuid → Uuid) (apart : Function.Injective taskId)
    (fresh : ∀ skuId, db.replenishment.tasks.find? (taskId skuId) = none)
    (opens : EvaluationOpens settings db principal request evaluatedAt)
    (ruled : (activeRules db.policies).isEmpty = false) {outcomes : List EvaluationOutcome}
    (decided : evaluationOutcomes platform settings db request minimumConfidence evaluatedAt taskId =
      .ok outcomes) :
    ∃ replenishment later again,
      evaluated platform settings db principal request minimumConfidence evaluatedAt taskId =
        { db with replenishment } ∧
      replenishment.recordAll later = some again ∧
      evaluateReplenishment platform settings { db with replenishment } principal request
        minimumConfidence evaluatedAt laterId =
          .ok (evaluationResult request.storeId later again,again) ∧
      (∀ outcome ∈ later, outcome.createdId? = none) ∧
      (∀ outcome ∈ later, ∀ id, outcome.grownId? = some id →
        (replenishment.tasks.find? id).isSome = true) ∧
      ((∀ outcome ∈ later, outcome.grownId? = none) ↔
        ∀ snapshot ∈ inventorySnapshots platform settings db request evaluatedAt,
          minimumConfidence ≤ snapshot.confidence →
          snapshot.Covered platform (activeRules db.policies) request.storeId
            (db.replenishment.activeTask request.storeId snapshot.item.skuId)) := by
  obtain ⟨replenishment,recorded,accepted⟩ :=
    evaluateReplenishment_decides apart fresh opens ruled decided
  have first := (recordAll_decides decided recorded).1
  have written : evaluated platform settings db principal request minimumConfidence evaluatedAt
      taskId = { db with replenishment } := by
    unfold evaluated
    rw [accepted]
  set after : Database := { db with replenishment } with afterDef
  have select : RulesSelect platform settings db request minimumConfidence evaluatedAt :=
    (evaluationOutcomes_ok_iff taskId).mp ⟨outcomes,decided⟩
  cases second : evaluationOutcomes platform settings after request minimumConfidence evaluatedAt
      laterId with
  | error failure =>
      have again : RulesSelect platform settings after request minimumConfidence evaluatedAt := select
      obtain ⟨later,decidedAgain⟩ := (evaluationOutcomes_ok_iff laterId).mpr again
      rw [second] at decidedAgain
      cases decidedAgain
  | ok later =>
      obtain ⟨decisions,snapshots,outcomes,all⟩ := decisions_of_outcomes (mapM_eq_ok.mp second)
      have twice : ∀ decision ∈ decisions, decision.2.createdId? = none ∧
          (decision.2.grownId? = none ↔ (minimumConfidence ≤ decision.1.confidence →
            decision.1.Covered platform (activeRules db.policies) request.storeId
              (db.replenishment.activeTask request.storeId decision.1.item.skuId))) := by
        intro decision member
        have listed : decision.1 ∈ inventorySnapshots platform settings db request evaluatedAt := by
          have place := List.mem_map_of_mem (f := Prod.fst) member
          rw [snapshots] at place
          exact place
        obtain ⟨outcome,accepted,active⟩ := first decision.1 listed
        have again := all decision member
        change evaluateSnapshot platform (activeRules db.policies) request.storeId minimumConfidence
          (replenishment.activeTask request.storeId decision.1.item.skuId) _ decision.1 = _ at again
        rw [active] at again
        exact evaluateSnapshot_twice accepted again
      have none_created : ∀ outcome ∈ later, outcome.createdId? = none := by
        intro outcome member
        rw [← outcomes] at member
        obtain ⟨decision,place,rfl⟩ := List.mem_map.mp member
        exact (twice decision place).1
      obtain ⟨again,recorded⟩ := Option.isSome_iff_exists.mp
        (Replenishment.recordAll_of_no_created replenishment none_created)
      refine ⟨replenishment,later,again,written,recorded,?_,none_created,?_,?_⟩
      · have reopened : EvaluationOpens settings after principal request evaluatedAt := opens
        rw [evaluateReplenishment_open reopened ruled,second]
        dsimp only [bind,Except.bind]
        rw [recorded]
      · intro outcome member id grown
        rw [← outcomes] at member
        obtain ⟨decision,place,rfl⟩ := List.mem_map.mp member
        have target := (evaluateSnapshot_targets (all decision place)).1
        cases kind : decision.2 with
        | grown taskId quantity positive rule =>
            rw [kind] at target grown
            cases grown
            obtain ⟨task,found,rfl⟩ := target
            have stored := (Replenishment.activeTask_eq_some_iff.mp found).1
            rw [Table.find?_of_mem stored]
            rfl
        | _ =>
            rw [kind] at grown
            cases grown
      · constructor
        · intro quiet snapshot member enough
          have listed : snapshot ∈ decisions.map Prod.fst := by
            rw [snapshots]
            exact member
          obtain ⟨decision,place,rfl⟩ := List.mem_map.mp listed
          have still : decision.2.grownId? = none :=
            quiet decision.2 (by rw [← outcomes]; exact List.mem_map_of_mem place)
          exact (twice decision place).2.mp still enough
        · intro covers outcome member
          rw [← outcomes] at member
          obtain ⟨decision,place,rfl⟩ := List.mem_map.mp member
          have listed : decision.1 ∈ inventorySnapshots platform settings db request evaluatedAt := by
            have inside := List.mem_map_of_mem (f := Prod.fst) place
            rw [snapshots] at inside
            exact inside
          exact (twice decision place).2.mpr (covers decision.1 listed)

theorem selectPolicyRule_of_no_rules (storeId : Uuid) (item : SkuContext) :
    selectPolicyRule platform [] storeId item = .ok none := rfl

end Evaluations

namespace Sample

def item (epc : Epc) (zoneId : Uuid) : CurrentItemState where
  epc := epc
  skuId := skuId
  location := some ⟨storeId,zoneId⟩
  lastObservedAt := 0
  lastReceivedAt := 0
  confidence := certain
  stateVersion := 1
  positiveVersion := firstVersion

def projected (zoneId : Uuid) (quantity : ℤ) : InventoryProjection where
  storeId := storeId
  skuId := skuId
  zoneId := zoneId
  quantity := quantity
  asOf := 0
  confidence := certain
  freshnessStatus := .live

/-- Three items in the backroom and none on the floor, for which a rule wants ten. -/
def shortBackroom : Database :=
  { database with
    connectivity := liveStore
    inventory := { emptyInventory with
      items := ⟨[item "urn:epc:1" backroomId,item "urn:epc:2" backroomId,
        item "urn:epc:3" backroomId],by decide⟩
      projections := ⟨[projected backroomId 3],by decide⟩ }
    policies := policies }

def laterId (skuId : Uuid) : Uuid := 90 + skuId

end Sample

namespace Sample

theorem modest_nonnegative : (0 : ℤ) ≤ 2 := by decide

theorem modest_ordered : (2 : ℤ) ≤ 3 := by decide

def modestRule : PolicyRule :=
  { rule with
    minFloorQty := 2, targetFloorQty := 3, minimumNonnegative := modest_nonnegative
    targetAtLeastMinimum := modest_ordered }

def onlyRule (rule : PolicyRule) : Policies :=
  { policies with rules := ⟨[rule],List.nodup_singleton _⟩ }

def coveredBackroom : Database := { shortBackroom with policies := onlyRule modestRule }

theorem coveredBackroom_snapshots :
    ∀ snapshot ∈ inventorySnapshots platform settings coveredBackroom ⟨storeId,[]⟩ 0,
      snapshot.floorQty = 0 ∧ snapshot.backroomQty = 3 ∧
        selectPolicyRule platform (activeRules coveredBackroom.policies) storeId snapshot.item =
          .ok (some modestRule) := by decide +kernel

theorem coveredBackroom_covers : BackroomCovers platform settings coveredBackroom manager
    ⟨storeId,[]⟩ (7 / 10) 0 := by
  intro _ _ snapshot member _ rule selected _ _
  obtain ⟨floor,backroom,modest⟩ := coveredBackroom_snapshots snapshot member
  rw [modest] at selected
  cases selected
  right
  rw [floor,backroom]
  exact Int.le_refl 3

end Sample

end Abacus

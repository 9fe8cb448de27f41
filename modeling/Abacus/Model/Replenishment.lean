import Abacus.Model.Security
import Abacus.Model.StreamingInventory

/-! Replenishment policies and their evaluation (`services/replenishment.py`). -/
set_option autoImplicit false

namespace Abacus

open Relational (Table OrderedDict)

section Rules

structure SkuContext where
  skuId : Uuid
  styleCode : String
  category : String
  size : String
deriving DecidableEq, Repr

inductive SelectorKind where
  | sku | style | category | default
deriving DecidableEq, Repr

/-- `_selector_kind`. -/
def PolicyRule.selectorKind (rule : PolicyRule) : SelectorKind :=
  if rule.skuId.isSome then .sku
  else if rule.styleCode.isSome then .style
  else if rule.category.isSome then .category
  else .default

def sameFolded (platform : Platform) (selector : Option String) (text : String) : Bool :=
  selector.any fun selector => decide (platform.casefold selector = platform.casefold text)

def rulePrecedence (platform : Platform) (rule : PolicyRule) (storeId : Uuid) (item : SkuContext) :
    Option ℕ :=
  if rule.storeId.any fun scope => decide (scope ≠ storeId) then none
  else
    match rule.selectorKind with
    | .sku =>
        if rule.skuId ≠ some item.skuId then none
        else if rule.size.isSome ∧ ¬sameFolded platform rule.size item.size then none
        else some (if rule.storeId.isNone then 4 else 7)
    | .style =>
        if ¬sameFolded platform rule.styleCode item.styleCode then none
        else some (if rule.storeId.isNone then 3 else 6)
    | .category =>
        if ¬sameFolded platform rule.category item.category then none
        else some (if rule.storeId.isNone then 2 else 5)
    | .default => if rule.storeId.isNone then some 1 else none

structure RuleCandidate where
  precedence : ℕ
  rule : PolicyRule

def RuleCandidate.rank (candidate : RuleCandidate) : ℕ × ℤ :=
  (candidate.precedence,candidate.rule.priority)

/-- The stable sort by `(precedence, priority)` in reverse. -/
def RuleCandidate.outranks (left right : RuleCandidate) : Bool :=
  decide (right.precedence < left.precedence ∨
    (right.precedence = left.precedence ∧ right.rule.priority ≤ left.rule.priority))

def ruleCandidates (platform : Platform) (rules : List PolicyRule) (storeId : Uuid)
    (item : SkuContext) : List RuleCandidate :=
  (rules.filterMap fun rule => (rulePrecedence platform rule storeId item).map fun precedence =>
    ⟨precedence,rule⟩).insertionSort fun left right => left.outranks right

def selectPolicyRule (platform : Platform) (rules : List PolicyRule) (storeId : Uuid)
    (item : SkuContext) : Attempt (Option PolicyRule) :=
  match ruleCandidates platform rules storeId item with
  | [] => .ok none
  | best :: others =>
      if others.head?.any fun second => decide (second.rank = best.rank) then
        .error (.valueError "equal-priority rules overlap at the same specificity")
      else .ok (some best.rule)

def activeRules (policies : Policies) : List PolicyRule :=
  policies.rules.select fun rule =>
    (policies.versions.find? rule.versionId).any fun version => decide (version.status = .active)

/-- `calculate_replenishment_quantity`. -/
def calculateReplenishmentQuantity (floorQty backroomQty openTaskQty minFloorQty targetFloorQty : ℤ) :
    ℤ :=
  if minFloorQty ≤ floorQty then 0
  else min backroomQty (max 0 (targetFloorQty - floorQty - openTaskQty))

end Rules

section Snapshots

def CurrentItemState.ageSeconds (state : CurrentItemState) (evaluatedAt : Time) : ℚ :=
  max 0 (((evaluatedAt - state.lastObservedAt : ℤ) : ℚ) / 1000000)

def effectiveConfidence (platform : Platform) (settings : Settings) (evaluatedAt : Time)
    (state : CurrentItemState) : ℚ :=
  state.confidence * platform.decay (state.ageSeconds evaluatedAt)
    settings.rfidConfidenceHalfLifeSeconds

def bucketItems (items : Table CurrentItemState.epc) (bucket : Bucket) : List CurrentItemState :=
  items.select fun state => decide (state.bucket? = some bucket)

/-- The columns that the query joins to a bucket: item count and least decayed confidence. A bucket
without items has no row. -/
structure BucketMetadata where
  itemCount : ℕ
  confidence : Option ℚ

/-- `current_inventory_bucket_metadata`. -/
def currentInventoryBucketMetadata (platform : Platform) (settings : Settings)
    (items : Table CurrentItemState.epc) (evaluatedAt : Time) (bucket : Bucket) :
    Option BucketMetadata :=
  match bucketItems items bucket with
  | [] => none
  | state :: states =>
      some {
        itemCount := (state :: states).length
        confidence := ((state :: states).map (effectiveConfidence platform settings evaluatedAt)).min? }

/-- `effective_bucket_confidence`. -/
def effectiveBucketConfidence (projectedQuantity : ℤ) (currentItemCount : Option ℕ)
    (currentConfidence : Option ℚ) : ℚ :=
  match currentItemCount with
  | none => if projectedQuantity = 0 then 1 else 0
  | some count =>
      match currentConfidence with
      | none => 0
      | some confidence => if projectedQuantity ≠ count then 0 else confidence

structure BucketReading where
  item : SkuContext
  kind : ZoneKind
  quantity : ℤ
  confidence : ℚ

/-- The joins of the projection query for one row, and its filter on zone kinds. -/
def readBucket (platform : Platform) (settings : Settings) (db : Database) (evaluatedAt : Time)
    (projection : InventoryProjection) : Option BucketReading := do
  let zone ← db.registry.zones.find? projection.zoneId
  let sku ← db.registry.skus.find? projection.skuId
  let variant ← db.registry.productVariants.find? sku.productVariantId
  let product ← db.registry.products.find? variant.productId
  if sku.active && product.active &&
      (decide (zone.kind = .salesFloor) || decide (zone.kind = .backroom)) then
    let metadata := currentInventoryBucketMetadata platform settings db.inventory.items evaluatedAt
      projection.bucket
    some {
      item := ⟨sku.id,product.styleCode,product.category,sku.size⟩
      kind := zone.kind
      quantity := projection.quantity
      confidence := effectiveBucketConfidence projection.quantity
        (metadata.map BucketMetadata.itemCount) (metadata.bind BucketMetadata.confidence) }
  else none

structure InventorySnapshot where
  item : SkuContext
  floorQty : ℤ
  backroomQty : ℤ
  confidence : ℚ

def InventorySnapshot.absorb (snapshot : InventorySnapshot) (reading : BucketReading) :
    InventorySnapshot where
  item := snapshot.item
  floorQty := snapshot.floorQty + if reading.kind = .salesFloor then reading.quantity else 0
  backroomQty := snapshot.backroomQty + if reading.kind = .salesFloor then 0 else reading.quantity
  confidence := min snapshot.confidence reading.confidence

def snapshotOf : List BucketReading → Option InventorySnapshot
  | [] => none
  | reading :: readings =>
      some ((reading :: readings).foldl InventorySnapshot.absorb ⟨reading.item,0,0,1⟩)

structure ReplenishmentEvaluationCreate where
  storeId : Uuid
  skuIds : List Uuid := []

def bucketReadings (platform : Platform) (settings : Settings) (db : Database)
    (request : ReplenishmentEvaluationCreate) (evaluatedAt : Time) : List BucketReading :=
  (db.inventory.projections.select fun projection =>
    decide (projection.storeId = request.storeId) &&
      (request.skuIds.isEmpty || decide (projection.skuId ∈ request.skuIds))).filterMap
    (readBucket platform settings db evaluatedAt)

def inventorySnapshots (platform : Platform) (settings : Settings) (db : Database)
    (request : ReplenishmentEvaluationCreate) (evaluatedAt : Time) : List InventorySnapshot :=
  (OrderedDict.groupBy (fun reading => reading.item.skuId)
    (bucketReadings platform settings db request evaluatedAt)).values.filterMap snapshotOf

end Snapshots

section Tasks

/-- The active task of a store and SKU: the unique index allows at most one. -/
def Replenishment.activeTask (replenishment : Replenishment) (storeId skuId : Uuid) :
    Option ReplenishmentTask :=
  replenishment.tasks.rows.find? fun task =>
    decide (task.storeId = storeId) && decide (task.skuId = skuId) && task.status.active

def Replenishment.insertTask (replenishment : Replenishment) (task : ReplenishmentTask) :
    Option Replenishment :=
  if conflict : (replenishment.activeTask task.storeId task.skuId).isSome then none
  else
    match inserted : replenishment.tasks.insert task with
    | none => none
    | some tasks => some {
        tasks
        evidence := replenishment.evidence
        oneActive := by
          have absent : ∀ other ∈ replenishment.tasks.rows, other.status.active = true →
              other.storeId = task.storeId → other.skuId = task.skuId → False := by
            intro other member active store sku
            apply conflict
            rw [Replenishment.activeTask,List.find?_isSome]
            exact ⟨other,member,by simp [store,sku,active]⟩
          intro first firstMember second secondMember firstActive secondActive store sku
          rcases (Table.mem_insert inserted).mp firstMember with left | rfl
          · rcases (Table.mem_insert inserted).mp secondMember with right | rfl
            · exact replenishment.oneActive first left second right firstActive secondActive store sku
            · exact (absent first left firstActive store sku).elim
          · rcases (Table.mem_insert inserted).mp secondMember with right | rfl
            · exact (absent second right secondActive store.symm sku.symm).elim
            · rfl }

def ReplenishmentTask.grow (quantity : ℤ) (positive : 0 < quantity) (rule : PolicyRule)
    (task : ReplenishmentTask) : ReplenishmentTask :=
  { task with
    quantity := task.quantity + quantity
    version := task.version + 1
    policyVersionId := rule.versionId
    policyRuleId := rule.id
    positiveQuantity := by have := task.positiveQuantity; omega
    positiveVersion := by omega
    verifiedInRange := by have := task.verifiedInRange; omega }

@[simp] theorem ReplenishmentTask.grow_id (quantity : ℤ) (positive : 0 < quantity)
    (rule : PolicyRule) (task : ReplenishmentTask) : (task.grow quantity positive rule).id = task.id :=
  rfl

def newTask (id storeId skuId : Uuid) (rule : PolicyRule) (quantity : ℤ) (positive : 0 < quantity) :
    ReplenishmentTask where
  id := id
  storeId := storeId
  skuId := skuId
  policyVersionId := rule.versionId
  policyRuleId := rule.id
  status := .open
  quantity := quantity
  version := 1
  positiveQuantity := positive
  positiveVersion := Nat.le_refl 1
  verifiedInRange := ⟨Int.le_refl 0,Int.le_of_lt positive⟩

end Tasks

section Evaluation

inductive EvaluationOutcome where
  | lowConfidence
  | unmatched
  | covered
  | grown (taskId : Uuid) (quantity : ℤ) (positive : 0 < quantity) (rule : PolicyRule)
  | deferred (quantity : ℤ)
  | created (task : ReplenishmentTask)

def ambiguousActivePolicy : Failure :=
  .apiError 409 "Ambiguous active policy" "Equal-priority active rules match this SKU."
    (some "active_policy_overlap")

def evaluationConflict : Failure :=
  .apiError 409 "Evaluation conflict"
    "An active task was created concurrently; retry the evaluation."
    (some "replenishment_evaluation_conflict")

def InventorySnapshot.shortage (snapshot : InventorySnapshot) (rule : PolicyRule)
    (active : Option ReplenishmentTask) : ℤ :=
  calculateReplenishmentQuantity snapshot.floorQty snapshot.backroomQty
    (active.elim 0 ReplenishmentTask.quantity) rule.minFloorQty rule.targetFloorQty

def decideTask (storeId : Uuid) (active : Option ReplenishmentTask) (taskId : Uuid)
    (snapshot : InventorySnapshot) (rule : PolicyRule) : EvaluationOutcome :=
  let quantity := snapshot.shortage rule active
  if positive : 0 < quantity then
    match active with
    | some task =>
        if task.status = .open then .grown task.id quantity positive rule else .deferred quantity
    | none => .created (newTask taskId storeId snapshot.item.skuId rule quantity positive)
  else .covered

/-- The body of the evaluation's loop over snapshots. -/
def evaluateSnapshot (platform : Platform) (rules : List PolicyRule) (storeId : Uuid)
    (minimumConfidence : ℚ) (active : Option ReplenishmentTask) (taskId : Uuid)
    (snapshot : InventorySnapshot) : Attempt EvaluationOutcome :=
  if snapshot.confidence < minimumConfidence then .ok .lowConfidence
  else
    match selectPolicyRule platform rules storeId snapshot.item with
    | .error _ => .error ambiguousActivePolicy
    | .ok none => .ok .unmatched
    | .ok (some rule) => .ok (decideTask storeId active taskId snapshot rule)

def Replenishment.record (replenishment : Replenishment) : EvaluationOutcome → Option Replenishment
  | .created task => replenishment.insertTask task
  | .grown taskId quantity positive rule =>
      some (replenishment.modifyTask taskId (ReplenishmentTask.grow quantity positive rule)
        (ReplenishmentTask.grow_id quantity positive rule) (fun _ => ⟨id,rfl,rfl⟩))
  | _ => some replenishment

def Replenishment.recordAll (replenishment : Replenishment) :
    List EvaluationOutcome → Option Replenishment
  | [] => some replenishment
  | outcome :: outcomes => (replenishment.record outcome).bind fun after => after.recordAll outcomes

def EvaluationOutcome.deferredQuantity? : EvaluationOutcome → Option ℤ
  | .deferred quantity => some quantity
  | _ => none

def EvaluationOutcome.createdId? : EvaluationOutcome → Option Uuid
  | .created task => some task.id
  | _ => none

def EvaluationOutcome.grownId? : EvaluationOutcome → Option Uuid
  | .grown taskId _ _ _ => some taskId
  | _ => none

def EvaluationOutcome.isLowConfidence : EvaluationOutcome → Bool
  | .lowConfidence => true
  | _ => false

structure EvaluationResult where
  storeId : Uuid
  tasks : List ReplenishmentTask := []
  updatedTasks : List ReplenishmentTask := []
  suppressedConnectivity : Bool := false
  suppressedLowConfidence : ℕ := 0
  deferredCount : ℕ := 0
  deferredQuantity : ℤ := 0

def evaluationResult (storeId : Uuid) (outcomes : List EvaluationOutcome)
    (replenishment : Replenishment) : EvaluationResult where
  storeId := storeId
  tasks := (outcomes.filterMap EvaluationOutcome.createdId?).filterMap replenishment.tasks.find?
  updatedTasks := (outcomes.filterMap EvaluationOutcome.grownId?).filterMap replenishment.tasks.find?
  suppressedLowConfidence := outcomes.countP EvaluationOutcome.isLowConfidence
  deferredCount := (outcomes.filterMap EvaluationOutcome.deferredQuantity?).length
  deferredQuantity := (outcomes.filterMap EvaluationOutcome.deferredQuantity?).sum

def evaluationOutcomes (platform : Platform) (settings : Settings) (db : Database)
    (request : ReplenishmentEvaluationCreate) (minimumConfidence : ℚ) (evaluatedAt : Time)
    (taskId : Uuid → Uuid) : Attempt (List EvaluationOutcome) :=
  (inventorySnapshots platform settings db request evaluatedAt).mapM fun snapshot =>
    evaluateSnapshot platform (activeRules db.policies) request.storeId minimumConfidence
      (db.replenishment.activeTask request.storeId snapshot.item.skuId)
      (taskId snapshot.item.skuId) snapshot

/-- `evaluate_replenishment` of one store. `taskId` is the `uuid4` default of a new task's id. -/
def evaluateReplenishment (platform : Platform) (settings : Settings) (db : Database)
    (principal : Principal) (request : ReplenishmentEvaluationCreate) (minimumConfidence : ℚ)
    (evaluatedAt : Time) (taskId : Uuid → Uuid) : Attempt (EvaluationResult × Replenishment) := do
  ensureStoreScope principal .replenishmentManage request.storeId
  if ¬(db.registry.stores.find? request.storeId).any fun store => decide (store.status = .active) then
    .error (.apiError 404 "Store not found" "The requested store does not exist." none)
  else if effectiveFreshness (db.connectivity.find? request.storeId) settings evaluatedAt ≠ .live then
    return ({ storeId := request.storeId, suppressedConnectivity := true },db.replenishment)
  else if (activeRules db.policies).isEmpty then
    return ({ storeId := request.storeId },db.replenishment)
  else do
    let outcomes ← evaluationOutcomes platform settings db request minimumConfidence evaluatedAt taskId
    match db.replenishment.recordAll outcomes with
    | none => .error evaluationConflict
    | some replenishment =>
        return (evaluationResult request.storeId outcomes replenishment,replenishment)

end Evaluation

end Abacus

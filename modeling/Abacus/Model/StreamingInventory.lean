import Abacus.Model.Ingress
import Abacus.Model.RecentObservations

/-! Observation processing, delta application and projection rebuild
(`services/streaming_inventory.py`).
-/
set_option autoImplicit false

namespace Abacus

open Relational (Table)

inductive ProcessingDisposition where
  | processed | duplicate | late | quarantined | ambiguous | removedItemObserved
deriving DecidableEq, Repr

inductive ProcessingReason where
  | rejected (reason : RejectionReason)
  | observedAtBeforeCurrentState | authoritativelyRemoved | stableEvidenceBeforeCurrentState
deriving DecidableEq, Repr

structure ProcessingResult where
  disposition : ProcessingDisposition
  reason : Option ProcessingReason := none
  stateChanged : Bool := false
deriving DecidableEq, Repr

def ProcessingDisposition.stored : ProcessingDisposition → Disposition
  | .processed => .processed
  | .duplicate => .duplicate
  | .late => .late
  | .quarantined => .quarantined
  | .ambiguous => .ambiguous
  | .removedItemObserved => .removedItemObserved

/-- The instants one transaction reads: its start and its successive calls of `datetime.now`. -/
structure Clock where
  started : Time
  processor : Time
  replay : Time
  finalized : Time

section Lookups

/-- The worker side's `_resolve_effective_assignment`. -/
def resolveEffectiveAssignment (registry : Registry) (event : RfidObservationEvent) :
    Except RejectionReason DeviceAssignment :=
  match registry.devices.find? event.deviceId with
  | none => .error .unknownDevice
  | some device =>
      if device.status ≠ .active then .error .inactiveDevice
      else
        match ((registry.deviceAssignments.select fun assignment =>
            decide (assignment.deviceId = event.deviceId) &&
              inForce assignment.effectiveFrom assignment.effectiveTo event.observedAt).insertionSort
            fun left right => right.effectiveFrom ≤ left.effectiveFrom).head? with
        | none => .error .deviceAssignmentUnavailable
        | some assignment =>
            if assignment.storeId ≠ event.storeId ∨ assignment.zoneId ≠ event.zoneId then
              .error .deviceAssignmentMismatch
            else .ok assignment

def effectiveBinding (registry : Registry) (epc : Epc) (instant : Time) : Option EpcBinding :=
  ((registry.epcBindings.select fun binding =>
      decide (binding.epc = epc) &&
        inForce binding.effectiveFrom binding.effectiveTo instant).insertionSort
    fun left right => right.effectiveFrom ≤ left.effectiveFrom).head?

def currentBinding (registry : Registry) (epc : Epc) (now : Time) : Option EpcBinding :=
  ((registry.epcBindings.select fun binding =>
      decide (binding.epc = epc) && decide (binding.effectiveFrom ≤ now) &&
        binding.effectiveTo.isNone).insertionSort
    fun left right => right.effectiveFrom ≤ left.effectiveFrom).head?

/-- The explicit replay of an unknown-EPC read authorizes the current binding. -/
def replayBinding (registry : Registry) (ingress : Ingress) (event : RfidObservationEvent)
    (now : Time) : Option EpcBinding :=
  match event.replayedFromQuarantineId with
  | none => none
  | some quarantineId =>
      match ingress.quarantine.find? quarantineId with
      | none => none
      | some quarantine =>
          if quarantine.eventId = some event.eventId ∧ quarantine.reason = .unknownEpc then
            currentBinding registry event.epc now
          else none

/-- The binding that an observation is processed under, and where its evidence starts. Only a
binding in force at the event time clips the evidence window. -/
def resolveBinding (registry : Registry) (ingress : Ingress) (event : RfidObservationEvent)
    (now : Time) : Option (EpcBinding × Option Time) :=
  match effectiveBinding registry event.epc event.observedAt with
  | some binding => some (binding,some binding.effectiveFrom)
  | none => (replayBinding registry ingress event now).map fun binding => (binding,none)

/-- `processed_observation_watermark`. -/
def processedObservationWatermark (ingress : Ingress) (epc : Epc) : Option Time :=
  ((ingress.ledger.select fun row =>
      decide (row.epc = epc) && decide (row.processingStatus = .processed)).map
    RfidObservationEventLedger.observedAt).max?

/-- The latest durable event time of an item: processed reads and the item's own row. -/
def durableWatermark (ingress : Ingress) (state : Option CurrentItemState) (epc : Epc) :
    Option Time :=
  match processedObservationWatermark ingress epc, state with
  | none, none => none
  | some processed, none => some processed
  | none, some state => some state.lastObservedAt
  | some processed, some state => some (max processed state.lastObservedAt)

end Lookups

section Attribution

/-- The candidate tasks of `_attribute_replenishment_move`. -/
def ReplenishmentTask.verifiable (task : ReplenishmentTask) (storeId skuId : Uuid)
    (observedAt : Time) : Bool :=
  decide (task.storeId = storeId) && decide (task.skuId = skuId) &&
    (task.startedAt.any fun started => decide (started ≤ observedAt)) &&
    decide (task.verifiedQuantity < task.quantity) &&
    (decide (task.status = .inProgress) ||
      (decide (task.status = .completed) &&
        task.verificationDeadline.any fun deadline => decide (observedAt ≤ deadline)))

/-- The order `IN_PROGRESS first, started_at DESC, id DESC`. -/
def ReplenishmentTask.verifiesBefore (left right : ReplenishmentTask) : Bool :=
  if decide (left.status = .inProgress) ≠ decide (right.status = .inProgress) then
    decide (left.status = .inProgress)
  else if left.startedAt ≠ right.startedAt then
    decide (right.startedAt.getD 0 < left.startedAt.getD 0)
  else decide (right.id ≤ left.id)

def ReplenishmentTask.verify (task : ReplenishmentTask) : ReplenishmentTask :=
  { task with
    verifiedQuantity := min task.quantity (task.verifiedQuantity + 1)
    version := task.version + 1
    positiveVersion := by omega
    verifiedInRange := by
      have range := task.verifiedInRange
      have positive := task.positiveQuantity
      omega }

@[simp] theorem ReplenishmentTask.verify_id (task : ReplenishmentTask) :
    task.verify.id = task.id := rfl

theorem ReplenishmentTask.verify_inPlace (task : ReplenishmentTask) :
    (task.verify.status.active = true → task.status.active = true) ∧
      task.verify.storeId = task.storeId ∧ task.verify.skuId = task.skuId :=
  ⟨fun active => active,rfl,rfl⟩

/-- The foreign write that keeps the unique index on active tasks: no status changes. -/
def Replenishment.modifyTask (replenishment : Replenishment) (taskId : Uuid)
    (change : ReplenishmentTask → ReplenishmentTask)
    (keepsKey : ∀ task, (change task).id = task.id)
    (keepsIndex : ∀ task, ((change task).status.active → task.status.active) ∧
      (change task).storeId = task.storeId ∧ (change task).skuId = task.skuId) :
    Replenishment where
  tasks := replenishment.tasks.modify taskId change keepsKey
  evidence := replenishment.evidence
  oneActive := by
    intro first firstMember second secondMember firstActive secondActive store sku
    obtain ⟨left,leftMember,rfl⟩ := Relational.Table.mem_updateWhere.mp firstMember
    obtain ⟨right,rightMember,rfl⟩ := Relational.Table.mem_updateWhere.mp secondMember
    have indexed : ∀ task : ReplenishmentTask,
        ((if decide (task.id = taskId) then change task else task).status.active →
          task.status.active) ∧
        (if decide (task.id = taskId) then change task else task).storeId = task.storeId ∧
        (if decide (task.id = taskId) then change task else task).skuId = task.skuId := by
      intro task
      split
      · exact keepsIndex task
      · exact ⟨id,rfl,rfl⟩
    have same := replenishment.oneActive left leftMember right rightMember
      ((indexed left).1 firstActive) ((indexed right).1 secondActive)
      ((indexed left).2.1.symm.trans (store.trans (indexed right).2.1))
      ((indexed left).2.2.symm.trans (sku.trans (indexed right).2.2))
    rw [same]

/-- `_attribute_replenishment_move`: attach one confirmed backroom-to-floor move to at most one
task. -/
def attributeReplenishmentMove (zones : Table Zone.id) (replenishment : Replenishment)
    (transitionId : Uuid) (epc : Epc) (skuId : Uuid) (storeId : Uuid)
    (previousZoneId nextZoneId : Uuid) (observedAt : Time) (evidenceId : Uuid) :
    Attempt Replenishment :=
  let kindOf := fun zoneId => ((zones.find? zoneId).filter fun zone =>
    decide (zone.storeId = storeId)).map Zone.kind
  if kindOf previousZoneId ≠ some .backroom ∨ kindOf nextZoneId ≠ some .salesFloor then
    .ok replenishment
  else
    match ((replenishment.tasks.select fun task =>
        task.verifiable storeId skuId observedAt).insertionSort
        fun left right => left.verifiesBefore right).head? with
    | none => .ok replenishment
    | some task => do
        let evidence ← orIntegrityError "uq_replenishment_task_evidence_transition"
          (replenishment.evidence.insert
            { id := evidenceId, taskId := task.id, transitionId, epc, observedAt })
        return { replenishment.modifyTask task.id ReplenishmentTask.verify ReplenishmentTask.verify_id
          ReplenishmentTask.verify_inPlace with evidence }

end Attribution

section Movement

/-- `_delta_payload`. -/
def deltaPayload (transitionId : Uuid) (epc : Epc) (bucket : Bucket) (quantityDelta : ℤ)
    (unitDelta : -1 ≤ quantityDelta ∧ quantityDelta ≤ 1) (confidence : Confidence)
    (observedAt : Time) : InventoryDeltaEvent where
  deltaId := ⟨transitionId,bucket.skuId,bucket.zoneId⟩
  transitionId := transitionId
  storeId := bucket.storeId
  skuId := bucket.skuId
  zoneId := bucket.zoneId
  epc := epc
  quantityDelta := quantityDelta
  confidence := confidence
  observedAt := observedAt
  unitDelta := unitDelta

def moveDeltas (transitionId : Uuid) (epc : Epc) (source target : Option Bucket)
    (confidence : Confidence) (observedAt : Time) : List InventoryDeltaEvent :=
  (source.toList.map fun bucket =>
    deltaPayload transitionId epc bucket (-1) (by decide) confidence observedAt) ++
  target.toList.map fun bucket =>
    deltaPayload transitionId epc bucket 1 (by decide) confidence observedAt

/-- Write a new version of an item and its transition in one transaction. The unique index on
`(epc, state_version)`, the transition's primary key and the composite location foreign key can
each refuse it. -/
def recordTransition (registry : Registry) (inventory : Inventory) (next : CurrentItemState)
    (transitionId : Uuid) (deltas : List InventoryDeltaEvent) (createdAt : Time) :
    Attempt Inventory := do
  if !next.location.all fun location => registry.hasZone location then
    .error (.integrityError "fk_current_item_state_tenant_store_zone")
  else if inventory.transitions.rows.any fun row =>
      decide (row.epc = next.epc) && decide (row.stateVersion = next.stateVersion) then
    .error (.integrityError "uq_outbox_item_state_version")
  else
    let transitions ← orIntegrityError "inventory_transition_outbox_pkey"
      (inventory.transitions.insert
        { transitionId, epc := next.epc, stateVersion := next.stateVersion,
          deltas := deltas.map DeltaPayload.event, createdAt })
    return { inventory with transitions, items := inventory.items.put next }

def movedState (state : Option CurrentItemState) (event : RfidObservationEvent) (skuId : Uuid)
    (decision : StableZoneDecision) : CurrentItemState where
  epc := event.epc
  skuId := skuId
  location := some decision.location
  lastObservedAt := max event.observedAt decision.observedAt
  lastReceivedAt := max event.receivedAt decision.receivedAt
  confidence := decision.confidence
  stateVersion := (state.elim 0 CurrentItemState.stateVersion) + 1
  positiveVersion := by omega

/-- The moving branch of `process_observation`: a new item version, its transition, and the
attribution of a move within one store and SKU. -/
def moveItem (platform : Platform) (registry : Registry) (inventory : Inventory)
    (replenishment : Replenishment) (state : Option CurrentItemState)
    (event : RfidObservationEvent) (skuId : Uuid) (decision : StableZoneDecision)
    (createdAt : Time) (evidenceId : Uuid) : Attempt (Inventory × Replenishment) := do
  let next := movedState state event skuId decision
  let transitionId := platform.transitionId registry.tenantId event.epc next.stateVersion
  let inventory ← recordTransition registry inventory next transitionId
    (moveDeltas transitionId event.epc (state.bind CurrentItemState.bucket?)
      (some (decision.location.bucket skuId)) decision.confidence decision.observedAt) createdAt
  match state.bind fun state => state.location.map fun location => (state.skuId,location) with
  | some (previousSkuId,previous) =>
      if previous.storeId = decision.location.storeId ∧ previousSkuId = skuId then do
        let replenishment ← attributeReplenishmentMove registry.zones replenishment transitionId
          event.epc skuId decision.location.storeId previous.zoneId decision.location.zoneId
          decision.observedAt evidenceId
        return (inventory,replenishment)
      else return (inventory,replenishment)
  | none => return (inventory,replenishment)

end Movement

section Refreshing

/-- The throttle on last-seen refreshes. -/
def CurrentItemState.refreshDue (state : CurrentItemState) (event : RfidObservationEvent)
    (settings : Settings) : Bool :=
  decide (seconds settings.rfidLastSeenFlushSeconds ≤ event.receivedAt - state.lastReceivedAt)

def CurrentItemState.lowerConfidence (state : CurrentItemState) : CurrentItemState :=
  { state with confidence := min state.confidence Confidence.conflicting }

def CurrentItemState.refreshLastSeen (state : CurrentItemState) (event : RfidObservationEvent)
    (settings : Settings) : CurrentItemState :=
  if state.refreshDue event settings then
    { state with
      lastObservedAt := max state.lastObservedAt event.observedAt
      lastReceivedAt := event.receivedAt }
  else state

def CurrentItemState.agreesWith (state : CurrentItemState) (skuId : Uuid)
    (window : List RfidObservationEvent) : Bool :=
  decide (state.skuId = skuId) && !window.isEmpty && state.location.any fun location =>
    window.all fun item => decide (item.location = location)

/-- The item after a window that confirms no zone. -/
def CurrentItemState.undecided (state : CurrentItemState) (event : RfidObservationEvent)
    (skuId : Uuid) (window : List RfidObservationEvent) (settings : Settings) : CurrentItemState :=
  (if state.agreesWith skuId window then state else state.lowerConfidence).refreshLastSeen event
    settings

/-- The item after a window that confirms the place it is already in. -/
def CurrentItemState.confirmed (state : CurrentItemState) (event : RfidObservationEvent)
    (decision : StableZoneDecision) (settings : Settings) : CurrentItemState :=
  if state.refreshDue event settings then
    { state with
      lastObservedAt := max state.lastObservedAt (max decision.observedAt event.observedAt)
      lastReceivedAt := max state.lastReceivedAt decision.receivedAt
      confidence := decision.confidence }
  else { state with confidence := max state.confidence decision.confidence }

end Refreshing

section Processing

/-- What an observation under a known binding does, apart from finalizing its event. -/
structure Effect where
  result : ProcessingResult
  inventory : Inventory
  replenishment : Replenishment
  recent : RecentObservationState

def decideLocation (platform : Platform) (settings : Settings) (db : Database)
    (event : RfidObservationEvent) (skuId : Uuid) (state : Option CurrentItemState)
    (watermark : Option Time) (window : List RfidObservationEvent)
    (recent : RecentObservationState) (clock : Clock) (evidenceId : Uuid) : Attempt Effect :=
  let keep := fun result items =>
    Effect.mk result { db.inventory with items } db.replenishment recent
  match inferStableZone window settings with
  | none =>
      .ok (keep { disposition := .ambiguous } (state.elim db.inventory.items fun state =>
        db.inventory.items.put (state.undecided event skuId window settings)))
  | some decision =>
      if watermark.any fun watermark => decide (decision.observedAt < watermark) then
        .ok (keep { disposition := .ambiguous, reason := some .stableEvidenceBeforeCurrentState }
          (state.elim db.inventory.items fun state =>
            db.inventory.items.put (state.lowerConfidence.refreshLastSeen event settings)))
      else
        match state.filter fun state =>
            decide (state.skuId = skuId) && decide (state.location = some decision.location) with
        | some state =>
            .ok (keep { disposition := .processed }
              (db.inventory.items.put (state.confirmed event decision settings)))
        | none => do
            let (inventory,replenishment) ← moveItem platform db.registry db.inventory
              db.replenishment state event skuId decision clock.started evidenceId
            return { result := { disposition := .processed, stateChanged := true }, inventory,
                     replenishment, recent }

/-- `process_observation` from the item lookup on: `event` is as sent, `resolved` carries the
registry's location. -/
def locateItem (platform : Platform) (settings : Settings) (db : Database)
    (event resolved : RfidObservationEvent) (binding : EpcBinding) (evidenceStart : Option Time)
    (recent : RecentObservationState) (clock : Clock) (evidenceId : Uuid) : Attempt Effect :=
  let state := db.inventory.items.find? event.epc
  let watermark := durableWatermark db.ingress state event.epc
  if watermark.any fun watermark => decide (event.observedAt < watermark) then
    .ok { result := { disposition := .late, reason := some .observedAtBeforeCurrentState },
          inventory := db.inventory, replenishment := db.replenishment, recent }
  else if state.any fun state => state.authoritativeRemoval.isSome then
    .ok { result := { disposition := .removedItemObserved, reason := some .authoritativelyRemoved },
          inventory := db.inventory, replenishment := db.replenishment, recent }
  else
    let (window,recent) := recent.add resolved settings.rfidMoveConfirmationWindowSeconds
      evidenceStart
    decideLocation platform settings db event binding.skuId state watermark window recent clock
      evidenceId

def Database.finalize (db : Database) (event : RfidObservationEvent) (result : ProcessingResult)
    (finalizedAt : Time) : Attempt (ProcessingResult × Database) := do
  let ingress ← advanceBatch db.ingress event.eventId false result.disposition.stored none
    finalizedAt
  return (result,{ db with ingress })

/-- `_quarantine`, with the event itself as payload. -/
def Database.quarantine (db : Database) (event : RfidObservationEvent) (reason : RejectionReason)
    (quarantineId : Uuid) (finalizedAt : Time) : Attempt (ProcessingResult × Database) := do
  let ingress ← quarantineObservation db.ingress event reason (.event event) quarantineId finalizedAt
  return ({ disposition := .quarantined, reason := some (.rejected reason) },{ db with ingress })

def tooFarInFuture (event : RfidObservationEvent) (settings : Settings) (processorTime : Time) :
    Bool :=
  decide (min event.receivedAt processorTime + seconds settings.rfidMaxFutureSkewSeconds <
    event.observedAt)

/-- An explicit replay releases the process-local duplicate marker first. -/
def RecentObservationState.released (recent : RecentObservationState)
    (event : RfidObservationEvent) : RecentObservationState :=
  if event.replayedFromQuarantineId.isSome then recent.forgetEvent event else recent

/-- `process_observation` for an event that was not a duplicate. -/
def processFreshObservation (platform : Platform) (settings : Settings) (db : Database)
    (recent : RecentObservationState) (event : RfidObservationEvent) (clock : Clock)
    (quarantineId evidenceId : Uuid) :
    Attempt (ProcessingResult × Database × RecentObservationState) :=
  let quarantine := fun (db : Database) reason => do
    let (result,db) ← db.quarantine event reason quarantineId clock.finalized
    return (result,db,recent)
  if tooFarInFuture event settings clock.processor then
    quarantine db .observedAtTooFarInFuture
  else
    match resolveEffectiveAssignment db.registry event with
    | .error reason => quarantine db reason
    | .ok assignment => do
        let resolved := { event with storeId := assignment.storeId, zoneId := assignment.zoneId }
        let connectivity ← updateConnectivity db.registry.stores db.connectivity resolved settings
        let db := { db with connectivity }
        match resolveBinding db.registry db.ingress event clock.replay with
        | none => quarantine db .unknownEpc
        | some (binding,evidenceStart) => do
            let effect ← locateItem platform settings db event resolved binding evidenceStart recent
              clock evidenceId
            let (result,db) ← Database.finalize
              { db with inventory := effect.inventory, replenishment := effect.replenishment }
              event effect.result clock.finalized
            return (result,db,effect.recent)

/-- `process_observation`: apply one observation and emit an outbox transition. -/
def processObservation (platform : Platform) (settings : Settings) (db : Database)
    (recent : RecentObservationState) (event : RfidObservationEvent) (clock : Clock)
    (quarantineId evidenceId : Uuid) :
    Attempt (ProcessingResult × Database × RecentObservationState) :=
  match (recent.released event).rememberEvent event with
  | (false,recent) => do
      let (result,db) ← db.finalize event { disposition := .duplicate } clock.finalized
      return (result,db,recent)
  | (true,recent) =>
      processFreshObservation platform settings db recent event clock quarantineId evidenceId

end Processing

section Projecting

def AppliedInventoryDelta.ofEvent (delta : InventoryDeltaEvent) : AppliedInventoryDelta where
  deltaId := delta.deltaId
  storeId := delta.storeId
  skuId := delta.skuId
  zoneId := delta.zoneId
  quantityDelta := delta.quantityDelta

def Connectivity.freshnessOf (connectivity : Connectivity) (storeId : Uuid) : FreshnessStatus :=
  (connectivity.find? storeId).elim .stale StoreConnectivity.freshnessStatus

def projectGroup (connectivity : Connectivity) (projections : Table InventoryProjection.bucket)
    (bucket : Bucket) (group : List InventoryDeltaEvent) :
    Attempt (Table InventoryProjection.bucket) :=
  let quantityDelta := (group.map InventoryDeltaEvent.quantityDelta).sum
  let asOf := (group.map InventoryDeltaEvent.observedAt).max?.getD 0
  let confidence := (group.map InventoryDeltaEvent.confidence).min?.getD (Confidence.clamp 0)
  let freshness := Connectivity.freshnessOf connectivity bucket.storeId
  match projections.find? bucket with
  | none =>
      if quantityDelta < 0 then
        .error (.valueError "inventory projection cannot start with a negative delta")
      else orIntegrityError "pk_inventory_projection" (projections.insert
        { storeId := bucket.storeId, skuId := bucket.skuId, zoneId := bucket.zoneId,
          quantity := quantityDelta, asOf, confidence, freshnessStatus := freshness })
  | some projection =>
      if projection.quantity + quantityDelta < 0 then
        .error (.valueError "inventory projection would become negative")
      else .ok (projections.modify bucket
        (fun row => { row with
          quantity := row.quantity + quantityDelta
          asOf := max row.asOf asOf
          confidence := confidence
          freshnessStatus := freshness })
        (fun _ => rfl))

def projectGroups (connectivity : Connectivity) (projections : Table InventoryProjection.bucket) :
    List (Bucket × List InventoryDeltaEvent) → Attempt (Table InventoryProjection.bucket)
  | [] => .ok projections
  | (bucket,group) :: groups => do
      let projections ← projectGroup connectivity projections bucket group
      projectGroups connectivity projections groups

/-- The foreign keys of `applied_inventory_deltas`. -/
def Registry.admits (registry : Registry) (delta : InventoryDeltaEvent) : Bool :=
  registry.hasZone ⟨delta.storeId,delta.zoneId⟩ && (registry.skus.find? delta.skuId).isSome

def freshDeltas (applied : Table AppliedInventoryDelta.deltaId) (deltas : List InventoryDeltaEvent) :
    List InventoryDeltaEvent :=
  let uniqueById := (Relational.OrderedDict.ofList InventoryDeltaEvent.deltaId deltas).values
  let inserted := (applied.insertManyNew (uniqueById.map AppliedInventoryDelta.ofEvent)).2
  uniqueById.filter fun delta => decide (delta.deltaId ∈ inserted.map AppliedInventoryDelta.deltaId)

/-- `apply_inventory_deltas`: deduplicate, combine, and atomically upsert one consumer batch. -/
def applyInventoryDeltas (registry : Registry) (connectivity : Connectivity)
    (inventory : Inventory) (deltas : List InventoryDeltaEvent) : Attempt (ℕ × Inventory) :=
  if deltas.isEmpty then .ok (0,inventory)
  else
    let uniqueById := (Relational.OrderedDict.ofList InventoryDeltaEvent.deltaId deltas).values
    let (applied,inserted) := inventory.applied.insertManyNew
      (uniqueById.map AppliedInventoryDelta.ofEvent)
    let pending := freshDeltas inventory.applied deltas
    if !pending.all fun delta => registry.admits delta then
      .error (.integrityError "fk_applied_inventory_deltas_tenant_store_zone")
    else do
      let projections ← projectGroups connectivity inventory.projections
        (Relational.OrderedDict.groupBy InventoryDeltaEvent.bucket pending).rows
      return (inserted.length,{ inventory with applied, projections })

def InventoryTransitionOutbox.pending (transition : InventoryTransitionOutbox) : Bool :=
  decide (transition.status = .pending)

def pendingCount (inventory : Inventory) : ℕ :=
  (inventory.transitions.select InventoryTransitionOutbox.pending).length

/-- The located items by bucket, as the reconstruction query groups them. -/
def locatedGroups (items : Table CurrentItemState.epc) :
    Relational.OrderedDict Bucket (List (Bucket × CurrentItemState)) :=
  Relational.OrderedDict.groupBy Prod.fst
    (items.rows.filterMap fun state => state.bucket?.map fun bucket => (bucket,state))

def rebuiltRow (connectivity : Connectivity) (bucket : Bucket)
    (group : List (Bucket × CurrentItemState)) : InventoryProjection where
  storeId := bucket.storeId
  skuId := bucket.skuId
  zoneId := bucket.zoneId
  quantity := group.length
  asOf := (group.map fun entry => entry.2.lastObservedAt).max?.getD 0
  confidence := (group.map fun entry => entry.2.confidence).min?.getD (Confidence.clamp 0)
  freshnessStatus := Connectivity.freshnessOf connectivity bucket.storeId

def rebuiltRows (connectivity : Connectivity) (items : Table CurrentItemState.epc) :
    List InventoryProjection :=
  (locatedGroups items).rows.map fun entry => rebuiltRow connectivity entry.1 entry.2

/-- `quarantined_at IS NOT NULL AND reconciled_at IS NULL`. -/
def InventoryTransitionOutbox.unreconciled (transition : InventoryTransitionOutbox) : Bool :=
  match transition.status with
  | .quarantined _ none => true
  | _ => false

def InventoryTransitionOutbox.reconcile (transition : InventoryTransitionOutbox)
    (reconciledAt : Time) : InventoryTransitionOutbox :=
  { transition with
    status := match transition.status with
      | .quarantined quarantinedAt none => .quarantined quarantinedAt (some reconciledAt)
      | status => status }

@[simp] theorem InventoryTransitionOutbox.reconcile_transitionId
    (transition : InventoryTransitionOutbox) (reconciledAt : Time) :
    (transition.reconcile reconciledAt).transitionId = transition.transitionId := rfl

def reconcileQuarantined (transitions : Table InventoryTransitionOutbox.transitionId)
    (reconciledAt : Time) : Table InventoryTransitionOutbox.transitionId :=
  transitions.updateWhere InventoryTransitionOutbox.unreconciled
    (fun transition => transition.reconcile reconciledAt)
    (fun transition => transition.reconcile_transitionId reconciledAt)

def clearReconciliation (connectivity : Connectivity) : Connectivity :=
  connectivity.updateWhere (fun _ => true)
    (fun row => { row with inventoryReconciliationRequiredAt := none }) (fun _ => rfl)

def transitionDeltasPending : Failure :=
  .runtimeError "inventory projection cannot be rebuilt while transition deltas are pending"

/-- `rebuild_inventory_projection` as one atomic transaction: its second count of pending rows
sees what the first one saw. -/
def rebuildInventoryProjection (inventory : Inventory) (connectivity : Connectivity)
    (reconciledAt : Time) : Attempt (ℕ × Inventory × Connectivity) :=
  if pendingCount inventory ≠ 0 then .error transitionDeltasPending
  else do
    let rows := rebuiltRows connectivity inventory.items
    let projections ← orIntegrityError "pk_inventory_projection"
      ((inventory.projections.deleteWhere fun _ => true).insertMany rows)
    return (rows.length,
      { inventory with
        projections
        transitions := reconcileQuarantined inventory.transitions reconciledAt },
      clearReconciliation connectivity)

end Projecting

end Abacus

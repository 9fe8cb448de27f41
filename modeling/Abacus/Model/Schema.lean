import Abacus.Library.Table
import Abacus.Model.Basic

/-! The tenant's tables for RFID ingress, inventory and replenishment.
Columns keep the source's names. A column check that ties columns together is part of
the row type where that excludes the invalid row, and foreign keys are checked by the
operations that write them.
-/
set_option autoImplicit false

namespace Abacus

open Relational (Table)

section Registry

inductive ZoneKind where
  | salesFloor | backroom | receiving | other
deriving DecidableEq, Repr

inductive DeviceStatus where
  | active | inactive
deriving DecidableEq, Repr

inductive StoreStatus where
  | provisioning | active | inactive
deriving DecidableEq, Repr

structure Store where
  id : Uuid
  status : StoreStatus
deriving DecidableEq, Repr

structure Zone where
  id : Uuid
  storeId : Uuid
  kind : ZoneKind
deriving DecidableEq, Repr

structure Device where
  id : Uuid
  status : DeviceStatus
deriving DecidableEq, Repr

structure DeviceAssignment where
  id : Uuid
  deviceId : Uuid
  storeId : Uuid
  zoneId : Uuid
  effectiveFrom : Time
  effectiveTo : Option Time
deriving DecidableEq, Repr

structure EpcBinding where
  id : Uuid
  epc : Epc
  skuId : Uuid
  effectiveFrom : Time
  effectiveTo : Option Time
deriving DecidableEq, Repr

/-- The half-open interval test `effective_from <= at AND (effective_to IS NULL OR effective_to > at)`. -/
def inForce (effectiveFrom : Time) (effectiveTo : Option Time) (instant : Time) : Bool :=
  decide (effectiveFrom ≤ instant) && effectiveTo.all fun finish => decide (instant < finish)

theorem inForce_iff {effectiveFrom instant : Time} {effectiveTo : Option Time} :
    inForce effectiveFrom effectiveTo instant = true ↔
      effectiveFrom ≤ instant ∧ ∀ finish ∈ effectiveTo, instant < finish := by
  cases effectiveTo <;> simp [inForce]

structure Product where
  id : Uuid
  styleCode : String
  category : String
  active : Bool
deriving DecidableEq, Repr

structure ProductVariant where
  id : Uuid
  productId : Uuid
deriving DecidableEq, Repr

structure Sku where
  id : Uuid
  productVariantId : Uuid
  size : String
  active : Bool
deriving DecidableEq, Repr

/-- The tenant, and the tables of it that RFID processing reads and never writes. -/
structure Registry where
  tenantId : Uuid
  stores : Table Store.id
  zones : Table Zone.id
  devices : Table Device.id
  deviceAssignments : Table DeviceAssignment.id
  epcBindings : Table EpcBinding.id
  products : Table Product.id
  productVariants : Table ProductVariant.id
  skus : Table Sku.id

structure Location where
  storeId : Uuid
  zoneId : Uuid
deriving DecidableEq, Repr

/-- The composite foreign key to `zones (store_id, id)`. -/
def Registry.hasZone (registry : Registry) (location : Location) : Bool :=
  (registry.zones.find? location.zoneId).any fun zone => decide (zone.storeId = location.storeId)

theorem Registry.store_of_hasZone {registry : Registry} {left right : Location}
    (first : registry.hasZone left = true) (second : registry.hasZone right = true)
    (zone : left.zoneId = right.zoneId) : left = right := by
  unfold hasZone at first second
  rw [zone] at first
  cases found : registry.zones.find? right.zoneId with
  | none => simp [found] at second
  | some row =>
      simp only [found,Option.any_some,decide_eq_true_eq] at first second
      cases left; cases right
      simp_all

end Registry

section Ingress

inductive RfidEventProcessingStatus where
  | pending | processed | rejected
deriving DecidableEq, Repr

inductive ObservationBatchStatus where
  | accepted | processing | completed | completedWithErrors
deriving DecidableEq, Repr

inductive Disposition where
  | processed | duplicate | late | quarantined | ambiguous | removedItemObserved | replayQueued
deriving DecidableEq, Repr

inductive RejectionReason where
  | observedAtTooFarInFuture | unknownDevice | inactiveDevice | deviceAssignmentUnavailable
  | deviceAssignmentMismatch | unknownEpc | processingAttemptsExhausted
deriving DecidableEq, Repr

/-- One accepted device observation, `abacus.events.rfid`. -/
structure RfidObservationEvent where
  tenantId : Uuid
  batchId : Uuid
  eventId : EventId
  deviceId : Uuid
  storeId : Uuid
  zoneId : Uuid
  epc : Epc
  observedAt : Time
  receivedAt : Time
  rssi : ℚ
  antennaId : Option String := none
  readerHealth : Confidence := ⟨1,by norm_num,by norm_num⟩
  isBuffered : Bool := false
  backlogDrained : Bool := true
  readerCoverageOk : Bool := true
  replayedFromQuarantineId : Option Uuid := none
deriving DecidableEq

/-- A stored JSON document that is or is not a valid event. -/
inductive StoredPayload where
  | event (event : RfidObservationEvent)
  | invalid
deriving DecidableEq

structure RfidObservationBatch where
  id : Uuid
  deviceId : Uuid
  storeId : Uuid
  zoneId : Uuid
  status : ObservationBatchStatus
  acceptedCount : ℕ
  processedCount : ℕ
  rejectedCount : ℕ
  receivedAt : Time
  completedAt : Option Time
deriving DecidableEq, Repr

structure RfidObservationEventLedger where
  eventId : EventId
  payloadFingerprint : String
  deviceId : Uuid
  storeId : Uuid
  zoneId : Uuid
  epc : Epc
  observedAt : Time
  firstReceivedAt : Time
  rssi : ℚ
  antennaId : Option String
  readerHealth : Confidence
  isBuffered : Bool
  backlogDrained : Bool
  readerCoverageOk : Bool
  processingStatus : RfidEventProcessingStatus
  disposition : Option Disposition
  rejectionReason : Option RejectionReason
  processedAt : Option Time
deriving DecidableEq

structure RfidObservationBatchEvent where
  batchId : Uuid
  eventId : EventId
  processingStatus : RfidEventProcessingStatus
  disposition : Option Disposition
  rejectionReason : Option RejectionReason
  finalizedAt : Option Time
deriving DecidableEq, Repr

abbrev RfidObservationBatchEvent.primaryKey (link : RfidObservationBatchEvent) : Uuid × EventId :=
  (link.batchId,link.eventId)

structure RfidObservationOutbox where
  eventId : EventId
  acceptanceSequence : ℕ
  partitionKey : Epc
  payload : StoredPayload
  publishedAt : Option Time
  publishAttempts : ℕ
  lastError : Option String
deriving DecidableEq

structure RfidQuarantine where
  id : Uuid
  batchId : Uuid
  eventId : Option EventId
  reason : RejectionReason
  payload : StoredPayload
  quarantinedAt : Time
deriving DecidableEq

/-- The raw-event tables. The outbox is keyed by its unique `(tenant_id, event_id)`. -/
structure Ingress where
  batches : Table RfidObservationBatch.id
  ledger : Table RfidObservationEventLedger.eventId
  links : Table RfidObservationBatchEvent.primaryKey
  outbox : Table RfidObservationOutbox.eventId
  quarantine : Table RfidQuarantine.id
  acceptanceSequence : ℕ

end Ingress

section Inventory

structure Bucket where
  storeId : Uuid
  skuId : Uuid
  zoneId : Uuid
deriving DecidableEq, Repr

structure Removal where
  eventId : Uuid
  removedAt : Time
deriving DecidableEq, Repr

/-- The current row of one physical item. A removed item has no location. -/
structure CurrentItemState where
  epc : Epc
  skuId : Uuid
  location : Option Location
  lastObservedAt : Time
  lastReceivedAt : Time
  confidence : Confidence
  stateVersion : ℕ
  authoritativeRemoval : Option Removal := none
  positiveVersion : 1 ≤ stateVersion
  removedUnlocated : authoritativeRemoval.isSome → location = none := by simp
deriving DecidableEq

def Location.bucket (location : Location) (skuId : Uuid) : Bucket :=
  ⟨location.storeId,skuId,location.zoneId⟩

def CurrentItemState.bucket? (state : CurrentItemState) : Option Bucket :=
  state.location.map fun location => location.bucket state.skuId

/-- The source's `f"{transition_id}:{sku_id}:{zone_id}"`. -/
structure DeltaId where
  transitionId : Uuid
  skuId : Uuid
  zoneId : Uuid
deriving DecidableEq, Repr

/-- A signed change of one projection bucket, `abacus.events.inventory`. -/
structure InventoryDeltaEvent where
  deltaId : DeltaId
  transitionId : Uuid
  storeId : Uuid
  skuId : Uuid
  zoneId : Uuid
  epc : Epc
  quantityDelta : ℤ
  confidence : Confidence
  observedAt : Time
  unitDelta : -1 ≤ quantityDelta ∧ quantityDelta ≤ 1 := by decide
deriving DecidableEq

def InventoryDeltaEvent.bucket (delta : InventoryDeltaEvent) : Bucket :=
  ⟨delta.storeId,delta.skuId,delta.zoneId⟩

/-- One stored element of an outbox row's `deltas`: a valid event, or a document that
fails validation and of which at most the store can be recovered. -/
inductive DeltaPayload where
  | event (delta : InventoryDeltaEvent)
  | invalid (storeId : Option Uuid)
deriving DecidableEq

def DeltaPayload.event? : DeltaPayload → Option InventoryDeltaEvent
  | .event delta => some delta
  | .invalid _ => none

/-- The column checks allow exactly these combinations of `published_at`,
`quarantined_at` and `reconciled_at`. -/
inductive TransitionStatus where
  | pending
  | published (publishedAt : Time)
  | quarantined (quarantinedAt : Time) (reconciledAt : Option Time)
deriving DecidableEq, Repr

structure InventoryTransitionOutbox where
  transitionId : Uuid
  epc : Epc
  stateVersion : ℕ
  deltas : List DeltaPayload
  createdAt : Time
  status : TransitionStatus := .pending
  publishAttempts : ℕ := 0
  lastError : Option String := none
deriving DecidableEq

inductive BusinessEventType where
  | sale | transferOut | adjustmentRemove
deriving DecidableEq, Repr

inductive BusinessEventStatus where
  | pendingProjection | projected | failed
deriving DecidableEq, Repr

structure BusinessEvent where
  id : Uuid
  storeId : Uuid
  sourceSystem : String
  externalEventId : String
  requestFingerprint : String
  eventType : BusinessEventType
  epc : Epc
  occurredAt : Time
  transitionId : Uuid
  stateVersion : ℕ
  note : Option String
deriving DecidableEq, Repr

inductive FreshnessStatus where
  | live | degraded | stale
deriving DecidableEq, Repr

structure InventoryProjection where
  storeId : Uuid
  skuId : Uuid
  zoneId : Uuid
  quantity : ℤ
  asOf : Time
  confidence : Confidence
  freshnessStatus : FreshnessStatus
deriving DecidableEq

abbrev InventoryProjection.bucket (projection : InventoryProjection) : Bucket :=
  ⟨projection.storeId,projection.skuId,projection.zoneId⟩

structure AppliedInventoryDelta where
  deltaId : DeltaId
  storeId : Uuid
  skuId : Uuid
  zoneId : Uuid
  quantityDelta : ℤ
deriving DecidableEq, Repr

structure Inventory where
  items : Table CurrentItemState.epc
  transitions : Table InventoryTransitionOutbox.transitionId
  projections : Table InventoryProjection.bucket
  applied : Table AppliedInventoryDelta.deltaId
  businessEvents : Table BusinessEvent.id

structure StoreConnectivity where
  storeId : Uuid
  gatewayLastHeartbeat : Option Time
  statusReceivedAt : Time
  lastLiveEventAt : Option Time := none
  lastLiveReceivedAt : Option Time := none
  oldestBufferedEventAt : Option Time := none
  backlogDrained : Bool
  readerCoverageOk : Bool
  freshnessStatus : FreshnessStatus
  inventoryReconciliationRequiredAt : Option Time := none
deriving DecidableEq, Repr

abbrev Connectivity := Table StoreConnectivity.storeId

end Inventory

section Replenishment

inductive PolicyVersionStatus where
  | draft | active | retired
deriving DecidableEq, Repr

structure PolicyVersion where
  id : Uuid
  policyId : Uuid
  versionNumber : ℕ
  status : PolicyVersionStatus
deriving DecidableEq, Repr

structure PolicyRule where
  id : Uuid
  versionId : Uuid
  storeId : Option Uuid
  category : Option String
  styleCode : Option String
  skuId : Option Uuid
  size : Option String
  minFloorQty : ℤ
  targetFloorQty : ℤ
  priority : ℤ
  minimumNonnegative : 0 ≤ minFloorQty := by decide
  targetAtLeastMinimum : minFloorQty ≤ targetFloorQty := by decide
deriving DecidableEq

inductive ReplenishmentTaskStatus where
  | «open» | claimed | inProgress | completed | canceled | expired
deriving DecidableEq, Repr

def ReplenishmentTaskStatus.active : ReplenishmentTaskStatus → Bool
  | .open | .claimed | .inProgress => true
  | .completed | .canceled | .expired => false

structure ReplenishmentTask where
  id : Uuid
  storeId : Uuid
  skuId : Uuid
  policyVersionId : Uuid
  policyRuleId : Uuid
  status : ReplenishmentTaskStatus
  quantity : ℤ
  verifiedQuantity : ℤ := 0
  verificationDeadline : Option Time := none
  version : ℕ
  claimedByUserId : Option Uuid := none
  claimedAt : Option Time := none
  startedAt : Option Time := none
  completedAt : Option Time := none
  expiresAt : Option Time := none
  note : Option String := none
  positiveQuantity : 0 < quantity
  positiveVersion : 1 ≤ version
  verifiedInRange : 0 ≤ verifiedQuantity ∧ verifiedQuantity ≤ quantity
deriving DecidableEq

structure ReplenishmentTaskEvidence where
  id : Uuid
  taskId : Uuid
  transitionId : Uuid
  epc : Epc
  observedAt : Time
deriving DecidableEq, Repr

/-- Tasks and their evidence, under the unique index on active tasks. -/
structure Replenishment where
  tasks : Table ReplenishmentTask.id
  evidence : Table ReplenishmentTaskEvidence.transitionId
  oneActive : ∀ first ∈ tasks.rows, ∀ second ∈ tasks.rows, first.status.active →
    second.status.active → first.storeId = second.storeId → first.skuId = second.skuId →
    first = second

structure Policies where
  versions : Table PolicyVersion.id
  rules : Table PolicyRule.id

end Replenishment

structure Database where
  registry : Registry
  ingress : Ingress
  connectivity : Connectivity
  inventory : Inventory
  replenishment : Replenishment
  policies : Policies

/-- What the services call of Python's standard library and of PostgreSQL: SHA-256 and UUIDv5
digests, `str.casefold` and `power(0.5, age_seconds / half_life_seconds)`. -/
structure Platform where
  observationFingerprint : RfidObservationEvent → String
  removalFingerprint :
    Uuid → String → String → BusinessEventType → Epc → Time → ℤ → Option String → String
  transitionId : Uuid → Epc → ℕ → Uuid
  casefold : String → String
  decay : ℚ → ℕ → ℚ

end Abacus

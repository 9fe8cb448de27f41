import Mathlib.Data.List.Sort
import Abacus.Model.Connectivity

/-! Raw-event ingress: acceptance, finalization, quarantine and replay
(`services/rfid_ingress.py`, and `_advance_batch` and `_quarantine` of
`services/streaming_inventory.py`).
-/
set_option autoImplicit false

namespace Abacus

open Relational (Table)

section Finalization

def countStatus (links : List RfidObservationBatchEvent) (status : RfidEventProcessingStatus) : ℕ :=
  links.countP fun link => decide (link.processingStatus = status)

/-- A batch whose accepted events number `processed` and `rejected` so far. -/
def RfidObservationBatch.account (batch : RfidObservationBatch) (processed rejected : ℕ)
    (finalizedAt : Time) : RfidObservationBatch :=
  { batch with
    processedCount := processed
    rejectedCount := rejected
    status :=
      if processed + rejected = batch.acceptedCount then
        if rejected ≠ 0 then .completedWithErrors else .completed
      else if processed + rejected ≠ 0 then .processing
      else batch.status
    completedAt :=
      if processed + rejected = batch.acceptedCount then some finalizedAt else batch.completedAt }

/-- The batch's outcome as `_advance_batch` recounts it from the batch's links. -/
def RfidObservationBatch.recount (batch : RfidObservationBatch)
    (links : List RfidObservationBatchEvent) (finalizedAt : Time) : RfidObservationBatch :=
  batch.account (countStatus links .processed) (countStatus links .rejected) finalizedAt

@[simp] theorem RfidObservationBatch.recount_id (batch : RfidObservationBatch)
    (links : List RfidObservationBatchEvent) (finalizedAt : Time) :
    (batch.recount links finalizedAt).id = batch.id := rfl

/-- The terminal outcome that is written to the ledger row and to every link of it. -/
structure Outcome where
  processingStatus : RfidEventProcessingStatus
  disposition : Option Disposition
  rejectionReason : Option RejectionReason
  at? : Option Time

def RfidObservationEventLedger.settle (ledger : RfidObservationEventLedger) (outcome : Outcome) :
    RfidObservationEventLedger :=
  { ledger with
    processingStatus := outcome.processingStatus
    disposition := outcome.disposition
    rejectionReason := outcome.rejectionReason
    processedAt := outcome.at? }

def RfidObservationBatchEvent.settle (link : RfidObservationBatchEvent) (outcome : Outcome) :
    RfidObservationBatchEvent :=
  { link with
    processingStatus := outcome.processingStatus
    disposition := outcome.disposition
    rejectionReason := outcome.rejectionReason
    finalizedAt := outcome.at? }

@[simp] theorem RfidObservationEventLedger.settle_eventId (ledger : RfidObservationEventLedger)
    (outcome : Outcome) : (ledger.settle outcome).eventId = ledger.eventId := rfl

@[simp] theorem RfidObservationBatchEvent.settle_primaryKey (link : RfidObservationBatchEvent)
    (outcome : Outcome) : (link.settle outcome).primaryKey = link.primaryKey := rfl

def Ingress.settleEvent (ingress : Ingress) (eventId : EventId) (outcome : Outcome) : Ingress :=
  { ingress with
    ledger := ingress.ledger.modify eventId (fun ledger => ledger.settle outcome)
      (fun ledger => ledger.settle_eventId outcome)
    links := ingress.links.updateWhere (fun link => decide (link.eventId = eventId))
      (fun link => link.settle outcome) (fun link => link.settle_primaryKey outcome) }

def Ingress.batchesOf (ingress : Ingress) (eventId : EventId) : List Uuid :=
  (ingress.links.select fun link => decide (link.eventId = eventId)).map
    RfidObservationBatchEvent.batchId

def Ingress.linksOf (ingress : Ingress) (batchId : Uuid) : List RfidObservationBatchEvent :=
  ingress.links.select fun link => decide (link.batchId = batchId)

/-- `_advance_batch`: finalize one durable event and every batch that retried it. -/
def advanceBatch (ingress : Ingress) (eventId : EventId) (rejected : Bool)
    (disposition : Disposition) (reason : Option RejectionReason) (finalizedAt : Time) :
    Attempt Ingress :=
  match ingress.ledger.find? eventId with
  | none => .error (.valueError "RFID event ledger does not exist")
  | some ledger =>
      if ledger.processingStatus ≠ .pending then .ok ingress
      else
        let settled := ingress.settleEvent eventId {
          processingStatus := if rejected then .rejected else .processed
          disposition := some disposition
          rejectionReason := if rejected then reason else none
          at? := some finalizedAt }
        let batchIds := settled.batchesOf eventId
        if batchIds.all fun batchId => (settled.batches.find? batchId).isSome then
          .ok { settled with
            batches := settled.batches.updateWhere (fun batch => decide (batch.id ∈ batchIds))
              (fun batch => batch.recount (settled.linksOf batch.id) finalizedAt)
              (fun batch => batch.recount_id (settled.linksOf batch.id) finalizedAt) }
        else .error (.valueError "RFID retry batch does not exist")

/-- The quarantine row that `_quarantine` adds: the first one of an event stays the only one. -/
def Ingress.recordQuarantine (ingress : Ingress) (event : RfidObservationEvent)
    (reason : RejectionReason) (payload : StoredPayload) (quarantineId : Uuid)
    (quarantinedAt : Time) : Attempt Ingress :=
  if ingress.quarantine.rows.any fun row => decide (row.eventId = some event.eventId) then
    .ok ingress
  else do
    let quarantine ← orIntegrityError "pk_rfid_quarantine" (ingress.quarantine.insert
      { id := quarantineId, batchId := event.batchId, eventId := some event.eventId, reason, payload,
        quarantinedAt })
    return { ingress with quarantine }

/-- `quarantine_observation`, and `_quarantine` with the event itself as payload. -/
def quarantineObservation (ingress : Ingress) (event : RfidObservationEvent)
    (reason : RejectionReason) (payload : StoredPayload) (quarantineId : Uuid)
    (finalizedAt : Time) : Attempt Ingress := do
  let ingress ← ingress.recordQuarantine event reason payload quarantineId finalizedAt
  advanceBatch ingress event.eventId true .quarantined (some reason) finalizedAt

end Finalization

section Acceptance

structure ObservationInput where
  eventId : EventId
  epc : Epc
  observedAt : Time
  rssi : ℚ
  antennaId : Option String := none
deriving DecidableEq

/-- A validated batch request: event ids are unique within the batch. -/
structure ObservationBatchCreate where
  deviceId : Uuid
  observations : List ObservationInput
  backlogDrained : Bool := true
  readerCoverageOk : Bool := true
  sized : 1 ≤ observations.length ∧ observations.length ≤ 1000 := by decide
  uniqueEvents : (observations.map ObservationInput.eventId).Nodup := by decide

def assignmentUnavailable : Failure :=
  .apiError 409 "Device assignment unavailable"
    "The device has no store and zone assignment effective for an observation."
    (some "device_assignment_unavailable")

/-- Every assignment that can cover a timestamp in the batch window, newest start first. -/
def loadEffectiveAssignmentHistory (registry : Registry) (deviceId : Uuid)
    (windowStart windowEnd : Time) : List DeviceAssignment :=
  (registry.deviceAssignments.select fun assignment =>
      decide (assignment.deviceId = deviceId) && decide (assignment.effectiveFrom ≤ windowEnd) &&
        assignment.effectiveTo.all fun finish => decide (windowStart < finish)).insertionSort
    fun left right => right.effectiveFrom ≤ left.effectiveFrom

/-- The ingress side's `_resolve_effective_assignment`. -/
def resolveFromHistory (assignments : List DeviceAssignment) (instant : Time) :
    Attempt DeviceAssignment :=
  match assignments.find? fun assignment =>
      inForce assignment.effectiveFrom assignment.effectiveTo instant with
  | some assignment => .ok assignment
  | none => .error assignmentUnavailable

def observationEvent (registry : Registry) (request : ObservationBatchCreate) (batchId : Uuid)
    (receivedAt : Time) (observation : ObservationInput) (assignment : DeviceAssignment) :
    RfidObservationEvent where
  tenantId := registry.tenantId
  batchId := batchId
  eventId := observation.eventId
  deviceId := request.deviceId
  storeId := assignment.storeId
  zoneId := assignment.zoneId
  epc := observation.epc
  observedAt := observation.observedAt
  receivedAt := receivedAt
  rssi := observation.rssi
  antennaId := observation.antennaId
  readerHealth := if request.readerCoverageOk then ⟨1,by norm_num,by norm_num⟩
    else ⟨0,by norm_num,by norm_num⟩
  isBuffered := decide (seconds 60 < receivedAt - observation.observedAt)
  backlogDrained := request.backlogDrained
  readerCoverageOk := request.readerCoverageOk

def observationEvents (registry : Registry) (request : ObservationBatchCreate) (batchId : Uuid)
    (receivedAt : Time) (assignments : List DeviceAssignment) :
    List ObservationInput → Attempt (List RfidObservationEvent)
  | [] => .ok []
  | observation :: observations => do
      let assignment ← resolveFromHistory assignments observation.observedAt
      let events ← observationEvents registry request batchId receivedAt assignments observations
      return observationEvent registry request batchId receivedAt observation assignment :: events

def RfidObservationEvent.ledgerRow (event : RfidObservationEvent) (platform : Platform) :
    RfidObservationEventLedger where
  eventId := event.eventId
  payloadFingerprint := platform.observationFingerprint event
  deviceId := event.deviceId
  storeId := event.storeId
  zoneId := event.zoneId
  epc := event.epc
  observedAt := event.observedAt
  firstReceivedAt := event.receivedAt
  rssi := event.rssi
  antennaId := event.antennaId
  readerHealth := event.readerHealth
  isBuffered := event.isBuffered
  backlogDrained := event.backlogDrained
  readerCoverageOk := event.readerCoverageOk
  processingStatus := .pending
  disposition := none
  rejectionReason := none
  processedAt := none

def RfidObservationEventLedger.link (ledger : RfidObservationEventLedger) (batchId : Uuid) :
    RfidObservationBatchEvent where
  batchId := batchId
  eventId := ledger.eventId
  processingStatus := ledger.processingStatus
  disposition := ledger.disposition
  rejectionReason := ledger.rejectionReason
  finalizedAt := ledger.processedAt

/-- The raw outbox rows of newly accepted events, numbered in request order. -/
def outboxRows (events : List RfidObservationEvent) (firstSequence : ℕ) :
    List RfidObservationOutbox :=
  events.mapIdx fun position event => {
    eventId := event.eventId
    acceptanceSequence := firstSequence + position
    partitionKey := event.epc
    payload := .event event
    publishedAt := none
    publishAttempts := 0
    lastError := none }

/-- `_set_initial_batch_outcome`. -/
def RfidObservationBatch.initialOutcome (batch : RfidObservationBatch)
    (ledgers : List RfidObservationEventLedger) (receivedAt : Time) : RfidObservationBatch :=
  batch.account (ledgers.countP fun row => decide (row.processingStatus = .processed))
    (ledgers.countP fun row => decide (row.processingStatus = .rejected)) receivedAt

@[simp] theorem RfidObservationBatch.initialOutcome_id (batch : RfidObservationBatch)
    (ledgers : List RfidObservationEventLedger) (receivedAt : Time) :
    (batch.initialOutcome ledgers receivedAt).id = batch.id := rfl

def eventIdConflict : Failure :=
  .apiError 409 "Conflicting RFID event"
    "event_id already exists with a different immutable observation payload."
    (some "rfid_event_id_conflict")

def sameObservations (platform : Platform) (events : List RfidObservationEvent)
    (ledgers : List RfidObservationEventLedger) : Bool :=
  ledgers.all fun ledger => events.all fun event =>
    decide (event.eventId = ledger.eventId →
      ledger.payloadFingerprint = platform.observationFingerprint event)

def storeObservationBatch (platform : Platform) (ingress : Ingress) (batch : RfidObservationBatch)
    (events : List RfidObservationEvent) (receivedAt : Time) : Attempt Ingress := do
  let batches ← orIntegrityError "rfid_observation_batches_pkey" (ingress.batches.insert batch)
  let (ledger,inserted) := ingress.ledger.insertManyNew
    ((events.insertionSort fun left right => left.eventId ≤ right.eventId).map
      fun event => event.ledgerRow platform)
  let ledgers := (ledger.select fun row =>
      decide (row.eventId ∈ events.map RfidObservationEvent.eventId)).insertionSort
    fun left right => left.eventId ≤ right.eventId
  if ledgers.length ≠ events.length then
    .error (.runtimeError "RFID event ledger insertion did not reconcile")
  else if !sameObservations platform events ledgers then .error eventIdConflict
  else do
    let links ← orIntegrityError "pk_rfid_observation_batch_events"
      (ingress.links.insertMany (ledgers.map fun row => row.link batch.id))
    let created := events.filter fun event =>
      decide (event.eventId ∈ inserted.map RfidObservationEventLedger.eventId)
    let outbox ← orIntegrityError "uq_rfid_outbox_tenant_event"
      (ingress.outbox.insertMany (outboxRows created ingress.acceptanceSequence))
    return { ingress with
      batches := batches.modify batch.id (fun row => row.initialOutcome ledgers receivedAt)
        (fun row => row.initialOutcome_id ledgers receivedAt)
      ledger
      links
      outbox
      acceptanceSequence := ingress.acceptanceSequence + created.length }

def deviceTokenMismatch : Failure :=
  .apiError 403 "Device token mismatch" "The authenticated device does not match device_id."
    (some "device_token_mismatch")

/-- `accept_observation_batch`; `batchId` is the fresh identifier it draws. -/
def acceptObservationBatch (platform : Platform) (registry : Registry) (ingress : Ingress)
    (connectivity : Connectivity) (device : Device) (request : ObservationBatchCreate)
    (receivedAt : Time) (batchId : Uuid) : Attempt (Ingress × Connectivity) := do
  if request.deviceId ≠ device.id then .error deviceTokenMismatch
  else do
    let times := request.observations.map ObservationInput.observedAt
    let assignments := loadEffectiveAssignmentHistory registry device.id
      (times.foldl min receivedAt) (times.foldl max receivedAt)
    let current ← resolveFromHistory assignments receivedAt
    let events ← observationEvents registry request batchId receivedAt assignments
      request.observations
    let ingress ← storeObservationBatch platform ingress
      { id := batchId, deviceId := device.id, storeId := current.storeId, zoneId := current.zoneId,
        status := .accepted, acceptedCount := events.length, processedCount := 0,
        rejectedCount := 0, receivedAt, completedAt := none } events receivedAt
    let (connectivity,_) ← lockStoreConnectivityForReceipt registry.stores connectivity
      current.storeId receivedAt request.backlogDrained request.readerCoverageOk
    return (ingress,connectivity)

end Acceptance

section Replay

structure QuarantineReplayResult where
  quarantineId : Uuid
  batchId : Uuid
  eventId : EventId
  processingStatus : RfidEventProcessingStatus
  queued : Bool
deriving DecidableEq, Repr

def replayUnavailable (detail code : String) : Failure :=
  .apiError 409 "RFID quarantine replay unavailable" detail (some code)

def quarantineEventStateInconsistent : Failure :=
  replayUnavailable "The event ledger and durable inbox have inconsistent processing state."
    "quarantine_event_state_inconsistent"

def RfidObservationEventLedger.event (ledger : RfidObservationEventLedger) (tenantId batchId : Uuid)
    (replayedFrom : Option Uuid) : RfidObservationEvent where
  tenantId := tenantId
  batchId := batchId
  eventId := ledger.eventId
  deviceId := ledger.deviceId
  storeId := ledger.storeId
  zoneId := ledger.zoneId
  epc := ledger.epc
  observedAt := ledger.observedAt
  receivedAt := ledger.firstReceivedAt
  rssi := ledger.rssi
  antennaId := ledger.antennaId
  readerHealth := ledger.readerHealth
  isBuffered := ledger.isBuffered
  backlogDrained := ledger.backlogDrained
  readerCoverageOk := ledger.readerCoverageOk
  replayedFromQuarantineId := replayedFrom

def RfidObservationBatch.reopen (batch : RfidObservationBatch)
    (links : List RfidObservationBatchEvent) : RfidObservationBatch :=
  { batch with
    processedCount := countStatus links .processed
    rejectedCount := countStatus links .rejected
    status := .processing
    completedAt := none }

@[simp] theorem RfidObservationBatch.reopen_id (batch : RfidObservationBatch)
    (links : List RfidObservationBatchEvent) : (batch.reopen links).id = batch.id := rfl

def RfidObservationOutbox.requeue (row : RfidObservationOutbox) (event : RfidObservationEvent) :
    RfidObservationOutbox :=
  { row with
    partitionKey := event.epc
    payload := .event event
    publishedAt := none
    publishAttempts := 0
    lastError := none }

@[simp] theorem RfidObservationOutbox.requeue_eventId (row : RfidObservationOutbox)
    (event : RfidObservationEvent) : (row.requeue event).eventId = row.eventId := rfl

/-- The requeueing half of the replay command. -/
def requeueEvent (ingress : Ingress) (ledger : RfidObservationEventLedger)
    (event : RfidObservationEvent) : Attempt Ingress :=
  let batchIds := ingress.batchesOf ledger.eventId
  if batchIds.isEmpty then
    .error (replayUnavailable "The canonical event is not linked to an observation batch."
      "quarantine_batch_link_missing")
  else
    let settled := ingress.settleEvent ledger.eventId {
      processingStatus := .pending
      disposition := some .replayQueued
      rejectionReason := none
      at? := none }
    if batchIds.all fun batchId => (settled.batches.find? batchId).isSome then
      .ok { settled with
        batches := settled.batches.updateWhere (fun batch => decide (batch.id ∈ batchIds))
          (fun batch => batch.reopen (settled.linksOf batch.id))
          (fun batch => batch.reopen_id (settled.linksOf batch.id))
        outbox := settled.outbox.modify ledger.eventId (fun row => row.requeue event)
          (fun row => row.requeue_eventId event) }
    else .error (replayUnavailable "An observation batch linked to the event no longer exists."
      "quarantine_batch_missing")

/-- `queue_quarantined_observation_replay`. -/
def queueQuarantinedObservationReplay (registry : Registry) (ingress : Ingress)
    (quarantineId : Uuid) : Attempt (QuarantineReplayResult × Ingress) :=
  match ingress.quarantine.find? quarantineId with
  | none => .error (.apiError 404 "RFID quarantine record not found"
      "The requested quarantine record does not exist." none)
  | some quarantine =>
      match quarantine.eventId with
      | none => .error (replayUnavailable
          "The quarantine record has no canonical event identity to replay."
          "quarantine_event_identity_missing")
      | some eventId =>
          match ingress.ledger.find? eventId, ingress.outbox.find? eventId with
          | some ledger, some outbox =>
              let result := fun status queued => QuarantineReplayResult.mk quarantine.id
                quarantine.batchId ledger.eventId status queued
              match ledger.processingStatus with
              | .processed => .ok (result .processed false,ingress)
              | .pending =>
                  if outbox.publishedAt.isSome then .error quarantineEventStateInconsistent
                  else .ok (result .pending false,ingress)
              | .rejected => do
                  let ingress ← requeueEvent ingress ledger
                    (ledger.event registry.tenantId quarantine.batchId (some quarantine.id))
                  return (result .pending true,ingress)
          | _, _ => .error (replayUnavailable
              "The quarantine record is not backed by a complete canonical event ledger."
              "quarantine_event_ledger_incomplete")

end Replay

end Abacus

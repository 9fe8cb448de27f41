import Abacus.Library.Machine
import Abacus.Model.EventWorker

/-! Accepting transactions and worker passes statement by statement: what a transaction wrote is its
own until it commits, and only `nextval` takes effect at once (`accept_observation_batch`,
`lock_store_connectivity_for_receipt`, `process_tenant_once`).
A statement that waits for a lock is no step. The waits of workers and acceptances for each other are
left out, which only adds interleavings.
-/
set_option autoImplicit false

namespace Abacus

open Relational (Table)
open Transition (Machine)

section Acceptances

inductive AcceptanceStage where
  | started | inserted | locked | queued | received
deriving DecidableEq, Repr

/-- An open `accept_observation_batch`: its batch, and what it read and wrote so far. -/
structure Acceptance where
  batch : RfidObservationBatch
  events : List RfidObservationEvent
  receivedAt : Time
  backlogDrained : Bool
  readerCoverageOk : Bool
  stage : AcceptanceStage := .started
  inserted : List RfidObservationEventLedger := []
  ledgers : List RfidObservationEventLedger := []
  rows : List RfidObservationOutbox := []

namespace Acceptance

def id (acceptance : Acceptance) : Uuid := acceptance.batch.id

def eventIds (acceptance : Acceptance) : List EventId :=
  acceptance.events.map RfidObservationEvent.eventId

/-- Resolve the batch and flush its row. -/
def start (registry : Registry) (device : Device) (request : ObservationBatchCreate)
    (receivedAt : Time) (batchId : Uuid) : Attempt Acceptance := do
  if request.deviceId ≠ device.id then .error deviceTokenMismatch
  else do
    let times := request.observations.map ObservationInput.observedAt
    let assignments := loadEffectiveAssignmentHistory registry device.id
      (times.foldl min receivedAt) (times.foldl max receivedAt)
    let current ← resolveFromHistory assignments receivedAt
    let events ← observationEvents registry request batchId receivedAt assignments
      request.observations
    return {
      batch := { id := batchId, deviceId := device.id, storeId := current.storeId,
                 zoneId := current.zoneId, status := .accepted, acceptedCount := events.length,
                 processedCount := 0, rejectedCount := 0, receivedAt, completedAt := none }
      events
      receivedAt
      backlogDrained := request.backlogDrained
      readerCoverageOk := request.readerCoverageOk }

/-- `INSERT … ON CONFLICT DO NOTHING RETURNING event_id`, in the order of the event ids. -/
def insertLedger (platform : Platform) (ingress : Ingress) (acceptance : Acceptance) : Acceptance :=
  { acceptance with
    stage := .inserted
    inserted := (ingress.ledger.insertManyNew
      ((acceptance.events.insertionSort fun left right => left.eventId ≤ right.eventId).map
        fun event => event.ledgerRow platform)).2 }

/-- `SELECT … FOR UPDATE` of the ledger rows, and the checks on them. -/
def lockLedger (platform : Platform) (ingress : Ingress) (acceptance : Acceptance) :
    Attempt Acceptance :=
  let ledgers := (ingress.ledger.select (fun row => decide (row.eventId ∈ acceptance.eventIds)) ++
    acceptance.inserted).insertionSort fun left right => left.eventId ≤ right.eventId
  if ledgers.length ≠ acceptance.events.length then
    .error (.runtimeError "RFID event ledger insertion did not reconcile")
  else if !sameObservations platform acceptance.events ledgers then .error eventIdConflict
  else .ok { acceptance with stage := .locked, ledgers }

def created (acceptance : Acceptance) : List RfidObservationEvent :=
  acceptance.events.filter fun event =>
    decide (event.eventId ∈ acceptance.inserted.map RfidObservationEventLedger.eventId)

/-- The autoflush before the next statement: the outbox rows draw their numbers. -/
def queueOutbox (ingress : Ingress) (acceptance : Acceptance) : Acceptance × Ingress :=
  ({ acceptance with
      stage := .queued
      rows := outboxRows acceptance.created ingress.acceptanceSequence },
    { ingress with
      acceptanceSequence := ingress.acceptanceSequence + acceptance.created.length })

def receive (stores : Table Store.id) (connectivity : Connectivity) (acceptance : Acceptance) :
    Attempt (Connectivity × Bool) :=
  lockStoreConnectivityForReceipt stores connectivity acceptance.batch.storeId acceptance.receivedAt
    acceptance.backlogDrained acceptance.readerCoverageOk

/-- `lock_store_connectivity_for_receipt`; the store's row is locked until the transaction ends. -/
def lockConnectivity (stores : Table Store.id) (connectivity : Connectivity)
    (acceptance : Acceptance) : Attempt Acceptance := do
  let _ ← acceptance.receive stores connectivity
  return { acceptance with stage := .received }

/-- What the transaction wrote becomes visible. -/
def commit (stores : Table Store.id) (ingress : Ingress) (connectivity : Connectivity)
    (acceptance : Acceptance) : Attempt (Ingress × Connectivity) := do
  let batches ← orIntegrityError "rfid_observation_batches_pkey"
    (ingress.batches.insert acceptance.batch)
  let ledger ← orIntegrityError "pk_rfid_observation_events"
    (ingress.ledger.insertMany acceptance.inserted)
  let links ← orIntegrityError "pk_rfid_observation_batch_events"
    (ingress.links.insertMany (acceptance.ledgers.map fun row => row.link acceptance.batch.id))
  let outbox ← orIntegrityError "uq_rfid_outbox_tenant_event"
    (ingress.outbox.insertMany acceptance.rows)
  let (connectivity,_) ← acceptance.receive stores connectivity
  return ({ ingress with
    batches := batches.modify acceptance.batch.id
      (fun row => row.initialOutcome acceptance.ledgers acceptance.receivedAt)
      (fun row => row.initialOutcome_id acceptance.ledgers acceptance.receivedAt)
    ledger
    links
    outbox },connectivity)

end Acceptance

end Acceptances

section Workers

inductive RowAttempt where
  | untaken | taken | failed
deriving DecidableEq, Repr

structure RawWorker where
  id : Uuid
  recent : RecentObservationState
  selected : List EventId := []
  attempt : RowAttempt := .untaken

def RawWorker.proceed (worker : RawWorker) (recent : RecentObservationState) : RawWorker :=
  { worker with recent, selected := worker.selected.tail, attempt := .untaken }

/-- The pass ends, also when the worker stops or does not hear that its commit went through. -/
def RawWorker.leave (worker : RawWorker) (recent : RecentObservationState) : RawWorker :=
  { worker with recent, selected := [], attempt := .untaken }

end Workers

/-- The committed database, the open acceptances, the workers, and the rows in the order in which
their events were handled. -/
structure AcceptanceState where
  database : Database
  accepting : Table Acceptance.id
  workers : Table RawWorker.id
  handled : List RfidObservationOutbox

inductive Statement where
  | start (device : Device) (request : ObservationBatchCreate) (receivedAt : Time) (batchId : Uuid)
  | insertLedger (batchId : Uuid)
  | lockLedger (batchId : Uuid)
  | queueOutbox (batchId : Uuid)
  | lockConnectivity (batchId : Uuid)
  | commit (batchId : Uuid)
  | rollback (batchId : Uuid)
  | selectRows (workerId : Uuid) (limit : ℕ)
  | takeRow (workerId : Uuid)
  | handleRow (workerId : Uuid) (clock : Clock) (quarantineId evidenceId : Uuid)
  | failRow (workerId : Uuid) (progress : Progress)
  | recordFailure (workerId : Uuid) (error : String) (quarantineId : Uuid) (now : Time)
  | leave (workerId : Uuid) (recent : RecentObservationState)
  | elsewhere (registry : Registry) (connectivity : Connectivity) (inventory : Inventory)
      (replenishment : Replenishment) (policies : Policies)

namespace AcceptanceState

variable (platform : Platform) (settings : Settings) (state : AcceptanceState)

section Accepting

def rollback (batchId : Uuid) : AcceptanceState :=
  { state with
    accepting := state.accepting.deleteWhere fun acceptance => acceptance.id = batchId }

/-- A statement of one acceptance; an error rolls the transaction back. -/
def advance (batchId : Uuid) (stage : AcceptanceStage) (waits : Acceptance → Acceptance → Bool)
    (step : Acceptance → Attempt Acceptance) : Option AcceptanceState :=
  match state.accepting.find? batchId with
  | none => none
  | some acceptance =>
      if acceptance.stage ≠ stage then none
      else if state.accepting.rows.any fun other =>
          decide (other.id ≠ batchId) && waits acceptance other then none
      else match step acceptance with
        | .error _ => some (state.rollback batchId)
        | .ok advanced => some { state with accepting := state.accepting.put advanced }

def sharesEvent (acceptance : Acceptance) (ledgers : List RfidObservationEventLedger) : Bool :=
  ledgers.any fun row => decide (row.eventId ∈ acceptance.eventIds)

def start (device : Device) (request : ObservationBatchCreate) (receivedAt : Time)
    (batchId : Uuid) : Option AcceptanceState :=
  match Acceptance.start state.database.registry device request receivedAt batchId with
  | .error _ => some state
  | .ok acceptance =>
      (state.accepting.insert acceptance).map fun accepting => { state with accepting }

def insertLedger (batchId : Uuid) : Option AcceptanceState :=
  state.advance batchId .started
    (fun acceptance other => sharesEvent acceptance other.inserted)
    fun acceptance => .ok (acceptance.insertLedger platform state.database.ingress)

def lockLedger (batchId : Uuid) : Option AcceptanceState :=
  state.advance batchId .inserted
    (fun acceptance other => sharesEvent acceptance other.ledgers)
    fun acceptance => acceptance.lockLedger platform state.database.ingress

def queueOutbox (batchId : Uuid) : Option AcceptanceState :=
  match state.accepting.find? batchId with
  | none => none
  | some acceptance =>
      if acceptance.stage ≠ .locked then none
      else some { state with
        accepting := state.accepting.put (acceptance.queueOutbox state.database.ingress).1
        database := { state.database with
          ingress := (acceptance.queueOutbox state.database.ingress).2 } }

def lockConnectivity (batchId : Uuid) : Option AcceptanceState :=
  state.advance batchId .queued
    (fun acceptance other =>
      decide (other.stage = .received) && decide (other.batch.storeId = acceptance.batch.storeId))
    fun acceptance =>
      acceptance.lockConnectivity state.database.registry.stores state.database.connectivity

def commit (batchId : Uuid) : Option AcceptanceState :=
  match state.accepting.find? batchId with
  | none => none
  | some acceptance =>
      if acceptance.stage ≠ .received then none
      else match acceptance.commit state.database.registry.stores state.database.ingress
          state.database.connectivity with
        | .error _ => some (state.rollback batchId)
        | .ok (ingress,connectivity) =>
            some { state.rollback batchId with
              database := { state.database with ingress, connectivity } }

end Accepting

section Working

def withWorker (worker : RawWorker) : AcceptanceState :=
  { state with workers := state.workers.put worker }

def work (workerId : Uuid) (attempt : RowAttempt)
    (step : RawWorker → EventId → Option AcceptanceState) : Option AcceptanceState :=
  match state.workers.find? workerId with
  | none => none
  | some worker =>
      if worker.attempt ≠ attempt then none
      else worker.selected.head?.bind (step worker)

def selectRows (workerId : Uuid) (limit : ℕ) : Option AcceptanceState :=
  match state.workers.find? workerId with
  | none => none
  | some worker =>
      if worker.selected ≠ [] then none
      else some (state.withWorker { worker with
        selected := pendingRawEvents state.database.ingress limit, attempt := .untaken })

def rowLocked (workerId : Uuid) (eventId : EventId) : Bool :=
  state.workers.rows.any fun other => decide (other.id ≠ workerId) &&
    decide (other.attempt = .taken) && decide (other.selected.head? = some eventId)

/-- `SELECT … FOR UPDATE` of a row, which is skipped if it was published since. -/
def takeRow (workerId : Uuid) : Option AcceptanceState :=
  state.work workerId .untaken fun worker eventId =>
    if state.rowLocked workerId eventId then none
    else if (unpublishedRow state.database.ingress eventId).isNone then
      some (state.withWorker (worker.proceed worker.recent))
    else some (state.withWorker { worker with attempt := .taken })

def handleRow (workerId : Uuid) (clock : Clock) (quarantineId evidenceId : Uuid) :
    Option AcceptanceState :=
  state.work workerId .taken fun worker eventId =>
    match handleRaw platform settings state.database worker.recent eventId clock quarantineId
        evidenceId with
    | .error _ => none
    | .ok (database,recent) =>
        some { state.withWorker (worker.proceed recent) with
          database
          handled := state.handled ++ (unpublishedRow state.database.ingress eventId).toList }

def failRow (workerId : Uuid) (progress : Progress) : Option AcceptanceState :=
  state.work workerId .taken fun worker eventId =>
    some (state.withWorker { worker with
      recent := ((unpublishedRow state.database.ingress eventId).map fun row =>
        rolledBack worker.recent row.payload progress).getD worker.recent
      attempt := .failed })

/-- The bookkeeping transaction: a terminal failure lets the pass go on, any other ends it. -/
def recordFailure (workerId : Uuid) (error : String) (quarantineId : Uuid) (now : Time) :
    Option AcceptanceState :=
  state.work workerId .failed fun worker eventId =>
    if state.rowLocked workerId eventId then none
    else match failRaw settings state.database.registry state.database.ingress eventId error
        quarantineId now with
      | .error _ => some (state.withWorker (worker.leave worker.recent))
      | .ok ingress =>
          let exhausted := (unpublishedRow state.database.ingress eventId).filter fun row =>
            decide (settings.workerMaxAttempts ≤ row.publishAttempts + 1)
          some { state.withWorker (if exhausted.isSome then worker.proceed worker.recent
              else worker.leave worker.recent) with
            database := { state.database with ingress }
            handled := state.handled ++ exhausted.toList }

def leave (workerId : Uuid) (recent : RecentObservationState) : Option AcceptanceState :=
  (state.workers.find? workerId).map fun worker => state.withWorker (worker.leave recent)

end Working

def next : Statement → Option AcceptanceState
  | .start device request receivedAt batchId => state.start device request receivedAt batchId
  | .insertLedger batchId => state.insertLedger platform batchId
  | .lockLedger batchId => state.lockLedger platform batchId
  | .queueOutbox batchId => state.queueOutbox batchId
  | .lockConnectivity batchId => state.lockConnectivity batchId
  | .commit batchId => state.commit batchId
  | .rollback batchId => some (state.rollback batchId)
  | .selectRows workerId limit => state.selectRows workerId limit
  | .takeRow workerId => state.takeRow workerId
  | .handleRow workerId clock quarantineId evidenceId =>
      state.handleRow platform settings workerId clock quarantineId evidenceId
  | .failRow workerId progress => state.failRow workerId progress
  | .recordFailure workerId error quarantineId now =>
      state.recordFailure settings workerId error quarantineId now
  | .leave workerId recent => state.leave workerId recent
  | .elsewhere registry connectivity inventory replenishment policies =>
      some { state with
        database := { state.database with
          registry, connectivity, inventory, replenishment, policies } }

end AcceptanceState

def acceptances (platform : Platform) (settings : Settings) : Machine AcceptanceState Statement where
  initial state := state.database.ingress.outbox = Table.empty ∧ state.accepting = Table.empty ∧
    (∀ worker ∈ state.workers.rows, worker.selected = []) ∧ state.handled = []
  next := AcceptanceState.next platform settings

end Abacus

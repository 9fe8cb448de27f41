import Abacus.Model.BusinessEvents

/-! The event worker's transactions (`processes/event_worker.py`). -/
set_option autoImplicit false

namespace Abacus

open Relational (Table)

def errorText (error : String) : String := String.ofList (error.toList.take 2000)

section RawEvents

/-- The unpublished raw rows a pass drains, in acceptance order. -/
def pendingRawEvents (ingress : Ingress) (limit : ℕ) : List EventId :=
  (((ingress.outbox.select fun row => row.publishedAt.isNone).insertionSort
    fun left right => left.acceptanceSequence ≤ right.acceptanceSequence).map
      RfidObservationOutbox.eventId).take limit

def unpublishedRow (ingress : Ingress) (eventId : EventId) : Option RfidObservationOutbox :=
  (ingress.outbox.find? eventId).filter fun row => row.publishedAt.isNone

def RfidObservationOutbox.publish (row : RfidObservationOutbox) (publishedAt : Time) :
    RfidObservationOutbox :=
  { row with
    publishedAt := some publishedAt
    publishAttempts := row.publishAttempts + 1
    lastError := none }

@[simp] theorem RfidObservationOutbox.publish_eventId (row : RfidObservationOutbox)
    (publishedAt : Time) : (row.publish publishedAt).eventId = row.eventId := rfl

def Database.publishRaw (db : Database) (eventId : EventId) (publishedAt : Time) : Database :=
  { db with
    ingress := { db.ingress with
      outbox := db.ingress.outbox.modify eventId (fun row => row.publish publishedAt)
        (fun row => row.publish_eventId publishedAt) } }

/-- The transaction that handles one raw event. A row that is gone or published is skipped. -/
def handleRaw (platform : Platform) (settings : Settings) (db : Database)
    (recent : RecentObservationState) (eventId : EventId) (clock : Clock)
    (quarantineId evidenceId : Uuid) : Attempt (Database × RecentObservationState) :=
  match unpublishedRow db.ingress eventId with
  | none => .ok (db,recent)
  | some row =>
      match row.payload with
      | .invalid => .error (.validationError "RfidObservationEvent")
      | .event event =>
          match db.ingress.ledger.find? row.eventId with
          | none => .error (.runtimeError "RFID outbox has no event ledger")
          | some ledger => do
              let (db,recent) ←
                if ledger.processingStatus = .pending then do
                  let (_,db,recent) ← processObservation platform settings db recent event clock
                    quarantineId evidenceId
                  pure (db,recent)
                else pure (db,recent)
              return (db.publishRaw eventId clock.finalized,recent)

/-- How far a failed attempt got in the in-memory state before its transaction rolled back. -/
inductive Progress where
  | untouched
  | forgot
  | remembered
  | added (resolved : RfidObservationEvent) (windowSeconds : ℕ) (evidenceNotBefore : Option Time)

def Progress.reach (progress : Progress) (recent : RecentObservationState)
    (event : RfidObservationEvent) : RecentObservationState :=
  match progress with
  | .untouched => recent
  | .forgot => recent.released event
  | .remembered => ((recent.released event).rememberEvent event).2
  | .added resolved windowSeconds evidenceNotBefore =>
      (((recent.released event).rememberEvent event).2.add { resolved with
        tenantId := event.tenantId, epc := event.epc } windowSeconds evidenceNotBefore).2

/-- The in-memory state after a failed attempt at a payload was restored from its checkpoint. -/
def rolledBack (recent : RecentObservationState) (payload : StoredPayload) (progress : Progress) :
    RecentObservationState :=
  match payload with
  | .invalid => recent
  | .event event => (progress.reach recent event).restore (recent.checkpoint event)

/-- `_terminal_event`: recover the canonical event from its ledger if the payload is malformed. -/
def terminalEvent (registry : Registry) (ingress : Ingress) (row : RfidObservationOutbox) :
    Attempt RfidObservationEvent :=
  match row.payload with
  | .event event => .ok event
  | .invalid =>
      match ingress.ledger.find? row.eventId, (ingress.batchesOf row.eventId).min? with
      | some ledger, some batchId => .ok (ledger.event registry.tenantId batchId none)
      | _, _ => .error (.runtimeError "RFID poison event has no durable ledger or batch link")

def RfidObservationOutbox.countFailure (row : RfidObservationOutbox) (error : String) :
    RfidObservationOutbox :=
  { row with
    publishAttempts := row.publishAttempts + 1
    lastError := some (errorText error) }

/-- An exhausted event counts as handled. -/
def RfidObservationOutbox.terminalize (row : RfidObservationOutbox) (now : Time) :
    RfidObservationOutbox :=
  { row with publishedAt := some now }

@[simp] theorem RfidObservationOutbox.countFailure_eventId (row : RfidObservationOutbox)
    (error : String) : (row.countFailure error).eventId = row.eventId := rfl

@[simp] theorem RfidObservationOutbox.terminalize_eventId (row : RfidObservationOutbox)
    (now : Time) : (row.terminalize now).eventId = row.eventId := rfl

def Ingress.countFailure (ingress : Ingress) (eventId : EventId) (error : String) : Ingress :=
  { ingress with
    outbox := ingress.outbox.modify eventId (fun row => row.countFailure error)
      (fun row => row.countFailure_eventId error) }

/-- The bookkeeping transaction after a failed attempt; it terminalizes an exhausted event. -/
def failRaw (settings : Settings) (registry : Registry) (ingress : Ingress) (eventId : EventId)
    (error : String) (quarantineId : Uuid) (now : Time) : Attempt Ingress :=
  match unpublishedRow ingress eventId with
  | none => .ok ingress
  | some row =>
      if settings.workerMaxAttempts ≤ row.publishAttempts + 1 then do
        let event ← terminalEvent registry (ingress.countFailure eventId error) row
        let quarantined ← quarantineObservation (ingress.countFailure eventId error) event
          .processingAttemptsExhausted row.payload quarantineId now
        return { quarantined with
          outbox := quarantined.outbox.modify eventId (fun row => row.terminalize now)
            (fun row => row.terminalize_eventId now) }
      else return ingress.countFailure eventId error

end RawEvents

section Transitions

def isEarliestPending (inventory : Inventory) (transition : InventoryTransitionOutbox) : Bool :=
  transition.pending && inventory.transitions.rows.all fun other =>
    decide (other.epc = transition.epc → other.pending = true →
      transition.stateVersion ≤ other.stateVersion)

/-- The earliest pending transition of each item, as a pass fetches them. -/
def pendingTransitions (inventory : Inventory) (limit : ℕ) : List Uuid :=
  (((inventory.transitions.select fun transition =>
      isEarliestPending inventory transition).insertionSort fun left right =>
        left.createdAt < right.createdAt ∨
          (left.createdAt = right.createdAt ∧ left.transitionId ≤ right.transitionId)).map
    InventoryTransitionOutbox.transitionId).take limit

def pendingTransition (inventory : Inventory) (transitionId : Uuid) :
    Option InventoryTransitionOutbox :=
  (inventory.transitions.find? transitionId).filter InventoryTransitionOutbox.pending

/-- `_validated_transition_deltas`. -/
def validatedTransitionDeltas (transition : InventoryTransitionOutbox) :
    Attempt (List InventoryDeltaEvent) :=
  if transition.deltas.isEmpty then
    .error (.valueError "inventory transition must contain at least one delta")
  else
    match transition.deltas.mapM DeltaPayload.event? with
    | none => .error (.validationError "InventoryDeltaEvent")
    | some deltas =>
        if deltas.any fun delta => decide (delta.transitionId ≠ transition.transitionId) then
          .error (.valueError "inventory delta transition_id does not match its outbox row")
        else if deltas.any fun delta => decide (delta.epc ≠ transition.epc) then
          .error (.valueError "inventory delta EPC does not match its outbox row")
        else if ¬(deltas.map InventoryDeltaEvent.deltaId).Nodup then
          .error (.valueError "inventory transition contains duplicate delta IDs")
        else .ok deltas

def InventoryTransitionOutbox.publish (transition : InventoryTransitionOutbox)
    (publishedAt : Time) : InventoryTransitionOutbox :=
  { transition with
    status := .published publishedAt
    publishAttempts := transition.publishAttempts + 1
    lastError := none }

@[simp] theorem InventoryTransitionOutbox.publish_transitionId
    (transition : InventoryTransitionOutbox) (publishedAt : Time) :
    (transition.publish publishedAt).transitionId = transition.transitionId := rfl

/-- The transaction that applies one pending transition. A row that is no longer pending is
skipped. -/
def applyTransition (registry : Registry) (connectivity : Connectivity) (inventory : Inventory)
    (transitionId : Uuid) (now : Time) : Attempt Inventory :=
  match pendingTransition inventory transitionId with
  | none => .ok inventory
  | some transition => do
      let deltas ← validatedTransitionDeltas transition
      let (_,inventory) ← applyInventoryDeltas registry connectivity inventory deltas
      return { inventory with
        transitions := inventory.transitions.modify transitionId (fun row => row.publish now)
          (fun row => row.publish_transitionId now) }

/-- `_transition_store_ids`: the stores of the payload and of the item. -/
def transitionStoreIds (inventory : Inventory) (transition : InventoryTransitionOutbox) :
    List Uuid :=
  (transition.deltas.filterMap fun payload =>
    match payload with
    | .event delta => some delta.storeId
    | .invalid storeId => storeId) ++
  (((inventory.items.find? transition.epc).bind CurrentItemState.location).map
    Location.storeId).toList

def StoreConnectivity.requireReconciliation (row : StoreConnectivity) (quarantinedAt : Time) :
    StoreConnectivity :=
  { row with
    inventoryReconciliationRequiredAt := some quarantinedAt
    freshnessStatus := if row.freshnessStatus = .live then .degraded else row.freshnessStatus }

@[simp] theorem StoreConnectivity.requireReconciliation_storeId (row : StoreConnectivity)
    (quarantinedAt : Time) : (row.requireReconciliation quarantinedAt).storeId = row.storeId := rfl

/-- The stores a quarantined transition degrades: those it names, or all of the tenant. -/
def affectedStore (connectivity : Connectivity) (storeIds : List Uuid) (row : StoreConnectivity) :
    Bool :=
  if connectivity.rows.any fun row => decide (row.storeId ∈ storeIds) then
    decide (row.storeId ∈ storeIds)
  else true

def InventoryTransitionOutbox.countFailure (transition : InventoryTransitionOutbox)
    (error : String) : InventoryTransitionOutbox :=
  { transition with
    publishAttempts := transition.publishAttempts + 1
    lastError := some (errorText error) }

def InventoryTransitionOutbox.quarantine (transition : InventoryTransitionOutbox)
    (error : String) (quarantinedAt : Time) : InventoryTransitionOutbox :=
  { transition with
    status := .quarantined quarantinedAt none
    lastError := some (errorText error) }

@[simp] theorem InventoryTransitionOutbox.countFailure_transitionId
    (transition : InventoryTransitionOutbox) (error : String) :
    (transition.countFailure error).transitionId = transition.transitionId := rfl

@[simp] theorem InventoryTransitionOutbox.quarantine_transitionId
    (transition : InventoryTransitionOutbox) (error : String) (quarantinedAt : Time) :
    (transition.quarantine error quarantinedAt).transitionId = transition.transitionId := rfl

/-- `_quarantine_transition`: terminalize one poison transition and fail closed. -/
def quarantineTransition (connectivity : Connectivity) (inventory : Inventory)
    (transition : InventoryTransitionOutbox) (error : String) (quarantinedAt : Time) :
    Inventory × Connectivity :=
  ({ inventory with
      transitions := inventory.transitions.modify transition.transitionId
        (fun row => row.quarantine error quarantinedAt)
        (fun row => row.quarantine_transitionId error quarantinedAt) },
    connectivity.updateWhere
      (affectedStore connectivity (transitionStoreIds inventory transition))
      (fun row => row.requireReconciliation quarantinedAt)
      (fun row => row.requireReconciliation_storeId quarantinedAt))

/-- The bookkeeping transaction after a failed attempt at a transition. -/
def failTransition (settings : Settings) (connectivity : Connectivity) (inventory : Inventory)
    (transitionId : Uuid) (error : String) (now : Time) : Inventory × Connectivity :=
  match pendingTransition inventory transitionId with
  | none => (inventory,connectivity)
  | some transition =>
      let counted := { inventory with
        transitions := inventory.transitions.modify transitionId
          (fun row => row.countFailure error)
          (fun row => row.countFailure_transitionId error) }
      if settings.workerMaxAttempts ≤ transition.publishAttempts + 1 then
        quarantineTransition connectivity counted transition error now
      else (counted,connectivity)

end Transitions

end Abacus

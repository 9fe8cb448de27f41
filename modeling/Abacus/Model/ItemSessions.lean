import Abacus.Model.BusinessEvents
import Abacus.Model.Services

/-! Removals and observations as sessions that meet at the row of an item.
The lookups of an observation before its item are those of the registry. Its writes to other
tables (connectivity, the ledger and its batches) stand with its commit: no statement in
between reads them.
-/
set_option autoImplicit false

namespace Abacus

open Relational Transaction

inductive ItemLock where
  | businessEvent (sourceSystem externalEventId : String)
  | item (epc : Epc)
deriving DecidableEq, Repr

inductive ItemResponse where
  | accepted (answer : AcceptedBusinessEvent)
  | processed (result : ProcessingResult)
  | worked

abbrev ItemProgram := Service Database ItemLock ItemResponse

/-- The item of an EPC for update: a row that exists is locked, and then read again. -/
def lockItem (epc : Epc) (next : Option CurrentItemState → ItemProgram) : ItemProgram :=
  .read fun seen =>
    if (seen.inventory.items.find? epc).isNone then next none
    else .lock (.item epc) fun locked => next (locked.inventory.items.find? epc)

section Removal

variable (platform : Platform) (settings : Settings) (storeId : Uuid)
  (request : BusinessEventCreate) (clock : Clock) (eventId : Uuid)

/-- The flushes and the commit of a removal, under the unique source and external identifier. -/
def Database.remove (state : CurrentItemState) (bucket : Bucket) (db : Database) :
    Attempt (ItemResponse × Database) :=
  orBusinessEventConflict
    (if (findBusinessEvent db.inventory request.sourceSystem request.externalEventId).isSome then
      .error (.integrityError "uq_business_events_source_event")
    else do
      let (event,inventory) ← storeRemoval platform db.registry db.inventory state bucket storeId
        request eventId clock.started
      return (.accepted ⟨event,.pendingProjection,true⟩,{ db with inventory }))

def removeItem : ItemProgram :=
  lockItem request.epc fun item => item.elim (abandon businessEventItemNotFound) fun state =>
    .read fun marked =>
      match removableBucket marked.ingress state storeId request.occurredAt with
      | .error failure => abandon failure
      | .ok bucket => commit (Database.remove platform storeId request clock eventId state bucket)

/-- `accept_authoritative_removal`; the advisory lock is on the event's identifiers. -/
def removal : ItemProgram :=
  .read fun seen =>
    ensure ((seen.registry.stores.find? storeId).isSome = true) storeNotFound
      (ensure
        (request.occurredAt ≤ clock.processor + seconds settings.rfidMaxFutureSkewSeconds)
        businessEventTooFarInFuture
        (.lock (.businessEvent request.sourceSystem request.externalEventId) fun _ =>
          .read fun known =>
            (findBusinessEvent known.inventory request.sourceSystem request.externalEventId).elim
              (removeItem platform storeId request clock eventId) fun existing =>
                ensure (existing.requestFingerprint = request.fingerprint platform storeId)
                  businessEventIdempotencyConflict
                  (.read fun current => answer (.accepted
                    ⟨existing,businessEventStatus current.inventory existing,false⟩))))

end Removal

section Observation

variable (platform : Platform) (settings : Settings)

/-- `locateItem` with the item and the processed reads as their statements have seen them. A move
of a new item fails if its row was inserted since. -/
def locateReadItem (db : Database) (event resolved : RfidObservationEvent) (binding : EpcBinding)
    (evidenceStart : Option Time) (recent : RecentObservationState) (clock : Clock)
    (evidenceId : Uuid) (state : Option CurrentItemState) (marked : Ingress) : Attempt Effect :=
  let watermark := durableWatermark marked state event.epc
  if watermark.any fun watermark => decide (event.observedAt < watermark) then
    .ok { result := { disposition := .late, reason := some .observedAtBeforeCurrentState },
          inventory := db.inventory, replenishment := db.replenishment, recent }
  else if state.any fun state => state.authoritativeRemoval.isSome then
    .ok { result := { disposition := .removedItemObserved, reason := some .authoritativelyRemoved },
          inventory := db.inventory, replenishment := db.replenishment, recent }
  else do
    let (window,recent) := recent.add resolved settings.rfidMoveConfirmationWindowSeconds
      evidenceStart
    let effect ← decideLocation platform settings db event binding.skuId state watermark window
      recent clock evidenceId
    if effect.result.stateChanged && state.isNone &&
        (db.inventory.items.find? event.epc).isSome then
      .error (.integrityError "current_item_state_pkey")
    else return effect

/-- `_quarantine` and its commit, in the database that holds the writes before it. -/
def quarantineAfter (event : RfidObservationEvent) (reason : RejectionReason) (quarantineId : Uuid)
    (finalizedAt : Time) (written : Database → Attempt Database) : ItemProgram :=
  commit fun db => do
    let db ← written db
    let (result,db) ← db.quarantine event reason quarantineId finalizedAt
    return (.processed result,db)

def withConnectivity (resolved : RfidObservationEvent) (db : Database) : Attempt Database := do
  let connectivity ← updateConnectivity db.registry.stores db.connectivity resolved settings
  return { db with connectivity }

def observeItem (event resolved : RfidObservationEvent) (binding : EpcBinding)
    (evidenceStart : Option Time) (recent : RecentObservationState) (clock : Clock)
    (evidenceId : Uuid) (state : Option CurrentItemState) (marked : Ingress) (db : Database) :
    Attempt (ItemResponse × Database) := do
  let db ← withConnectivity settings resolved db
  let effect ← locateReadItem platform settings db event resolved binding evidenceStart recent
    clock evidenceId state marked
  let (result,db) ← Database.finalize
    { db with inventory := effect.inventory, replenishment := effect.replenishment } event
    effect.result clock.finalized
  return (.processed result,db)

/-- `process_observation` for an event that was not a duplicate. -/
def freshObservation (recent : RecentObservationState) (event : RfidObservationEvent)
    (clock : Clock) (quarantineId evidenceId : Uuid) : ItemProgram :=
  if tooFarInFuture event settings clock.processor then
    quarantineAfter event .observedAtTooFarInFuture quarantineId clock.finalized .ok
  else .read fun assigned =>
    match resolveEffectiveAssignment assigned.registry event with
    | .error reason => quarantineAfter event reason quarantineId clock.finalized .ok
    | .ok assignment =>
        let resolved := { event with storeId := assignment.storeId, zoneId := assignment.zoneId }
        .read fun bound =>
          match resolveBinding bound.registry bound.ingress event clock.replay with
          | none =>
              quarantineAfter event .unknownEpc quarantineId clock.finalized
                (withConnectivity settings resolved)
          | some (binding,evidenceStart) =>
              lockItem event.epc fun state => .read fun marked =>
                commit (observeItem platform settings event resolved binding evidenceStart recent
                  clock evidenceId state marked.ingress)

/-- `process_observation`, by a worker with this memory. -/
def observation (recent : RecentObservationState) (event : RfidObservationEvent) (clock : Clock)
    (quarantineId evidenceId : Uuid) : ItemProgram :=
  match (recent.released event).rememberEvent event with
  | (false,_) =>
      commit fun db => do
        let (result,db) ← db.finalize event { disposition := .duplicate } clock.finalized
        return (.processed result,db)
  | (true,recent) =>
      freshObservation platform settings recent event clock quarantineId evidenceId

end Observation

/-- What the rest of the tenant may write: no item and no business event, of a transition only how
far it is applied, and of a store only its status. -/
structure OtherWork where
  registry : Registry
  storeStatus : Uuid → StoreStatus
  ingress : Ingress
  connectivity : Connectivity
  projections : Table InventoryProjection.bucket
  applied : Table AppliedInventoryDelta.deltaId
  status : InventoryTransitionOutbox → TransitionStatus
  publishAttempts : InventoryTransitionOutbox → ℕ
  lastError : InventoryTransitionOutbox → Option String
  replenishment : Replenishment
  policies : Policies

def OtherWork.write (work : OtherWork) (db : Database) : Database where
  registry := { work.registry with
    tenantId := db.registry.tenantId
    stores := db.registry.stores.updateWhere (fun _ => true)
      (fun store => { store with status := work.storeStatus store.id }) fun _ => rfl }
  ingress := work.ingress
  connectivity := work.connectivity
  inventory := { db.inventory with
    transitions := db.inventory.transitions.updateWhere (fun _ => true)
      (fun row => { row with
        status := work.status row
        publishAttempts := work.publishAttempts row
        lastError := work.lastError row }) fun _ => rfl
    projections := work.projections
    applied := work.applied }
  replenishment := work.replenishment
  policies := work.policies

inductive ItemRequest where
  | remove (storeId : Uuid) (request : BusinessEventCreate) (clock : Clock) (eventId : Uuid)
  | observe (recent : RecentObservationState) (event : RfidObservationEvent) (clock : Clock)
      (quarantineId evidenceId : Uuid)
  | elsewhere (work : OtherWork)

def itemService (platform : Platform) (settings : Settings) : ItemRequest → ItemProgram
  | .remove storeId request clock eventId =>
      removal platform settings storeId request clock eventId
  | .observe recent event clock quarantineId evidenceId =>
      observation platform settings recent event clock quarantineId evidenceId
  | .elsewhere work => .finish fun db => (work.write db,.ok .worked)

end Abacus

import Abacus.Model.Schema

/-! Store connectivity: receipts, observation evidence and the freshness derived from them
(`services/connectivity.py` and the connectivity part of `services/streaming_inventory.py`).
-/
set_option autoImplicit false

namespace Abacus

open Relational (Table)

/-- The heartbeat only moves forward. -/
def StoreConnectivity.heard (row : StoreConnectivity) (receivedAt : Time) : StoreConnectivity :=
  if row.gatewayLastHeartbeat.all fun heartbeat => decide (heartbeat < receivedAt) then
    { row with gatewayLastHeartbeat := some receivedAt }
  else row

def StoreConnectivity.withStatus (row : StoreConnectivity) (receivedAt : Time)
    (backlogDrained readerCoverageOk : Bool) : StoreConnectivity :=
  { row with
    statusReceivedAt := receivedAt
    backlogDrained := backlogDrained
    readerCoverageOk := readerCoverageOk
    freshnessStatus := if !backlogDrained || !readerCoverageOk then .stale else row.freshnessStatus }

/-- The locked row after a receipt, and whether the receipt is the current one. -/
def StoreConnectivity.recordReceipt (row : StoreConnectivity) (receivedAt : Time)
    (backlogDrained readerCoverageOk : Bool) : StoreConnectivity × Bool :=
  if row.statusReceivedAt ≤ receivedAt then
    ((row.heard receivedAt).withStatus receivedAt backlogDrained readerCoverageOk,true)
  else (row.heard receivedAt,false)

@[simp] theorem StoreConnectivity.recordReceipt_storeId (row : StoreConnectivity)
    (receivedAt : Time) (backlogDrained readerCoverageOk : Bool) :
    (row.recordReceipt receivedAt backlogDrained readerCoverageOk).1.storeId = row.storeId := by
  unfold recordReceipt heard withStatus
  split_ifs <;> rfl

@[simp] theorem StoreConnectivity.recordReceipt_reconciliation (row : StoreConnectivity)
    (receivedAt : Time) (backlogDrained readerCoverageOk : Bool) :
    (row.recordReceipt receivedAt backlogDrained readerCoverageOk).1.inventoryReconciliationRequiredAt =
      row.inventoryReconciliationRequiredAt := by
  unfold recordReceipt heard withStatus
  split_ifs <;> rfl

def StoreConnectivity.firstReceipt (storeId : Uuid) (receivedAt : Time)
    (backlogDrained readerCoverageOk : Bool) : StoreConnectivity where
  storeId := storeId
  gatewayLastHeartbeat := some receivedAt
  statusReceivedAt := receivedAt
  backlogDrained := backlogDrained
  readerCoverageOk := readerCoverageOk
  freshnessStatus := .stale

/-- Lock a connectivity row, inserting it first if needed, and apply the receipt. -/
def lockStoreConnectivityForReceipt (stores : Table Store.id) (connectivity : Connectivity)
    (storeId : Uuid) (receivedAt : Time) (backlogDrained readerCoverageOk : Bool) :
    Attempt (Connectivity × Bool) := do
  let connectivity ←
    match connectivity.find? storeId with
    | some _ => .ok connectivity
    | none =>
        match stores.find? storeId with
        | none => .error (.integrityError "fk_store_connectivity_tenant_store")
        | some _ =>
            orIntegrityError "pk_store_connectivity" (connectivity.insert
              (StoreConnectivity.firstReceipt storeId receivedAt backlogDrained readerCoverageOk))
  match connectivity.find? storeId with
  | none => .error (.runtimeError "Store connectivity row could not be locked")
  | some row =>
      .ok (connectivity.modify storeId
          (fun row => (row.recordReceipt receivedAt backlogDrained readerCoverageOk).1)
          (fun row => row.recordReceipt_storeId receivedAt backlogDrained readerCoverageOk),
        (row.recordReceipt receivedAt backlogDrained readerCoverageOk).2)

/-- Derive freshness at read or evaluation time. -/
def effectiveFreshness (connectivity : Option StoreConnectivity) (settings : Settings)
    (now : Time) : FreshnessStatus :=
  match connectivity with
  | none => .stale
  | some row =>
      match row.gatewayLastHeartbeat, row.lastLiveEventAt with
      | some heartbeat, some liveEvent =>
          if !row.backlogDrained || row.oldestBufferedEventAt.isSome then .stale
          else
            let heartbeatAge := max 0 (now - heartbeat)
            let liveEventAge := max 0 (now - liveEvent)
            if seconds settings.connectivityStaleWindowSeconds < heartbeatAge ∨
                seconds settings.connectivityStaleWindowSeconds < liveEventAge then .stale
            else if row.inventoryReconciliationRequiredAt.isSome then .degraded
            else if row.readerCoverageOk ∧
                heartbeatAge ≤ seconds settings.connectivityLiveWindowSeconds ∧
                liveEventAge ≤ seconds settings.connectivityLiveWindowSeconds then .live
            else .degraded
      | _, _ => .stale

/-- Live traffic at or after this receipt has already ended the backlog. -/
def StoreConnectivity.liveHasResumed (row : StoreConnectivity) (event : RfidObservationEvent) :
    Bool :=
  event.backlogDrained && row.lastLiveReceivedAt.any fun received => decide (event.receivedAt ≤ received)

def StoreConnectivity.applyBuffered (row : StoreConnectivity) (event : RfidObservationEvent) :
    StoreConnectivity :=
  if row.liveHasResumed event then row
  else
    { row with
      oldestBufferedEventAt :=
        if row.oldestBufferedEventAt.all fun oldest => decide (event.observedAt < oldest) then
          some event.observedAt
        else row.oldestBufferedEventAt
      backlogDrained := false
      freshnessStatus := .stale }

/-- The live part of an observation, throttled like the item's last-seen refresh. -/
def StoreConnectivity.applyLive (row : StoreConnectivity) (event : RfidObservationEvent)
    (settings : Settings) : StoreConnectivity :=
  { row with
    lastLiveReceivedAt :=
      if row.lastLiveReceivedAt.all fun received => decide (received < event.receivedAt) then
        some event.receivedAt
      else row.lastLiveReceivedAt
    lastLiveEventAt :=
      if row.lastLiveEventAt.all fun live =>
          decide (seconds settings.rfidLastSeenFlushSeconds ≤ event.observedAt - live) then
        some event.observedAt
      else row.lastLiveEventAt }

def StoreConnectivity.refreshLive (row : StoreConnectivity) (event : RfidObservationEvent)
    (settings : Settings) : StoreConnectivity :=
  let drained := { row with
    oldestBufferedEventAt := if event.backlogDrained then none else row.oldestBufferedEventAt }
  { drained with freshnessStatus := effectiveFreshness (some drained) settings event.receivedAt }

/-- `_apply_connectivity_observation`. -/
def StoreConnectivity.applyObservation (row : StoreConnectivity) (event : RfidObservationEvent)
    (settings : Settings) (isCurrentReceipt : Bool) : StoreConnectivity :=
  if event.isBuffered then
    if isCurrentReceipt then row.applyBuffered event else row
  else if isCurrentReceipt then (row.applyLive event settings).refreshLive event settings
  else row.applyLive event settings

@[simp] theorem StoreConnectivity.applyObservation_storeId (row : StoreConnectivity)
    (event : RfidObservationEvent) (settings : Settings) (isCurrentReceipt : Bool) :
    (row.applyObservation event settings isCurrentReceipt).storeId = row.storeId := by
  unfold applyObservation applyBuffered refreshLive applyLive
  split_ifs <;> rfl

@[simp] theorem StoreConnectivity.applyObservation_reconciliation (row : StoreConnectivity)
    (event : RfidObservationEvent) (settings : Settings) (isCurrentReceipt : Bool) :
    (row.applyObservation event settings isCurrentReceipt).inventoryReconciliationRequiredAt =
      row.inventoryReconciliationRequiredAt := by
  unfold applyObservation applyBuffered refreshLive applyLive
  split_ifs <;> rfl

/-- `_update_connectivity`: the receipt's status and then the event's evidence. -/
def updateConnectivity (stores : Table Store.id) (connectivity : Connectivity)
    (event : RfidObservationEvent) (settings : Settings) : Attempt Connectivity := do
  let (connectivity,isCurrentReceipt) ← lockStoreConnectivityForReceipt stores connectivity
    event.storeId event.receivedAt event.backlogDrained event.readerCoverageOk
  return connectivity.modify event.storeId
    (fun row => row.applyObservation event settings isCurrentReceipt)
    (fun row => row.applyObservation_storeId event settings isCurrentReceipt)

end Abacus

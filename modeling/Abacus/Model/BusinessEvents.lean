import Abacus.Model.StreamingInventory

/-! Authoritative removals (`services/business_events.py`). -/
set_option autoImplicit false

namespace Abacus

/-- A removal request, normalized by its schema. `occurred_at` is an instant with the client's
offset from UTC in seconds: comparisons and columns take the instant, the fingerprint its text. -/
structure BusinessEventCreate where
  sourceSystem : String
  externalEventId : String
  eventType : BusinessEventType
  epc : Epc
  occurredAt : Time
  utcOffset : ℤ
  note : Option String := none
deriving DecidableEq, Repr

structure AcceptedBusinessEvent where
  event : BusinessEvent
  processingStatus : BusinessEventStatus
  created : Bool
deriving DecidableEq, Repr

/-- `_request_fingerprint`. -/
def BusinessEventCreate.fingerprint (request : BusinessEventCreate) (platform : Platform)
    (storeId : Uuid) : String :=
  platform.removalFingerprint storeId request.sourceSystem request.externalEventId
    request.eventType request.epc request.occurredAt request.utcOffset request.note

/-- `business_event_status`. -/
def businessEventStatus (inventory : Inventory) (event : BusinessEvent) : BusinessEventStatus :=
  match inventory.transitions.find? event.transitionId with
  | none => .failed
  | some transition =>
      match transition.status with
      | .published _ => .projected
      | .quarantined _ (some _) => .projected
      | .quarantined _ none => .failed
      | .pending => .pendingProjection

section Errors

def storeNotFound : Failure :=
  .apiError 404 "Store not found" "The requested store does not exist." none

def businessEventTooFarInFuture : Failure :=
  .apiError 422 "Business event time is too far in the future"
    "occurred_at exceeds the configured clock-skew allowance."
    (some "business_event_time_too_far_in_future")

def businessEventIdempotencyConflict : Failure :=
  .apiError 409 "Business event conflict"
    "The source event identifier was already used with different content."
    (some "business_event_idempotency_conflict")

def businessEventItemNotFound : Failure :=
  .apiError 404 "Item not found" "The EPC has no confirmed current state to remove."
    (some "business_event_item_not_found")

def businessEventItemAlreadyRemoved : Failure :=
  .apiError 409 "Item already removed"
    "The EPC already has a different authoritative removal event."
    (some "business_event_item_already_removed")

def businessEventLocationUnavailable : Failure :=
  .apiError 409 "Item location unavailable"
    "The EPC has no current store location; confirm it with RFID before removal."
    (some "business_event_location_unavailable")

def businessEventStoreMismatch : Failure :=
  .apiError 409 "Item location conflict"
    "The EPC is not currently located in the requested store."
    (some "business_event_store_mismatch")

def staleBusinessEvent : Failure :=
  .apiError 409 "Stale business event"
    "The event occurred before the item's latest confirmed observation."
    (some "stale_business_event")

def businessEventConflict : Failure :=
  .apiError 409 "Business event conflict"
    "The event could not be accepted because related state changed concurrently."
    (some "business_event_conflict")

end Errors

/-- The `except IntegrityError` of the removal's writes. -/
def orBusinessEventConflict {α : Type} : Attempt α → Attempt α
  | .error (.integrityError _) => .error businessEventConflict
  | attempt => attempt

def CurrentItemState.remove (state : CurrentItemState) (eventId : Uuid) (removedAt : Time) :
    CurrentItemState :=
  { state with
    location := none
    stateVersion := state.stateVersion + 1
    authoritativeRemoval := some ⟨eventId,removedAt⟩
    positiveVersion := by omega
    removedUnlocated := fun _ => rfl }

def storeRemoval (platform : Platform) (registry : Registry) (inventory : Inventory)
    (state : CurrentItemState) (bucket : Bucket) (storeId : Uuid) (request : BusinessEventCreate)
    (eventId : Uuid) (createdAt : Time) : Attempt (BusinessEvent × Inventory) := do
  let next := state.remove eventId request.occurredAt
  let transitionId := platform.transitionId registry.tenantId state.epc next.stateVersion
  let inventory ← recordTransition registry inventory next transitionId
    (moveDeltas transitionId state.epc (some bucket) none state.confidence request.occurredAt)
    createdAt
  let event : BusinessEvent :=
    { id := eventId, storeId, sourceSystem := request.sourceSystem,
      externalEventId := request.externalEventId,
      requestFingerprint := request.fingerprint platform storeId, eventType := request.eventType,
      epc := request.epc, occurredAt := request.occurredAt, transitionId,
      stateVersion := next.stateVersion, note := request.note }
  let businessEvents ← orIntegrityError "business_events_pkey" (inventory.businessEvents.insert event)
  return (event,{ inventory with businessEvents })

/-- The checks on the item that an unseen removal must pass, and the bucket it leaves. -/
def removableBucket (ingress : Ingress) (state : CurrentItemState) (storeId : Uuid)
    (occurredAt : Time) : Attempt Bucket :=
  if state.authoritativeRemoval.isSome then .error businessEventItemAlreadyRemoved
  else
    match state.location with
    | none => .error businessEventLocationUnavailable
    | some location =>
        if location.storeId ≠ storeId then .error businessEventStoreMismatch
        else if (durableWatermark ingress (some state) state.epc).any fun watermark =>
            decide (occurredAt < watermark) then .error staleBusinessEvent
        else .ok (location.bucket state.skuId)

def findBusinessEvent (inventory : Inventory) (sourceSystem externalEventId : String) :
    Option BusinessEvent :=
  inventory.businessEvents.rows.find? fun event =>
    decide (event.sourceSystem = sourceSystem) && decide (event.externalEventId = externalEventId)

/-- `accept_authoritative_removal`; `eventId` is the fresh identifier it draws. -/
def acceptAuthoritativeRemoval (platform : Platform) (settings : Settings) (registry : Registry)
    (ingress : Ingress) (inventory : Inventory) (storeId : Uuid) (request : BusinessEventCreate)
    (clock : Clock) (eventId : Uuid) : Attempt (AcceptedBusinessEvent × Inventory) :=
  if (registry.stores.find? storeId).isNone then .error storeNotFound
  else if clock.processor + seconds settings.rfidMaxFutureSkewSeconds < request.occurredAt then
    .error businessEventTooFarInFuture
  else
    match findBusinessEvent inventory request.sourceSystem request.externalEventId with
    | some existing =>
        if existing.requestFingerprint ≠ request.fingerprint platform storeId then
          .error businessEventIdempotencyConflict
        else .ok (⟨existing,businessEventStatus inventory existing,false⟩,inventory)
    | none =>
        match inventory.items.find? request.epc with
        | none => .error businessEventItemNotFound
        | some state => do
            let bucket ← removableBucket ingress state storeId request.occurredAt
            let (event,inventory) ← orBusinessEventConflict (storeRemoval platform registry
              inventory state bucket storeId request eventId clock.started)
            return (⟨event,.pendingProjection,true⟩,inventory)

end Abacus

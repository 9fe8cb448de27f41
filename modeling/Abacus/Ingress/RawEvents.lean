import Abacus.Library.Machine
import Abacus.Model.EventWorker

/-! The raw-event pipeline as a machine of transactions: acceptance of batches, the worker's
handling of one event, its failures, and replays of quarantined events.
-/
set_option autoImplicit false

namespace Abacus

open Relational (Table)
open Transition (Machine)

/-- A tenant, the worker's memory, and the event ids of the batches that were accepted. -/
structure RawState where
  database : Database
  recent : RecentObservationState
  accepted : List EventId

/-- One transaction. `register` is any change of the registry, such as a catalog promotion, and
`elsewhere` any work outside the registry and the raw-event tables. -/
inductive RawEvent where
  | accept (device : Device) (request : ObservationBatchCreate) (receivedAt : Time) (batchId : Uuid)
  | handle (eventId : EventId) (clock : Clock) (quarantineId evidenceId : Uuid)
  | fail (eventId : EventId) (error : String) (progress : Progress) (quarantineId : Uuid) (now : Time)
  | replay (quarantineId : Uuid)
  | restart (recent : RecentObservationState)
  | register (registry : Registry)
  | elsewhere (connectivity : Connectivity) (inventory : Inventory) (replenishment : Replenishment)
      (policies : Policies)

def RawState.withIngress (state : RawState) (ingress : Ingress) : RawState :=
  { state with database := { state.database with ingress } }

def RawState.accept (platform : Platform) (state : RawState) (device : Device)
    (request : ObservationBatchCreate) (receivedAt : Time) (batchId : Uuid) : RawState :=
  match acceptObservationBatch platform state.database.registry state.database.ingress
      state.database.connectivity device request receivedAt batchId with
  | .error _ => state
  | .ok (ingress,connectivity) =>
      { state with
        database := { state.database with ingress, connectivity }
        accepted := state.accepted ++ request.observations.map ObservationInput.eventId }

def RawState.handle (platform : Platform) (settings : Settings) (state : RawState)
    (eventId : EventId) (clock : Clock) (quarantineId evidenceId : Uuid) : RawState :=
  match handleRaw platform settings state.database state.recent eventId clock quarantineId
      evidenceId with
  | .error _ => state
  | .ok (database,recent) => { state with database, recent }

/-- A failed attempt: the worker's memory is restored, then the failure is recorded, unless
that fails too. -/
def RawState.fail (settings : Settings) (state : RawState) (eventId : EventId) (error : String)
    (progress : Progress) (quarantineId : Uuid) (now : Time) : RawState :=
  match unpublishedRow state.database.ingress eventId with
  | none => state
  | some row =>
      let restored := { state with recent := rolledBack state.recent row.payload progress }
      match failRaw settings state.database.registry state.database.ingress eventId error quarantineId
          now with
      | .error _ => restored
      | .ok ingress => restored.withIngress ingress

def RawState.replay (state : RawState) (quarantineId : Uuid) : RawState :=
  match queueQuarantinedObservationReplay state.database.registry state.database.ingress
      quarantineId with
  | .error _ => state
  | .ok (_,ingress) => state.withIngress ingress

def RawState.next (platform : Platform) (settings : Settings) (state : RawState) :
    RawEvent → RawState
  | .accept device request receivedAt batchId =>
      state.accept platform device request receivedAt batchId
  | .handle eventId clock quarantineId evidenceId =>
      state.handle platform settings eventId clock quarantineId evidenceId
  | .fail eventId error progress quarantineId now =>
      state.fail settings eventId error progress quarantineId now
  | .replay quarantineId => state.replay quarantineId
  | .restart recent => { state with recent }
  | .register registry => { state with database := { state.database with registry } }
  | .elsewhere connectivity inventory replenishment policies =>
      { state with
        database := { state.database with connectivity, inventory, replenishment, policies } }

def Ingress.empty : Ingress where
  batches := Table.empty
  ledger := Table.empty
  links := Table.empty
  outbox := Table.empty
  quarantine := Table.empty
  acceptanceSequence := 0

def rawEvents (platform : Platform) (settings : Settings) : Machine RawState RawEvent where
  initial state := state.database.ingress = Ingress.empty ∧ state.accepted = []
  next state event := some (state.next platform settings event)

end Abacus

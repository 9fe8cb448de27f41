import Abacus.Ingress.RawEvents
import Abacus.Inventory.Pipeline
import Abacus.Model.Sample
import Abacus.Model.TaskPatch

/-! The whole tenant as a machine of atomic transactions: ingress and worker, inventory,
replenishment tasks, and the process that serves them.
-/
set_option autoImplicit false

namespace Abacus

open Relational (Table)
open Transition (Machine)

section Machine

/-- A tenant with its worker's memory. `effective` records the events of the committed attempts that
changed an item or emitted a transition. -/
structure TenantState extends RawState where
  effective : List EventId

/-- One transaction. `foreign` is the worker's attempt at an event of another tenant, which shares
its memory, and `restart` starts it with an empty one. A registry that is put in keeps the
tenant, its stores and its zones. -/
inductive TenantEvent where
  | accept (device : Device) (request : ObservationBatchCreate) (receivedAt : Time) (batchId : Uuid)
  | handle (eventId : EventId) (clock : Clock) (quarantineId evidenceId : Uuid)
  | fail (eventId : EventId) (error : String) (progress : Progress) (quarantineId : Uuid) (now : Time)
  | replay (quarantineId : Uuid)
  | restart (maximumEpcs maximumEventIds : ℕ)
  | foreign (event : RfidObservationEvent) (progress : Progress) (committed : Bool)
  | remove (storeId : Uuid) (request : BusinessEventCreate) (clock : Clock) (eventId : Uuid)
  | apply (transitionId : Uuid) (now : Time)
  | applyFails (transitionId : Uuid) (error : String) (now : Time)
  | redeliver (transitionId : Uuid)
  | rebuild (now : Time)
  | evaluate (principal : Principal) (request : ReplenishmentEvaluationCreate)
      (minimumConfidence : ℚ) (evaluatedAt : Time) (taskId : Uuid → Uuid)
  | patch (principal : Principal) (taskId : Uuid) (request : ReplenishmentTaskPatch) (now : Time)
  | register (registry : Registry) (status : Uuid → StoreStatus)
  | publish (policies : Policies)

def RecentObservationState.fresh (maximumEpcs maximumEventIds : ℕ) : RecentObservationState where
  windows := Table.empty
  eventIds := Table.empty
  maximumEpcs := maximumEpcs
  maximumEventIds := maximumEventIds

/-- The memory after an attempt at another tenant's event. -/
def RecentObservationState.serveForeign (recent : RecentObservationState) (tenantId : Uuid)
    (event : RfidObservationEvent) (progress : Progress) (committed : Bool) :
    RecentObservationState :=
  if event.tenantId = tenantId then recent
  else if committed then progress.reach recent event
  else rolledBack recent (.event event) progress

def Inventory.affected (before after : Inventory) : Bool :=
  decide (before.items.rows ≠ after.items.rows) ||
    decide (before.transitions.rows ≠ after.transitions.rows)

def Registry.withStatuses (registry : Registry) (status : Uuid → StoreStatus) : Table Store.id :=
  registry.stores.updateWhere (fun _ => true) (fun store => { store with status := status store.id })
    fun _ => rfl

def TenantState.withDatabase (state : TenantState) (database : Database) : TenantState :=
  { state with database }

def TenantState.handle (platform : Platform) (settings : Settings) (state : TenantState)
    (eventId : EventId) (clock : Clock) (quarantineId evidenceId : Uuid) : TenantState where
  toRawState := state.toRawState.handle platform settings eventId clock quarantineId evidenceId
  effective :=
    if state.database.inventory.affected (state.toRawState.handle platform settings eventId clock
        quarantineId evidenceId).database.inventory then state.effective ++ [eventId]
    else state.effective

def TenantState.inPipeline (platform : Platform) (settings : Settings) (state : TenantState)
    (event : PipelineEvent) : TenantState :=
  state.withDatabase
    (PipelineState.next platform settings ⟨state.database,state.recent⟩ event).database

def TenantState.withTasks (state : TenantState) (attempt : Attempt Replenishment) : TenantState :=
  match attempt with
  | .ok replenishment => state.withDatabase { state.database with replenishment }
  | .error _ => state

def TenantState.register (state : TenantState) (registry : Registry) (status : Uuid → StoreStatus) :
    TenantState :=
  state.withDatabase { state.database with
    registry := { registry with
      tenantId := state.database.registry.tenantId
      stores := state.database.registry.withStatuses status
      zones := state.database.registry.zones } }

def TenantState.next (platform : Platform) (settings : Settings) (state : TenantState) :
    TenantEvent → TenantState
  | .accept device request receivedAt batchId =>
      { state with toRawState := state.toRawState.accept platform device request receivedAt batchId }
  | .handle eventId clock quarantineId evidenceId =>
      state.handle platform settings eventId clock quarantineId evidenceId
  | .fail eventId error progress quarantineId now =>
      { state with
        toRawState := state.toRawState.fail settings eventId error progress quarantineId now }
  | .replay quarantineId => { state with toRawState := state.toRawState.replay quarantineId }
  | .restart maximumEpcs maximumEventIds =>
      { state with recent := .fresh maximumEpcs maximumEventIds }
  | .foreign event progress committed =>
      { state with
        recent := state.recent.serveForeign state.database.registry.tenantId event progress
          committed }
  | .remove storeId request clock eventId =>
      state.inPipeline platform settings (.remove storeId request clock eventId)
  | .apply transitionId now => state.inPipeline platform settings (.apply transitionId now)
  | .applyFails transitionId error now =>
      state.inPipeline platform settings (.applyFails transitionId error now)
  | .redeliver transitionId => state.inPipeline platform settings (.redeliver transitionId)
  | .rebuild now => state.inPipeline platform settings (.rebuild now)
  | .evaluate principal request minimumConfidence evaluatedAt taskId =>
      state.withTasks ((evaluateReplenishment platform settings state.database principal request
        minimumConfidence evaluatedAt taskId).map Prod.snd)
  | .patch principal taskId request now =>
      state.withTasks (patchReplenishmentTask state.database.replenishment principal taskId request
        now settings.replenishmentVerificationWindowSeconds)
  | .register registry status => state.register registry status
  | .publish policies => state.withDatabase { state.database with policies }

def RecentObservationState.Ignores (recent : RecentObservationState) (tenantId : Uuid) : Prop :=
  ∀ key window, recent.windows.get? key = some window → key.1 ≠ tenantId

structure TenantState.Starts (state : TenantState) : Prop where
  ingress : state.database.ingress = Ingress.empty
  inventory : state.database.inventory = Inventory.empty
  connectivity : state.database.connectivity = Table.empty
  tasks : state.database.replenishment.tasks = Table.empty
  evidence : state.database.replenishment.evidence = Table.empty
  windows : state.recent.Ignores state.database.registry.tenantId
  accepted : state.accepted = []
  effective : state.effective = []

def tenant (platform : Platform) (settings : Settings) : Machine TenantState TenantEvent where
  initial := TenantState.Starts
  next state event := some (state.next platform settings event)

end Machine

namespace Sample

def tenantStart : TenantState := ⟨⟨database,emptyRecent,[]⟩,[]⟩

theorem tenantStart_starts : tenantStart.Starts where
  ingress := rfl
  inventory := rfl
  connectivity := rfl
  tasks := rfl
  evidence := rfl
  windows _ _ found := by cases found
  accepted := rfl
  effective := rfl

def tenantRun (events : List TenantEvent) : TenantState :=
  ((tenant platform settings).run tenantStart events).getD tenantStart

theorem tenantRun_reached (events : List TenantEvent) :
    (tenant platform settings).run tenantStart events = some (tenantRun events) :=
  Machine.run_getD (Machine.run_total (fun _ _ => rfl) tenantStart events)

theorem tenantRun_continues (events later : List TenantEvent) :
    (tenant platform settings).run (tenantRun events) later = some (tenantRun (events ++ later)) := by
  have whole := tenantRun_reached (events ++ later)
  rw [Machine.run_append,tenantRun_reached events] at whole
  exact whole

theorem tenantStart_reachable : (tenant platform settings).Reachable tenantStart :=
  ⟨tenantStart,[],tenantStart_starts,rfl⟩

def sees (reader : Uuid) (eventId : EventId) (observedAt : Time) (batchId : Uuid) :
    List TenantEvent :=
  [.accept ⟨reader,.active⟩ (batch reader eventId observedAt) observedAt batchId,
   .handle eventId (clock observedAt) (batchId + 100) (batchId + 200)]

end Sample

end Abacus

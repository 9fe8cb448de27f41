import Abacus.Ingress.Lockstep
import Abacus.Inventory.Drift
import Abacus.Inventory.Verdicts
import Abacus.Tenant.Machine

/-! What the transactions of a tenant do.
Every inventory transaction is one of the pipeline's and every raw-event transaction one
of the raw-event machine's, so what those keep holds of the tenant.
-/
set_option autoImplicit false

namespace Abacus

open Relational (Table)
open Transition (Machine)

section Transactions

variable {platform : Platform} {settings : Settings}

structure Inventory.Settles (inventory after : Inventory) : Prop where
  items : after.items = inventory.items
  entries : after.entries = inventory.entries
  businessEvents : after.businessEvents = inventory.businessEvents

theorem Inventory.Settles.refl (inventory : Inventory) : inventory.Settles inventory := ⟨rfl,rfl,rfl⟩

theorem Inventory.Settles.row {inventory after : Inventory} (settles : inventory.Settles after)
    {row : InventoryTransitionOutbox} (member : row ∈ after.transitions.rows) :
    ∃ old ∈ inventory.transitions.rows, old.entry = row.entry := by
  have listed : row.entry ∈ after.entries := List.mem_map_of_mem member
  rw [settles.entries] at listed
  exact List.mem_map.mp listed

theorem applyTransition_settles {registry : Registry} {connectivity : Connectivity}
    {inventory after : Inventory} {transitionId : Uuid} {now : Time}
    (applied : applyTransition registry connectivity inventory transitionId now = .ok after) :
    inventory.Settles after := by
  unfold applyTransition at applied
  split at applied
  · cases applied
    exact .refl _
  · obtain ⟨deltas,-,applied⟩ := bind_eq_ok.mp applied
    obtain ⟨⟨count,middle⟩,accepted,result⟩ := bind_eq_ok.mp applied
    cases result
    have spec := applyInventoryDeltas_spec accepted
    refine ⟨spec.items,?_,spec.businessEvents⟩
    rw [Inventory.entries]
    simp only [spec.transitions]
    exact modify_entries inventory _ (publish_restamps now)

theorem redeliverTransition_settles {registry : Registry} {connectivity : Connectivity}
    {inventory after : Inventory} {transitionId : Uuid}
    (redelivered : redeliverTransition registry connectivity inventory transitionId = .ok after) :
    inventory.Settles after := by
  unfold redeliverTransition at redelivered
  split at redelivered
  · cases redelivered
    exact .refl _
  · obtain ⟨deltas,-,applied⟩ := bind_eq_ok.mp redelivered
    obtain ⟨⟨count,middle⟩,accepted,result⟩ := bind_eq_ok.mp applied
    cases result
    have spec := applyInventoryDeltas_spec accepted
    exact ⟨spec.items,congrArg (List.map _ ∘ Table.rows) spec.transitions,spec.businessEvents⟩

theorem failTransition_settles (connectivity : Connectivity) (inventory : Inventory)
    (transitionId : Uuid) (error : String) (now : Time) :
    inventory.Settles (failTransition settings connectivity inventory transitionId error now).1 := by
  unfold failTransition
  split
  · exact .refl _
  · rename_i transition _
    have counted := modify_entries inventory (fun row => row.transitionId = transitionId)
      (countFailure_restamps error)
    dsimp only
    split
    · have quarantined := modify_entries
        { inventory with
          transitions := inventory.transitions.modify transitionId
            (fun row => row.countFailure error) (countFailure_restamps error).key }
        (fun row => row.transitionId = transition.transitionId) (quarantine_restamps error now)
      exact ⟨rfl,quarantined.trans counted,rfl⟩
    · exact ⟨rfl,counted,rfl⟩

theorem rebuildInventoryProjection_settles {connectivity cleared : Connectivity}
    {inventory after : Inventory} {now : Time} {count : ℕ}
    (rebuilt : rebuildInventoryProjection inventory connectivity now = .ok (count,after,cleared)) :
    inventory.Settles after := by
  unfold rebuildInventoryProjection at rebuilt
  split at rebuilt
  · cases rebuilt
  · obtain ⟨projections,-,result⟩ := bind_eq_ok.mp rebuilt
    cases result
    exact ⟨rfl,modify_entries inventory _ (reconcile_restamps now),rfl⟩

def PipelineEvent.settling : PipelineEvent → Bool
  | .apply .. | .applyFails .. | .redeliver .. | .rebuild .. => true
  | _ => false

/-- A transaction that settles writes inventory and connectivity only. -/
theorem PipelineState.next_settles (platform : Platform) (settings : Settings) (state : PipelineState) (event : PipelineEvent)
    (settling : event.settling = true) :
    ∃ inventory connectivity, (state.next platform settings event).database =
      { state.database with inventory, connectivity } ∧ state.database.inventory.Settles inventory := by
  have committed : ∀ {α : Type} {attempt : Attempt α} {write : α → PipelineState},
      (∀ value, attempt = .ok value → ∃ inventory connectivity, (write value).database =
        { state.database with inventory, connectivity } ∧
          state.database.inventory.Settles inventory) →
      ∃ inventory connectivity, (state.commit attempt write).database =
        { state.database with inventory, connectivity } ∧
          state.database.inventory.Settles inventory := by
    intro α attempt write holds
    cases attempt with
    | error failure => exact ⟨_,_,rfl,.refl _⟩
    | ok value => exact holds value rfl
  cases event with
  | apply transitionId now =>
      exact committed fun inventory applied => ⟨_,_,rfl,applyTransition_settles applied⟩
  | applyFails transitionId error now => exact ⟨_,_,rfl,failTransition_settles ..⟩
  | redeliver transitionId =>
      exact committed fun inventory redelivered =>
        ⟨_,_,rfl,redeliverTransition_settles redelivered⟩
  | rebuild now =>
      apply committed
      rintro ⟨count,inventory,connectivity⟩ rebuilt
      exact ⟨_,_,rfl,rebuildInventoryProjection_settles rebuilt⟩
  | observe | remove | elsewhere => cases settling

/-- What an accepted removal request did: it repeated an event, or it removed its item. -/
inductive Removed (platform : Platform) (registry : Registry) (ingress : Ingress)
    (inventory : Inventory) (storeId : Uuid) (request : BusinessEventCreate) (clock : Clock)
    (eventId : Uuid) : BusinessEvent → Inventory → Prop where
  | repeated (event : BusinessEvent)
      (found : findBusinessEvent inventory request.sourceSystem request.externalEventId = some event)
      (content : event.requestFingerprint = request.fingerprint platform storeId) :
      Removed platform registry ingress inventory storeId request clock eventId event inventory
  | removed (state : CurrentItemState) (bucket : Bucket) (event : BusinessEvent) (after : Inventory)
      (unseen : findBusinessEvent inventory request.sourceSystem request.externalEventId = none)
      (found : inventory.items.find? request.epc = some state)
      (removable : removableBucket ingress state storeId request.occurredAt = .ok bucket)
      (stored : storeRemoval platform registry inventory state bucket storeId request eventId
        clock.started = .ok (event,after)) :
      Removed platform registry ingress inventory storeId request clock eventId event after

theorem acceptAuthoritativeRemoval_removed {registry : Registry} {ingress : Ingress}
    {inventory after : Inventory} {storeId : Uuid} {request : BusinessEventCreate} {clock : Clock}
    {eventId : Uuid} {answer : AcceptedBusinessEvent}
    (accepted : acceptAuthoritativeRemoval platform settings registry ingress inventory storeId
      request clock eventId = .ok (answer,after)) :
    Removed platform registry ingress inventory storeId request clock eventId answer.event after := by
  unfold acceptAuthoritativeRemoval at accepted
  split at accepted
  · cases accepted
  · split at accepted
    · cases accepted
    · split at accepted
      · rename_i existing found
        split at accepted
        · cases accepted
        · rename_i content
          cases accepted
          exact .repeated existing found (not_not.mp content)
      · rename_i unseen
        split at accepted
        · cases accepted
        · rename_i state found
          obtain ⟨bucket,removable,accepted⟩ := bind_eq_ok.mp accepted
          obtain ⟨⟨event,stored⟩,written,done⟩ := bind_eq_ok.mp accepted
          cases done
          exact .removed state bucket event _ unseen found removable
            (orBusinessEventConflict_eq_ok.mp written)

structure TenantState.Attempts (platform : Platform) (settings : Settings) (state : TenantState)
    (event : RfidObservationEvent) (clock : Clock) (quarantineId evidenceId : Uuid)
    (middle : Database) (memory : RecentObservationState) : Prop where
  queued : ∃ row, unpublishedRow state.database.ingress event.eventId = some row ∧
    row.payload = .event event
  pending : state.database.ingress.Awaits event.eventId
  processed : ∃ result, processObservation platform settings state.database state.recent event clock
    quarantineId evidenceId = .ok (result,middle,memory)

theorem TenantState.Attempts.attempted {state : TenantState} {event : RfidObservationEvent}
    {clock : Clock} {quarantineId evidenceId : Uuid} {middle : Database}
    {memory : RecentObservationState}
    (attempts : state.Attempts platform settings event clock quarantineId evidenceId middle memory) :
    Attempted platform settings state.database state.recent event clock quarantineId evidenceId
      middle memory := by
  obtain ⟨result,processed⟩ := attempts.processed
  exact processObservation_attempted processed

/-- Handling an event changes nothing, or publishes an attempt at it. -/
theorem RawState.handle_attempts (platform : Platform) (settings : Settings) {state : TenantState} (sound : state.toRawState.Sound)
    (eventId : EventId) (clock : Clock) (quarantineId evidenceId : Uuid) :
    state.toRawState.handle platform settings eventId clock quarantineId evidenceId =
        state.toRawState ∨
      ∃ event middle memory, event.eventId = eventId ∧
        state.Attempts platform settings event clock quarantineId evidenceId middle memory ∧
        state.toRawState.handle platform settings eventId clock quarantineId evidenceId =
          { state.toRawState with
            database := middle.publishRaw eventId clock.finalized, recent := memory } := by
  unfold RawState.handle
  split
  · exact .inl rfl
  · rename_i database recent handled
    unfold handleRaw at handled
    split at handled
    · cases handled
      exact .inl rfl
    · rename_i row unpublished
      obtain ⟨member,keyed,ledger,located,pending⟩ := sound.lockstep.awaits unpublished
      split at handled
      · cases handled
      · rename_i event payload
        have addressed : event.eventId = eventId :=
          (sound.lockstep.addressed row member event payload).trans keyed
        rw [keyed,located] at handled
        dsimp only at handled
        rw [if_pos pending] at handled
        obtain ⟨⟨result,middle,memory⟩,processed,done⟩ := bind_eq_ok.mp handled
        cases done
        subst addressed
        exact .inr ⟨event,middle,memory,rfl,⟨⟨row,unpublished,payload⟩,
          ⟨ledger,located,pending⟩,_,processed⟩,rfl⟩

end Transactions

section Simulation

variable {platform : Platform} {settings : Settings} {state : TenantState}

def TenantState.inventoryView (state : TenantState) : PipelineState := ⟨state.database,state.recent⟩

/-- Work outside the inventory tables is the pipeline's `elsewhere`. -/
theorem pipeline_elsewhere {before after : PipelineState}
    (reachable : (pipeline platform settings).Reachable before)
    (tenantId : after.database.registry.tenantId = before.database.registry.tenantId)
    (zones : after.database.registry.zones = before.database.registry.zones)
    (inventory : after.database.inventory = before.database.inventory) :
    (pipeline platform settings).Reachable after := by
  obtain ⟨⟨registryAfter,ingress,connectivity,inventoryAfter,replenishment,policies⟩,recent⟩ := after
  dsimp only at tenantId zones inventory
  refine reachable.take
    (.elsewhere ⟨registryAfter,ingress,connectivity,replenishment,policies,recent⟩) ?_
  change some (PipelineState.next platform settings before _) = _
  rw [PipelineState.next,← tenantId,← zones,← inventory]

/-- Work outside the registry and the raw-event tables is the raw-event machine's `elsewhere`. -/
theorem rawEvents_elsewhere {before after : RawState}
    (reachable : (rawEvents platform settings).Reachable before)
    (registry : after.database.registry = before.database.registry)
    (ingress : after.database.ingress = before.database.ingress)
    (recent : after.recent = before.recent) (accepted : after.accepted = before.accepted) :
    (rawEvents platform settings).Reachable after := by
  obtain ⟨⟨_,_,connectivity,inventory,replenishment,policies⟩,_,_⟩ := after
  dsimp only at registry ingress recent accepted
  subst registry ingress recent accepted
  exact reachable.take (.elsewhere connectivity inventory replenishment policies) rfl

theorem TenantState.withTasks_database (state : TenantState) (attempt : Attempt Replenishment) :
    ∃ replenishment, state.withTasks attempt =
      state.withDatabase { state.database with replenishment } := by
  unfold withTasks
  split
  · exact ⟨_,rfl⟩
  · exact ⟨state.database.replenishment,rfl⟩

theorem RawState.accept_database (platform : Platform) (state : RawState) (device : Device)
    (request : ObservationBatchCreate) (receivedAt : Time) (batchId : Uuid) :
    ∃ ingress connectivity accepted, state.accept platform device request receivedAt batchId =
      ⟨{ state.database with ingress, connectivity },state.recent,accepted⟩ := by
  unfold accept
  split
  · exact ⟨_,_,_,rfl⟩
  · exact ⟨_,_,_,rfl⟩

theorem RawState.fail_database (settings : Settings) (state : RawState) (eventId : EventId) (error : String)
    (progress : Progress) (quarantineId : Uuid) (now : Time) :
    ∃ ingress recent, state.fail settings eventId error progress quarantineId now =
      ⟨{ state.database with ingress },recent,state.accepted⟩ := by
  unfold fail
  split
  · exact ⟨_,_,rfl⟩
  · dsimp only
    split
    · exact ⟨_,_,rfl⟩
    · exact ⟨_,_,rfl⟩

theorem RawState.replay_database (state : RawState) (quarantineId : Uuid) :
    ∃ ingress, state.replay quarantineId = state.withIngress ingress := by
  unfold replay
  split
  · exact ⟨_,rfl⟩
  · exact ⟨_,rfl⟩

theorem TenantState.remove_database (platform : Platform) (settings : Settings) (state : TenantState) (storeId : Uuid)
    (request : BusinessEventCreate) (clock : Clock) (eventId : Uuid) :
    ∃ inventory, state.inPipeline platform settings (.remove storeId request clock eventId) =
        state.withDatabase { state.database with inventory } ∧
      (inventory = state.database.inventory ∨ ∃ event, Removed platform state.database.registry
        state.database.ingress state.database.inventory storeId request clock eventId event
        inventory) := by
  simp only [inPipeline,PipelineState.next,PipelineState.commit]
  split
  · rename_i answer accepted
    exact ⟨_,rfl,.inr ⟨_,acceptAuthoritativeRemoval_removed accepted⟩⟩
  · exact ⟨_,rfl,.inl rfl⟩

theorem TenantState.settle_database (platform : Platform) (settings : Settings) (state : TenantState)
    (event : PipelineEvent) (settling : event.settling = true) :
    ∃ inventory connectivity, state.inPipeline platform settings event =
        state.withDatabase { state.database with inventory, connectivity } ∧
      state.database.inventory.Settles inventory := by
  obtain ⟨inventory,connectivity,same,settles⟩ := PipelineState.next_settles platform settings
    state.inventoryView event settling
  refine ⟨inventory,connectivity,?_,settles⟩
  rw [inPipeline]
  exact congrArg state.withDatabase same

/-- Every transaction of the tenant is one of the raw-event machine. -/
theorem TenantState.next_raw (raw : (rawEvents platform settings).Reachable state.toRawState)
    (event : TenantEvent) :
    (rawEvents platform settings).Reachable (state.next platform settings event).toRawState := by
  have settled : ∀ event : PipelineEvent, event.settling = true →
      (rawEvents platform settings).Reachable
        (state.inPipeline platform settings event).toRawState := by
    intro event settling
    obtain ⟨inventory,connectivity,same,-⟩ := state.settle_database platform settings event settling
    rw [same]
    exact rawEvents_elsewhere raw rfl rfl rfl rfl
  have tasks : ∀ attempt, (rawEvents platform settings).Reachable
      (state.withTasks attempt).toRawState := by
    intro attempt
    obtain ⟨replenishment,same⟩ := state.withTasks_database attempt
    rw [same]
    exact rawEvents_elsewhere raw rfl rfl rfl rfl
  cases event with
  | accept device request receivedAt batchId =>
      exact raw.take (.accept device request receivedAt batchId) rfl
  | handle eventId clock quarantineId evidenceId =>
      exact raw.take (.handle eventId clock quarantineId evidenceId) rfl
  | fail eventId error progress quarantineId now =>
      exact raw.take (.fail eventId error progress quarantineId now) rfl
  | replay quarantineId => exact raw.take (.replay quarantineId) rfl
  | restart maximumEpcs maximumEventIds =>
      exact raw.take (.restart (.fresh maximumEpcs maximumEventIds)) rfl
  | foreign event progress committed => exact raw.take (.restart _) rfl
  | remove storeId request clock eventId =>
      obtain ⟨inventory,same,-⟩ := state.remove_database platform settings storeId request clock eventId
      change (rawEvents platform settings).Reachable
        (state.inPipeline platform settings (.remove storeId request clock eventId)).toRawState
      rw [same]
      exact rawEvents_elsewhere raw rfl rfl rfl rfl
  | apply | applyFails | redeliver | rebuild => exact settled _ rfl
  | evaluate | patch => exact tasks _
  | register registry status => exact raw.take (.register _) rfl
  | publish policies => exact rawEvents_elsewhere raw rfl rfl rfl rfl

theorem tenant_raw (reachable : (tenant platform settings).Reachable state) :
    (rawEvents platform settings).Reachable state.toRawState := by
  have started : ∀ state : TenantState, state.Starts →
      (rawEvents platform settings).Reachable state.toRawState :=
    fun state starts => ⟨_,[],⟨starts.ingress,starts.accepted⟩,rfl⟩
  refine reachable.invariant started ?_
  intro state event after raw taken
  cases taken
  exact TenantState.next_raw raw event

theorem tenant_sound (reachable : (tenant platform settings).Reachable state) :
    state.toRawState.Sound := rawEvents_sound (tenant_raw reachable)

theorem tenant_pipeline (reachable : (tenant platform settings).Reachable state) :
    (pipeline platform settings).Reachable state.inventoryView := by
  have started : ∀ state : TenantState, state.Starts →
      (pipeline platform settings).Reachable state.inventoryView :=
    fun state starts => ⟨state.inventoryView,[],starts.inventory,rfl⟩
  refine reachable.induct started ?_
  intro state event after reached inside taken
  cases taken
  have inner : ∀ event, (pipeline platform settings).Reachable
      (state.inPipeline platform settings event).inventoryView := by
    intro event
    have stepped := inside.take event rfl
    exact pipeline_elsewhere stepped rfl rfl rfl
  have tasks : ∀ attempt, (pipeline platform settings).Reachable
      (state.withTasks attempt).inventoryView := by
    intro attempt
    obtain ⟨replenishment,same⟩ := state.withTasks_database attempt
    rw [same]
    exact pipeline_elsewhere inside rfl rfl rfl
  cases event with
  | accept device request receivedAt batchId =>
      obtain ⟨ingress,connectivity,accepted,same⟩ := state.toRawState.accept_database
        platform device request receivedAt batchId
      refine pipeline_elsewhere inside ?_ ?_ ?_ <;>
        simp only [TenantState.next,TenantState.inventoryView,same]
  | handle eventId clock quarantineId evidenceId =>
      rcases RawState.handle_attempts platform settings (tenant_sound reached) eventId clock quarantineId evidenceId with
        same | ⟨event,middle,memory,addressed,attempts,same⟩
      · refine pipeline_elsewhere inside ?_ ?_ ?_ <;>
          simp only [TenantState.next,TenantState.handle,TenantState.inventoryView,same]
      · obtain ⟨result,processed⟩ := attempts.processed
        have observed : (pipeline platform settings).next state.inventoryView
            (.observe event clock quarantineId evidenceId) = some ⟨middle,memory⟩ := by
          change some (PipelineState.commit _ _ _) = _
          rw [TenantState.inventoryView,processed]
          rfl
        refine pipeline_elsewhere (inside.step observed) ?_ ?_ ?_ <;>
          simp only [TenantState.next,TenantState.handle,TenantState.inventoryView,same,
            Database.publishRaw]
  | fail eventId error progress quarantineId now =>
      obtain ⟨ingress,recent,same⟩ := state.toRawState.fail_database settings eventId
        error progress quarantineId now
      refine pipeline_elsewhere inside ?_ ?_ ?_ <;>
        simp only [TenantState.next,TenantState.inventoryView,same]
  | replay quarantineId =>
      obtain ⟨ingress,same⟩ := state.toRawState.replay_database quarantineId
      refine pipeline_elsewhere inside ?_ ?_ ?_ <;>
        simp only [TenantState.next,TenantState.inventoryView,same,RawState.withIngress]
  | restart | foreign | register | publish => exact pipeline_elsewhere inside rfl rfl rfl
  | remove | apply | applyFails | redeliver | rebuild => exact inner _
  | evaluate | patch => exact tasks _

theorem tenant_coherent (reachable : (tenant platform settings).Reachable state) :
    state.database.inventory.Coherent state.database.registry :=
  pipeline_coherent (tenant_pipeline reachable)

end Simulation

section Items

variable {platform : Platform} {settings : Settings} {state : TenantState}

theorem moveItem_recorded {registry : Registry} {inventory after : Inventory}
    {replenishment finished : Replenishment} {item : Option CurrentItemState}
    {event : RfidObservationEvent} {skuId : Uuid} {decision : StableZoneDecision} {createdAt : Time}
    {evidenceId : Uuid}
    (moved : moveItem platform registry inventory replenishment item event skuId decision createdAt
      evidenceId = .ok (after,finished)) :
    recordTransition registry inventory (movedState item event skuId decision)
      (platform.transitionId registry.tenantId event.epc
        (movedState item event skuId decision).stateVersion)
      (moveDeltas (platform.transitionId registry.tenantId event.epc
        (movedState item event skuId decision).stateVersion) event.epc
        (item.bind CurrentItemState.bucket?) (some (decision.location.bucket skuId))
        decision.confidence decision.observedAt) createdAt = .ok after := by
  obtain ⟨middle,recorded,rest⟩ := bind_eq_ok.mp moved
  have result : after = middle := by
    split at rest
    · split at rest
      · obtain ⟨attributed,-,done⟩ := bind_eq_ok.mp rest
        cases done
        rfl
      · cases rest
        rfl
    · cases rest
      rfl
  rw [result]
  exact recorded

structure StoredRemoval (platform : Platform) (registry : Registry) (inventory : Inventory)
    (item : CurrentItemState) (bucket : Bucket) (storeId : Uuid) (request : BusinessEventCreate)
    (eventId : Uuid) (createdAt : Time) (event : BusinessEvent) (after middle : Inventory) : Prop where
  recorded : recordTransition registry inventory (item.remove eventId request.occurredAt)
    (platform.transitionId registry.tenantId item.epc (item.stateVersion + 1))
    (moveDeltas (platform.transitionId registry.tenantId item.epc (item.stateVersion + 1)) item.epc
      (some bucket) none item.confidence request.occurredAt) createdAt = .ok middle
  content : event = {
    id := eventId, storeId, sourceSystem := request.sourceSystem,
    externalEventId := request.externalEventId,
    requestFingerprint := request.fingerprint platform storeId, eventType := request.eventType,
    epc := request.epc, occurredAt := request.occurredAt,
    transitionId := platform.transitionId registry.tenantId item.epc (item.stateVersion + 1),
    stateVersion := item.stateVersion + 1, note := request.note }
  inserted : middle.businessEvents.insert event = some after.businessEvents
  finished : after = { middle with businessEvents := after.businessEvents }

theorem storeRemoval_stored {registry : Registry} {inventory after : Inventory}
    {item : CurrentItemState} {bucket : Bucket} {storeId : Uuid} {request : BusinessEventCreate}
    {eventId : Uuid} {createdAt : Time} {event : BusinessEvent}
    (stored : storeRemoval platform registry inventory item bucket storeId request eventId createdAt =
      .ok (event,after)) :
    ∃ middle, StoredRemoval platform registry inventory item bucket storeId request eventId createdAt
      event after middle := by
  obtain ⟨middle,recorded,rest⟩ := bind_eq_ok.mp stored
  obtain ⟨businessEvents,inserted,done⟩ := bind_eq_ok.mp rest
  cases done
  exact ⟨middle,recorded,rfl,orIntegrityError_eq_ok.mp inserted,rfl⟩

/-- What one transaction does to the items: it settles recorded moves, refreshes an item, moves one,
or removes one. -/
inductive TenantState.ItemStep (platform : Platform) (settings : Settings) (state : TenantState) :
    Inventory → Prop where
  | settled (after : Inventory) (settles : state.database.inventory.Settles after) :
      ItemStep platform settings state after
  | refreshed (old new : CurrentItemState)
      (found : state.database.inventory.items.find? old.epc = some old)
      (present : old.authoritativeRemoval = none) (same : old.SameItem new)
      (later : old.lastObservedAt ≤ new.lastObservedAt) :
      ItemStep platform settings state { state.database.inventory with
        items := state.database.inventory.items.put new }
  | moved (event : RfidObservationEvent) (skuId : Uuid) (decision : StableZoneDecision)
      (createdAt : Time) (evidenceId : Uuid) (after : Inventory) (replenishment : Replenishment)
      (counts : state.database.Counts event)
      (timely : ∀ watermark ∈ state.database.watermark event.epc, watermark ≤ decision.observedAt)
      (performed : moveItem platform state.database.registry state.database.inventory
        state.database.replenishment (state.database.inventory.items.find? event.epc) event skuId
        decision createdAt evidenceId = .ok (after,replenishment)) :
      ItemStep platform settings state after
  | removed (storeId : Uuid) (request : BusinessEventCreate) (createdAt : Time) (eventId : Uuid)
      (item : CurrentItemState) (bucket : Bucket) (event : BusinessEvent) (after middle : Inventory)
      (unseen : findBusinessEvent state.database.inventory request.sourceSystem
        request.externalEventId = none)
      (found : state.database.inventory.items.find? request.epc = some item)
      (removable : removableBucket state.database.ingress item storeId request.occurredAt =
        .ok bucket)
      (stored : StoredRemoval platform state.database.registry state.database.inventory item bucket
        storeId request eventId createdAt event after middle) :
      ItemStep platform settings state after

theorem TenantState.Attempts.itemStep {event : RfidObservationEvent} {clock : Clock}
    {quarantineId evidenceId : Uuid} {middle : Database} {memory : RecentObservationState}
    (attempts : state.Attempts platform settings event clock quarantineId evidenceId middle memory) :
    state.ItemStep platform settings middle.inventory := by
  cases attempts.attempted with
  | duplicate ingress finalized => exact .settled _ (.refl _)
  | rejected reason connectivity ingress heard quarantined => exact .settled _ (.refl _)
  | located assignment connectivity binding evidenceStart effect ingress heard bound verdict
      finalized =>
      cases verdict with
      | ignored result => exact .settled _ (.refl _)
      | unseen result counts absent => exact .settled _ (.refl _)
      | refreshed result old new counts found same later =>
          refine .refreshed old new ?_ (counts.present old found) same later
          rw [Table.key_of_find? found]
          exact found
      | moved decision inventory replenishment counts inferred timely apart performed =>
          exact .moved event binding.skuId decision clock.started evidenceId inventory replenishment
            counts timely performed

theorem TenantState.next_items (reachable : (tenant platform settings).Reachable state)
    (event : TenantEvent) :
    state.ItemStep platform settings (state.next platform settings event).database.inventory := by
  have same : ∀ {after : TenantState}, after.database.inventory = state.database.inventory →
      state.ItemStep platform settings after.database.inventory := by
    intro after equal
    rw [equal]
    exact .settled _ (.refl _)
  have settled : ∀ event : PipelineEvent, event.settling = true → state.ItemStep platform settings
      (state.inPipeline platform settings event).database.inventory := by
    intro event settling
    obtain ⟨inventory,connectivity,equal,settles⟩ :=
      state.settle_database platform settings event settling
    rw [equal]
    exact .settled _ settles
  have tasks : ∀ attempt, state.ItemStep platform settings
      (state.withTasks attempt).database.inventory := by
    intro attempt
    obtain ⟨replenishment,equal⟩ := state.withTasks_database attempt
    exact same (by rw [equal]; rfl)
  cases event with
  | accept device request receivedAt batchId =>
      obtain ⟨ingress,connectivity,accepted,equal⟩ := state.toRawState.accept_database platform device
        request receivedAt batchId
      exact same (by simp only [next,equal])
  | handle eventId clock quarantineId evidenceId =>
      rcases RawState.handle_attempts platform settings (tenant_sound reachable) eventId clock
        quarantineId evidenceId with equal | ⟨event,middle,memory,addressed,attempts,equal⟩
      · exact same (by simp only [next,handle,equal])
      · simp only [next,handle,equal,Database.publishRaw]
        exact attempts.itemStep
  | fail eventId error progress quarantineId now =>
      obtain ⟨ingress,recent,equal⟩ := state.toRawState.fail_database settings eventId error progress
        quarantineId now
      exact same (by simp only [next,equal])
  | replay quarantineId =>
      obtain ⟨ingress,equal⟩ := state.toRawState.replay_database quarantineId
      exact same (by simp only [next,equal,RawState.withIngress])
  | restart | foreign | register | publish => exact same rfl
  | remove storeId request clock eventId =>
      obtain ⟨inventory,equal,effect⟩ := state.remove_database platform settings storeId request clock
        eventId
      simp only [next,equal,withDatabase]
      rcases effect with unchanged | ⟨event,removed⟩
      · exact .settled _ (unchanged ▸ .refl _)
      · cases removed with
        | repeated event found content => exact .settled _ (.refl _)
        | removed item bucket event after unseen found removable stored =>
            obtain ⟨middle,stored⟩ := storeRemoval_stored stored
            exact .removed storeId request clock.started eventId item bucket event _ middle unseen
              found removable stored
  | apply | applyFails | redeliver | rebuild => exact settled _ rfl
  | evaluate | patch => exact tasks _

end Items

end Abacus

import Abacus.Inventory.Quarantine
import Abacus.Replenishment.Evaluation
import Abacus.Tenant.Evidence

/-! A quarantined transition closes its stores to automatic work until a rebuild reconciles it.
Its payload may be corrupt. A store that the payload names is missed when the store has no
connectivity row yet while another named store has one.
-/
set_option autoImplicit false

namespace Abacus

open Relational (Table)
open Transition (Machine)

section Machine

/-- A tenant with the pending transitions whose stored payload was corrupted. -/
structure ExposedState extends TenantState where
  corrupted : List Uuid

/-- `corrupt` replaces the payload of a pending transition by any other. -/
inductive ExposedEvent where
  | transact (event : TenantEvent)
  | corrupt (transitionId : Uuid) (deltas : List DeltaPayload)

def InventoryTransitionOutbox.withPayload (transition : InventoryTransitionOutbox)
    (deltas : List DeltaPayload) : InventoryTransitionOutbox :=
  { transition with deltas }

@[simp] theorem InventoryTransitionOutbox.withPayload_transitionId
    (transition : InventoryTransitionOutbox) (deltas : List DeltaPayload) :
    (transition.withPayload deltas).transitionId = transition.transitionId := rfl

def Inventory.withPayload (inventory : Inventory) (transitionId : Uuid)
    (deltas : List DeltaPayload) : Inventory :=
  { inventory with
    transitions := inventory.transitions.modify transitionId (fun row => row.withPayload deltas)
      fun row => row.withPayload_transitionId deltas }

def ExposedState.next (platform : Platform) (settings : Settings) (state : ExposedState) :
    ExposedEvent → ExposedState
  | .transact event =>
      { state with toTenantState := state.toTenantState.next platform settings event }
  | .corrupt transitionId deltas =>
      match pendingTransition state.database.inventory transitionId with
      | none => state
      | some _ =>
          { toTenantState := state.toTenantState.withDatabase { state.database with
              inventory := state.database.inventory.withPayload transitionId deltas }
            corrupted := transitionId :: state.corrupted }

def exposed (platform : Platform) (settings : Settings) : Machine ExposedState ExposedEvent where
  initial state := state.toTenantState.Starts ∧ state.corrupted = []
  next state event := some (state.next platform settings event)

def ExposedEvent.failing : ExposedEvent → Option Uuid
  | .transact (.applyFails transitionId _ _) => some transitionId
  | _ => none

/-- A corrupted transition is quarantined only while every store of its well-formed deltas has a
connectivity row. -/
def ExposedState.Recovers (settings : Settings) (state : ExposedState) (event : ExposedEvent) :
    Prop :=
  ∀ transitionId ∈ event.failing, transitionId ∈ state.corrupted →
    ∀ transition ∈ exhaustedTransition settings state.database.inventory transitionId,
      ∀ storeId ∈ transition.deltaStores, state.database.connectivity.Knows storeId

instance (settings : Settings) (state : ExposedState) (event : ExposedEvent) :
    Decidable (state.Recovers settings event) := by
  unfold ExposedState.Recovers
  infer_instance

/-- The store is flagged, so it is not live and no evaluation changes its tasks. -/
structure Database.Closed (platform : Platform) (settings : Settings) (db : Database)
    (storeId : Uuid) : Prop where
  flagged : db.connectivity.Flagged storeId
  stale : ∀ now, effectiveFreshness (db.connectivity.find? storeId) settings now ≠ .live
  idle : ∀ (principal : Principal) (request : ReplenishmentEvaluationCreate)
    (minimumConfidence : ℚ) (evaluatedAt : Time) (taskId : Uuid → Uuid) (result : EvaluationResult)
    (after : Replenishment), request.storeId = storeId →
    evaluateReplenishment platform settings db principal request minimumConfidence evaluatedAt
      taskId = .ok (result,after) → after = db.replenishment

theorem Connectivity.Flagged.closed {db : Database} {storeId : Uuid}
    (flagged : db.connectivity.Flagged storeId) (platform : Platform) (settings : Settings) :
    db.Closed platform settings storeId := by
  refine ⟨flagged,flagged.not_live settings,?_⟩
  intro principal request minimumConfidence evaluatedAt taskId result after here accepted
  have shut : ¬EvaluationOpens settings db principal request evaluatedAt := by
    intro opens
    refine flagged.not_live settings evaluatedAt ?_
    rw [← here]
    exact opens.2.2
  exact (evaluateReplenishment_closed (.inl shut) accepted).2.2

end Machine

section Steps

variable {platform : Platform} {settings : Settings} {state : TenantState}

/-- What one transaction does to quarantined rows and to flags. -/
inductive TenantState.QuarantineStep (settings : Settings) (state : TenantState)
    (event : TenantEvent) (after : Database) : Prop where
  | same (quarantine : state.database.inventory.SameQuarantine after.inventory)
      (keeps : state.database.connectivity.Keeps after.connectivity)
  | quarantined (transitionId : Uuid) (error : String) (now : Time)
      (transition : InventoryTransitionOutbox) (asked : event = .applyFails transitionId error now)
      (exhausted : exhaustedTransition settings state.database.inventory transitionId =
        some transition)
      (equal : (after.inventory,after.connectivity) = failTransition settings
        state.database.connectivity state.database.inventory transitionId error now)
  | rebuilt (now : Time) (count : ℕ)
      (accepted : rebuildInventoryProjection state.database.inventory state.database.connectivity
        now = .ok (count,after.inventory,after.connectivity))

theorem Verdict.sameQuarantine {db : Database} {event resolved : RfidObservationEvent}
    {skuId : Uuid} {evidenceStart : Option Time} {recent : RecentObservationState} {clock : Clock}
    {evidenceId : Uuid} {effect : Effect}
    (verdict : Verdict platform settings db event resolved skuId evidenceStart recent clock
      evidenceId effect) : db.inventory.SameQuarantine effect.inventory := by
  cases verdict with
  | ignored | unseen | refreshed => exact .of_eq rfl
  | moved decision inventory replenishment counts inferred timely apart performed =>
      exact recordTransition_sameQuarantine (moveItem_recorded performed)

theorem Database.Hears.keeps {db : Database} {event : RfidObservationEvent}
    {assignment : DeviceAssignment} {connectivity : Connectivity}
    (heard : db.Hears settings event assignment connectivity) :
    db.connectivity.Keeps connectivity ∧ connectivity.Knows assignment.storeId :=
  updateConnectivity_keeps heard.updated

theorem Attempted.quarantine {db after : Database} {recent memory : RecentObservationState}
    {event : RfidObservationEvent} {clock : Clock} {quarantineId evidenceId : Uuid}
    (attempted : Attempted platform settings db recent event clock quarantineId evidenceId after
      memory) :
    db.inventory.SameQuarantine after.inventory ∧ db.connectivity.Keeps after.connectivity := by
  cases attempted with
  | duplicate => exact ⟨.of_eq rfl,.refl _⟩
  | rejected reason connectivity ingress heard quarantined =>
      rcases heard with same | ⟨assignment,heard⟩
      · rw [same]
        exact ⟨.of_eq rfl,.refl _⟩
      · exact ⟨.of_eq rfl,heard.keeps.1⟩
  | located assignment connectivity binding evidenceStart effect ingress heard bound verdict
      finalized => exact ⟨verdict.sameQuarantine,heard.keeps.1⟩

theorem acceptObservationBatch_keeps {registry : Registry} {ingress finished : Ingress}
    {connectivity after : Connectivity} {device : Device} {request : ObservationBatchCreate}
    {receivedAt : Time} {batchId : Uuid}
    (accepted : acceptObservationBatch platform registry ingress connectivity device request
      receivedAt batchId = .ok (finished,after)) : connectivity.Keeps after := by
  unfold acceptObservationBatch at accepted
  split at accepted
  · cases accepted
  · obtain ⟨current,-,accepted⟩ := bind_eq_ok.mp accepted
    obtain ⟨events,-,accepted⟩ := bind_eq_ok.mp accepted
    obtain ⟨stored,-,accepted⟩ := bind_eq_ok.mp accepted
    obtain ⟨⟨locked,isCurrentReceipt⟩,receipt,accepted⟩ := bind_eq_ok.mp accepted
    cases accepted
    exact (lockStoreConnectivityForReceipt_keeps receipt).1

theorem TenantState.next_quarantine (platform : Platform) (settings : Settings) (sound : state.toRawState.Sound) (event : TenantEvent) :
    state.QuarantineStep settings event (state.next platform settings event).database := by
  have same : ∀ {after : Database}, after.inventory = state.database.inventory →
      after.connectivity = state.database.connectivity →
      state.QuarantineStep settings event after := by
    intro after inventory connectivity
    refine .same ?_ ?_
    · rw [inventory]
      exact .of_eq rfl
    · rw [connectivity]
      exact .refl _
  have tasks : ∀ attempt, state.QuarantineStep settings event
      (state.withTasks attempt).database := by
    intro attempt
    obtain ⟨replenishment,equal⟩ := state.withTasks_database attempt
    rw [equal]
    exact same rfl rfl
  cases event with
  | accept device request receivedAt batchId =>
      simp only [next,RawState.accept]
      split
      · exact same rfl rfl
      · rename_i ingress connectivity accepted
        exact .same (.of_eq rfl) (acceptObservationBatch_keeps accepted)
  | handle eventId clock quarantineId evidenceId =>
      rcases RawState.handle_attempts platform settings sound eventId clock quarantineId evidenceId
        with equal | ⟨event,middle,memory,addressed,attempts,equal⟩
      · simp only [next,handle,equal]
        exact same rfl rfl
      · simp only [next,handle,equal,Database.publishRaw]
        exact .same attempts.attempted.quarantine.1 attempts.attempted.quarantine.2
  | fail eventId error progress quarantineId now =>
      obtain ⟨ingress,recent,equal⟩ := state.toRawState.fail_database settings eventId error progress
        quarantineId now
      simp only [next,equal]
      exact same rfl rfl
  | replay quarantineId =>
      obtain ⟨ingress,equal⟩ := state.toRawState.replay_database quarantineId
      simp only [next,equal,RawState.withIngress]
      exact same rfl rfl
  | restart | foreign | register | publish => exact same rfl rfl
  | remove storeId request clock eventId =>
      obtain ⟨inventory,equal,effect⟩ := state.remove_database platform settings storeId request clock
        eventId
      simp only [next,equal,withDatabase]
      rcases effect with unchanged | ⟨event,removed⟩
      · exact same unchanged rfl
      · cases removed with
        | repeated => exact same rfl rfl
        | removed item bucket event after unseen found removable stored =>
            obtain ⟨middle,stored⟩ := storeRemoval_stored stored
            refine .same ?_ (.refl _)
            have written := recordTransition_sameQuarantine stored.recorded
            rw [stored.finished]
            exact written
  | apply transitionId now =>
      simp only [next,inPipeline,PipelineState.next,PipelineState.commit]
      split
      · rename_i inventory applied
        exact .same (applyTransition_sameQuarantine applied) (.refl _)
      · exact same rfl rfl
  | applyFails transitionId error now =>
      cases spent : exhaustedTransition settings state.database.inventory transitionId with
      | none =>
          obtain ⟨quarantine,kept⟩ :=
            failTransition_sameQuarantine state.database.connectivity error now spent
          refine .same quarantine ?_
          change state.database.connectivity.Keeps (failTransition _ _ _ _ _ _).2
          rw [kept]
          exact .refl _
      | some transition => exact .quarantined transitionId error now transition rfl spent rfl
  | redeliver transitionId =>
      simp only [next,inPipeline,PipelineState.next,PipelineState.commit]
      split
      · rename_i inventory redelivered
        exact .same (redeliverTransition_sameQuarantine redelivered) (.refl _)
      · exact same rfl rfl
  | rebuild now =>
      simp only [next,inPipeline,PipelineState.next,PipelineState.commit]
      split
      · rename_i value rebuilt
        exact .rebuilt now value.1 rebuilt
      · exact same rfl rfl
  | evaluate | patch => exact tasks _

/-- No transaction loses a connectivity row. -/
theorem TenantState.QuarantineStep.knows {event : TenantEvent} {after : Database}
    (step : state.QuarantineStep settings event after) {storeId : Uuid}
    (known : state.database.connectivity.Knows storeId) : after.connectivity.Knows storeId := by
  cases step with
  | same quarantine keeps => exact keeps.knows known
  | quarantined transitionId error now transition asked exhausted equal =>
      rw [show after.connectivity = _ from congrArg Prod.snd equal]
      exact (failTransition_quarantines _ error now exhausted).2.1.knows known
  | rebuilt now count accepted =>
      exact (rebuildInventoryProjection_reconciles accepted).2 storeId known

/-- The stores that an attempt writes to the items, the windows and the outbox are known. -/
theorem TenantState.Attempts.named {corrupted : List Uuid} {event : RfidObservationEvent}
    {clock : Clock} {quarantineId evidenceId : Uuid} {middle : Database}
    {memory : RecentObservationState}
    (attempts : state.Attempts platform settings event clock quarantineId evidenceId middle memory)
    (mirrors : state.database.ingress.Mirrors state.database.registry.tenantId)
    (named : Named state.database.registry.tenantId corrupted state.database.inventory state.recent
      state.database.connectivity) :
    Named state.database.registry.tenantId corrupted middle.inventory memory
      middle.connectivity := by
  obtain ⟨row,unpublished,payload⟩ := attempts.queued
  obtain ⟨found,-⟩ := Option.filter_eq_some_iff.mp unpublished
  obtain ⟨own,-⟩ := mirrors row (Table.mem_of_find? found) event payload
  have keeps := attempts.attempted.quarantine.2
  have remembered : Named state.database.registry.tenantId corrupted state.database.inventory
      (state.recent.remembered event) middle.connectivity := by
    refine named.keep rfl rfl ?_ fun _ => keeps.knows
    intro key window found _
    rw [RecentObservationState.remembered_windows] at found
    exact found
  cases attempts.attempted with
  | duplicate | rejected => exact remembered
  | located assignment connectivity binding evidenceStart effect ingress heard bound verdict
      finalized =>
      have here : connectivity.Knows (event.resolvedAt assignment).storeId := heard.keeps.2
      have added := remembered.add settings.rfidMoveConfirmationWindowSeconds evidenceStart here
      have reads := remembered.window settings.rfidMoveConfirmationWindowSeconds evidenceStart
        (show (event.resolvedAt assignment).tenantId = _ from own) here
      cases verdict with
      | ignored => exact remembered
      | unseen => exact added
      | refreshed result old new counts found same later =>
          refine added.put ?_
          intro location placed
          rw [Option.mem_def,same.location] at placed
          exact keeps.knows (named.placed old (Table.mem_of_find? found) location placed)
      | moved decision inventory replenishment counts inferred timely apart performed =>
          obtain ⟨read,member,store⟩ := inferStableZone_read inferred
          have target : connectivity.Knows decision.location.storeId := by
            rw [← store]
            exact reads read member
          refine added.recorded (moveItem_recorded performed) ?_ (Named.moved ?_ ?_)
          · intro location placed
            cases placed
            exact target
          · intro bucket occupied
            obtain ⟨item,found,occupies⟩ := Option.bind_eq_some_iff.mp occupied
            exact remembered.bucket found bucket occupies
          · intro bucket entered
            cases entered
            exact target

theorem TenantState.next_tenantId (platform : Platform) (settings : Settings)
    (sound : state.toRawState.Sound) (event : TenantEvent) :
    (state.next platform settings event).database.registry.tenantId =
      state.database.registry.tenantId := by
  have settled : ∀ event : PipelineEvent, event.settling = true →
      (state.inPipeline platform settings event).database.registry.tenantId =
        state.database.registry.tenantId := by
    intro event settling
    obtain ⟨inventory,connectivity,equal,-⟩ := state.settle_database platform settings event settling
    rw [equal]
    rfl
  have tasks : ∀ attempt, (state.withTasks attempt).database.registry.tenantId =
      state.database.registry.tenantId := by
    intro attempt
    obtain ⟨replenishment,equal⟩ := state.withTasks_database attempt
    rw [equal]
    rfl
  cases event with
  | accept device request receivedAt batchId =>
      obtain ⟨ingress,connectivity,accepted,equal⟩ := state.toRawState.accept_database platform device
        request receivedAt batchId
      simp only [next,equal]
  | handle eventId clock quarantineId evidenceId =>
      rcases RawState.handle_attempts platform settings sound eventId clock quarantineId evidenceId
        with equal | ⟨event,middle,memory,addressed,attempts,equal⟩
      · simp only [next,handle,equal]
      · obtain ⟨result,processed⟩ := attempts.processed
        simp only [next,handle,equal,Database.publishRaw]
        rw [(processObservation_observed processed).registry]
  | fail eventId error progress quarantineId now =>
      obtain ⟨ingress,recent,equal⟩ := state.toRawState.fail_database settings eventId error progress
        quarantineId now
      simp only [next,equal]
  | replay quarantineId =>
      obtain ⟨ingress,equal⟩ := state.toRawState.replay_database quarantineId
      simp only [next,equal,RawState.withIngress]
  | restart | foreign | register | publish => rfl
  | remove storeId request clock eventId =>
      obtain ⟨inventory,equal,-⟩ := state.remove_database platform settings storeId request clock
        eventId
      simp only [next,equal,withDatabase]
  | apply | applyFails | redeliver | rebuild => exact settled _ rfl
  | evaluate | patch => exact tasks _

theorem TenantState.next_named (platform : Platform) (settings : Settings)
    {corrupted : List Uuid} (sound : state.toRawState.Sound)
    (mirrors : state.database.ingress.Mirrors state.database.registry.tenantId)
    (named : Named state.database.registry.tenantId corrupted state.database.inventory state.recent
      state.database.connectivity) (event : TenantEvent) :
    Named state.database.registry.tenantId corrupted
      (state.next platform settings event).database.inventory
      (state.next platform settings event).recent
      (state.next platform settings event).database.connectivity := by
  have knows : ∀ storeId, state.database.connectivity.Knows storeId →
      (state.next platform settings event).database.connectivity.Knows storeId :=
    fun storeId => (TenantState.next_quarantine platform settings sound event).knows
  have settled : ∀ event : PipelineEvent, event.settling = true →
      (∀ storeId, state.database.connectivity.Knows storeId →
        (state.inPipeline platform settings event).database.connectivity.Knows storeId) →
      Named state.database.registry.tenantId corrupted
        (state.inPipeline platform settings event).database.inventory state.recent
        (state.inPipeline platform settings event).database.connectivity := by
    intro event settling knows
    obtain ⟨inventory,connectivity,equal,settles⟩ :=
      state.settle_database platform settings event settling
    rw [equal] at knows ⊢
    exact named.keep settles.items settles.entries (fun _ _ found _ => found) knows
  have tasks : ∀ attempt, Named state.database.registry.tenantId corrupted
      (state.withTasks attempt).database.inventory (state.withTasks attempt).recent
      (state.withTasks attempt).database.connectivity := by
    intro attempt
    obtain ⟨replenishment,equal⟩ := state.withTasks_database attempt
    rw [equal]
    exact named
  cases event with
  | accept device request receivedAt batchId =>
      obtain ⟨ingress,connectivity,accepted,equal⟩ := state.toRawState.accept_database platform device
        request receivedAt batchId
      simp only [next,equal] at knows ⊢
      exact named.keep rfl rfl (fun _ _ found _ => found) knows
  | handle eventId clock quarantineId evidenceId =>
      rcases RawState.handle_attempts platform settings sound eventId clock quarantineId evidenceId
        with equal | ⟨event,middle,memory,addressed,attempts,equal⟩
      · simp only [next,handle,equal]
        exact named
      · simp only [next,handle,equal,Database.publishRaw]
        exact attempts.named mirrors named
  | fail eventId error progress quarantineId now =>
      simp only [next,RawState.fail]
      split
      · exact named
      · rename_i row unpublished
        have within : (rolledBack state.recent row.payload progress).Within state.recent :=
          RecentObservationState.rolledBack_within row.payload progress
        split <;> exact named.keep rfl rfl (fun key window found _ => within key window found)
          fun _ => id
  | replay quarantineId =>
      obtain ⟨ingress,equal⟩ := state.toRawState.replay_database quarantineId
      simp only [next,equal,RawState.withIngress]
      exact named
  | restart maximumEpcs maximumEventIds =>
      refine named.keep rfl rfl ?_ fun _ => id
      intro key window found
      cases found
  | foreign event progress committed =>
      exact named.keep rfl rfl (fun _ _ => RecentObservationState.serveForeign_kept) fun _ => id
  | remove storeId request clock eventId =>
      obtain ⟨inventory,equal,effect⟩ := state.remove_database platform settings storeId request clock
        eventId
      simp only [next,equal,withDatabase]
      rcases effect with unchanged | ⟨event,removed⟩
      · rw [unchanged]
        exact named
      · cases removed with
        | repeated => exact named
        | removed item bucket event after unseen found removable stored =>
            obtain ⟨middle,stored⟩ := storeRemoval_stored stored
            have placed := named.bucket found bucket (removableBucket_located removable)
            have written := named.recorded stored.recorded (fun location gone => by cases gone)
              (Named.moved (fun other occupied => by cases occupied; exact placed)
                fun other entered => by cases entered)
            rw [stored.finished]
            exact ⟨written.placed,written.read,written.intact⟩
  | apply | applyFails | redeliver | rebuild => exact settled _ rfl knows
  | evaluate | patch => exact tasks _
  | register | publish => exact named

end Steps

section Quarantining

variable {platform : Platform} {settings : Settings} {state : TenantState} {event : TenantEvent}
  {after : Database}

/-- The transition is quarantined, and until it is reconciled the stores are flagged. -/
def Database.Holds (db : Database) (transitionId : Uuid) (stores : Uuid → Prop) : Prop :=
  ∃ row, db.inventory.transitions.find? transitionId = some row ∧ row.isQuarantined = true ∧
    (row.unreconciled = true → ∀ storeId, stores storeId → db.connectivity.Flagged storeId)

theorem InventoryTransitionOutbox.isQuarantined_of_unreconciled {row : InventoryTransitionOutbox}
    (unreconciled : row.unreconciled = true) : row.isQuarantined = true := by
  unfold InventoryTransitionOutbox.unreconciled at unreconciled
  unfold isQuarantined
  split at unreconciled
  · rename_i status
    rw [status]
  · cases unreconciled

theorem InventoryTransitionOutbox.reconcile_reconciled {row : InventoryTransitionOutbox}
    {now : Time} : (if row.unreconciled then row.reconcile now else row).unreconciled = false := by
  split
  · rename_i unreconciled
    unfold InventoryTransitionOutbox.unreconciled at unreconciled
    split at unreconciled
    · rename_i status
      rw [reconcile,InventoryTransitionOutbox.unreconciled,status]
    · cases unreconciled
  · rename_i reconciled
    exact Bool.eq_false_iff.mpr reconciled

/-- Nothing but a rebuild ends it, and the rebuild reconciles the transition. -/
theorem TenantState.QuarantineStep.holds (step : state.QuarantineStep settings event after)
    {transitionId : Uuid} {stores : Uuid → Prop}
    (holds : state.database.Holds transitionId stores) : after.Holds transitionId stores := by
  obtain ⟨row,found,quarantined,flagged⟩ := holds
  cases step with
  | same quarantine keeps =>
      exact ⟨row,(quarantine transitionId row quarantined).mpr found,quarantined,
        fun unreconciled storeId member => keeps.flagged (flagged unreconciled storeId member)⟩
  | quarantined other error now transition asked exhausted equal =>
      obtain ⟨rows,keeps,-⟩ := failTransition_quarantines state.database.connectivity error now
        exhausted
      rw [← congrArg Prod.fst equal,← congrArg Prod.snd equal] at *
      refine ⟨row,?_,quarantined,
        fun unreconciled storeId member => keeps.flagged (flagged unreconciled storeId member)⟩
      rw [rows,if_neg ?_]
      · exact found
      · intro here
        obtain ⟨pending,-⟩ := Option.filter_eq_some_iff.mp exhausted
        obtain ⟨stored,waiting⟩ := pendingTransition_spec pending
        rw [here,stored] at found
        cases found
        rw [InventoryTransitionOutbox.isQuarantined_of_pending waiting] at quarantined
        cases quarantined
  | rebuilt now count accepted =>
      have rows := (rebuildInventoryProjection_reconciles accepted).1 transitionId
      rw [found,Option.map_some] at rows
      refine ⟨_,rows,?_,?_⟩
      · split
        · rename_i unreconciled
          unfold InventoryTransitionOutbox.unreconciled at unreconciled
          split at unreconciled
          · rename_i status
            rw [InventoryTransitionOutbox.reconcile,InventoryTransitionOutbox.isQuarantined,status]
          · cases unreconciled
        · exact quarantined
      · intro unreconciled
        rw [InventoryTransitionOutbox.reconcile_reconciled] at unreconciled
        cases unreconciled

/-- The quarantine itself. -/
theorem Database.Holds.begin {db : Database} {transitionId : Uuid} {error : String} {now : Time}
    {transition : InventoryTransitionOutbox}
    (exhausted : exhaustedTransition settings db.inventory transitionId = some transition)
    (equal : (after.inventory,after.connectivity) = failTransition settings db.connectivity
      db.inventory transitionId error now) :
    after.Holds transitionId fun storeId => db.connectivity.Knows storeId ∧
      (storeId ∈ transition.deltaStores ∨ Unlocated db.connectivity db.inventory transition) := by
  obtain ⟨rows,-,flagged⟩ := failTransition_quarantines db.connectivity error now exhausted
  rw [← congrArg Prod.fst equal,← congrArg Prod.snd equal] at *
  refine ⟨_,by rw [rows,if_pos rfl],rfl,?_⟩
  intro _ storeId chosen
  exact flagged storeId chosen.1 chosen.2

end Quarantining

section Runs

variable {platform : Platform} {settings : Settings} {state : ExposedState}

structure ExposedState.Sound (platform : Platform) (settings : Settings) (state : ExposedState) :
    Prop where
  raw : (rawEvents platform settings).Reachable state.toRawState
  counts : state.toTenantState.CountsOnce
  named : Named state.database.registry.tenantId state.corrupted state.database.inventory
    state.recent state.database.connectivity

theorem withPayload_sameQuarantine {inventory : Inventory} {transitionId : Uuid}
    {transition : InventoryTransitionOutbox}
    (pending : pendingTransition inventory transitionId = some transition)
    (deltas : List DeltaPayload) :
    inventory.SameQuarantine (inventory.withPayload transitionId deltas) := by
  obtain ⟨found,waiting⟩ := pendingTransition_spec pending
  have unquarantined := InventoryTransitionOutbox.isQuarantined_of_pending waiting
  exact .modify (fun row => row.withPayload_transitionId deltas) found unquarantined unquarantined rfl

theorem ExposedState.next_sound (sound : state.Sound platform settings) (event : ExposedEvent) :
    (state.next platform settings event).Sound platform settings := by
  obtain ⟨raw,counts,named⟩ := sound
  cases event with
  | transact event =>
      have inner := rawEvents_sound raw
      have named := TenantState.next_named platform settings inner
        counts.mirrors named event
      refine ⟨TenantState.next_raw raw event,
        TenantState.next_countsOnce platform settings inner counts event,?_⟩
      rw [show (state.next platform settings (.transact event)).database.registry.tenantId = _ from
        TenantState.next_tenantId platform settings inner event]
      exact named
  | corrupt transitionId deltas =>
      unfold next
      dsimp only
      split
      · exact ⟨raw,counts,named⟩
      · rename_i transition pending
        refine ⟨rawEvents_elsewhere raw rfl rfl rfl rfl,
          counts.keep rfl ⟨.refl _,counts.mirrors⟩ (fun _ _ found _ => found) rfl,
          named.placed,named.read,?_⟩
        intro row member intact delta listed
        obtain ⟨old,stored,same⟩ := List.mem_map.mp member
        by_cases chosen : old.transitionId = transitionId
        · have named : row.transitionId = transitionId := by
            rw [← same]
            simp [chosen]
          rw [named] at intact
          exact absurd (List.mem_cons_self ..) intact
        · subst same
          simp only [chosen,decide_false,Bool.false_eq_true,if_false] at intact listed
          exact named.intact old stored (fun known => intact (List.mem_cons_of_mem _ known)) delta
            listed

theorem exposed_sound (reachable : (exposed platform settings).Reachable state) :
    state.Sound platform settings := by
  have started : ∀ state, (exposed platform settings).initial state →
      state.Sound platform settings := by
    intro state initial
    obtain ⟨starts,clean⟩ := initial
    have fresh : (tenant platform settings).Reachable state.toTenantState :=
      ⟨state.toTenantState,[],starts,rfl⟩
    refine ⟨tenant_raw fresh,tenant_countsOnce fresh,?_,?_,?_⟩
    · rw [starts.inventory]
      intro item member
      cases member
    · exact fun key window found own => absurd own (starts.windows key window found)
    · rw [starts.inventory]
      intro row member
      cases member
  refine reachable.invariant started ?_
  intro state event after sound taken
  cases taken
  exact ExposedState.next_sound sound event

/-- What a quarantine promised, every later transaction keeps. -/
theorem ExposedState.next_holds (sound : state.Sound platform settings) {transitionId : Uuid}
    {stores : Uuid → Prop} (holds : state.database.Holds transitionId stores)
    (event : ExposedEvent) :
    (state.next platform settings event).database.Holds transitionId stores := by
  cases event with
  | transact event =>
      exact (TenantState.next_quarantine platform settings (rawEvents_sound sound.raw) event).holds holds
  | corrupt other deltas =>
      unfold next
      dsimp only
      split
      · exact holds
      · rename_i transition pending
        obtain ⟨row,found,quarantined,flagged⟩ := holds
        exact ⟨row,(withPayload_sameQuarantine pending deltas transitionId row quarantined).mpr found,
          quarantined,flagged⟩

theorem ExposedState.run_holds (sound : state.Sound platform settings) {transitionId : Uuid}
    {stores : Uuid → Prop} (holds : state.database.Holds transitionId stores)
    {events : List ExposedEvent} {finish : ExposedState}
    (reached : (exposed platform settings).run state events = some finish) :
    finish.database.Holds transitionId stores := by
  have step : ∀ (state : ExposedState) (event : ExposedEvent) (after : ExposedState),
      state.Sound platform settings ∧ state.database.Holds transitionId stores →
      (exposed platform settings).next state event = some after →
      after.Sound platform settings ∧ after.database.Holds transitionId stores := by
    intro state event after held taken
    cases taken
    exact ⟨ExposedState.next_sound held.1 event,ExposedState.next_holds held.1 held.2 event⟩
  exact (Machine.run_invariant step ⟨sound,holds⟩ reached).2

/-- Every transition that waits for a rebuild holds the stores of its deltas. -/
def ExposedState.FailsClosed (state : ExposedState) : Prop :=
  ∀ transitionId row, state.database.inventory.transitions.find? transitionId = some row →
    row.unreconciled = true → ∀ storeId ∈ row.deltaStores,
      state.database.connectivity.Flagged storeId

theorem ExposedState.next_failsClosed (sound : state.Sound platform settings)
    (closed : state.FailsClosed) (event : ExposedEvent) (recovers : state.Recovers settings event) :
    (state.next platform settings event).FailsClosed := by
  intro transitionId row found unreconciled storeId listed
  have quarantined := InventoryTransitionOutbox.isQuarantined_of_unreconciled unreconciled
  have kept : state.database.inventory.transitions.find? transitionId = some row →
      (state.next platform settings event).database.connectivity.Flagged storeId := by
    intro stored
    have held : state.database.Holds transitionId fun storeId => storeId ∈ row.deltaStores :=
      ⟨row,stored,quarantined,fun waiting storeId listed =>
        closed transitionId row stored waiting storeId listed⟩
    obtain ⟨later,here,-,flagged⟩ := ExposedState.next_holds sound held event
    rw [found] at here
    cases here
    exact flagged unreconciled storeId listed
  cases event with
  | transact event =>
      cases TenantState.next_quarantine platform settings
          (rawEvents_sound sound.raw) event with
      | same quarantine keeps => exact kept ((quarantine transitionId row quarantined).mp found)
      | quarantined other error now transition asked exhausted equal =>
          obtain ⟨rows,-,-⟩ := failTransition_quarantines state.database.connectivity error now
            exhausted
          have stored := found
          rw [show (state.next platform settings (.transact event)).database.inventory = _ from
            congrArg Prod.fst equal,rows] at stored
          split at stored
          · rename_i same
            cases stored
            obtain ⟨newer,here,-,flagged⟩ := Database.Holds.begin exhausted equal
            have listed : storeId ∈ transition.deltaStores := listed
            rw [asked] at recovers
            refine flagged ?_ storeId ⟨?_,.inl listed⟩
            · have equal := Option.some.inj (found.symm.trans (same.symm ▸ here))
              rw [← equal]
              exact unreconciled
            · by_cases touched : other ∈ state.corrupted
              · exact recovers other rfl touched transition exhausted storeId listed
              · obtain ⟨pending,-⟩ := Option.filter_eq_some_iff.mp exhausted
                obtain ⟨present,-⟩ := pendingTransition_spec pending
                have keyed : transition.transitionId = other := Table.key_of_find? present
                obtain ⟨delta,member,rfl⟩ :=
                  InventoryTransitionOutbox.mem_deltaStores.mp listed
                exact sound.named.intact transition (Table.mem_of_find? present)
                  (keyed ▸ touched) delta member
          · exact kept stored
      | rebuilt now count accepted =>
          have rows := (rebuildInventoryProjection_reconciles accepted).1 transitionId
          obtain ⟨old,stored,same⟩ := Option.map_eq_some_iff.mp (rows.symm.trans found)
          rw [← same,InventoryTransitionOutbox.reconcile_reconciled] at unreconciled
          cases unreconciled
  | corrupt other deltas =>
      apply kept
      unfold next at found
      dsimp only at found
      split at found
      · exact found
      · rename_i transition pending
        exact (withPayload_sameQuarantine pending deltas transitionId row quarantined).mp found

/-- A quarantine fails closed. In every run whose quarantines of corrupted payloads recover all stores
of the well-formed deltas the stores of every unreconciled transition are closed; where the payload
and the item name no store with a connectivity row, in any run, all stores are. -/
theorem quarantine_fails_closed (platform : Platform) (settings : Settings) :
    (∀ state, (exposed platform settings).ReachableWithin (ExposedState.Recovers settings) state →
      ∀ transition ∈ state.database.inventory.transitions.rows, transition.unreconciled = true →
        ∀ storeId ∈ transition.deltaStores, state.database.Closed platform settings storeId) ∧
    ∀ state, (exposed platform settings).Reachable state →
      ∀ transitionId error now transition,
        exhaustedTransition settings state.database.inventory transitionId = some transition →
        Unlocated state.database.connectivity state.database.inventory transition →
        ∀ events finish, (exposed platform settings).run state
          (.transact (.applyFails transitionId error now) :: events) = some finish →
          (∀ row, finish.database.inventory.transitions.find? transitionId = some row →
            row.unreconciled = true) →
          ∀ storeId, state.database.connectivity.Knows storeId →
            finish.database.Closed platform settings storeId := by
  refine ⟨?_,?_⟩
  · intro state reachable transition member unreconciled storeId listed
    have closed : state.Sound platform settings ∧ state.FailsClosed := by
      have started : ∀ state, (exposed platform settings).initial state →
          state.Sound platform settings ∧ state.FailsClosed := by
        intro state initial
        refine ⟨exposed_sound ⟨state,[],initial,rfl⟩,?_⟩
        intro transitionId row found
        rw [initial.1.inventory] at found
        cases found
      refine reachable.invariant started ?_
      intro state event after held recovers taken
      cases taken
      exact ⟨ExposedState.next_sound held.1 event,
        ExposedState.next_failsClosed held.1 held.2 event recovers⟩
    exact (closed.2 _ transition (Table.find?_of_mem member) unreconciled storeId listed).closed
      platform settings
  · intro state reachable transitionId error now transition exhausted unlocated events finish ran
      waiting storeId known
    have begun : (state.next platform settings
        (.transact (.applyFails transitionId error now))).database.Holds transitionId
          fun storeId => state.database.connectivity.Knows storeId ∧
            (storeId ∈ transition.deltaStores ∨
              Unlocated state.database.connectivity state.database.inventory transition) :=
      Database.Holds.begin exhausted rfl
    have sound := ExposedState.next_sound (exposed_sound reachable)
      (.transact (.applyFails transitionId error now))
    obtain ⟨row,found,-,flagged⟩ := ExposedState.run_holds sound begun ran
    exact (flagged (waiting row found) storeId ⟨known,.inr unlocated⟩).closed platform settings

end Runs

namespace Sample

def secondStoreId : Uuid := 2
def secondZoneId : Uuid := 12
def secondReader : Uuid := 22

def twoStores : Registry :=
  { registry with
    stores := ⟨[⟨storeId,.active⟩,⟨secondStoreId,.active⟩],by decide⟩
    zones := ⟨[⟨backroomId,storeId,.backroom⟩,⟨secondZoneId,secondStoreId,.salesFloor⟩],by decide⟩
    devices := ⟨[⟨backroomReader,.active⟩,⟨secondReader,.active⟩],by decide⟩
    deviceAssignments := ⟨[assignment 30 backroomReader backroomId,
      { assignment 32 secondReader secondZoneId with storeId := secondStoreId }],by decide⟩ }

def exposedStart : ExposedState where
  toTenantState := tenantStart.withDatabase { database with registry := twoStores }
  corrupted := []

theorem exposedStart_starts : (exposed platform settings).initial exposedStart :=
  ⟨⟨rfl,rfl,rfl,rfl,rfl,fun _ _ found => (by cases found),rfl,rfl⟩,rfl⟩

def exposedRun (events : List ExposedEvent) : ExposedState :=
  ((exposed platform settings).run exposedStart events).getD exposedStart

theorem exposedRun_reached (events : List ExposedEvent) :
    (exposed platform settings).run exposedStart events = some (exposedRun events) :=
  Machine.run_getD (Machine.run_total (fun _ _ => rfl) exposedStart events)

def damagedId : Uuid := platform.transitionId registry.tenantId tag 1

/-- A tag is seen in the first store; the payload of its transition is left with a delta in the given
bucket and one that does not validate; the only attempt at it fails. -/
def damaged (bucket : Bucket) : List ExposedEvent :=
  (sees backroomReader "a" 1000000 100).map .transact ++
  [.corrupt damagedId ((moveDeltas damagedId tag none (some bucket) certain 1000000).map .event ++
    [.invalid none]),
   .transact (.applyFails damagedId "ValidationError: InventoryDeltaEvent" 2000000)]

/-- The delta is in the second store, which is first heard of after the quarantine. -/
def missedStore : List ExposedEvent :=
  damaged ⟨secondStoreId,skuId,secondZoneId⟩ ++
  (sees secondReader "b" 3000000 101).map .transact

end Sample

theorem quarantine_fails_closed_sample :
    ∃ transition ∈ (Sample.exposedRun
        (Sample.damaged Sample.backroom)).database.inventory.transitions.rows,
      transition.unreconciled = true ∧ Sample.storeId ∈ transition.deltaStores ∧
        (Sample.exposedRun (Sample.damaged Sample.backroom)).database.Closed Sample.platform
          Sample.settings Sample.storeId := by
  have closed := (quarantine_fails_closed Sample.platform Sample.settings).1 _
    ⟨Sample.exposedStart,_,Sample.exposedStart_starts,by decide +kernel,
      Sample.exposedRun_reached (Sample.damaged Sample.backroom)⟩
  have quarantined : ∃ transition ∈ (Sample.exposedRun
      (Sample.damaged Sample.backroom)).database.inventory.transitions.rows,
        transition.unreconciled = true ∧ Sample.storeId ∈ transition.deltaStores := by
    decide +kernel
  obtain ⟨transition,member,unreconciled,listed⟩ := quarantined
  exact ⟨transition,member,unreconciled,listed,
    closed transition member unreconciled Sample.storeId listed⟩

/-- The second store is live although a delta of an unreconciled transition lies in it. -/
theorem quarantine_misses_store :
    ¬∀ state, (exposed Sample.platform Sample.settings).Reachable state →
      ∀ transition ∈ state.database.inventory.transitions.rows, transition.unreconciled = true →
        ∀ storeId ∈ transition.deltaStores,
          state.database.Closed Sample.platform Sample.settings storeId := by
  intro holds
  have missed : ∃ transition ∈
      (Sample.exposedRun Sample.missedStore).database.inventory.transitions.rows,
      transition.unreconciled = true ∧ Sample.secondStoreId ∈ transition.deltaStores := by
    decide +kernel
  have live : effectiveFreshness ((Sample.exposedRun Sample.missedStore).database.connectivity.find?
      Sample.secondStoreId) Sample.settings 3000000 = .live := by
    decide +kernel
  obtain ⟨transition,member,unreconciled,listed⟩ := missed
  exact (holds _ ⟨Sample.exposedStart,_,Sample.exposedStart_starts,
    Sample.exposedRun_reached Sample.missedStore⟩ transition member unreconciled _ listed).stale
      3000000 live

end Abacus

import Abacus.Catalog.Promotion
import Abacus.Ingress.Attempts
import Abacus.Ingress.Quotes
import Abacus.Library.EffectiveDated
import Abacus.Tenant.Evidence

/-! Evidence of one catalog epoch does not confirm a location in another one.
A binding in force at the time of a read clips the window to its own epoch. An explicit
replay of an unknown read takes the open binding instead, and clips nothing.
-/
set_option autoImplicit false

namespace Abacus

open Relational (Table OrderedDict)
open Transition (Machine)
open Temporal (Span)

section Quotes

variable {platform : Platform} {settings : Settings} {state : TenantState}

/-- What the queue and the windows of a tenant hold is what its ledger records. -/
structure TenantState.Quotes (state : TenantState) : Prop where
  queued : state.database.ingress.Quotes
  windows : ∀ key window, state.recent.windows.get? key = some window →
    key.1 = state.database.registry.tenantId → ∀ read ∈ window, ∃ ledger,
      state.database.ingress.ledger.find? read.eventId = some ledger ∧
      ledger.processingStatus = .processed ∧ ledger.epc = key.2 ∧
      ledger.observedAt = read.observedAt

theorem TenantState.Quotes.keep {after : TenantState} (quotes : state.Quotes)
    (tenantId : after.database.registry.tenantId = state.database.registry.tenantId)
    (retains : state.database.ingress.Retains after.database.ingress)
    (queued : after.database.ingress.Quotes)
    (kept : ∀ key window, after.recent.windows.get? key = some window →
      key.1 = state.database.registry.tenantId → state.recent.windows.get? key = some window) :
    after.Quotes := by
  refine ⟨queued,?_⟩
  intro key window found own read member
  rw [tenantId] at own
  obtain ⟨ledger,located,processed,same⟩ :=
    quotes.windows key window (kept key window found own) own read member
  exact ⟨ledger,retains.final _ ledger located processed,processed,same⟩

/-- A committed attempt leaves only windows whose reads the ledger records. -/
theorem TenantState.Attempts.quotes {event : RfidObservationEvent} {clock : Clock}
    {quarantineId evidenceId : Uuid} {middle : Database} {memory : RecentObservationState}
    (attempts : state.Attempts platform settings event clock quarantineId evidenceId middle memory)
    (quotes : state.Quotes) {key : Uuid × Epc} {window : List RfidObservationEvent}
    (found : memory.windows.get? key = some window)
    (own : key.1 = state.database.registry.tenantId) :
    ∀ read ∈ window, ∃ ledger, middle.ingress.ledger.find? read.eventId = some ledger ∧
      ledger.processingStatus = .processed ∧ ledger.epc = key.2 ∧
      ledger.observedAt = read.observedAt := by
  obtain ⟨result,processed⟩ := attempts.processed
  have finalizes := processObservation_finalizes attempts.pending processed
  have retains := finalizes.retains attempts.pending
  have old : ∀ window, state.recent.windows.get? key = some window → ∀ read ∈ window,
      ∃ ledger, middle.ingress.ledger.find? read.eventId = some ledger ∧
        ledger.processingStatus = .processed ∧ ledger.epc = key.2 ∧
        ledger.observedAt = read.observedAt := by
    intro window stored read member
    obtain ⟨ledger,located,settled,same⟩ := quotes.windows key window stored own read member
    exact ⟨ledger,retains.final _ ledger located settled,settled,same⟩
  have remembered : (state.recent.remembered event).windows = state.recent.windows :=
    state.recent.remembered_windows event
  cases attempts.attempted with
  | duplicate ingress finalized =>
      rw [remembered] at found
      exact old window found
  | rejected reason connectivity ingress heard quarantined =>
      rw [remembered] at found
      exact old window found
  | located assignment connectivity binding evidenceStart effect ingress heard bound verdict
      finalized =>
      obtain ⟨row,unpublished,payload⟩ := attempts.queued
      obtain ⟨present,-⟩ := Option.filter_eq_some_iff.mp unpublished
      have keyed : row.eventId = event.eventId := Table.key_of_find? present
      obtain ⟨recorded,there,quoted⟩ := quotes.queued row (Table.mem_of_find? present) event payload
      rw [keyed] at there
      obtain ⟨before,later,here,settled,status,-⟩ :=
        advanceBatch_processed attempts.pending finalized
      obtain ⟨kept,again,same⟩ := finalizes.records _ recorded there
      rw [settled] at again
      cases again
      have facts : later.recorded = event.unattributed := same.trans quoted
      -- The window of the event is the only one that changes.
      have added : ∀ window, (evidence settings (event.resolvedAt assignment) evidenceStart
          (state.recent.remembered event)).2.windows.get? key = some window →
          ∀ read ∈ window, ∃ ledger, ingress.ledger.find? read.eventId = some ledger ∧
            ledger.processingStatus = .processed ∧ ledger.epc = key.2 ∧
            ledger.observedAt = read.observedAt := by
        intro window stored read member
        have entry := RecentObservationState.get?_add stored
        split at entry
        · rename_i here
          rw [entry] at member
          rcases RecentObservationState.mem_of_retained member with earlier | rfl
          · unfold RecentObservationState.windowOf at earlier
            rw [here,remembered] at earlier
            cases had : state.recent.windows.get? key with
            | none => simp [had] at earlier
            | some window =>
                rw [had] at earlier
                exact old window had read earlier
          · refine ⟨later,settled,status,?_,?_⟩
            · rw [← here]
              exact congrArg RfidObservationEvent.epc facts
            · exact congrArg RfidObservationEvent.observedAt facts
        · rw [remembered] at entry
          exact old window entry read member
      cases verdict with
      | ignored result =>
          rw [remembered] at found
          exact old window found
      | unseen | refreshed | moved => exact added window found

theorem TenantState.Quotes.handle (quotes : state.Quotes) (sound : state.toRawState.Sound)
    (eventId : EventId) (clock : Clock) (quarantineId evidenceId : Uuid) :
    (state.handle platform settings eventId clock quarantineId evidenceId).Quotes := by
  rcases RawState.handle_attempts platform settings sound eventId clock quarantineId evidenceId with
    same | ⟨event,middle,memory,rfl,attempts,same⟩
  · refine quotes.keep ?_ ?_ ?_ ?_
    · simp only [TenantState.handle,same]
    · simp only [TenantState.handle,same]
      exact .refl _
    · simp only [TenantState.handle,same]
      exact quotes.queued
    · simp only [TenantState.handle,same]
      exact fun _ _ found _ => found
  · obtain ⟨result,processed⟩ := attempts.processed
    have finalizes := processObservation_finalizes attempts.pending processed
    have registry : (middle.publishRaw event.eventId clock.finalized).registry =
        state.database.registry := (processObservation_observed processed).registry
    refine ⟨?_,?_⟩
    · simp only [TenantState.handle,same]
      refine quotes.queued.touch event.eventId (fun row => row.publish_eventId clock.finalized)
        (fun _ => rfl) finalizes.records ?_
      rw [Database.publishRaw,finalizes.outbox]
    · intro key window found own
      simp only [TenantState.handle,same] at found own ⊢
      rw [registry] at own
      exact attempts.quotes quotes found own

theorem TenantState.next_quotes (platform : Platform) (settings : Settings)
    (sound : state.toRawState.Sound) (counts : state.CountsOnce) (quotes : state.Quotes)
    (event : TenantEvent) : (state.next platform settings event).Quotes := by
  have settled : ∀ event : PipelineEvent, event.settling = true →
      (state.inPipeline platform settings event).Quotes := by
    intro event settling
    obtain ⟨inventory,connectivity,same,-⟩ := state.settle_database platform settings event settling
    rw [same]
    exact quotes.keep rfl (.refl _) quotes.queued fun _ _ found _ => found
  have tasks : ∀ attempt, (state.withTasks attempt).Quotes := by
    intro attempt
    obtain ⟨replenishment,same⟩ := state.withTasks_database attempt
    rw [same]
    exact quotes.keep rfl (.refl _) quotes.queued fun _ _ found _ => found
  cases event with
  | accept device request receivedAt batchId =>
      simp only [next,RawState.accept]
      split
      · exact quotes
      · rename_i ingress connectivity accepted
        exact quotes.keep rfl (acceptObservationBatch_mirrors counts.mirrors accepted).1
          (acceptObservationBatch_quotes quotes.queued accepted) fun _ _ found _ => found
  | handle eventId clock quarantineId evidenceId =>
      exact quotes.handle sound eventId clock quarantineId evidenceId
  | fail eventId error progress quarantineId now =>
      simp only [next,RawState.fail]
      split
      · exact quotes
      · rename_i row unpublished
        have within : (rolledBack state.recent row.payload progress).Within state.recent :=
          RecentObservationState.rolledBack_within row.payload progress
        split
        · exact quotes.keep rfl (.refl _) quotes.queued
            fun key window found _ => within key window found
        · rename_i ingress failed
          exact quotes.keep rfl (failRaw_mirrors sound.lockstep counts.mirrors failed).1
            (failRaw_quotes sound.lockstep quotes.queued failed)
            fun key window found _ => within key window found
  | replay quarantineId =>
      simp only [next,RawState.replay]
      split
      · exact quotes
      · rename_i result ingress replayed
        exact quotes.keep rfl (queueQuarantinedObservationReplay_mirrors counts.mirrors replayed).1
          (queueQuarantinedObservationReplay_quotes quotes.queued replayed) fun _ _ found _ => found
  | restart maximumEpcs maximumEventIds =>
      refine quotes.keep rfl (.refl _) quotes.queued ?_
      intro key window found
      cases found
  | foreign event progress committed =>
      exact quotes.keep rfl (.refl _) quotes.queued
        fun _ _ => RecentObservationState.serveForeign_kept
  | remove storeId request clock eventId =>
      obtain ⟨inventory,same,-⟩ := state.remove_database platform settings storeId request clock
        eventId
      simp only [next,same]
      exact quotes.keep rfl (.refl _) quotes.queued fun _ _ found _ => found
  | apply | applyFails | redeliver | rebuild => exact settled _ rfl
  | evaluate | patch => exact tasks _
  | register | publish =>
      exact quotes.keep rfl (.refl _) quotes.queued fun _ _ found _ => found

theorem tenant_quotes (reachable : (tenant platform settings).Reachable state) : state.Quotes := by
  have started : ∀ state : TenantState, state.Starts → state.Quotes := by
    intro state starts
    refine ⟨?_,fun key window found own => absurd own (starts.windows key window found)⟩
    rw [starts.ingress]
    intro row member
    cases member
  refine reachable.induct started ?_
  intro state event after reached quotes taken
  cases taken
  exact TenantState.next_quotes platform settings (tenant_sound reached) (tenant_countsOnce reached)
    quotes event

/-- A processed read is never ahead of the watermark of its EPC. -/
theorem Database.watermark_processed {db : Database} {eventId : EventId}
    {ledger : RfidObservationEventLedger} (found : db.ingress.ledger.find? eventId = some ledger)
    (processed : ledger.processingStatus = .processed) :
    ∃ watermark, db.watermark ledger.epc = some watermark ∧ ledger.observedAt ≤ watermark := by
  have listed : ledger.observedAt ∈ (db.ingress.ledger.select fun row =>
      decide (row.epc = ledger.epc) && decide (row.processingStatus = .processed)).map
        RfidObservationEventLedger.observedAt := by
    refine List.mem_map_of_mem (List.mem_filter.mpr ⟨Table.mem_of_find? found,?_⟩)
    simp [processed]
  unfold watermark durableWatermark processedObservationWatermark
  cases latest : ((db.ingress.ledger.select fun row =>
      decide (row.epc = ledger.epc) && decide (row.processingStatus = .processed)).map
        RfidObservationEventLedger.observedAt).max? with
  | none =>
      rw [List.max?_eq_none_iff.mp latest] at listed
      cases listed
  | some newest =>
      have bound : ledger.observedAt ≤ newest := (List.max?_eq_some_iff.mp latest).2 _ listed
      cases db.inventory.items.find? ledger.epc with
      | none => exact ⟨newest,rfl,bound⟩
      | some item => exact ⟨_,rfl,bound.trans (le_max_left _ _)⟩

end Quotes

section Bindings

/-- `&&` of the ranges of two bindings of one EPC. -/
def EpcBinding.overlaps (binding other : EpcBinding) : Bool :=
  decide (binding.epc = other.epc) &&
    other.effectiveTo.all (fun effectiveTo => decide (binding.effectiveFrom < effectiveTo)) &&
    binding.effectiveTo.all fun effectiveTo => decide (other.effectiveFrom < effectiveTo)

/-- `ex_epc_bindings_no_overlap`. -/
def Registry.exclusive (registry : Registry) : Bool :=
  decide (registry.epcBindings.rows.Pairwise fun binding other => binding.overlaps other = false)

def EpcBinding.holds (binding : EpcBinding) (epc : Epc) (instant : Time) : Bool :=
  decide (binding.epc = epc) && inForce binding.effectiveFrom binding.effectiveTo instant

theorem EpcBinding.not_both_hold {binding other : EpcBinding} {epc : Epc} {instant : Time}
    (apart : binding.overlaps other = false) :
    ¬(binding.holds epc instant = true ∧ other.holds epc instant = true) := by
  simp only [holds,Bool.and_eq_true,decide_eq_true_eq]
  rintro ⟨⟨own,first⟩,others,second⟩
  have disjoint : Disjoint (Span.mk binding.effectiveFrom binding.effectiveTo).instants
      (Span.mk other.effectiveFrom other.effectiveTo).instants := by
    apply Span.disjoint_of_apart
    rintro ⟨left,right⟩
    refine absurd apart ?_
    simp only [overlaps,own,others,decide_true,Bool.true_and,Bool.not_eq_false,Bool.and_eq_true,
      Option.all_eq_true,decide_eq_true_eq]
    exact ⟨left,right⟩
  exact Set.disjoint_left.mp disjoint (inForce_iff.mp first) (inForce_iff.mp second)

/-- Where bindings exclude each other, the one that holds at an instant is the one looked up. -/
theorem effectiveBinding_eq_some {registry : Registry} (exclusive : registry.exclusive = true)
    {epc : Epc} {instant : Time} {binding : EpcBinding} :
    effectiveBinding registry epc instant = some binding ↔
      binding ∈ registry.epcBindings.rows ∧ binding.holds epc instant = true := by
  have alone : registry.epcBindings.rows.Pairwise fun binding other =>
      ¬(binding.holds epc instant = true ∧ other.holds epc instant = true) :=
    (of_decide_eq_true exclusive).imp EpcBinding.not_both_hold
  change ((registry.epcBindings.rows.filter fun binding =>
    binding.holds epc instant).insertionSort _).head? = some binding ↔ _
  rcases Temporal.filter_of_exclusive alone with none | ⟨only,stored,holds,alone⟩
  · have empty : registry.epcBindings.rows.filter (fun binding => binding.holds epc instant) = [] := by
      rw [List.filter_eq_nil_iff]
      intro binding stored
      simp [none binding stored]
    rw [empty]
    constructor
    · intro found
      cases found
    · rintro ⟨stored,holds⟩
      rw [none binding stored] at holds
      cases holds
  · rw [alone]
    constructor
    · intro found
      cases found
      exact ⟨stored,holds⟩
    · rintro ⟨place,held⟩
      have listed : binding ∈ registry.epcBindings.rows.filter fun binding =>
          binding.holds epc instant := List.mem_filter.mpr ⟨place,held⟩
      rw [alone,List.mem_singleton] at listed
      rw [listed]
      rfl

/-- A binding that holds later, and has begun by an earlier instant, holds there too. -/
theorem EpcBinding.holds_before {binding : EpcBinding} {epc : Epc} {earlier later : Time}
    (holds : binding.holds epc later = true) (began : binding.effectiveFrom ≤ earlier)
    (before : earlier ≤ later) : binding.holds epc earlier = true := by
  simp only [EpcBinding.holds,Bool.and_eq_true,decide_eq_true_eq,inForce_iff] at holds ⊢
  exact ⟨holds.1,began,fun finish ended => before.trans_lt (holds.2.2 finish ended)⟩

/-- A binding of the catalog as the worker reads it. -/
def EpcBinding.ofCatalog (binding : Catalog.EpcBinding) (id : Uuid) (epc : Python.Text → Epc) :
    EpcBinding :=
  ⟨id,epc binding.epc,binding.skuId,binding.effectiveFrom,binding.effectiveTo⟩

/-- What a promotion leaves of the catalog is a registry of bindings that exclude each other. -/
theorem Registry.exclusive_of_catalog {tables : Catalog.Tables} (wellFormed : tables.WellFormed)
    {epc : Python.Text → Epc} (faithful : Function.Injective epc)
    {id : Catalog.EpcBinding → Uuid} {registry : Registry}
    (read : registry.epcBindings.rows = tables.bindings.map fun binding =>
      EpcBinding.ofCatalog binding (id binding) epc) : registry.exclusive = true := by
  rw [Registry.exclusive,decide_eq_true_eq,read,List.pairwise_map]
  apply wellFormed.disjoint.imp
  intro binding other apart
  rw [← Bool.not_eq_true,EpcBinding.overlaps,Bool.and_eq_true,Bool.and_eq_true,decide_eq_true_eq]
  rintro ⟨⟨same,left⟩,right⟩
  have shared : binding.epc = other.epc := faithful same
  refine absurd apart ?_
  rw [Catalog.EpcBinding.Apart,Bool.not_eq_false,Catalog.EpcBinding.overlaps,Bool.and_eq_true,
    Bool.and_eq_true,decide_eq_true_eq]
  exact ⟨⟨shared,left⟩,right⟩

end Bindings

section Machine

/-- A tenant with the SKUs that its replays of unknown reads were resolved to. -/
structure EpochState extends TenantState where
  resolved : List (EventId × Uuid)

/-- The SKU that an explicit replay is resolved to when no binding is in force at its time: that of
the open binding. -/
def replayedSku (db : Database) (event : RfidObservationEvent) (clock : Clock) : Option Uuid :=
  match resolveBinding db.registry db.ingress event clock.replay with
  | some (binding,none) => some binding.skuId
  | _ => none

/-- The evidence window that `process_observation` infers a zone from. -/
def confirmingWindow (settings : Settings) (db : Database) (recent : RecentObservationState)
    (event : RfidObservationEvent) (clock : Clock) : List RfidObservationEvent :=
  match resolveEffectiveAssignment db.registry event,
      resolveBinding db.registry db.ingress event clock.replay with
  | .ok assignment, some (_,evidenceStart) =>
      (evidence settings (event.resolvedAt assignment) evidenceStart (recent.remembered event)).1
  | _, _ => []

def queuedEvent (ingress : Ingress) (eventId : EventId) : Option RfidObservationEvent :=
  match (unpublishedRow ingress eventId).map RfidObservationOutbox.payload with
  | some (.event event) => some event
  | _ => none

def Ingress.counted (ingress : Ingress) (eventId : EventId) : Bool :=
  (ingress.ledger.find? eventId).any fun ledger =>
    decide (ledger.disposition = some .processed ∨ ledger.disposition = some .ambiguous)

def EpochState.handle (platform : Platform) (settings : Settings) (state : EpochState)
    (eventId : EventId) (clock : Clock) (quarantineId evidenceId : Uuid) : EpochState where
  toTenantState := state.toTenantState.handle platform settings eventId clock quarantineId evidenceId
  resolved := state.resolved ++
    if (state.toTenantState.handle platform settings eventId clock quarantineId
        evidenceId).database.ingress.counted eventId then
      ((queuedEvent state.database.ingress eventId).bind fun event =>
        (replayedSku state.database event clock).map fun skuId => (eventId,skuId)).toList
    else []

/-- A promotion whose bindings overlap is refused by the database. -/
def EpochState.next (platform : Platform) (settings : Settings) (state : EpochState) :
    TenantEvent → Option EpochState
  | .handle eventId clock quarantineId evidenceId =>
      some (state.handle platform settings eventId clock quarantineId evidenceId)
  | .register registry status =>
      if registry.exclusive then
        some { state with toTenantState := state.toTenantState.register registry status }
      else none
  | event => some { state with toTenantState := state.toTenantState.next platform settings event }

structure EpochState.Starts (state : EpochState) : Prop where
  tenant : state.toTenantState.Starts
  exclusive : state.database.registry.exclusive = true
  resolved : state.resolved = []

def epochs (platform : Platform) (settings : Settings) : Machine EpochState TenantEvent where
  initial := EpochState.Starts
  next := EpochState.next platform settings

variable {platform : Platform} {settings : Settings} {state after : EpochState}

theorem EpochState.next_tenant {event : TenantEvent}
    (taken : state.next platform settings event = some after) :
    after.toTenantState = state.toTenantState.next platform settings event := by
  cases event with
  | register registry status =>
      simp only [next] at taken
      split at taken
      · cases taken
        rfl
      · cases taken
  | _ =>
      cases taken
      rfl

theorem epochs_tenant (reachable : (epochs platform settings).Reachable state) :
    (tenant platform settings).Reachable state.toTenantState := by
  have started : ∀ state : EpochState, state.Starts →
      (tenant platform settings).Reachable state.toTenantState :=
    fun state starts => ⟨state.toTenantState,[],starts.tenant,rfl⟩
  refine reachable.induct started ?_
  intro state event after _ reached taken
  refine reached.take event ?_
  rw [EpochState.next_tenant taken]
  rfl

/-- Only a registry that is put in changes the bindings. -/
theorem TenantState.next_registry (platform : Platform) (settings : Settings)
    {state : TenantState} (sound : state.toRawState.Sound)
    (event : TenantEvent) (kept : ∀ registry status, event ≠ .register registry status) :
    (state.next platform settings event).database.registry = state.database.registry := by
  have settled : ∀ event : PipelineEvent, event.settling = true →
      (state.inPipeline platform settings event).database.registry = state.database.registry := by
    intro event settling
    obtain ⟨inventory,connectivity,same,-⟩ := state.settle_database platform settings event settling
    rw [same]
    rfl
  have tasks : ∀ attempt, (state.withTasks attempt).database.registry = state.database.registry := by
    intro attempt
    obtain ⟨replenishment,same⟩ := state.withTasks_database attempt
    rw [same]
    rfl
  cases event with
  | accept device request receivedAt batchId =>
      obtain ⟨ingress,connectivity,accepted,same⟩ := state.toRawState.accept_database platform device
        request receivedAt batchId
      simp only [next,same]
  | handle eventId clock quarantineId evidenceId =>
      rcases RawState.handle_attempts platform settings sound eventId clock quarantineId evidenceId
        with same | ⟨event,middle,memory,addressed,attempts,same⟩
      · simp only [next,handle,same]
      · obtain ⟨result,processed⟩ := attempts.processed
        simp only [next,handle,same,Database.publishRaw]
        exact (processObservation_observed processed).registry
  | fail eventId error progress quarantineId now =>
      obtain ⟨ingress,recent,same⟩ := state.toRawState.fail_database settings eventId error progress
        quarantineId now
      simp only [next,same]
  | replay quarantineId =>
      obtain ⟨ingress,same⟩ := state.toRawState.replay_database quarantineId
      simp only [next,same,RawState.withIngress]
  | restart | foreign | publish => rfl
  | remove storeId request clock eventId =>
      obtain ⟨inventory,same,-⟩ := state.remove_database platform settings storeId request clock
        eventId
      simp only [next,same,withDatabase]
  | apply | applyFails | redeliver | rebuild => exact settled _ rfl
  | evaluate | patch => exact tasks _
  | register registry status => exact absurd rfl (kept registry status)

theorem epochs_exclusive (reachable : (epochs platform settings).Reachable state) :
    state.database.registry.exclusive = true := by
  have started : ∀ state : EpochState, state.Starts → state.database.registry.exclusive = true :=
    fun state starts => starts.exclusive
  refine reachable.induct started ?_
  intro state event after reached exclusive taken
  have sound := tenant_sound (epochs_tenant reached)
  by_cases put : ∃ registry status, event = .register registry status
  · obtain ⟨registry,status,rfl⟩ := put
    change (if registry.exclusive then _ else none) = some after at taken
    split at taken
    · rename_i admitted
      cases taken
      exact admitted
    · cases taken
  · have same := TenantState.next_registry platform settings sound event
      fun registry status equal => put ⟨registry,status,equal⟩
    rw [EpochState.next_tenant taken,same]
    exact exclusive

end Machine

section Isolation

variable {platform : Platform} {settings : Settings} {state : EpochState}

/-- The read was taken while the EPC was bound to the SKU, or its replay was resolved to it. -/
def EpochState.Belongs (state : EpochState) (epc : Epc) (skuId : Uuid)
    (read : RfidObservationEvent) : Prop :=
  (effectiveBinding state.database.registry epc read.observedAt).map EpcBinding.skuId =
      some skuId ∨
    (read.eventId,skuId) ∈ state.resolved

/-- Handling the event gives its item a new version: the item is created, or it is moved. -/
structure EpochState.Moves (platform : Platform) (settings : Settings) (state : EpochState)
    (eventId : EventId) (clock : Clock) (quarantineId evidenceId : Uuid)
    (event : RfidObservationEvent) (item : CurrentItemState) : Prop where
  queued : queuedEvent state.database.ingress eventId = some event
  found : (state.handle platform settings eventId clock quarantineId
    evidenceId).database.inventory.items.find? event.epc = some item
  moved : state.database.inventory.version event.epc ≠ item.stateVersion

/-- A location of a SKU is confirmed by reads of that SKU only. -/
def EpochState.Isolated (platform : Platform) (settings : Settings) (state : EpochState) :
    TenantEvent → Prop
  | .handle eventId clock quarantineId evidenceId => ∀ event item,
      state.Moves platform settings eventId clock quarantineId evidenceId event item →
      ∀ read ∈ confirmingWindow settings state.database state.recent event clock,
        (state.handle platform settings eventId clock quarantineId evidenceId).Belongs event.epc
          item.skuId read
  | _ => True

/-- A replay that takes the open binding finds the window without recent reads of another SKU. -/
def EpochState.Unmixed (settings : Settings) (state : EpochState) : TenantEvent → Prop
  | .handle eventId clock _ _ => ∀ event ∈ queuedEvent state.database.ingress eventId,
      ∀ skuId ∈ replayedSku state.database event clock, ∀ read ∈ state.recent.windowOf event,
        event.observedAt - seconds settings.rfidMoveConfirmationWindowSeconds ≤ read.observedAt →
        state.Belongs event.epc skuId read
  | _ => True

theorem queuedEvent_eq_some {ingress : Ingress} {eventId : EventId} {event : RfidObservationEvent} :
    queuedEvent ingress eventId = some event ↔
      ∃ row, unpublishedRow ingress eventId = some row ∧ row.payload = .event event := by
  unfold queuedEvent
  cases unpublishedRow ingress eventId with
  | none => simp
  | some row => cases payload : row.payload <;> simp [payload]

structure EpochState.Decides (settings : Settings) (state after : EpochState) (clock : Clock)
    (event : RfidObservationEvent) (item : CurrentItemState) (assignment : DeviceAssignment)
    (binding : EpcBinding) (evidenceStart : Option Time) : Prop where
  pending : state.database.ingress.Awaits event.eventId
  bound : resolveBinding state.database.registry state.database.ingress event clock.replay =
    some (binding,evidenceStart)
  sku : item.skuId = binding.skuId
  counts : state.database.Counts event
  window : confirmingWindow settings state.database state.recent event clock =
    RecentObservationState.retained (state.recent.windowOf event) (event.resolvedAt assignment)
      settings.rfidMoveConfirmationWindowSeconds evidenceStart
  registry : after.database.registry = state.database.registry
  resolved : after.resolved = state.resolved ++
    ((replayedSku state.database event clock).map fun skuId => (event.eventId,skuId)).toList

theorem advanceBatch_counted {ingress after : Ingress} {eventId : EventId} {finalizedAt : Time}
    (awaits : ingress.Awaits eventId)
    (advanced : advanceBatch ingress eventId false .processed none finalizedAt = .ok after) :
    after.counted eventId = true := by
  obtain ⟨settles,-⟩ := advanceBatch_settles awaits advanced
  obtain ⟨ledger,found,-⟩ := awaits
  rw [Ingress.counted,settles.ledger,settleEvent_find?,if_pos rfl,found]
  rfl

/-- Only the moving branch of the worker gives an item a new version. -/
theorem EpochState.Moves.decides {eventId : EventId} {clock : Clock} {quarantineId evidenceId : Uuid}
    {event : RfidObservationEvent} {item : CurrentItemState} (sound : state.toRawState.Sound)
    (moves : state.Moves platform settings eventId clock quarantineId evidenceId event item) :
    event.eventId = eventId ∧ ∃ assignment binding evidenceStart,
      state.Decides settings (state.handle platform settings eventId clock quarantineId evidenceId)
        clock event item assignment binding evidenceStart := by
  obtain ⟨queued,found,moved⟩ := moves
  have stays : ∀ (inventory : Inventory) (row : CurrentItemState),
      inventory.items.find? event.epc = some row →
        inventory.version event.epc = row.stateVersion := by
    intro inventory row found
    rw [Inventory.version,found]
    rfl
  rcases RawState.handle_attempts platform settings sound eventId clock quarantineId evidenceId with
    same | ⟨handled,middle,memory,rfl,attempts,same⟩
  · simp only [EpochState.handle,TenantState.handle,same] at found
    exact absurd (stays _ _ found) moved
  · obtain ⟨row,unpublished,payload⟩ := attempts.queued
    have own := queuedEvent_eq_some.mpr ⟨row,unpublished,payload⟩
    rw [queued] at own
    cases own
    simp only [EpochState.handle,TenantState.handle,same,Database.publishRaw] at found
    refine ⟨rfl,?_⟩
    obtain ⟨result,processed⟩ := attempts.processed
    have registry := (processObservation_observed processed).registry
    cases attempts.attempted with
    | duplicate => exact absurd (stays _ _ found) moved
    | rejected => exact absurd (stays _ _ found) moved
    | located assignment connectivity binding evidenceStart effect ingress heard bound verdict
        finalized =>
        cases verdict with
        | ignored => exact absurd (stays _ _ found) moved
        | unseen => exact absurd (stays _ _ found) moved
        | refreshed result old new counts stored kept later =>
            have keyed : old.epc = event.epc := Table.key_of_find? stored
            have epc : new.epc = event.epc := kept.epc.trans keyed
            simp only [Table.find?_put,epc,if_true] at found
            cases found
            exact absurd ((stays _ _ stored).trans kept.version.symm) moved
        | moved decision inventory replenishment counts inferred timely apart performed =>
            have recorded := recordTransition_spec (moveItem_recorded performed)
            have written : inventory.items.find? event.epc = some (movedState
                (state.database.inventory.items.find? event.epc) event binding.skuId decision) := by
              rw [recorded.items,Table.find?_put]
              exact if_pos rfl
            rw [written] at found
            cases found
            have counted : ingress.counted event.eventId = true :=
              advanceBatch_counted attempts.pending finalized
            have window : (state.recent.remembered event).windowOf (event.resolvedAt assignment) =
                state.recent.windowOf event := by
              rw [RecentObservationState.windowOf,RecentObservationState.remembered_windows]
              rfl
            refine ⟨assignment,binding,evidenceStart,attempts.pending,bound,rfl,counts,?_,?_,?_⟩
            · rw [confirmingWindow,heard.assigned,bound,← window]
              rfl
            · simp only [EpochState.handle,TenantState.handle,same,Database.publishRaw]
            · simp only [EpochState.handle,TenantState.handle,same,Database.publishRaw]
              rw [queued]
              exact congrArg _ (if_pos counted)

/-- A read of the window is processed, and none of them is newer than an observation that counts. -/
theorem windowOf_settled {state : TenantState} (quotes : state.Quotes)
    {event : RfidObservationEvent} (own : event.tenantId = state.database.registry.tenantId)
    (counted : state.database.Counts event) :
    ∀ read ∈ state.recent.windowOf event, read.observedAt ≤ event.observedAt ∧
      ∀ ledger, state.database.ingress.ledger.find? read.eventId = some ledger →
        ledger.processingStatus = .processed := by
  intro read member
  unfold RecentObservationState.windowOf at member
  cases had : state.recent.windows.get? event.windowKey with
  | none => simp [had] at member
  | some window =>
      rw [had] at member
      obtain ⟨ledger,found,processed,epc,observed⟩ :=
        quotes.windows _ window had own read member
      obtain ⟨watermark,known,behind⟩ := Database.watermark_processed found processed
      rw [epc] at known
      refine ⟨?_,?_⟩
      · rw [← observed]
        exact behind.trans (counted.timely watermark known)
      · intro other there
        rw [found] at there
        cases there
        exact processed

theorem resolveBinding_eq_some {registry : Registry} {ingress : Ingress}
    {event : RfidObservationEvent} {now : Time} {binding : EpcBinding} {evidenceStart : Option Time} :
    resolveBinding registry ingress event now = some (binding,evidenceStart) ↔
      (effectiveBinding registry event.epc event.observedAt = some binding ∧
        evidenceStart = some binding.effectiveFrom) ∨
      (effectiveBinding registry event.epc event.observedAt = none ∧
        replayBinding registry ingress event now = some binding ∧ evidenceStart = none) := by
  unfold resolveBinding
  cases effectiveBinding registry event.epc event.observedAt with
  | some effective =>
      simp only [Option.some.injEq,Prod.mk.injEq,reduceCtorEq,false_and,or_false]
      constructor
      · rintro ⟨rfl,rfl⟩
        exact ⟨rfl,rfl⟩
      · rintro ⟨rfl,rfl⟩
        exact ⟨rfl,rfl⟩
  | none =>
      simp only [Option.map_eq_some_iff,Prod.mk.injEq,reduceCtorEq,false_and,true_and,false_or]
      constructor
      · rintro ⟨replayed,found,rfl,rfl⟩
        exact ⟨found,rfl⟩
      · rintro ⟨found,rfl⟩
        exact ⟨binding,found,rfl,rfl⟩

/-- Exactly when no recent read of another SKU is left in the window of a replay does a location that
is confirmed rest on reads of its SKU alone. -/
theorem EpochState.isolated_iff (reachable : (epochs platform settings).Reachable state)
    {eventId : EventId} {clock : Clock} {quarantineId evidenceId : Uuid}
    {event : RfidObservationEvent} {item : CurrentItemState}
    (moves : state.Moves platform settings eventId clock quarantineId evidenceId event item) :
    (∀ read ∈ confirmingWindow settings state.database state.recent event clock,
      (state.handle platform settings eventId clock quarantineId evidenceId).Belongs event.epc
        item.skuId read) ↔
    state.Unmixed settings (.handle eventId clock quarantineId evidenceId) := by
  have inner := epochs_tenant reachable
  have counts := tenant_countsOnce inner
  obtain ⟨row,unpublished,payload⟩ := queuedEvent_eq_some.mp moves.queued
  obtain ⟨present,-⟩ := Option.filter_eq_some_iff.mp unpublished
  obtain ⟨own,-⟩ := counts.mirrors row (Table.mem_of_find? present) event payload
  obtain ⟨rfl,assignment,binding,evidenceStart,decides⟩ := moves.decides (tenant_sound inner)
  have settled := windowOf_settled (tenant_quotes inner) own decides.counts
  have exclusive := epochs_exclusive reachable
  have window : ∀ read,
      read ∈ confirmingWindow settings state.database state.recent event clock ↔
        (read ∈ state.recent.windowOf event ∨ read = event.resolvedAt assignment) ∧
          event.observedAt - seconds settings.rfidMoveConfirmationWindowSeconds ≤ read.observedAt ∧
          ∀ start ∈ evidenceStart, start ≤ read.observedAt := by
    intro read
    rw [decides.window]
    exact RecentObservationState.mem_retained_iff fun read member => (settled read member).1
  rcases resolveBinding_eq_some.mp decides.bound with ⟨effective,rfl⟩ | ⟨unbound,replayed,rfl⟩
  · -- The binding in force clips the window, and no read is newer than the event.
    constructor
    · intro _ queued member skuId replayed
      rw [moves.queued] at member
      cases member
      rw [replayedSku,decides.bound] at replayed
      cases replayed
    · intro _ read member
      obtain ⟨source,-,clipped⟩ := (window read).mp member
      have before : read.observedAt ≤ event.observedAt := by
        rcases source with old | rfl
        · exact (settled read old).1
        · exact le_rfl
      obtain ⟨stored,holds⟩ := (effectiveBinding_eq_some exclusive).mp effective
      have still : effectiveBinding state.database.registry event.epc read.observedAt =
          some binding :=
        (effectiveBinding_eq_some exclusive).mpr
          ⟨stored,EpcBinding.holds_before holds (clipped _ rfl) before⟩
      left
      rw [decides.registry,still,decides.sku]
      rfl
  · have sku : replayedSku state.database event clock = some binding.skuId := by
      rw [replayedSku,decides.bound]
    have resolved : (state.handle platform settings event.eventId clock quarantineId
        evidenceId).resolved = state.resolved ++ [(event.eventId,binding.skuId)] := by
      rw [decides.resolved,sku]
      rfl
    constructor
    · intro isolated queued member skuId found read old recent
      rw [moves.queued] at member
      cases member
      rw [sku] at found
      cases found
      have listed := (window read).mpr ⟨.inl old,recent,by simp⟩
      rcases isolated read listed with bound | entry
      · rw [decides.registry,decides.sku] at bound
        exact .inl bound
      · rw [resolved,decides.sku] at entry
        rcases List.mem_append.mp entry with earlier | new
        · exact .inr earlier
        · -- The event is still pending, and what the window holds is processed.
          have same : read.eventId = event.eventId := congrArg Prod.fst (List.mem_singleton.mp new)
          obtain ⟨ledger,there,pending⟩ := decides.pending
          have processed := (settled read old).2 ledger (by rw [same]; exact there)
          rw [pending] at processed
          cases processed
    · intro unmixed read member
      obtain ⟨source,recent,-⟩ := (window read).mp member
      rw [decides.sku]
      rcases source with old | rfl
      · rcases unmixed event moves.queued binding.skuId sku read old recent with bound | entry
        · left
          rw [decides.registry]
          exact bound
        · right
          rw [resolved]
          exact List.mem_append_left _ entry
      · right
        rw [resolved]
        exact List.mem_append_right _ (List.mem_singleton_self _)

/-- Over every run, reads of one catalog epoch confirm locations of its SKU only, as long as no
replay finds recent reads of another SKU in its window; and where one does, it confirms a location
with them. -/
theorem epochs_isolated (platform : Platform) (settings : Settings) {start : EpochState}
    {events : List TenantEvent} (starts : start.Starts) :
    ((epochs platform settings).Respects (fun state event => state.Unmixed settings event) start
        events →
      (epochs platform settings).Respects
        (fun state event => state.Isolated platform settings event) start events) ∧
    ∀ state, (epochs platform settings).run start events = some state →
      ∀ eventId clock quarantineId evidenceId event item,
        state.Moves platform settings eventId clock quarantineId evidenceId event item →
        (state.Isolated platform settings (.handle eventId clock quarantineId evidenceId) ↔
          state.Unmixed settings (.handle eventId clock quarantineId evidenceId)) := by
  have began : (epochs platform settings).Reachable start := ⟨start,[],starts,rfl⟩
  refine ⟨began.respects ?_,?_⟩
  · intro state event reachable unmixed
    cases event with
    | handle eventId clock quarantineId evidenceId =>
        intro event item moves
        exact (EpochState.isolated_iff reachable moves).mpr unmixed
    | _ => trivial
  · intro state reached eventId clock quarantineId evidenceId event item moves
    have reachable := began.after reached
    refine ⟨fun isolated => ?_,fun unmixed event item moves => ?_⟩
    · exact (EpochState.isolated_iff reachable moves).mp (isolated event item moves)
    · exact (EpochState.isolated_iff reachable moves).mpr unmixed

end Isolation

instance (state : EpochState) (epc : Epc) (skuId : Uuid) (read : RfidObservationEvent) :
    Decidable (state.Belongs epc skuId read) :=
  inferInstanceAs (Decidable (_ ∨ _))

instance (settings : Settings) (state : EpochState) :
    ∀ event, Decidable (state.Unmixed settings event)
  | .handle .. => inferInstanceAs (Decidable (∀ event ∈ _, ∀ skuId ∈ _, ∀ read ∈ _, _ → _))
  | .accept .. | .fail .. | .replay .. | .restart .. | .foreign .. | .remove .. | .apply ..
  | .applyFails .. | .redeliver .. | .rebuild .. | .evaluate .. | .patch .. | .register ..
  | .publish .. => isTrue trivial

namespace Sample

def epochStart : EpochState := ⟨tenantStart,[]⟩

theorem epochStart_starts : epochStart.Starts := ⟨tenantStart_starts,by decide,rfl⟩

def dropped : Registry :=
  { registry with epcBindings := ⟨[⟨40,tag,skuId,0,some 10000000⟩],by decide⟩ }

def relistedBindings (skuId : Uuid) : List EpcBinding :=
  [⟨40,tag,Sample.skuId,0,some 10000000⟩,⟨41,tag,skuId,20000000,none⟩]

theorem relistedBindings_unique (skuId : Uuid) :
    ((relistedBindings skuId).map EpcBinding.id).Nodup := by
  simp [relistedBindings]

def relisted (skuId : Uuid) : Registry :=
  { registry with epcBindings := ⟨relistedBindings skuId,relistedBindings_unique skuId⟩ }

/-- Two reads are counted, a third one is quarantined while the tag is dropped, and it is queued
again once the tag is listed under a SKU. -/
def relistedRun (skuId : Uuid) : List TenantEvent :=
  sees floorReader "a" 8000000 100 ++ sees floorReader "b" 9000000 101 ++
    [.register dropped fun _ => .active] ++ sees floorReader "c" 15000000 102 ++
    [.register (relisted skuId) fun _ => .active,.replay 202]

theorem threeReads : 1 ≤ 3 ∧ 3 ≤ 10 := ⟨Nat.le_of_ble_eq_true rfl,Nat.le_of_ble_eq_true rfl⟩

def lateCatalog : Settings :=
  { settings with rfidMoveConfirmationReads := 3, confirmationReadsInRange := threeReads }

def epochRun (events : List TenantEvent) : EpochState :=
  ((epochs platform lateCatalog).run epochStart events).getD epochStart

def relistedReplay : TenantEvent := .handle "c" (clock 21000000) 400 401

theorem epochRun_reached (events : List TenantEvent)
    (ran : ((epochs platform lateCatalog).run epochStart events).isSome = true) :
    (epochs platform lateCatalog).run epochStart events = some (epochRun events) :=
  Machine.run_getD ran

end Sample

/-- Two reads under one SKU and one replayed read confirm a location of another SKU. -/
theorem mixed_epochs_confirm :
    ¬(Sample.epochRun (Sample.relistedRun 8)).Isolated Sample.platform Sample.lateCatalog
      Sample.relistedReplay := by
  intro isolated
  have reachable : (epochs Sample.platform Sample.lateCatalog).Reachable
      (Sample.epochRun (Sample.relistedRun 8)) :=
    ⟨Sample.epochStart,_,Sample.epochStart_starts,Sample.epochRun_reached _ (by decide +kernel)⟩
  obtain ⟨event,queued⟩ := Option.isSome_iff_exists.mp (show (queuedEvent
    (Sample.epochRun (Sample.relistedRun 8)).database.ingress "c").isSome = true by decide +kernel)
  have keyed : event.epc = Sample.tag := by
    have epc : (queuedEvent (Sample.epochRun (Sample.relistedRun 8)).database.ingress "c").map
        RfidObservationEvent.epc = some Sample.tag := by decide +kernel
    rw [queued] at epc
    exact Option.some.inj epc
  obtain ⟨item,found⟩ := Option.isSome_iff_exists.mp (show ((((Sample.epochRun
    (Sample.relistedRun 8)).handle Sample.platform Sample.lateCatalog "c" (Sample.clock 21000000) 400
      401).database.inventory.items.find? Sample.tag).isSome = true) by decide +kernel)
  have absent : (Sample.epochRun (Sample.relistedRun 8)).database.inventory.version Sample.tag = 0 := by
    decide +kernel
  have moves : (Sample.epochRun (Sample.relistedRun 8)).Moves Sample.platform Sample.lateCatalog "c"
      (Sample.clock 21000000) 400 401 event item := by
    refine ⟨queued,by rw [keyed]; exact found,?_⟩
    rw [keyed,absent]
    exact (Nat.lt_of_lt_of_le Nat.zero_lt_one item.positiveVersion).ne
  have unmixed := (EpochState.isolated_iff reachable moves).mp (isolated event item moves)
  exact absurd unmixed (by decide +kernel)

theorem epochs_isolated_sample :
    (epochs Sample.platform Sample.lateCatalog).Respects
      (fun state event => state.Isolated Sample.platform Sample.lateCatalog event) Sample.epochStart
      (Sample.relistedRun 7 ++ [Sample.relistedReplay]) ∧
    ((Sample.epochRun (Sample.relistedRun 7)).handle Sample.platform Sample.lateCatalog "c"
      (Sample.clock 21000000) 400 401).resolved = [("c",7)] :=
  ⟨(epochs_isolated Sample.platform Sample.lateCatalog Sample.epochStart_starts).1 (by decide +kernel),
    by decide +kernel⟩

end Abacus

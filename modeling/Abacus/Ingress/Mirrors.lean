import Abacus.Ingress.Lockstep

/-! The outbox carries what the ledger records: of an event neither its tenant nor its EPC ever
changes, and once it is processed its ledger row is final.
-/
set_option autoImplicit false

namespace Abacus

open Relational (Table)

section Invariant

/-- Every queued event is one of the tenant's, under the EPC of its ledger row. -/
def Ingress.Mirrors (tenantId : Uuid) (ingress : Ingress) : Prop :=
  ∀ row ∈ ingress.outbox.rows, ∀ event, row.payload = .event event →
    event.tenantId = tenantId ∧
      ∃ ledger, ingress.ledger.find? row.eventId = some ledger ∧ ledger.epc = event.epc

structure Ingress.Retains (ingress after : Ingress) : Prop where
  addressed : ∀ eventId ledger, ingress.ledger.find? eventId = some ledger →
    ∃ later, after.ledger.find? eventId = some later ∧ later.epc = ledger.epc
  final : ∀ eventId ledger, ingress.ledger.find? eventId = some ledger →
    ledger.processingStatus = .processed → after.ledger.find? eventId = some ledger

variable {ingress after : Ingress}

theorem Ingress.Retains.of_eq (ledger : after.ledger = ingress.ledger) :
    ingress.Retains after where
  addressed eventId row found := ⟨row,by rw [ledger]; exact found,rfl⟩
  final eventId row found _ := by rw [ledger]; exact found

theorem Ingress.Retains.of_append {inserted : List RfidObservationEventLedger}
    (ledger : after.ledger.rows = ingress.ledger.rows ++ inserted) : ingress.Retains after := by
  have kept : ∀ eventId row, ingress.ledger.find? eventId = some row →
      after.ledger.find? eventId = some row := by
    intro eventId row found
    rw [Table.find?_append ledger,found]
    rfl
  exact ⟨fun eventId row found => ⟨row,kept eventId row found,rfl⟩,
    fun eventId row found _ => kept eventId row found⟩

theorem settleEvent_find? (ingress : Ingress) (eventId other : EventId) (outcome : Outcome) :
    (ingress.settleEvent eventId outcome).ledger.find? other =
      if other = eventId then
        (ingress.ledger.find? eventId).map fun ledger => ledger.settle outcome
      else ingress.ledger.find? other :=
  Table.find?_modify ingress.ledger eventId other (fun ledger => ledger.settle outcome)
    fun ledger => ledger.settle_eventId outcome

/-- Settling an event that is not processed yet. -/
theorem Ingress.Retains.of_settled {eventId : EventId} {outcome : Outcome}
    (open_ : ∀ ledger, ingress.ledger.find? eventId = some ledger →
      ledger.processingStatus ≠ .processed)
    (ledger : after.ledger = (ingress.settleEvent eventId outcome).ledger) :
    ingress.Retains after := by
  refine ⟨?_,?_⟩
  · intro other row found
    rw [ledger,settleEvent_find?]
    by_cases same : other = eventId
    · subst same
      rw [if_pos rfl,found]
      exact ⟨_,rfl,rfl⟩
    · rw [if_neg same]
      exact ⟨row,found,rfl⟩
  · intro other row found processed
    rw [ledger,settleEvent_find?]
    by_cases same : other = eventId
    · subst same
      exact absurd processed (open_ row found)
    · rw [if_neg same]
      exact found

theorem Ingress.Retains.refl (ingress : Ingress) : ingress.Retains ingress := .of_eq rfl

theorem Ingress.Awaits.open {eventId : EventId} (awaits : ingress.Awaits eventId) :
    ∀ ledger, ingress.ledger.find? eventId = some ledger →
      ledger.processingStatus ≠ .processed := by
  obtain ⟨row,found,pending⟩ := awaits
  intro ledger located
  rw [found] at located
  cases located
  simp [pending]

/-- Rows that keep their payload under a ledger that keeps its addresses. -/
theorem Ingress.Mirrors.keep {tenantId : Uuid} (mirrors : ingress.Mirrors tenantId)
    (retains : ingress.Retains after)
    (payloads : ∀ row ∈ after.outbox.rows, ∃ old ∈ ingress.outbox.rows,
      old.eventId = row.eventId ∧ old.payload = row.payload) : after.Mirrors tenantId := by
  intro row member event payload
  obtain ⟨old,stored,keyed,same⟩ := payloads row member
  obtain ⟨tenant,ledger,found,epc⟩ := mirrors old stored event (same.trans payload)
  obtain ⟨later,located,kept⟩ := retains.addressed _ ledger found
  rw [← keyed]
  exact ⟨tenant,later,located,kept.trans epc⟩

end Invariant

section Acceptance

variable {platform : Platform} {ingress after : Ingress}

theorem observationEvents_tenant {registry : Registry} {request : ObservationBatchCreate}
    {batchId : Uuid} {receivedAt : Time} {assignments : List DeviceAssignment}
    {observations : List ObservationInput} {events : List RfidObservationEvent}
    (resolved : observationEvents registry request batchId receivedAt assignments observations =
      .ok events) : ∀ event ∈ events, event.tenantId = registry.tenantId := by
  induction observations generalizing events with
  | nil =>
      cases resolved
      intro event member
      cases member
  | cons observation observations ih =>
      obtain ⟨assignment,-,resolved⟩ := bind_eq_ok.mp resolved
      obtain ⟨rest,tail,done⟩ := bind_eq_ok.mp resolved
      cases done
      intro event member
      rcases List.mem_cons.mp member with rfl | later
      · rfl
      · exact ih tail event later

/-- A stored batch appends ledger rows of its events, and queues exactly the events it appended. -/
theorem storeObservationBatch_queues {batch : RfidObservationBatch}
    {events : List RfidObservationEvent} {receivedAt : Time}
    (stored : storeObservationBatch platform ingress batch events receivedAt = .ok after) :
    ∃ inserted, after.ledger.rows = ingress.ledger.rows ++ inserted ∧
      (∀ ledger ∈ inserted, ∃ event ∈ events, ledger = event.ledgerRow platform) ∧
      ∀ row ∈ after.outbox.rows, row ∈ ingress.outbox.rows ∨
        ∃ event ∈ events, row.eventId = event.eventId ∧ row.payload = .event event ∧
          ∃ ledger ∈ inserted, ledger.eventId = event.eventId := by
  unfold storeObservationBatch at stored
  obtain ⟨batches,-,stored⟩ := bind_eq_ok.mp stored
  dsimp only at stored
  split at stored
  · cases stored
  · split at stored
    · cases stored
    · obtain ⟨links,-,stored⟩ := bind_eq_ok.mp stored
      obtain ⟨outbox,queued,done⟩ := bind_eq_ok.mp stored
      cases done
      refine ⟨_,Table.rows_insertManyNew _ _,?_,?_⟩
      · intro ledger member
        obtain ⟨sorted,-⟩ := Table.mem_insertManyNew member
        obtain ⟨event,place,rfl⟩ := List.mem_map.mp sorted
        exact ⟨event,(List.perm_insertionSort _ _).mem_iff.mp place,rfl⟩
      · intro row member
        simp only [(Table.insertMany_eq_some (orIntegrityError_eq_ok.mp queued)).1] at member
        rcases List.mem_append.mp member with old | new
        · exact .inl old
        · obtain ⟨event,created,keyed,payload,-⟩ := mem_outboxRows new
          obtain ⟨listed,fresh⟩ := List.mem_filter.mp created
          obtain ⟨ledger,inserted,owns⟩ := List.mem_map.mp (of_decide_eq_true fresh)
          exact .inr ⟨event,listed,keyed,payload,ledger,inserted,owns⟩

theorem storeObservationBatch_mirrors {tenantId : Uuid} {batch : RfidObservationBatch}
    {events : List RfidObservationEvent} {receivedAt : Time} (mirrors : ingress.Mirrors tenantId)
    (distinct : (events.map RfidObservationEvent.eventId).Nodup)
    (tenants : ∀ event ∈ events, event.tenantId = tenantId)
    (stored : storeObservationBatch platform ingress batch events receivedAt = .ok after) :
    ingress.Retains after ∧ after.Mirrors tenantId := by
  obtain ⟨inserted,appended,sources,queued⟩ := storeObservationBatch_queues stored
  have retains : ingress.Retains after := .of_append appended
  refine ⟨retains,?_⟩
  intro row member event payload
  rcases queued row member with old | ⟨source,listed,keyed,same,ledger,fresh,owns⟩
  · obtain ⟨tenant,ledger,found,epc⟩ := mirrors row old event payload
    obtain ⟨later,located,kept⟩ := retains.addressed _ ledger found
    exact ⟨tenant,later,located,kept.trans epc⟩
  · rw [payload] at same
    cases same
    obtain ⟨origin,place,rfl⟩ := sources ledger fresh
    have equal : origin = event := List.inj_on_of_nodup_map distinct place listed owns
    subst equal
    have present : origin.ledgerRow platform ∈ after.ledger.rows := by
      rw [appended]
      exact List.mem_append_right _ fresh
    refine ⟨tenants origin listed,origin.ledgerRow platform,?_,rfl⟩
    rw [keyed]
    exact Table.find?_of_mem present

theorem acceptObservationBatch_mirrors {registry : Registry}
    {connectivity connectivity' : Connectivity} {device : Device} {request : ObservationBatchCreate}
    {receivedAt : Time} {batchId : Uuid} (mirrors : ingress.Mirrors registry.tenantId)
    (accepted : acceptObservationBatch platform registry ingress connectivity device request
      receivedAt batchId = .ok (after,connectivity')) :
    ingress.Retains after ∧ after.Mirrors registry.tenantId := by
  unfold acceptObservationBatch at accepted
  split at accepted
  · cases accepted
  · obtain ⟨current,-,accepted⟩ := bind_eq_ok.mp accepted
    obtain ⟨events,resolved,accepted⟩ := bind_eq_ok.mp accepted
    obtain ⟨stored,written,accepted⟩ := bind_eq_ok.mp accepted
    obtain ⟨locked,-,done⟩ := bind_eq_ok.mp accepted
    cases done
    apply storeObservationBatch_mirrors mirrors _ (observationEvents_tenant resolved) written
    rw [observationEvents_eventIds resolved]
    exact request.uniqueEvents

end Acceptance

section Transactions

variable {platform : Platform} {settings : Settings} {ingress middle after : Ingress}

/-- Finalizing an event and touching its outbox row. -/
theorem Ingress.Finalizes.retains {eventId : EventId} (finalizes : ingress.Finalizes middle eventId)
    (awaits : ingress.Awaits eventId) : ingress.Retains middle := by
  obtain ⟨outcome,-,ledger,-⟩ := finalizes.settled
  exact .of_settled awaits.open ledger

theorem Ingress.Mirrors.touch {tenantId : Uuid} (mirrors : ingress.Mirrors tenantId)
    (eventId : EventId) {change : RfidObservationOutbox → RfidObservationOutbox}
    (keeps : ∀ row, (change row).eventId = row.eventId)
    (payloads : ∀ row, (change row).payload = row.payload) (retains : ingress.Retains after)
    (outbox : after.outbox = ingress.outbox.modify eventId change keeps) :
    after.Mirrors tenantId := by
  refine mirrors.keep retains ?_
  intro row member
  rw [outbox] at member
  obtain ⟨old,stored,rfl⟩ := Table.mem_updateWhere.mp member
  refine ⟨old,stored,?_⟩
  split
  · exact ⟨(keeps old).symm,(payloads old).symm⟩
  · exact ⟨rfl,rfl⟩

theorem failRaw_mirrors {registry : Registry} {eventId : EventId} {error : String}
    {quarantineId : Uuid} {now : Time} {tenantId : Uuid} (lockstep : ingress.Lockstep)
    (mirrors : ingress.Mirrors tenantId)
    (failed : failRaw settings registry ingress eventId error quarantineId now = .ok after) :
    ingress.Retains after ∧ after.Mirrors tenantId := by
  unfold failRaw at failed
  split at failed
  · cases failed
    exact ⟨.refl _,mirrors⟩
  · rename_i row unpublished
    obtain ⟨member,keyed,awaits⟩ := lockstep.awaits unpublished
    have counted : ingress.Retains (ingress.countFailure eventId error) := .of_eq rfl
    have still : (ingress.countFailure eventId error).Mirrors tenantId :=
      mirrors.touch eventId (fun row => row.countFailure_eventId error) (fun _ => rfl) counted rfl
    split at failed
    · obtain ⟨event,terminal,failed⟩ := bind_eq_ok.mp failed
      obtain ⟨quarantined,rejected,done⟩ := bind_eq_ok.mp failed
      have addressed : event.eventId = eventId :=
        (terminalEvent_eventId (lockstep.addressed row member) terminal).trans keyed
      have waiting : (ingress.countFailure eventId error).Awaits event.eventId := by
        rw [addressed]
        exact awaits
      have finalizes := quarantineObservation_finalizes waiting rejected
      have kept := finalizes.retains waiting
      have retains : (ingress.countFailure eventId error).Retains after := by
        cases done
        exact ⟨kept.addressed,kept.final⟩
      refine ⟨⟨retains.addressed,retains.final⟩,
        still.touch eventId (fun row => row.terminalize_eventId now) (fun _ => rfl) retains ?_⟩
      cases done
      rw [finalizes.outbox]
    · cases failed
      exact ⟨counted,still⟩

/-- Requeueing a rejected event under the EPC of its ledger row. -/
theorem requeueEvent_mirrors {tenantId batchId : Uuid} {replayedFrom : Option Uuid}
    {ledger : RfidObservationEventLedger} (mirrors : ingress.Mirrors tenantId)
    (located : ingress.ledger.find? ledger.eventId = some ledger)
    (rejected : ledger.processingStatus = .rejected)
    (requeued : requeueEvent ingress ledger (ledger.event tenantId batchId replayedFrom) =
      .ok after) : ingress.Retains after ∧ after.Mirrors tenantId := by
  have waiting : ∀ row, ingress.ledger.find? ledger.eventId = some row →
      row.processingStatus ≠ .processed := by
    intro row found
    rw [located] at found
    cases found
    simp [rejected]
  unfold requeueEvent at requeued
  dsimp only at requeued
  split at requeued
  · cases requeued
  · split at requeued
    · have retains : ingress.Retains after := by
        cases requeued
        exact .of_settled waiting rfl
      refine ⟨retains,?_⟩
      cases requeued
      intro row member event payload
      obtain ⟨old,stored,rfl⟩ := List.mem_map.mp member
      by_cases here : old.eventId = ledger.eventId
      · simp only [here,decide_true,if_true] at payload ⊢
        cases payload
        obtain ⟨later,found,epc⟩ := retains.addressed _ ledger located
        exact ⟨rfl,later,by simpa [here] using found,epc⟩
      · simp only [here,decide_false,Bool.false_eq_true,if_false] at payload ⊢
        obtain ⟨tenant,row,found,epc⟩ := mirrors old stored event payload
        obtain ⟨later,there,kept⟩ := retains.addressed _ row found
        exact ⟨tenant,later,there,kept.trans epc⟩
    · cases requeued

theorem queueQuarantinedObservationReplay_mirrors {registry : Registry} {quarantineId : Uuid}
    {result : QuarantineReplayResult} (mirrors : ingress.Mirrors registry.tenantId)
    (replayed : queueQuarantinedObservationReplay registry ingress quarantineId =
      .ok (result,after)) : ingress.Retains after ∧ after.Mirrors registry.tenantId := by
  cases queueQuarantinedObservationReplay_replayed replayed with
  | unchanged => exact ⟨.refl _,mirrors⟩
  | requeued quarantine ledger after found named located rejected written =>
      exact requeueEvent_mirrors mirrors located rejected written

end Transactions

end Abacus

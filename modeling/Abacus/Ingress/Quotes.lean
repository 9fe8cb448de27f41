import Abacus.Ingress.Mirrors

/-! The outbox quotes the ledger: what is queued for an event is the read that its ledger row
records, and what a ledger row records is never rewritten.
-/
set_option autoImplicit false

namespace Abacus

open Relational (Table)

section Invariant

/-- The read that a ledger row records, whichever batch or replay it is sent for. -/
def RfidObservationEventLedger.recorded (ledger : RfidObservationEventLedger) :
    RfidObservationEvent :=
  ledger.event 0 0 none

def RfidObservationEvent.unattributed (event : RfidObservationEvent) : RfidObservationEvent :=
  { event with tenantId := 0, batchId := 0, replayedFromQuarantineId := none }

def Ingress.Quotes (ingress : Ingress) : Prop :=
  ∀ row ∈ ingress.outbox.rows, ∀ event, row.payload = .event event →
    ∃ ledger, ingress.ledger.find? row.eventId = some ledger ∧
      ledger.recorded = event.unattributed

def Ingress.Records (ingress after : Ingress) : Prop :=
  ∀ eventId ledger, ingress.ledger.find? eventId = some ledger →
    ∃ later, after.ledger.find? eventId = some later ∧ later.recorded = ledger.recorded

variable {ingress middle after : Ingress}

theorem Ingress.Records.of_eq (ledger : after.ledger = ingress.ledger) :
    ingress.Records after := by
  intro eventId row found
  exact ⟨row,by rw [ledger]; exact found,rfl⟩

theorem Ingress.Records.of_append {inserted : List RfidObservationEventLedger}
    (ledger : after.ledger.rows = ingress.ledger.rows ++ inserted) : ingress.Records after := by
  intro eventId row found
  refine ⟨row,?_,rfl⟩
  rw [Table.find?_append ledger,found]
  rfl

theorem Ingress.Records.of_settled {eventId : EventId} {outcome : Outcome}
    (ledger : after.ledger = (ingress.settleEvent eventId outcome).ledger) :
    ingress.Records after := by
  intro other row found
  rw [ledger,settleEvent_find?]
  by_cases same : other = eventId
  · subst same
    rw [if_pos rfl,found]
    exact ⟨_,rfl,rfl⟩
  · rw [if_neg same]
    exact ⟨row,found,rfl⟩

/-- Rows that keep their payload under a ledger that keeps what it records. -/
theorem Ingress.Quotes.keep (quotes : ingress.Quotes) (records : ingress.Records after)
    (payloads : ∀ row ∈ after.outbox.rows, ∃ old ∈ ingress.outbox.rows,
      old.eventId = row.eventId ∧ old.payload = row.payload) : after.Quotes := by
  intro row member event payload
  obtain ⟨old,stored,keyed,same⟩ := payloads row member
  obtain ⟨ledger,found,quoted⟩ := quotes old stored event (same.trans payload)
  obtain ⟨later,located,kept⟩ := records _ ledger found
  rw [← keyed]
  exact ⟨later,located,kept.trans quoted⟩

theorem Ingress.Quotes.touch (quotes : ingress.Quotes) (eventId : EventId)
    {change : RfidObservationOutbox → RfidObservationOutbox}
    (keeps : ∀ row, (change row).eventId = row.eventId)
    (payloads : ∀ row, (change row).payload = row.payload) (records : ingress.Records after)
    (outbox : after.outbox = ingress.outbox.modify eventId change keeps) : after.Quotes := by
  refine quotes.keep records ?_
  intro row member
  rw [outbox] at member
  obtain ⟨old,stored,rfl⟩ := Table.mem_updateWhere.mp member
  refine ⟨old,stored,?_⟩
  split
  · exact ⟨(keeps old).symm,(payloads old).symm⟩
  · exact ⟨rfl,rfl⟩

theorem Ingress.Finalizes.records {eventId : EventId}
    (finalizes : ingress.Finalizes middle eventId) : ingress.Records middle := by
  obtain ⟨outcome,-,ledger,-⟩ := finalizes.settled
  exact .of_settled ledger

end Invariant

section Transactions

variable {platform : Platform} {settings : Settings} {registry : Registry}
  {ingress middle after : Ingress}

theorem storeObservationBatch_quotes {batch : RfidObservationBatch}
    {events : List RfidObservationEvent} {receivedAt : Time} (quotes : ingress.Quotes)
    (distinct : (events.map RfidObservationEvent.eventId).Nodup)
    (stored : storeObservationBatch platform ingress batch events receivedAt = .ok after) :
    after.Quotes := by
  obtain ⟨inserted,appended,sources,queued⟩ := storeObservationBatch_queues stored
  intro row member event payload
  rcases queued row member with old | ⟨source,listed,keyed,same,ledger,fresh,owns⟩
  · obtain ⟨ledger,found,quoted⟩ := quotes row old event payload
    obtain ⟨later,located,kept⟩ := Ingress.Records.of_append appended _ ledger found
    exact ⟨later,located,kept.trans quoted⟩
  · rw [payload] at same
    cases same
    obtain ⟨origin,place,rfl⟩ := sources ledger fresh
    have equal : origin = event := List.inj_on_of_nodup_map distinct place listed owns
    subst equal
    have present : origin.ledgerRow platform ∈ after.ledger.rows := by
      rw [appended]
      exact List.mem_append_right _ fresh
    refine ⟨origin.ledgerRow platform,?_,rfl⟩
    rw [keyed]
    exact Table.find?_of_mem present

theorem acceptObservationBatch_quotes {connectivity connectivity' : Connectivity} {device : Device}
    {request : ObservationBatchCreate} {receivedAt : Time} {batchId : Uuid}
    (quotes : ingress.Quotes)
    (accepted : acceptObservationBatch platform registry ingress connectivity device request
      receivedAt batchId = .ok (after,connectivity')) : after.Quotes := by
  unfold acceptObservationBatch at accepted
  split at accepted
  · cases accepted
  · obtain ⟨current,-,accepted⟩ := bind_eq_ok.mp accepted
    obtain ⟨events,resolved,accepted⟩ := bind_eq_ok.mp accepted
    obtain ⟨stored,written,accepted⟩ := bind_eq_ok.mp accepted
    obtain ⟨locked,-,done⟩ := bind_eq_ok.mp accepted
    cases done
    apply storeObservationBatch_quotes quotes _ written
    rw [observationEvents_eventIds resolved]
    exact request.uniqueEvents

theorem failRaw_quotes {eventId : EventId} {error : String} {quarantineId : Uuid} {now : Time}
    (lockstep : ingress.Lockstep) (quotes : ingress.Quotes)
    (failed : failRaw settings registry ingress eventId error quarantineId now = .ok after) :
    after.Quotes := by
  unfold failRaw at failed
  split at failed
  · cases failed
    exact quotes
  · rename_i row unpublished
    obtain ⟨member,keyed,awaits⟩ := lockstep.awaits unpublished
    have still : (ingress.countFailure eventId error).Quotes :=
      quotes.touch eventId (fun row => row.countFailure_eventId error) (fun _ => rfl) (.of_eq rfl) rfl
    split at failed
    · obtain ⟨event,terminal,failed⟩ := bind_eq_ok.mp failed
      obtain ⟨quarantined,rejected,done⟩ := bind_eq_ok.mp failed
      have addressed : event.eventId = eventId :=
        (terminalEvent_eventId (lockstep.addressed row member) terminal).trans keyed
      have waiting : (ingress.countFailure eventId error).Awaits event.eventId := by
        rw [addressed]
        exact awaits
      have finalizes := quarantineObservation_finalizes waiting rejected
      have records : (ingress.countFailure eventId error).Records after := by
        cases done
        exact finalizes.records
      refine still.touch eventId (fun row => row.terminalize_eventId now) (fun _ => rfl) records ?_
      cases done
      rw [finalizes.outbox]
    · cases failed
      exact still

theorem requeueEvent_quotes {tenantId batchId : Uuid} {replayedFrom : Option Uuid}
    {ledger : RfidObservationEventLedger} (quotes : ingress.Quotes)
    (located : ingress.ledger.find? ledger.eventId = some ledger)
    (requeued : requeueEvent ingress ledger (ledger.event tenantId batchId replayedFrom) =
      .ok after) : after.Quotes := by
  unfold requeueEvent at requeued
  dsimp only at requeued
  split at requeued
  · cases requeued
  · split at requeued
    · have records : ingress.Records after := by
        cases requeued
        exact .of_settled rfl
      cases requeued
      intro row member event payload
      obtain ⟨old,stored,rfl⟩ := List.mem_map.mp member
      by_cases here : old.eventId = ledger.eventId
      · simp only [here,decide_true,if_true] at payload ⊢
        cases payload
        obtain ⟨later,found,kept⟩ := records _ ledger located
        exact ⟨later,by simpa [here] using found,kept⟩
      · simp only [here,decide_false,Bool.false_eq_true,if_false] at payload ⊢
        obtain ⟨row,found,quoted⟩ := quotes old stored event payload
        obtain ⟨later,there,kept⟩ := records _ row found
        exact ⟨later,there,kept.trans quoted⟩
    · cases requeued

theorem queueQuarantinedObservationReplay_quotes {quarantineId : Uuid}
    {result : QuarantineReplayResult} (quotes : ingress.Quotes)
    (replayed : queueQuarantinedObservationReplay registry ingress quarantineId =
      .ok (result,after)) : after.Quotes := by
  cases queueQuarantinedObservationReplay_replayed replayed with
  | unchanged => exact quotes
  | requeued quarantine ledger after found named located rejected written =>
      exact requeueEvent_quotes quotes located written

end Transactions

end Abacus

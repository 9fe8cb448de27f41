import Abacus.Ingress.RawEvents
import Abacus.Model.Sample

/-! Ledger, links, outbox and quarantine of the raw events move in lockstep. -/
set_option autoImplicit false

namespace Abacus

open Relational (Table)
open Transition (Machine)

section Invariant

def RfidObservationEventLedger.outcome (ledger : RfidObservationEventLedger) : Outcome where
  processingStatus := ledger.processingStatus
  disposition := ledger.disposition
  rejectionReason := ledger.rejectionReason
  at? := ledger.processedAt

def RfidObservationBatchEvent.outcome (link : RfidObservationBatchEvent) : Outcome where
  processingStatus := link.processingStatus
  disposition := link.disposition
  rejectionReason := link.rejectionReason
  at? := link.finalizedAt

@[simp] theorem RfidObservationEventLedger.settle_outcome (ledger : RfidObservationEventLedger)
    (outcome : Outcome) : (ledger.settle outcome).outcome = outcome := rfl

@[simp] theorem RfidObservationBatchEvent.settle_outcome (link : RfidObservationBatchEvent)
    (outcome : Outcome) : (link.settle outcome).outcome = outcome := rfl

def quarantinedOnce (quarantine : Table RfidQuarantine.id) : Prop :=
  ∀ first ∈ quarantine.rows, ∀ second ∈ quarantine.rows, ∀ eventId,
    first.eventId = some eventId → second.eventId = some eventId → first = second

structure Ingress.Lockstep (ingress : Ingress) : Prop where
  paired : ∀ eventId, (ingress.ledger.find? eventId).isSome = (ingress.outbox.find? eventId).isSome
  pending : ∀ eventId ledger row, ingress.ledger.find? eventId = some ledger →
    ingress.outbox.find? eventId = some row →
    (ledger.processingStatus = .pending ↔ row.publishedAt = none)
  linked : ∀ link ∈ ingress.links.rows, ∃ ledger,
    ingress.ledger.find? link.eventId = some ledger ∧ link.outcome = ledger.outcome
  addressed : ∀ row ∈ ingress.outbox.rows, ∀ event, row.payload = .event event →
    event.eventId = row.eventId
  once : quarantinedOnce ingress.quarantine

theorem Ingress.empty_lockstep : Ingress.empty.Lockstep where
  paired _ := rfl
  pending _ _ _ found := by cases found
  linked _ member := by cases member
  addressed _ member := by cases member
  once _ member := by cases member

variable {ingress after : Ingress} {eventId : EventId}

theorem Ingress.Lockstep.row (lockstep : ingress.Lockstep) {ledger : RfidObservationEventLedger}
    (found : ingress.ledger.find? eventId = some ledger) :
    ∃ row, ingress.outbox.find? eventId = some row := by
  have paired := lockstep.paired eventId
  rw [found] at paired
  exact Option.isSome_iff_exists.mp paired.symm

theorem Ingress.Lockstep.ledger (lockstep : ingress.Lockstep) {row : RfidObservationOutbox}
    (found : ingress.outbox.find? eventId = some row) :
    ∃ ledger, ingress.ledger.find? eventId = some ledger := by
  have paired := lockstep.paired eventId
  rw [found] at paired
  exact Option.isSome_iff_exists.mp paired

/-- One outcome is written to the ledger and the links of an event, and its outbox row is published or
requeued to match. -/
theorem Ingress.Lockstep.rewrite (lockstep : ingress.Lockstep) {outcome : Outcome}
    {change : RfidObservationOutbox → RfidObservationOutbox}
    (keeps : ∀ row, (change row).eventId = row.eventId)
    (ledger : after.ledger = (ingress.settleEvent eventId outcome).ledger)
    (links : after.links = (ingress.settleEvent eventId outcome).links)
    (outbox : after.outbox = ingress.outbox.modify eventId change keeps)
    (once : quarantinedOnce after.quarantine)
    (agrees : ∀ row, outcome.processingStatus = .pending ↔ (change row).publishedAt = none)
    (addressed : ∀ row ∈ ingress.outbox.rows, row.eventId = eventId → ∀ event,
      (change row).payload = .event event → event.eventId = eventId) : after.Lockstep := by
  have ledgerAt : ∀ other, after.ledger.find? other = if other = eventId then
      (ingress.ledger.find? eventId).map (fun ledger => ledger.settle outcome)
      else ingress.ledger.find? other := by
    intro other
    rw [ledger]
    exact Table.find?_modify ingress.ledger eventId other (fun ledger => ledger.settle outcome)
      (fun ledger => ledger.settle_eventId outcome)
  have outboxAt : ∀ other, after.outbox.find? other = if other = eventId then
      (ingress.outbox.find? eventId).map change else ingress.outbox.find? other := by
    intro other
    rw [outbox]
    exact Table.find?_modify ingress.outbox eventId other change keeps
  refine ⟨?_,?_,?_,?_,once⟩
  · intro other
    rw [ledgerAt,outboxAt]
    split
    · rw [Option.isSome_map,Option.isSome_map]
      exact lockstep.paired eventId
    · exact lockstep.paired other
  · intro other ledger row ledgerFound rowFound
    rw [ledgerAt] at ledgerFound
    rw [outboxAt] at rowFound
    split at ledgerFound
    · rename_i same
      rw [if_pos same] at rowFound
      obtain ⟨old,-,rfl⟩ := Option.map_eq_some_iff.mp ledgerFound
      obtain ⟨queued,-,rfl⟩ := Option.map_eq_some_iff.mp rowFound
      exact agrees queued
    · rename_i apart
      rw [if_neg apart] at rowFound
      exact lockstep.pending other ledger row ledgerFound rowFound
  · intro link member
    rw [links] at member
    obtain ⟨old,place,rfl⟩ := List.mem_map.mp member
    obtain ⟨found,located,same⟩ := lockstep.linked old place
    by_cases here : old.eventId = eventId
    · rw [if_pos (decide_eq_true here)]
      have keyed : (old.settle outcome).eventId = eventId := here
      rw [keyed,ledgerAt,if_pos rfl,← here,located]
      exact ⟨_,rfl,rfl⟩
    · rw [if_neg (by simpa using here),ledgerAt,if_neg here]
      exact ⟨found,located,same⟩
  · intro row member event payload
    rw [outbox] at member
    obtain ⟨old,place,rfl⟩ := List.mem_map.mp member
    by_cases here : old.eventId = eventId
    · rw [if_pos (decide_eq_true here)] at payload ⊢
      rw [keeps,here]
      exact addressed old place here event payload
    · rw [if_neg (by simpa using here)] at payload ⊢
      exact lockstep.addressed old place event payload

/-- Counting a failure touches neither status nor payload, and a poisoned payload names no event. -/
theorem Ingress.Lockstep.touch (lockstep : ingress.Lockstep)
    {change : RfidObservationOutbox → RfidObservationOutbox}
    (keeps : ∀ row, (change row).eventId = row.eventId)
    (ledger : after.ledger = ingress.ledger) (links : after.links = ingress.links)
    (quarantine : after.quarantine = ingress.quarantine)
    (outbox : after.outbox = ingress.outbox.modify eventId change keeps)
    (published : ∀ row, (change row).publishedAt = row.publishedAt)
    (payloads : ∀ row event, (change row).payload = .event event → row.payload = .event event) :
    after.Lockstep := by
  have outboxAt : ∀ other, after.outbox.find? other = if other = eventId then
      (ingress.outbox.find? eventId).map change else ingress.outbox.find? other := by
    intro other
    rw [outbox]
    exact Table.find?_modify ingress.outbox eventId other change keeps
  refine ⟨?_,?_,?_,?_,by rw [quarantine]; exact lockstep.once⟩
  · intro other
    rw [ledger,outboxAt]
    split
    · rename_i same
      rw [Option.isSome_map,same]
      exact lockstep.paired eventId
    · exact lockstep.paired other
  · intro other found row ledgerFound rowFound
    rw [ledger] at ledgerFound
    rw [outboxAt] at rowFound
    split at rowFound
    · rename_i same
      obtain ⟨queued,located,rfl⟩ := Option.map_eq_some_iff.mp rowFound
      rw [published]
      exact lockstep.pending eventId found queued (by rw [← same]; exact ledgerFound) located
    · exact lockstep.pending other found row ledgerFound rowFound
  · intro link member
    rw [links] at member
    rw [ledger]
    exact lockstep.linked link member
  · intro row member event payload
    rw [outbox] at member
    obtain ⟨old,place,rfl⟩ := List.mem_map.mp member
    by_cases here : old.eventId = eventId
    · rw [if_pos (decide_eq_true here)] at payload ⊢
      rw [keeps]
      exact lockstep.addressed old place event (payloads old event payload)
    · rw [if_neg (by simpa using here)] at payload ⊢
      exact lockstep.addressed old place event payload

/-- A transaction that writes at most a quarantine row. -/
theorem Ingress.Lockstep.of_same (lockstep : ingress.Lockstep)
    (ledger : after.ledger = ingress.ledger) (links : after.links = ingress.links)
    (outbox : after.outbox = ingress.outbox) (once : quarantinedOnce after.quarantine) :
    after.Lockstep := by
  refine ⟨?_,?_,?_,?_,once⟩
  · rw [ledger,outbox]
    exact lockstep.paired
  · rw [ledger,outbox]
    exact lockstep.pending
  · rw [ledger,links]
    exact lockstep.linked
  · rw [outbox]
    exact lockstep.addressed

end Invariant

section Acceptance

variable {platform : Platform} {ingress after : Ingress} {events : List RfidObservationEvent}

theorem mem_outboxRows {firstSequence : ℕ} {row : RfidObservationOutbox}
    (member : row ∈ outboxRows events firstSequence) :
    ∃ event ∈ events, row.eventId = event.eventId ∧ row.payload = .event event ∧
      row.publishedAt = none := by
  obtain ⟨position,inside,rfl⟩ := List.mem_mapIdx.mp member
  exact ⟨events[position],List.getElem_mem _,rfl,rfl,rfl⟩

theorem outboxRows_find? {firstSequence : ℕ} (eventId : EventId) :
    ((outboxRows events firstSequence).find? fun row => decide (row.eventId = eventId)).isSome =
      events.any fun event => decide (event.eventId = eventId) := by
  rw [Bool.eq_iff_iff,List.find?_isSome,List.any_eq_true]
  constructor
  · rintro ⟨row,member,same⟩
    obtain ⟨event,listed,keyed,-⟩ := mem_outboxRows member
    exact ⟨event,listed,by simpa [← keyed] using same⟩
  · rintro ⟨event,listed,same⟩
    obtain ⟨position,inside,rfl⟩ := List.getElem_of_mem listed
    exact ⟨_,List.mem_mapIdx.mpr ⟨position,inside,rfl⟩,same⟩

structure Ingress.Accepts (ingress after : Ingress) (batchId : Uuid)
    (events : List RfidObservationEvent) (inserted ledgers : List RfidObservationEventLedger) :
    Prop where
  ledger : after.ledger.rows = ingress.ledger.rows ++ inserted
  fresh : ∀ row ∈ inserted, ingress.ledger.find? row.eventId = none ∧
    row.processingStatus = .pending ∧ ∃ event ∈ events, event.eventId = row.eventId
  complete : ∀ event ∈ events, (after.ledger.find? event.eventId).isSome = true
  links : after.links.rows = ingress.links.rows ++ ledgers.map fun row => row.link batchId
  stored : ∀ row ∈ ledgers, row ∈ after.ledger.rows
  outbox : after.outbox.rows = ingress.outbox.rows ++ outboxRows (events.filter fun event =>
    decide (event.eventId ∈ inserted.map RfidObservationEventLedger.eventId))
      ingress.acceptanceSequence
  quarantine : after.quarantine = ingress.quarantine

theorem storeObservationBatch_accepts {batch : RfidObservationBatch} {receivedAt : Time}
    (stored : storeObservationBatch platform ingress batch events receivedAt = .ok after) :
    ∃ inserted ledgers, ingress.Accepts after batch.id events inserted ledgers := by
  unfold storeObservationBatch at stored
  obtain ⟨batches,-,stored⟩ := bind_eq_ok.mp stored
  dsimp only at stored
  split at stored
  · cases stored
  · split at stored
    · cases stored
    · obtain ⟨links,linked,stored⟩ := bind_eq_ok.mp stored
      obtain ⟨outbox,queued,done⟩ := bind_eq_ok.mp stored
      cases done
      refine ⟨_,_,Table.rows_insertManyNew _ _,?_,?_,
        (Table.insertMany_eq_some (orIntegrityError_eq_ok.mp linked)).1,?_,
        (Table.insertMany_eq_some (orIntegrityError_eq_ok.mp queued)).1,rfl⟩
      · intro row member
        obtain ⟨listed,absent⟩ := Table.mem_insertManyNew member
        obtain ⟨event,sorted,rfl⟩ := List.mem_map.mp listed
        exact ⟨absent,rfl,event,(List.perm_insertionSort _ _).mem_iff.mp sorted,rfl⟩
      · intro event member
        have sorted : event.ledgerRow platform ∈ (events.insertionSort fun left right =>
            left.eventId ≤ right.eventId).map fun event => event.ledgerRow platform :=
          List.mem_map_of_mem ((List.perm_insertionSort _ _).mem_iff.mpr member)
        exact Table.find?_insertManyNew_isSome ingress.ledger sorted
      · intro row member
        exact (Table.mem_select.mp ((List.perm_insertionSort _ _).mem_iff.mp member)).1

theorem Ingress.Lockstep.accept (lockstep : ingress.Lockstep) {batchId : Uuid}
    {inserted ledgers : List RfidObservationEventLedger}
    (accepts : ingress.Accepts after batchId events inserted ledgers) : after.Lockstep := by
  have ledgerAt := fun eventId => Table.find?_append accepts.ledger eventId
  have outboxAt := fun eventId => Table.find?_append accepts.outbox eventId
  -- An event that is new to the ledger is new to the outbox, and gets a row in both.
  have created : ∀ eventId, (events.filter fun event =>
      decide (event.eventId ∈ inserted.map RfidObservationEventLedger.eventId)).any
        (fun event => decide (event.eventId = eventId)) =
      (inserted.find? fun row => decide (row.eventId = eventId)).isSome := by
    intro eventId
    rw [Bool.eq_iff_iff,List.any_eq_true,List.find?_isSome]
    constructor
    · rintro ⟨event,member,same⟩
      obtain ⟨-,listed⟩ := List.mem_filter.mp member
      obtain ⟨row,place,keyed⟩ := List.mem_map.mp (of_decide_eq_true listed)
      exact ⟨row,place,by simpa [keyed] using same⟩
    · rintro ⟨row,member,same⟩
      obtain ⟨-,-,event,listed,keyed⟩ := accepts.fresh row member
      refine ⟨event,List.mem_filter.mpr ⟨listed,decide_eq_true ?_⟩,by simpa [keyed] using same⟩
      exact List.mem_map.mpr ⟨row,member,keyed.symm⟩
  refine ⟨?_,?_,?_,?_,?_⟩
  · intro eventId
    rw [ledgerAt,outboxAt,Option.isSome_or,Option.isSome_or,lockstep.paired,outboxRows_find?,created]
  · intro eventId ledger row ledgerFound rowFound
    rw [ledgerAt] at ledgerFound
    rw [outboxAt] at rowFound
    cases old : ingress.ledger.find? eventId with
    | some known =>
        obtain ⟨queued,here⟩ := lockstep.row old
        rw [old,Option.some_or] at ledgerFound
        rw [here,Option.some_or] at rowFound
        cases ledgerFound
        cases rowFound
        exact lockstep.pending eventId _ _ old here
    | none =>
        have unqueued : ingress.outbox.find? eventId = none := by
          cases queued : ingress.outbox.find? eventId with
          | none => rfl
          | some _ =>
              obtain ⟨ledger,found⟩ := lockstep.ledger queued
              rw [old] at found
              cases found
        rw [old,Option.none_or] at ledgerFound
        rw [unqueued,Option.none_or] at rowFound
        have status := (accepts.fresh ledger (List.mem_of_find?_eq_some ledgerFound)).2.1
        obtain ⟨_,_,_,_,published⟩ := mem_outboxRows (List.mem_of_find?_eq_some rowFound)
        exact ⟨fun _ => published,fun _ => status⟩
  · intro link member
    rw [accepts.links] at member
    rcases List.mem_append.mp member with old | new
    · obtain ⟨ledger,found,same⟩ := lockstep.linked link old
      exact ⟨ledger,by rw [ledgerAt,found]; rfl,same⟩
    · obtain ⟨ledger,listed,rfl⟩ := List.mem_map.mp new
      exact ⟨ledger,Table.find?_of_mem (accepts.stored ledger listed),rfl⟩
  · intro row member event payload
    rw [accepts.outbox] at member
    rcases List.mem_append.mp member with old | new
    · exact lockstep.addressed row old event payload
    · obtain ⟨source,-,keyed,stored,-⟩ := mem_outboxRows new
      rw [stored] at payload
      cases payload
      exact keyed.symm
  · rw [accepts.quarantine]
    exact lockstep.once

end Acceptance

section Finalization

variable {platform : Platform} {settings : Settings} {ingress after : Ingress} {eventId : EventId}

structure Ingress.Finalizes (ingress after : Ingress) (eventId : EventId) : Prop where
  settled : ∃ outcome : Outcome, outcome.processingStatus ≠ .pending ∧
    after.ledger = (ingress.settleEvent eventId outcome).ledger ∧
    after.links = (ingress.settleEvent eventId outcome).links
  outbox : after.outbox = ingress.outbox
  once : quarantinedOnce ingress.quarantine → quarantinedOnce after.quarantine

def Ingress.Awaits (ingress : Ingress) (eventId : EventId) : Prop :=
  ∃ ledger, ingress.ledger.find? eventId = some ledger ∧ ledger.processingStatus = .pending

theorem advanceBatch_finalizes {rejected : Bool} {disposition : Disposition}
    {reason : Option RejectionReason} {finalizedAt : Time} (awaits : ingress.Awaits eventId)
    (advanced : advanceBatch ingress eventId rejected disposition reason finalizedAt = .ok after) :
    ingress.Finalizes after eventId := by
  obtain ⟨ledger,found,pending⟩ := awaits
  unfold advanceBatch at advanced
  rw [found] at advanced
  dsimp only at advanced
  rw [if_neg (not_not.mpr pending)] at advanced
  obtain ⟨outcome,terminal,same⟩ : ∃ outcome : Outcome, outcome.processingStatus ≠ .pending ∧
      outcome = {
        processingStatus := if rejected then .rejected else .processed
        disposition := some disposition
        rejectionReason := if rejected then reason else none
        at? := some finalizedAt } := ⟨_,by cases rejected <;> simp,rfl⟩
  rw [← same] at advanced
  split at advanced
  · cases advanced
    exact ⟨⟨outcome,terminal,rfl,rfl⟩,rfl,id⟩
  · cases advanced

theorem recordQuarantine_spec {event : RfidObservationEvent} {reason : RejectionReason}
    {payload : StoredPayload} {quarantineId : Uuid} {quarantinedAt : Time}
    (recorded : ingress.recordQuarantine event reason payload quarantineId quarantinedAt = .ok after) :
    after.ledger = ingress.ledger ∧ after.links = ingress.links ∧ after.outbox = ingress.outbox ∧
      (quarantinedOnce ingress.quarantine → quarantinedOnce after.quarantine) := by
  unfold Ingress.recordQuarantine at recorded
  split at recorded
  · cases recorded
    exact ⟨rfl,rfl,rfl,id⟩
  · rename_i first
    obtain ⟨quarantine,inserted,done⟩ := bind_eq_ok.mp recorded
    cases done
    rw [orIntegrityError_eq_ok] at inserted
    refine ⟨rfl,rfl,rfl,fun once => ?_⟩
    have absent : ∀ row ∈ ingress.quarantine.rows, row.eventId ≠ some event.eventId := by
      intro row member same
      exact first (List.any_eq_true.mpr ⟨row,member,decide_eq_true same⟩)
    intro left leftMember right rightMember eventId leftKey rightKey
    rcases (Table.mem_insert inserted).mp leftMember with leftOld | rfl
    · rcases (Table.mem_insert inserted).mp rightMember with rightOld | rfl
      · exact once left leftOld right rightOld eventId leftKey rightKey
      · exact absurd (leftKey.trans rightKey.symm) (absent left leftOld)
    · rcases (Table.mem_insert inserted).mp rightMember with rightOld | rfl
      · exact absurd (rightKey.trans leftKey.symm) (absent right rightOld)
      · rfl

theorem quarantineObservation_finalizes {event : RfidObservationEvent} {reason : RejectionReason}
    {payload : StoredPayload} {quarantineId : Uuid} {finalizedAt : Time}
    (awaits : ingress.Awaits event.eventId)
    (quarantined : quarantineObservation ingress event reason payload quarantineId finalizedAt =
      .ok after) : ingress.Finalizes after event.eventId := by
  obtain ⟨middle,recorded,advanced⟩ := bind_eq_ok.mp quarantined
  obtain ⟨ledger,links,outbox,once⟩ := recordQuarantine_spec recorded
  have waiting : middle.Awaits event.eventId := by
    rw [Ingress.Awaits,ledger]
    exact awaits
  obtain ⟨⟨outcome,terminal,settledLedger,settledLinks⟩,kept,stillOnce⟩ :=
    advanceBatch_finalizes waiting advanced
  refine ⟨⟨outcome,terminal,?_,?_⟩,kept.trans outbox,fun first => stillOnce (once first)⟩
  · rw [settledLedger,Ingress.settleEvent,Ingress.settleEvent]
    simp only [ledger]
  · rw [settledLinks,Ingress.settleEvent,Ingress.settleEvent]
    simp only [links]

theorem processFreshObservation_finalizes {db finished : Database}
    {recent recent' : RecentObservationState} {event : RfidObservationEvent} {clock : Clock}
    {quarantineId evidenceId : Uuid} {result : ProcessingResult}
    (awaits : db.ingress.Awaits event.eventId)
    (processed : processFreshObservation platform settings db recent event clock quarantineId
      evidenceId = .ok (result,finished,recent')) :
    db.ingress.Finalizes finished.ingress event.eventId := by
  have quarantined : ∀ {start database : Database} {reason : RejectionReason}
      {answer : ProcessingResult},
      start.quarantine event reason quarantineId clock.finalized = .ok (answer,database) →
      start.ingress = db.ingress → db.ingress.Finalizes database.ingress event.eventId := by
    intro start database reason answer frame same
    obtain ⟨ingress,stored,done⟩ := bind_eq_ok.mp frame
    cases done
    rw [← same] at awaits ⊢
    exact quarantineObservation_finalizes awaits stored
  unfold processFreshObservation at processed
  dsimp only at processed
  split at processed
  · obtain ⟨⟨answer,database⟩,frame,done⟩ := bind_eq_ok.mp processed
    cases done
    exact quarantined frame rfl
  · split at processed
    · obtain ⟨⟨answer,database⟩,frame,done⟩ := bind_eq_ok.mp processed
      cases done
      exact quarantined frame rfl
    · obtain ⟨connectivity,-,processed⟩ := bind_eq_ok.mp processed
      split at processed
      · obtain ⟨⟨answer,database⟩,frame,done⟩ := bind_eq_ok.mp processed
        cases done
        exact quarantined frame rfl
      · obtain ⟨effect,-,processed⟩ := bind_eq_ok.mp processed
        obtain ⟨⟨answer,database⟩,finalized,done⟩ := bind_eq_ok.mp processed
        cases done
        obtain ⟨ingress,advanced,same⟩ := bind_eq_ok.mp finalized
        cases same
        exact advanceBatch_finalizes awaits advanced

/-- Every successful branch of `process_observation` finalizes its event. -/
theorem processObservation_finalizes {db finished : Database}
    {recent recent' : RecentObservationState} {event : RfidObservationEvent} {clock : Clock}
    {quarantineId evidenceId : Uuid} {result : ProcessingResult}
    (awaits : db.ingress.Awaits event.eventId)
    (processed : processObservation platform settings db recent event clock quarantineId evidenceId =
      .ok (result,finished,recent')) :
    db.ingress.Finalizes finished.ingress event.eventId := by
  unfold processObservation at processed
  split at processed
  · obtain ⟨⟨answer,database⟩,finalized,done⟩ := bind_eq_ok.mp processed
    cases done
    obtain ⟨ingress,advanced,same⟩ := bind_eq_ok.mp finalized
    cases same
    exact advanceBatch_finalizes awaits advanced
  · exact processFreshObservation_finalizes awaits processed

theorem Ingress.Lockstep.awaits (lockstep : ingress.Lockstep) {row : RfidObservationOutbox}
    (unpublished : unpublishedRow ingress eventId = some row) :
    row ∈ ingress.outbox.rows ∧ row.eventId = eventId ∧ ingress.Awaits eventId := by
  obtain ⟨found,open_⟩ := Option.filter_eq_some_iff.mp unpublished
  obtain ⟨ledger,located⟩ := lockstep.ledger found
  refine ⟨Table.mem_of_find? found,Table.key_of_find? found,ledger,located,?_⟩
  exact (lockstep.pending eventId ledger row located found).mpr (Option.isNone_iff_eq_none.mp open_)

/-- Finalizing an event and publishing its row. -/
theorem Ingress.Lockstep.finalize (lockstep : ingress.Lockstep) {middle : Ingress}
    (finalizes : ingress.Finalizes middle eventId)
    {change : RfidObservationOutbox → RfidObservationOutbox}
    (keeps : ∀ row, (change row).eventId = row.eventId)
    (published : ∀ row, (change row).publishedAt.isSome = true)
    (payloads : ∀ row, (change row).payload = row.payload) :
    Ingress.Lockstep { middle with outbox := middle.outbox.modify eventId change keeps } := by
  obtain ⟨⟨outcome,terminal,ledger,links⟩,outbox,once⟩ := finalizes
  refine lockstep.rewrite keeps ledger links (by rw [outbox]) (once lockstep.once) ?_ ?_
  · intro row
    refine ⟨fun same => absurd same terminal,fun open_ => ?_⟩
    have done := published row
    rw [open_] at done
    cases done
  · intro row member same event payload
    rw [payloads] at payload
    exact (lockstep.addressed row member event payload).trans same

def Ingress.Keeps (ingress after : Ingress) : Prop :=
  ∀ eventId, (ingress.ledger.find? eventId).isSome = true →
    (after.ledger.find? eventId).isSome = true

theorem Ingress.keeps_of_settled {outcome : Outcome}
    (ledger : after.ledger = (ingress.settleEvent eventId outcome).ledger) : ingress.Keeps after := by
  intro other stored
  have located := Table.find?_modify ingress.ledger eventId other
    (fun ledger => ledger.settle outcome) (fun ledger => ledger.settle_eventId outcome)
  rw [ledger]
  refine (congrArg Option.isSome located).trans ?_
  split
  · rename_i same
    rw [Option.isSome_map,← same]
    exact stored
  · exact stored

theorem handleRaw_lockstep {db finished : Database} {recent recent' : RecentObservationState}
    {clock : Clock} {quarantineId evidenceId : Uuid} (lockstep : db.ingress.Lockstep)
    (handled : handleRaw platform settings db recent eventId clock quarantineId evidenceId =
      .ok (finished,recent')) :
    finished.ingress.Lockstep ∧ db.ingress.Keeps finished.ingress := by
  unfold handleRaw at handled
  split at handled
  · cases handled
    exact ⟨lockstep,fun _ => id⟩
  · rename_i row unpublished
    obtain ⟨member,keyed,ledger,located,pending⟩ := lockstep.awaits unpublished
    split at handled
    · cases handled
    · rename_i event payload
      have addressed : event.eventId = eventId :=
        (lockstep.addressed row member event payload).trans keyed
      rw [keyed,located] at handled
      dsimp only at handled
      rw [if_pos pending] at handled
      obtain ⟨⟨result,database,memory⟩,observed,done⟩ := bind_eq_ok.mp handled
      cases done
      have awaits : db.ingress.Awaits event.eventId := by
        rw [addressed]
        exact ⟨ledger,located,pending⟩
      have finalizes := processObservation_finalizes awaits observed
      rw [addressed] at finalizes
      obtain ⟨outcome,-,settled,-⟩ := finalizes.settled
      exact ⟨lockstep.finalize finalizes (fun row => row.publish_eventId clock.finalized)
        (fun _ => rfl) (fun _ => rfl),Ingress.keeps_of_settled settled⟩

theorem terminalEvent_eventId {registry : Registry} {row : RfidObservationOutbox}
    {event : RfidObservationEvent}
    (addressed : ∀ event, row.payload = .event event → event.eventId = row.eventId)
    (terminal : terminalEvent registry ingress row = .ok event) : event.eventId = row.eventId := by
  unfold terminalEvent at terminal
  split at terminal
  · rename_i stored payload
    cases terminal
    exact addressed _ payload
  · split at terminal
    · rename_i ledger batchId found _
      cases terminal
      have keyed : ledger.eventId = row.eventId := Table.key_of_find? found
      exact keyed
    · cases terminal

theorem Ingress.Lockstep.countFailure (lockstep : ingress.Lockstep) (eventId : EventId)
    (error : String) : (ingress.countFailure eventId error).Lockstep :=
  lockstep.touch (fun row => row.countFailure_eventId error) rfl rfl rfl rfl (fun _ => rfl)
    (fun _ _ => id)

theorem failRaw_lockstep {registry : Registry} {error : String} {quarantineId : Uuid} {now : Time}
    (lockstep : ingress.Lockstep)
    (failed : failRaw settings registry ingress eventId error quarantineId now = .ok after) :
    after.Lockstep ∧ ingress.Keeps after := by
  unfold failRaw at failed
  split at failed
  · cases failed
    exact ⟨lockstep,fun _ => id⟩
  · rename_i row unpublished
    obtain ⟨member,keyed,awaits⟩ := lockstep.awaits unpublished
    have counted := lockstep.countFailure eventId error
    split at failed
    · obtain ⟨event,terminal,failed⟩ := bind_eq_ok.mp failed
      obtain ⟨quarantined,rejected,done⟩ := bind_eq_ok.mp failed
      cases done
      have addressed : event.eventId = eventId :=
        (terminalEvent_eventId (lockstep.addressed row member) terminal).trans keyed
      have finalizes := quarantineObservation_finalizes
        (by rw [addressed]; exact awaits) rejected
      rw [addressed] at finalizes
      obtain ⟨outcome,-,settled,-⟩ := finalizes.settled
      exact ⟨counted.finalize finalizes (fun row => row.terminalize_eventId now) (fun _ => rfl)
        (fun _ => rfl),Ingress.keeps_of_settled settled⟩
    · cases failed
      exact ⟨counted,fun _ => id⟩

end Finalization

section Replay

variable {ingress after : Ingress}

theorem requeueEvent_lockstep {ledger : RfidObservationEventLedger} {event : RfidObservationEvent}
    (lockstep : ingress.Lockstep) (addressed : event.eventId = ledger.eventId)
    (requeued : requeueEvent ingress ledger event = .ok after) :
    after.Lockstep ∧ ingress.Keeps after := by
  unfold requeueEvent at requeued
  dsimp only at requeued
  split at requeued
  · cases requeued
  · split at requeued
    · cases requeued
      refine ⟨lockstep.rewrite (fun row => row.requeue_eventId event) rfl rfl rfl lockstep.once
        (fun _ => ⟨fun _ => rfl,fun _ => rfl⟩) ?_,Ingress.keeps_of_settled rfl⟩
      intro row _ _ other payload
      cases payload
      exact addressed
    · cases requeued

/-- What a replay command that succeeds does: nothing, or it requeues a rejected event. -/
inductive Replayed (registry : Registry) (ingress : Ingress) (quarantineId : Uuid) :
    Ingress → Prop where
  | unchanged : Replayed registry ingress quarantineId ingress
  | requeued (quarantine : RfidQuarantine) (ledger : RfidObservationEventLedger) (after : Ingress)
      (found : ingress.quarantine.find? quarantineId = some quarantine)
      (named : quarantine.eventId = some ledger.eventId)
      (located : ingress.ledger.find? ledger.eventId = some ledger)
      (rejected : ledger.processingStatus = .rejected)
      (written : requeueEvent ingress ledger (ledger.event registry.tenantId quarantine.batchId
        (some quarantine.id)) = .ok after) : Replayed registry ingress quarantineId after

theorem queueQuarantinedObservationReplay_replayed {registry : Registry} {quarantineId : Uuid}
    {result : QuarantineReplayResult}
    (replayed : queueQuarantinedObservationReplay registry ingress quarantineId =
      .ok (result,after)) : Replayed registry ingress quarantineId after := by
  unfold queueQuarantinedObservationReplay at replayed
  split at replayed
  · cases replayed
  · rename_i quarantine found
    split at replayed
    · cases replayed
    · rename_i eventId named
      split at replayed
      · rename_i ledger row located stored
        have keyed : ledger.eventId = eventId := Table.key_of_find? located
        rw [← keyed] at named located
        dsimp only at replayed
        split at replayed
        · cases replayed
          exact .unchanged
        · split at replayed
          · cases replayed
          · cases replayed
            exact .unchanged
        · rename_i rejected
          obtain ⟨middle,requeued,done⟩ := bind_eq_ok.mp replayed
          cases done
          exact .requeued quarantine ledger _ found named located rejected requeued
      · cases replayed

theorem queueQuarantinedObservationReplay_lockstep {registry : Registry} {quarantineId : Uuid}
    {result : QuarantineReplayResult} (lockstep : ingress.Lockstep)
    (replayed : queueQuarantinedObservationReplay registry ingress quarantineId =
      .ok (result,after)) : after.Lockstep ∧ ingress.Keeps after := by
  cases queueQuarantinedObservationReplay_replayed replayed with
  | unchanged => exact ⟨lockstep,fun _ => id⟩
  | requeued quarantine ledger after found named located rejected written =>
      exact requeueEvent_lockstep lockstep rfl written

theorem requeueEvent_consistent {ledger : RfidObservationEventLedger}
    {event : RfidObservationEvent} :
    requeueEvent ingress ledger event ≠ .error quarantineEventStateInconsistent := by
  intro failed
  unfold requeueEvent at failed
  dsimp only at failed
  split at failed
  · exact absurd (Except.error.inj failed) (by decide)
  · split at failed
    · cases failed
    · exact absurd (Except.error.inj failed) (by decide)

/-- The replay command never finds a published row of a pending event. -/
theorem Ingress.Lockstep.consistent (lockstep : ingress.Lockstep) (registry : Registry)
    (quarantineId : Uuid) : queueQuarantinedObservationReplay registry ingress quarantineId ≠
      .error quarantineEventStateInconsistent := by
  intro failed
  unfold queueQuarantinedObservationReplay at failed
  split at failed
  · exact absurd (Except.error.inj failed) (by decide)
  · split at failed
    · exact absurd (Except.error.inj failed) (by decide)
    · split at failed
      · rename_i ledger row ledgerFound rowFound
        split at failed
        · cases failed
        · rename_i pending
          split at failed
          · rename_i published
            rw [(lockstep.pending _ ledger row ledgerFound rowFound).mp pending] at published
            cases published
          · cases failed
        · rcases bind_eq_error.mp failed with refused | ⟨_,_,refused⟩
          · exact requeueEvent_consistent refused
          · cases refused
      · exact absurd (Except.error.inj failed) (by decide)

end Replay

section Runs

variable {platform : Platform} {settings : Settings}

structure Ingress.Accounted (ingress : Ingress) (eventId : EventId) : Prop where
  ledger : (ingress.ledger.select fun row => decide (row.eventId = eventId)).length = 1
  outbox : (ingress.outbox.select fun row => decide (row.eventId = eventId)).length = 1
  quarantine :
    (ingress.quarantine.select fun row => decide (row.eventId = some eventId)).length ≤ 1
  pending : ∀ ledger ∈ ingress.ledger.rows, ∀ row ∈ ingress.outbox.rows,
    ledger.eventId = eventId → row.eventId = eventId →
      (ledger.processingStatus = .pending ↔ row.publishedAt = none)
  links : ∀ link ∈ ingress.links.rows, ∀ ledger ∈ ingress.ledger.rows, link.eventId = eventId →
    ledger.eventId = eventId → link.processingStatus = ledger.processingStatus ∧
      link.disposition = ledger.disposition ∧ link.rejectionReason = ledger.rejectionReason

theorem quarantinedOnce.length_le_one {quarantine : Table RfidQuarantine.id}
    (once : quarantinedOnce quarantine) (eventId : EventId) :
    (quarantine.select fun row => decide (row.eventId = some eventId)).length ≤ 1 := by
  have distinct : (quarantine.select fun row => decide (row.eventId = some eventId)).Nodup :=
    (List.Nodup.of_map RfidQuarantine.id quarantine.unique).filter _
  have same : ∀ first ∈ quarantine.select fun row => decide (row.eventId = some eventId),
      ∀ second ∈ quarantine.select fun row => decide (row.eventId = some eventId),
        first = second := by
    intro first firstMember second secondMember
    obtain ⟨firstRow,firstKey⟩ := Table.mem_select.mp firstMember
    obtain ⟨secondRow,secondKey⟩ := Table.mem_select.mp secondMember
    exact once first firstRow second secondRow eventId (of_decide_eq_true firstKey)
      (of_decide_eq_true secondKey)
  match rows : quarantine.select fun row => decide (row.eventId = some eventId) with
  | [] => exact Nat.zero_le 1
  | [_] => exact Nat.le_refl 1
  | first :: second :: rest =>
      rw [rows] at distinct same
      have equal := same first (List.mem_cons_self ..) second
        (List.mem_cons_of_mem _ (List.mem_cons_self ..))
      rw [equal] at distinct
      exact absurd (List.mem_cons_self ..) (List.nodup_cons.mp distinct).1

theorem Ingress.Lockstep.accounted {ingress : Ingress} (lockstep : ingress.Lockstep)
    {eventId : EventId} (stored : (ingress.ledger.find? eventId).isSome = true) :
    ingress.Accounted eventId := by
  obtain ⟨ledger,ledgerFound⟩ := Option.isSome_iff_exists.mp stored
  obtain ⟨row,rowFound⟩ := lockstep.row ledgerFound
  refine ⟨Table.length_select_key ledgerFound,Table.length_select_key rowFound,
    lockstep.once.length_le_one eventId,?_,?_⟩
  · rintro ledger ledgerMember row rowMember rfl keyed
    exact lockstep.pending _ ledger row (Table.find?_of_mem ledgerMember)
      (by rw [← keyed]; exact Table.find?_of_mem rowMember)
  · rintro link linkMember ledger ledgerMember keyed rfl
    obtain ⟨found,located,same⟩ := lockstep.linked link linkMember
    rw [keyed,Table.find?_of_mem ledgerMember] at located
    cases located
    exact ⟨congrArg Outcome.processingStatus same,congrArg Outcome.disposition same,
      congrArg Outcome.rejectionReason same⟩

theorem observationEvents_eventIds {registry : Registry} {request : ObservationBatchCreate}
    {batchId : Uuid} {receivedAt : Time} {assignments : List DeviceAssignment}
    {observations : List ObservationInput} {events : List RfidObservationEvent}
    (resolved : observationEvents registry request batchId receivedAt assignments observations =
      .ok events) :
    events.map RfidObservationEvent.eventId = observations.map ObservationInput.eventId := by
  induction observations generalizing events with
  | nil =>
      cases resolved
      rfl
  | cons observation observations ih =>
      obtain ⟨assignment,-,resolved⟩ := bind_eq_ok.mp resolved
      obtain ⟨rest,tail,done⟩ := bind_eq_ok.mp resolved
      cases done
      rw [List.map_cons,List.map_cons,ih tail]
      rfl

/-- An accepted batch is stored, and every event id of its request has a ledger row. -/
theorem acceptObservationBatch_lockstep {registry : Registry} {ingress after : Ingress}
    {connectivity connectivity' : Connectivity} {device : Device} {request : ObservationBatchCreate}
    {receivedAt : Time} {batchId : Uuid} (lockstep : ingress.Lockstep)
    (accepted : acceptObservationBatch platform registry ingress connectivity device request
      receivedAt batchId = .ok (after,connectivity')) :
    after.Lockstep ∧ ingress.Keeps after ∧
      ∀ eventId ∈ request.observations.map ObservationInput.eventId,
        (after.ledger.find? eventId).isSome = true := by
  unfold acceptObservationBatch at accepted
  split at accepted
  · cases accepted
  · obtain ⟨current,-,accepted⟩ := bind_eq_ok.mp accepted
    obtain ⟨events,resolved,accepted⟩ := bind_eq_ok.mp accepted
    obtain ⟨stored,written,accepted⟩ := bind_eq_ok.mp accepted
    obtain ⟨locked,-,done⟩ := bind_eq_ok.mp accepted
    cases done
    obtain ⟨inserted,ledgers,accepts⟩ := storeObservationBatch_accepts written
    refine ⟨lockstep.accept accepts,?_,?_⟩
    · intro eventId known
      rw [Table.find?_append accepts.ledger,Option.isSome_or,known,Bool.true_or]
    · intro eventId member
      rw [← observationEvents_eventIds resolved] at member
      obtain ⟨event,listed,rfl⟩ := List.mem_map.mp member
      exact accepts.complete event listed

/-- The tables are in lockstep and no accepted event is lost. -/
structure RawState.Sound (state : RawState) : Prop where
  lockstep : state.database.ingress.Lockstep
  stored : ∀ eventId ∈ state.accepted,
    (state.database.ingress.ledger.find? eventId).isSome = true

theorem RawState.next_sound {state : RawState} (sound : state.Sound) (event : RawEvent) :
    (state.next platform settings event).Sound := by
  cases event with
  | accept device request receivedAt batchId =>
      change (state.accept platform device request receivedAt batchId).Sound
      unfold RawState.accept
      split
      · exact sound
      · rename_i ingress connectivity accepted
        obtain ⟨lockstep,keeps,complete⟩ := acceptObservationBatch_lockstep sound.lockstep accepted
        refine ⟨lockstep,fun eventId member => ?_⟩
        rcases List.mem_append.mp member with old | new
        · exact keeps eventId (sound.stored eventId old)
        · exact complete eventId new
  | handle eventId clock quarantineId evidenceId =>
      change (state.handle platform settings eventId clock quarantineId evidenceId).Sound
      unfold RawState.handle
      split
      · exact sound
      · rename_i database recent handled
        obtain ⟨lockstep,keeps⟩ := handleRaw_lockstep sound.lockstep handled
        exact ⟨lockstep,fun other member => keeps other (sound.stored other member)⟩
  | fail eventId error progress quarantineId now =>
      change (state.fail settings eventId error progress quarantineId now).Sound
      unfold RawState.fail
      split
      · exact sound
      · dsimp only
        split
        · exact ⟨sound.lockstep,sound.stored⟩
        · rename_i ingress failed
          obtain ⟨lockstep,keeps⟩ := failRaw_lockstep sound.lockstep failed
          exact ⟨lockstep,fun other member => keeps other (sound.stored other member)⟩
  | replay quarantineId =>
      change (state.replay quarantineId).Sound
      unfold RawState.replay
      split
      · exact sound
      · rename_i result ingress replayed
        obtain ⟨lockstep,keeps⟩ :=
          queueQuarantinedObservationReplay_lockstep sound.lockstep replayed
        exact ⟨lockstep,fun other member => keeps other (sound.stored other member)⟩
  | restart recent => exact ⟨sound.lockstep,sound.stored⟩
  | register registry => exact ⟨sound.lockstep,sound.stored⟩
  | elsewhere connectivity inventory replenishment policies =>
      exact ⟨sound.lockstep,sound.stored⟩

theorem rawEvents_sound {state : RawState}
    (reachable : (rawEvents platform settings).Reachable state) : state.Sound := by
  refine Machine.Reachable.invariant ?_ ?_ reachable
  · rintro start ⟨empty,none_accepted⟩
    refine ⟨?_,fun eventId member => ?_⟩
    · rw [empty]
      exact Ingress.empty_lockstep
    · rw [none_accepted] at member
      cases member
  · intro before event after sound taken
    cases taken
    exact RawState.next_sound sound event

/-- Every accepted event has one ledger row and one outbox row in lockstep, so the replay command
never finds them inconsistent. -/
theorem raw_events_in_lockstep (platform : Platform) (settings : Settings) {state : RawState}
    (reachable : (rawEvents platform settings).Reachable state) :
    (∀ eventId ∈ state.accepted, state.database.ingress.Accounted eventId) ∧
      ∀ quarantineId, queueQuarantinedObservationReplay state.database.registry
        state.database.ingress quarantineId ≠ .error quarantineEventStateInconsistent :=
  ⟨fun eventId member => (rawEvents_sound reachable).lockstep.accounted
      ((rawEvents_sound reachable).stored eventId member),
    (rawEvents_sound reachable).lockstep.consistent state.database.registry⟩

end Runs

namespace Sample

def rawStart : RawState := ⟨database,emptyRecent,[]⟩

/-- A read is accepted, fails for good, is replayed, handled, and sent again in a second batch. -/
def replayed : List RawEvent :=
  [.accept ⟨backroomReader,.active⟩ (batch backroomReader "a" 1000000) 1000000 100,
   .fail "a" "RuntimeError: lost connection" .untouched 200 2000000,
   .replay 200,
   .handle "a" (clock 3000000) 201 300,
   .accept ⟨backroomReader,.active⟩ (batch backroomReader "a" 1000000) 4000000 101]

def rawRun (events : List RawEvent) : RawState :=
  ((rawEvents platform settings).run rawStart events).getD rawStart

end Sample

theorem raw_events_in_lockstep_sample :
    ((Sample.rawRun Sample.replayed).database.ingress.links.rows.map
        RfidObservationBatchEvent.processingStatus = [.processed,.processed]) ∧
      (∀ eventId ∈ (Sample.rawRun Sample.replayed).accepted,
        (Sample.rawRun Sample.replayed).database.ingress.Accounted eventId) ∧
      ∀ quarantineId, queueQuarantinedObservationReplay
        (Sample.rawRun Sample.replayed).database.registry
        (Sample.rawRun Sample.replayed).database.ingress quarantineId ≠
          .error quarantineEventStateInconsistent :=
  ⟨by decide +kernel,raw_events_in_lockstep Sample.platform Sample.settings
    ⟨Sample.rawStart,Sample.replayed,⟨rfl,rfl⟩,rfl⟩⟩

end Abacus

import Abacus.Ingress.Passes
import Abacus.Ingress.Mirrors
import Abacus.Inventory.Verdicts

/-! What one attempt at a raw row changes: its own row, its own event, and nothing of other events. -/
set_option autoImplicit false

namespace Abacus

open Relational (Table)

section Frames

variable {ingress middle after : Ingress} {eventId : EventId}

structure Ingress.Spares (ingress after : Ingress) (eventId : EventId) : Prop where
  outbox : ∀ other, other ≠ eventId → after.outbox.find? other = ingress.outbox.find? other
  ledger : ∀ other, other ≠ eventId → after.ledger.find? other = ingress.ledger.find? other
  quarantine : ∀ row ∈ ingress.quarantine.rows, row ∈ after.quarantine.rows

theorem Ingress.Spares.refl (ingress : Ingress) (eventId : EventId) :
    ingress.Spares ingress eventId :=
  ⟨fun _ _ => rfl,fun _ _ => rfl,fun _ => id⟩

structure Ingress.Settles (ingress after : Ingress) (eventId : EventId) (outcome : Outcome) :
    Prop where
  ledger : after.ledger = (ingress.settleEvent eventId outcome).ledger
  outbox : after.outbox = ingress.outbox
  quarantine : ∀ row ∈ ingress.quarantine.rows, row ∈ after.quarantine.rows

def rejection (reason : RejectionReason) (finalizedAt : Time) : Outcome where
  processingStatus := .rejected
  disposition := some .quarantined
  rejectionReason := some reason
  at? := some finalizedAt

theorem advanceBatch_settles {rejected : Bool} {disposition : Disposition}
    {reason : Option RejectionReason} {finalizedAt : Time} (awaits : ingress.Awaits eventId)
    (advanced : advanceBatch ingress eventId rejected disposition reason finalizedAt = .ok after) :
    ingress.Settles after eventId {
      processingStatus := if rejected then .rejected else .processed
      disposition := some disposition
      rejectionReason := if rejected then reason else none
      at? := some finalizedAt } ∧ after.quarantine = ingress.quarantine := by
  obtain ⟨ledger,found,pending⟩ := awaits
  unfold advanceBatch at advanced
  rw [found] at advanced
  dsimp only at advanced
  rw [if_neg (not_not.mpr pending)] at advanced
  obtain ⟨outcome,same⟩ : ∃ outcome : Outcome, outcome = {
      processingStatus := if rejected then .rejected else .processed
      disposition := some disposition
      rejectionReason := if rejected then reason else none
      at? := some finalizedAt } := ⟨_,rfl⟩
  rw [← same] at advanced ⊢
  split at advanced
  · cases advanced
    exact ⟨⟨rfl,rfl,fun _ => id⟩,rfl⟩
  · cases advanced

theorem recordQuarantine_records {event : RfidObservationEvent} {reason : RejectionReason}
    {payload : StoredPayload} {quarantineId : Uuid} {quarantinedAt : Time}
    (recorded : ingress.recordQuarantine event reason payload quarantineId quarantinedAt =
      .ok after) :
    (∀ row ∈ ingress.quarantine.rows, row ∈ after.quarantine.rows) ∧
      ∃ row ∈ after.quarantine.rows, row.eventId = some event.eventId := by
  unfold Ingress.recordQuarantine at recorded
  split at recorded
  · rename_i known
    cases recorded
    obtain ⟨row,member,same⟩ := List.any_eq_true.mp known
    exact ⟨fun _ => id,row,member,of_decide_eq_true same⟩
  · obtain ⟨quarantine,inserted,done⟩ := bind_eq_ok.mp recorded
    cases done
    rw [orIntegrityError_eq_ok] at inserted
    refine ⟨fun row member => (Table.mem_insert inserted).mpr (.inl member),_,
      (Table.mem_insert inserted).mpr (.inr rfl),rfl⟩

theorem quarantineObservation_settles {event : RfidObservationEvent} {reason : RejectionReason}
    {payload : StoredPayload} {quarantineId : Uuid} {finalizedAt : Time}
    (awaits : ingress.Awaits event.eventId)
    (quarantined : quarantineObservation ingress event reason payload quarantineId finalizedAt =
      .ok after) :
    ingress.Settles after event.eventId (rejection reason finalizedAt) ∧
      ∃ row ∈ after.quarantine.rows, row.eventId = some event.eventId := by
  obtain ⟨middle,recorded,advanced⟩ := bind_eq_ok.mp quarantined
  obtain ⟨ledger,-,outbox,-⟩ := recordQuarantine_spec recorded
  obtain ⟨kept,known⟩ := recordQuarantine_records recorded
  have waiting : middle.Awaits event.eventId := by
    rw [Ingress.Awaits,ledger]
    exact awaits
  obtain ⟨settles,same⟩ := advanceBatch_settles waiting advanced
  refine ⟨⟨?_,settles.outbox.trans outbox,fun row member => settles.quarantine row (kept row member)⟩,
    by rw [same]; exact known⟩
  rw [settles.ledger,Ingress.settleEvent,Ingress.settleEvent]
  simp only [ledger]
  rfl

theorem processObservation_settles {platform : Platform} {settings : Settings}
    {db finished : Database} {recent recent' : RecentObservationState}
    {event : RfidObservationEvent} {clock : Clock} {quarantineId evidenceId : Uuid}
    {result : ProcessingResult} (awaits : db.ingress.Awaits event.eventId)
    (processed : processObservation platform settings db recent event clock quarantineId evidenceId =
      .ok (result,finished,recent')) :
    ∃ outcome, db.ingress.Settles finished.ingress event.eventId outcome := by
  cases processObservation_attempted processed with
  | duplicate ingress finalized => exact ⟨_,(advanceBatch_settles awaits finalized).1⟩
  | rejected reason connectivity ingress heard quarantined =>
      exact ⟨_,(quarantineObservation_settles awaits quarantined).1⟩
  | located assignment connectivity binding evidenceStart effect ingress heard bound verdict
      finalized => exact ⟨_,(advanceBatch_settles awaits finalized).1⟩

/-- One row of the outbox is changed after its event was settled. -/
theorem Ingress.Settles.spares {outcome : Outcome} (settles : ingress.Settles middle eventId outcome)
    {change : RfidObservationOutbox → RfidObservationOutbox}
    (keeps : ∀ row, (change row).eventId = row.eventId) :
    ingress.Spares { middle with outbox := middle.outbox.modify eventId change keeps } eventId where
  outbox other apart := by
    rw [Table.find?_modify,if_neg apart,settles.outbox]
  ledger other apart := by
    change middle.ledger.find? other = ingress.ledger.find? other
    rw [settles.ledger,settleEvent_find?,if_neg apart]
  quarantine := settles.quarantine

end Frames

section Rows

variable {ingress middle after : Ingress} {eventId : EventId} {row : RfidObservationOutbox}

structure Ingress.Advances (ingress after : Ingress) (eventId : EventId)
    (row later : RfidObservationOutbox) : Prop where
  spares : ingress.Spares after eventId
  stored : after.outbox.find? eventId = some later
  attempts : later.publishAttempts = row.publishAttempts + 1
  total : ∀ weight : RfidObservationOutbox → ℕ,
    after.outbox.total weight + weight row = ingress.outbox.total weight + weight later

structure Ingress.Exhausted (ingress : Ingress) (settings : Settings) (eventId : EventId) :
    Prop where
  row : ∃ row, ingress.outbox.find? eventId = some row ∧ row.publishedAt.isSome = true ∧
    row.publishAttempts = settings.workerMaxAttempts
  ledger : ∃ ledger, ingress.ledger.find? eventId = some ledger ∧
    ledger.processingStatus = .rejected ∧ ledger.disposition = some .quarantined ∧
    ledger.rejectionReason = some .processingAttemptsExhausted
  quarantine : ∃ row ∈ ingress.quarantine.rows, row.eventId = some eventId

theorem unpublishedRow_eq_some : unpublishedRow ingress eventId = some row ↔
    ingress.outbox.find? eventId = some row ∧ row.publishedAt = none := by
  rw [unpublishedRow,Option.filter_eq_some_iff,Option.isNone_iff_eq_none]

theorem handleRaw_advances {platform : Platform} {settings : Settings} {db finished : Database}
    {recent recent' : RecentObservationState} {clock : Clock} {quarantineId evidenceId : Uuid}
    (lockstep : db.ingress.Lockstep) (unpublished : unpublishedRow db.ingress eventId = some row)
    (handled : handleRaw platform settings db recent eventId clock quarantineId evidenceId =
      .ok (finished,recent')) :
    db.ingress.Advances finished.ingress eventId row (row.publish clock.finalized) := by
  obtain ⟨member,keyed,ledger,located,pending⟩ := lockstep.awaits unpublished
  have stored := (unpublishedRow_eq_some.mp unpublished).1
  unfold handleRaw at handled
  rw [unpublished] at handled
  dsimp only at handled
  split at handled
  · cases handled
  · rename_i event payload
    have addressed : event.eventId = eventId :=
      (lockstep.addressed row member event payload).trans keyed
    rw [keyed,located] at handled
    dsimp only at handled
    rw [if_pos pending] at handled
    obtain ⟨⟨result,database,memory⟩,observed,done⟩ := bind_eq_ok.mp handled
    cases done
    have awaits : db.ingress.Awaits event.eventId := by
      rw [addressed]
      exact ⟨ledger,located,pending⟩
    obtain ⟨outcome,settles⟩ := processObservation_settles awaits observed
    rw [addressed] at settles
    have keeps := fun row => RfidObservationOutbox.publish_eventId row clock.finalized
    refine ⟨settles.spares keeps,?_,rfl,?_⟩
    · change (database.ingress.outbox.modify eventId _ keeps).find? eventId = _
      rw [Table.find?_modify,if_pos rfl,settles.outbox,stored]
      rfl
    · intro weight
      have moved := Table.total_modify keeps stored weight
      rw [← settles.outbox] at moved ⊢
      exact moved

theorem countFailure_advances (error : String)
    (unpublished : unpublishedRow ingress eventId = some row) :
    ingress.Advances (ingress.countFailure eventId error) eventId row (row.countFailure error) := by
  have stored := (unpublishedRow_eq_some.mp unpublished).1
  have keeps := fun row => RfidObservationOutbox.countFailure_eventId row error
  refine ⟨⟨fun other apart => ?_,fun _ _ => rfl,fun _ => id⟩,?_,rfl,Table.total_modify keeps stored⟩
  · change (ingress.outbox.modify eventId _ keeps).find? other = ingress.outbox.find? other
    rw [Table.find?_modify,if_neg apart]
  · change (ingress.outbox.modify eventId _ keeps).find? eventId = _
    rw [Table.find?_modify,if_pos rfl,stored]
    rfl

/-- An exhausted event is rejected, quarantined and published. -/
theorem terminalize_advances {settings : Settings} {error : String} {event : RfidObservationEvent}
    {payload : StoredPayload} {quarantineId : Uuid} {now : Time}
    (unpublished : unpublishedRow ingress eventId = some row)
    (awaits : ingress.Awaits event.eventId) (addressed : event.eventId = eventId)
    (exhausts : row.publishAttempts + 1 = settings.workerMaxAttempts)
    (quarantined : quarantineObservation (ingress.countFailure eventId error) event
      .processingAttemptsExhausted payload quarantineId now = .ok middle)
    (done : after = { middle with
      outbox := middle.outbox.modify eventId (fun row => row.terminalize now)
        (fun row => row.terminalize_eventId now) }) :
    ingress.Advances after eventId row ((row.countFailure error).terminalize now) ∧
      after.Exhausted settings eventId := by
  subst done addressed
  have waiting : (ingress.countFailure event.eventId error).Awaits event.eventId := awaits
  obtain ⟨settles,known⟩ := quarantineObservation_settles waiting quarantined
  have counted := countFailure_advances error unpublished
  have keeps := fun row => RfidObservationOutbox.terminalize_eventId row now
  have spared := settles.spares keeps
  have placed : (middle.outbox.modify event.eventId (fun row => row.terminalize now) keeps).find?
      event.eventId = some ((row.countFailure error).terminalize now) := by
    rw [Table.find?_modify,if_pos rfl,settles.outbox,counted.stored]
    rfl
  have weighed : ∀ weight : RfidObservationOutbox → ℕ,
      (middle.outbox.modify event.eventId (fun row => row.terminalize now) keeps).total weight +
        weight row =
      ingress.outbox.total weight + weight ((row.countFailure error).terminalize now) := by
    intro weight
    have first := counted.total weight
    have second := Table.total_modify keeps counted.stored weight
    rw [← settles.outbox] at first second
    omega
  obtain ⟨ledger,located,-⟩ := awaits
  refine ⟨⟨⟨?_,?_,?_⟩,placed,rfl,weighed⟩,⟨_,placed,rfl,exhausts⟩,
    ⟨ledger.settle (rejection .processingAttemptsExhausted now),?_,rfl,rfl,rfl⟩,known⟩
  · intro other apart
    rw [spared.outbox other apart,counted.spares.outbox other apart]
  · intro other apart
    rw [spared.ledger other apart,counted.spares.ledger other apart]
  · intro quarantine member
    exact spared.quarantine quarantine (counted.spares.quarantine quarantine member)
  · change middle.ledger.find? event.eventId = _
    rw [settles.ledger,settleEvent_find?,if_pos rfl]
    change Option.map _ (ingress.ledger.find? event.eventId) = _
    rw [located]
    rfl

/-- The bookkeeping of a failure either counts it or exhausts the event. -/
theorem failRaw_advances {settings : Settings} {registry : Registry} {error : String}
    {quarantineId : Uuid} {now : Time} (lockstep : ingress.Lockstep)
    (unpublished : unpublishedRow ingress eventId = some row)
    (within : row.publishAttempts < settings.workerMaxAttempts)
    (failed : failRaw settings registry ingress eventId error quarantineId now = .ok after) :
    ∃ later, ingress.Advances after eventId row later ∧
      (row.publishAttempts + 1 < settings.workerMaxAttempts ∧ later.publishedAt = none ∨
        row.publishAttempts + 1 = settings.workerMaxAttempts ∧ later.publishedAt.isSome = true ∧
          after.Exhausted settings eventId) := by
  obtain ⟨member,keyed,awaits⟩ := lockstep.awaits unpublished
  unfold failRaw at failed
  rw [unpublished] at failed
  dsimp only at failed
  by_cases exhausts : settings.workerMaxAttempts ≤ row.publishAttempts + 1
  · rw [if_pos exhausts] at failed
    obtain ⟨event,terminal,failed⟩ := bind_eq_ok.mp failed
    obtain ⟨quarantined,rejected,done⟩ := bind_eq_ok.mp failed
    have addressed : event.eventId = eventId :=
      (terminalEvent_eventId (lockstep.addressed row member) terminal).trans keyed
    have waiting : ingress.Awaits event.eventId := by
      rw [addressed]
      exact awaits
    have last : row.publishAttempts + 1 = settings.workerMaxAttempts := by omega
    obtain ⟨advances,exhausted⟩ := terminalize_advances unpublished waiting addressed last rejected
      (Except.ok.inj done).symm
    exact ⟨_,advances,.inr ⟨last,rfl,exhausted⟩⟩
  · rw [if_neg exhausts] at failed
    cases failed
    exact ⟨_,countFailure_advances error unpublished,
      .inl ⟨by omega,(unpublishedRow_eq_some.mp unpublished).2⟩⟩

end Rows

end Abacus

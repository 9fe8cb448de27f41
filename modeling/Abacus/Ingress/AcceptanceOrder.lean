import Abacus.Ingress.Attempts
import Abacus.Library.Ranking
import Abacus.Model.Acceptances
import Abacus.Model.Sample

/-! Whether raw events are handled in the order of their acceptance numbers, when acceptances and
worker passes interleave.
-/
set_option autoImplicit false

namespace Abacus

open Relational (Table)
open Transition (Machine)

section Alone

variable {platform : Platform} {registry : Registry} {ingress : Ingress}
  {connectivity : Connectivity} {device : Device} {request : ObservationBatchCreate}
  {receivedAt : Time} {batchId : Uuid} {finished : Ingress × Connectivity}

/-- All statements of an acceptance one after the other, with nothing in between. -/
def Acceptance.alone (platform : Platform) (registry : Registry) (ingress : Ingress)
    (connectivity : Connectivity) (device : Device) (request : ObservationBatchCreate)
    (receivedAt : Time) (batchId : Uuid) : Attempt (Ingress × Connectivity) := do
  let started ← Acceptance.start registry device request receivedAt batchId
  let locked ← (started.insertLedger platform ingress).lockLedger platform ingress
  let (queued,ingress) := locked.queueOutbox ingress
  let acceptance ← queued.lockConnectivity registry.stores connectivity
  acceptance.commit registry.stores ingress connectivity

def Reconciles (platform : Platform) (events : List RfidObservationEvent)
    (ledgers : List RfidObservationEventLedger) : Prop :=
  ledgers.length = events.length ∧ sameObservations platform events ledgers = true

variable {acceptance advanced : Acceptance} {stores : Table Store.id}

theorem Acceptance.lockLedger_eq_ok : acceptance.lockLedger platform ingress = .ok advanced ↔
    ∃ ledgers, ledgers = (ingress.ledger.select (fun row =>
        decide (row.eventId ∈ acceptance.eventIds)) ++ acceptance.inserted).insertionSort
          (fun left right => left.eventId ≤ right.eventId) ∧
      Reconciles platform acceptance.events ledgers ∧
        { acceptance with stage := .locked, ledgers } = advanced := by
  rw [exists_eq_left]
  unfold Acceptance.lockLedger Reconciles
  dsimp only
  split
  · next incomplete =>
      constructor
      · exact nofun
      · exact fun stored => absurd stored.1.1 incomplete
  · next complete =>
      split
      · next conflicting =>
          constructor
          · exact nofun
          · intro stored
            rw [stored.1.2] at conflicting
            cases conflicting
      · next same =>
          rw [Except.ok.injEq]
          exact ⟨fun equal => ⟨⟨not_not.mp complete,by simpa using same⟩,equal⟩,
            fun stored => stored.2⟩

theorem Acceptance.commit_eq_ok : acceptance.commit stores ingress connectivity = .ok finished ↔
    ∃ batches ledger links outbox received,
      ingress.batches.insert acceptance.batch = some batches ∧
      ingress.ledger.insertMany acceptance.inserted = some ledger ∧
      ingress.links.insertMany (acceptance.ledgers.map fun row => row.link acceptance.batch.id) =
        some links ∧
      ingress.outbox.insertMany acceptance.rows = some outbox ∧
      acceptance.receive stores connectivity = .ok received ∧
      ({ ingress with
          batches := batches.modify acceptance.batch.id
            (fun row => row.initialOutcome acceptance.ledgers acceptance.receivedAt)
            (fun row => row.initialOutcome_id acceptance.ledgers acceptance.receivedAt)
          ledger
          links
          outbox },received.1) = finished := by
  simp only [Acceptance.commit,bind_eq_ok,orIntegrityError_eq_ok,pure,Except.pure,Except.ok.injEq]
  constructor
  · rintro ⟨batches,first,ledger,second,links,third,outbox,fourth,received,fifth,same⟩
    exact ⟨batches,ledger,links,outbox,received,first,second,third,fourth,fifth,same⟩
  · rintro ⟨batches,ledger,links,outbox,received,first,second,third,fourth,fifth,same⟩
    exact ⟨batches,first,ledger,second,links,third,outbox,fourth,received,fifth,same⟩

theorem storeObservationBatch_eq_ok {batch : RfidObservationBatch}
    {events : List RfidObservationEvent} {after : Ingress} {new : Table _ × List _}
    (inserted : ingress.ledger.insertManyNew
      ((events.insertionSort fun left right => left.eventId ≤ right.eventId).map
        fun event => event.ledgerRow platform) = new) :
    storeObservationBatch platform ingress batch events receivedAt = .ok after ↔
    ∃ batches ledgers links outbox,
      ingress.batches.insert batch = some batches ∧
      ledgers = (new.1.select (fun row =>
        decide (row.eventId ∈ events.map RfidObservationEvent.eventId))).insertionSort
          (fun left right => left.eventId ≤ right.eventId) ∧
      Reconciles platform events ledgers ∧
      ingress.links.insertMany (ledgers.map fun row => row.link batch.id) = some links ∧
      ingress.outbox.insertMany (outboxRows (events.filter fun event =>
        decide (event.eventId ∈ new.2.map RfidObservationEventLedger.eventId))
          ingress.acceptanceSequence) = some outbox ∧
      { ingress with
        batches := batches.modify batch.id (fun row => row.initialOutcome ledgers receivedAt)
          (fun row => row.initialOutcome_id ledgers receivedAt)
        ledger := new.1
        links
        outbox
        acceptanceSequence := ingress.acceptanceSequence + (events.filter fun event =>
          decide (event.eventId ∈ new.2.map RfidObservationEventLedger.eventId)).length } =
        after := by
  unfold storeObservationBatch Reconciles
  rw [bind_eq_ok,inserted]
  dsimp only
  constructor
  · rintro ⟨batches,first,stored⟩
    rw [orIntegrityError_eq_ok] at first
    split at stored
    · cases stored
    · next complete =>
        split at stored
        · cases stored
        · next same =>
            simp only [bind_eq_ok,orIntegrityError_eq_ok,pure,Except.pure,Except.ok.injEq] at stored
            obtain ⟨links,second,outbox,third,equal⟩ := stored
            exact ⟨batches,_,links,outbox,first,rfl,⟨not_not.mp complete,by simpa using same⟩,
              second,third,equal⟩
  · rintro ⟨batches,_,links,outbox,first,rfl,⟨complete,same⟩,second,third,equal⟩
    refine ⟨batches,orIntegrityError_eq_ok.mpr first,?_⟩
    rw [if_neg (not_not.mpr complete),if_neg (by rw [same]; exact Bool.false_ne_true)]
    simp only [bind_eq_ok,orIntegrityError_eq_ok,pure,Except.pure,Except.ok.injEq]
    exact ⟨links,second,outbox,third,equal⟩

theorem Acceptance.read_eq (opened : Acceptance) :
    ((ingress.ledger.insertManyNew ((opened.events.insertionSort fun left right =>
        left.eventId ≤ right.eventId).map fun event =>
          event.ledgerRow platform)).1.select fun row =>
            decide (row.eventId ∈ opened.events.map RfidObservationEvent.eventId)) =
      (ingress.ledger.select fun row => decide (row.eventId ∈ opened.eventIds)) ++
        (opened.insertLedger platform ingress).inserted := by
  apply Table.select_insertManyNew
  intro row member
  obtain ⟨event,sorted,rfl⟩ := List.mem_map.mp member
  exact decide_eq_true (List.mem_map_of_mem ((List.mem_insertionSort _).mp sorted))

/-- The statements of an opened acceptance that nothing interleaves with. -/
theorem Acceptance.stored_alone (opened : Acceptance) :
    (∃ locked, (opened.insertLedger platform ingress).lockLedger platform ingress = .ok locked ∧
      ∃ received, (locked.queueOutbox ingress).1.lockConnectivity stores connectivity =
          .ok received ∧
        received.commit stores (locked.queueOutbox ingress).2 connectivity = .ok finished) ↔
    ∃ after, storeObservationBatch platform ingress opened.batch opened.events opened.receivedAt =
        .ok after ∧
      ∃ heard, opened.receive stores connectivity = .ok heard ∧ (after,heard.1) = finished := by
  constructor
  · rintro ⟨locked,read,received,heard,committed⟩
    obtain ⟨ledgers,listed,reconciles,rfl⟩ := Acceptance.lockLedger_eq_ok.mp read
    obtain ⟨first,-,done⟩ := bind_eq_ok.mp heard
    cases done
    obtain ⟨batches,ledger,links,outbox,last,one,two,three,four,five,rfl⟩ :=
      Acceptance.commit_eq_ok.mp committed
    have stored : some _ = some ledger := (Table.insertMany_insertManyNew _ _).symm.trans two
    cases stored
    refine ⟨_,(storeObservationBatch_eq_ok rfl).mpr ⟨batches,ledgers,links,outbox,one,?_,reconciles,
      three,four,rfl⟩,last,five,rfl⟩
    rw [opened.read_eq]
    exact listed
  · rintro ⟨after,stored,heard,received,rfl⟩
    obtain ⟨batches,ledgers,links,outbox,one,listed,reconciles,three,four,rfl⟩ :=
      (storeObservationBatch_eq_ok rfl).mp stored
    rw [opened.read_eq] at listed
    refine ⟨_,Acceptance.lockLedger_eq_ok.mpr ⟨ledgers,listed,reconciles,rfl⟩,_,
      bind_eq_ok.mpr ⟨heard,received,rfl⟩,Acceptance.commit_eq_ok.mpr ⟨batches,_,links,outbox,heard,
        one,Table.insertMany_insertManyNew _ _,three,four,received,rfl⟩⟩

theorem acceptObservationBatch_eq_ok : acceptObservationBatch platform registry ingress connectivity
      device request receivedAt batchId = .ok finished ↔
    ∃ opened, Acceptance.start registry device request receivedAt batchId = .ok opened ∧
      ∃ after, storeObservationBatch platform ingress opened.batch opened.events opened.receivedAt =
          .ok after ∧
        ∃ heard, opened.receive registry.stores connectivity = .ok heard ∧
          (after,heard.1) = finished := by
  unfold acceptObservationBatch Acceptance.start
  by_cases mismatch : request.deviceId ≠ device.id
  · rw [if_pos mismatch,if_pos mismatch]
    exact ⟨nofun,fun opened => nomatch opened.choose_spec.1⟩
  rw [if_neg mismatch,if_neg mismatch]
  dsimp only
  constructor
  · intro accepted
    obtain ⟨assignment,current,rest⟩ := bind_eq_ok.mp accepted
    obtain ⟨events,listed,rest⟩ := bind_eq_ok.mp rest
    obtain ⟨after,stored,rest⟩ := bind_eq_ok.mp rest
    obtain ⟨heard,received,done⟩ := bind_eq_ok.mp rest
    exact ⟨_,bind_eq_ok.mpr ⟨assignment,current,bind_eq_ok.mpr ⟨events,listed,rfl⟩⟩,after,stored,
      heard,received,Except.ok.inj done⟩
  · rintro ⟨opened,started,after,stored,heard,received,rfl⟩
    obtain ⟨assignment,current,rest⟩ := bind_eq_ok.mp started
    obtain ⟨events,listed,done⟩ := bind_eq_ok.mp rest
    cases done
    exact bind_eq_ok.mpr ⟨assignment,current,bind_eq_ok.mpr ⟨events,listed,bind_eq_ok.mpr
      ⟨after,stored,bind_eq_ok.mpr ⟨heard,received,rfl⟩⟩⟩⟩

/-- An acceptance that nothing interleaves with is the one transaction it is elsewhere. -/
theorem Acceptance.alone_eq_ok : Acceptance.alone platform registry ingress connectivity device
      request receivedAt batchId = .ok finished ↔
    acceptObservationBatch platform registry ingress connectivity device request receivedAt
      batchId = .ok finished := by
  rw [Acceptance.alone,bind_eq_ok,acceptObservationBatch_eq_ok]
  refine exists_congr fun opened => and_congr_right fun _ => ?_
  rw [← opened.stored_alone,bind_eq_ok]
  refine exists_congr fun locked => and_congr_right fun _ => ?_
  exact bind_eq_ok

end Alone

section Publishing

structure RfidObservationOutbox.Continues (row later : RfidObservationOutbox)
    (published : Option EventId) : Prop where
  eventId : later.eventId = row.eventId
  sequence : later.acceptanceSequence = row.acceptanceSequence
  partitionKey : later.partitionKey = row.partitionKey
  publishedAt : later.publishedAt.isSome = true ↔
    row.publishedAt.isSome = true ∨ published = some row.eventId

structure Ingress.Publishes (ingress after : Ingress) (published : Option EventId) : Prop where
  sequence : after.acceptanceSequence = ingress.acceptanceSequence
  kept : ∀ row ∈ ingress.outbox.rows, ∃ later ∈ after.outbox.rows, row.Continues later published
  stored : ∀ later ∈ after.outbox.rows, ∃ row ∈ ingress.outbox.rows, row.Continues later published

variable {ingress middle after : Ingress} {eventId : EventId}

theorem RfidObservationOutbox.Continues.refl {row : RfidObservationOutbox}
    {published : Option EventId} (other : published ≠ some row.eventId) :
    row.Continues row published :=
  ⟨rfl,rfl,rfl,by simp [other]⟩

theorem Ingress.Publishes.of_same (sequence : after.acceptanceSequence = ingress.acceptanceSequence)
    (outbox : after.outbox = ingress.outbox) : ingress.Publishes after none := by
  refine ⟨sequence,?_,?_⟩
  · rw [outbox]
    exact fun row member => ⟨row,member,.refl nofun⟩
  · rw [outbox]
    exact fun row member => ⟨row,member,.refl nofun⟩

theorem Ingress.Publishes.refl (ingress : Ingress) : ingress.Publishes ingress none :=
  .of_same rfl rfl

theorem RfidObservationOutbox.Continues.trans {row second later : RfidObservationOutbox}
    {published : Option EventId} (one : row.Continues second none)
    (two : second.Continues later published) : row.Continues later published := by
  refine ⟨two.eventId.trans one.eventId,two.sequence.trans one.sequence,
    two.partitionKey.trans one.partitionKey,?_⟩
  rw [two.publishedAt,one.publishedAt,one.eventId]
  simp

theorem Ingress.Publishes.trans {published : Option EventId} (one : ingress.Publishes middle none)
    (two : middle.Publishes after published) : ingress.Publishes after published := by
  refine ⟨two.sequence.trans one.sequence,?_,?_⟩
  · intro row member
    obtain ⟨second,stored,first⟩ := one.kept row member
    obtain ⟨later,reached,continues⟩ := two.kept second stored
    exact ⟨later,reached,first.trans continues⟩
  · intro later member
    obtain ⟨second,stored,continues⟩ := two.stored later member
    obtain ⟨row,reached,first⟩ := one.stored second stored
    exact ⟨row,reached,first.trans continues⟩

/-- One row of the outbox is changed. -/
theorem Ingress.Publishes.modify {published : Option EventId}
    {change : RfidObservationOutbox → RfidObservationOutbox}
    (keeps : ∀ row, (change row).eventId = row.eventId)
    (only : ∀ other, published = some other → other = eventId)
    (continues : ∀ row : RfidObservationOutbox, row.eventId = eventId →
      row.Continues (change row) published)
    (sequence : after.acceptanceSequence = ingress.acceptanceSequence)
    (outbox : after.outbox = ingress.outbox.modify eventId change keeps) :
    ingress.Publishes after published := by
  have changed : ∀ row : RfidObservationOutbox, row.Continues
      (if decide (row.eventId = eventId) = true then change row else row) published := by
    intro row
    split
    · next same => exact continues row (of_decide_eq_true same)
    · next other => exact .refl fun same => other (decide_eq_true (only row.eventId same))
  refine ⟨sequence,?_,?_⟩
  · intro row member
    rw [outbox]
    exact ⟨_,List.mem_map_of_mem member,changed row⟩
  · intro later member
    rw [outbox] at member
    obtain ⟨row,stored,rfl⟩ := List.mem_map.mp member
    exact ⟨row,stored,changed row⟩

theorem countFailure_publishes (ingress : Ingress) (eventId : EventId) (error : String) :
    ingress.Publishes (ingress.countFailure eventId error) none :=
  .modify (fun row => row.countFailure_eventId error) nofun
    (fun row _ => ⟨rfl,rfl,rfl,by simp [RfidObservationOutbox.countFailure]⟩) rfl rfl

theorem advanceBatch_outbox {rejected : Bool} {disposition : Disposition}
    {reason : Option RejectionReason} {finalizedAt : Time}
    (advanced : advanceBatch ingress eventId rejected disposition reason finalizedAt = .ok after) :
    after.acceptanceSequence = ingress.acceptanceSequence ∧ after.outbox = ingress.outbox := by
  unfold advanceBatch at advanced
  split at advanced
  · cases advanced
  · dsimp only at advanced
    generalize Outcome.mk _ _ _ _ = outcome at advanced
    split at advanced
    · cases advanced
      exact ⟨rfl,rfl⟩
    · split at advanced
      · cases advanced
        exact ⟨rfl,rfl⟩
      · cases advanced

theorem quarantineObservation_outbox {event : RfidObservationEvent} {reason : RejectionReason}
    {payload : StoredPayload} {quarantineId : Uuid} {finalizedAt : Time}
    (quarantined : quarantineObservation ingress event reason payload quarantineId finalizedAt =
      .ok after) :
    after.acceptanceSequence = ingress.acceptanceSequence ∧ after.outbox = ingress.outbox := by
  obtain ⟨middle,recorded,advanced⟩ := bind_eq_ok.mp quarantined
  obtain ⟨sequence,outbox⟩ := advanceBatch_outbox advanced
  unfold Ingress.recordQuarantine at recorded
  split at recorded
  · cases recorded
    exact ⟨sequence,outbox⟩
  · obtain ⟨quarantine,-,done⟩ := bind_eq_ok.mp recorded
    cases done
    exact ⟨sequence,outbox⟩

theorem processObservation_outbox {platform : Platform} {settings : Settings}
    {db finished : Database} {recent later : RecentObservationState} {event : RfidObservationEvent}
    {clock : Clock} {quarantineId evidenceId : Uuid} {result : ProcessingResult}
    (processed : processObservation platform settings db recent event clock quarantineId
      evidenceId = .ok (result,finished,later)) :
    finished.ingress.acceptanceSequence = db.ingress.acceptanceSequence ∧
      finished.ingress.outbox = db.ingress.outbox := by
  cases processObservation_attempted processed with
  | duplicate ingress finalized => exact advanceBatch_outbox finalized
  | rejected reason connectivity ingress heard quarantined =>
      exact quarantineObservation_outbox quarantined
  | located assignment connectivity binding evidenceStart effect ingress heard bound verdict
      finalized => exact advanceBatch_outbox finalized

/-- Handling a row publishes it, if it was not. -/
theorem handleRaw_publishes {platform : Platform} {settings : Settings} {db finished : Database}
    {recent later : RecentObservationState} {clock : Clock} {quarantineId evidenceId : Uuid}
    (handled : handleRaw platform settings db recent eventId clock quarantineId evidenceId =
      .ok (finished,later)) :
    db.ingress.Publishes finished.ingress
      ((unpublishedRow db.ingress eventId).map RfidObservationOutbox.eventId) := by
  unfold handleRaw at handled
  cases unpublished : unpublishedRow db.ingress eventId with
  | none =>
      rw [unpublished] at handled
      cases handled
      exact .refl _
  | some row =>
      have keyed := Table.key_of_find? (unpublishedRow_eq_some.mp unpublished).1
      rw [unpublished] at handled
      dsimp only at handled
      split at handled
      · cases handled
      · next event payload =>
          split at handled
          · cases handled
          · next ledger located =>
              obtain ⟨reached,same,done⟩ : ∃ reached : Database × RecentObservationState,
                  (reached.1.ingress.acceptanceSequence = db.ingress.acceptanceSequence ∧
                    reached.1.ingress.outbox = db.ingress.outbox) ∧
                  (reached.1.publishRaw eventId clock.finalized,reached.2) = (finished,later) := by
                split at handled
                · obtain ⟨⟨result,reached,remembered⟩,processed,rest⟩ := bind_eq_ok.mp handled
                  exact ⟨(reached,remembered),processObservation_outbox processed,
                    Except.ok.inj rest⟩
                · exact ⟨(db,recent),⟨rfl,rfl⟩,Except.ok.inj handled⟩
              cases done
              refine .modify (fun row => row.publish_eventId clock.finalized) ?_ ?_ same.1
                (congrArg (fun outbox : Table RfidObservationOutbox.eventId =>
                  outbox.modify eventId (fun row => row.publish clock.finalized)
                    (fun row => row.publish_eventId clock.finalized)) same.2)
              · rintro other ⟨⟩
                exact keyed
              · intro other place
                refine ⟨rfl,rfl,rfl,?_⟩
                simp [RfidObservationOutbox.publish,keyed,place]

/-- The bookkeeping of a failure publishes the row of an exhausted event only. -/
theorem failRaw_publishes {settings : Settings} {registry : Registry} {error : String}
    {quarantineId : Uuid} {now : Time}
    (failed : failRaw settings registry ingress eventId error quarantineId now = .ok after) :
    ingress.Publishes after (((unpublishedRow ingress eventId).filter fun row =>
      decide (settings.workerMaxAttempts ≤ row.publishAttempts + 1)).map
        RfidObservationOutbox.eventId) := by
  unfold failRaw at failed
  cases unpublished : unpublishedRow ingress eventId with
  | none =>
      rw [unpublished] at failed
      cases failed
      exact .refl _
  | some row =>
      have keyed := Table.key_of_find? (unpublishedRow_eq_some.mp unpublished).1
      rw [unpublished] at failed
      dsimp only at failed
      rw [Option.filter_some]
      split at failed
      · next exhausted =>
          obtain ⟨event,-,rest⟩ := bind_eq_ok.mp failed
          obtain ⟨quarantined,rejected,done⟩ := bind_eq_ok.mp rest
          obtain ⟨sequence,outbox⟩ := quarantineObservation_outbox rejected
          cases done
          rw [if_pos (decide_eq_true exhausted)]
          refine ((countFailure_publishes ingress eventId error).trans
            (.of_same sequence outbox)).trans ?_
          refine .modify (fun row => row.terminalize_eventId now) ?_ ?_ rfl rfl
          · rintro other ⟨⟩
            exact keyed
          · intro other place
            refine ⟨rfl,rfl,rfl,?_⟩
            simp [RfidObservationOutbox.terminalize,keyed,place]
      · next remaining =>
          cases failed
          rw [if_neg (by simpa using remaining)]
          exact countFailure_publishes ingress eventId error

end Publishing

section Steps

def Carries (accepting later : Table Acceptance.id) : Prop :=
  ∀ acceptance ∈ later.rows, ∀ row ∈ acceptance.rows, ∃ before ∈ accepting.rows, row ∈ before.rows

/-- What a statement can do to the outbox, to the numbers and to the lists of the workers. -/
inductive AcceptanceState.Moves (state : AcceptanceState) : Statement → AcceptanceState → Prop where
  | holds (statement : Statement) (after : AcceptanceState)
      (ingress : after.database.ingress = state.database.ingress)
      (accepting : Carries state.accepting after.accepting)
      (workers : after.workers = state.workers)
      (handled : after.handled = state.handled) : Moves state statement after
  | draws (batchId : Uuid) (acceptance : Acceptance)
      (found : state.accepting.find? batchId = some acceptance) :
      Moves state (.queueOutbox batchId) { state with
        accepting := state.accepting.put (acceptance.queueOutbox state.database.ingress).1
        database := { state.database with
          ingress := (acceptance.queueOutbox state.database.ingress).2 } }
  | commits (batchId : Uuid) (acceptance : Acceptance) (after : AcceptanceState)
      (found : state.accepting.find? batchId = some acceptance)
      (sequence : after.database.ingress.acceptanceSequence =
        state.database.ingress.acceptanceSequence)
      (outbox : state.database.ingress.outbox.insertMany acceptance.rows =
        some after.database.ingress.outbox)
      (accepting : Carries state.accepting after.accepting)
      (workers : after.workers = state.workers)
      (handled : after.handled = state.handled) : Moves state (.commit batchId) after
  | selects (workerId : Uuid) (limit : ℕ) (worker : RawWorker)
      (found : state.workers.find? workerId = some worker) :
      Moves state (.selectRows workerId limit) (state.withWorker { worker with
        selected := pendingRawEvents state.database.ingress limit, attempt := .untaken })
  | stays (statement : Statement) (worker later : RawWorker) (after : AcceptanceState)
      (member : worker ∈ state.workers.rows)
      (selected : later.selected = worker.selected ∨ later.selected = [])
      (publishes : state.database.ingress.Publishes after.database.ingress none)
      (accepting : after.accepting = state.accepting)
      (workers : after.workers = state.workers.put later)
      (handled : after.handled = state.handled) : Moves state statement after
  | proceeds (statement : Statement) (worker later : RawWorker) (eventId : EventId)
      (after : AcceptanceState) (member : worker ∈ state.workers.rows)
      (selected : worker.selected = eventId :: later.selected)
      (publishes : state.database.ingress.Publishes after.database.ingress
        ((unpublishedRow state.database.ingress eventId).map RfidObservationOutbox.eventId))
      (accepting : after.accepting = state.accepting)
      (workers : after.workers = state.workers.put later)
      (handled : after.handled =
        state.handled ++ (unpublishedRow state.database.ingress eventId).toList) :
      Moves state statement after

variable {platform : Platform} {settings : Settings} {state after : AcceptanceState}
  {statement : Statement} {batchId workerId : Uuid}

theorem Carries.refl (accepting : Table Acceptance.id) : Carries accepting accepting :=
  fun acceptance member _ listed => ⟨acceptance,member,listed⟩

theorem Carries.rollback (accepting : Table Acceptance.id) (p : Acceptance → Bool) :
    Carries accepting (accepting.deleteWhere p) :=
  fun acceptance member _ listed => ⟨acceptance,List.mem_of_mem_filter member,listed⟩

theorem Carries.put {accepting : Table Acceptance.id} {acceptance advanced : Acceptance}
    (member : acceptance ∈ accepting.rows) (rows : advanced.rows = acceptance.rows) :
    Carries accepting (accepting.put advanced) := by
  intro other stored row listed
  rcases Table.mem_put.mp stored with rfl | ⟨kept,-⟩
  · exact ⟨acceptance,member,rows ▸ listed⟩
  · exact ⟨other,kept,listed⟩

theorem AcceptanceState.rollback_moves (state : AcceptanceState) (statement : Statement)
    (batchId : Uuid) : state.Moves statement (state.rollback batchId) :=
  .holds _ _ rfl (.rollback _ _) rfl rfl

theorem AcceptanceState.advance_moves {stage : AcceptanceStage}
    {waits : Acceptance → Acceptance → Bool} {step : Acceptance → Attempt Acceptance}
    (rows : ∀ acceptance advanced, step acceptance = .ok advanced →
      advanced.rows = acceptance.rows)
    (taken : state.advance batchId stage waits step = some after) :
    state.Moves statement after := by
  unfold advance at taken
  split at taken
  · cases taken
  · next acceptance found =>
      split at taken
      · cases taken
      · split at taken
        · cases taken
        · split at taken
          · cases taken
            exact state.rollback_moves statement batchId
          · next advanced stepped =>
              cases taken
              exact .holds _ _ rfl (.put (Table.mem_of_find? found) (rows _ _ stepped)) rfl rfl

theorem AcceptanceState.start_moves {device : Device} {request : ObservationBatchCreate}
    {receivedAt : Time} (taken : state.start device request receivedAt batchId = some after) :
    state.Moves statement after := by
  unfold start at taken
  split at taken
  · cases taken
    exact .holds _ _ rfl (.refl _) rfl rfl
  · next opened started =>
      obtain ⟨accepting,inserted,done⟩ := Option.map_eq_some_iff.mp taken
      cases done
      refine .holds _ _ rfl ?_ rfl rfl
      have none_drawn : opened.rows = [] := by
        unfold Acceptance.start at started
        split at started
        · cases started
        · obtain ⟨assignment,-,rest⟩ := bind_eq_ok.mp started
          obtain ⟨events,-,done⟩ := bind_eq_ok.mp rest
          cases done
          rfl
      intro acceptance member row listed
      rcases (Table.mem_insert inserted).mp member with old | rfl
      · exact ⟨acceptance,old,listed⟩
      · rw [none_drawn] at listed
        cases listed

theorem AcceptanceState.commit_moves (taken : state.commit batchId = some after) :
    state.Moves (.commit batchId) after := by
  unfold commit at taken
  split at taken
  · cases taken
  · next acceptance found =>
      split at taken
      · cases taken
      · split at taken
        · cases taken
          exact state.rollback_moves _ batchId
        · next ingress connectivity committed =>
            cases taken
            obtain ⟨batches,ledger,links,outbox,received,-,-,-,stored,-,same⟩ :=
              Acceptance.commit_eq_ok.mp committed
            cases same
            exact .commits batchId acceptance _ found rfl stored (.rollback _ _) rfl rfl

/-- A statement of a worker is one about the first row it selected. -/
theorem AcceptanceState.work_eq_some {attempt : RowAttempt}
    {step : RawWorker → EventId → Option AcceptanceState}
    (taken : state.work workerId attempt step = some after) :
    ∃ worker eventId rest, worker ∈ state.workers.rows ∧ worker.selected = eventId :: rest ∧
      step worker eventId = some after := by
  unfold work at taken
  split at taken
  · cases taken
  · next worker found =>
      split at taken
      · cases taken
      · obtain ⟨eventId,first,stepped⟩ := Option.bind_eq_some_iff.mp taken
        obtain ⟨rest,selected⟩ := List.head?_eq_some_iff.mp first
        exact ⟨worker,eventId,rest,Table.mem_of_find? found,selected,stepped⟩

theorem AcceptanceState.selectRows_moves {limit : ℕ}
    (taken : state.selectRows workerId limit = some after) :
    state.Moves (.selectRows workerId limit) after := by
  unfold selectRows at taken
  split at taken
  · cases taken
  · next worker found =>
      split at taken
      · cases taken
      · cases taken
        exact .selects workerId limit worker found

theorem AcceptanceState.takeRow_moves (taken : state.takeRow workerId = some after) :
    state.Moves statement after := by
  obtain ⟨worker,eventId,rest,member,selected,stepped⟩ := work_eq_some taken
  split at stepped
  · cases stepped
  · split at stepped
    · next published =>
        cases stepped
        have gone := Option.isNone_iff_eq_none.mp published
        refine .proceeds statement worker (worker.proceed worker.recent) eventId _ member ?_ ?_ rfl
          rfl ?_
        · simp [RawWorker.proceed,selected]
        · rw [gone]
          exact .refl _
        · simp [gone,withWorker]
    · cases stepped
      exact .stays statement worker { worker with attempt := .taken } _ member (.inl rfl) (.refl _)
        rfl rfl rfl

theorem AcceptanceState.handleRow_moves {clock : Clock} {quarantineId evidenceId : Uuid}
    (taken : state.handleRow platform settings workerId clock quarantineId evidenceId =
      some after) : state.Moves statement after := by
  obtain ⟨worker,eventId,rest,member,selected,stepped⟩ := work_eq_some taken
  split at stepped
  · cases stepped
  · next database recent handled =>
      cases stepped
      refine .proceeds statement worker (worker.proceed recent) eventId _ member ?_
        (handleRaw_publishes handled) rfl rfl rfl
      simp [RawWorker.proceed,selected]

theorem AcceptanceState.failRow_moves {progress : Progress}
    (taken : state.failRow workerId progress = some after) : state.Moves statement after := by
  obtain ⟨worker,eventId,rest,member,selected,stepped⟩ := work_eq_some taken
  cases stepped
  exact .stays statement worker { worker with
      recent := ((unpublishedRow state.database.ingress eventId).map fun row =>
        rolledBack worker.recent row.payload progress).getD worker.recent
      attempt := .failed } _ member (.inl rfl) (.refl _) rfl rfl rfl

theorem AcceptanceState.recordFailure_moves {error : String} {quarantineId : Uuid} {now : Time}
    (taken : state.recordFailure settings workerId error quarantineId now = some after) :
    state.Moves statement after := by
  obtain ⟨worker,eventId,rest,member,selected,stepped⟩ := work_eq_some taken
  split at stepped
  · cases stepped
  · split at stepped
    · cases stepped
      exact .stays statement worker _ _ member (.inr rfl) (.refl _) rfl rfl rfl
    · next ingress failed =>
        have publishes := failRaw_publishes failed
        cases stepped
        cases exhausted : (unpublishedRow state.database.ingress eventId).filter fun row =>
            decide (settings.workerMaxAttempts ≤ row.publishAttempts + 1) with
        | none =>
            rw [exhausted] at publishes
            refine .stays statement worker (worker.leave worker.recent) _ member (.inr rfl)
              publishes rfl ?_ ?_
            · simp [withWorker]
            · simp
        | some row =>
            have first := (Option.filter_eq_some_iff.mp exhausted).1
            rw [exhausted,← first] at publishes
            refine .proceeds statement worker (worker.proceed worker.recent) eventId _ member ?_
              publishes rfl ?_ ?_
            · simp [RawWorker.proceed,selected]
            · simp [withWorker]
            · simp [first]

theorem AcceptanceState.leave_moves {recent : RecentObservationState}
    (taken : state.leave workerId recent = some after) : state.Moves statement after := by
  obtain ⟨worker,found,done⟩ := Option.map_eq_some_iff.mp taken
  cases done
  exact .stays statement worker _ _ (Table.mem_of_find? found) (.inr rfl) (.refl _) rfl rfl rfl

theorem AcceptanceState.next_moves (taken : state.next platform settings statement = some after) :
    state.Moves statement after := by
  cases statement with
  | start device request receivedAt batchId => exact start_moves taken
  | insertLedger batchId =>
      change state.insertLedger platform batchId = some after at taken
      unfold insertLedger at taken
      refine advance_moves ?_ taken
      rintro acceptance _ ⟨⟩
      rfl
  | lockLedger batchId =>
      change state.lockLedger platform batchId = some after at taken
      unfold lockLedger at taken
      refine advance_moves ?_ taken
      intro acceptance advanced locked
      obtain ⟨ledgers,-,-,rfl⟩ := Acceptance.lockLedger_eq_ok.mp locked
      rfl
  | queueOutbox batchId =>
      change state.queueOutbox batchId = some after at taken
      unfold queueOutbox at taken
      split at taken
      · cases taken
      · next acceptance found =>
          split at taken
          · cases taken
          · cases taken
            exact .draws batchId acceptance found
  | lockConnectivity batchId =>
      change state.lockConnectivity batchId = some after at taken
      unfold lockConnectivity at taken
      refine advance_moves ?_ taken
      intro acceptance advanced locked
      obtain ⟨received,-,done⟩ := bind_eq_ok.mp locked
      cases done
      rfl
  | commit batchId => exact commit_moves taken
  | rollback batchId =>
      cases taken
      exact state.rollback_moves _ batchId
  | selectRows workerId limit => exact selectRows_moves taken
  | takeRow workerId => exact takeRow_moves taken
  | handleRow workerId clock quarantineId evidenceId => exact handleRow_moves taken
  | failRow workerId progress => exact failRow_moves taken
  | recordFailure workerId error quarantineId now => exact recordFailure_moves taken
  | leave workerId recent => exact leave_moves taken
  | elsewhere registry connectivity inventory replenishment policies =>
      cases taken
      exact .holds _ _ rfl (.refl _) rfl rfl

end Steps

section Numbers

def AcceptanceState.Drawn (state : AcceptanceState) (row : RfidObservationOutbox) : Prop :=
  row ∈ state.database.ingress.outbox.rows ∨
    ∃ acceptance ∈ state.accepting.rows, row ∈ acceptance.rows

/-- No number is drawn twice, and a row is published only after it was committed. -/
structure AcceptanceState.Numbered (state : AcceptanceState) : Prop where
  below : ∀ row, state.Drawn row →
    row.acceptanceSequence < state.database.ingress.acceptanceSequence
  distinct : ∀ row other, state.Drawn row → state.Drawn other →
    row.acceptanceSequence = other.acceptanceSequence → row.eventId = other.eventId
  unpublished : ∀ acceptance ∈ state.accepting.rows, ∀ row ∈ acceptance.rows,
    row.publishedAt = none

variable {state after : AcceptanceState} {statement : Statement}

/-- A statement that draws no number. -/
theorem AcceptanceState.Numbered.inherit (numbered : state.Numbered)
    (sequence : after.database.ingress.acceptanceSequence =
      state.database.ingress.acceptanceSequence)
    (drawn : ∀ row, after.Drawn row → ∃ before, state.Drawn before ∧
      before.acceptanceSequence = row.acceptanceSequence ∧ before.eventId = row.eventId)
    (accepting : Carries state.accepting after.accepting) : after.Numbered := by
  constructor
  · intro row member
    obtain ⟨before,first,number,-⟩ := drawn row member
    rw [sequence,← number]
    exact numbered.below before first
  · intro row other member listed same
    obtain ⟨first,held,number,name⟩ := drawn row member
    obtain ⟨second,kept,numeral,label⟩ := drawn other listed
    rw [← name,← label]
    exact numbered.distinct first second held kept (number.trans (same.trans numeral.symm))
  · intro acceptance member row listed
    obtain ⟨before,stored,first⟩ := accepting acceptance member row listed
    exact numbered.unpublished before stored row first

theorem outboxRows_numbers {events : List RfidObservationEvent} {firstSequence : ℕ}
    {row : RfidObservationOutbox} (member : row ∈ outboxRows events firstSequence) :
    firstSequence ≤ row.acceptanceSequence ∧
      row.acceptanceSequence < firstSequence + events.length := by
  obtain ⟨position,inside,rfl⟩ := List.mem_mapIdx.mp member
  dsimp only
  omega

theorem outboxRows_distinct {events : List RfidObservationEvent} {firstSequence : ℕ}
    {row other : RfidObservationOutbox} (member : row ∈ outboxRows events firstSequence)
    (listed : other ∈ outboxRows events firstSequence)
    (same : row.acceptanceSequence = other.acceptanceSequence) : row = other := by
  obtain ⟨position,inside,rfl⟩ := List.mem_mapIdx.mp member
  obtain ⟨place,within,rfl⟩ := List.mem_mapIdx.mp listed
  have equal : position = place := by
    dsimp only at same
    omega
  subst equal
  rfl

/-- The numbers of a transaction are new when it draws them. -/
theorem AcceptanceState.Numbered.draw (numbered : state.Numbered) (acceptance : Acceptance) :
    AcceptanceState.Numbered { state with
      accepting := state.accepting.put (acceptance.queueOutbox state.database.ingress).1
      database := { state.database with
        ingress := (acceptance.queueOutbox state.database.ingress).2 } } := by
  have split : ∀ row, AcceptanceState.Drawn { state with
      accepting := state.accepting.put (acceptance.queueOutbox state.database.ingress).1
      database := { state.database with
        ingress := (acceptance.queueOutbox state.database.ingress).2 } } row →
      state.Drawn row ∨
        row ∈ outboxRows acceptance.created state.database.ingress.acceptanceSequence := by
    rintro row (committed | ⟨other,stored,listed⟩)
    · exact .inl (.inl committed)
    · rcases Table.mem_put.mp stored with rfl | ⟨kept,-⟩
      · exact .inr listed
      · exact .inl (.inr ⟨other,kept,listed⟩)
  constructor
  · intro row drawn
    change row.acceptanceSequence <
      state.database.ingress.acceptanceSequence + acceptance.created.length
    rcases split row drawn with old | new
    · have bound := numbered.below row old
      omega
    · exact (outboxRows_numbers new).2
  · intro row other first second same
    rcases split row first with old | new
    · have bound := numbered.below row old
      rcases split other second with before | later
      · exact numbered.distinct row other old before same
      · have least := (outboxRows_numbers later).1
        omega
    · have least := (outboxRows_numbers new).1
      rcases split other second with before | later
      · have bound := numbered.below other before
        omega
      · rw [outboxRows_distinct new later same]
  · intro other stored row listed
    rcases Table.mem_put.mp stored with rfl | ⟨kept,-⟩
    · obtain ⟨-,-,-,-,unpublished⟩ := mem_outboxRows listed
      exact unpublished
    · exact numbered.unpublished other kept row listed

theorem Ingress.Publishes.drawn {published : Option EventId}
    (publishes : state.database.ingress.Publishes after.database.ingress published)
    (accepting : after.accepting = state.accepting) {row : RfidObservationOutbox}
    (drawn : after.Drawn row) : ∃ before, state.Drawn before ∧
      before.acceptanceSequence = row.acceptanceSequence ∧ before.eventId = row.eventId := by
  rcases drawn with committed | ⟨acceptance,stored,listed⟩
  · obtain ⟨before,member,continues⟩ := publishes.stored row committed
    exact ⟨before,.inl member,continues.sequence.symm,continues.eventId.symm⟩
  · rw [accepting] at stored
    exact ⟨row,.inr ⟨acceptance,stored,listed⟩,rfl,rfl⟩

theorem AcceptanceState.Numbered.step (numbered : state.Numbered)
    (moves : state.Moves statement after) : after.Numbered := by
  cases moves with
  | holds statement after ingress accepting workers handled =>
      refine numbered.inherit (congrArg Ingress.acceptanceSequence ingress) ?_ accepting
      rintro row (committed | ⟨acceptance,stored,listed⟩)
      · rw [ingress] at committed
        exact ⟨row,.inl committed,rfl,rfl⟩
      · obtain ⟨before,kept,first⟩ := accepting acceptance stored row listed
        exact ⟨row,.inr ⟨before,kept,first⟩,rfl,rfl⟩
  | draws batchId acceptance found => exact numbered.draw acceptance
  | commits batchId acceptance after found sequence outbox accepting workers handled =>
      refine numbered.inherit sequence ?_ accepting
      rintro row (committed | ⟨other,stored,listed⟩)
      · rw [(Table.insertMany_eq_some outbox).1] at committed
        rcases List.mem_append.mp committed with old | new
        · exact ⟨row,.inl old,rfl,rfl⟩
        · exact ⟨row,.inr ⟨acceptance,Table.mem_of_find? found,new⟩,rfl,rfl⟩
      · obtain ⟨before,kept,first⟩ := accepting other stored row listed
        exact ⟨row,.inr ⟨before,kept,first⟩,rfl,rfl⟩
  | selects workerId limit worker found =>
      exact numbered.inherit rfl (fun row drawn => ⟨row,drawn,rfl,rfl⟩) (.refl _)
  | stays statement worker later after member selected publishes accepting workers handled =>
      refine numbered.inherit publishes.sequence (fun _ drawn => publishes.drawn accepting drawn) ?_
      rw [accepting]
      exact .refl _
  | proceeds statement worker later eventId after member selected publishes accepting workers
      handled =>
      refine numbered.inherit publishes.sequence (fun _ drawn => publishes.drawn accepting drawn) ?_
      rw [accepting]
      exact .refl _

end Numbers

section Order

def RfidObservationOutbox.Precedes (row other : RfidObservationOutbox) : Prop :=
  row.partitionKey = other.partitionKey ∧ row.acceptanceSequence < other.acceptanceSequence

instance (row other : RfidObservationOutbox) : Decidable (row.Precedes other) :=
  inferInstanceAs (Decidable (_ ∧ _))

/-- The rows are handled in the order of their numbers, EPC by EPC. -/
def InAcceptanceOrder (handled : List RfidObservationOutbox) : Prop :=
  handled.Pairwise fun earlier later => earlier.partitionKey = later.partitionKey →
    earlier.acceptanceSequence < later.acceptanceSequence

/-- A committed row with a higher number of the same EPC is handled, or a pass has selected it. -/
def AcceptanceState.Overtaken (state : AcceptanceState) (row : RfidObservationOutbox) : Prop :=
  ∃ other ∈ state.database.ingress.outbox.rows, row.Precedes other ∧
    (other.publishedAt.isSome = true ∨
      ∃ worker ∈ state.workers.rows, other.eventId ∈ worker.selected)

def Statement.committing : Statement → Option Uuid
  | .commit batchId => some batchId
  | _ => none

/-- No row becomes visible that was overtaken. -/
def AcceptanceState.InTime (state : AcceptanceState) (statement : Statement) : Prop :=
  ∀ batchId ∈ statement.committing, ∀ acceptance ∈ state.accepting.find? batchId,
    ∀ row ∈ acceptance.rows, ¬state.Overtaken row

instance (state : AcceptanceState) (row : RfidObservationOutbox) :
    Decidable (state.Overtaken row) :=
  inferInstanceAs (Decidable (∃ other ∈ _, _ ∧ (_ ∨ ∃ worker ∈ _, _)))

instance (state : AcceptanceState) (statement : Statement) : Decidable (state.InTime statement) :=
  inferInstanceAs (Decidable (∀ batchId ∈ _, ∀ acceptance ∈ _, ∀ row ∈ _, ¬_))

def Ingress.Clear (ingress : Ingress) (row : RfidObservationOutbox) (front : List EventId) : Prop :=
  ∀ other ∈ ingress.outbox.rows, other.Precedes row →
    other.publishedAt.isSome = true ∨ other.eventId ∈ front

structure AcceptanceState.Ordered (state : AcceptanceState) : Prop where
  settled : ∀ row ∈ state.database.ingress.outbox.rows, row.publishedAt.isSome = true →
    state.database.ingress.Clear row []
  selected : ∀ worker ∈ state.workers.rows, ∀ front eventId back,
    worker.selected = front ++ eventId :: back → ∃ row ∈ state.database.ingress.outbox.rows,
      row.eventId = eventId ∧ state.database.ingress.Clear row front
  logged : ∀ row ∈ state.handled, ∃ stored ∈ state.database.ingress.outbox.rows,
    stored.eventId = row.eventId ∧ stored.acceptanceSequence = row.acceptanceSequence ∧
      stored.partitionKey = row.partitionKey ∧ stored.publishedAt.isSome = true
  ordered : InAcceptanceOrder state.handled

variable {ingress later : Ingress} {state after : AcceptanceState} {statement : Statement}
  {row next : RfidObservationOutbox} {published : Option EventId} {front : List EventId}

/-- What is clear stays clear when rows are published. -/
theorem Ingress.Clear.publish (clear : ingress.Clear row front)
    (publishes : ingress.Publishes later published) (continues : row.Continues next published) :
    later.Clear next front := by
  intro other member precedes
  obtain ⟨before,stored,same⟩ := publishes.stored other member
  have first : before.Precedes row := by
    refine ⟨same.partitionKey.symm.trans (precedes.1.trans continues.partitionKey),?_⟩
    rw [← same.sequence,← continues.sequence]
    exact precedes.2
  rcases clear before stored first with handled | waits
  · exact .inl (same.publishedAt.mpr (.inl handled))
  · exact .inr (same.eventId ▸ waits)

/-- A pass selects the rows in the order of their numbers. -/
theorem pendingRawEvents_clear {limit : ℕ} {eventId : EventId} {back : List EventId}
    (selected : pendingRawEvents ingress limit = front ++ eventId :: back) :
    ∃ row ∈ ingress.outbox.rows, row.eventId = eventId ∧ ingress.Clear row front := by
  unfold pendingRawEvents at selected
  obtain ⟨sorted,arranged⟩ : ∃ sorted, sorted = (ingress.outbox.select fun row =>
    row.publishedAt.isNone).insertionSort fun left right =>
      left.acceptanceSequence ≤ right.acceptanceSequence := ⟨_,rfl⟩
  have ascending : sorted.Pairwise fun left right =>
      left.acceptanceSequence ≤ right.acceptanceSequence := by
    have ranked : Ranking.Descending (fun row : RfidObservationOutbox =>
        OrderDual.toDual row.acceptanceSequence) sorted := by
      rw [arranged]
      exact Ranking.descending_insertionSort (fun _ _ => Iff.rfl) _
    exact ranked
  rw [← arranged] at selected
  have whole : sorted.map RfidObservationOutbox.eventId = front ++ (eventId :: back ++
      (sorted.map RfidObservationOutbox.eventId).drop limit) := by
    rw [← List.append_assoc,← selected,List.take_append_drop]
  obtain ⟨before,rest,parts,named,others⟩ := List.map_eq_append_iff.mp whole
  obtain ⟨row,following,head,first,-⟩ := List.map_eq_cons_iff.mp others
  have pending : ∀ other, other ∈ sorted ↔ other ∈ ingress.outbox.rows ∧
      other.publishedAt.isNone = true := by
    intro other
    rw [arranged,List.mem_insertionSort,Table.mem_select]
  have member : row ∈ sorted := by
    rw [parts,head]
    simp
  refine ⟨row,((pending row).mp member).1,first,?_⟩
  intro other stored precedes
  cases published : other.publishedAt with
  | some instant => exact .inl rfl
  | none =>
      have listed := (pending other).mpr ⟨stored,by rw [published]; rfl⟩
      rw [parts,head] at listed ascending
      rcases List.mem_append.mp listed with early | late
      · exact .inr (named ▸ List.mem_map_of_mem early)
      · have least : row.acceptanceSequence ≤ other.acceptanceSequence := by
          rcases List.mem_cons.mp late with rfl | after
          · exact le_refl _
          · exact (List.pairwise_cons.mp (List.pairwise_append.mp ascending).2.1).1 other after
        exact absurd precedes.2 (not_lt.mpr least)

/-- The lists of the workers after a statement that does not touch them. -/
theorem AcceptanceState.Ordered.keep (ordered : state.Ordered)
    (outbox : after.database.ingress.outbox = state.database.ingress.outbox)
    (workers : after.workers = state.workers) (handled : after.handled = state.handled) :
    after.Ordered := by
  constructor
  · intro row member
    rw [outbox] at member
    rw [Ingress.Clear,outbox]
    exact ordered.settled row member
  · intro worker member front eventId back listed
    rw [workers] at member
    rw [outbox]
    obtain ⟨row,stored,named,clear⟩ := ordered.selected worker member front eventId back listed
    refine ⟨row,stored,named,?_⟩
    rw [Ingress.Clear,outbox]
    exact clear
  · rw [handled,outbox]
    exact ordered.logged
  · rw [handled]
    exact ordered.ordered

theorem AcceptanceState.Ordered.commit {acceptance : Acceptance} (ordered : state.Ordered)
    (unpublished : ∀ row ∈ acceptance.rows, row.publishedAt = none)
    (inTime : ∀ row ∈ acceptance.rows, ¬state.Overtaken row)
    (outbox : after.database.ingress.outbox.rows =
      state.database.ingress.outbox.rows ++ acceptance.rows)
    (workers : after.workers = state.workers) (handled : after.handled = state.handled) :
    after.Ordered := by
  constructor
  · intro row member published other listed precedes
    rw [outbox] at member listed
    rcases List.mem_append.mp member with old | new
    · rcases List.mem_append.mp listed with before | inserted
      · exact ordered.settled row old published other before precedes
      · exact absurd ⟨row,old,precedes,.inl published⟩ (inTime other inserted)
    · rw [unpublished row new] at published
      cases published
  · intro worker member front eventId back listed
    rw [workers] at member
    obtain ⟨row,stored,named,clear⟩ := ordered.selected worker member front eventId back listed
    refine ⟨row,by rw [outbox]; exact List.mem_append_left _ stored,named,?_⟩
    intro other present precedes
    rw [outbox] at present
    rcases List.mem_append.mp present with before | inserted
    · exact clear other before precedes
    · have waits : row.eventId ∈ worker.selected := by
        rw [listed,named]
        simp
      exact absurd ⟨row,stored,precedes,.inr ⟨worker,member,waits⟩⟩ (inTime other inserted)
  · intro row member
    rw [handled] at member
    obtain ⟨stored,present,same⟩ := ordered.logged row member
    exact ⟨stored,by rw [outbox]; exact List.mem_append_left _ present,same⟩
  · rw [handled]
    exact ordered.ordered

/-- The lists of the workers when one of them gets another list. -/
theorem AcceptanceState.Ordered.put {worker : RawWorker} (ordered : state.Ordered)
    (selected : ∀ front eventId back, worker.selected = front ++ eventId :: back →
      ∃ row ∈ state.database.ingress.outbox.rows, row.eventId = eventId ∧
        state.database.ingress.Clear row front) : (state.withWorker worker).Ordered := by
  refine ⟨ordered.settled,?_,ordered.logged,ordered.ordered⟩
  intro other member
  rcases Table.mem_put.mp member with rfl | ⟨kept,-⟩
  · exact selected
  · exact ordered.selected other kept

/-- What a worker selected before a statement is still in order after it. -/
theorem AcceptanceState.Ordered.carry (ordered : state.Ordered) {worker : RawWorker}
    (publishes : state.database.ingress.Publishes later published)
    (member : worker ∈ state.workers.rows) {eventId : EventId} {back : List EventId}
    (listed : worker.selected = front ++ eventId :: back) :
    ∃ row ∈ later.outbox.rows, row.eventId = eventId ∧ later.Clear row front := by
  obtain ⟨row,stored,named,clear⟩ := ordered.selected worker member front eventId back listed
  obtain ⟨next,present,continues⟩ := publishes.kept row stored
  exact ⟨next,present,continues.eventId.trans named,clear.publish publishes continues⟩

theorem AcceptanceState.Ordered.log (ordered : state.Ordered)
    (publishes : state.database.ingress.Publishes later published) :
    ∀ row ∈ state.handled, ∃ stored ∈ later.outbox.rows, stored.eventId = row.eventId ∧
      stored.acceptanceSequence = row.acceptanceSequence ∧
        stored.partitionKey = row.partitionKey ∧ stored.publishedAt.isSome = true := by
  intro row member
  obtain ⟨stored,present,name,number,key,handled⟩ := ordered.logged row member
  obtain ⟨next,kept,continues⟩ := publishes.kept stored present
  exact ⟨next,kept,continues.eventId.trans name,continues.sequence.trans number,
    continues.partitionKey.trans key,continues.publishedAt.mpr (.inl handled)⟩

theorem AcceptanceState.Ordered.stay {worker later : RawWorker} (ordered : state.Ordered)
    (member : worker ∈ state.workers.rows)
    (selected : later.selected = worker.selected ∨ later.selected = [])
    (publishes : state.database.ingress.Publishes after.database.ingress none)
    (workers : after.workers = state.workers.put later) (handled : after.handled = state.handled) :
    after.Ordered := by
  constructor
  · intro row stored published
    obtain ⟨before,present,continues⟩ := publishes.stored row stored
    have first : before.publishedAt.isSome = true := by
      simpa using continues.publishedAt.mp published
    exact (ordered.settled before present first).publish publishes continues
  · intro other held front eventId back listed
    rw [workers] at held
    rcases Table.mem_put.mp held with rfl | ⟨kept,-⟩
    · rcases selected with same | none_left
      · exact ordered.carry publishes member (same ▸ listed)
      · rw [none_left] at listed
        simp at listed
    · exact ordered.carry publishes kept listed
  · rw [handled]
    exact ordered.log publishes
  · rw [handled]
    exact ordered.ordered

/-- A row that is handled comes after all rows of its EPC that are handled. -/
theorem AcceptanceState.Ordered.last (ordered : state.Ordered) (numbered : state.Numbered)
    {eventId : EventId} (unpublished : unpublishedRow state.database.ingress eventId = some row) :
    ∀ earlier ∈ state.handled, earlier.partitionKey = row.partitionKey →
      earlier.acceptanceSequence < row.acceptanceSequence := by
  obtain ⟨found,absent⟩ := unpublishedRow_eq_some.mp unpublished
  have member := Table.mem_of_find? found
  intro earlier listed same
  obtain ⟨stored,present,-,number,key,published⟩ := ordered.logged earlier listed
  by_contra after
  rw [← number,not_lt] at after
  rcases after.lt_or_eq with lower | equal
  · have precedes : row.Precedes stored := ⟨same.symm.trans key.symm,lower⟩
    rcases ordered.settled stored present published row member precedes with handled | waits
    · rw [absent] at handled
      cases handled
    · cases waits
  · have one := numbered.distinct row stored (.inl member) (.inl present) equal
    have this := Table.eq_of_key _ member present one
    rw [← this,absent] at published
    cases published

/-- A worker is done with its first row: it is published, and no other row was to be handled before
it. -/
theorem AcceptanceState.Ordered.proceed {worker later : RawWorker} {eventId : EventId}
    (ordered : state.Ordered) (numbered : state.Numbered) (member : worker ∈ state.workers.rows)
    (selected : worker.selected = eventId :: later.selected)
    (publishes : state.database.ingress.Publishes after.database.ingress
      ((unpublishedRow state.database.ingress eventId).map RfidObservationOutbox.eventId))
    (workers : after.workers = state.workers.put later)
    (handled : after.handled =
      state.handled ++ (unpublishedRow state.database.ingress eventId).toList) : after.Ordered := by
  obtain ⟨first,stored,named,clear⟩ := ordered.selected worker member [] eventId _ selected
  have taken : ∀ row ∈ after.database.ingress.outbox.rows, row.eventId = eventId →
      row.publishedAt.isSome = true := by
    intro row present same
    obtain ⟨before,inside,continues⟩ := publishes.stored row present
    have key : before.eventId = eventId := continues.eventId.symm.trans same
    apply continues.publishedAt.mpr
    cases published : before.publishedAt with
    | some instant => exact .inl rfl
    | none =>
        have found := Table.find?_of_mem inside
        rw [key] at found
        rw [unpublishedRow_eq_some.mpr ⟨found,published⟩]
        exact .inr rfl
  constructor
  · intro row present published
    obtain ⟨before,inside,continues⟩ := publishes.stored row present
    rcases continues.publishedAt.mp published with settled | same
    · exact (ordered.settled before inside settled).publish publishes continues
    · obtain ⟨other,found,key⟩ := Option.map_eq_some_iff.mp same
      have keyed := Table.key_of_find? (unpublishedRow_eq_some.mp found).1
      have this : before = first :=
        Table.eq_of_key _ inside stored ((key.symm.trans keyed).trans named.symm)
      subst this
      exact clear.publish publishes continues
  · intro other held front wanted back listed
    rw [workers] at held
    rcases Table.mem_put.mp held with rfl | ⟨kept,-⟩
    · have whole : worker.selected = (eventId :: front) ++ wanted :: back := by
        rw [selected,listed]
        rfl
      obtain ⟨row,present,name,free⟩ := ordered.carry publishes member whole
      refine ⟨row,present,name,?_⟩
      intro before inside precedes
      rcases free before inside precedes with published | waits
      · exact .inl published
      · rcases List.mem_cons.mp waits with same | early
        · exact .inl (taken before inside same)
        · exact .inr early
    · exact ordered.carry publishes kept listed
  · intro row listed
    rw [handled] at listed
    rcases List.mem_append.mp listed with old | new
    · exact ordered.log publishes row old
    · have found := Option.mem_toList.mp new
      have place := (unpublishedRow_eq_some.mp found).1
      obtain ⟨next,kept,continues⟩ := publishes.kept row (Table.mem_of_find? place)
      refine ⟨next,kept,continues.eventId,continues.sequence,continues.partitionKey,?_⟩
      exact continues.publishedAt.mpr (.inr (by rw [Option.mem_def.mp found]; rfl))
  · rw [handled,InAcceptanceOrder,List.pairwise_append]
    refine ⟨ordered.ordered,?_,?_⟩
    · cases unpublishedRow state.database.ingress eventId with
      | none => exact .nil
      | some row => exact List.pairwise_singleton _ _
    · intro earlier before row new
      exact ordered.last numbered (Option.mem_toList.mp new) earlier before

theorem AcceptanceState.Ordered.step (ordered : state.Ordered) (numbered : state.Numbered)
    (inTime : state.InTime statement) (moves : state.Moves statement after) : after.Ordered := by
  cases moves with
  | holds statement after ingress accepting workers handled =>
      exact ordered.keep (congrArg Ingress.outbox ingress) workers handled
  | draws batchId acceptance found => exact ordered.keep rfl rfl rfl
  | commits batchId acceptance after found sequence outbox accepting workers handled =>
      exact ordered.commit (numbered.unpublished acceptance (Table.mem_of_find? found))
        (inTime batchId rfl acceptance found) (Table.insertMany_eq_some outbox).1 workers handled
  | selects workerId limit worker found =>
      exact ordered.put fun front eventId back listed => pendingRawEvents_clear listed
  | stays statement worker later after member selected publishes accepting workers handled =>
      exact ordered.stay member selected publishes workers handled
  | proceeds statement worker later eventId after member selected publishes accepting workers
      handled =>
      exact ordered.proceed numbered member selected publishes workers handled

end Order

section Runs

variable {platform : Platform} {settings : Settings} {state : AcceptanceState}

theorem acceptances_numbered (initial : (acceptances platform settings).initial state) :
    state.Numbered := by
  obtain ⟨outbox,accepting,-,-⟩ := initial
  have none_drawn : ∀ row, ¬state.Drawn row := by
    rintro row (committed | ⟨acceptance,stored,-⟩)
    · rw [outbox,Table.rows_empty] at committed
      cases committed
    · rw [accepting,Table.rows_empty] at stored
      cases stored
  constructor
  · intro row drawn
    exact absurd drawn (none_drawn row)
  · intro row other drawn
    exact absurd drawn (none_drawn row)
  · intro acceptance member
    rw [accepting,Table.rows_empty] at member
    cases member

theorem acceptances_ordered (initial : (acceptances platform settings).initial state) :
    state.Ordered := by
  obtain ⟨outbox,-,workers,handled⟩ := initial
  constructor
  · intro row member
    rw [outbox,Table.rows_empty] at member
    cases member
  · intro worker member front eventId back listed
    rw [workers worker member] at listed
    simp at listed
  · intro row member
    rw [handled] at member
    cases member
  · rw [handled]
    exact .nil

/-- The events of an EPC are handled in the order of their numbers as long as no acceptance commits
a row that was overtaken. -/
theorem handled_in_acceptance_order (platform : Platform) (settings : Settings)
    (state : AcceptanceState)
    (reachable : (acceptances platform settings).ReachableWithin AcceptanceState.InTime state) :
    InAcceptanceOrder state.handled := by
  have first : ∀ state, (acceptances platform settings).initial state →
      state.Numbered ∧ state.Ordered :=
    fun _ initial => ⟨acceptances_numbered initial,acceptances_ordered initial⟩
  have kept : state.Numbered ∧ state.Ordered := by
    refine reachable.invariant first ?_
    intro before statement after held inTime taken
    have moves := AcceptanceState.next_moves taken
    exact ⟨held.1.step moves,held.2.step held.1 inTime moves⟩
  exact kept.2.ordered

namespace Sample

theorem oneWorker : ([1] : List Uuid).Nodup := by decide

def unopened : AcceptanceState where
  database := database
  accepting := Table.empty
  workers := ⟨[{ id := 1, recent := emptyRecent }],oneWorker⟩
  handled := []

def opening (reader : Uuid) (eventId : EventId) (batchId : Uuid) : List Statement :=
  [.start ⟨reader,.active⟩ (batch reader eventId 5) 5 batchId,.insertLedger batchId,
    .lockLedger batchId,.queueOutbox batchId]

def closing (batchId : Uuid) : List Statement := [.lockConnectivity batchId,.commit batchId]

def handling : List Statement := [.takeRow 1,.handleRow 1 (clock 6) 7 8]

def bothOpen : List Statement := opening backroomReader "a" 100 ++ opening floorReader "b" 101

/-- The batches are committed in the order of their numbers. -/
def orderly : List Statement :=
  bothOpen ++ closing 100 ++ closing 101 ++ [.selectRows 1 10] ++ handling ++ handling

/-- The second batch is committed and handled before the first is committed. -/
def overtaking : List Statement :=
  bothOpen ++ closing 101 ++ [.selectRows 1 10] ++ handling ++ closing 100 ++ [.selectRows 1 10] ++
    handling

end Sample

theorem Sample.unopened_initial :
    (acceptances Sample.platform Sample.settings).initial Sample.unopened := by
  refine ⟨rfl,rfl,?_,rfl⟩
  intro worker member
  rw [List.mem_singleton.mp member]

theorem handled_in_acceptance_order_sample : ∃ state,
    (acceptances Sample.platform Sample.settings).ReachableWithin AcceptanceState.InTime state ∧
      state.handled.map RfidObservationOutbox.acceptanceSequence = [0,1] ∧
      InAcceptanceOrder state.handled := by
  obtain ⟨state,reached,numbers⟩ : ∃ state, (acceptances Sample.platform Sample.settings).run
      Sample.unopened Sample.orderly = some state ∧ decide
        (state.handled.map RfidObservationOutbox.acceptanceSequence = [0,1]) = true :=
    (Option.any_eq_true _ _).mp (by decide +kernel)
  have respects : (acceptances Sample.platform Sample.settings).Respects AcceptanceState.InTime
      Sample.unopened Sample.orderly := by decide +kernel
  have reachable : (acceptances Sample.platform Sample.settings).ReachableWithin
      AcceptanceState.InTime state :=
    ⟨Sample.unopened,Sample.orderly,Sample.unopened_initial,respects,reached⟩
  exact ⟨state,reachable,of_decide_eq_true numbers,
    handled_in_acceptance_order Sample.platform Sample.settings state reachable⟩

/-- Two readers read the same tag. The second acceptance gets past the first after the numbers were
drawn, and the row with the higher number is handled first. -/
theorem later_number_handled_first : ∃ state,
    (acceptances Sample.platform Sample.settings).Reachable state ∧
      ¬InAcceptanceOrder state.handled := by
  obtain ⟨state,reached,overtaken⟩ : ∃ state, (acceptances Sample.platform Sample.settings).run
      Sample.unopened Sample.overtaking = some state ∧ decide (state.handled.map (fun row =>
        (row.partitionKey,row.acceptanceSequence)) = [(Sample.tag,1),(Sample.tag,0)]) = true :=
    (Option.any_eq_true _ _).mp (by decide +kernel)
  refine ⟨state,⟨Sample.unopened,Sample.overtaking,Sample.unopened_initial,reached⟩,?_⟩
  intro ordered
  have keyed : (state.handled.map fun row => (row.partitionKey,row.acceptanceSequence)).Pairwise
      fun earlier later => earlier.1 = later.1 → earlier.2 < later.2 :=
    List.pairwise_map.mpr ordered
  rw [of_decide_eq_true overtaken] at keyed
  exact absurd ((List.pairwise_cons.mp keyed).1 _ (List.mem_singleton_self _) rfl) (by decide)

end Runs

end Abacus

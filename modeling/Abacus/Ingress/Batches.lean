import Abacus.Ingress.Lockstep
import Abacus.Inventory.Verdicts

/-! The counters and the status of a batch.
They are written when the batch is accepted, when one of its events is finalized and when
one is requeued, each time from the links as they stand then.
-/
set_option autoImplicit false

namespace Abacus

open Relational (Table)
open Transition (Machine)

namespace RfidObservationBatch

variable {batch : RfidObservationBatch} {links : List RfidObservationBatchEvent}

def Completed (batch : RfidObservationBatch) : Prop :=
  batch.status = .completed ∨ batch.status = .completedWithErrors

structure Accounts (batch : RfidObservationBatch) (links : List RfidObservationBatchEvent) :
    Prop where
  processed : batch.processedCount = countStatus links .processed
  rejected : batch.rejectedCount = countStatus links .rejected
  accepted : batch.acceptedCount = links.length
  completed : batch.Completed ↔ ∀ link ∈ links, link.processingStatus ≠ .pending
  errors : batch.Completed → (batch.status = .completedWithErrors ↔ 0 < batch.rejectedCount)
  completedAt : batch.completedAt ≠ none ↔ batch.Completed

theorem countStatus_total (links : List RfidObservationBatchEvent) :
    countStatus links .processed + countStatus links .rejected + countStatus links .pending =
      links.length := by
  induction links with
  | nil => rfl
  | cons link links ih =>
      simp only [countStatus,List.countP_cons,List.length_cons] at ih ⊢
      cases link.processingStatus <;> simp <;> omega

/-- All links are terminal when the processed and the rejected ones are all there are. -/
theorem terminal_iff (links : List RfidObservationBatchEvent) :
    (∀ link ∈ links, link.processingStatus ≠ .pending) ↔
    countStatus links .processed + countStatus links .rejected = links.length := by
  have total := countStatus_total links
  have none_pending : countStatus links .pending = 0 ↔
      ∀ link ∈ links, link.processingStatus ≠ .pending := by
    simp [countStatus,List.countP_eq_zero]
  rw [← none_pending]
  omega

/-- A batch that was not completed is recounted right. -/
theorem recount_accounts (accepted : batch.acceptedCount = links.length)
    (uncompleted : ¬batch.Completed) (running : batch.completedAt = none) (finalizedAt : Time) :
    (batch.recount links finalizedAt).Accounts links := by
  have terminal := terminal_iff links
  rw [← accepted] at terminal
  by_cases whole : countStatus links .processed + countStatus links .rejected = batch.acceptedCount
  · have completed : (batch.recount links finalizedAt).Completed := by
      simp only [Completed,recount,account,whole,if_true]
      by_cases errors : countStatus links .rejected = 0 <;> simp [errors]
    refine ⟨rfl,rfl,accepted,?_,?_,?_⟩
    · exact ⟨fun _ => terminal.mpr whole,fun _ => completed⟩
    · intro _
      simp only [recount,account,whole,if_true]
      by_cases errors : countStatus links .rejected = 0
      · simp [errors]
      · simp [errors]
        omega
    · have stamped : (batch.recount links finalizedAt).completedAt = some finalizedAt := by
        simp [recount,account,whole]
      simp [stamped,completed]
  · have open_ : ¬(batch.recount links finalizedAt).Completed := by
      simp only [Completed,recount,account,whole,if_false] at uncompleted ⊢
      split
      · simp
      · exact uncompleted
    refine ⟨rfl,rfl,accepted,?_,?_,?_⟩
    · exact ⟨fun completed => absurd completed open_,
        fun done => absurd (terminal.mp done) whole⟩
    · exact fun completed => absurd completed open_
    · have unstamped : (batch.recount links finalizedAt).completedAt = none := by
        simp [recount,account,whole,running]
      simp [unstamped,open_]

/-- A batch with a link that is pending again is reopened right. -/
theorem reopen_accounts (accepted : batch.acceptedCount = links.length)
    {link : RfidObservationBatchEvent} (member : link ∈ links)
    (pending : link.processingStatus = .pending) : (batch.reopen links).Accounts links := by
  have open_ : ¬(batch.reopen links).Completed := by simp [Completed,reopen]
  refine ⟨rfl,rfl,accepted,?_,?_,?_⟩
  · exact ⟨fun completed => absurd completed open_,fun done => absurd pending (done link member)⟩
  · exact fun completed => absurd completed open_
  · have unstamped : (batch.reopen links).completedAt = none := rfl
    simp [unstamped,open_]

/-- The initial outcome is the recount of the links that the ledger rows get. -/
theorem initialOutcome_eq (ledgers : List RfidObservationEventLedger) (receivedAt : Time)
    (batchId : Uuid) : batch.initialOutcome ledgers receivedAt =
      batch.recount (ledgers.map fun row => row.link batchId) receivedAt := by
  have counted : ∀ status, countStatus (ledgers.map fun row => row.link batchId) status =
      ledgers.countP fun row => decide (row.processingStatus = status) := by
    intro status
    rw [countStatus,List.countP_map]
    rfl
  rw [recount,counted,counted,initialOutcome]

end RfidObservationBatch

namespace Ingress

/-- Every batch accounts for its links, and every link is of a batch. -/
structure BatchesAccount (ingress : Ingress) : Prop where
  accounts : ∀ batch ∈ ingress.batches.rows, batch.Accounts (ingress.linksOf batch.id)
  placed : ∀ link ∈ ingress.links.rows, (ingress.batches.find? link.batchId).isSome = true

theorem BatchesAccount.of_same {ingress after : Ingress} (accounts : ingress.BatchesAccount)
    (batches : after.batches = ingress.batches) (links : after.links = ingress.links) :
    after.BatchesAccount := by
  have same : ∀ batchId, after.linksOf batchId = ingress.linksOf batchId := by
    intro batchId
    rw [linksOf,linksOf,links]
  constructor
  · simp only [batches,same]
    exact accounts.accounts
  · rw [batches,links]
    exact accounts.placed

theorem empty_batchesAccount : Ingress.empty.BatchesAccount := by
  constructor
  · simp [Ingress.empty]
  · simp [Ingress.empty]

section Settling

variable {ingress after : Ingress} {eventId : EventId} {outcome : Outcome}

theorem mem_linksOf {batchId : Uuid} {link : RfidObservationBatchEvent} :
    link ∈ ingress.linksOf batchId ↔ link ∈ ingress.links.rows ∧ link.batchId = batchId := by
  simp [linksOf,Table.mem_select]

theorem mem_batchesOf {batchId : Uuid} : batchId ∈ ingress.batchesOf eventId ↔
    ∃ link ∈ ingress.linksOf batchId, link.eventId = eventId := by
  simp only [batchesOf,List.mem_map,Table.mem_select,mem_linksOf,decide_eq_true_eq]
  constructor
  · rintro ⟨link,⟨member,named⟩,placed⟩
    exact ⟨link,⟨member,placed⟩,named⟩
  · rintro ⟨link,⟨member,placed⟩,named⟩
    exact ⟨link,⟨member,named⟩,placed⟩

/-- The links of a batch after an outcome was written to the links of an event. -/
theorem linksOf_settleEvent (batchId : Uuid) :
    (ingress.settleEvent eventId outcome).linksOf batchId = (ingress.linksOf batchId).map
      fun link => if link.eventId = eventId then link.settle outcome else link := by
  have placed : ∀ link : RfidObservationBatchEvent,
      (if link.eventId = eventId then link.settle outcome else link).batchId = link.batchId := by
    intro link
    split <;> rfl
  simp [linksOf,settleEvent,Table.select,Table.updateWhere,List.filter_map,Function.comp_def,placed]

theorem batchesOf_settleEvent :
    (ingress.settleEvent eventId outcome).batchesOf eventId = ingress.batchesOf eventId := by
  have placed : ∀ link : RfidObservationBatchEvent,
      (if link.eventId = eventId then link.settle outcome else link).batchId = link.batchId := by
    intro link
    split <;> rfl
  have named : ∀ link : RfidObservationBatchEvent,
      (if link.eventId = eventId then link.settle outcome else link).eventId = link.eventId := by
    intro link
    split <;> rfl
  simp [batchesOf,settleEvent,Table.select,Table.updateWhere,List.filter_map,Function.comp_def,
    placed,named]

/-- A batch without a link to the event has the links that it had. -/
theorem linksOf_settleEvent_other {batchId : Uuid} (apart : batchId ∉ ingress.batchesOf eventId) :
    (ingress.settleEvent eventId outcome).linksOf batchId = ingress.linksOf batchId := by
  rw [linksOf_settleEvent]
  have same : ∀ link ∈ ingress.linksOf batchId,
      (if link.eventId = eventId then link.settle outcome else link) = id link := by
    intro link member
    rw [if_neg]
    · rfl
    · exact fun named => apart (mem_batchesOf.mpr ⟨link,member,named⟩)
  rw [List.map_congr_left same,List.map_id]

/-- An outcome is written to an event, and its batches are rewritten from their links. -/
theorem BatchesAccount.settle (accounts : ingress.BatchesAccount) (eventId : EventId)
    (outcome : Outcome)
    (rewrite : RfidObservationBatch → List RfidObservationBatchEvent → RfidObservationBatch)
    (keeps : ∀ batch links, (rewrite batch links).id = batch.id)
    (links : after.links = (ingress.settleEvent eventId outcome).links)
    (batches : after.batches = ingress.batches.updateWhere
      (fun batch => decide (batch.id ∈ ingress.batchesOf eventId))
      (fun batch => rewrite batch ((ingress.settleEvent eventId outcome).linksOf batch.id))
      fun batch => keeps batch _)
    (rewritten : ∀ batch : RfidObservationBatch, batch.id ∈ ingress.batchesOf eventId →
      batch.Accounts (ingress.linksOf batch.id) →
      (rewrite batch ((ingress.settleEvent eventId outcome).linksOf batch.id)).Accounts
        ((ingress.settleEvent eventId outcome).linksOf batch.id)) : after.BatchesAccount := by
  have placedLinks : ∀ batchId,
      after.linksOf batchId = (ingress.settleEvent eventId outcome).linksOf batchId := by
    intro batchId
    rw [linksOf,linksOf,links]
  constructor
  · intro batch member
    rw [batches] at member
    obtain ⟨old,stored,rfl⟩ := Table.mem_updateWhere.mp member
    have before := accounts.accounts old stored
    by_cases chosen : old.id ∈ ingress.batchesOf eventId
    · rw [if_pos (decide_eq_true chosen),keeps,placedLinks]
      exact rewritten old chosen before
    · rw [if_neg (by simpa using chosen),placedLinks,linksOf_settleEvent_other chosen]
      exact before
  · intro link member
    rw [links] at member
    obtain ⟨old,stored,rfl⟩ := List.mem_map.mp member
    have here := accounts.placed old stored
    rw [batches,Table.find?_updateWhere,Option.isSome_map]
    split <;> exact here

end Settling

section Transactions

variable {ingress after : Ingress} {eventId : EventId}

/-- A batch of an event that awaits its outcome is not completed. -/
theorem awaited_uncompleted (lockstep : ingress.Lockstep) (awaits : ingress.Awaits eventId)
    {batch : RfidObservationBatch} (linked : batch.id ∈ ingress.batchesOf eventId)
    (accounts : batch.Accounts (ingress.linksOf batch.id)) :
    ¬batch.Completed ∧ batch.completedAt = none := by
  obtain ⟨link,member,named⟩ := mem_batchesOf.mp linked
  obtain ⟨ledger,found,same⟩ := lockstep.linked link (mem_linksOf.mp member).1
  obtain ⟨waiting,stored,pending⟩ := awaits
  rw [named,stored] at found
  cases found
  have status : link.processingStatus = ledger.processingStatus :=
    congrArg Outcome.processingStatus same
  have uncompleted : ¬batch.Completed := by
    intro completed
    exact accounts.completed.mp completed link member (status.trans pending)
  refine ⟨uncompleted,?_⟩
  by_contra stamped
  exact uncompleted (accounts.completedAt.mp stamped)

theorem advanceBatch_accounts (accounts : ingress.BatchesAccount) (lockstep : ingress.Lockstep)
    (awaits : ingress.Awaits eventId) {rejected : Bool} {disposition : Disposition}
    {reason : Option RejectionReason} {finalizedAt : Time}
    (advanced : advanceBatch ingress eventId rejected disposition reason finalizedAt = .ok after) :
    after.BatchesAccount := by
  have waiting := awaits
  obtain ⟨ledger,found,pending⟩ := awaits
  unfold advanceBatch at advanced
  rw [found] at advanced
  dsimp only at advanced
  rw [if_neg (not_not.mpr pending)] at advanced
  generalize Outcome.mk _ _ _ _ = outcome at advanced
  rw [batchesOf_settleEvent] at advanced
  split at advanced
  · cases advanced
    refine accounts.settle eventId outcome
      (fun batch links => batch.recount links finalizedAt) (fun _ _ => rfl) rfl rfl ?_
    intro batch linked before
    obtain ⟨running,unstamped⟩ := awaited_uncompleted lockstep waiting linked before
    apply RfidObservationBatch.recount_accounts _ running unstamped
    rw [linksOf_settleEvent,List.length_map]
    exact before.accepted
  · cases advanced

theorem recordQuarantine_batches {event : RfidObservationEvent} {reason : RejectionReason}
    {payload : StoredPayload} {quarantineId : Uuid} {quarantinedAt : Time}
    (recorded : ingress.recordQuarantine event reason payload quarantineId quarantinedAt = .ok after) :
    after.batches = ingress.batches := by
  unfold Ingress.recordQuarantine at recorded
  split at recorded
  · cases recorded
    rfl
  · obtain ⟨quarantine,-,done⟩ := bind_eq_ok.mp recorded
    cases done
    rfl

theorem quarantineObservation_accounts {event : RfidObservationEvent} {reason : RejectionReason}
    {payload : StoredPayload} {quarantineId : Uuid} {finalizedAt : Time}
    (accounts : ingress.BatchesAccount) (lockstep : ingress.Lockstep)
    (awaits : ingress.Awaits event.eventId)
    (quarantined : quarantineObservation ingress event reason payload quarantineId finalizedAt =
      .ok after) : after.BatchesAccount := by
  obtain ⟨middle,recorded,advanced⟩ := bind_eq_ok.mp quarantined
  obtain ⟨ledger,links,outbox,once⟩ := recordQuarantine_spec recorded
  have still : middle.Lockstep := lockstep.of_same ledger links outbox (once lockstep.once)
  have waiting : middle.Awaits event.eventId := by
    rw [Ingress.Awaits,ledger]
    exact awaits
  exact advanceBatch_accounts (accounts.of_same (recordQuarantine_batches recorded) links) still
    waiting advanced

theorem requeueEvent_accounts {ledger : RfidObservationEventLedger} {event : RfidObservationEvent}
    (accounts : ingress.BatchesAccount) (requeued : requeueEvent ingress ledger event = .ok after) :
    after.BatchesAccount := by
  unfold requeueEvent at requeued
  dsimp only at requeued
  split at requeued
  · cases requeued
  · split at requeued
    · cases requeued
      refine accounts.settle ledger.eventId _ RfidObservationBatch.reopen (fun _ _ => rfl) rfl rfl ?_
      intro batch linked before
      obtain ⟨link,member,named⟩ := mem_batchesOf.mp linked
      rw [linksOf_settleEvent]
      apply RfidObservationBatch.reopen_accounts
      · rw [List.length_map]
        exact before.accepted
      · exact List.mem_map_of_mem member
      · rw [if_pos named]
        rfl
    · cases requeued

theorem queueQuarantinedObservationReplay_accounts {registry : Registry} {quarantineId : Uuid}
    {result : QuarantineReplayResult} (accounts : ingress.BatchesAccount)
    (replayed : queueQuarantinedObservationReplay registry ingress quarantineId =
      .ok (result,after)) : after.BatchesAccount := by
  cases queueQuarantinedObservationReplay_replayed replayed with
  | unchanged => exact accounts
  | requeued quarantine ledger after found named located rejected written =>
      exact requeueEvent_accounts accounts written

/-- The batch row and the links of an acceptance. -/
theorem storeObservationBatch_links {platform : Platform} {batch : RfidObservationBatch}
    {events : List RfidObservationEvent} {receivedAt : Time}
    (stored : storeObservationBatch platform ingress batch events receivedAt = .ok after) :
    ∃ batches ledgers, ingress.batches.insert batch = some batches ∧
      ledgers.length = events.length ∧
      after.links.rows = ingress.links.rows ++ ledgers.map (fun row => row.link batch.id) ∧
      after.batches = batches.modify batch.id (fun row => row.initialOutcome ledgers receivedAt)
        (fun row => row.initialOutcome_id ledgers receivedAt) := by
  unfold storeObservationBatch at stored
  obtain ⟨batches,inserted,stored⟩ := bind_eq_ok.mp stored
  dsimp only at stored
  split at stored
  · cases stored
  · rename_i reconciled
    split at stored
    · cases stored
    · obtain ⟨links,linked,stored⟩ := bind_eq_ok.mp stored
      obtain ⟨outbox,queued,done⟩ := bind_eq_ok.mp stored
      cases done
      exact ⟨batches,_,orIntegrityError_eq_ok.mp inserted,not_not.mp reconciled,
        (Table.insertMany_eq_some (orIntegrityError_eq_ok.mp linked)).1,rfl⟩

/-- A new batch has the links of its acceptance and no others. -/
theorem storeObservationBatch_accounts {platform : Platform} {batch : RfidObservationBatch}
    {events : List RfidObservationEvent} {receivedAt : Time} (accounts : ingress.BatchesAccount)
    (counted : batch.acceptedCount = events.length) (uncompleted : ¬batch.Completed)
    (running : batch.completedAt = none)
    (stored : storeObservationBatch platform ingress batch events receivedAt = .ok after) :
    after.BatchesAccount := by
  obtain ⟨batches,ledgers,inserted,sized,links,written⟩ := storeObservationBatch_links stored
  have fresh : ingress.batches.find? batch.id = none := (Table.insert_eq_some inserted).1
  have batchAt : ∀ batchId, after.batches.find? batchId =
      if batchId = batch.id then some (batch.initialOutcome ledgers receivedAt)
      else ingress.batches.find? batchId := by
    intro batchId
    rw [written,Table.find?_modify]
    split
    · rw [Table.find?_insert inserted,if_pos rfl]
      rfl
    · rename_i apart
      rw [Table.find?_insert inserted,if_neg (Ne.symm apart)]
  have unlinked : ∀ link ∈ ingress.links.rows, link.batchId ≠ batch.id := by
    intro link member same
    have placed := accounts.placed link member
    rw [same,fresh] at placed
    cases placed
  have added : ∀ link ∈ ledgers.map (fun row => row.link batch.id), link.batchId = batch.id := by
    intro link member
    obtain ⟨row,-,rfl⟩ := List.mem_map.mp member
    rfl
  have linksAt : ∀ batchId, after.linksOf batchId =
      if batchId = batch.id then ledgers.map (fun row => row.link batch.id)
      else ingress.linksOf batchId := by
    intro batchId
    rw [linksOf,Table.select,links,List.filter_append]
    split
    · rename_i same
      subst same
      rw [List.filter_eq_nil_iff.mpr,List.nil_append,List.filter_eq_self.mpr]
      · simpa using added
      · simpa using unlinked
    · rename_i apart
      have others : (ledgers.map fun row => row.link batch.id).filter
          (fun link => decide (link.batchId = batchId)) = [] := by
        rw [List.filter_eq_nil_iff]
        intro link member
        rw [added link member]
        simpa using Ne.symm apart
      rw [others,List.append_nil]
      rfl
  constructor
  · intro row member
    have found := Table.find?_of_mem member
    rw [batchAt] at found
    rw [linksAt]
    split at found
    · rename_i same
      cases found
      rw [if_pos same,RfidObservationBatch.initialOutcome_eq ledgers receivedAt batch.id]
      apply RfidObservationBatch.recount_accounts _ uncompleted running
      rw [counted,List.length_map,sized]
    · rename_i apart
      rw [if_neg apart]
      exact accounts.accounts row (Table.mem_of_find? found)
  · intro link member
    rw [links] at member
    rw [batchAt]
    rcases List.mem_append.mp member with old | new
    · rw [if_neg (unlinked link old)]
      exact accounts.placed link old
    · rw [if_pos (added link new)]
      rfl

theorem acceptObservationBatch_accounts {platform : Platform} {registry : Registry}
    {connectivity connectivity' : Connectivity} {device : Device} {request : ObservationBatchCreate}
    {receivedAt : Time} {batchId : Uuid} (accounts : ingress.BatchesAccount)
    (accepted : acceptObservationBatch platform registry ingress connectivity device request
      receivedAt batchId = .ok (after,connectivity')) : after.BatchesAccount := by
  unfold acceptObservationBatch at accepted
  split at accepted
  · cases accepted
  · obtain ⟨current,-,accepted⟩ := bind_eq_ok.mp accepted
    obtain ⟨events,-,accepted⟩ := bind_eq_ok.mp accepted
    obtain ⟨stored,written,accepted⟩ := bind_eq_ok.mp accepted
    obtain ⟨locked,-,done⟩ := bind_eq_ok.mp accepted
    cases done
    exact storeObservationBatch_accounts accounts rfl (by simp [RfidObservationBatch.Completed]) rfl
      written

theorem handleRaw_accounts {platform : Platform} {settings : Settings} {db finished : Database}
    {recent recent' : RecentObservationState} {clock : Clock} {quarantineId evidenceId : Uuid}
    (accounts : db.ingress.BatchesAccount) (lockstep : db.ingress.Lockstep)
    (handled : handleRaw platform settings db recent eventId clock quarantineId evidenceId =
      .ok (finished,recent')) : finished.ingress.BatchesAccount := by
  unfold handleRaw at handled
  split at handled
  · cases handled
    exact accounts
  · rename_i row unpublished
    obtain ⟨member,keyed,ledger,located,pending⟩ := lockstep.awaits unpublished
    split at handled
    · cases handled
    · rename_i event payload
      have addressed : event.eventId = eventId :=
        (lockstep.addressed row member event payload).trans keyed
      rw [keyed,located] at handled
      dsimp only at handled
      rw [if_pos pending] at handled
      obtain ⟨⟨result,database,memory⟩,observed,done⟩ := bind_eq_ok.mp handled
      cases done
      have awaits : db.ingress.Awaits event.eventId := by
        rw [addressed]
        exact ⟨ledger,located,pending⟩
      have settled : database.ingress.BatchesAccount := by
        cases processObservation_attempted observed with
        | duplicate ingress finalized =>
            exact advanceBatch_accounts accounts lockstep awaits finalized
        | rejected reason connectivity ingress heard quarantined =>
            exact quarantineObservation_accounts accounts lockstep awaits quarantined
        | located assignment connectivity binding evidenceStart effect ingress heard bound verdict
            finalized =>
            exact advanceBatch_accounts accounts lockstep awaits finalized
      exact settled.of_same rfl rfl

theorem failRaw_accounts {settings : Settings} {registry : Registry} {error : String}
    {quarantineId : Uuid} {now : Time} (accounts : ingress.BatchesAccount)
    (lockstep : ingress.Lockstep)
    (failed : failRaw settings registry ingress eventId error quarantineId now = .ok after) :
    after.BatchesAccount := by
  unfold failRaw at failed
  split at failed
  · cases failed
    exact accounts
  · rename_i row unpublished
    obtain ⟨member,keyed,awaits⟩ := lockstep.awaits unpublished
    have counted : (ingress.countFailure eventId error).BatchesAccount := accounts.of_same rfl rfl
    split at failed
    · obtain ⟨event,terminal,failed⟩ := bind_eq_ok.mp failed
      obtain ⟨quarantined,rejected,done⟩ := bind_eq_ok.mp failed
      have addressed : event.eventId = eventId :=
        (terminalEvent_eventId (lockstep.addressed row member) terminal).trans keyed
      have waiting : (ingress.countFailure eventId error).Awaits event.eventId := by
        rw [addressed]
        exact awaits
      have settled := quarantineObservation_accounts counted (lockstep.countFailure eventId error)
        waiting rejected
      cases done
      exact settled.of_same rfl rfl
    · cases failed
      exact counted

end Transactions

end Ingress

section Runs

variable {platform : Platform} {settings : Settings} {state : RawState}

/-- One transaction keeps the accounts of all batches. -/
theorem RawState.next_accounts (sound : state.Sound)
    (accounts : state.database.ingress.BatchesAccount) (event : RawEvent) :
    (state.next platform settings event).database.ingress.BatchesAccount := by
  cases event with
  | accept device request receivedAt batchId =>
      change (state.accept platform device request receivedAt batchId).database.ingress.BatchesAccount
      unfold RawState.accept
      split
      · exact accounts
      · rename_i ingress connectivity accepted
        exact Ingress.acceptObservationBatch_accounts accounts accepted
  | handle eventId clock quarantineId evidenceId =>
      change (state.handle platform settings eventId clock quarantineId
        evidenceId).database.ingress.BatchesAccount
      unfold RawState.handle
      split
      · exact accounts
      · rename_i database recent handled
        exact Ingress.handleRaw_accounts accounts sound.lockstep handled
  | fail eventId error progress quarantineId now =>
      change (state.fail settings eventId error progress quarantineId
        now).database.ingress.BatchesAccount
      unfold RawState.fail
      split
      · exact accounts
      · dsimp only
        split
        · exact accounts
        · rename_i ingress failed
          exact Ingress.failRaw_accounts accounts sound.lockstep failed
  | replay quarantineId =>
      change (state.replay quarantineId).database.ingress.BatchesAccount
      unfold RawState.replay
      split
      · exact accounts
      · rename_i result ingress replayed
        exact Ingress.queueQuarantinedObservationReplay_accounts accounts replayed
  | restart recent => exact accounts
  | register registry => exact accounts
  | elsewhere connectivity inventory replenishment policies => exact accounts

/-- After every run of acceptances, worker outcomes, exhaustions and replays, the counters, the
status and the completion time of every batch are those of its links. -/
theorem batches_account_for_their_links (platform : Platform) (settings : Settings)
    {state : RawState} (reachable : (rawEvents platform settings).Reachable state) :
    ∀ batch ∈ state.database.ingress.batches.rows,
      batch.Accounts (state.database.ingress.linksOf batch.id) := by
  have accounted : state.database.ingress.BatchesAccount := by
    apply reachable.induct
    · rintro start ⟨empty,-⟩
      rw [empty]
      exact Ingress.empty_batchesAccount
    · intro before event after earlier accounts taken
      cases taken
      exact RawState.next_accounts (rawEvents_sound earlier) accounts event
  exact accounted.accounts

end Runs

theorem batches_account_for_their_links_sample :
    (Sample.rawRun Sample.replayed).database.ingress.batches.rows.map
        RfidObservationBatch.status = [.completed,.completed] ∧
      ∀ batch ∈ (Sample.rawRun Sample.replayed).database.ingress.batches.rows,
        batch.Accounts ((Sample.rawRun Sample.replayed).database.ingress.linksOf batch.id) :=
  ⟨by decide +kernel,batches_account_for_their_links Sample.platform Sample.settings
    ⟨Sample.rawStart,Sample.replayed,⟨rfl,rfl⟩,rfl⟩⟩

end Abacus

import Abacus.Ingress.Mirrors
import Abacus.Ingress.Windows
import Abacus.Tenant.Steps

/-! Every accepted event counts as evidence at most once.
The windows hold only reads whose ledger row is processed, and a processed event is never
queued again. Which identifiers the memory still knows does not matter.
-/
set_option autoImplicit false

namespace Abacus

open Relational (Table OrderedDict)
open Transition (Machine)

section Windows

def RecentObservationState.reads (recent : RecentObservationState) (tenantId : Uuid) :
    List RfidObservationEvent :=
  (recent.windows.rows.filter fun entry => decide (entry.1.1 = tenantId)).flatMap Prod.snd

structure RecentObservationState.ReadsOnce (recent : RecentObservationState) (tenantId : Uuid) :
    Prop where
  distinct : ∀ key window, recent.windows.get? key = some window → key.1 = tenantId →
    (window.map RfidObservationEvent.eventId).Nodup
  apart : ∀ left right before after, recent.windows.get? left = some before →
    recent.windows.get? right = some after → left.1 = tenantId → right.1 = tenantId →
    ∀ first ∈ before, ∀ second ∈ after, first.eventId = second.eventId → left = right

theorem RecentObservationState.ReadsOnce.nodup {recent : RecentObservationState} {tenantId : Uuid}
    (once : recent.ReadsOnce tenantId) :
    ((recent.reads tenantId).map RfidObservationEvent.eventId).Nodup := by
  rw [reads,List.map_flatMap,List.nodup_flatMap]
  refine ⟨?_,?_⟩
  · intro entry member
    obtain ⟨stored,own⟩ := List.mem_filter.mp member
    exact once.distinct entry.1 entry.2 ((OrderedDict.get?_eq_some_iff _ _ _).mpr stored)
      (of_decide_eq_true own)
  · have keyed : recent.windows.rows.Pairwise fun left right => left.1 ≠ right.1 :=
      List.pairwise_map.mp recent.windows.unique
    apply (keyed.filter _).imp_of_mem
    intro left right leftMember rightMember apart
    obtain ⟨leftStored,leftOwn⟩ := List.mem_filter.mp leftMember
    obtain ⟨rightStored,rightOwn⟩ := List.mem_filter.mp rightMember
    intro eventId leftId rightId
    obtain ⟨first,firstMember,rfl⟩ := List.mem_map.mp leftId
    obtain ⟨second,secondMember,same⟩ := List.mem_map.mp rightId
    exact apart (once.apart left.1 right.1 left.2 right.2
      ((OrderedDict.get?_eq_some_iff _ _ _).mpr leftStored)
      ((OrderedDict.get?_eq_some_iff _ _ _).mpr rightStored) (of_decide_eq_true leftOwn)
      (of_decide_eq_true rightOwn) first firstMember second secondMember same.symm)

/-- The windows of the tenant hold processed reads of their own EPC, each identifier once. -/
structure RecentObservationState.Evidences (recent : RecentObservationState) (tenantId : Uuid)
    (ingress : Ingress) : Prop where
  settled : ∀ key window, recent.windows.get? key = some window → key.1 = tenantId →
    ∀ read ∈ window, ∃ ledger, ingress.ledger.find? read.eventId = some ledger ∧
      ledger.processingStatus = .processed ∧ ledger.epc = key.2
  distinct : ∀ key window, recent.windows.get? key = some window → key.1 = tenantId →
    (window.map RfidObservationEvent.eventId).Nodup

namespace RecentObservationState.Evidences

variable {recent after : RecentObservationState} {tenantId : Uuid} {ingress finished : Ingress}

theorem readsOnce (evidences : recent.Evidences tenantId ingress) : recent.ReadsOnce tenantId := by
  refine ⟨evidences.distinct,?_⟩
  intro left right before after leftFound rightFound leftOwn rightOwn first firstMember second
    secondMember same
  obtain ⟨ledger,found,-,epc⟩ := evidences.settled left before leftFound leftOwn first firstMember
  obtain ⟨other,located,-,epc'⟩ := evidences.settled right after rightFound rightOwn second
    secondMember
  rw [same,located] at found
  cases found
  exact Prod.ext (leftOwn.trans rightOwn.symm) (epc.symm.trans epc')

/-- Windows may be lost, and ledger rows may be added and settled. -/
theorem keep (evidences : recent.Evidences tenantId ingress)
    (kept : ∀ key window, after.windows.get? key = some window → key.1 = tenantId →
      recent.windows.get? key = some window)
    (retains : ingress.Retains finished) : after.Evidences tenantId finished := by
  refine ⟨?_,?_⟩
  · intro key window found own read member
    obtain ⟨ledger,located,processed,epc⟩ :=
      evidences.settled key window (kept key window found own) own read member
    exact ⟨ledger,retains.final _ ledger located processed,processed,epc⟩
  · intro key window found own
    exact evidences.distinct key window (kept key window found own) own

variable {event : RfidObservationEvent} {windowSeconds : ℕ} {evidenceNotBefore : Option Time}

theorem windowOf_spec (evidences : recent.Evidences tenantId ingress)
    (own : event.tenantId = tenantId) :
    ((recent.windowOf event).map RfidObservationEvent.eventId).Nodup ∧
      ∀ read ∈ recent.windowOf event, ∃ ledger,
        ingress.ledger.find? read.eventId = some ledger ∧
        ledger.processingStatus = .processed ∧ ledger.epc = event.epc := by
  unfold windowOf
  cases found : recent.windows.get? event.windowKey with
  | none => simp
  | some window =>
      exact ⟨evidences.distinct _ window found own,evidences.settled _ window found own⟩

/-- A read that is not processed yet is new to the window that it is added to. -/
theorem add_distinct (evidences : recent.Evidences tenantId ingress)
    (own : event.tenantId = tenantId)
    (fresh : ∀ ledger, ingress.ledger.find? event.eventId = some ledger →
      ledger.processingStatus ≠ .processed) {key : Uuid × Epc} {window : List RfidObservationEvent}
    (found : (recent.add event windowSeconds evidenceNotBefore).2.windows.get? key = some window)
    (keyed : key.1 = tenantId) : (window.map RfidObservationEvent.eventId).Nodup := by
  have entry := get?_add found
  split at entry
  · obtain ⟨distinct,settled⟩ := evidences.windowOf_spec own
    have appended : ((recent.windowOf event ++ [event]).map RfidObservationEvent.eventId).Nodup := by
      rw [List.map_append,List.nodup_append]
      refine ⟨distinct,by simp,?_⟩
      intro first firstMember second secondMember same
      obtain ⟨read,member,rfl⟩ := List.mem_map.mp firstMember
      obtain ⟨ledger,located,processed,-⟩ := settled read member
      rw [same,List.mem_singleton.mp secondMember] at located
      exact fresh ledger located processed
    rw [entry]
    exact appended.sublist (List.filter_sublist.map _)
  · exact evidences.distinct key window entry keyed

/-- While the read is being added no identifier occurs twice. -/
theorem add_readsOnce (evidences : recent.Evidences tenantId ingress)
    (own : event.tenantId = tenantId)
    (fresh : ∀ ledger, ingress.ledger.find? event.eventId = some ledger →
      ledger.processingStatus ≠ .processed) :
    (recent.add event windowSeconds evidenceNotBefore).2.ReadsOnce tenantId := by
  refine ⟨fun key window found keyed => evidences.add_distinct own fresh found keyed,?_⟩
  have source : ∀ key window,
      (recent.add event windowSeconds evidenceNotBefore).2.windows.get? key = some window →
      key.1 = tenantId → ∀ read ∈ window, (key = event.windowKey ∧ read = event) ∨
        ∃ ledger, ingress.ledger.find? read.eventId = some ledger ∧
          ledger.processingStatus = .processed ∧ ledger.epc = key.2 := by
    intro key window found keyed read member
    have entry := get?_add found
    split at entry
    · rename_i here
      rw [entry] at member
      rcases mem_of_retained member with old | new
      · rw [← here]
        exact .inr ((evidences.windowOf_spec own).2 read old)
      · exact .inl ⟨here.symm,new⟩
    · exact .inr (evidences.settled key window entry keyed read member)
  intro left right before after leftFound rightFound leftOwn rightOwn first firstMember second
    secondMember same
  rcases source left before leftFound leftOwn first firstMember with
    ⟨leftKey,rfl⟩ | ⟨ledger,located,processed,epc⟩
  · rcases source right after rightFound rightOwn second secondMember with
      ⟨rightKey,-⟩ | ⟨ledger,located,processed,-⟩
    · rw [leftKey,rightKey]
    · rw [← same] at located
      exact absurd processed (fresh ledger located)
  · rcases source right after rightFound rightOwn second secondMember with
      ⟨rightKey,rfl⟩ | ⟨other,there,-,epc'⟩
    · rw [same] at located
      exact absurd processed (fresh ledger located)
    · rw [same,there] at located
      cases located
      exact Prod.ext (leftOwn.trans rightOwn.symm) (epc.symm.trans epc')

/-- The committed attempt that adds a read also settles it. -/
theorem add (evidences : recent.Evidences tenantId ingress) (own : event.tenantId = tenantId)
    (fresh : ∀ ledger, ingress.ledger.find? event.eventId = some ledger →
      ledger.processingStatus ≠ .processed)
    (retains : ingress.Retains finished)
    (settled : ∃ ledger, finished.ledger.find? event.eventId = some ledger ∧
      ledger.processingStatus = .processed ∧ ledger.epc = event.epc) :
    (recent.add event windowSeconds evidenceNotBefore).2.Evidences tenantId finished := by
  refine ⟨?_,fun key window found keyed => evidences.add_distinct own fresh found keyed⟩
  intro key window found keyed read member
  have entry := get?_add found
  split at entry
  · rename_i here
    rw [entry] at member
    rw [← here]
    rcases mem_of_retained member with old | rfl
    · obtain ⟨ledger,located,processed,epc⟩ := (evidences.windowOf_spec own).2 read old
      exact ⟨ledger,retains.final _ ledger located processed,processed,epc⟩
    · exact settled
  · obtain ⟨ledger,located,processed,epc⟩ := evidences.settled key window entry keyed read member
    exact ⟨ledger,retains.final _ ledger located processed,processed,epc⟩

end RecentObservationState.Evidences

end Windows

section Runs

variable {platform : Platform} {settings : Settings} {state : TenantState}

/-- What the tenant's ledger knows of the reads that counted. -/
structure TenantState.CountsOnce (state : TenantState) : Prop where
  mirrors : state.database.ingress.Mirrors state.database.registry.tenantId
  evidences : state.recent.Evidences state.database.registry.tenantId state.database.ingress
  handled : ∀ eventId ∈ state.effective, ∃ ledger,
    state.database.ingress.ledger.find? eventId = some ledger ∧ ledger.processingStatus = .processed
  once : state.effective.Nodup

/-- A transaction that neither adds reads nor handles an event. -/
theorem TenantState.CountsOnce.keep {after : TenantState} (counts : state.CountsOnce)
    (tenantId : after.database.registry.tenantId = state.database.registry.tenantId)
    (ingress : state.database.ingress.Retains after.database.ingress ∧
      after.database.ingress.Mirrors state.database.registry.tenantId)
    (kept : ∀ key window, after.recent.windows.get? key = some window →
      key.1 = state.database.registry.tenantId → state.recent.windows.get? key = some window)
    (effective : after.effective = state.effective) : after.CountsOnce := by
  refine ⟨?_,?_,?_,?_⟩
  · rw [tenantId]
    exact ingress.2
  · rw [tenantId]
    exact counts.evidences.keep kept ingress.1
  · intro eventId member
    rw [effective] at member
    obtain ⟨ledger,found,processed⟩ := counts.handled eventId member
    exact ⟨ledger,ingress.1.final eventId ledger found processed,processed⟩
  · rw [effective]
    exact counts.once

theorem advanceBatch_processed {ingress after : Ingress} {eventId : EventId}
    {disposition : Disposition} {reason : Option RejectionReason} {finalizedAt : Time}
    (awaits : ingress.Awaits eventId)
    (advanced : advanceBatch ingress eventId false disposition reason finalizedAt = .ok after) :
    ∃ ledger later, ingress.ledger.find? eventId = some ledger ∧
      after.ledger.find? eventId = some later ∧ later.processingStatus = .processed ∧
      later.epc = ledger.epc := by
  obtain ⟨ledger,found,pending⟩ := awaits
  unfold advanceBatch at advanced
  rw [found] at advanced
  dsimp only at advanced
  rw [if_neg (not_not.mpr pending)] at advanced
  simp only [Bool.false_eq_true,if_false] at advanced
  split at advanced
  · cases advanced
    refine ⟨ledger,ledger.settle ⟨.processed,some disposition,none,some finalizedAt⟩,found,?_,rfl,
      rfl⟩
    simp only [settleEvent_find?,if_true,found,Option.map_some]
  · cases advanced

theorem RecentObservationState.remembered_windows (recent : RecentObservationState)
    (event : RfidObservationEvent) : (recent.remembered event).windows = recent.windows := by
  rw [remembered,rememberEvent_windows,released_windows]

/-- What a committed attempt leaves of the memory, and what it changed. -/
theorem TenantState.Attempts.evidences {event : RfidObservationEvent} {clock : Clock}
    {quarantineId evidenceId : Uuid} {middle : Database} {memory : RecentObservationState}
    {tenantId : Uuid}
    (attempts : state.Attempts platform settings event clock quarantineId evidenceId middle memory)
    (mirrors : state.database.ingress.Mirrors tenantId)
    (evidences : state.recent.Evidences tenantId state.database.ingress) :
    memory.Evidences tenantId middle.ingress ∧
      (state.database.inventory.affected middle.inventory = true → ∃ ledger,
        middle.ingress.ledger.find? event.eventId = some ledger ∧
          ledger.processingStatus = .processed) := by
  obtain ⟨row,unpublished,payload⟩ := attempts.queued
  obtain ⟨found,-⟩ := Option.filter_eq_some_iff.mp unpublished
  have keyed : row.eventId = event.eventId := Table.key_of_find? found
  obtain ⟨own,ledger,located,epc⟩ := mirrors row (Table.mem_of_find? found) event payload
  rw [keyed] at located
  obtain ⟨result,processed⟩ := attempts.processed
  have retains := (processObservation_finalizes attempts.pending processed).retains attempts.pending
  have remembered : (state.recent.remembered event).Evidences tenantId state.database.ingress := by
    refine evidences.keep (fun key window found _ => ?_) (.refl _)
    rw [RecentObservationState.remembered_windows] at found
    exact found
  have unaffected : ∀ inventory : Inventory, inventory.affected inventory = false := by
    intro inventory
    simp [Inventory.affected]
  cases attempts.attempted with
  | duplicate ingress finalized =>
      refine ⟨remembered.keep (fun _ _ found _ => found) retains,fun affected => ?_⟩
      rw [unaffected] at affected
      cases affected
  | rejected reason connectivity ingress heard quarantined =>
      refine ⟨remembered.keep (fun _ _ found _ => found) retains,fun affected => ?_⟩
      rw [unaffected] at affected
      cases affected
  | located assignment connectivity binding evidenceStart effect ingress heard bound verdict
      finalized =>
      obtain ⟨before,later,there,settled,processed,same⟩ :=
        advanceBatch_processed attempts.pending finalized
      rw [located] at there
      cases there
      refine ⟨?_,fun _ => ⟨later,settled,processed⟩⟩
      have added : (evidence settings (event.resolvedAt assignment) evidenceStart
          (state.recent.remembered event)).2.Evidences tenantId ingress :=
        remembered.add own attempts.pending.open retains ⟨later,settled,processed,same.trans epc⟩
      cases verdict with
      | ignored result => exact remembered.keep (fun _ _ found _ => found) retains
      | unseen | refreshed | moved => exact added

theorem TenantState.CountsOnce.handle (counts : state.CountsOnce)
    (sound : state.toRawState.Sound) (eventId : EventId) (clock : Clock)
    (quarantineId evidenceId : Uuid) :
    (state.handle platform settings eventId clock quarantineId evidenceId).CountsOnce := by
  have unaffected : state.database.inventory.affected state.database.inventory = false := by
    simp [Inventory.affected]
  rcases RawState.handle_attempts platform settings sound eventId clock quarantineId evidenceId with
    same | ⟨event,middle,memory,rfl,attempts,same⟩
  · refine counts.keep ?_ ?_ ?_ ?_
    · simp only [TenantState.handle,same]
    · simp only [TenantState.handle,same]
      exact ⟨.refl _,counts.mirrors⟩
    · simp only [TenantState.handle,same]
      exact fun _ _ found _ => found
    · simp only [TenantState.handle,same,unaffected,Bool.false_eq_true,if_false]
  · obtain ⟨evidences,settled⟩ := attempts.evidences counts.mirrors counts.evidences
    obtain ⟨result,processed⟩ := attempts.processed
    have finalizes := processObservation_finalizes attempts.pending processed
    have retains := finalizes.retains attempts.pending
    have published : middle.ingress.Retains
        (middle.publishRaw event.eventId clock.finalized).ingress := .of_eq rfl
    have mirrors : (middle.publishRaw event.eventId clock.finalized).ingress.Mirrors
        state.database.registry.tenantId := by
      refine counts.mirrors.touch event.eventId (fun row => row.publish_eventId clock.finalized)
        (fun _ => rfl) ⟨retains.addressed,retains.final⟩ ?_
      rw [Database.publishRaw,finalizes.outbox]
    have registry : (middle.publishRaw event.eventId clock.finalized).registry =
        state.database.registry := (processObservation_observed processed).registry
    refine ⟨?_,?_,?_,?_⟩
    · simp only [TenantState.handle,same]
      rw [registry]
      exact mirrors
    · simp only [TenantState.handle,same]
      rw [registry]
      exact evidences.keep (fun _ _ found _ => found) published
    · intro eventId member
      simp only [TenantState.handle,same] at member ⊢
      have earlier : ∀ eventId ∈ state.effective, ∃ ledger,
          (middle.publishRaw event.eventId clock.finalized).ingress.ledger.find? eventId =
            some ledger ∧ ledger.processingStatus = .processed := by
        intro eventId member
        obtain ⟨ledger,found,processed⟩ := counts.handled eventId member
        exact ⟨ledger,retains.final eventId ledger found processed,processed⟩
      split at member
      · rename_i changed
        rcases List.mem_append.mp member with old | new
        · exact earlier eventId old
        · rw [List.mem_singleton.mp new]
          exact settled changed
      · exact earlier eventId member
    · simp only [TenantState.handle,same]
      split
      · refine List.nodup_append.mpr ⟨counts.once,by simp,?_⟩
        intro first member second new equal
        obtain ⟨ledger,found,processed⟩ := counts.handled first member
        rw [equal,List.mem_singleton.mp new] at found
        exact attempts.pending.open ledger found processed
      · exact counts.once

theorem RecentObservationState.serveForeign_kept {recent : RecentObservationState} {tenantId : Uuid}
    {event : RfidObservationEvent} {progress : Progress} {committed : Bool} {key : Uuid × Epc}
    {window : List RfidObservationEvent}
    (found : (recent.serveForeign tenantId event progress committed).windows.get? key = some window)
    (own : key.1 = tenantId) : recent.windows.get? key = some window := by
  unfold serveForeign at found
  split at found
  · exact found
  · rename_i foreign
    split at found
    · cases progress with
      | untouched => exact found
      | forgot =>
          rw [Progress.reach,released_windows] at found
          exact found
      | remembered =>
          rw [Progress.reach,rememberEvent_windows,released_windows] at found
          exact found
      | added resolved windowSeconds evidenceNotBefore =>
          have entry := get?_add found
          have apart : ¬({ resolved with tenantId := event.tenantId, epc := event.epc } :
              RfidObservationEvent).windowKey = key := by
            rintro rfl
            exact foreign own
          rw [if_neg apart,rememberEvent_windows,released_windows] at entry
          exact entry
    · exact rolledBack_within _ _ key window found

theorem TenantState.next_countsOnce (platform : Platform) (settings : Settings)
    (sound : state.toRawState.Sound) (counts : state.CountsOnce) (event : TenantEvent) :
    (state.next platform settings event).CountsOnce := by
  have still : state.database.ingress.Retains state.database.ingress ∧
      state.database.ingress.Mirrors state.database.registry.tenantId := ⟨.refl _,counts.mirrors⟩
  have settled : ∀ event : PipelineEvent, event.settling = true →
      (state.inPipeline platform settings event).CountsOnce := by
    intro event settling
    obtain ⟨inventory,connectivity,same,-⟩ := state.settle_database platform settings event settling
    rw [same]
    exact counts.keep rfl still (fun _ _ found _ => found) rfl
  have tasks : ∀ attempt, (state.withTasks attempt).CountsOnce := by
    intro attempt
    obtain ⟨replenishment,same⟩ := state.withTasks_database attempt
    rw [same]
    exact counts.keep rfl still (fun _ _ found _ => found) rfl
  cases event with
  | accept device request receivedAt batchId =>
      simp only [next,RawState.accept]
      split
      · exact counts
      · rename_i ingress connectivity accepted
        exact counts.keep rfl (acceptObservationBatch_mirrors counts.mirrors accepted)
          (fun _ _ found _ => found) rfl
  | handle eventId clock quarantineId evidenceId =>
      exact counts.handle sound eventId clock quarantineId evidenceId
  | fail eventId error progress quarantineId now =>
      simp only [next,RawState.fail]
      split
      · exact counts
      · rename_i row unpublished
        have within : (rolledBack state.recent row.payload progress).Within state.recent :=
          RecentObservationState.rolledBack_within row.payload progress
        split
        · exact counts.keep rfl still (fun key window found _ => within key window found) rfl
        · rename_i ingress failed
          exact counts.keep rfl
            (failRaw_mirrors sound.lockstep counts.mirrors failed)
            (fun key window found _ => within key window found) rfl
  | replay quarantineId =>
      simp only [next,RawState.replay]
      split
      · exact counts
      · rename_i result ingress replayed
        exact counts.keep rfl (queueQuarantinedObservationReplay_mirrors counts.mirrors replayed)
          (fun _ _ found _ => found) rfl
  | restart maximumEpcs maximumEventIds =>
      refine counts.keep rfl still ?_ rfl
      intro key window found
      cases found
  | foreign event progress committed =>
      exact counts.keep rfl still (fun _ _ => RecentObservationState.serveForeign_kept) rfl
  | remove storeId request clock eventId =>
      obtain ⟨inventory,same,-⟩ := state.remove_database platform settings storeId request clock
        eventId
      simp only [next,same]
      exact counts.keep rfl still (fun _ _ found _ => found) rfl
  | apply | applyFails | redeliver | rebuild => exact settled _ rfl
  | evaluate | patch => exact tasks _
  | register | publish => exact counts.keep rfl still (fun _ _ found _ => found) rfl

theorem tenant_countsOnce (reachable : (tenant platform settings).Reachable state) :
    state.CountsOnce := by
  have started : ∀ state : TenantState, state.Starts → state.CountsOnce := by
    intro state starts
    refine ⟨?_,⟨?_,?_⟩,?_,?_⟩
    · rw [starts.ingress]
      intro row member
      cases member
    · exact fun key window found own => absurd own (starts.windows key window found)
    · exact fun key window found own => absurd own (starts.windows key window found)
    · rw [starts.effective]
      intro eventId member
      cases member
    · rw [starts.effective]
      exact List.nodup_nil
  refine reachable.induct started ?_
  intro state event after reached counts taken
  cases taken
  exact TenantState.next_countsOnce platform settings (tenant_sound reached) counts event

/-- How far an attempt at an event can get in the memory: it adds the read at the location of its
assignment. -/
def Progress.Of (event : RfidObservationEvent) : Progress → Prop
  | .added resolved _ _ => ∃ assignment, resolved = event.resolvedAt assignment
  | _ => True

/-- At-most-once evidence, between transactions and in the middle of an attempt. -/
theorem evidence_at_most_once (platform : Platform) (settings : Settings)
    (reachable : (tenant platform settings).Reachable state) :
    ((state.recent.reads state.database.registry.tenantId).map RfidObservationEvent.eventId).Nodup ∧
    state.effective.Nodup ∧
    ∀ (row : RfidObservationOutbox) (event : RfidObservationEvent) (progress : Progress),
      unpublishedRow state.database.ingress event.eventId = some row →
      row.payload = .event event → progress.Of event →
      (((progress.reach state.recent event).reads state.database.registry.tenantId).map
        RfidObservationEvent.eventId).Nodup := by
  have counts := tenant_countsOnce reachable
  refine ⟨counts.evidences.readsOnce.nodup,counts.once,?_⟩
  intro row event progress unpublished payload within
  obtain ⟨member,keyed,awaits⟩ := (tenant_sound reachable).lockstep.awaits unpublished
  obtain ⟨own,-⟩ := counts.mirrors row member event payload
  have same : ∀ memory : RecentObservationState, memory.windows = state.recent.windows →
      ((memory.reads state.database.registry.tenantId).map RfidObservationEvent.eventId).Nodup := by
    intro memory windows
    rw [RecentObservationState.reads,windows]
    exact counts.evidences.readsOnce.nodup
  cases progress with
  | untouched => exact same _ rfl
  | forgot => exact same _ (RecentObservationState.released_windows ..)
  | remembered => exact same _ (RecentObservationState.remembered_windows ..)
  | added resolved windowSeconds evidenceNotBefore =>
      obtain ⟨assignment,rfl⟩ := within
      have remembered : (state.recent.remembered event).Evidences state.database.registry.tenantId
          state.database.ingress := by
        refine counts.evidences.keep (fun key window found _ => ?_) (.refl _)
        rw [RecentObservationState.remembered_windows] at found
        exact found
      have once : ((state.recent.remembered event).add (event.resolvedAt assignment) windowSeconds
          evidenceNotBefore).2.ReadsOnce state.database.registry.tenantId :=
        remembered.add_readsOnce own awaits.open
      exact once.nodup

end Runs

namespace Sample

/-- A read fails, is quarantined and replayed, counts, is sent again, and the worker restarts. -/
def replayedRead : List TenantEvent :=
  [.accept ⟨backroomReader,.active⟩ (batch backroomReader "a" 1000000) 1000000 100,
   .fail "a" "RuntimeError: lost connection" .remembered 200 2000000,
   .replay 200,
   .handle "a" (clock 3000000) 201 300,
   .accept ⟨backroomReader,.active⟩ (batch backroomReader "a" 1000000) 4000000 101,
   .handle "a" (clock 5000000) 202 301]

end Sample

theorem evidence_at_most_once_sample :
    (Sample.tenantRun Sample.replayedRead).effective = ["a"] ∧
    (((Sample.tenantRun Sample.replayedRead).recent.reads
      (Sample.tenantRun Sample.replayedRead).database.registry.tenantId).map
        RfidObservationEvent.eventId).Nodup :=
  ⟨by decide +kernel,(evidence_at_most_once Sample.platform Sample.settings
    (Sample.tenantStart_reachable.after (Sample.tenantRun_reached Sample.replayedRead))).1⟩

end Abacus

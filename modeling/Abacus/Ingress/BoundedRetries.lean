import Abacus.Ingress.Drains

/-! Retries of a raw row are bounded over all runs of passes: the failures of a row are counted until
it is published or exhausted.
-/
set_option autoImplicit false

namespace Abacus

open Relational (Table)
open Transition (Machine)

section Tracking

variable {settings : Settings} {ingress later : Ingress} {state after : RawState}
  {ids : List EventId} {steps : List RawStep} {eventId : EventId} {failures : ℕ}

/-- An event after a number of counted failures: it waits, it was published before they were too
many, or it is exhausted. -/
inductive Ingress.Tracks (settings : Settings) (ingress : Ingress) (eventId : EventId) :
    ℕ → Prop where
  | waiting (row : RfidObservationOutbox) (unpublished : unpublishedRow ingress eventId = some row) :
      Tracks settings ingress eventId row.publishAttempts
  | published (row : RfidObservationOutbox) (failures : ℕ)
      (stored : ingress.outbox.find? eventId = some row) (done : row.publishedAt.isSome = true)
      (below : failures < settings.workerMaxAttempts) : Tracks settings ingress eventId failures
  | exhausted (exhausted : ingress.Exhausted settings eventId) :
      Tracks settings ingress eventId settings.workerMaxAttempts

structure Ingress.HoldsAt (ingress later : Ingress) (eventId : EventId) : Prop where
  row : ∀ row, ingress.outbox.find? eventId = some row →
    ∃ other, later.outbox.find? eventId = some other ∧ other.publishedAt = row.publishedAt ∧
      other.publishAttempts = row.publishAttempts
  ledger : ∀ ledger, ingress.ledger.find? eventId = some ledger →
    later.ledger.find? eventId = some ledger
  quarantine : ∀ row ∈ ingress.quarantine.rows, row ∈ later.quarantine.rows

theorem Ingress.SameAt.holdsAt (same : ingress.SameAt later eventId) :
    ingress.HoldsAt later eventId where
  row row stored := ⟨row,same.outbox.trans stored,rfl,rfl⟩
  ledger _ stored := same.ledger.trans stored
  quarantine := same.quarantine

theorem Ingress.Exhausted.hold (exhausted : ingress.Exhausted settings eventId)
    (holds : ingress.HoldsAt later eventId) : later.Exhausted settings eventId := by
  obtain ⟨⟨row,stored,published,attempts⟩,⟨ledger,recorded,outcome⟩,⟨quarantine,member,named⟩⟩ :=
    exhausted
  obtain ⟨other,found,sameTime,sameAttempts⟩ := holds.row row stored
  exact ⟨⟨other,found,by rw [sameTime]; exact published,sameAttempts.trans attempts⟩,
    ⟨ledger,holds.ledger ledger recorded,outcome⟩,
    ⟨quarantine,holds.quarantine quarantine member,named⟩⟩

theorem Ingress.Tracks.hold (tracks : ingress.Tracks settings eventId failures)
    (holds : ingress.HoldsAt later eventId) : later.Tracks settings eventId failures := by
  cases tracks with
  | waiting row unpublished =>
      obtain ⟨stored,open_⟩ := unpublishedRow_eq_some.mp unpublished
      obtain ⟨other,found,sameTime,sameAttempts⟩ := holds.row row stored
      rw [← sameAttempts]
      exact .waiting other (unpublishedRow_eq_some.mpr ⟨found,sameTime.trans open_⟩)
  | published row failures stored done below =>
      obtain ⟨other,found,sameTime,-⟩ := holds.row row stored
      exact .published other failures found (by rw [sameTime]; exact done) below
  | exhausted exhausted => exact .exhausted (exhausted.hold holds)

theorem Ingress.Tracks.bounded (tracks : ingress.Tracks settings eventId failures)
    (below : ingress.Below settings) : failures ≤ settings.workerMaxAttempts ∧
      (failures = settings.workerMaxAttempts → ingress.Exhausted settings eventId) := by
  cases tracks with
  | waiting row unpublished =>
      have less := below.row unpublished
      exact ⟨less.le,fun same => absurd same less.ne⟩
  | published row failures stored done less => exact ⟨less.le,fun same => absurd same less.ne⟩
  | exhausted exhausted => exact ⟨le_rfl,fun _ => exhausted⟩

theorem unpublishedRow_of_published {row : RfidObservationOutbox}
    (stored : ingress.outbox.find? eventId = some row) (done : row.publishedAt.isSome = true) :
    unpublishedRow ingress eventId = none := by
  cases unpublished : unpublishedRow ingress eventId with
  | none => rfl
  | some other =>
      obtain ⟨found,open_⟩ := unpublishedRow_eq_some.mp unpublished
      rw [stored] at found
      cases found
      rw [open_] at done
      cases done

/-- The attempts of a waiting row are the failures that were counted. -/
theorem Ingress.Tracks.counted (tracks : ingress.Tracks settings eventId failures)
    {row : RfidObservationOutbox} (unpublished : unpublishedRow ingress eventId = some row) :
    row.publishAttempts = failures := by
  cases tracks with
  | waiting other here =>
      rw [here] at unpublished
      cases unpublished
      rfl
  | published other failures stored done less =>
      rw [unpublishedRow_of_published stored done] at unpublished
      cases unpublished
  | exhausted exhausted =>
      obtain ⟨other,stored,done,-⟩ := exhausted.row
      rw [unpublishedRow_of_published stored done] at unpublished
      cases unpublished

/-- One attempt at the row counts a failure, or none. -/
theorem RawState.Tries.tracks {outcome : RawOutcome}
    (tries : state.Tries settings eventId outcome after)
    (below : state.database.ingress.Below settings)
    (tracks : state.database.ingress.Tracks settings eventId failures) :
    after.database.ingress.Tracks settings eventId
      (failures + if outcome.fails then 1 else 0) := by
  cases tries with
  | absent outcome gone named =>
      have fine : outcome.fails = false := by
        rcases named with rfl | rfl <;> rfl
      rw [fine]
      exact tracks
  | handled outcome after row later unpublished advances published named =>
      have fine : outcome.fails = false := by
        rcases named with rfl | rfl <;> rfl
      rw [fine]
      refine .published later failures advances.stored published ?_
      rw [← tracks.counted unpublished]
      exact below.row unpublished
  | counted after row later unpublished advances alone less waits =>
      have attempts := advances.attempts
      rw [tracks.counted unpublished] at attempts
      change after.database.ingress.Tracks settings eventId (failures + 1)
      rw [← attempts]
      exact .waiting later (unpublishedRow_eq_some.mpr ⟨advances.stored,waits⟩)
  | terminalized after row later unpublished advances alone last published exhausted =>
      change after.database.ingress.Tracks settings eventId (failures + 1)
      rw [← tracks.counted unpublished,last]
      exact .exhausted exhausted

theorem any_fails_of_absent (absent : eventId ∉ steps.map RawStep.eventId) :
    steps.any (fun step => step.fails eventId) = false := by
  rw [List.any_eq_false]
  intro step member
  have apart : step.eventId ≠ eventId := fun same => absent (List.mem_map.mpr ⟨step,member,same⟩)
  simp [RawStep.fails,apart]

/-- A pass counts a failure of the row, or none. -/
theorem RawState.Drains.tracks (drains : state.Drains settings ids steps after)
    (distinct : (steps.map RawStep.eventId).Nodup)
    (below : state.database.ingress.Below settings)
    (tracks : state.database.ingress.Tracks settings eventId failures) :
    after.database.ingress.Tracks settings eventId
      (failures + if steps.any fun step => step.fails eventId then 1 else 0) := by
  induction drains generalizing failures with
  | done state => exact tracks
  | stopped state other rest outcome after tried stops =>
      rw [List.any_cons,List.any_nil,Bool.or_false,RawStep.fails]
      by_cases same : other = eventId
      · subst same
        rw [decide_eq_true rfl,Bool.true_and]
        exact tried.tracks below tracks
      · rw [decide_eq_false same,Bool.false_and]
        exact tracks.hold (tried.spares.sameAt (Ne.symm same)).holdsAt
  | continued state other rest outcome middle steps after tried goes others ih =>
      rw [List.map_cons,List.nodup_cons] at distinct
      rw [List.any_cons,RawStep.fails]
      by_cases same : other = eventId
      · subst same
        rw [decide_eq_true rfl,Bool.true_and,any_fails_of_absent distinct.1,Bool.or_false]
        exact (tried.tracks below tracks).hold (others.untouched distinct.1).holdsAt
      · rw [decide_eq_false same,Bool.false_and,Bool.false_or]
        exact ih distinct.2 (tried.below below)
          (tracks.hold (tried.spares.sameAt (Ne.symm same)).holdsAt)

end Tracking

section Between

variable {platform : Platform} {settings : Settings} {ingress after : Ingress} {eventId : EventId}

theorem acceptObservationBatch_accepts {registry : Registry}
    {connectivity connectivity' : Connectivity} {device : Device} {request : ObservationBatchCreate}
    {receivedAt : Time} {batchId : Uuid}
    (accepted : acceptObservationBatch platform registry ingress connectivity device request
      receivedAt batchId = .ok (after,connectivity')) :
    ∃ events inserted ledgers, ingress.Accepts after batchId events inserted ledgers := by
  unfold acceptObservationBatch at accepted
  split at accepted
  · cases accepted
  · obtain ⟨current,-,accepted⟩ := bind_eq_ok.mp accepted
    obtain ⟨events,-,accepted⟩ := bind_eq_ok.mp accepted
    obtain ⟨stored,written,accepted⟩ := bind_eq_ok.mp accepted
    obtain ⟨locked,-,done⟩ := bind_eq_ok.mp accepted
    cases done
    obtain ⟨inserted,ledgers,accepts⟩ := storeObservationBatch_accepts written
    exact ⟨events,inserted,ledgers,accepts⟩

theorem Ingress.Accepts.holdsAt {batchId : Uuid} {events : List RfidObservationEvent}
    {inserted ledgers : List RfidObservationEventLedger}
    (accepts : ingress.Accepts after batchId events inserted ledgers) (eventId : EventId) :
    ingress.HoldsAt after eventId where
  row row stored := ⟨row,by rw [Table.find?_append accepts.outbox,stored]; rfl,rfl,rfl⟩
  ledger ledger stored := by rw [Table.find?_append accepts.ledger,stored]; rfl
  quarantine row member := by rw [accepts.quarantine]; exact member

/-- Rows that are new, requeued or no worse than before. -/
theorem Ingress.Below.of_rows (below : ingress.Below settings)
    (rows : ∀ row ∈ after.outbox.rows, row.publishAttempts = 0 ∨ ∃ old ∈ ingress.outbox.rows,
      row.publishedAt = old.publishedAt ∧ row.publishAttempts = old.publishAttempts) :
    after.Below settings := by
  intro row member open_
  have positive := settings.maxAttemptsInRange.1
  rcases rows row member with fresh | ⟨old,stored,sameTime,sameAttempts⟩
  · omega
  · rw [sameAttempts]
    exact below old stored (sameTime.symm.trans open_)

theorem Ingress.Accepts.below {batchId : Uuid} {events : List RfidObservationEvent}
    {inserted ledgers : List RfidObservationEventLedger}
    (accepts : ingress.Accepts after batchId events inserted ledgers)
    (below : ingress.Below settings) : after.Below settings := by
  refine below.of_rows fun row member => ?_
  rw [accepts.outbox] at member
  rcases List.mem_append.mp member with old | new
  · exact .inr ⟨row,old,rfl,rfl⟩
  · obtain ⟨position,inside,rfl⟩ := List.mem_mapIdx.mp new
    exact .inl rfl

theorem requeueEvent_spares {ledger : RfidObservationEventLedger} {event : RfidObservationEvent}
    (requeued : requeueEvent ingress ledger event = .ok after) :
    ingress.Spares after ledger.eventId := by
  unfold requeueEvent at requeued
  dsimp only at requeued
  split at requeued
  · cases requeued
  · split at requeued
    · cases requeued
      refine ⟨fun other apart => ?_,fun other apart => ?_,fun _ => id⟩
      · exact (Table.find?_modify ingress.outbox ledger.eventId other (fun row => row.requeue event)
          fun row => row.requeue_eventId event).trans (if_neg apart)
      · exact (settleEvent_find? ingress ledger.eventId other _).trans (if_neg apart)
    · cases requeued

theorem requeueEvent_below {ledger : RfidObservationEventLedger} {event : RfidObservationEvent}
    (below : ingress.Below settings) (requeued : requeueEvent ingress ledger event = .ok after) :
    after.Below settings := by
  unfold requeueEvent at requeued
  dsimp only at requeued
  split at requeued
  · cases requeued
  · split at requeued
    · cases requeued
      refine below.of_rows fun row member => ?_
      obtain ⟨old,stored,rfl⟩ := List.mem_map.mp member
      by_cases here : old.eventId = ledger.eventId
      · rw [if_pos (decide_eq_true here)]
        exact .inl rfl
      · rw [if_neg (by simpa using here)]
        exact .inr ⟨old,stored,rfl,rfl⟩
    · cases requeued

theorem poison_below (below : ingress.Below settings) (eventId : EventId) :
    (ingress.poison eventId).Below settings := by
  refine below.of_rows fun row member => ?_
  obtain ⟨old,stored,rfl⟩ := List.mem_map.mp member
  refine .inr ⟨old,stored,?_⟩
  split
  · exact ⟨rfl,rfl⟩
  · exact ⟨rfl,rfl⟩

theorem poison_holdsAt (ingress : Ingress) (poisoned eventId : EventId) :
    ingress.HoldsAt (ingress.poison poisoned) eventId where
  row row stored := by
    change ∃ other, (ingress.outbox.modify poisoned RfidObservationOutbox.poison
      RfidObservationOutbox.poison_eventId).find? eventId = some other ∧ _
    rw [Table.find?_modify]
    by_cases same : eventId = poisoned
    · subst same
      rw [if_pos rfl,stored]
      exact ⟨row.poison,rfl,rfl,rfl⟩
    · rw [if_neg same]
      exact ⟨row,stored,rfl,rfl⟩
  ledger _ stored := stored
  quarantine _ member := member

theorem Ingress.Lockstep.poison (lockstep : ingress.Lockstep) (eventId : EventId) :
    (ingress.poison eventId).Lockstep :=
  lockstep.touch RfidObservationOutbox.poison_eventId rfl rfl rfl rfl (fun _ => rfl)
    (fun _ _ payload => by cases payload)

/-- Between the passes no row gets worse. -/
theorem RawState.next_below {state : RawState} (below : state.database.ingress.Below settings)
    (event : RawEvent) (others : event.isWorkers = false) :
    (state.next platform settings event).database.ingress.Below settings := by
  cases event with
  | accept device request receivedAt batchId =>
      change (state.accept platform device request receivedAt batchId).database.ingress.Below settings
      unfold RawState.accept
      split
      · exact below
      · rename_i ingress connectivity accepted
        obtain ⟨events,inserted,ledgers,accepts⟩ := acceptObservationBatch_accepts accepted
        exact accepts.below below
  | handle eventId clock quarantineId evidenceId => cases others
  | fail eventId error progress quarantineId now => cases others
  | replay quarantineId =>
      change (state.replay quarantineId).database.ingress.Below settings
      unfold RawState.replay
      split
      · exact below
      · rename_i result ingress replayed
        cases queueQuarantinedObservationReplay_replayed replayed with
        | unchanged => exact below
        | requeued quarantine ledger after found named located rejected written =>
            exact requeueEvent_below below written
  | restart recent => exact below
  | register registry => exact below
  | elsewhere connectivity inventory replenishment policies => exact below

/-- Between the passes the row of an event changes only by a replay of the event. -/
theorem RawState.next_holdsAt {state : RawState} (event : RawEvent)
    (others : event.isWorkers = false) {passes : List (List RawStep)}
    (kept : PassEvent.replays ⟨state,passes⟩ eventId (.between event) = false) :
    state.database.ingress.HoldsAt (state.next platform settings event).database.ingress eventId := by
  have same : state.database.ingress.HoldsAt state.database.ingress eventId :=
    (Ingress.SameAt.refl _ _).holdsAt
  cases event with
  | accept device request receivedAt batchId =>
      change state.database.ingress.HoldsAt
        (state.accept platform device request receivedAt batchId).database.ingress eventId
      unfold RawState.accept
      split
      · exact same
      · rename_i ingress connectivity accepted
        obtain ⟨events,inserted,ledgers,accepts⟩ := acceptObservationBatch_accepts accepted
        exact accepts.holdsAt eventId
  | handle eventId clock quarantineId evidenceId => cases others
  | fail eventId error progress quarantineId now => cases others
  | replay quarantineId =>
      change state.database.ingress.HoldsAt (state.replay quarantineId).database.ingress eventId
      unfold RawState.replay
      split
      · exact same
      · rename_i result ingress replayed
        cases queueQuarantinedObservationReplay_replayed replayed with
        | unchanged => exact same
        | requeued quarantine ledger after found named located rejected written =>
            refine ((requeueEvent_spares written).sameAt fun here => ?_).holdsAt
            rw [PassEvent.replays,found,Option.any_some,named,here,decide_eq_true rfl] at kept
            cases kept
  | restart recent => exact same
  | register registry => exact same
  | elsewhere connectivity inventory replenishment policies => exact same

end Between

section Runs

variable {platform : Platform} {settings : Settings} {state after : PassState} {eventId : EventId}

theorem PassState.next_pass {limit : ℕ} {attempts : EventId → RawAttempt}
    (taken : (workerPasses platform settings).next state (.pass limit attempts) = some after) :
    ∃ steps raw, rawPass platform settings state.raw limit attempts = .ok (steps,raw) ∧
      after = ⟨raw,state.passes ++ [steps]⟩ := by
  simp only [workerPasses,PassState.next] at taken
  cases passed : rawPass platform settings state.raw limit attempts with
  | error failure =>
      rw [passed] at taken
      cases taken
  | ok result =>
      obtain ⟨steps,raw⟩ := result
      rw [passed] at taken
      cases taken
      exact ⟨steps,raw,rfl,rfl⟩

theorem PassState.next_between {event : RawEvent}
    (taken : (workerPasses platform settings).next state (.between event) = some after) :
    event.isWorkers = false ∧ after = { state with raw := state.raw.next platform settings event } := by
  simp only [workerPasses,PassState.next] at taken
  split at taken
  · cases taken
  · rename_i others
    cases taken
    exact ⟨Bool.eq_false_iff.mpr others,rfl⟩

theorem PassState.next_fit (fit : state.raw.Fit settings) {event : PassEvent}
    (taken : (workerPasses platform settings).next state event = some after) :
    after.raw.Fit settings := by
  cases event with
  | pass limit attempts =>
      obtain ⟨steps,raw,passed,rfl⟩ := PassState.next_pass taken
      exact (rawPass_drains fit passed).2.2
  | between event =>
      obtain ⟨others,rfl⟩ := PassState.next_between taken
      exact ⟨RawState.next_sound fit.sound event,RawState.next_below fit.below event others⟩
  | poison poisoned =>
      cases taken
      exact ⟨⟨fit.sound.lockstep.poison poisoned,fit.sound.stored⟩,poison_below fit.below poisoned⟩

theorem workerPasses_fit (reachable : (workerPasses platform settings).Reachable state) :
    state.raw.Fit settings := by
  refine reachable.invariant ?_ fun before event after fit taken => PassState.next_fit fit taken
  rintro start ⟨empty,accepted,-⟩
  refine ⟨⟨?_,fun other member => ?_⟩,fun row member => ?_⟩
  · rw [empty]
    exact Ingress.empty_lockstep
  · rw [accepted] at member
    cases member
  · rw [empty] at member
    cases member

theorem run_fit (fit : state.raw.Fit settings) {events : List PassEvent}
    (ran : (workerPasses platform settings).run state events = some after) :
    after.raw.Fit settings := by
  have stepped : ∀ (state : PassState) event (after : PassState), state.raw.Fit settings →
      (workerPasses platform settings).next state event = some after → after.raw.Fit settings :=
    fun _ _ _ held taken => PassState.next_fit held taken
  exact Machine.run_invariant stepped fit ran

/-- A step that does not replay the event counts the failures of its row. -/
theorem PassState.next_tracks (fit : state.raw.Fit settings) {event : PassEvent} {failures : ℕ}
    (kept : event.replays state eventId = false)
    (taken : (workerPasses platform settings).next state event = some after)
    (tracks : state.raw.database.ingress.Tracks settings eventId failures) :
    ∃ more, after.raw.database.ingress.Tracks settings eventId (failures + more) ∧
      after.failures eventId = state.failures eventId + more := by
  cases event with
  | pass limit attempts =>
      obtain ⟨steps,raw,passed,rfl⟩ := PassState.next_pass taken
      obtain ⟨drains,distinct,-⟩ := rawPass_drains fit passed
      refine ⟨_,drains.tracks distinct fit.below tracks,?_⟩
      rw [PassState.failures,PassState.failures,List.countP_append,List.countP_singleton]
  | between event =>
      obtain ⟨others,rfl⟩ := PassState.next_between taken
      exact ⟨0,tracks.hold (RawState.next_holdsAt event others kept),rfl⟩
  | poison poisoned =>
      cases taken
      exact ⟨0,tracks.hold (poison_holdsAt _ poisoned eventId),rfl⟩

theorem run_tracks (fit : state.raw.Fit settings) {events : List PassEvent} {failures : ℕ}
    (kept : (workerPasses platform settings).Respects
      (fun state event => event.replays state eventId = false) state events)
    (ran : (workerPasses platform settings).run state events = some after)
    (tracks : state.raw.database.ingress.Tracks settings eventId failures) :
    ∃ more, after.raw.database.ingress.Tracks settings eventId (failures + more) ∧
      after.failures eventId = state.failures eventId + more := by
  induction events generalizing state failures with
  | nil =>
      cases ran
      exact ⟨0,tracks,rfl⟩
  | cons event events ih =>
      rw [Machine.run_cons] at ran
      obtain ⟨middle,taken,rest⟩ := Option.bind_eq_some_iff.mp ran
      obtain ⟨first,tracked,counted⟩ := PassState.next_tracks fit kept.1 taken tracks
      obtain ⟨more,later,total⟩ := ih (PassState.next_fit fit taken) (kept.2 middle taken) rest tracked
      refine ⟨first + more,?_,by omega⟩
      rw [← Nat.add_assoc]
      exact later

theorem attemptsLeft_eq_zero {ingress : Ingress} :
    (∀ row ∈ ingress.outbox.rows, row.publishedAt.isSome = true) →
      ingress.attemptsLeft settings = 0 := by
  intro published
  refine Table.total_eq_zero fun row member => ?_
  rw [if_neg]
  intro open_
  have done := published row member
  rw [open_] at done
  cases done

theorem published_of_attemptsLeft {ingress : Ingress} (below : ingress.Below settings)
    (exhausted : ingress.attemptsLeft settings = 0) :
    ∀ row ∈ ingress.outbox.rows, row.publishedAt.isSome = true := by
  intro row member
  cases published : row.publishedAt with
  | some _ => rfl
  | none =>
      have weightless := List.sum_eq_zero_iff.mp exhausted _ (List.mem_map_of_mem member)
      rw [if_pos published] at weightless
      have less := below row member published
      omega

/-- As many passes as there are attempts left leave no row unpublished. -/
theorem run_drains (fit : state.raw.Fit settings) {passes : List (ℕ × (EventId → RawAttempt))}
    (positive : ∀ pass ∈ passes, 1 ≤ pass.1)
    (ran : (workerPasses platform settings).run state
      (passes.map fun pass => .pass pass.1 pass.2) = some after)
    (enough : state.raw.database.ingress.attemptsLeft settings ≤ passes.length) :
    ∀ row ∈ after.raw.database.ingress.outbox.rows, row.publishedAt.isSome = true := by
  induction passes generalizing state with
  | nil =>
      cases ran
      exact published_of_attemptsLeft fit.below (Nat.le_zero.mp enough)
  | cons pass passes ih =>
      rw [List.map_cons,Machine.run_cons] at ran
      obtain ⟨middle,taken,rest⟩ := Option.bind_eq_some_iff.mp ran
      refine ih (PassState.next_fit fit taken)
        (fun other member => positive other (List.mem_cons_of_mem _ member)) rest ?_
      obtain ⟨steps,raw,passed,rfl⟩ := PassState.next_pass taken
      obtain ⟨drains,-,-⟩ := rawPass_drains fit passed
      rw [List.length_cons] at enough
      cases pending : pendingRawEvents state.raw.database.ingress pass.1 with
      | nil =>
          rw [pending] at drains
          have idle : state.raw.database.ingress.attemptsLeft settings = 0 :=
            attemptsLeft_eq_zero (published_of_idle (positive pass List.mem_cons_self) pending)
          have left := drains.attemptsLeft_le fit.below
          dsimp only
          omega
      | cons first others =>
          have listed : first ∈ pendingRawEvents state.raw.database.ingress pass.1 := by
            rw [pending]
            exact List.mem_cons_self
          obtain ⟨row,unpublished⟩ := unpublished_of_pending listed
          rw [pending] at drains
          have left := drains.attemptsLeft_lt fit.below unpublished
          dsimp only
          omega

/-- Unpublished rows have attempts left; a pass publishes its first row or counts an attempt at it;
a row that fails in so many passes is quarantined, whatever comes between the passes except its
replay; a pass gets past terminal rows, keeps what it committed, and a failing step writes nothing
but the records of its own event; and passes alone drain the outbox. -/
theorem bounded_retries (settings : Settings)
    (reachable : (workerPasses platform settings).Reachable state) :
    (∀ row ∈ state.raw.database.ingress.outbox.rows, row.publishedAt = none →
      row.publishAttempts < settings.workerMaxAttempts) ∧
    (∀ limit attempts steps raw first others,
      pendingRawEvents state.raw.database.ingress limit = first :: others →
      rawPass platform settings state.raw limit attempts = .ok (steps,raw) →
      ∃ row later, unpublishedRow state.raw.database.ingress first = some row ∧
        raw.database.ingress.outbox.find? first = some later ∧
        later.publishAttempts = row.publishAttempts + 1 ∧
        (later.publishedAt.isSome = true ∨
          later.publishedAt = none ∧ steps.map RawStep.outcome = [.counted])) ∧
    (∀ eventId row events after,
      unpublishedRow state.raw.database.ingress eventId = some row →
      (workerPasses platform settings).Respects
        (fun state event => event.replays state eventId = false) state events →
      (workerPasses platform settings).run state events = some after →
      row.publishAttempts + after.failures eventId ≤
          settings.workerMaxAttempts + state.failures eventId ∧
        (row.publishAttempts + after.failures eventId =
            settings.workerMaxAttempts + state.failures eventId →
          after.raw.database.ingress.Exhausted settings eventId)) ∧
    (∀ limit attempts steps raw,
      rawPass platform settings state.raw limit attempts = .ok (steps,raw) →
      (∃ rest, pendingRawEvents state.raw.database.ingress limit =
          steps.map RawStep.eventId ++ rest ∧
        (rest = [] ∨ ∃ last, steps.getLast? = some last ∧ last.outcome.stops = true)) ∧
      (∀ step ∈ steps,
        step.after.database.ingress.SameAt raw.database.ingress step.eventId) ∧
      ∀ step ∈ steps, step.outcome.fails = true →
        step.after.database =
            { step.before.database with ingress := step.after.database.ingress } ∧
          step.before.database.ingress.Spares step.after.database.ingress step.eventId) ∧
    ∀ (passes : List (ℕ × (EventId → RawAttempt))) after,
      (∀ pass ∈ passes, 1 ≤ pass.1) →
      (workerPasses platform settings).run state
        (passes.map fun pass => .pass pass.1 pass.2) = some after →
      state.raw.database.ingress.attemptsLeft settings ≤ passes.length →
      ∀ row ∈ after.raw.database.ingress.outbox.rows, row.publishedAt.isSome = true := by
  have fit := workerPasses_fit reachable
  refine ⟨fit.below,?_,?_,?_,fun passes after => run_drains fit⟩
  · intro limit attempts steps raw first others pending passed
    obtain ⟨drains,distinct,-⟩ := rawPass_drains fit passed
    have listed : first ∈ pendingRawEvents state.raw.database.ingress limit := by
      rw [pending]
      exact List.mem_cons_self
    obtain ⟨row,unpublished⟩ := unpublished_of_pending listed
    rw [pending] at drains
    obtain ⟨later,stored,attempted,ending⟩ := drains.first_row distinct unpublished
    exact ⟨row,later,unpublished,stored,attempted,ending⟩
  · intro eventId row events after unpublished kept ran
    obtain ⟨more,tracks,counted⟩ := run_tracks fit kept ran (.waiting row unpublished)
    obtain ⟨most,exhausted⟩ := tracks.bounded (run_fit fit ran).below
    refine ⟨by omega,fun last => exhausted ?_⟩
    omega
  · intro limit attempts steps raw passed
    obtain ⟨drains,distinct,-⟩ := rawPass_drains fit passed
    refine ⟨drains.listed,fun step member => (drains.alone distinct step member).2,?_⟩
    intro step member fails
    exact ⟨(drains.tried step member).alone fails,(drains.tried step member).spares⟩

end Runs

namespace Sample

/-- Two failures exhaust an attempt. -/
theorem two_inRange : 1 ≤ 2 ∧ 2 ≤ 100 := by decide

def twoAttempts : Settings :=
  { settings with workerMaxAttempts := 2, maxAttemptsInRange := two_inRange }

def poisoned (eventId : EventId) (now : Time) : EventId → RawAttempt := fun other =>
  ⟨clock now,201,300,if other = eventId then some .beforeCommit else none,.untouched,
    "RuntimeError: lost connection",200,now⟩

def acceptedReads : List PassEvent :=
  [.between (.accept ⟨backroomReader,.active⟩ (batch backroomReader "a" 1000000) 1000000 100),
   .between (.accept ⟨backroomReader,.active⟩ (batch backroomReader "b" 1000001) 1000001 101)]

def twoPasses : List PassEvent := [.pass 250 (poisoned "a" 2000000),.pass 250 (poisoned "a" 3000000)]

def waiting : PassState :=
  ((workerPasses platform twoAttempts).run ⟨rawStart,[]⟩ acceptedReads).getD ⟨rawStart,[]⟩

def drained : PassState := ((workerPasses platform twoAttempts).run waiting twoPasses).getD waiting

theorem waiting_reachable : (workerPasses platform twoAttempts).Reachable waiting :=
  ⟨⟨rawStart,[]⟩,acceptedReads,⟨rfl,rfl,rfl⟩,Machine.run_getD (by decide +kernel)⟩

theorem waiting_first :
    (unpublishedRow waiting.raw.database.ingress "a").isSome = true := by decide +kernel

end Sample

theorem bounded_retries_sample :
    Sample.drained.passes.map (fun steps => steps.map RawStep.outcome) =
        [[.counted],[.terminalized,.published]] ∧
      Sample.drained.raw.database.ingress.Exhausted Sample.twoAttempts "a" :=
  ⟨by decide +kernel,
    ((bounded_retries Sample.twoAttempts Sample.waiting_reachable).2.2.1 "a"
      ((unpublishedRow Sample.waiting.raw.database.ingress "a").get Sample.waiting_first)
      Sample.twoPasses Sample.drained (Option.some_get _).symm (by decide +kernel)
      (Machine.run_getD (by decide +kernel))).2 (by decide +kernel)⟩

end Abacus

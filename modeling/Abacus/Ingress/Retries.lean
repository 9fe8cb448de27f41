import Abacus.Ingress.Windows
import Abacus.Inventory.Verdicts
import Abacus.Library.Lru
import Abacus.Model.Sample

/-! Attempts at an observation that were rolled back.
What an attempt does to the worker's memory is an access to the event identifiers and, for a fresh
event, an access to the windows. Restoring the checkpoint undoes both up to the place of the
event's own keys, and the next attempt puts these at the end whatever their place was.
-/
set_option autoImplicit false

namespace Abacus

open Relational (OrderedDict Table)

/-- What `process_observation` passes to `add` besides the event. -/
structure EvidenceArguments where
  assignment : DeviceAssignment
  windowSeconds : ℕ
  evidenceNotBefore : Option Time

structure Observed where
  duplicate : Bool
  window : Option (List RfidObservationEvent)
  recent : RecentObservationState

namespace RecentObservationState

variable {recent after : RecentObservationState} {event : RfidObservationEvent}

/-- The steps of `process_observation` in memory: forget a replayed event, remember the event, and
add it to its window unless it is a duplicate. -/
def observe (recent : RecentObservationState) (event : RfidObservationEvent)
    (arguments : EvidenceArguments) : Observed :=
  match (recent.released event).rememberEvent event with
  | (false,recent) => ⟨true,none,recent⟩
  | (true,recent) =>
      let added := recent.add (event.resolvedAt arguments.assignment) arguments.windowSeconds
        arguments.evidenceNotBefore
      ⟨false,some added.1,added.2⟩

inductive Stage where
  | started
  | released
  | remembered
  | added (arguments : EvidenceArguments)

def Stage.reach (stage : Stage) (recent : RecentObservationState) (event : RfidObservationEvent) :
    RecentObservationState :=
  match stage with
  | .started => recent
  | .released => recent.released event
  | .remembered => recent.remembered event
  | .added arguments => (recent.observe event arguments).recent

def failedAttempt (recent : RecentObservationState) (event : RfidObservationEvent) (stage : Stage) :
    RecentObservationState :=
  (stage.reach recent event).restore (recent.checkpoint event)

structure Bounded (recent : RecentObservationState) : Prop where
  eventIds : recent.eventIds.rows.length ≤ recent.maximumEventIds
  windows : recent.windows.rows.length ≤ recent.maximumEpcs

section Accesses

def isFresh (recent : RecentObservationState) (event : RfidObservationEvent) : Bool :=
  event.replayedFromQuarantineId.isSome || !recent.eventIds.contains event.eventKey

theorem contains_released : (recent.released event).eventIds.contains event.eventKey =
    !recent.isFresh event := by
  unfold released isFresh
  split
  · rename_i replayed
    rw [replayed]
    have gone : (recent.eventIds.erase event.eventKey).get? event.eventKey = none := by
      rw [OrderedDict.get?_erase,if_pos rfl]
    rw [OrderedDict.get?_eq_none_iff] at gone
    simp [forgetEvent,OrderedDict.contains,gone]
  · rename_i original
    simp [Bool.eq_false_iff.mpr original]

theorem others_released : (recent.released event).eventIds.others event.eventKey =
    recent.eventIds.others event.eventKey := by
  unfold released
  split
  · exact OrderedDict.others_erase
  · rfl

theorem get?_of_contains {eventIds : OrderedDict (Uuid × EventId) Unit} {key : Uuid × EventId}
    (known : eventIds.contains key = true) : eventIds.get? key = some () := by
  obtain ⟨entry,found⟩ := Option.isSome_iff_exists.mp known
  simp [OrderedDict.get?,found]

theorem get?_of_not_contains {eventIds : OrderedDict (Uuid × EventId) Unit} {key : Uuid × EventId}
    (unknown : eventIds.contains key = false) : eventIds.get? key = none := by
  rw [OrderedDict.get?_eq_none_iff]
  exact Option.isNone_iff_eq_none.mp (Option.isSome_eq_false_iff.mp unknown)

theorem released_bounded (bounded : recent.Bounded) : (recent.released event).Bounded := by
  unfold released
  split
  · refine ⟨?_,bounded.windows⟩
    rw [forgetEvent,OrderedDict.rows_erase]
    exact OrderedDict.length_others_le.trans bounded.eventIds
  · exact bounded

theorem released_maxima : (recent.released event).maximumEventIds = recent.maximumEventIds ∧
    (recent.released event).maximumEpcs = recent.maximumEpcs := by
  unfold released
  split <;> exact ⟨rfl,rfl⟩

/-- Remembering an event is an access to its identifier. -/
theorem rememberEvent_access (bounded : recent.Bounded) : recent.rememberEvent event =
    (!recent.eventIds.contains event.eventKey,{ recent with
      eventIds := recent.eventIds.access recent.maximumEventIds event.eventKey () }) := by
  unfold rememberEvent
  split
  · rename_i known
    have found := get?_of_contains known
    rw [OrderedDict.access_of_present bounded.eventIds found,OrderedDict.set_of_get? found,known]
    rfl
  · rename_i unknown
    have missing : recent.eventIds.contains event.eventKey = false := Bool.eq_false_iff.mpr unknown
    have absent := get?_of_not_contains missing
    have touched : (recent.eventIds.set event.eventKey ()).moveToEnd event.eventKey =
        recent.eventIds.set event.eventKey () := by
      apply Table.ext
      rw [OrderedDict.rows_touch,OrderedDict.rows_set_of_absent absent,
        OrderedDict.others_of_absent absent]
    unfold OrderedDict.access
    rw [touched,missing]
    rfl

theorem remembered_eq (bounded : recent.Bounded) : recent.remembered event =
    { recent with
      eventIds := recent.eventIds.access recent.maximumEventIds event.eventKey () } := by
  rw [remembered,rememberEvent_access (released_bounded bounded),released_maxima.1,
    OrderedDict.access_congr others_released]
  unfold released
  split <;> rfl

/-- Adding an event is an access to its window. -/
theorem add_access (windowSeconds : ℕ) (evidenceNotBefore : Option Time) :
    recent.add event windowSeconds evidenceNotBefore =
      (retained (recent.windowOf event) event windowSeconds evidenceNotBefore,{ recent with
        windows := recent.windows.access recent.maximumEpcs event.windowKey
          (retained (recent.windowOf event) event windowSeconds evidenceNotBefore) }) := by
  unfold add OrderedDict.access
  dsimp only
  rw [OrderedDict.set_touch]
  rfl

end Accesses

section Attempts

theorem rememberEvent_released : (recent.released event).rememberEvent event =
    (recent.isFresh event,recent.remembered event) := by
  have verdict : ((recent.released event).rememberEvent event).1 = recent.isFresh event := by
    unfold rememberEvent
    rw [contains_released]
    cases recent.isFresh event <;> rfl
  exact Prod.ext verdict rfl

/-- The window of an attempt, and the memory it leaves. -/
theorem observe_eq (bounded : recent.Bounded) (arguments : EvidenceArguments) :
    recent.observe event arguments =
      let kept := retained (recent.windowOf event) (event.resolvedAt arguments.assignment)
        arguments.windowSeconds arguments.evidenceNotBefore
      ⟨!recent.isFresh event,if recent.isFresh event then some kept else none,
        { recent with
          eventIds := recent.eventIds.access recent.maximumEventIds event.eventKey ()
          windows := if recent.isFresh event then
            recent.windows.access recent.maximumEpcs event.windowKey kept else recent.windows }⟩ := by
  have memory : recent.remembered event = { recent with
      eventIds := recent.eventIds.access recent.maximumEventIds event.eventKey () } :=
    remembered_eq bounded
  unfold observe
  rw [rememberEvent_released]
  cases fresh : recent.isFresh event with
  | false =>
      dsimp only
      rw [memory]
      rfl
  | true =>
      dsimp only
      rw [memory,add_access]
      rfl

/-- What a rolled-back attempt leaves: the event's own keys may have moved to the end. -/
structure Retried (recent : RecentObservationState) (event : RfidObservationEvent)
    (after : RecentObservationState) : Prop where
  maximumEventIds : after.maximumEventIds = recent.maximumEventIds
  maximumEpcs : after.maximumEpcs = recent.maximumEpcs
  eventIds : after.eventIds = recent.eventIds ∨
    after.eventIds = recent.eventIds.moveToEnd event.eventKey
  windows : after.windows = recent.windows ∨
    recent.isFresh event = true ∧ after.windows = recent.windows.moveToEnd event.windowKey

theorem Retried.refl (recent : RecentObservationState) (event : RfidObservationEvent) :
    recent.Retried event recent := ⟨rfl,rfl,.inl rfl,.inl rfl⟩

theorem Retried.get?_eventIds (retried : recent.Retried event after) (key : Uuid × EventId) :
    after.eventIds.get? key = recent.eventIds.get? key := by
  rcases retried.eventIds with same | moved
  · rw [same]
  · rw [moved,OrderedDict.get?_moveToEnd]

theorem Retried.get?_windows (retried : recent.Retried event after) (key : Uuid × Epc) :
    after.windows.get? key = recent.windows.get? key := by
  rcases retried.windows with same | ⟨-,moved⟩
  · rw [same]
  · rw [moved,OrderedDict.get?_moveToEnd]

theorem Retried.contains_eventIds (retried : recent.Retried event after) (key : Uuid × EventId) :
    after.eventIds.contains key = recent.eventIds.contains key := by
  have same := congrArg Option.isSome (retried.get?_eventIds key)
  simpa [OrderedDict.get?,OrderedDict.contains] using same

theorem Retried.fresh (retried : recent.Retried event after) :
    after.isFresh event = recent.isFresh event := by
  rw [isFresh,isFresh,retried.contains_eventIds]

theorem Retried.bounded (retried : recent.Retried event after) (bounded : recent.Bounded) :
    after.Bounded := by
  constructor
  · rw [retried.maximumEventIds]
    rcases retried.eventIds with same | moved
    · rw [same]
      exact bounded.eventIds
    · rw [moved,OrderedDict.length_moveToEnd]
      exact bounded.eventIds
  · rw [retried.maximumEpcs]
    rcases retried.windows with same | ⟨-,moved⟩
    · rw [same]
      exact bounded.windows
    · rw [moved,OrderedDict.length_moveToEnd]
      exact bounded.windows

theorem Retried.trans {later : RecentObservationState} (first : recent.Retried event after)
    (second : after.Retried event later) : recent.Retried event later where
  maximumEventIds := second.maximumEventIds.trans first.maximumEventIds
  maximumEpcs := second.maximumEpcs.trans first.maximumEpcs
  eventIds := by
    rcases second.eventIds with same | moved
    · rw [same]
      exact first.eventIds
    · right
      rcases first.eventIds with kept | earlier
      · rw [moved,kept]
      · rw [moved,earlier,OrderedDict.moveToEnd_moveToEnd]
  windows := by
    rcases second.windows with same | ⟨fresh,moved⟩
    · rw [same]
      exact first.windows
    · right
      refine ⟨first.fresh ▸ fresh,?_⟩
      rcases first.windows with kept | ⟨-,earlier⟩
      · rw [moved,kept]
      · rw [moved,earlier,OrderedDict.moveToEnd_moveToEnd]

/-- The next attempt does the same as without the earlier ones. -/
theorem Retried.observe (retried : recent.Retried event after) (bounded : recent.Bounded)
    (arguments : EvidenceArguments) :
    after.observe event arguments = recent.observe event arguments := by
  have window : after.windowOf event = recent.windowOf event := by
    rw [windowOf,windowOf,retried.get?_windows]
  have eventIds : after.eventIds.access recent.maximumEventIds event.eventKey () =
      recent.eventIds.access recent.maximumEventIds event.eventKey () := by
    apply OrderedDict.access_congr
    rcases retried.eventIds with same | moved
    · rw [same]
    · rw [moved,OrderedDict.others_moveToEnd]
  rw [observe_eq (retried.bounded bounded),observe_eq bounded,retried.fresh,window,
    retried.maximumEventIds,retried.maximumEpcs,eventIds]
  cases fresh : recent.isFresh event with
  | false =>
      have same : after.windows = recent.windows :=
        retried.windows.resolve_right fun moved => by simp [fresh] at moved
      simp only [same]
  | true =>
      have windows (kept : List RfidObservationEvent) :
          after.windows.access recent.maximumEpcs event.windowKey kept =
            recent.windows.access recent.maximumEpcs event.windowKey kept := by
        apply OrderedDict.access_congr
        rcases retried.windows with same | ⟨-,moved⟩
        · rw [same]
        · rw [moved,OrderedDict.others_moveToEnd]
      simp only [windows]
      rfl

end Attempts

section Restoring

theorem restoreEventIds_eq (eventIds : OrderedDict (Uuid × EventId) Unit) :
    restoreEventIds eventIds (recent.checkpoint event) =
      eventIds.undo event.eventKey (recent.eventIds.get? event.eventKey) recent.eventIds.first? := by
  unfold restoreEventIds checkpoint OrderedDict.undo
  dsimp only
  cases known : recent.eventIds.contains event.eventKey with
  | false =>
      rw [get?_of_not_contains known]
      cases recent.eventIds.first? <;> rfl
  | true =>
      rw [get?_of_contains known]
      cases recent.eventIds.first? <;> rfl

theorem restoreWindows_eq (windows : OrderedDict (Uuid × Epc) (List RfidObservationEvent)) :
    restoreWindows windows (recent.checkpoint event) =
      windows.undo event.windowKey (recent.windows.get? event.windowKey) recent.windows.first? := by
  have again (oldest : (Uuid × Epc) × List RfidObservationEvent)
      (front : recent.windows.first? = some oldest) :
      oldest.1 ≠ event.windowKey ∨ (recent.windows.get? event.windowKey).isSome = true := by
    by_cases same : oldest.1 = event.windowKey
    · right
      rw [← same,OrderedDict.get?_first front]
      rfl
    · exact .inl same
  unfold restoreWindows checkpoint OrderedDict.undo
  dsimp only
  cases oldest : recent.windows.first? with
  | none => cases recent.windows.get? event.windowKey <;> rfl
  | some entry =>
      dsimp only
      rw [if_pos (again entry oldest)]
      cases recent.windows.get? event.windowKey <;> rfl

/-- A rolled-back attempt leaves every entry, and moves at most the event's own keys. -/
theorem failedAttempt_retried (bounded : recent.Bounded) (stage : Stage) :
    recent.Retried event (recent.failedAttempt event stage) := by
  unfold failedAttempt restore
  cases stage with
  | started =>
      refine ⟨rfl,rfl,.inl ?_,.inl ?_⟩
      · rw [Stage.reach,restoreEventIds_eq,OrderedDict.undo_self]
      · rw [Stage.reach,restoreWindows_eq,OrderedDict.undo_self]
  | released =>
      refine ⟨released_maxima.1,released_maxima.2,?_,.inl ?_⟩
      · rw [Stage.reach,restoreEventIds_eq]
        unfold RecentObservationState.released
        split
        · exact OrderedDict.undo_erase
        · exact .inl OrderedDict.undo_self
      · rw [Stage.reach,restoreWindows_eq,released_windows,OrderedDict.undo_self]
  | remembered =>
      rw [Stage.reach,remembered_eq bounded]
      refine ⟨rfl,rfl,?_,.inl ?_⟩
      · rw [restoreEventIds_eq]
        exact OrderedDict.undo_access bounded.eventIds
      · rw [restoreWindows_eq,OrderedDict.undo_self]
  | added arguments =>
      rw [Stage.reach,observe_eq bounded]
      refine ⟨rfl,rfl,?_,?_⟩
      · rw [restoreEventIds_eq]
        exact OrderedDict.undo_access bounded.eventIds
      · rw [restoreWindows_eq]
        cases fresh : recent.isFresh event with
        | false => exact .inl OrderedDict.undo_self
        | true =>
            rcases OrderedDict.undo_access bounded.windows with same | moved
            · exact .inl same
            · exact .inr ⟨rfl,moved⟩

theorem observe_bounded (bounded : recent.Bounded) (arguments : EvidenceArguments) :
    (recent.observe event arguments).recent.Bounded := by
  rw [observe_eq bounded]
  refine ⟨OrderedDict.length_access bounded.eventIds,?_⟩
  dsimp only
  split
  · exact OrderedDict.length_access bounded.windows
  · exact bounded.windows

def failedAttempts (recent : RecentObservationState) (event : RfidObservationEvent)
    (stages : List Stage) : RecentObservationState :=
  stages.foldl (fun recent stage => recent.failedAttempt event stage) recent

theorem failedAttempts_retried (bounded : recent.Bounded) (stages : List Stage) :
    recent.Retried event (recent.failedAttempts event stages) := by
  induction stages generalizing recent with
  | nil => exact Retried.refl recent event
  | cons stage stages ih =>
      have once : recent.Retried event (recent.failedAttempt event stage) :=
        failedAttempt_retried bounded stage
      exact once.trans (ih (once.bounded bounded))

end Restoring

section Worker

/-- How the worker's run records the stage of a failed attempt. -/
def Stage.progress (stage : Stage) (recent : RecentObservationState)
    (event : RfidObservationEvent) : Progress :=
  match stage with
  | .started => .untouched
  | .released => .forgot
  | .remembered => .remembered
  | .added arguments =>
      if recent.isFresh event then
        .added (event.resolvedAt arguments.assignment) arguments.windowSeconds
          arguments.evidenceNotBefore
      else .remembered

/-- A failed attempt is what the worker's run rolls back. -/
theorem failedAttempt_eq_rolledBack (stage : Stage) : recent.failedAttempt event stage =
    rolledBack recent (.event event) (stage.progress recent event) := by
  cases stage with
  | started => rfl
  | released => rfl
  | remembered => rfl
  | added arguments =>
      rw [failedAttempt,Stage.reach,observe,rememberEvent_released,Stage.progress]
      cases recent.isFresh event with
      | false => rfl
      | true => rfl

/-- A committed attempt leaves the memory as its last stage does. -/
theorem processObservation_stage {platform : Platform} {settings : Settings} {db stored : Database}
    {clock : Clock} {quarantineId evidenceId : Uuid} {result : ProcessingResult}
    (processed : processObservation platform settings db recent event clock quarantineId evidenceId =
      .ok (result,stored,after)) :
    ∃ stage : Stage, after = stage.reach recent event := by
  cases fresh : recent.isFresh event with
  | false =>
      unfold processObservation at processed
      rw [rememberEvent_released,fresh] at processed
      obtain ⟨⟨answer,database⟩,-,done⟩ := bind_eq_ok.mp processed
      cases done
      exact ⟨.remembered,rfl⟩
  | true =>
      have adds (assignment : DeviceAssignment) (evidenceStart : Option Time) :
          (evidence settings (event.resolvedAt assignment) evidenceStart
            (recent.remembered event)).2 =
              (Stage.added ⟨assignment,settings.rfidMoveConfirmationWindowSeconds,
                evidenceStart⟩).reach recent event := by
        rw [Stage.reach,observe,rememberEvent_released,fresh]
        rfl
      cases processObservation_attempted processed with
      | duplicate ingress finalized => exact ⟨.remembered,rfl⟩
      | rejected reason connectivity ingress heard quarantined => exact ⟨.remembered,rfl⟩
      | located assignment connectivity binding evidenceStart effect ingress heard bound verdict
          finalized =>
          cases verdict with
          | ignored result => exact ⟨.remembered,rfl⟩
          | unseen result counts absent => exact ⟨_,adds assignment evidenceStart⟩
          | refreshed result state new counts found same later =>
              exact ⟨_,adds assignment evidenceStart⟩
          | moved decision inventory replenishment counts inferred timely apart performed =>
              exact ⟨_,adds assignment evidenceStart⟩

end Worker

theorem empty_bounded (maximumEpcs maximumEventIds : ℕ) :
    (⟨Table.empty,Table.empty,maximumEpcs,maximumEventIds⟩ : RecentObservationState).Bounded :=
  ⟨Nat.zero_le _,Nat.zero_le _⟩

/-- After any failed attempts an attempt has the same verdict, window and memory as without them. A
failed attempt keeps every remembered event and every window, and all attempts keep the bounds. -/
theorem rolled_back_attempts_leave_no_trace (bounded : recent.Bounded)
    (event : RfidObservationEvent) :
    (∀ stages arguments, (recent.failedAttempts event stages).observe event arguments =
      recent.observe event arguments) ∧
    (∀ stage, (∀ key, (recent.failedAttempt event stage).eventIds.contains key =
        recent.eventIds.contains key) ∧
      ∀ key, (recent.failedAttempt event stage).windows.get? key = recent.windows.get? key) ∧
    (∀ stage, (recent.failedAttempt event stage).Bounded) ∧
    ∀ arguments, (recent.observe event arguments).recent.Bounded := by
  have once (stage : Stage) : recent.Retried event (recent.failedAttempt event stage) :=
    failedAttempt_retried bounded stage
  refine ⟨?_,?_,?_,observe_bounded bounded⟩
  · intro stages arguments
    exact (failedAttempts_retried bounded stages).observe bounded arguments
  · exact fun stage => ⟨(once stage).contains_eventIds,(once stage).get?_windows⟩
  · exact fun stage => (once stage).bounded bounded

end RecentObservationState

namespace Sample

/-- Room for one event and one window. -/
def crowded : RecentObservationState := ⟨Table.empty,Table.empty,1,1⟩

def floorArguments : EvidenceArguments := ⟨assignment 31 floorReader floorId,10,none⟩

def occupied : RecentObservationState :=
  (crowded.observe (read floorReader floorId "first" 0 1) floorArguments).recent

theorem occupied_bounded : occupied.Bounded :=
  RecentObservationState.observe_bounded (RecentObservationState.empty_bounded 1 1) floorArguments

end Sample

theorem rolled_back_attempts_leave_no_trace_sample :
    (Sample.occupied.failedAttempts (Sample.read Sample.floorReader Sample.floorId "second" 1 2)
        [.remembered,.added Sample.floorArguments]).observe
      (Sample.read Sample.floorReader Sample.floorId "second" 1 2) Sample.floorArguments =
    Sample.occupied.observe (Sample.read Sample.floorReader Sample.floorId "second" 1 2)
      Sample.floorArguments :=
  (RecentObservationState.rolled_back_attempts_leave_no_trace Sample.occupied_bounded
    (Sample.read Sample.floorReader Sample.floorId "second" 1 2)).1 _ _

end Abacus

import Abacus.Model.EventWorker

/-! What the worker's memory keeps of its evidence windows. -/
set_option autoImplicit false

namespace Abacus

open Relational (OrderedDict Table)

namespace RecentObservationState

variable {recent after : RecentObservationState}

/-- Every window of `after` is the one that `recent` has. Windows may be missing. -/
def Within (after recent : RecentObservationState) : Prop :=
  ∀ key window, after.windows.get? key = some window → recent.windows.get? key = some window

theorem Within.refl (recent : RecentObservationState) : recent.Within recent := fun _ _ => id

@[simp] theorem rememberEvent_windows (recent : RecentObservationState)
    (event : RfidObservationEvent) : (recent.rememberEvent event).2.windows = recent.windows := by
  unfold rememberEvent
  split <;> rfl

@[simp] theorem released_windows (recent : RecentObservationState) (event : RfidObservationEvent) :
    (recent.released event).windows = recent.windows := by
  unfold released
  split <;> rfl

def windowOf (recent : RecentObservationState) (event : RfidObservationEvent) :
    List RfidObservationEvent :=
  (recent.windows.get? event.windowKey).getD []

theorem add_window (event : RfidObservationEvent) (windowSeconds : ℕ)
    (evidenceNotBefore : Option Time) :
    (recent.add event windowSeconds evidenceNotBefore).1 =
      retained (recent.windowOf event) event windowSeconds evidenceNotBefore := rfl

/-- Only the window of the event changes; any window may be evicted. -/
theorem get?_add {event : RfidObservationEvent} {windowSeconds : ℕ}
    {evidenceNotBefore : Option Time} {key : Uuid × Epc} {window : List RfidObservationEvent}
    (found : (recent.add event windowSeconds evidenceNotBefore).2.windows.get? key = some window) :
    if event.windowKey = key then
      window = retained (recent.windowOf event) event windowSeconds evidenceNotBefore
    else recent.windows.get? key = some window := by
  have kept : (((recent.windows.set event.windowKey (recent.windowOf event)).moveToEnd
      event.windowKey).set event.windowKey
        (retained (recent.windowOf event) event windowSeconds evidenceNotBefore)).get? key =
          some window := by
    unfold add at found
    dsimp only at found
    split at found
    · exact OrderedDict.get?_of_popFirst found
    · exact found
  rw [OrderedDict.get?_set] at kept
  split at kept
  · rename_i same
    rw [if_pos same]
    exact (Option.some.inj kept).symm
  · rename_i apart
    rw [if_neg apart]
    rw [OrderedDict.get?_moveToEnd,OrderedDict.get?_set,if_neg apart] at kept
    exact kept

theorem newest_eq {reads : List RfidObservationEvent} {latest : Time}
    (bound : ∀ item ∈ reads, item.observedAt ≤ latest) :
    reads.foldl (fun newest item => max newest item.observedAt) latest = latest := by
  induction reads with
  | nil => rfl
  | cons item reads ih =>
      rw [List.foldl_cons,max_eq_left (bound item (List.mem_cons_self ..))]
      exact ih fun item member => bound item (List.mem_cons_of_mem _ member)

theorem mem_of_retained {window : List RfidObservationEvent} {event item : RfidObservationEvent}
    {windowSeconds : ℕ} {evidenceNotBefore : Option Time}
    (member : item ∈ retained window event windowSeconds evidenceNotBefore) :
    item ∈ window ∨ item = event := by
  have listed := (List.mem_filter.mp member).1
  simpa using listed

/-- An event that no read of the window is newer than sets the cutoff. -/
theorem mem_retained_iff {window : List RfidObservationEvent} {event item : RfidObservationEvent}
    {windowSeconds : ℕ} {evidenceNotBefore : Option Time}
    (latest : ∀ read ∈ window, read.observedAt ≤ event.observedAt) :
    item ∈ retained window event windowSeconds evidenceNotBefore ↔
      (item ∈ window ∨ item = event) ∧
        event.observedAt - seconds windowSeconds ≤ item.observedAt ∧
        ∀ start ∈ evidenceNotBefore, start ≤ item.observedAt := by
  have newest : (window ++ [event]).foldl (fun newest item => max newest item.observedAt)
      event.observedAt = event.observedAt := by
    refine newest_eq fun item member => ?_
    rcases List.mem_append.mp member with old | new
    · exact latest item old
    · rw [List.mem_singleton.mp new]
  unfold retained
  dsimp only
  rw [newest,List.mem_filter,Bool.and_eq_true,decide_eq_true_eq,List.mem_append,
    List.mem_singleton,Option.all_eq_true]
  simp

/-- Restoring a checkpoint brings no window that was not there when it was taken. -/
theorem restore_within {event : RfidObservationEvent}
    (others : ∀ key window, after.windows.get? key = some window → key ≠ event.windowKey →
      recent.windows.get? key = some window) :
    (after.restore (recent.checkpoint event)).Within recent := by
  intro key window found
  have erased : ∀ key window, (after.windows.erase event.windowKey).get? key = some window →
      recent.windows.get? key = some window := by
    intro key window found
    rw [OrderedDict.get?_erase] at found
    split at found
    · cases found
    · rename_i apart
      exact others key window found (Ne.symm apart)
  have returned : ∀ before, recent.windows.get? event.windowKey = some before → ∀ key window,
      (after.windows.set event.windowKey before).get? key = some window →
      recent.windows.get? key = some window := by
    intro before stored key window found
    rw [OrderedDict.get?_set] at found
    split at found
    · rename_i same
      cases found
      rw [← same]
      exact stored
    · rename_i apart
      exact others key window found (Ne.symm apart)
  have front : ∀ (windows : OrderedDict (Uuid × Epc) (List RfidObservationEvent)) (again : Prop)
      [Decidable again] (oldestKey : Uuid × Epc) (oldestValues : List RfidObservationEvent),
      recent.windows.first? = some (oldestKey,oldestValues) →
      (∀ key window, windows.get? key = some window → recent.windows.get? key = some window) →
      ((if again then windows.set oldestKey oldestValues else windows).moveToFront
        oldestKey).get? key = some window → recent.windows.get? key = some window := by
    intro windows again _ oldestKey oldestValues oldest own found
    rw [OrderedDict.get?_moveToFront] at found
    split at found
    · rw [OrderedDict.get?_set] at found
      split at found
      · rename_i same
        cases found
        rw [← same]
        exact OrderedDict.get?_first oldest
      · exact own key window found
    · exact own key window found
  change (restoreWindows after.windows (recent.checkpoint event)).get? key = some window at found
  unfold restoreWindows checkpoint at found
  dsimp only at found
  cases stored : recent.windows.get? event.windowKey with
  | none =>
      rw [stored] at found
      cases oldest : recent.windows.first? with
      | none =>
          rw [oldest] at found
          exact erased key window found
      | some entry =>
          rw [oldest] at found
          exact front _ _ _ _ oldest erased found
  | some before =>
      rw [stored] at found
      cases oldest : recent.windows.first? with
      | none =>
          rw [oldest] at found
          exact returned before stored key window found
      | some entry =>
          rw [oldest] at found
          exact front _ _ _ _ oldest (returned before stored) found

/-- A failed attempt leaves the worker with windows that it had. -/
theorem rolledBack_within (payload : StoredPayload) (progress : Progress) :
    (rolledBack recent payload progress).Within recent := by
  cases payload with
  | invalid => exact Within.refl recent
  | event event =>
      refine restore_within fun key window found apart => ?_
      cases progress with
      | untouched => exact found
      | forgot =>
          rw [Progress.reach,released_windows] at found
          exact found
      | remembered =>
          rw [Progress.reach,rememberEvent_windows,released_windows] at found
          exact found
      | added resolved windowSeconds evidenceNotBefore =>
          have apart : ({ resolved with tenantId := event.tenantId, epc := event.epc } :
              RfidObservationEvent).windowKey ≠ key := Ne.symm apart
          have kept := get?_add found
          rw [if_neg apart,rememberEvent_windows,released_windows] at kept
          exact kept

end RecentObservationState

end Abacus

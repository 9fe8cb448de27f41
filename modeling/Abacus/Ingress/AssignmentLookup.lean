import Abacus.Library.Ranking
import Abacus.Library.EffectiveDated
import Abacus.Model.EventWorker
import Abacus.Model.Sample

/-! The assignment of a device at one instant, as the ingress and the worker look it up.
The ingress searches the history that it has loaded for the window of a batch, the worker asks
the database for each observation.
-/
set_option autoImplicit false

namespace Abacus

open Relational (Table)
open Temporal (Span)

section Queries

/-- An answer ordered by the latest start: assignments with one start come in any order. -/
structure NewestFirst (rows answer : List DeviceAssignment) : Prop where
  rows : answer.Perm rows
  sorted : Ranking.Descending DeviceAssignment.effectiveFrom answer

theorem newestFirst_insertionSort (rows : List DeviceAssignment) :
    NewestFirst rows
      (rows.insertionSort fun left right => right.effectiveFrom ≤ left.effectiveFrom) :=
  ⟨List.perm_insertionSort _ rows,Ranking.descending_insertionSort (fun _ _ => Iff.rfl) rows⟩

variable (registry : Registry) (deviceId : Uuid)

/-- The rows of the ingress side's query for a window. -/
def assignmentsWithin (windowStart windowEnd : Time) : List DeviceAssignment :=
  registry.deviceAssignments.select fun assignment =>
    decide (assignment.deviceId = deviceId) && decide (assignment.effectiveFrom ≤ windowEnd) &&
      assignment.effectiveTo.all fun finish => decide (windowStart < finish)

def assignmentsAt (instant : Time) : List DeviceAssignment :=
  registry.deviceAssignments.select fun assignment =>
    decide (assignment.deviceId = deviceId) &&
      inForce assignment.effectiveFrom assignment.effectiveTo instant

def DistinctStarts : Prop :=
  (registry.deviceAssignments.select fun assignment =>
    decide (assignment.deviceId = deviceId)).Pairwise fun left right =>
      left.effectiveFrom ≠ right.effectiveFrom

theorem loadEffectiveAssignmentHistory_newestFirst (windowStart windowEnd : Time) :
    NewestFirst (assignmentsWithin registry deviceId windowStart windowEnd)
      (loadEffectiveAssignmentHistory registry deviceId windowStart windowEnd) :=
  newestFirst_insertionSort _

/-- The worker's query. -/
def effectiveAssignment (instant : Time) : Option DeviceAssignment :=
  ((assignmentsAt registry deviceId instant).insertionSort fun left right =>
    right.effectiveFrom ≤ left.effectiveFrom).head?

end Queries

section Worker

variable {registry : Registry} {event : RfidObservationEvent} {device : Device}

/-- For an active device the worker's verdict is read off its query. -/
theorem resolveEffectiveAssignment_of_active
    (known : registry.devices.find? event.deviceId = some device) (active : device.status = .active) :
    resolveEffectiveAssignment registry event =
      (effectiveAssignment registry event.deviceId event.observedAt).elim
        (.error .deviceAssignmentUnavailable) fun assignment =>
          if assignment.storeId ≠ event.storeId ∨ assignment.zoneId ≠ event.zoneId then
            .error .deviceAssignmentMismatch
          else .ok assignment := by
  unfold resolveEffectiveAssignment
  rw [known]
  dsimp only
  rw [if_neg (not_not_intro active)]
  unfold effectiveAssignment assignmentsAt
  split <;> next found => rw [found]; rfl

theorem resolved_ok_iff (known : registry.devices.find? event.deviceId = some device)
    (active : device.status = .active) (assignment : DeviceAssignment) :
    resolveEffectiveAssignment registry event = .ok assignment ↔
      effectiveAssignment registry event.deviceId event.observedAt = some assignment ∧
        assignment.storeId = event.storeId ∧ assignment.zoneId = event.zoneId := by
  rw [resolveEffectiveAssignment_of_active known active]
  cases effectiveAssignment registry event.deviceId event.observedAt with
  | none => simp
  | some found =>
      rw [Option.elim_some,Option.some.injEq]
      split
      · next mismatch =>
          refine ⟨nofun,?_⟩
          rintro ⟨rfl,store,zone⟩
          exact absurd mismatch (by simp [store,zone])
      · next fits =>
          rw [not_or,not_not,not_not] at fits
          constructor
          · intro resolved
            cases resolved
            exact ⟨rfl,fits⟩
          · rintro ⟨rfl,-⟩
            rfl

theorem resolved_unavailable_iff (known : registry.devices.find? event.deviceId = some device)
    (active : device.status = .active) :
    resolveEffectiveAssignment registry event = .error .deviceAssignmentUnavailable ↔
      effectiveAssignment registry event.deviceId event.observedAt = none := by
  rw [resolveEffectiveAssignment_of_active known active]
  cases effectiveAssignment registry event.deviceId event.observedAt with
  | none => simp
  | some found =>
      rw [Option.elim_some]
      split <;> simp

end Worker

section Ingress

variable {registry : Registry} {deviceId : Uuid} {windowStart windowEnd instant : Time}
  {history queried : List DeviceAssignment}

/-- A row of the worker's query is in every window around the instant. -/
theorem within_of_inForce {assignment : DeviceAssignment} (after : windowStart ≤ instant)
    (before : instant ≤ windowEnd)
    (holds : inForce assignment.effectiveFrom assignment.effectiveTo instant = true) :
    assignment.effectiveFrom ≤ windowEnd ∧
      ∀ finish ∈ assignment.effectiveTo, windowStart < finish := by
  let span : Span Time := ⟨assignment.effectiveFrom,assignment.effectiveTo⟩
  have inside : instant ∈ span.instants := inForce_iff.mp holds
  exact Span.overlaps_of_mem inside after before

theorem filter_assignmentsWithin (after : windowStart ≤ instant) (before : instant ≤ windowEnd) :
    (assignmentsWithin registry deviceId windowStart windowEnd).filter
        (fun assignment => inForce assignment.effectiveFrom assignment.effectiveTo instant) =
      assignmentsAt registry deviceId instant := by
  unfold assignmentsWithin assignmentsAt Table.select
  rw [List.filter_filter]
  apply List.filter_congr
  intro assignment member
  cases holds : inForce assignment.effectiveFrom assignment.effectiveTo instant with
  | false => simp
  | true =>
      obtain ⟨started,unfinished⟩ := within_of_inForce after before holds
      have covered : (assignment.effectiveTo.all fun finish => decide (windowStart < finish)) = true := by
        cases ended : assignment.effectiveTo with
        | none => rfl
        | some finish => simpa using unfinished finish ended
      simp [started,covered]

theorem distinct_of_newestFirst (distinct : DistinctStarts registry deviceId)
    (asked : NewestFirst (assignmentsAt registry deviceId instant) queried) :
    queried.Pairwise fun left right => left.effectiveFrom ≠ right.effectiveFrom := by
  have selected : (assignmentsAt registry deviceId instant).Sublist
      (registry.deviceAssignments.select fun assignment =>
        decide (assignment.deviceId = deviceId)) :=
    List.monotone_filter_right _ fun assignment both => (Bool.and_eq_true_iff.mp both).1
  exact asked.rows.symm.pairwise (distinct.sublist selected) Ne.symm

/-- Within its window the loaded history gives what the worker's query gives. -/
theorem resolveFromHistory_eq (distinct : DistinctStarts registry deviceId)
    (after : windowStart ≤ instant) (before : instant ≤ windowEnd)
    (loaded : NewestFirst (assignmentsWithin registry deviceId windowStart windowEnd) history)
    (asked : NewestFirst (assignmentsAt registry deviceId instant) queried) :
    resolveFromHistory history instant =
      queried.head?.elim (.error assignmentUnavailable) .ok := by
  have matches_ := loaded.rows.filter fun assignment =>
    inForce assignment.effectiveFrom assignment.effectiveTo instant
  rw [filter_assignmentsWithin after before] at matches_
  have found := Ranking.find?_eq_head? loaded.sorted asked.sorted
    (matches_.trans asked.rows.symm) (distinct_of_newestFirst distinct asked)
  unfold resolveFromHistory
  rw [found]
  cases queried.head? <;> rfl

end Ingress

theorem foldl_min_le {instants : List Time} {first instant : Time}
    (member : instant ∈ first :: instants) : instants.foldl min first ≤ instant :=
  List.min_le_of_mem member

theorem le_foldl_max {instants : List Time} {first instant : Time}
    (member : instant ∈ first :: instants) : instant ≤ instants.foldl max first :=
  List.le_max_of_mem member

/-- At the receipt of a batch and at each of its observations the two lookups agree. -/
theorem assignment_lookups_agree (registry : Registry) (request : ObservationBatchCreate)
    (receivedAt instant : Time) (distinct : DistinctStarts registry request.deviceId)
    (member : instant ∈ receivedAt :: request.observations.map ObservationInput.observedAt) :
    let times := request.observations.map ObservationInput.observedAt
    let windowStart := times.foldl min receivedAt
    let windowEnd := times.foldl max receivedAt
    (∀ history queried,
      NewestFirst (assignmentsWithin registry request.deviceId windowStart windowEnd) history →
      NewestFirst (assignmentsAt registry request.deviceId instant) queried →
        resolveFromHistory history instant =
          queried.head?.elim (.error assignmentUnavailable) .ok) ∧
      ∀ event device, event.deviceId = request.deviceId → event.observedAt = instant →
        registry.devices.find? request.deviceId = some device → device.status = .active →
        let resolved := resolveFromHistory
          (loadEffectiveAssignmentHistory registry request.deviceId windowStart windowEnd) instant
        (∀ assignment, resolveEffectiveAssignment registry event = .ok assignment ↔
          resolved = .ok assignment ∧ assignment.storeId = event.storeId ∧
            assignment.zoneId = event.zoneId) ∧
        (resolveEffectiveAssignment registry event = .error .deviceAssignmentUnavailable ↔
          resolved = .error assignmentUnavailable) := by
  intro times windowStart windowEnd
  have agree : ∀ history queried,
      NewestFirst (assignmentsWithin registry request.deviceId windowStart windowEnd) history →
      NewestFirst (assignmentsAt registry request.deviceId instant) queried →
        resolveFromHistory history instant =
          queried.head?.elim (.error assignmentUnavailable) .ok := fun _ _ =>
    resolveFromHistory_eq distinct (foldl_min_le member) (le_foldl_max member)
  refine ⟨agree,?_⟩
  rintro event device same rfl known active
  rw [← same] at known
  have resolved := agree _ _
    (loadEffectiveAssignmentHistory_newestFirst registry request.deviceId windowStart windowEnd)
    (newestFirst_insertionSort _)
  change _ = (effectiveAssignment registry request.deviceId event.observedAt).elim _ _ at resolved
  rw [← same] at resolved ⊢
  dsimp only
  rw [resolved,resolved_unavailable_iff known active]
  cases found : effectiveAssignment registry event.deviceId event.observedAt with
  | none =>
      refine ⟨fun assignment => ?_,by simp⟩
      rw [resolved_ok_iff known active,found]
      simp
  | some assigned =>
      refine ⟨fun assignment => ?_,by simp⟩
      rw [resolved_ok_iff known active,found]
      simp

namespace Sample

/-- The reader moves to the floor while its first assignment still runs, and for a while back. -/
def moves : List DeviceAssignment :=
  [{ id := 30, deviceId := backroomReader, storeId, zoneId := backroomId, effectiveFrom := 0,
     effectiveTo := some 50 },
   { id := 31, deviceId := backroomReader, storeId, zoneId := floorId, effectiveFrom := 40,
     effectiveTo := none },
   { id := 32, deviceId := backroomReader, storeId, zoneId := backroomId, effectiveFrom := 60,
     effectiveTo := some 80 }]

theorem moves_distinct : (moves.map DeviceAssignment.id).Nodup := by decide

def movedRegistry : Registry := { registry with deviceAssignments := ⟨moves,moves_distinct⟩ }

def movedReads : List ObservationInput :=
  [{ eventId := "early", epc := tag, observedAt := 45, rssi := -40 },
   { eventId := "late", epc := tag, observedAt := 80, rssi := -40 }]

theorem movedReads_sized : 1 ≤ movedReads.length ∧ movedReads.length ≤ 1000 := by decide

theorem movedReads_unique : (movedReads.map ObservationInput.eventId).Nodup := by decide

def movedRequest : ObservationBatchCreate where
  deviceId := backroomReader
  observations := movedReads
  sized := movedReads_sized
  uniqueEvents := movedReads_unique

theorem moved_distinctStarts : DistinctStarts movedRegistry movedRequest.deviceId := by
  unfold DistinctStarts
  decide

end Sample

theorem assignment_lookups_agree_sample :
    DistinctStarts Sample.movedRegistry Sample.movedRequest.deviceId ∧
      resolveFromHistory
        (loadEffectiveAssignmentHistory Sample.movedRegistry Sample.backroomReader 45 90) 80 =
          (Sample.moves[1]?).elim (.error assignmentUnavailable) .ok := by
  refine ⟨Sample.moved_distinctStarts,?_⟩
  have agree := assignment_lookups_agree Sample.movedRegistry Sample.movedRequest 90 80
    Sample.moved_distinctStarts (by decide)
  exact agree.1 _ _ (loadEffectiveAssignmentHistory_newestFirst _ _ 45 90)
    (newestFirst_insertionSort _)

end Abacus

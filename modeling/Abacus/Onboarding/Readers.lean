import Abacus.Ingress.AssignmentLookup
import Abacus.Onboarding.Credentials

/-! What RFID processing finds of the devices that onboarding has written.
A device has one assignment, which starts when the device is added and does not end. The ingress
and the worker find that one, whatever the window and whatever the other devices.
-/
set_option autoImplicit false

namespace Abacus.Onboarding

open Relational (Table)
open Transition (Machine)

section Views

def Store.view (store : Store) : Abacus.Store := ⟨store.id,store.status⟩

def Zone.view (zone : Zone) : Abacus.Zone := ⟨zone.id,zone.storeId,zone.kind⟩

def Device.view (device : Device) : Abacus.Device := ⟨device.id,device.status⟩

def DeviceAssignment.view (assignment : DeviceAssignment) : Abacus.DeviceAssignment :=
  ⟨assignment.id,assignment.deviceId,assignment.storeId,assignment.zoneId,assignment.effectiveFrom,
    assignment.effectiveTo⟩

/-- The rows of a tenant as RFID processing reads them, beside a catalog. -/
def Database.registry (db : Database) (tenantId : Uuid) (catalog : Registry) : Registry :=
  { catalog with
    tenantId := tenantId
    stores := db.stores.project (fun store => store.tenantId = tenantId) Store.view fun _ => rfl
    zones := db.zones.project (fun zone => zone.tenantId = tenantId) Zone.view fun _ => rfl
    devices := db.devices.project (fun device => device.tenantId = tenantId) Device.view
      fun _ => rfl
    deviceAssignments := db.deviceAssignments.project
      (fun assignment => assignment.tenantId = tenantId) DeviceAssignment.view fun _ => rfl }

end Views

section Readers

variable {db : Database} {device : Device}

/-- The assignments of a device that a query selects are the one that it has, or none. -/
theorem select_assignments {assignment : DeviceAssignment}
    (only : db.deviceAssignments.rows.filter (fun row => row.deviceId = device.id) = [assignment])
    (own : assignment.tenantId = device.tenantId) (catalog : Registry)
    (p : Abacus.DeviceAssignment → Bool) :
    ((db.registry device.tenantId catalog).deviceAssignments.select fun row =>
      decide (row.deviceId = device.id) && p row) =
        if p assignment.view then [assignment.view] else [] := by
  have rows : ((db.registry device.tenantId catalog).deviceAssignments.select fun row =>
      decide (row.deviceId = device.id) && p row) =
        ((db.deviceAssignments.rows.filter fun row => row.deviceId = device.id).filter fun row =>
          row.tenantId = device.tenantId && p row.view).map DeviceAssignment.view := by
    simp only [Table.select,Database.registry,Table.project,List.filter_map,List.filter_filter,
      Function.comp_def,DeviceAssignment.view]
    congr 2
    funext row
    ac_rfl
  rw [rows,only]
  by_cases chosen : p assignment.view = true <;> simp [own,chosen]

theorem mem_views {Row View : Type} {rows : List Row} {p : Row → Bool} {view : Row → View}
    {row : Row} (member : row ∈ rows) (chosen : p row = true) :
    view row ∈ (rows.filter p).map view :=
  List.mem_map_of_mem (List.mem_filter.mpr ⟨member,chosen⟩)

theorem mem_only {assignment : DeviceAssignment} (held : Constraints db)
    (member : device ∈ db.devices.rows)
    (only : db.deviceAssignments.rows.filter (fun row => row.deviceId = device.id) = [assignment]) :
    assignment ∈ db.deviceAssignments.rows ∧ assignment.deviceId = device.id ∧
      assignment.tenantId = device.tenantId := by
  have listed : assignment ∈
      db.deviceAssignments.rows.filter (fun row => row.deviceId = device.id) := by simp [only]
  obtain ⟨stored,own⟩ := List.mem_filter.mp listed
  obtain ⟨other,found,same,tenant⟩ := (held.assignments assignment stored).1
  rw [of_decide_eq_true own] at same
  rw [db.devices.eq_of_key found member same] at tenant
  exact ⟨stored,of_decide_eq_true own,tenant.symm⟩

/-- In every reachable state the ingress and the worker find the one assignment of a device at
every instant from its start on, in a zone that the tenant's store has, and none before. -/
theorem onboarded_readers_locate {runtime : Runtime}
    (reachable : (onboardingMachine runtime).Reachable db) (member : device ∈ db.devices.rows)
    (catalog : Registry) :
    ∃ assignment, (db.registry device.tenantId catalog).deviceAssignments.rows.filter
        (fun row => row.deviceId = device.id) = [assignment] ∧
      (db.registry device.tenantId catalog).hasZone ⟨assignment.storeId,assignment.zoneId⟩ ∧
      DistinctStarts (db.registry device.tenantId catalog) device.id ∧
      (∀ windowStart instant windowEnd, windowStart ≤ instant → instant ≤ windowEnd →
        resolveFromHistory (loadEffectiveAssignmentHistory
            (db.registry device.tenantId catalog) device.id windowStart windowEnd) instant =
          if assignment.effectiveFrom ≤ instant then .ok assignment
          else .error assignmentUnavailable) ∧
      ∀ event, event.deviceId = device.id →
        resolveEffectiveAssignment (db.registry device.tenantId catalog) event =
          if assignment.effectiveFrom ≤ event.observedAt then
            if assignment.storeId ≠ event.storeId ∨ assignment.zoneId ≠ event.zoneId then
              .error .deviceAssignmentMismatch
            else .ok assignment
          else .error .deviceAssignmentUnavailable := by
  obtain ⟨start,requests,rfl,reached⟩ := reachable
  have credited := credited_of_run reached
  have held := credited.coherent.constraints
  obtain ⟨assignment,only,unended⟩ := credited.coherent.settled.devices device member
  obtain ⟨stored,ofDevice,own⟩ := mem_only held member only
  have selects := select_assignments only own catalog
  have inForce_eq : ∀ instant, inForce assignment.view.effectiveFrom assignment.view.effectiveTo
      instant = decide (assignment.view.effectiveFrom ≤ instant) := by
    intro instant
    simp [inForce,DeviceAssignment.view,unended]
  have known : (db.registry device.tenantId catalog).devices.find? device.id =
      some device.view :=
    (Table.find?_eq_some_iff _ _ _).mpr ⟨mem_views member (by simp),rfl⟩
  refine ⟨assignment.view,?_,?_,?_,?_,?_⟩
  · simpa [Table.select] using selects fun _ => true
  · obtain ⟨zone,place,sameZone,sameStore,sameTenant⟩ := (held.assignments assignment stored).2
    have found : (db.registry device.tenantId catalog).zones.find? assignment.zoneId =
        some zone.view :=
      (Table.find?_eq_some_iff _ _ _).mpr
        ⟨mem_views place (by simp [sameTenant,own]),sameZone⟩
    simp [Registry.hasZone,DeviceAssignment.view,found,Zone.view,sameStore]
  · have alone := selects fun _ => true
    simp only [Bool.and_true,if_true] at alone
    rw [DistinctStarts,alone]
    exact List.pairwise_singleton _ _
  · intro windowStart instant windowEnd after before
    have within := selects fun row => decide (row.effectiveFrom ≤ windowEnd) &&
      row.effectiveTo.all fun finish => decide (windowStart < finish)
    simp only [← Bool.and_assoc] at within
    rw [loadEffectiveAssignmentHistory,within]
    by_cases started : assignment.view.effectiveFrom ≤ instant
    · rw [if_pos (by simpa [DeviceAssignment.view,unended] using started.trans before),
        if_pos started]
      change resolveFromHistory [assignment.view] instant = _
      rw [resolveFromHistory,List.find?_singleton,inForce_eq,decide_eq_true started]
      rfl
    · rw [if_neg started]
      split
      · change resolveFromHistory [assignment.view] instant = _
        rw [resolveFromHistory,List.find?_singleton,inForce_eq,decide_eq_false started]
        rfl
      · rfl
  · rintro event same
    rw [← same] at known
    rw [resolveEffectiveAssignment_of_active known (credited.statuses device member)]
    have at_ := selects fun row => inForce row.effectiveFrom row.effectiveTo event.observedAt
    rw [effectiveAssignment,assignmentsAt,same,at_,inForce_eq]
    by_cases started : assignment.view.effectiveFrom ≤ event.observedAt
    · rw [decide_eq_true started,if_pos rfl,if_pos started]
      rfl
    · rw [decide_eq_false started,if_neg started]
      rfl

theorem onboarded_readers_locate_sample :
    ∃ assignment : Abacus.DeviceAssignment, assignment.zoneId = 6 ∧
      resolveFromHistory (loadEffectiveAssignmentHistory
        (Sample.rotated.registry 0 Abacus.Sample.registry) 7 0 (seconds 9)) (seconds 9) =
          .ok assignment ∧
      resolveFromHistory (loadEffectiveAssignmentHistory
        (Sample.rotated.registry 0 Abacus.Sample.registry) 7 0 (seconds 9)) (seconds 4) =
          .error assignmentUnavailable := by
  have reachable : (onboardingMachine Sample.onboardingRuntime).Reachable Sample.rotated :=
    ⟨{},_,rfl,Sample.rotated_reached⟩
  obtain ⟨assignment,only,-,-,locates,-⟩ :=
    onboarded_readers_locate reachable Sample.reader_stored Abacus.Sample.registry
  have listed : (Sample.rotated.registry 0 Abacus.Sample.registry).deviceAssignments.rows.filter
      (fun row => row.deviceId = 7) = [⟨8,7,4,6,seconds 5,none⟩] := by decide +kernel
  obtain rfl := List.singleton_inj.mp (only.symm.trans listed)
  exact ⟨_,rfl,(locates 0 (seconds 9) (seconds 9) (by decide) (by decide)).trans
      (if_pos (by decide)),
    (locates 0 (seconds 4) (seconds 9) (by decide) (by decide)).trans (if_neg (by decide))⟩

end Readers

end Abacus.Onboarding

import Abacus.Library.Forest
import Abacus.Model.Onboarding

/-! The constraints of the tables that onboarding writes.
Unique indexes are enforced by each insert. That every reference leads to a row of its own tenant,
and that the organization units are a forest, is what the services see to.
-/
set_option autoImplicit false

namespace Abacus.Onboarding

open Relational (Table)
open Python (Text text)

section Results

variable {α β : Type}

theorem served_bind {first : Served α} {second : α → Served β} {value : β} :
    (first >>= second) = .ok value ↔ ∃ middle, first = .ok middle ∧ second middle = .ok value := by
  cases first <;> simp [bind,Except.bind]

theorem orRefuse_eq_ok {refusal : Refusal} {found : Option α} {value : α} :
    orRefuse refusal found = .ok value ↔ found = some value := by
  cases found <;> simp [orRefuse]

theorem map_eq_ok {served : Served α} {f : α → β} {value : β} :
    f <$> served = .ok value ↔ ∃ middle, served = .ok middle ∧ f middle = value := by
  cases served <;> simp [Functor.map,Except.map]

theorem eq_ok_of_isSome {served : Served α} (done : served.toOption.isSome = true) :
    served = .ok (served.toOption.get done) := by
  cases served with
  | ok value => rfl
  | error refusal => cases done

/-- What a loop keeps that gets through, as to the elements that it has been through. -/
theorem foldlM_keeps {Keeps : List α → β → Prop} {step : β → α → Served β} {elements : List α}
    (keeps : ∀ earlier element before after, Keeps earlier before →
      step before element = .ok after → Keeps (earlier ++ [element]) after)
    {start finish : β} (holds : Keeps [] start) (done : elements.foldlM step start = .ok finish) :
    Keeps elements finish := by
  have further : ∀ (elements earlier : List α) (start : β), Keeps earlier start →
      elements.foldlM step start = .ok finish → Keeps (earlier ++ elements) finish := by
    intro elements
    induction elements with
    | nil =>
        intro earlier start holds done
        cases done
        simpa using holds
    | cons element elements ih =>
        intro earlier start holds done
        rw [List.foldlM_cons,served_bind] at done
        obtain ⟨middle,first,rest⟩ := done
        simpa using ih (earlier ++ [element]) middle (keeps earlier element start middle holds first)
          rest
  exact further elements [] start holds done

theorem exists_right {R : α → β → Prop} {elements : List α} {results : List β}
    (related : List.Forall₂ R elements results) {element : α} (member : element ∈ elements) :
    ∃ result ∈ results, R element result := by
  induction related with
  | nil => cases member
  | cons first _ ih =>
      rcases List.mem_cons.mp member with rfl | later
      · exact ⟨_,List.mem_cons_self,first⟩
      · obtain ⟨result,found,same⟩ := ih later
        exact ⟨result,List.mem_cons_of_mem _ found,same⟩

theorem exists_left {R : α → β → Prop} {elements : List α} {results : List β}
    (related : List.Forall₂ R elements results) {result : β} (member : result ∈ results) :
    ∃ element ∈ elements, R element result :=
  exists_right related.flip member

end Results

section Constraints

abbrev UnitLine (db : Database) : OrganizationUnit → List OrganizationUnit → Prop :=
  Forest.Line OrganizationUnit.id OrganizationUnit.parentId db.organizationUnits.rows

def Database.hasTenant (db : Database) (tenantId : Uuid) : Prop :=
  ∃ tenant ∈ db.tenants.rows, tenant.id = tenantId

def Database.hasUnit (db : Database) (tenantId : Uuid) (reference : Option Uuid) : Prop :=
  ∀ unitId, reference = some unitId → ∃ unit ∈ db.organizationUnits.rows,
    unit.id = unitId ∧ unit.tenantId = tenantId

def Database.hasStore (db : Database) (tenantId storeId : Uuid) : Prop :=
  ∃ store ∈ db.stores.rows, store.id = storeId ∧ store.tenantId = tenantId

def Database.hasZone (db : Database) (tenantId storeId zoneId : Uuid) : Prop :=
  ∃ zone ∈ db.zones.rows, zone.id = zoneId ∧ zone.storeId = storeId ∧ zone.tenantId = tenantId

def Database.hasDevice (db : Database) (tenantId deviceId : Uuid) : Prop :=
  ∃ device ∈ db.devices.rows, device.id = deviceId ∧ device.tenantId = tenantId

structure Indexes (db : Database) : Prop where
  tenantCodes : db.tenants.Indexed Tenant.codeIndex
  unitCodes : db.organizationUnits.Indexed OrganizationUnit.codeIndex
  storeCodes : db.stores.Indexed Store.codeIndex
  zoneCodes : db.zones.Indexed Zone.codeIndex
  serials : db.devices.Indexed Device.serialIndex
  openAssignments : db.deviceAssignments.Indexed DeviceAssignment.openIndex
  batchKeys : db.onboardingBatches.Indexed OnboardingBatch.keyIndex

section Links

variable (db : Database)

def OrganizationUnit.Linked (unit : OrganizationUnit) : Prop :=
  db.hasTenant unit.tenantId ∧ db.hasUnit unit.tenantId unit.parentId

def Store.Linked (store : Store) : Prop :=
  db.hasTenant store.tenantId ∧ db.hasUnit store.tenantId store.organizationUnitId ∧
    store.id < db.nextId

def Zone.Linked (zone : Zone) : Prop := db.hasStore zone.tenantId zone.storeId

def Device.Linked (device : Device) : Prop :=
  db.hasTenant device.tenantId ∧ device.id < db.nextId

def DeviceAssignment.Linked (assignment : DeviceAssignment) : Prop :=
  db.hasDevice assignment.tenantId assignment.deviceId ∧
    db.hasZone assignment.tenantId assignment.storeId assignment.zoneId

def OnboardingBatch.Linked (batch : OnboardingBatch) : Prop := db.hasTenant batch.tenantId

end Links

structure Constraints (db : Database) : Prop where
  indexes : Indexes db
  forest : Forest.Grown OrganizationUnit.id OrganizationUnit.parentId db.organizationUnits.rows
  units : ∀ unit ∈ db.organizationUnits.rows, unit.Linked db
  stores : ∀ store ∈ db.stores.rows, store.Linked db
  zones : ∀ zone ∈ db.zones.rows, zone.Linked db
  devices : ∀ device ∈ db.devices.rows, device.Linked db
  assignments : ∀ assignment ∈ db.deviceAssignments.rows, assignment.Linked db
  batches : ∀ batch ∈ db.onboardingBatches.rows, batch.Linked db

structure Database.Extends (db after : Database) : Prop where
  tenants : ∀ row ∈ db.tenants.rows, row ∈ after.tenants.rows
  units : ∀ row ∈ db.organizationUnits.rows, row ∈ after.organizationUnits.rows
  stores : ∀ row ∈ db.stores.rows, row ∈ after.stores.rows
  zones : ∀ row ∈ db.zones.rows, row ∈ after.zones.rows
  devices : ∀ row ∈ db.devices.rows, ∃ later ∈ after.devices.rows, later.id = row.id ∧
    later.tenantId = row.tenantId ∧ later.serialNumber = row.serialNumber ∧
      later.displayName = row.displayName ∧ later.status = row.status
  assignments : ∀ row ∈ db.deviceAssignments.rows, row ∈ after.deviceAssignments.rows
  batches : ∀ row ∈ db.onboardingBatches.rows, row.status = .completed →
    row ∈ after.onboardingBatches.rows
  nextId : db.nextId ≤ after.nextId

end Constraints

namespace Database.Extends

variable {db middle after : Database} {tenantId storeId zoneId deviceId : Uuid}

theorem refl (db : Database) : db.Extends db :=
  ⟨fun _ => id,fun _ => id,fun _ => id,fun _ => id,
    fun row member => ⟨row,member,rfl,rfl,rfl,rfl,rfl⟩,fun _ => id,fun _ member _ => member,le_rfl⟩

theorem trans (first : db.Extends middle) (second : middle.Extends after) : db.Extends after where
  tenants row member := second.tenants row (first.tenants row member)
  units row member := second.units row (first.units row member)
  stores row member := second.stores row (first.stores row member)
  zones row member := second.zones row (first.zones row member)
  devices row member := by
    obtain ⟨later,place,id,tenant,serial,name,status⟩ := first.devices row member
    obtain ⟨last,final,sameId,sameTenant,sameSerial,sameName,sameStatus⟩ :=
      second.devices later place
    exact ⟨last,final,sameId.trans id,sameTenant.trans tenant,sameSerial.trans serial,
      sameName.trans name,sameStatus.trans status⟩
  assignments row member := second.assignments row (first.assignments row member)
  batches row member completed := second.batches row (first.batches row member completed) completed
  nextId := first.nextId.trans second.nextId

variable (extends_ : db.Extends after)

include extends_

theorem hasTenant (has : db.hasTenant tenantId) : after.hasTenant tenantId := by
  obtain ⟨tenant,member,same⟩ := has
  exact ⟨tenant,extends_.tenants tenant member,same⟩

theorem hasUnit {reference : Option Uuid} (has : db.hasUnit tenantId reference) :
    after.hasUnit tenantId reference := by
  intro unitId same
  obtain ⟨unit,member,own⟩ := has unitId same
  exact ⟨unit,extends_.units unit member,own⟩

theorem hasStore (has : db.hasStore tenantId storeId) : after.hasStore tenantId storeId := by
  obtain ⟨store,member,same⟩ := has
  exact ⟨store,extends_.stores store member,same⟩

theorem hasZone (has : db.hasZone tenantId storeId zoneId) :
    after.hasZone tenantId storeId zoneId := by
  obtain ⟨zone,member,same⟩ := has
  exact ⟨zone,extends_.zones zone member,same⟩

theorem hasDevice (has : db.hasDevice tenantId deviceId) : after.hasDevice tenantId deviceId := by
  obtain ⟨device,member,rfl,rfl⟩ := has
  obtain ⟨later,place,id,tenant,-⟩ := extends_.devices device member
  exact ⟨later,place,id,tenant⟩

/-- What a transaction has to show for the constraints: the rows that it writes are linked. -/
theorem constraints (held : Constraints db) (indexes : Indexes after)
    (forest : Forest.Grown OrganizationUnit.id OrganizationUnit.parentId
      after.organizationUnits.rows)
    (units : ∀ unit ∈ after.organizationUnits.rows,
      unit ∈ db.organizationUnits.rows ∨ unit.Linked after)
    (stores : ∀ store ∈ after.stores.rows, store ∈ db.stores.rows ∨ store.Linked after)
    (zones : ∀ zone ∈ after.zones.rows, zone ∈ db.zones.rows ∨ zone.Linked after)
    (devices : ∀ device ∈ after.devices.rows, device ∈ db.devices.rows ∨ device.Linked after)
    (assignments : ∀ assignment ∈ after.deviceAssignments.rows,
      assignment ∈ db.deviceAssignments.rows ∨ assignment.Linked after)
    (batches : ∀ batch ∈ after.onboardingBatches.rows,
      batch ∈ db.onboardingBatches.rows ∨ batch.Linked after) : Constraints after where
  indexes := indexes
  forest := forest
  units unit member := (units unit member).elim (fun old =>
    (held.units unit old).imp extends_.hasTenant extends_.hasUnit) id
  stores store member := (stores store member).elim (fun old => by
    obtain ⟨tenant,unit,drawn⟩ := held.stores store old
    exact ⟨extends_.hasTenant tenant,extends_.hasUnit unit,drawn.trans_le extends_.nextId⟩) id
  zones zone member := (zones zone member).elim (fun old =>
    extends_.hasStore (held.zones zone old)) id
  devices device member := (devices device member).elim (fun old =>
    (held.devices device old).imp extends_.hasTenant fun drawn => drawn.trans_le extends_.nextId) id
  assignments assignment member := (assignments assignment member).elim (fun old =>
    (held.assignments assignment old).imp extends_.hasDevice extends_.hasZone) id
  batches batch member := (batches batch member).elim (fun old =>
    extends_.hasTenant (held.batches batch old)) id

end Database.Extends

structure Keeps (db after : Database) : Prop where
  constraints : Constraints after
  extends_ : db.Extends after

section Inserts

variable {db after : Database}

theorem mem_of_added {Row : Type} {rows added : List Row} {new : Row} (more : added = rows ++ [new])
    (row : Row) (member : row ∈ rows) : row ∈ added := by
  rw [more]
  exact List.mem_append_left _ member

theorem mem_last {Row : Type} {rows added : List Row} {new : Row} (more : added = rows ++ [new]) :
    new ∈ added := by
  rw [more]
  exact List.mem_append_right _ (List.mem_singleton_self _)

theorem linked_of_added {Row : Type} {rows added : List Row} {new : Row} {Linked : Row → Prop}
    (more : added = rows ++ [new]) (linked : Linked new) (row : Row) (member : row ∈ added) :
    row ∈ rows ∨ Linked row := by
  rw [more] at member
  rcases List.mem_append.mp member with old | last
  · exact .inl old
  · rw [List.mem_singleton.mp last]
    exact .inr linked

theorem addTenant_spec {tenant : Tenant} (held : Constraints db)
    (added : db.addTenant tenant = .ok after) :
    Keeps db after ∧ ∃ tenants, after = { db.drawn with tenants := tenants } ∧
      tenants.rows = db.tenants.rows ++ [tenant] := by
  obtain ⟨tenants,inserted,done⟩ := served_bind.mp added
  cases done
  rw [orRefuse_eq_ok] at inserted
  have rows := (Table.insert_eq_some (Table.insertUnder_eq_some inserted).1).2
  have extends_ : db.Extends { db.drawn with tenants := tenants } :=
    { Database.Extends.refl db with
      tenants := mem_of_added rows
      nextId := Nat.le_succ _ }
  refine ⟨⟨?_,extends_⟩,tenants,rfl,rows⟩
  refine extends_.constraints held { held.indexes with
    tenantCodes := Table.indexed_insertUnder held.indexes.tenantCodes inserted } held.forest
    (fun _ => .inl) (fun _ => .inl) (fun _ => .inl) (fun _ => .inl) (fun _ => .inl) fun _ => .inl

/-- Only a unit under a unit of its tenant is written. -/
theorem addOrganizationUnit_spec {unit : OrganizationUnit} (held : Constraints db)
    (tenant : db.hasTenant unit.tenantId) (parent : db.hasUnit unit.tenantId unit.parentId)
    (added : db.addOrganizationUnit unit = .ok after) :
    Keeps db after ∧ ∃ organizationUnits,
      after = { db.drawn with organizationUnits := organizationUnits } ∧
        organizationUnits.rows = db.organizationUnits.rows ++ [unit] := by
  unfold Database.addOrganizationUnit at added
  split at added
  · cases added
  obtain ⟨organizationUnits,inserted,done⟩ := served_bind.mp added
  cases done
  rw [orRefuse_eq_ok] at inserted
  have rows := (Table.insert_eq_some (Table.insertUnder_eq_some inserted).1).2
  have extends_ : db.Extends { db.drawn with organizationUnits := organizationUnits } :=
    { Database.Extends.refl db with
      units := mem_of_added rows
      nextId := Nat.le_succ _ }
  refine ⟨⟨?_,extends_⟩,organizationUnits,rfl,rows⟩
  refine extends_.constraints held { held.indexes with
    unitCodes := Table.indexed_insertUnder held.indexes.unitCodes inserted } ?_
    ?_ (fun _ => .inl) (fun _ => .inl) (fun _ => .inl) (fun _ => .inl) fun _ => .inl
  · dsimp only
    rw [rows]
    refine held.forest.snoc fun above same => ?_
    obtain ⟨up,member,own,-⟩ := parent above same
    exact ⟨up,member,own⟩
  · exact linked_of_added rows ⟨extends_.hasTenant tenant,extends_.hasUnit parent⟩

theorem addStore_spec {store : Store} (held : Constraints db) (own : store.id = db.nextId)
    (tenant : db.hasTenant store.tenantId)
    (unit : db.hasUnit store.tenantId store.organizationUnitId)
    (added : db.addStore store = .ok after) :
    Keeps db after ∧ ∃ stores, after = { db.drawn with stores := stores } ∧
      stores.rows = db.stores.rows ++ [store] := by
  obtain ⟨stores,inserted,done⟩ := served_bind.mp added
  cases done
  rw [orRefuse_eq_ok] at inserted
  have rows := (Table.insert_eq_some (Table.insertUnder_eq_some inserted).1).2
  have extends_ : db.Extends { db.drawn with stores := stores } :=
    { Database.Extends.refl db with
      stores := mem_of_added rows
      nextId := Nat.le_succ _ }
  refine ⟨⟨?_,extends_⟩,stores,rfl,rows⟩
  refine extends_.constraints held { held.indexes with
    storeCodes := Table.indexed_insertUnder held.indexes.storeCodes inserted } held.forest
    (fun _ => .inl) ?_ (fun _ => .inl) (fun _ => .inl) (fun _ => .inl) fun _ => .inl
  exact linked_of_added rows
    ⟨extends_.hasTenant tenant,extends_.hasUnit unit,own ▸ Nat.lt_succ_self _⟩

theorem addZone_spec {zone : Zone} (held : Constraints db)
    (store : db.hasStore zone.tenantId zone.storeId) (added : db.addZone zone = .ok after) :
    Keeps db after ∧ ∃ zones, after = { db.drawn with zones := zones } ∧
      zones.rows = db.zones.rows ++ [zone] := by
  obtain ⟨zones,inserted,done⟩ := served_bind.mp added
  cases done
  rw [orRefuse_eq_ok] at inserted
  have rows := (Table.insert_eq_some (Table.insertUnder_eq_some inserted).1).2
  have extends_ : db.Extends { db.drawn with zones := zones } :=
    { Database.Extends.refl db with
      zones := mem_of_added rows
      nextId := Nat.le_succ _ }
  refine ⟨⟨?_,extends_⟩,zones,rfl,rows⟩
  refine extends_.constraints held { held.indexes with
    zoneCodes := Table.indexed_insertUnder held.indexes.zoneCodes inserted } held.forest
    (fun _ => .inl) (fun _ => .inl) ?_ (fun _ => .inl) (fun _ => .inl) fun _ => .inl
  exact linked_of_added rows (extends_.hasStore store)

theorem addDevice_spec {device : Device} (held : Constraints db) (own : device.id = db.nextId)
    (tenant : db.hasTenant device.tenantId) (added : db.addDevice device = .ok after) :
    Keeps db after ∧ ∃ devices, after = { db.drawn with devices := devices } ∧
      devices.rows = db.devices.rows ++ [device] := by
  unfold Database.addDevice at added
  split at added
  · cases added
  obtain ⟨devices,inserted,done⟩ := served_bind.mp added
  cases done
  rw [orRefuse_eq_ok] at inserted
  have rows := (Table.insert_eq_some (Table.insertUnder_eq_some inserted).1).2
  have extends_ : db.Extends { db.drawn with devices := devices } :=
    { Database.Extends.refl db with
      devices := fun row member =>
        ⟨row,mem_of_added rows row member,rfl,rfl,rfl,rfl,rfl⟩
      nextId := Nat.le_succ _ }
  refine ⟨⟨?_,extends_⟩,devices,rfl,rows⟩
  refine extends_.constraints held { held.indexes with
    serials := Table.indexed_insertUnder held.indexes.serials inserted } held.forest
    (fun _ => .inl) (fun _ => .inl) (fun _ => .inl) ?_ (fun _ => .inl) fun _ => .inl
  exact linked_of_added rows ⟨extends_.hasTenant tenant,own ▸ Nat.lt_succ_self _⟩

theorem addDeviceAssignment_spec {assignment : DeviceAssignment} (held : Constraints db)
    (device : db.hasDevice assignment.tenantId assignment.deviceId)
    (zone : db.hasZone assignment.tenantId assignment.storeId assignment.zoneId)
    (added : db.addDeviceAssignment assignment = .ok after) :
    Keeps db after ∧ ∃ deviceAssignments,
      after = { db.drawn with deviceAssignments := deviceAssignments } ∧
        deviceAssignments.rows = db.deviceAssignments.rows ++ [assignment] := by
  obtain ⟨deviceAssignments,inserted,done⟩ := served_bind.mp added
  cases done
  rw [orRefuse_eq_ok] at inserted
  have rows := (Table.insert_eq_some (Table.insertUnder_eq_some inserted).1).2
  have extends_ : db.Extends { db.drawn with deviceAssignments := deviceAssignments } :=
    { Database.Extends.refl db with
      assignments := mem_of_added rows
      nextId := Nat.le_succ _ }
  refine ⟨⟨?_,extends_⟩,deviceAssignments,rfl,rows⟩
  refine extends_.constraints held { held.indexes with
    openAssignments := Table.indexed_insertUnder held.indexes.openAssignments inserted } held.forest
    (fun _ => .inl) (fun _ => .inl) (fun _ => .inl) (fun _ => .inl) ?_ fun _ => .inl
  exact linked_of_added rows ⟨extends_.hasDevice device,extends_.hasZone zone⟩

theorem addOnboardingBatch_spec {batch : OnboardingBatch} (held : Constraints db)
    (tenant : db.hasTenant batch.tenantId) (added : db.addOnboardingBatch batch = .ok after) :
    Keeps db after ∧ ∃ onboardingBatches,
      after = { db.drawn with onboardingBatches := onboardingBatches } ∧
        onboardingBatches.rows = db.onboardingBatches.rows ++ [batch] := by
  obtain ⟨onboardingBatches,inserted,done⟩ := served_bind.mp added
  cases done
  rw [orRefuse_eq_ok] at inserted
  have rows := (Table.insert_eq_some (Table.insertUnder_eq_some inserted).1).2
  have extends_ : db.Extends { db.drawn with onboardingBatches := onboardingBatches } :=
    { Database.Extends.refl db with
      batches := fun row member _ => mem_of_added rows row member
      nextId := Nat.le_succ _ }
  refine ⟨⟨?_,extends_⟩,onboardingBatches,rfl,rows⟩
  refine extends_.constraints held { held.indexes with
    batchKeys := Table.indexed_insertUnder held.indexes.batchKeys inserted } held.forest
    (fun _ => .inl) (fun _ => .inl) (fun _ => .inl) (fun _ => .inl) (fun _ => .inl) ?_
  exact linked_of_added rows (extends_.hasTenant tenant)

end Inserts

end Abacus.Onboarding

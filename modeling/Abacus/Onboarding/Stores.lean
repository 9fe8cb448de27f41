import Abacus.Onboarding.Constraints

/-! What the stores of a request become.
A path leads to the unit at its end whatever part of it was there before. A device comes with its
only assignment, and a store with the zones that every store has to have.
-/
set_option autoImplicit false

namespace Abacus.Onboarding

open Relational (Table)
open Python (Text text)

section Descriptions

def OrganizationUnit.segment (unit : OrganizationUnit) : OrganizationUnitSegment :=
  ⟨unit.code,unit.name,unit.unitType⟩

variable (db : Database)

/-- The units from the root down to the one that a reference of the tenant leads to. -/
def Database.Lineage (tenantId : Uuid) (reference : Option Uuid) (line : List OrganizationUnit) :
    Prop :=
  (reference = none ∧ line = []) ∨ ∃ unit ∈ db.organizationUnits.rows,
    reference = some unit.id ∧ unit.tenantId = tenantId ∧ UnitLine db unit line

def Database.Places (store : Store) (effectiveFrom : Time) (request : DeviceCreate) : Prop :=
  ∃ device ∈ db.devices.rows, device.tenantId = store.tenantId ∧
    device.serialNumber = request.serialNumber ∧ device.displayName = request.displayName ∧
    ∃ zone ∈ db.zones.rows, zone.storeId = store.id ∧ zone.code = request.zoneCode ∧
      ∃ assignment ∈ db.deviceAssignments.rows, assignment.deviceId = device.id ∧
        assignment.storeId = store.id ∧ assignment.zoneId = zone.id ∧
        assignment.effectiveFrom = effectiveFrom ∧ assignment.effectiveTo = none

def StoreFields.row (request : StoreFields) (tenantId id : Uuid)
    (organizationUnitId : Option Uuid) : Store :=
  ⟨id,tenantId,organizationUnitId,request.code,request.name,request.timezone,.active,
    request.configuration⟩

structure Database.Has (tenantId : Uuid) (effectiveFrom : Time) (request : StoreFields)
    (store : Store) : Prop where
  stored : store ∈ db.stores.rows
  columns : ∃ id organizationUnitId, store = request.row tenantId id organizationUnitId
  path : ∃ line, db.Lineage tenantId store.organizationUnitId line ∧
    line.map OrganizationUnit.segment = request.organizationPath
  zones : ∀ zone ∈ request.zones, ∃ row ∈ db.zones.rows, row.storeId = store.id ∧
    row.code = zone.code ∧ row.name = zone.name ∧ row.kind = zone.kind
  devices : ∀ device ∈ request.devices, db.Places store effectiveFrom device

def Database.Furnished (storeId : Uuid) : Prop :=
  ∀ kind ∈ [ZoneKind.salesFloor,.backroom],
    ∃ zone ∈ db.zones.rows, zone.storeId = storeId ∧ zone.kind = kind

def Database.AssignedOnce (deviceId : Uuid) : Prop :=
  ∃ assignment, db.deviceAssignments.rows.filter (fun row => row.deviceId = deviceId) =
    [assignment] ∧ assignment.effectiveTo = none

structure Settled : Prop where
  stores : ∀ store ∈ db.stores.rows, db.Furnished store.id
  devices : ∀ device ∈ db.devices.rows, db.AssignedOnce device.id

end Descriptions

section Extensions

variable {db after : Database} {tenantId : Uuid} {reference : Option Uuid}
  {line : List OrganizationUnit} {effectiveFrom : Time}

theorem Database.Lineage.extends (lineage : db.Lineage tenantId reference line)
    (extends_ : db.Extends after) : after.Lineage tenantId reference line := by
  rcases lineage with root | ⟨unit,member,own,tenant,down⟩
  · exact .inl root
  · exact .inr ⟨unit,extends_.units unit member,own,tenant,down.mono extends_.units⟩

theorem Database.Places.extends {store : Store} {request : DeviceCreate}
    (places : db.Places store effectiveFrom request) (extends_ : db.Extends after) :
    after.Places store effectiveFrom request := by
  obtain ⟨device,member,tenant,serial,name,zone,place,ofStore,code,assignment,listed,own,rest⟩ :=
    places
  obtain ⟨later,found,id,sameTenant,sameSerial,sameName,-⟩ := extends_.devices device member
  exact ⟨later,found,sameTenant.trans tenant,sameSerial.trans serial,sameName.trans name,zone,
    extends_.zones zone place,ofStore,code,assignment,extends_.assignments assignment listed,
    own.trans id.symm,rest⟩

theorem Database.Has.extends {request : StoreFields} {store : Store}
    (has : db.Has tenantId effectiveFrom request store) (extends_ : db.Extends after) :
    after.Has tenantId effectiveFrom request store where
  stored := extends_.stores store has.stored
  columns := has.columns
  path := by
    obtain ⟨line,lineage,path⟩ := has.path
    exact ⟨line,lineage.extends extends_,path⟩
  zones zone member := by
    obtain ⟨row,stored,same⟩ := has.zones zone member
    exact ⟨row,extends_.zones row stored,same⟩
  devices device member := (has.devices device member).extends extends_

end Extensions

section Paths

variable {db after : Database} {tenantId : Uuid}

structure Database.SameStores (db after : Database) : Prop where
  tenants : after.tenants = db.tenants
  stores : after.stores = db.stores
  zones : after.zones = db.zones
  devices : after.devices = db.devices
  deviceAssignments : after.deviceAssignments = db.deviceAssignments
  onboardingBatches : after.onboardingBatches = db.onboardingBatches

theorem Database.Lineage.hasUnit {reference : Option Uuid} {line : List OrganizationUnit}
    (lineage : db.Lineage tenantId reference line) : db.hasUnit tenantId reference := by
  rintro unitId rfl
  rcases lineage with ⟨none,-⟩ | ⟨unit,member,own,tenant,-⟩
  · cases none
  · exact ⟨unit,member,(Option.some.inj own).symm,tenant⟩

/-- A unit below the end of a line prolongs the line. -/
theorem Database.Lineage.below {reference : Option Uuid} {line : List OrganizationUnit}
    (lineage : db.Lineage tenantId reference line) {unit : OrganizationUnit}
    (member : unit ∈ db.organizationUnits.rows) (parent : unit.parentId = reference)
    (tenant : unit.tenantId = tenantId) :
    db.Lineage tenantId (some unit.id) (line ++ [unit]) := by
  refine .inr ⟨unit,member,rfl,tenant,?_⟩
  rcases lineage with ⟨rfl,rfl⟩ | ⟨up,-,rfl,-,down⟩
  · exact .root member parent
  · exact .child member parent down

/-- The units of a line are of one tenant. -/
theorem UnitLine.tenant {unit : OrganizationUnit} {line : List OrganizationUnit}
    (held : Constraints db) (down : UnitLine db unit line) :
    ∀ up ∈ line, up.tenantId = unit.tenantId := by
  induction down with
  | root => simp
  | @child unit above line member parent upper ih =>
      obtain ⟨found,stored,own,tenant⟩ := (held.units unit member).2 above.id parent
      have same := db.organizationUnits.eq_of_key stored upper.mem own
      intro up listed
      rcases List.mem_append.mp listed with earlier | last
      · rw [ih up earlier,← same,tenant]
      · rw [List.mem_singleton.mp last]

/-- A line has one end. -/
theorem Database.Lineage.reference_eq {reference other : Option Uuid}
    {line : List OrganizationUnit} (lineage : db.Lineage tenantId reference line)
    (again : db.Lineage tenantId other line) : reference = other := by
  rcases lineage with ⟨rfl,rfl⟩ | ⟨unit,-,rfl,-,down⟩
  · rcases again with ⟨rfl,-⟩ | ⟨unit,-,-,-,down⟩
    · rfl
    · obtain ⟨above,same⟩ := down.ends
      simp at same
  · obtain ⟨above,rfl⟩ := down.ends
    rcases again with ⟨-,same⟩ | ⟨further,-,rfl,-,down⟩
    · simp at same
    · obtain ⟨higher,same⟩ := down.ends
      rw [(List.cons.inj (List.append_inj' same rfl).2).1]

/-- A unit on a line of the tenant is below the one before it. -/
theorem Database.Lineage.step {parentId reference : Option Uuid} {unit : OrganizationUnit}
    {line further : List OrganizationUnit} (held : Constraints db)
    (finish : db.Lineage tenantId reference (line ++ unit :: further))
    (start : db.Lineage tenantId parentId line) :
    unit ∈ db.organizationUnits.rows ∧ unit.tenantId = tenantId ∧ unit.parentId = parentId := by
  rcases finish with ⟨-,nothing⟩ | ⟨last,-,-,tenant,down⟩
  · simp at nothing
  have listed : unit ∈ line ++ unit :: further := by simp
  refine ⟨down.subset unit listed,(UnitLine.tenant held down unit listed).trans tenant,?_⟩
  rcases (down.through rfl).parent_eq with ⟨rfl,top⟩ | ⟨up,upper,higher⟩
  · rcases start with ⟨rfl,-⟩ | ⟨above,-,-,-,line⟩
    · exact top
    · obtain ⟨earlier,same⟩ := line.ends
      simp at same
  · obtain ⟨earlier,rfl⟩ := upper.ends
    rcases start with ⟨-,nothing⟩ | ⟨above,-,rfl,-,line⟩
    · simp at nothing
    · obtain ⟨before,same⟩ := line.ends
      rw [higher,(List.cons.inj (List.append_inj' same rfl).2).1]

/-- A path leads from the end of one line to the end of another one, which is as the path says. -/
theorem resolveOrganizationPath_spec {path : List OrganizationUnitSegment} {parentId : Option Uuid}
    {line : List OrganizationUnit} {resolved : Option Uuid × Database} (held : Constraints db)
    (tenant : db.hasTenant tenantId) (lineage : db.Lineage tenantId parentId line)
    (done : resolveOrganizationPath tenantId db parentId path = .ok resolved) :
    Keeps db resolved.2 ∧ db.SameStores resolved.2 ∧ ∃ further,
      resolved.2.Lineage tenantId resolved.1 (line ++ further) ∧
        further.map OrganizationUnit.segment = path := by
  induction path generalizing db parentId line with
  | nil =>
      cases done
      exact ⟨⟨held,.refl db⟩,⟨rfl,rfl,rfl,rfl,rfl,rfl⟩,[],by simpa using lineage,rfl⟩
  | cons segment path ih =>
      rw [resolveOrganizationPath] at done
      split at done
      · rename_i existing found
        split at done
        · cases done
        · rename_i agrees
          obtain ⟨member,code⟩ := (Table.findBy_eq_some_iff held.indexes.unitCodes).mp found
          obtain ⟨ofTenant,sameCode⟩ := Prod.mk.inj (Option.some.inj code)
          simp only [not_or,not_not] at agrees
          obtain ⟨parent,name,unitType⟩ := agrees
          obtain ⟨keeps,same,further,down,rest⟩ :=
            ih held tenant (lineage.below member parent ofTenant) done
          refine ⟨keeps,same,existing :: further,by simpa using down,?_⟩
          rw [List.map_cons,rest,OrganizationUnit.segment,sameCode,name,unitType]
      · obtain ⟨added,inserted,rest⟩ := served_bind.mp done
        obtain ⟨first,units,rfl,rows⟩ :=
          addOrganizationUnit_spec held tenant lineage.hasUnit inserted
        have member : (⟨db.nextId,tenantId,parentId,segment.code,segment.name,segment.unitType⟩ :
            OrganizationUnit) ∈ units.rows := by
          rw [rows]
          exact List.mem_append_right _ (List.mem_singleton_self _)
        obtain ⟨keeps,same,further,down,path⟩ := ih first.constraints
          (first.extends_.hasTenant tenant)
          ((lineage.extends first.extends_).below member rfl rfl) rest
        refine ⟨⟨keeps.constraints,first.extends_.trans keeps.extends_⟩,
          ⟨same.tenants,same.stores,same.zones,same.devices,same.deviceAssignments,
            same.onboardingBatches⟩,_ :: further,by simpa using down,?_⟩
        rw [List.map_cons,path]
        rfl

/-- A line of units is found again by its path, and nothing is written. -/
theorem resolveOrganizationPath_of_lineage {parentId reference : Option Uuid}
    {line further : List OrganizationUnit} (held : Constraints db)
    (start : db.Lineage tenantId parentId line)
    (finish : db.Lineage tenantId reference (line ++ further)) :
    resolveOrganizationPath tenantId db parentId (further.map OrganizationUnit.segment) =
      .ok (reference,db) := by
  induction further generalizing parentId line with
  | nil =>
      rw [List.append_nil] at finish
      rw [start.reference_eq finish]
      rfl
  | cons unit further ih =>
      obtain ⟨member,tenant,parent⟩ := finish.step held start
      have found : db.organizationUnits.findBy OrganizationUnit.codeIndex (tenantId,unit.code) =
          some unit :=
        (Table.findBy_eq_some_iff held.indexes.unitCodes).mpr
          ⟨member,by rw [OrganizationUnit.codeIndex,tenant]⟩
      have agrees : ¬(unit.parentId ≠ parentId ∨ unit.name ≠ unit.segment.name ∨
          unit.unitType ≠ unit.segment.unitType) := by simp [parent,OrganizationUnit.segment]
      rw [List.map_cons,resolveOrganizationPath]
      split
      · rename_i existing here
        cases here.symm.trans found
        rw [if_neg agrees]
        exact ih (start.below member parent tenant) (by simpa using finish)
      · rename_i absent
        cases absent.symm.trans found

end Paths

section Devices

variable {db after : Database} {tenantId : Uuid} {effectiveFrom : Time}

/-- A device that is new has no assignments. -/
theorem unassigned (held : Constraints db) :
    db.deviceAssignments.rows.filter (fun row => row.deviceId = db.nextId) = [] := by
  rw [List.filter_eq_nil_iff]
  intro assignment member same
  obtain ⟨device,stored,own,-⟩ := (held.assignments assignment member).1
  have drawn := (held.devices device stored).2
  rw [own,of_decide_eq_true same] at drawn
  exact absurd drawn (lt_irrefl _)

structure Installs (db after : Database) (device : Device) (zone : Zone) (effectiveFrom : Time) :
    Prop where
  keeps : Keeps db after
  tenants : after.tenants = db.tenants
  stores : after.stores = db.stores
  zones : after.zones = db.zones
  batches : after.onboardingBatches = db.onboardingBatches
  devices : after.devices.rows = db.devices.rows ++ [device]
  assignments : ∃ assignment, after.deviceAssignments.rows =
    db.deviceAssignments.rows ++ [assignment] ∧ assignment.deviceId = device.id ∧
      assignment.storeId = zone.storeId ∧ assignment.zoneId = zone.id ∧
      assignment.effectiveFrom = effectiveFrom ∧ assignment.effectiveTo = none

theorem install_spec {device : Device} {zone : Zone} (held : Constraints db)
    (own : device.id = db.nextId) (tenant : db.hasTenant device.tenantId)
    (place : zone ∈ db.zones.rows) (same : zone.tenantId = device.tenantId)
    (done : db.install device zone effectiveFrom = .ok after) :
    Installs db after device zone effectiveFrom := by
  obtain ⟨added,first,second⟩ := served_bind.mp done
  obtain ⟨keepsFirst,devices,rfl,rows⟩ := addDevice_spec held own tenant first
  have here : device ∈ devices.rows := by
    rw [rows]
    exact List.mem_append_right _ (List.mem_singleton_self _)
  obtain ⟨keeps,assignments,rfl,listed⟩ := addDeviceAssignment_spec keepsFirst.constraints
    ⟨device,here,rfl,rfl⟩ ⟨zone,place,rfl,rfl,same⟩ second
  exact ⟨⟨keeps.constraints,keepsFirst.extends_.trans keeps.extends_⟩,rfl,rfl,rfl,rfl,rows,_,
    listed,rfl,rfl,rfl,rfl,rfl⟩

variable {device : Device} {zone : Zone} (installs : Installs db after device zone effectiveFrom)

include installs

/-- The device that is installed is assigned once, and the others are as they were. -/
theorem Installs.assigned (held : Constraints db) (own : device.id = db.nextId)
    (settled : ∀ device ∈ db.devices.rows, db.AssignedOnce device.id) :
    ∀ device ∈ after.devices.rows, after.AssignedOnce device.id := by
  obtain ⟨assignment,rows,ofDevice,-,-,-,unended⟩ := installs.assignments
  intro other member
  rw [installs.devices] at member
  rw [Database.AssignedOnce,rows]
  rcases List.mem_append.mp member with old | new
  · obtain ⟨only,filtered,isOpen⟩ := settled other old
    refine ⟨only,?_,isOpen⟩
    have apart : other.id ≠ device.id := own ▸ ((held.devices other old).2).ne
    rw [List.filter_append,filtered]
    simp [ofDevice,apart.symm]
  · rw [List.mem_singleton.mp new]
    refine ⟨assignment,?_,unended⟩
    rw [List.filter_append,own,unassigned held]
    simp [ofDevice,own]

theorem Installs.places {store : Store} {request : DeviceCreate}
    (tenant : device.tenantId = store.tenantId)
    (serial : device.serialNumber = request.serialNumber)
    (name : device.displayName = request.displayName) (place : zone ∈ db.zones.rows)
    (ofStore : zone.storeId = store.id) (code : zone.code = request.zoneCode) :
    after.Places store effectiveFrom request := by
  obtain ⟨assignment,rows,ofDevice,ofStore',ofZone,since,unended⟩ := installs.assignments
  refine ⟨device,?_,tenant,serial,name,zone,?_,ofStore,code,assignment,?_,ofDevice,
    ofStore'.trans ofStore,ofZone,since,unended⟩
  · rw [installs.devices]
    exact List.mem_append_right _ (List.mem_singleton_self _)
  · rw [installs.zones]
    exact place
  · rw [rows]
    exact List.mem_append_right _ (List.mem_singleton_self _)

end Devices

section Loops

variable {db after : Database} {store : Store} {effectiveFrom : Time}

def Zone.Of (store : Store) (request : ZoneCreate) (zone : Zone) : Prop :=
  ∃ id, zone = ⟨id,store.tenantId,store.id,request.code,request.name,request.kind⟩

theorem Zone.Of.code {request : ZoneCreate} {zone : Zone} (matched : Zone.Of store request zone) :
    request.code = zone.code := by
  obtain ⟨id,rfl⟩ := matched
  rfl

structure Zoned (db : Database) (store : Store) (requests : List ZoneCreate)
    (state : Database × List Zone) : Prop where
  keeps : Keeps db state.1
  frame : state.1 = { db with zones := state.1.zones, nextId := state.1.nextId }
  rows : state.1.zones.rows = db.zones.rows ++ state.2
  zones : List.Forall₂ (Zone.Of store) requests state.2

/-- The zones that the loop has written are rows of the store. -/
theorem Zoned.listed {requests : List ZoneCreate} {state : Database × List Zone}
    (zoned : Zoned db store requests state) : ∀ zone ∈ state.2, zone ∈ state.1.zones.rows ∧
      zone.storeId = store.id ∧ zone.tenantId = store.tenantId := by
  intro zone member
  obtain ⟨request,-,id,rfl⟩ := exists_left zoned.zones member
  rw [zoned.rows]
  exact ⟨List.mem_append_right _ member,rfl,rfl⟩

theorem Zoned.codes {requests : List ZoneCreate} {state : Database × List Zone}
    (zoned : Zoned db store requests state) :
    requests.map ZoneCreate.code = state.2.map Zone.code := by
  rw [← List.forall₂_eq_eq_eq,List.forall₂_map_left_iff,List.forall₂_map_right_iff]
  exact zoned.zones.imp fun _ _ matched => matched.code

theorem Zoned.step {requests : List ZoneCreate} {state next : Database × List Zone}
    {request : ZoneCreate} (zoned : Zoned db store requests state)
    (stored : db.hasStore store.tenantId store.id)
    (done : onboardZone store state request = .ok next) :
    Zoned db store (requests ++ [request]) next := by
  obtain ⟨added,inserted,rest⟩ := served_bind.mp done
  cases rest
  obtain ⟨keeps,zones,same,rows⟩ := addZone_spec zoned.keeps.constraints
    (zoned.keeps.extends_.hasStore stored) inserted
  refine ⟨⟨keeps.constraints,zoned.keeps.extends_.trans keeps.extends_⟩,?_,?_,?_⟩
  · rw [same,Database.drawn,zoned.frame]
  · rw [same]
    dsimp only
    rw [rows,zoned.rows,List.append_assoc]
  · exact List.rel_append zoned.zones (.cons ⟨_,rfl⟩ .nil)

theorem onboardZones_spec {requests : List ZoneCreate} {state : Database × List Zone}
    (held : Constraints db) (stored : db.hasStore store.tenantId store.id)
    (done : requests.foldlM (onboardZone store) (db,[]) = .ok state) :
    Zoned db store requests state := by
  have begins : Zoned db store [] (db,[]) := ⟨⟨held,.refl db⟩,rfl,by simp,.nil⟩
  exact foldlM_keeps (fun _ _ _ _ zoned first => zoned.step stored first) begins done

def Device.Unused (db : Database) (device : Device) : Prop :=
  device.credentialHash = none ∧ device.status = .active ∧ db.nextId ≤ device.id

def Database.Adds (db after : Database) (serials : List Text) : Prop :=
  ∃ added, after.devices.rows = db.devices.rows ++ added ∧
    added.map Device.serialNumber = serials ∧ ∀ device ∈ added, device.Unused db

theorem Database.Adds.none (same : after.devices = db.devices) : db.Adds after [] :=
  ⟨[],by simp [same],rfl,by simp⟩

theorem Database.Adds.append {middle : Database} {serials more : List Text}
    (first : db.Adds middle serials) (second : middle.Adds after more)
    (drawn : db.nextId ≤ middle.nextId) : db.Adds after (serials ++ more) := by
  obtain ⟨added,rows,listed,unused⟩ := first
  obtain ⟨later,further,listedLater,unusedLater⟩ := second
  refine ⟨added ++ later,by rw [further,rows,List.append_assoc],by simp [listed,listedLater],?_⟩
  intro device member
  rcases List.mem_append.mp member with early | late
  · exact unused device early
  · obtain ⟨hash,status,since⟩ := unusedLater device late
    exact ⟨hash,status,drawn.trans since⟩

theorem Database.Adds.serials {serials : List Text} (adds : db.Adds after serials) :
    after.devices.rows.map Device.serialNumber =
      db.devices.rows.map Device.serialNumber ++ serials := by
  obtain ⟨added,rows,listed,-⟩ := adds
  rw [rows,List.map_append,listed]

structure Equipped (db : Database) (store : Store) (effectiveFrom : Time)
    (requests : List DeviceCreate) (after : Database) : Prop where
  keeps : Keeps db after
  tenants : after.tenants = db.tenants
  stores : after.stores = db.stores
  zones : after.zones = db.zones
  batches : after.onboardingBatches = db.onboardingBatches
  adds : db.Adds after (requests.map DeviceCreate.serialNumber)
  places : ∀ request ∈ requests, after.Places store effectiveFrom request
  assigned : ∀ device ∈ after.devices.rows, after.AssignedOnce device.id

theorem Equipped.step {requests : List DeviceCreate} {middle after : Database} {zones : List Zone}
    {request : DeviceCreate} (equipped : Equipped db store effectiveFrom requests middle)
    (tenant : db.hasTenant store.tenantId)
    (listed : ∀ zone ∈ zones, zone ∈ db.zones.rows ∧ zone.storeId = store.id ∧
      zone.tenantId = store.tenantId)
    (done : onboardDevice store.tenantId zones effectiveFrom middle request = .ok after) :
    Equipped db store effectiveFrom (requests ++ [request]) after := by
  unfold onboardDevice at done
  dsimp only at done
  split at done
  · rename_i zone found
    obtain ⟨place,ofStore,ofTenant⟩ := listed zone (List.mem_of_find?_eq_some found)
    have code : zone.code = request.zoneCode := by simpa using List.find?_some found
    rw [← equipped.zones] at place
    have installs := install_spec equipped.keeps.constraints rfl
      (equipped.keeps.extends_.hasTenant tenant) place ofTenant done
    refine ⟨⟨installs.keeps.constraints,equipped.keeps.extends_.trans installs.keeps.extends_⟩,
      installs.tenants.trans equipped.tenants,installs.stores.trans equipped.stores,
      installs.zones.trans equipped.zones,installs.batches.trans equipped.batches,
      ?_,?_,
      installs.assigned equipped.keeps.constraints rfl equipped.assigned⟩
    · rw [List.map_append]
      refine equipped.adds.append ⟨[_],installs.devices,rfl,?_⟩ equipped.keeps.extends_.nextId
      simp [Device.Unused]
    · intro other member
      rcases List.mem_append.mp member with old | new
      · exact (equipped.places other old).extends installs.keeps.extends_
      · rw [List.mem_singleton.mp new]
        exact installs.places rfl rfl rfl place ofStore code
  · cases done

theorem onboardDevices_spec {requests : List DeviceCreate} {zones : List Zone}
    (held : Constraints db) (settled : ∀ device ∈ db.devices.rows, db.AssignedOnce device.id)
    (tenant : db.hasTenant store.tenantId)
    (listed : ∀ zone ∈ zones, zone ∈ db.zones.rows ∧ zone.storeId = store.id ∧
      zone.tenantId = store.tenantId)
    (done : requests.foldlM (onboardDevice store.tenantId zones effectiveFrom) db = .ok after) :
    Equipped db store effectiveFrom requests after := by
  have begins : Equipped db store effectiveFrom [] db :=
    ⟨⟨held,.refl db⟩,rfl,rfl,rfl,rfl,.none rfl,by simp,settled⟩
  exact foldlM_keeps (fun _ _ _ _ equipped first => equipped.step tenant listed first) begins done

end Loops

section Bulk

variable {db after : Database} {tenantId : Uuid} {effectiveFrom : Time}

/-- A store that was there keeps its furniture. -/
theorem Database.Furnished.extends {storeId : Uuid} (furnished : db.Furnished storeId)
    (extends_ : db.Extends after) : after.Furnished storeId := by
  intro kind needed
  obtain ⟨zone,member,same⟩ := furnished kind needed
  exact ⟨zone,extends_.zones zone member,same⟩

theorem Database.Has.furnished {request : StoreFields} {store : Store}
    (has : db.Has tenantId effectiveFrom request store)
    (needed : ∀ kind ∈ [ZoneKind.salesFloor,.backroom], ∃ zone ∈ request.zones, zone.kind = kind) :
    db.Furnished store.id := by
  intro kind required
  obtain ⟨zone,listed,rfl⟩ := needed kind required
  obtain ⟨row,stored,ofStore,-,-,sameKind⟩ := has.zones zone listed
  exact ⟨row,stored,ofStore,sameKind⟩

structure Onboarded (db : Database) (tenantId : Uuid) (effectiveFrom : Time)
    (requests : List StoreCreate) (after : Database) : Prop where
  keeps : Keeps db after
  settled : Settled after
  tenants : after.tenants = db.tenants
  batches : after.onboardingBatches = db.onboardingBatches
  stores : ∃ stores, after.stores.rows = db.stores.rows ++ stores ∧
    List.Forall₂ (fun request store => after.Has tenantId effectiveFrom request.toStoreFields store)
      requests stores
  zones : after.zones.rows.map Zone.code =
    db.zones.rows.map Zone.code ++ requests.flatMap fun request => request.zones.map ZoneCreate.code
  adds : db.Adds after (serialNumbers requests)

theorem onboardStore_spec {request : StoreCreate} (held : Constraints db) (settled : Settled db)
    (tenant : db.hasTenant tenantId)
    (done : onboardStore tenantId effectiveFrom db request = .ok after) :
    Onboarded db tenantId effectiveFrom [request] after := by
  obtain ⟨resolved,path,done⟩ := served_bind.mp done
  obtain ⟨added,inserted,done⟩ := served_bind.mp done
  obtain ⟨state,looped,installed⟩ := served_bind.mp done
  obtain ⟨first,same,line,lineage,segments⟩ :=
    resolveOrganizationPath_spec held tenant (.inl ⟨rfl,rfl⟩) path
  have tenantAt := first.extends_.hasTenant tenant
  obtain ⟨second,stores,rfl,rows⟩ :=
    addStore_spec first.constraints rfl tenantAt lineage.hasUnit inserted
  have stored := mem_last rows
  have zoned := onboardZones_spec second.constraints ⟨_,stored,rfl,rfl⟩ looped
  have unchanged : state.1.devices = db.devices ∧
      state.1.deviceAssignments = db.deviceAssignments := by
    rw [zoned.frame]
    exact ⟨same.devices,same.deviceAssignments⟩
  have assigned : ∀ device ∈ state.1.devices.rows, state.1.AssignedOnce device.id := by
    intro device member
    rw [unchanged.1] at member
    rw [Database.AssignedOnce,unchanged.2]
    exact settled.devices device member
  have equipped := onboardDevices_spec zoned.keeps.constraints assigned
    (zoned.keeps.extends_.hasTenant (second.extends_.hasTenant tenantAt)) zoned.listed installed
  have further : resolved.2.Extends after :=
    (second.extends_.trans zoned.keeps.extends_).trans equipped.keeps.extends_
  have extends_ := first.extends_.trans further
  have placed : ∀ zone ∈ state.2, zone ∈ after.zones.rows := by
    intro zone member
    rw [equipped.zones]
    exact (zoned.listed zone member).1
  have has : after.Has tenantId effectiveFrom request.toStoreFields
      (request.row tenantId resolved.2.nextId resolved.1) := by
    refine ⟨(zoned.keeps.extends_.trans equipped.keeps.extends_).stores _ stored,⟨_,_,rfl⟩,
      ⟨line,lineage.extends further,segments⟩,fun zone member => ?_,equipped.places⟩
    obtain ⟨row,listed,id,rfl⟩ := exists_right zoned.zones member
    exact ⟨_,placed _ listed,rfl,rfl,rfl,rfl⟩
  have listed : after.stores.rows =
      db.stores.rows ++ [request.row tenantId resolved.2.nextId resolved.1] := by
    rw [equipped.stores,zoned.frame]
    exact rows.trans (by rw [same.stores]; rfl)
  refine ⟨⟨equipped.keeps.constraints,extends_⟩,⟨fun store member => ?_,equipped.assigned⟩,
    ?_,?_,⟨[_],listed,.cons has .nil⟩,?_,?_⟩
  · rw [listed] at member
    rcases List.mem_append.mp member with old | new
    · exact (settled.stores store old).extends extends_
    · rw [List.mem_singleton.mp new]
      exact has.furnished request.requiredKinds
  · rw [equipped.tenants,zoned.frame]
    exact same.tenants
  · rw [equipped.batches,zoned.frame]
    exact same.onboardingBatches
  · rw [equipped.zones,zoned.rows,List.map_append,← zoned.codes]
    simp [Database.drawn,same.zones]
  · have adds := (Database.Adds.none unchanged.1).append equipped.adds
      (first.extends_.trans (second.extends_.trans zoned.keeps.extends_)).nextId
    simpa [serialNumbers] using adds

end Bulk

end Abacus.Onboarding

import Abacus.Library.Json
import Abacus.Library.Machine
import Abacus.Library.UniqueIndex
import Abacus.Model.CurrentPrincipal

/-! Tenants, their stores and their devices (`services/onboarding.py`, `services/device_auth.py`,
`schemas/tenancy.py`).
A session is pinned to its tenant, so that it sees no row of another one; a unique index does. No
service changes or deletes what it reads here, credentials apart, and every constraint is checked
again when a transaction commits. A transaction that commits has therefore read what it would have
read at its commit, and is one step here.
-/
set_option autoImplicit false

namespace Abacus.Onboarding

open Relational (Table)
open Python (Text text CodePoint Json JsonObject)
open Transition (Machine)

/-- What the services take from Python: texts, identifiers, digests and time zones. -/
structure Runtime where
  upper : Text → Text
  lower : Text → Text
  /-- `str` of a list of texts. -/
  listStr : List Text → Text
  str : Uuid → Text
  /-- `uuid.UUID` of a text, if it does not raise. -/
  parse : Text → Option Uuid
  /-- `hashlib.sha256(text.encode()).hexdigest()`. -/
  digest : Text → Text
  /-- `model_dump(mode="json")` of a dictionary, unless it raises. -/
  modelDump : JsonObject → Option JsonObject
  /-- The digest of what `json.dumps` writes with sorted keys. -/
  documentDigest : Json → Text
  /-- The key that `ZoneInfo` finds. -/
  zoneInfo : Text → Bool

section Rows

structure Tenant where
  id : Uuid
  code : Text
  name : Text
  status : TenantStatus
deriving DecidableEq

structure OrganizationUnit where
  id : Uuid
  tenantId : Uuid
  parentId : Option Uuid
  code : Text
  name : Text
  unitType : Text
deriving DecidableEq

structure Store where
  id : Uuid
  tenantId : Uuid
  organizationUnitId : Option Uuid
  code : Text
  name : Text
  timezone : Text
  status : StoreStatus
  configuration : JsonObject
deriving DecidableEq

structure Zone where
  id : Uuid
  tenantId : Uuid
  storeId : Uuid
  code : Text
  name : Text
  kind : ZoneKind
deriving DecidableEq

structure Device where
  id : Uuid
  tenantId : Uuid
  serialNumber : Text
  displayName : Text
  credentialHash : Option Text := none
  status : DeviceStatus := .active
deriving DecidableEq

structure DeviceAssignment where
  id : Uuid
  tenantId : Uuid
  deviceId : Uuid
  storeId : Uuid
  zoneId : Uuid
  effectiveFrom : Time
  effectiveTo : Option Time := none
deriving DecidableEq

inductive BatchStatus where
  | received | validating | completed | failed
deriving DecidableEq, Repr

structure OnboardingBatch where
  id : Uuid
  tenantId : Uuid
  idempotencyKey : Text
  requestHash : Text
  status : BatchStatus
  totalCount : ℕ
  succeededCount : ℕ := 0
  failedCount : ℕ := 0
deriving DecidableEq

end Rows

section Requests

structure TenantCreate where
  code : Text
  name : Text

structure OrganizationUnitSegment where
  code : Text
  name : Text
  unitType : Text
deriving DecidableEq

structure ZoneCreate where
  code : Text
  name : Text
  kind : ZoneKind
deriving DecidableEq

structure DeviceCreate where
  serialNumber : Text
  displayName : Text
  zoneCode : Text
deriving DecidableEq

structure StoreDeviceCreate where
  serialNumber : Text
  displayName : Text
  zoneId : Uuid

structure StoreFields where
  code : Text
  name : Text
  timezone : Text
  organizationPath : List OrganizationUnitSegment := []
  zones : List ZoneCreate
  devices : List DeviceCreate := []
  configuration : JsonObject := []

/-- What `validate_store_configuration` lets pass. -/
structure StoreCreate extends StoreFields where
  zoneCodes : (zones.map ZoneCreate.code).Nodup
  requiredKinds : ∀ kind ∈ [ZoneKind.salesFloor,.backroom], ∃ zone ∈ zones, zone.kind = kind
  knownZones : ∀ device ∈ devices, ∃ zone ∈ zones, zone.code = device.zoneCode
  pathCodes : (organizationPath.map OrganizationUnitSegment.code).Nodup

def serialNumbers (stores : List StoreCreate) : List Text :=
  stores.flatMap fun store => store.devices.map DeviceCreate.serialNumber

/-- What `validate_batch_uniqueness` lets pass. -/
structure BulkStoreOnboardingRequest where
  stores : List StoreCreate
  supplied : stores ≠ []
  storeCodes : (stores.map fun store => store.code).Nodup
  serials : (serialNumbers stores).Nodup

end Requests

section Validators

variable (runtime : Runtime)

def codeStart (character : CodePoint) : Bool :=
  (97 ≤ character && character ≤ 122) || (48 ≤ character && character ≤ 57)

/-- `CODE_PATTERN`. -/
def isCode : Text → Bool
  | [] => false
  | first :: rest => codeStart first && 1 ≤ rest.length && rest.length ≤ 63 &&
      rest.all fun character => codeStart character || (text "_-").contains character

def within (least greatest : ℕ) (value : Text) : Bool :=
  least ≤ value.length && value.length ≤ greatest

def code? (value : Text) : Option Text :=
  if isCode value then some (runtime.lower value.strip) else none

/-- `_normalize_non_blank` of a text of at most 255 characters. -/
def nonBlank? (value : Text) : Option Text :=
  if within 1 255 value && value.strip ≠ [] then some value.strip else none

def serialNumber? (value : Text) : Option Text :=
  let normalized := runtime.upper value.strip
  if within 3 128 value && 3 ≤ normalized.length then some normalized else none

def TenantCreate.validate (request : TenantCreate) : Option TenantCreate := do
  return ⟨← code? runtime request.code,← nonBlank? request.name⟩

/-- A unit type may be blank. -/
def OrganizationUnitSegment.validate (segment : OrganizationUnitSegment) :
    Option OrganizationUnitSegment := do
  let unitType ← if within 2 32 segment.unitType then some (runtime.upper segment.unitType.strip)
    else none
  return ⟨← code? runtime segment.code,← nonBlank? segment.name,unitType⟩

def ZoneCreate.validate (zone : ZoneCreate) : Option ZoneCreate := do
  return ⟨← code? runtime zone.code,← nonBlank? zone.name,zone.kind⟩

def DeviceCreate.validate (device : DeviceCreate) : Option DeviceCreate := do
  return ⟨← serialNumber? runtime device.serialNumber,← nonBlank? device.displayName,
    ← code? runtime device.zoneCode⟩

def StoreDeviceCreate.validate (device : StoreDeviceCreate) : Option StoreDeviceCreate := do
  return ⟨← serialNumber? runtime device.serialNumber,← nonBlank? device.displayName,device.zoneId⟩

/-- `validate_store_configuration`. -/
def StoreFields.configured (store : StoreFields) : Option StoreCreate :=
  if zoneCodes : (store.zones.map ZoneCreate.code).Nodup then
    if requiredKinds : ∀ kind ∈ [ZoneKind.salesFloor,.backroom],
        ∃ zone ∈ store.zones, zone.kind = kind then
      if knownZones : ∀ device ∈ store.devices, ∃ zone ∈ store.zones,
          zone.code = device.zoneCode then
        if pathCodes : (store.organizationPath.map OrganizationUnitSegment.code).Nodup then
          some ⟨store,zoneCodes,requiredKinds,knownZones,pathCodes⟩
        else none
      else none
    else none
  else none

def StoreFields.validate (store : StoreFields) : Option StoreCreate := do
  let code ← code? runtime store.code
  let name ← nonBlank? store.name
  let timezone ← if within 1 64 store.timezone && runtime.zoneInfo store.timezone then
    some store.timezone else none
  let organizationPath ← if store.organizationPath.length ≤ 10 then
    store.organizationPath.mapM (OrganizationUnitSegment.validate runtime) else none
  let zones ← if 2 ≤ store.zones.length && store.zones.length ≤ 100 then
    store.zones.mapM (ZoneCreate.validate runtime) else none
  let devices ← if store.devices.length ≤ 1000 then
    store.devices.mapM (DeviceCreate.validate runtime) else none
  StoreFields.configured ⟨code,name,timezone,organizationPath,zones,devices,store.configuration⟩

def validateBulk (stores : List StoreFields) : Option BulkStoreOnboardingRequest := do
  let stores ← if stores.length ≤ 500 then stores.mapM (StoreFields.validate runtime) else none
  if supplied : stores ≠ [] then
    if storeCodes : (stores.map fun store => store.code).Nodup then
      if serials : (serialNumbers stores).Nodup then some ⟨stores,supplied,storeCodes,serials⟩
      else none
    else none
  else none

end Validators

section Database

inductive Refusal where
  | apiError (status : ℕ) (title : String) (detail : Text) (code : Option String)
  | integrityError (constraint : String)
  | dataError
  | keyError
  | serializationError
deriving DecidableEq

abbrev Served (α : Type) := Except Refusal α

structure Database where
  tenants : Table Tenant.id := Table.empty
  organizationUnits : Table OrganizationUnit.id := Table.empty
  stores : Table Store.id := Table.empty
  zones : Table Zone.id := Table.empty
  devices : Table Device.id := Table.empty
  deviceAssignments : Table DeviceAssignment.id := Table.empty
  onboardingBatches : Table OnboardingBatch.id := Table.empty
  nextId : Uuid := 0

def Tenant.codeIndex (tenant : Tenant) : Option Text := some tenant.code
def OrganizationUnit.codeIndex (unit : OrganizationUnit) : Option (Uuid × Text) :=
  some (unit.tenantId,unit.code)
def Store.codeIndex (store : Store) : Option (Uuid × Text) := some (store.tenantId,store.code)
def Zone.codeIndex (zone : Zone) : Option (Uuid × Text) := some (zone.storeId,zone.code)
def Device.serialIndex (device : Device) : Option Text := some device.serialNumber
/-- The partial index of the assignments that are open. -/
def DeviceAssignment.openIndex (assignment : DeviceAssignment) : Option (Uuid × Uuid) :=
  if assignment.effectiveTo = none then some (assignment.tenantId,assignment.deviceId) else none
def OnboardingBatch.keyIndex (batch : OnboardingBatch) : Option (Uuid × Text) :=
  some (batch.tenantId,batch.idempotencyKey)

def orRefuse {α : Type} (refusal : Refusal) : Option α → Served α
  | some value => .ok value
  | none => .error refusal

namespace Database

variable (db : Database)

def drawn : Database := { db with nextId := db.nextId + 1 }

def addTenant (tenant : Tenant) : Served Database := do
  let tenants ← orRefuse (.integrityError "tenants_code_key")
    (db.tenants.insertUnder Tenant.codeIndex tenant)
  return { db.drawn with tenants := tenants }

def addOrganizationUnit (unit : OrganizationUnit) : Served Database := do
  if 32 < unit.unitType.length then throw .dataError
  let organizationUnits ← orRefuse (.integrityError "uq_org_units_tenant_code")
    (db.organizationUnits.insertUnder OrganizationUnit.codeIndex unit)
  return { db.drawn with organizationUnits := organizationUnits }

def addStore (store : Store) : Served Database := do
  let stores ← orRefuse (.integrityError "uq_stores_tenant_code")
    (db.stores.insertUnder Store.codeIndex store)
  return { db.drawn with stores := stores }

def addZone (zone : Zone) : Served Database := do
  let zones ← orRefuse (.integrityError "uq_zones_store_code")
    (db.zones.insertUnder Zone.codeIndex zone)
  return { db.drawn with zones := zones }

def addDevice (device : Device) : Served Database := do
  if 128 < device.serialNumber.length then throw .dataError
  let devices ← orRefuse (.integrityError "uq_devices_serial_number")
    (db.devices.insertUnder Device.serialIndex device)
  return { db.drawn with devices := devices }

def addDeviceAssignment (assignment : DeviceAssignment) : Served Database := do
  let deviceAssignments ← orRefuse (.integrityError "uq_device_assignments_active_device")
    (db.deviceAssignments.insertUnder DeviceAssignment.openIndex assignment)
  return { db.drawn with deviceAssignments := deviceAssignments }

def addOnboardingBatch (batch : OnboardingBatch) : Served Database := do
  let onboardingBatches ← orRefuse (.integrityError "uq_onboarding_batches_tenant_idempotency")
    (db.onboardingBatches.insertUnder OnboardingBatch.keyIndex batch)
  return { db.drawn with onboardingBatches := onboardingBatches }

end Database

end Database

section Services

variable (runtime : Runtime)

def tenantCodeConflict (detail : Text) : Refusal :=
  .apiError 409 "Tenant code conflict" detail (some "tenant_code_conflict")

/-- `create_tenant`. The session is pinned to the active tenant of the code, if there is one, so
that it finds no other tenant. -/
def createTenant (db : Database) (request : TenantCreate) : Served (Tenant × Database) :=
  match db.tenants.rows.find? fun tenant =>
      tenant.code = request.code && decide (tenant.status = .active) with
  | some existing =>
      if existing.name = request.name then .ok (existing,db)
      else .error (tenantCodeConflict (text "Tenant code '" ++ request.code ++
        text "' already belongs to another tenant name."))
  | none =>
      let tenant : Tenant := ⟨db.nextId,request.code,request.name,.active⟩
      match db.addTenant tenant with
      | .ok after => .ok (tenant,after)
      | .error _ => .error (tenantCodeConflict (text "Tenant code '" ++ request.code ++
          text "' already exists."))

/-- `_store_in_principal_tenant`. -/
def storeInPrincipalTenant (db : Database) (principal : Principal) (storeId : Uuid) :
    Served Store :=
  if principal.canAccessStore .tenantConfigure storeId then
    match (db.stores.find? storeId).filter fun store => store.tenantId = principal.tenantId with
    | some store => .ok store
    | none => .error (.apiError 404 "Store not found"
        (text "The requested store does not exist.") none)
  else .error (.apiError 403 "Forbidden"
    (text "The requested store is outside the current user's access scope.")
    (some "store_scope_denied"))

/-- `create_store_zone`. -/
def createStoreZone (db : Database) (principal : Principal) (storeId : Uuid)
    (request : ZoneCreate) : Served (Zone × Database) := do
  let store ← storeInPrincipalTenant db principal storeId
  let zone : Zone := ⟨db.nextId,store.tenantId,store.id,request.code,request.name,request.kind⟩
  match db.addZone zone with
  | .ok after => return (zone,after)
  | .error _ => throw (.apiError 409 "Zone code conflict" (text "Zone code '" ++ request.code ++
      text "' already exists in this store.") (some "zone_code_conflict"))

def deviceToken (deviceId : Uuid) (secret : Text) : Text :=
  runtime.str deviceId ++ text "." ++ secret

def Database.install (db : Database) (device : Device) (zone : Zone) (effectiveFrom : Time) :
    Served Database := do
  let added ← db.addDevice device
  added.addDeviceAssignment { id := added.nextId, tenantId := device.tenantId
                              deviceId := device.id, storeId := zone.storeId, zoneId := zone.id
                              effectiveFrom := effectiveFrom }

/-- `register_store_device`, with the secret that it draws. -/
def registerStoreDevice (db : Database) (principal : Principal) (storeId : Uuid)
    (request : StoreDeviceCreate) (rawSecret : Text) (now : Time) :
    Served (Device × Text × Database) := do
  let store ← storeInPrincipalTenant db principal storeId
  match (db.zones.find? request.zoneId).filter fun zone =>
      zone.tenantId = store.tenantId && decide (zone.storeId = store.id) with
  | none => throw (.apiError 422 "Invalid assignment location"
      (text "zone_id must identify a zone in the requested store.")
      (some "invalid_device_assignment_location"))
  | some zone =>
      let device : Device :=
        { id := db.nextId, tenantId := store.tenantId, serialNumber := request.serialNumber
          displayName := request.displayName, credentialHash := some (runtime.digest rawSecret) }
      match db.install device zone now with
      | .ok after => return (device,deviceToken runtime device.id rawSecret,after)
      | .error (.integrityError _) => throw (.apiError 409 "Device registration conflict" (text
          "The serial number already exists or the assignment was created concurrently.")
          (some "device_registration_conflict"))
      | .error refusal => throw refusal

section Bulk

def segmentDocument (segment : OrganizationUnitSegment) : Json :=
  .object [(text "code",.scalar (.string segment.code)),(text "name",.scalar (.string segment.name)),
    (text "unit_type",.scalar (.string segment.unitType))]

def kindText : ZoneKind → Text
  | .salesFloor => text "SALES_FLOOR"
  | .backroom => text "BACKROOM"
  | .receiving => text "RECEIVING"
  | .other => text "OTHER"

def zoneDocument (zone : ZoneCreate) : Json :=
  .object [(text "code",.scalar (.string zone.code)),(text "name",.scalar (.string zone.name)),
    (text "kind",.scalar (.string (kindText zone.kind)))]

def deviceDocument (device : DeviceCreate) : Json :=
  .object [(text "serial_number",.scalar (.string device.serialNumber)),
    (text "display_name",.scalar (.string device.displayName)),
    (text "zone_code",.scalar (.string device.zoneCode))]

def storeDocument (store : StoreFields) (configuration : JsonObject) : Json :=
  .object [(text "code",.scalar (.string store.code)),(text "name",.scalar (.string store.name)),
    (text "timezone",.scalar (.string store.timezone)),
    (text "organization_path",.array (store.organizationPath.map segmentDocument)),
    (text "zones",.array (store.zones.map zoneDocument)),
    (text "devices",.array (store.devices.map deviceDocument)),
    (text "configuration",.object configuration)]

def StoreFields.modelDump (store : StoreFields) : Option Json :=
  (runtime.modelDump store.configuration).map (storeDocument store)

/-- `request.model_dump(mode="json")`, unless it raises. -/
def BulkStoreOnboardingRequest.modelDump (request : BulkStoreOnboardingRequest) : Option Json :=
  (request.stores.mapM fun store : StoreCreate => store.modelDump runtime).map fun stores =>
    .object [(text "stores",.array stores)]

/-- What `_request_hash` digests. -/
def canonical (request : BulkStoreOnboardingRequest) : Option Json :=
  (request.modelDump runtime).map Json.dumps

/-- `_request_hash`. -/
def requestHash (request : BulkStoreOnboardingRequest) : Option Text :=
  (canonical runtime request).map runtime.documentDigest

def organizationUnitConflict (code : Text) : Refusal :=
  .apiError 409 "Organization hierarchy conflict" (text "Organization unit '" ++ code ++
    text "' conflicts with its existing definition.") (some "organization_unit_conflict")

/-- The loop of `_resolve_organization_path`. -/
def resolveOrganizationPath (tenantId : Uuid) :
    Database → Option Uuid → List OrganizationUnitSegment → Served (Option Uuid × Database)
  | db, parentId, [] => .ok (parentId,db)
  | db, parentId, segment :: path =>
      match db.organizationUnits.findBy OrganizationUnit.codeIndex (tenantId,segment.code) with
      | some existing =>
          if existing.parentId ≠ parentId ∨ existing.name ≠ segment.name ∨
              existing.unitType ≠ segment.unitType then
            .error (organizationUnitConflict segment.code)
          else resolveOrganizationPath tenantId db (some existing.id) path
      | none => do
          let added ← db.addOrganizationUnit
            ⟨db.nextId,tenantId,parentId,segment.code,segment.name,segment.unitType⟩
          resolveOrganizationPath tenantId added (some db.nextId) path

def onboardZone (store : Store) (state : Database × List Zone) (request : ZoneCreate) :
    Served (Database × List Zone) := do
  let zone : Zone :=
    ⟨state.1.nextId,store.tenantId,store.id,request.code,request.name,request.kind⟩
  return (← state.1.addZone zone,state.2 ++ [zone])

def onboardDevice (tenantId : Uuid) (zones : List Zone) (effectiveFrom : Time) (db : Database)
    (request : DeviceCreate) : Served Database := do
  let device : Device :=
    { id := db.nextId, tenantId := tenantId, serialNumber := request.serialNumber
      displayName := request.displayName }
  match zones.find? fun zone => zone.code = request.zoneCode with
  | some zone => db.install device zone effectiveFrom
  | none => throw .keyError

/-- The body of the loop over the stores of a request. -/
def onboardStore (tenantId : Uuid) (effectiveFrom : Time) (db : Database) (request : StoreCreate) :
    Served Database := do
  let resolved ← resolveOrganizationPath tenantId db none request.organizationPath
  let store : Store :=
    { id := resolved.2.nextId, tenantId := tenantId, organizationUnitId := resolved.1
      code := request.code, name := request.name, timezone := request.timezone
      status := .active, configuration := request.configuration }
  let added ← resolved.2.addStore store
  let zoned ← request.zones.foldlM (onboardZone store) (added,[])
  request.devices.foldlM (onboardDevice tenantId zoned.2 effectiveFrom) zoned.1

def tenantNotFound : Refusal :=
  .apiError 404 "Tenant not found" (text "The requested tenant does not exist.") none

def idempotencyKeyReused : Refusal :=
  .apiError 409 "Idempotency conflict"
    (text "This idempotency key was already used with a different request.")
    (some "idempotency_key_reused")

def checkBulk (db : Database) (tenantId : Uuid) (request : BulkStoreOnboardingRequest) :
    Served Unit := do
  let existingCodes := (db.stores.select fun store => store.tenantId = tenantId &&
    (request.stores.map fun store => store.code).contains store.code).map Store.code
  if existingCodes ≠ [] then
    throw (.apiError 409 "Store code conflict" (text "Stores already exist: " ++
      runtime.listStr (existingCodes.insertionSort (· ≤ ·))) (some "store_code_conflict"))
  -- the session sees the devices of its own tenant alone
  let existingSerials := (db.devices.select fun device => device.tenantId = tenantId &&
    (serialNumbers request.stores).contains device.serialNumber).map Device.serialNumber
  if existingSerials ≠ [] then
    throw (.apiError 409 "Device serial conflict" (text "Devices already exist: " ++
      runtime.listStr (existingSerials.insertionSort (· ≤ ·))) (some "device_serial_conflict"))

def OnboardingBatch.complete (batch : OnboardingBatch) : OnboardingBatch :=
  { batch with status := .completed, succeededCount := batch.totalCount }

theorem OnboardingBatch.complete_id (batch : OnboardingBatch) : batch.complete.id = batch.id := rfl

/-- `onboard_stores`. -/
def onboardStores (db : Database) (tenantId : Uuid) (idempotencyKey : Text)
    (request : BulkStoreOnboardingRequest) (now : Time) : Served (OnboardingBatch × Database) :=
  match db.tenants.find? tenantId,requestHash runtime request with
  | none,_ => .error tenantNotFound
  | some _,none => .error .serializationError
  | some _,some digest =>
      match db.onboardingBatches.findBy OnboardingBatch.keyIndex (tenantId,idempotencyKey) with
      | some existingBatch =>
          if existingBatch.requestHash ≠ digest then .error idempotencyKeyReused
          else .ok (existingBatch,db)
      | none => do
          checkBulk runtime db tenantId request
          let batch : OnboardingBatch :=
            { id := db.nextId, tenantId := tenantId, idempotencyKey := idempotencyKey
              requestHash := digest, status := .validating
              totalCount := request.stores.length }
          let added ← db.addOnboardingBatch batch
          let onboarded ← request.stores.foldlM (onboardStore tenantId now) added
          return (batch.complete,{ onboarded with
            onboardingBatches := onboarded.onboardingBatches.modify batch.id
              OnboardingBatch.complete OnboardingBatch.complete_id })

/-- `bulk_onboard_stores_endpoint`. -/
def bulkOnboardStores (db : Database) (tenantId : Uuid) (idempotencyKey : Text)
    (request : BulkStoreOnboardingRequest) (now : Time) : Served (OnboardingBatch × Database) :=
  if idempotencyKey.strip = [] then
    .error (.apiError 400 "Invalid idempotency key" (text "Idempotency-Key cannot be blank.") none)
  else onboardStores runtime db tenantId idempotencyKey.strip request now

end Bulk

section Credentials

def Device.rotate (hash : Text) (device : Device) : Device :=
  { device with credentialHash := some hash }

theorem Device.rotate_id (hash : Text) (device : Device) : (device.rotate hash).id = device.id := rfl

/-- `rotate_device_credential`, with the secret that it draws. -/
def rotateDeviceCredential (db : Database) (tenantId deviceId : Uuid) (secret : Text) :
    Served (Text × Database) :=
  match db.tenants.find? tenantId with
  | none => .error tenantNotFound
  | some _ =>
      match (db.devices.find? deviceId).filter fun device => device.tenantId = tenantId with
      | none => .error (.apiError 404 "Device not found"
          (text "The requested device does not exist.") none)
      | some device => .ok (deviceToken runtime device.id secret,{ db with
          devices := db.devices.modify deviceId (Device.rotate (runtime.digest secret))
            (Device.rotate_id (runtime.digest secret)) })

def unauthorizedDevice (detail : String) : Refusal :=
  .apiError 401 "Unauthorized device" (text detail) none

/-- `raw_token.split(".", 1)` of a token with a dot. -/
def splitToken (rawToken : Text) : Text × Text :=
  let rawId := rawToken.takeWhile fun character => character ≠ 46
  (rawId,rawToken.drop (rawId.length + 1))

/-- `authenticate_device`. -/
def authenticateDevice (db : Database) (rawToken : Option Text) : Served Device :=
  match rawToken.filter fun token => decide (46 ∈ token) with
  | none => .error (unauthorizedDevice "A valid device token is required.")
  | some token =>
      match runtime.parse (splitToken token).1 with
      | none => .error (unauthorizedDevice "The device token is malformed.")
      | some deviceId =>
          -- the tenant of an active device, if it is active too
          match (db.devices.find? deviceId).filter fun device => device.status = .active &&
              (db.tenants.find? device.tenantId).any fun tenant => tenant.status = .active with
          | none => .error (unauthorizedDevice "The device token is invalid.")
          | some device =>
              if device.credentialHash = some (runtime.digest (splitToken token).2) then .ok device
              else .error (unauthorizedDevice "The device token is invalid.")

end Credentials

end Services

section Runs

inductive Request where
  | createTenant (request : TenantCreate)
  | createStoreZone (principal : Principal) (storeId : Uuid) (request : ZoneCreate)
  | registerStoreDevice (principal : Principal) (storeId : Uuid) (request : StoreDeviceCreate)
      (rawSecret : Text) (now : Time)
  | bulkOnboardStores (tenantId : Uuid) (idempotencyKey : Text)
      (request : BulkStoreOnboardingRequest) (now : Time)
  | rotateDeviceCredential (tenantId deviceId : Uuid) (secret : Text)

variable (runtime : Runtime)

def serve (db : Database) : Request → Served Database
  | .createTenant request => Prod.snd <$> createTenant db request
  | .createStoreZone principal storeId request =>
      Prod.snd <$> createStoreZone db principal storeId request
  | .registerStoreDevice principal storeId request rawSecret now =>
      (fun registered => registered.2.2) <$>
        registerStoreDevice runtime db principal storeId request rawSecret now
  | .bulkOnboardStores tenantId idempotencyKey request now =>
      Prod.snd <$> bulkOnboardStores runtime db tenantId idempotencyKey request now
  | .rotateDeviceCredential tenantId deviceId secret =>
      Prod.snd <$> rotateDeviceCredential runtime db tenantId deviceId secret

/-- Requests in the order in which they commit. -/
def onboardingMachine : Machine Database Request where
  initial db := db = {}
  next db request := some ((serve runtime db request).toOption.getD db)

end Runs

end Abacus.Onboarding

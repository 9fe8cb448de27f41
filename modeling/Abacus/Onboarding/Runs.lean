import Abacus.Onboarding.Bulk

/-! What every run of the onboarding services keeps.
The database is coherent after each request, and what a request has left is there after each later
one.
-/
set_option autoImplicit false

namespace Abacus.Onboarding

open Relational (Table)
open Python (Text text)
open Transition (Machine)

section Services

variable {runtime : Runtime} {db after : Database}

def OnboardingBatch.Complete (batch : OnboardingBatch) : Prop :=
  batch.status = .completed ∧ batch.succeededCount = batch.totalCount ∧ batch.failedCount = 0

structure Coherent (db : Database) : Prop where
  constraints : Constraints db
  settled : Settled db
  batches : ∀ batch ∈ db.onboardingBatches.rows, batch.Complete

structure Serves (db after : Database) : Prop where
  coherent : Coherent after
  extends_ : db.Extends after

/-- A request that leaves stores, zones, devices and batches as they are. -/
theorem Settled.unchanged (settled : Settled db) (stores : after.stores = db.stores)
    (zones : ∀ zone ∈ db.zones.rows, zone ∈ after.zones.rows) (devices : after.devices = db.devices)
    (assignments : after.deviceAssignments = db.deviceAssignments) : Settled after where
  stores store member := by
    rw [stores] at member
    intro kind needed
    obtain ⟨zone,place,same⟩ := settled.stores store member kind needed
    exact ⟨zone,zones zone place,same⟩
  devices device member := by
    rw [devices] at member
    rw [Database.AssignedOnce,assignments]
    exact settled.devices device member

theorem createTenant_spec {request : TenantCreate} {tenant : Tenant} (held : Coherent db)
    (done : createTenant db request = .ok (tenant,after)) :
    Serves db after ∧ after.devices = db.devices ∧
      ∀ row ∈ after.tenants.rows, row ∈ db.tenants.rows ∨ row.status = .active := by
  unfold createTenant at done
  split at done
  · split at done
    · cases done
      exact ⟨⟨held,.refl db⟩,rfl,fun _ => .inl⟩
    · cases done
  · dsimp only at done
    split at done
    · rename_i added
      cases done
      obtain ⟨keeps,tenants,rfl,rows⟩ := addTenant_spec held.constraints added
      exact ⟨⟨⟨keeps.constraints,held.settled.unchanged rfl (fun _ => id) rfl rfl,held.batches⟩,
        keeps.extends_⟩,rfl,linked_of_added rows rfl⟩
    · cases done

theorem storeInPrincipalTenant_spec {principal : Principal} {storeId : Uuid} {store : Store}
    (done : storeInPrincipalTenant db principal storeId = .ok store) :
    store ∈ db.stores.rows ∧ store.id = storeId ∧ store.tenantId = principal.tenantId ∧
      principal.canAccessStore .tenantConfigure storeId := by
  unfold storeInPrincipalTenant at done
  split at done
  · rename_i allowed
    split at done
    · rename_i found
      cases done
      obtain ⟨known,tenant⟩ := Option.filter_eq_some_iff.mp found
      exact ⟨Table.mem_of_find? known,Table.key_of_find? known,by simpa using tenant,allowed⟩
    · cases done
  · cases done

theorem createStoreZone_spec {principal : Principal} {storeId : Uuid} {request : ZoneCreate}
    {zone : Zone} (held : Coherent db)
    (done : createStoreZone db principal storeId request = .ok (zone,after)) :
    Serves db after ∧ after.devices = db.devices ∧ after.tenants = db.tenants := by
  obtain ⟨store,found,rest⟩ := served_bind.mp done
  obtain ⟨stored,-,-⟩ := storeInPrincipalTenant_spec found
  dsimp only at rest
  split at rest
  · rename_i added
    cases rest
    obtain ⟨keeps,zones,rfl,rows⟩ := addZone_spec held.constraints ⟨store,stored,rfl,rfl⟩ added
    exact ⟨⟨⟨keeps.constraints,held.settled.unchanged rfl (mem_of_added rows) rfl rfl,held.batches⟩,
      keeps.extends_⟩,rfl,rfl⟩
  · cases rest

/-- What is registered is installed in the zone that the request names, with the secret that is
given out. -/
theorem registerStoreDevice_spec {principal : Principal} {storeId : Uuid}
    {request : StoreDeviceCreate} {rawSecret token : Text} {now : Time} {device : Device}
    (held : Coherent db) (done : registerStoreDevice runtime db principal storeId request rawSecret
      now = .ok (device,token,after)) :
    Serves db after ∧ ∃ zone, Installs db after device zone now ∧ device.id = db.nextId ∧
      device.credentialHash = some (runtime.digest rawSecret) ∧ device.status = .active ∧
      token = deviceToken runtime device.id rawSecret := by
  obtain ⟨store,found,rest⟩ := served_bind.mp done
  obtain ⟨stored,-,-⟩ := storeInPrincipalTenant_spec found
  split at rest
  · cases rest
  · rename_i zone located
    dsimp only at rest
    split at rest
    · rename_i installed
      cases rest
      obtain ⟨known,place⟩ := Option.filter_eq_some_iff.mp located
      simp only [Bool.and_eq_true,decide_eq_true_eq] at place
      have installs := install_spec held.constraints rfl (held.constraints.stores store stored).1
        (Table.mem_of_find? known) place.1 installed
      refine ⟨⟨⟨installs.keeps.constraints,⟨?_,?_⟩,?_⟩,installs.keeps.extends_⟩,zone,installs,rfl,
        rfl,rfl,rfl⟩
      · rw [installs.stores]
        intro other member
        exact (held.settled.stores other member).extends installs.keeps.extends_
      · exact installs.assigned held.constraints rfl held.settled.devices
      · rw [installs.batches]
        exact held.batches
    · cases rest
    · cases rest

def Database.rotate (db : Database) (deviceId : Uuid) (hash : Text) : Database :=
  { db with devices := db.devices.modify deviceId (Device.rotate hash) (Device.rotate_id hash) }

theorem mem_rotate {deviceId : Uuid} {hash : Text} {row : Device} :
    row ∈ (db.rotate deviceId hash).devices.rows ↔ ∃ old ∈ db.devices.rows,
      row = if old.id = deviceId then old.rotate hash else old := by
  rw [Database.rotate,Table.modify,Table.mem_updateWhere]
  simp

theorem rotate_spec (held : Coherent db) (deviceId : Uuid) (hash : Text) :
    Serves db (db.rotate deviceId hash) := by
  have extends_ : db.Extends (db.rotate deviceId hash) :=
    { Database.Extends.refl db with
      devices := by
        intro row member
        refine ⟨if row.id = deviceId then row.rotate hash else row,mem_rotate.mpr ⟨row,member,rfl⟩,?_⟩
        by_cases chosen : row.id = deviceId <;> simp [chosen,Device.rotate] }
  refine ⟨⟨extends_.constraints held.constraints { held.constraints.indexes with
    serials := Table.indexed_modify held.constraints.indexes.serials _ (Device.rotate_id hash)
      fun _ => rfl } held.constraints.forest (fun _ => .inl) (fun _ => .inl) (fun _ => .inl) ?_
    (fun _ => .inl) (fun _ => .inl),⟨held.settled.stores,?_⟩,held.batches⟩,extends_⟩
  · intro row member
    obtain ⟨old,stored,rfl⟩ := mem_rotate.mp member
    split
    · exact .inr (held.constraints.devices old stored)
    · exact .inl stored
  · intro row member
    obtain ⟨old,stored,rfl⟩ := mem_rotate.mp member
    have assigned := held.settled.devices old stored
    split
    · exact assigned
    · exact assigned

theorem rotateDeviceCredential_spec {tenantId deviceId : Uuid} {secret token : Text}
    (done : rotateDeviceCredential runtime db tenantId deviceId secret = .ok (token,after)) :
    (∃ device ∈ db.devices.rows, device.id = deviceId) ∧
      token = deviceToken runtime deviceId secret ∧
      after = db.rotate deviceId (runtime.digest secret) := by
  unfold rotateDeviceCredential at done
  split at done
  · cases done
  split at done
  · cases done
  rename_i device located
  cases done
  obtain ⟨known,-⟩ := Option.filter_eq_some_iff.mp located
  have own := Table.key_of_find? known
  exact ⟨⟨device,Table.mem_of_find? known,own⟩,by rw [own],rfl⟩

theorem bulkOnboardStores_spec {tenantId : Uuid} {idempotencyKey : Text}
    {request : BulkStoreOnboardingRequest} {now : Time} {batch : OnboardingBatch}
    (held : Coherent db)
    (done : bulkOnboardStores runtime db tenantId idempotencyKey request now = .ok (batch,after)) :
    Serves db after ∧ idempotencyKey.strip ≠ [] ∧ db.hasTenant tenantId ∧
      batch ∈ after.onboardingBatches.rows ∧
      batch.keyIndex = some (tenantId,idempotencyKey.strip) ∧
      requestHash runtime request = some batch.requestHash ∧
      ((batch ∈ db.onboardingBatches.rows ∧ after = db) ∨
        Fulfilled runtime db tenantId idempotencyKey.strip request now batch after) := by
  unfold bulkOnboardStores at done
  split at done
  · cases done
  rename_i supplied
  obtain ⟨tenant,⟨found,hash,rfl⟩ | ⟨-,fulfilled⟩⟩ :=
    onboardStores_spec held.constraints held.settled done
  · obtain ⟨member,key⟩ := (Table.findBy_eq_some_iff held.constraints.indexes.batchKeys).mp found
    exact ⟨⟨held,.refl after⟩,supplied,tenant,member,key,hash,.inl ⟨member,rfl⟩⟩
  · obtain ⟨digest,hash,answer⟩ := fulfilled.answer
    refine ⟨⟨⟨fulfilled.keeps.constraints,fulfilled.settled,fun row member => ?_⟩,
      fulfilled.keeps.extends_⟩,supplied,tenant,mem_last fulfilled.batches,
      by rw [answer]; rfl,by rw [hash,answer]; rfl,.inr fulfilled⟩
    rw [fulfilled.batches] at member
    rcases List.mem_append.mp member with old | last
    · exact held.batches row old
    · rw [List.mem_singleton.mp last,answer]
      exact ⟨rfl,rfl,rfl⟩

theorem serve_spec {request : Request} (held : Coherent db)
    (done : serve runtime db request = .ok after) : Serves db after := by
  cases request with
  | createTenant request =>
      obtain ⟨⟨tenant,later⟩,served,rfl⟩ := map_eq_ok.mp done
      exact (createTenant_spec held served).1
  | createStoreZone principal storeId request =>
      obtain ⟨⟨zone,later⟩,served,rfl⟩ := map_eq_ok.mp done
      exact (createStoreZone_spec held served).1
  | registerStoreDevice principal storeId request rawSecret now =>
      obtain ⟨⟨device,token,later⟩,served,rfl⟩ := map_eq_ok.mp done
      exact (registerStoreDevice_spec held served).1
  | bulkOnboardStores tenantId idempotencyKey request now =>
      obtain ⟨⟨batch,later⟩,served,rfl⟩ := map_eq_ok.mp done
      exact (bulkOnboardStores_spec held served).1
  | rotateDeviceCredential tenantId deviceId secret =>
      obtain ⟨⟨token,later⟩,served,rfl⟩ := map_eq_ok.mp done
      obtain ⟨-,-,rfl⟩ := rotateDeviceCredential_spec served
      exact rotate_spec held deviceId _

end Services

section Runs

variable {runtime : Runtime} {db after : Database}

theorem empty_coherent : Coherent {} where
  constraints :=
    ⟨⟨Table.indexed_empty,Table.indexed_empty,Table.indexed_empty,Table.indexed_empty,
      Table.indexed_empty,Table.indexed_empty,Table.indexed_empty⟩,.nil,by simp,by simp,by simp,
      by simp,by simp,by simp⟩
  settled := ⟨by simp,by simp⟩
  batches := by simp

theorem next_spec {request : Request} (held : Coherent db)
    (taken : (onboardingMachine runtime).next db request = some after) : Serves db after := by
  cases taken
  cases served : serve runtime db request with
  | ok after => exact serve_spec held served
  | error refusal => exact ⟨held,.refl db⟩

theorem reachable_coherent (reachable : (onboardingMachine runtime).Reachable db) : Coherent db :=
  reachable.invariant (fun _ initial => initial ▸ empty_coherent)
    fun _ _ _ held taken => (next_spec held taken).coherent

theorem run_extends {requests : List Request} (reachable : (onboardingMachine runtime).Reachable db)
    (reached : (onboardingMachine runtime).run db requests = some after) : db.Extends after :=
  reachable.run_relation Database.Extends .refl (fun _ _ _ => .trans)
    (fun _ _ _ here taken => (next_spec (reachable_coherent here) taken).extends_) reached

theorem reachable_serve {request : Request} (reachable : (onboardingMachine runtime).Reachable db)
    (done : serve runtime db request = .ok after) : (onboardingMachine runtime).Reachable after :=
  reachable.take request (by simp [onboardingMachine,done,Except.toOption])

/-- A key that is used has one answer. -/
theorem bulkOnboardStores_again {tenantId : Uuid} {idempotencyKey : Text} {batch : OnboardingBatch}
    (held : Coherent db) (supplied : idempotencyKey.strip ≠ []) (tenant : db.hasTenant tenantId)
    (member : batch ∈ db.onboardingBatches.rows)
    (key : batch.keyIndex = some (tenantId,idempotencyKey.strip))
    {request : BulkStoreOnboardingRequest} {digest : Text}
    (hashed : requestHash runtime request = some digest) (now : Time) :
    bulkOnboardStores runtime db tenantId idempotencyKey request now =
      if digest = batch.requestHash then .ok (batch,db) else .error idempotencyKeyReused := by
  obtain ⟨row,stored,own⟩ := tenant
  have known : db.tenants.find? tenantId = some row :=
    (db.tenants.find?_eq_some_iff _ _).mpr ⟨stored,own⟩
  have found := (Table.findBy_eq_some_iff held.constraints.indexes.batchKeys).mpr ⟨member,key⟩
  rw [bulkOnboardStores,if_neg supplied,onboardStores,known,hashed]
  dsimp only
  rw [found]
  dsimp only
  by_cases same : digest = batch.requestHash
  · rw [if_pos same,if_neg (not_not_intro same.symm)]
  · rw [if_neg same,if_pos (Ne.symm same)]

/-- In every reachable state the constraints hold, every unit of the organization is at the end of
one line of units of its own tenant, none of which is above itself, every store has a sales floor
and a backroom, and every device is assigned to one zone of its tenant. -/
theorem onboarding_coherent (runtime : Runtime) {db : Database}
    (reachable : (onboardingMachine runtime).Reachable db) :
    Coherent db ∧ ∀ unit ∈ db.organizationUnits.rows, ∃ line, UnitLine db unit line ∧
      line.Nodup ∧ (∀ up ∈ line, up.tenantId = unit.tenantId) ∧
      ∀ other, UnitLine db unit other → other = line := by
  have held := reachable_coherent reachable
  refine ⟨held,fun unit member => ?_⟩
  obtain ⟨line,down⟩ := held.constraints.forest.exists_line unit member
  have keys := db.organizationUnits.unique
  exact ⟨line,down,down.nodup keys,UnitLine.tenant held.constraints down,fun other again =>
    again.unique keys down⟩

namespace Sample

/-- An identifier in unary notation, and digests that keep apart what the sample's runs keep
apart. -/
def onboardingRuntime : Runtime where
  upper value := value.map fun character => if 97 ≤ character ∧ character ≤ 122 then
    character - 32 else character
  lower value := value.map fun character => if 65 ≤ character ∧ character ≤ 90 then
    character + 32 else character
  listStr := List.flatten
  str id := List.replicate id 49
  parse value := if value.all fun character => character = 49 then some value.length else none
  digest value := text "sha256:" ++ value
  modelDump document := some document
  documentDigest
    | .object [(_,.array stores)] => List.replicate stores.length 97
    | _ => []
  zoneInfo value := decide (value = text "UTC")

def northStore : StoreFields where
  code := text "oslo-1"
  name := text "Oslo"
  timezone := text "UTC"
  organizationPath := [⟨text "nordics",text "Nordics",text "REGION"⟩,
    ⟨text "norway",text "Norway",text "COUNTRY"⟩]
  zones := [⟨text "floor",text "Floor",.salesFloor⟩,⟨text "back",text "Back",.backroom⟩]
  devices := [⟨text "RDR-1",text "Reader",text "back"⟩]

def southStore : StoreFields where
  code := text "aarhus-1"
  name := text "Aarhus"
  timezone := text "UTC"
  organizationPath := [⟨text "nordics",text "Nordics",text "REGION"⟩]
  zones := [⟨text "floor",text "Floor",.salesFloor⟩,⟨text "back",text "Back",.backroom⟩]

def request? : Option BulkStoreOnboardingRequest := validateBulk onboardingRuntime [northStore,southStore]

theorem request_valid : request?.isSome = true := by decide +kernel

/-- Two stores, one of them in a unit below that of the other. -/
def request : BulkStoreOnboardingRequest := request?.get request_valid

theorem take_one_ne_nil {stores : List StoreCreate} (supplied : stores ≠ []) :
    stores.take 1 ≠ [] := by
  cases stores with
  | nil => exact absurd rfl supplied
  | cons store rest => exact List.cons_ne_nil store _

def otherRequest : BulkStoreOnboardingRequest where
  stores := request.stores.take 1
  supplied := take_one_ne_nil request.supplied
  storeCodes := request.storeCodes.sublist ((List.take_sublist 1 _).map _)
  serials := request.serials.sublist ((List.take_sublist 1 _).flatMap _)

theorem request_same : request.Same onboardingRuntime request :=
  List.forall₂_same.mpr fun _ _ => ⟨rfl,rfl,rfl,rfl,rfl,rfl,rfl⟩

theorem digests_differ :
    ((canonical onboardingRuntime request).bind fun document =>
      (canonical onboardingRuntime otherRequest).map fun another => decide
        (onboardingRuntime.documentDigest another = onboardingRuntime.documentDigest document)) =
          some false := by
  decide +kernel

def idempotencyKey : Text := text " first "

def opened : Database :=
  ((onboardingMachine onboardingRuntime).run {} [.createTenant ⟨text "acme",text "Acme"⟩]).getD {}

def served : Served (OnboardingBatch × Database) :=
  bulkOnboardStores onboardingRuntime opened 0 idempotencyKey request (seconds 5)

theorem served_count : served.toOption.map (fun done => done.1.totalCount) = some 2 := by
  decide +kernel

theorem served_ok : served.toOption.isSome = true := by
  have counted := congrArg Option.isSome served_count
  rwa [Option.isSome_map] at counted

def fulfilled : OnboardingBatch × Database := served.toOption.get served_ok

def furtherRequests : List Request :=
  [.rotateDeviceCredential 0 7 (text "s3cret"),.createTenant ⟨text "globex",text "Globex"⟩]

theorem served_eq : served = .ok (fulfilled.1,fulfilled.2) := eq_ok_of_isSome served_ok

theorem opened_reachable : (onboardingMachine onboardingRuntime).Reachable opened :=
  ⟨{},[.createTenant ⟨text "acme",text "Acme"⟩],rfl,
    Machine.run_getD (Machine.run_total (fun _ _ => rfl) _ _)⟩

theorem served_next : (onboardingMachine onboardingRuntime).next opened
    (.bulkOnboardStores 0 idempotencyKey request (seconds 5)) = some fulfilled.2 := by
  have done := served_eq
  unfold served at done
  simp [onboardingMachine,serve,done,Except.toOption]

def later : Database := ((onboardingMachine onboardingRuntime).run fulfilled.2 furtherRequests).getD fulfilled.2

theorem later_reached : (onboardingMachine onboardingRuntime).run fulfilled.2 furtherRequests =
    some later :=
  Machine.run_getD (Machine.run_total (fun _ _ => rfl) _ _)

end Sample

theorem onboarding_coherent_sample :
    Coherent Sample.later ∧ ∀ unit ∈ Sample.later.organizationUnits.rows, ∃ line,
      UnitLine Sample.later unit line ∧ line.Nodup ∧ (∀ up ∈ line, up.tenantId = unit.tenantId) ∧
      ∀ other, UnitLine Sample.later unit other → other = line :=
  onboarding_coherent Sample.onboardingRuntime (Sample.opened_reachable.step Sample.served_next |>.after
    Sample.later_reached)

end Runs

end Abacus.Onboarding

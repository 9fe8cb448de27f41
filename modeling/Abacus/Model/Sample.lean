import Abacus.Model.EventWorker
import Abacus.Model.Security

/-! One small tenant: a store with a backroom and a sales floor, a reader in each, and one tag. -/
set_option autoImplicit false

namespace Abacus.Sample

open Relational (Table)

/-- Digests that keep apart what the sample's runs keep apart. -/
def platform : Platform where
  observationFingerprint event := event.epc ++ toString event.observedAt ++ toString event.zoneId
  removalFingerprint storeId source external _ epc _ utcOffset _ :=
    toString storeId ++ source ++ external ++ epc ++ toString utcOffset
  transitionId _ epc version := 1000 * version + epc.length
  casefold text := text
  decay _ _ := 1

/-- One read confirms a zone and one failure exhausts an attempt. -/
def settings : Settings := { rfidMoveConfirmationReads := 1, workerMaxAttempts := 1 }

theorem certain_range : (0 : ℚ) ≤ 1 ∧ (1 : ℚ) ≤ 1 := by norm_num

def certain : Confidence := ⟨1,certain_range⟩

theorem firstVersion : 1 ≤ 1 := Nat.le_refl 1

def storeId : Uuid := 1
def backroomId : Uuid := 10
def floorId : Uuid := 11
def skuId : Uuid := 7
def backroomReader : Uuid := 20
def floorReader : Uuid := 21
def tag : Epc := "urn:epc:1"

def backroom : Bucket := ⟨storeId,skuId,backroomId⟩
def floor : Bucket := ⟨storeId,skuId,floorId⟩

def assignment (id deviceId zoneId : Uuid) : DeviceAssignment :=
  { id, deviceId, storeId, zoneId, effectiveFrom := 0, effectiveTo := none }

def registry : Registry where
  tenantId := 3
  stores := ⟨[⟨storeId,.active⟩],by decide⟩
  zones := ⟨[⟨backroomId,storeId,.backroom⟩,⟨floorId,storeId,.salesFloor⟩],by decide⟩
  devices := ⟨[⟨backroomReader,.active⟩,⟨floorReader,.active⟩],by decide⟩
  deviceAssignments :=
    ⟨[assignment 30 backroomReader backroomId,assignment 31 floorReader floorId],by decide⟩
  epcBindings := ⟨[⟨40,tag,skuId,0,none⟩],by decide⟩
  products := ⟨[⟨50,"style","shirts",true⟩],by decide⟩
  productVariants := ⟨[⟨51,50⟩],by decide⟩
  skus := ⟨[⟨skuId,51,"M",true⟩],by decide⟩

def emptyIngress : Ingress where
  batches := Table.empty
  ledger := Table.empty
  links := Table.empty
  outbox := Table.empty
  quarantine := Table.empty
  acceptanceSequence := 0

def emptyInventory : Inventory where
  items := Table.empty
  transitions := Table.empty
  projections := Table.empty
  applied := Table.empty
  businessEvents := Table.empty

def emptyRecent : RecentObservationState where
  windows := Table.empty
  eventIds := Table.empty

def database : Database where
  registry := registry
  ingress := emptyIngress
  connectivity := Table.empty
  inventory := emptyInventory
  replenishment := ⟨Table.empty,Table.empty,by intro first member; cases member⟩
  policies := ⟨Table.empty,Table.empty⟩

def manager : Principal where
  userId := 60
  tenantId := registry.tenantId
  roleScopes := [⟨.canonical .storeManager,some storeId⟩]

def rule : PolicyRule where
  id := 70
  versionId := 71
  storeId := none
  category := none
  styleCode := none
  skuId := none
  size := none
  minFloorQty := 5
  targetFloorQty := 10
  priority := 0

def live : StoreConnectivity where
  storeId := storeId
  gatewayLastHeartbeat := some 0
  statusReceivedAt := 0
  lastLiveEventAt := some 0
  lastLiveReceivedAt := some 0
  backlogDrained := true
  readerCoverageOk := true
  freshnessStatus := .live

def policies : Policies := ⟨⟨[⟨71,72,1,.active⟩],by decide⟩,⟨[rule],by decide⟩⟩

def liveStore : Connectivity := ⟨[live],by decide⟩

def taskId (skuId : Uuid) : Uuid := 80 + skuId

def clock (now : Time) : Clock := ⟨now,now,now,now⟩

def batch (reader : Uuid) (eventId : EventId) (observedAt : Time) : ObservationBatchCreate :=
  { deviceId := reader
    observations := [{ eventId, epc := tag, observedAt, rssi := -50 }]
    sized := by simp
    uniqueEvents := by simp }

def accept (db : Database) (reader : Uuid) (eventId : EventId) (observedAt : Time)
    (batchId : Uuid) : Database :=
  match acceptObservationBatch platform db.registry db.ingress db.connectivity ⟨reader,.active⟩
      (batch reader eventId observedAt) observedAt batchId with
  | .ok (ingress,connectivity) => { db with ingress, connectivity }
  | .error _ => db

def read (reader : Uuid) (zoneId : Uuid) (eventId : EventId) (observedAt : Time)
    (batchId : Uuid) : RfidObservationEvent :=
  { tenantId := registry.tenantId, batchId, eventId, deviceId := reader, storeId, zoneId,
    epc := tag, observedAt, receivedAt := observedAt, rssi := -50, readerHealth := certain }

end Abacus.Sample

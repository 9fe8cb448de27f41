import Abacus.Inventory.Pipeline
import Abacus.Replenishment.Evaluation

/-! What the confidence guard of an evaluation says about the stock.
The guard sees a bucket only through its projection row. An item whose bucket has no row yet is
invisible to it, and with a minimum of zero so is a count that differs.
-/
set_option autoImplicit false

namespace Abacus

open Relational (Table OrderedDict)
open Transition (Machine)

section Outcomes

variable {platform : Platform} {rules : List PolicyRule} {storeId taskId : Uuid}
  {minimumConfidence : ℚ} {active : Option ReplenishmentTask} {snapshot : InventorySnapshot}
  {outcome : EvaluationOutcome}

/-- A rule asks for something, and no claimed task defers it. -/
def InventorySnapshot.Requests (platform : Platform) (rules : List PolicyRule) (storeId : Uuid)
    (minimumConfidence : ℚ) (active : Option ReplenishmentTask) (snapshot : InventorySnapshot) : Prop :=
  minimumConfidence ≤ snapshot.confidence ∧ ∃ rule,
    selectPolicyRule platform rules storeId snapshot.item = .ok (some rule) ∧
      0 < snapshot.shortage rule active ∧ ∀ task ∈ active, task.status = .open

theorem decideTask_activeAfter_ne_iff (rule : PolicyRule) :
    (decideTask storeId active taskId snapshot rule).activeAfter active ≠ active ↔
      0 < snapshot.shortage rule active ∧ ∀ task ∈ active, task.status = .open := by
  by_cases positive : 0 < snapshot.shortage rule active
  · cases active with
    | none =>
        rw [decideTask_created positive]
        exact ⟨fun _ => ⟨positive,fun _ member => (by cases member)⟩,fun _ same => by cases same⟩
    | some task =>
        by_cases opened : task.status = .open
        · rw [decideTask_grown positive opened]
          refine ⟨fun _ => ⟨positive,fun _ member => (by cases member; exact opened)⟩,fun _ same => ?_⟩
          have larger := congrArg ReplenishmentTask.quantity (Option.some.inj same)
          change task.quantity + _ = task.quantity at larger
          omega
        · rw [decideTask_deferred positive opened]
          exact ⟨fun differ => absurd rfl differ,fun all => absurd (all.2 task rfl) opened⟩
  · rw [decideTask_covered positive]
    exact ⟨fun differ => absurd rfl differ,fun all => absurd all.1 positive⟩

/-- An outcome changes the active task of its SKU exactly if the SKU requests. -/
theorem evaluateSnapshot_activeAfter_ne_iff
    (evaluated : evaluateSnapshot platform rules storeId minimumConfidence active taskId snapshot =
      .ok outcome) :
    outcome.activeAfter active ≠ active ↔
      snapshot.Requests platform rules storeId minimumConfidence active := by
  unfold evaluateSnapshot at evaluated
  split at evaluated
  · rename_i low
    cases evaluated
    exact ⟨fun differ => absurd rfl differ,fun requests => absurd low (not_lt.mpr requests.1)⟩
  · rename_i enough
    split at evaluated
    · cases evaluated
    · rename_i unmatched
      cases evaluated
      refine ⟨fun differ => absurd rfl differ,?_⟩
      rintro ⟨-,rule,selected,-⟩
      rw [unmatched] at selected
      cases selected
    · rename_i rule selected
      cases evaluated
      rw [decideTask_activeAfter_ne_iff rule]
      constructor
      · exact fun asked => ⟨not_lt.mp enough,rule,selected,asked⟩
      · rintro ⟨-,other,same,asked⟩
        rw [selected] at same
        cases same
        exact asked

end Outcomes

section Buckets

variable {platform : Platform} {settings : Settings} {db : Database}
  {request : ReplenishmentEvaluationCreate} {evaluatedAt : Time} {snapshot : InventorySnapshot}

theorem absorb_confidence_le (readings : List BucketReading) (start : InventorySnapshot) :
    (readings.foldl InventorySnapshot.absorb start).confidence ≤ start.confidence ∧
      ∀ reading ∈ readings,
        (readings.foldl InventorySnapshot.absorb start).confidence ≤ reading.confidence := by
  induction readings generalizing start with
  | nil => exact ⟨le_rfl,fun _ member => (by cases member)⟩
  | cons reading readings ih =>
      obtain ⟨below,each⟩ := ih (start.absorb reading)
      have absorbed : (start.absorb reading).confidence = min start.confidence reading.confidence := rfl
      rw [absorbed] at below
      refine ⟨below.trans (min_le_left _ _),?_⟩
      intro other member
      rcases List.mem_cons.mp member with rfl | member
      · exact below.trans (min_le_right _ _)
      · exact each other member

theorem snapshotOf_confidence_le {readings : List BucketReading}
    (found : snapshotOf readings = some snapshot) {reading : BucketReading}
    (member : reading ∈ readings) : snapshot.confidence ≤ reading.confidence := by
  cases readings with
  | nil => cases member
  | cons first readings =>
      cases found
      exact (absorb_confidence_le (first :: readings) _).2 reading member

theorem mem_inventorySnapshots
    (member : snapshot ∈ inventorySnapshots platform settings db request evaluatedAt) :
    snapshotOf ((bucketReadings platform settings db request evaluatedAt).filter fun reading =>
      reading.item.skuId = snapshot.item.skuId) = some snapshot := by
  obtain ⟨group,listed,found⟩ := List.mem_filterMap.mp member
  obtain ⟨⟨skuId,readings⟩,entry,rfl⟩ := List.mem_map.mp listed
  obtain ⟨same,-⟩ := OrderedDict.mem_groupBy entry
  obtain ⟨reading,place,item⟩ := snapshotOf_item found
  have keyed : reading.item.skuId = skuId := by
    rw [same] at place
    simpa using (List.mem_filter.mp place).2
  rw [item,keyed,← same]
  exact found

/-- The joins of a row that was read. -/
theorem readBucket_eq_some {projection : InventoryProjection} {reading : BucketReading}
    (read : readBucket platform settings db evaluatedAt projection = some reading) :
    ∃ zone sku variant product, db.registry.zones.find? projection.zoneId = some zone ∧
      db.registry.skus.find? projection.skuId = some sku ∧
      db.registry.productVariants.find? sku.productVariantId = some variant ∧
      db.registry.products.find? variant.productId = some product ∧
      (sku.active && product.active) = true ∧ reading.item.skuId = projection.skuId := by
  obtain ⟨zone,zoneFound,read⟩ := Option.bind_eq_some_iff.mp read
  obtain ⟨sku,skuFound,read⟩ := Option.bind_eq_some_iff.mp read
  obtain ⟨variant,variantFound,read⟩ := Option.bind_eq_some_iff.mp read
  obtain ⟨product,productFound,read⟩ := Option.bind_eq_some_iff.mp read
  split at read
  · rename_i kept
    cases read
    have keyed : sku.id = projection.skuId := Table.key_of_find? skuFound
    exact ⟨zone,sku,variant,product,zoneFound,skuFound,variantFound,productFound,
      (Bool.and_eq_true_iff.mp kept).1,keyed⟩
  · cases read

/-- If one row of a SKU is read, so is its row of every zone on the floor or in the backroom. -/
theorem readBucket_of_sku {projection other : InventoryProjection} {reading : BucketReading}
    (read : readBucket platform settings db evaluatedAt projection = some reading)
    (sku : other.skuId = projection.skuId) {zone : Zone}
    (zoneFound : db.registry.zones.find? other.zoneId = some zone)
    (kind : zone.kind = .salesFloor ∨ zone.kind = .backroom) :
    ∃ reading, readBucket platform settings db evaluatedAt other = some reading ∧
      reading.item.skuId = other.skuId ∧
      reading.confidence = effectiveBucketConfidence other.quantity
        ((currentInventoryBucketMetadata platform settings db.inventory.items evaluatedAt
          other.bucket).map BucketMetadata.itemCount)
        ((currentInventoryBucketMetadata platform settings db.inventory.items evaluatedAt
          other.bucket).bind BucketMetadata.confidence) := by
  obtain ⟨_,stored,variant,product,-,skuFound,variantFound,productFound,active,-⟩ :=
    readBucket_eq_some read
  rw [← sku] at skuFound
  have kinds : (decide (zone.kind = .salesFloor) || decide (zone.kind = .backroom)) = true := by
    rcases kind with kind | kind <;> simp [kind]
  unfold readBucket
  simp only [zoneFound,skuFound,variantFound,productFound,active,kinds,bind,Option.bind_some,
    Bool.and_self,if_true]
  have keyed : stored.id = other.skuId := Table.key_of_find? skuFound
  exact ⟨_,rfl,keyed,rfl⟩

/-- A bucket that passes the guard is as counted, unless the minimum lets a mismatch pass. -/
theorem effectiveBucketConfidence_sound {minimumConfidence : ℚ} {quantity : ℤ} {bucket : Bucket}
    (enough : minimumConfidence ≤ effectiveBucketConfidence quantity
      ((currentInventoryBucketMetadata platform settings db.inventory.items evaluatedAt
        bucket).map BucketMetadata.itemCount)
      ((currentInventoryBucketMetadata platform settings db.inventory.items evaluatedAt
        bucket).bind BucketMetadata.confidence))
    (guarded : 0 < minimumConfidence ∨ quantity = (bucketItems db.inventory.items bucket).length) :
    quantity = (bucketItems db.inventory.items bucket).length ∧
      ∀ state ∈ bucketItems db.inventory.items bucket,
        minimumConfidence ≤ effectiveConfidence platform settings evaluatedAt state := by
  unfold currentInventoryBucketMetadata at enough
  cases items : bucketItems db.inventory.items bucket with
  | nil =>
      rw [items] at enough guarded
      refine ⟨?_,fun _ member => (by cases member)⟩
      rcases guarded with positive | same
      · by_contra differ
        have unequal : ¬quantity = 0 := differ
        have zero : minimumConfidence ≤ 0 := by
          simpa [effectiveBucketConfidence,unequal] using enough
        exact absurd positive (not_lt.mpr zero)
      · exact same
  | cons state states =>
      rw [items] at enough guarded
      obtain ⟨least,found⟩ : ∃ least, ((state :: states).map
          (effectiveConfidence platform settings evaluatedAt)).min? = some least :=
        Option.isSome_iff_exists.mp (by simp)
      simp only [Option.map_some,Option.bind_some,effectiveBucketConfidence] at enough
      rw [found] at enough
      change minimumConfidence ≤ if _ then _ else _ at enough
      have counted : quantity = (state :: states).length := by
        rcases guarded with positive | same
        · by_contra differ
          rw [if_pos differ] at enough
          exact absurd positive (not_lt.mpr enough)
        · exact same
      refine ⟨counted,?_⟩
      rw [if_neg (not_not.mpr counted)] at enough
      intro item member
      have below := (List.min?_eq_some_iff.mp found).2 _
        (List.mem_map_of_mem (f := effectiveConfidence platform settings evaluatedAt) member)
      exact enough.trans below

end Buckets

section Evaluations

variable (platform : Platform) (settings : Settings) (db : Database) (principal : Principal)
  (request : ReplenishmentEvaluationCreate) (minimumConfidence : ℚ) (evaluatedAt : Time)
  (taskId : Uuid → Uuid)

/-- The store is live and every bucket of the SKU on its floor and in its backroom is as counted,
from confident item states. -/
structure StockSettled (storeId skuId : Uuid) : Prop where
  live : effectiveFreshness (db.connectivity.find? storeId) settings evaluatedAt = .live
  buckets : ∀ zone ∈ db.registry.zones.rows, zone.storeId = storeId →
    zone.kind = .salesFloor ∨ zone.kind = .backroom →
      db.inventory.quantity ⟨storeId,skuId,zone.id⟩ =
        (bucketItems db.inventory.items ⟨storeId,skuId,zone.id⟩).length ∧
      ∀ state ∈ bucketItems db.inventory.items ⟨storeId,skuId,zone.id⟩,
        minimumConfidence ≤ effectiveConfidence platform settings evaluatedAt state

/-- The evaluation changes the active task of a SKU only on settled stock. -/
def RequestsOnSettledStock : Prop :=
  ∀ result replenishment, evaluateReplenishment platform settings db principal request
      minimumConfidence evaluatedAt taskId = .ok (result,replenishment) →
    ∀ storeId skuId, replenishment.activeTask storeId skuId ≠
        db.replenishment.activeTask storeId skuId →
      StockSettled platform settings db minimumConfidence evaluatedAt storeId skuId

/-- For a SKU that requests, every bucket with items has a projection row, and the minimum is positive
unless the row's quantity is the count. -/
def RequestsOnProjectedStock : Prop :=
  EvaluationOpens settings db principal request evaluatedAt →
    RulesSelect platform settings db request minimumConfidence evaluatedAt →
    ∀ snapshot ∈ inventorySnapshots platform settings db request evaluatedAt,
      snapshot.Requests platform (activeRules db.policies) request.storeId minimumConfidence
        (db.replenishment.activeTask request.storeId snapshot.item.skuId) →
      ∀ zone ∈ db.registry.zones.rows, zone.storeId = request.storeId →
        zone.kind = .salesFloor ∨ zone.kind = .backroom →
          match db.inventory.projections.find? ⟨request.storeId,snapshot.item.skuId,zone.id⟩ with
          | none =>
              bucketItems db.inventory.items ⟨request.storeId,snapshot.item.skuId,zone.id⟩ = []
          | some projection => 0 < minimumConfidence ∨ projection.quantity =
              (bucketItems db.inventory.items
                ⟨request.storeId,snapshot.item.skuId,zone.id⟩).length

variable {platform settings db principal request minimumConfidence evaluatedAt taskId}

/-- The guard accepted every row of the snapshot's SKU. -/
theorem confidence_le_of_projection {snapshot : InventorySnapshot}
    (member : snapshot ∈ inventorySnapshots platform settings db request evaluatedAt)
    (enough : minimumConfidence ≤ snapshot.confidence) {zone : Zone}
    (listed : zone ∈ db.registry.zones.rows)
    (kind : zone.kind = .salesFloor ∨ zone.kind = .backroom) {projection : InventoryProjection}
    (found : db.inventory.projections.find? ⟨request.storeId,snapshot.item.skuId,zone.id⟩ =
      some projection) :
    minimumConfidence ≤ effectiveBucketConfidence projection.quantity
      ((currentInventoryBucketMetadata platform settings db.inventory.items evaluatedAt
        projection.bucket).map BucketMetadata.itemCount)
      ((currentInventoryBucketMetadata platform settings db.inventory.items evaluatedAt
        projection.bucket).bind BucketMetadata.confidence) := by
  have keyed : projection.bucket = ⟨request.storeId,snapshot.item.skuId,zone.id⟩ :=
    Table.key_of_find? found
  have store : projection.storeId = request.storeId := congrArg Bucket.storeId keyed
  have sku : projection.skuId = snapshot.item.skuId := congrArg Bucket.skuId keyed
  have place : projection.zoneId = zone.id := congrArg Bucket.zoneId keyed
  have grouped := mem_inventorySnapshots member
  -- Some row of the SKU was read, so the SKU's own joins succeed for this one too.
  obtain ⟨first,inside,item⟩ := snapshotOf_item grouped
  obtain ⟨other,selected,read⟩ := List.mem_filterMap.mp (List.mem_filter.mp inside).1
  obtain ⟨_,_,_,_,-,-,-,-,-,same⟩ := readBucket_eq_some read
  have otherSku : projection.skuId = other.skuId := by rw [sku,item,same]
  obtain ⟨reading,readHere,readSku,confidence⟩ := readBucket_of_sku read otherSku
    (by rw [place]; exact Table.find?_of_mem listed) kind
  have requested : projection ∈ db.inventory.projections.select fun projection =>
      decide (projection.storeId = request.storeId) &&
        (request.skuIds.isEmpty || decide (projection.skuId ∈ request.skuIds)) := by
    have wanted := (Table.mem_select.mp selected).2
    rw [Bool.and_eq_true,← otherSku] at wanted
    exact Table.mem_select.mpr ⟨Table.mem_of_find? found,by simp [store,wanted.2]⟩
  have included : reading ∈ (bucketReadings platform settings db request evaluatedAt).filter
      fun reading => reading.item.skuId = snapshot.item.skuId :=
    List.mem_filter.mpr ⟨List.mem_filterMap.mpr ⟨projection,requested,readHere⟩,
      by simp [readSku,sku]⟩
  rw [← confidence]
  exact enough.trans (snapshotOf_confidence_le grouped included)

end Evaluations

namespace Sample

def otherTag : Epc := "urn:epc:22"

def otherRead : RfidObservationEvent :=
  { read floorReader floorId "b" 20000000 101 with epc := otherTag }

/-- A live store with a policy, two tags of one SKU, and a read of each. -/
def twoTags : PipelineState where
  database := { accept (accept { database with
      registry := { registry with
        epcBindings := ⟨[⟨40,tag,skuId,0,none⟩,⟨41,otherTag,skuId,0,none⟩],by decide⟩ }
      policies := policies }
    backroomReader "a" 1000000 100) floorReader "b" 20000000 101 with
      connectivity := liveStore }
  recent := emptyRecent

/-- One tag is projected in the backroom; the other is on the floor, its transition still pending. -/
def halfProjected : PipelineState :=
  ((pipeline platform settings).run twoTags
    [.observe (read backroomReader backroomId "a" 1000000 100) (clock 1000000) 200 300,
     .apply 1009 2000000,
     .observe otherRead (clock 20000000) 201 301]).getD twoTags

end Sample

namespace Sample

def oneProjected : PipelineState :=
  ((pipeline platform settings).run twoTags
    [.observe (read backroomReader backroomId "a" 1000000 100) (clock 1000000) 200 300,
     .apply 1009 2000000]).getD twoTags

theorem oneProjected_projected : RequestsOnProjectedStock platform settings oneProjected.database
    manager ⟨storeId,[]⟩ (7 / 10) 2000000 := by
  intro _ _ snapshot member _ zone listed _ _
  have projected : ∀ snapshot ∈ inventorySnapshots platform settings oneProjected.database
      ⟨storeId,[]⟩ 2000000, ∀ zone ∈ oneProjected.database.registry.zones.rows,
        (oneProjected.database.inventory.projections.find? ⟨storeId,snapshot.item.skuId,zone.id⟩).isSome ∨
          bucketItems oneProjected.database.inventory.items ⟨storeId,snapshot.item.skuId,zone.id⟩ = [] := by
    decide +kernel
  split
  · rename_i absent
    rcases projected snapshot member zone listed with stored | empty
    · rw [absent] at stored
      cases stored
    · exact empty
  · exact .inl (by norm_num)

end Sample

end Abacus
